import VirtualCamera.Relay.ProducerDescriptor

set_option autoImplicit false

namespace VirtualCamera

def ProducerMode.pack (mode : ProducerMode) : PackedMode where
  id := mode.id
  width := mode.width
  height := mode.height
  minFps := mode.minFps
  maxFps := mode.maxFps
  downscale := if mode.downscale then 1 else 0
  formats := mode.formats

theorem ProducerMode.pack_ints (mode : ProducerMode) : mode.pack.ints = mode.packed := rfl

theorem ProducerMode.pack_read (mode : ProducerMode) : mode.pack.read = mode := by
  obtain ⟨id, width, height, minFps, maxFps, formats, downscale⟩ := mode
  cases downscale <;> rfl

theorem ProducerMode.pack_sized (mode : ProducerMode) (valid : mode.valid = true) : mode.pack.Sized := by
  rw [ProducerMode.valid, decide_eq_true_iff] at valid
  obtain ⟨_, _, _, _, _, _, _, _, _, _, _, nonempty, few, _⟩ := valid
  exact ⟨List.length_pos_iff.mpr nonempty, few⟩

namespace ProducerCapabilities

def packed (caps : ProducerCapabilities) : PackedDescriptor where
  facing := caps.facing
  orientation := caps.orientation
  maxStreams := caps.maxStreams
  modes := caps.modes.map ProducerMode.pack

theorem packed_wellFormed (caps : ProducerCapabilities) (valid : caps.valid = true) :
    caps.packed.WellFormed := by
  rw [ProducerCapabilities.valid, decide_eq_true_iff] at valid
  obtain ⟨_, nonempty, few, _, _, _, _, _, _, modes⟩ := valid
  refine ⟨?_, ?_, fun packed member => ?_⟩
  · rw [ProducerCapabilities.packed, List.length_map]
    exact List.length_pos_iff.mpr nonempty
  · simpa [ProducerCapabilities.packed] using few
  · obtain ⟨mode, inside, rfl⟩ := List.mem_map.mp member
    exact mode.pack_sized (modes mode inside)

theorem packed_ints (caps : ProducerCapabilities) :
    caps.packed.ints = [caps.facing, caps.orientation, caps.maxStreams, (caps.modes.length : Int)] ++
      caps.modes.flatMap ProducerMode.packed := by
  have entries : (fun mode : ProducerMode => mode.pack.ints) = ProducerMode.packed :=
    funext ProducerMode.pack_ints
  simp only [PackedDescriptor.ints, ProducerCapabilities.packed, List.length_map, List.flatMap_map, entries]

theorem packed_read (caps : ProducerCapabilities) : caps.packed.read caps.registration = caps := by
  have entries : PackedMode.read ∘ ProducerMode.pack = id := funext ProducerMode.pack_read
  simp [PackedDescriptor.read, ProducerCapabilities.packed, entries]

end ProducerCapabilities

namespace ProducerDescriptor

variable {slot registration : Int} {index : Slot}

theorem parseDescriptor_eq (valid : validSlot slot = some index) (positive : 0 < registration)
    (v : List Int) : parseDescriptor slot registration (some v) = parseArray registration v := by
  simp only [parseDescriptor, valid, if_neg (not_le.mpr positive)]

theorem parseDescriptor_inside (slot registration : Int) (packed : Option (List Int)) :
    parseDescriptor slot registration packed ≠ .error .outside := by
  unfold parseDescriptor
  split
  next v valid =>
    split
    · nofun
    · exact parseArray_inside registration v
  next => nofun

structure Carried (config : VirtualCameraConfig) (registration : Int) (descriptor : ProducerCapabilities) :
    Prop where
  registration_eq : descriptor.registration = registration
  facing_eq : descriptor.facing = config.facing
  orientation_eq : descriptor.orientation = config.orientation
  maxStreams_eq : descriptor.maxStreams = config.maxOutputStreams
  modes_eq : config.modes = some (descriptor.modes.map fun mode => some mode.source)
  valid : descriptor.valid = true

theorem normalized_carried (valid : validSlot slot = some index) (positive : 0 < registration)
    (supplied : Option VirtualCameraConfig) (config : VirtualCameraConfig)
    (accepted : VirtualCameraConfig.normalize supplied = .ok config) :
    ∃ packed descriptor, config.pack = some packed ∧
      parseDescriptor slot registration (some packed) = .ok descriptor ∧
      Carried config registration descriptor := by
  obtain ⟨modes, normalized⟩ := VirtualCameraConfig.normalize_ok supplied config accepted
  let caps : ProducerCapabilities :=
    { registration, facing := config.facing, orientation := config.orientation
      maxStreams := config.maxOutputStreams, modes }
  have held : caps.valid = true := normalized.valid registration positive
  refine ⟨caps.packed.ints, caps, ?_, ?_, rfl, rfl, rfl, rfl, normalized.modes_eq, held⟩
  · rw [caps.packed_ints]
    exact VirtualCameraConfig.pack_normalized config modes normalized
  · rw [parseDescriptor_eq valid positive, parseArray_ints _ _ (caps.packed_wellFormed held)]
    exact congrArg _ caps.packed_read

theorem descriptor_pipeline (slot registration : Int) (index : Slot)
    (valid : validSlot slot = some index) (positive : 0 < registration) :
    (∀ supplied config, VirtualCameraConfig.normalize supplied = .ok config →
      ∃ packed descriptor, config.pack = some packed ∧
        parseDescriptor slot registration (some packed) = .ok descriptor ∧
        Carried config registration descriptor) ∧
      (∀ v, (∃ descriptor, parseDescriptor slot registration (some v) = .ok descriptor) ↔
        ∃ packed : PackedDescriptor, packed.WellFormed ∧ v = packed.ints) ∧
      ∀ anySlot anyRegistration v, parseDescriptor anySlot anyRegistration v ≠ .error .outside := by
  refine ⟨normalized_carried valid positive, fun v => ?_, parseDescriptor_inside⟩
  rw [parseDescriptor_eq valid positive]
  exact parseArray_ok_iff registration v

def legacyConfig : VirtualCameraConfig := { supportedFormats := some [1] }

theorem descriptor_pipeline_legacy :
    ∃ config packed descriptor, VirtualCameraConfig.normalize (some legacyConfig) = .ok config ∧
      config.pack = some packed ∧ parseDescriptor 1 1000 (some packed) = .ok descriptor ∧
      Carried config 1000 descriptor := by
  have accepted : VirtualCameraConfig.normalize (some legacyConfig) =
      .ok { legacyConfig with modes := some [some legacyConfig.legacyMode] } := by rfl
  obtain ⟨packed, descriptor, made, parsed, carried⟩ :=
    (descriptor_pipeline 1 1000 1 (by decide) (by decide)).1 _ _ accepted
  exact ⟨_, packed, descriptor, accepted, made, parsed, carried⟩

end ProducerDescriptor

end VirtualCamera
