import VirtualCamera.Core.ProducerCapabilities

set_option autoImplicit false

namespace VirtualCamera

-- The service's `android.hardware.virtualcamera.ProducerMode`; a Java array may be null.
structure SourceMode where
  id : Int := 0
  width : Int := 0
  height : Int := 0
  minFps : Int := 0
  maxFps : Int := 0
  outputFormats : Option (List Int) := none
  allowDownscale : Bool := false
deriving DecidableEq, Repr

structure VirtualCameraConfig where
  maxWidth : Int := 3840
  maxHeight : Int := 2160
  maxFps : Int := 60
  supportedFormats : Option (List Int) := none
  facing : Int := 2
  orientation : Int := 0
  supportsJpeg : Bool := true
  modes : Option (List (Option SourceMode)) := none
  maxOutputStreams : Int := 3
deriving DecidableEq, Repr

namespace SourceMode

-- Both `HashSet.add` checks fail exactly on a repeat.
def invalid (mode : SourceMode) (ids formats : List Int) : Bool :=
  decide (mode.id ≤ 0) || ids.contains mode.id || decide (mode.width < 16) || decide (mode.height < 16) ||
    decide (8192 < mode.width) || decide (8192 < mode.height) || mode.width % 2 != 0 ||
    mode.height % 2 != 0 || decide (3840 * 2160 < mode.width * mode.height) || decide (mode.minFps < 1) ||
    decide (mode.maxFps < mode.minFps) || decide (120 < mode.maxFps) || decide (formats.length < 1) ||
    decide (4 < formats.length)

def unsupported (supportsJpeg : Bool) : List Int → List Int → Bool
  | _, [] => false
  | seen, format :: rest =>
    (format != 1 && format != 34 && format != 35 && format != 33) || seen.contains format ||
      (format == 33 && !supportsJpeg) || unsupported supportsJpeg (format :: seen) rest

end SourceMode

namespace VirtualCameraConfig

def checkModes (supportsJpeg : Bool) : List Int → List (Option SourceMode) → Except String Unit
  | _, [] => .ok ()
  | _, none :: _ => .error "invalid producer mode"
  | ids, some mode :: rest =>
    match mode.outputFormats with
    | none => .error "invalid producer mode"
    | some formats =>
      if mode.invalid ids formats then .error "invalid producer mode"
      else if SourceMode.unsupported supportsJpeg [] formats then .error "unsupported conversion"
      else checkModes supportsJpeg (mode.id :: ids) rest

def legacyMode (config : VirtualCameraConfig) : SourceMode where
  id := 1
  width := config.maxWidth
  height := config.maxHeight
  minFps := config.maxFps
  maxFps := config.maxFps
  outputFormats := some (if config.supportsJpeg then [1, 34, 35, 33] else [1, 34, 35])

def declareModes (config : VirtualCameraConfig) : Except String (VirtualCameraConfig × List (Option SourceMode)) :=
  match config.modes with
  | some (mode :: rest) => .ok (config, mode :: rest)
  | _ =>
    if config.supportedFormats != some [1] then .error "legacy source must declare RGBA8888"
    else .ok ({ config with modes := some [some config.legacyMode] }, [some config.legacyMode])

def outsideBounds (config : VirtualCameraConfig) (modes : List (Option SourceMode)) : Bool :=
  decide (32 < modes.length) || decide (config.facing < 0) || decide (2 < config.facing) ||
    (config.orientation != 0 && config.orientation != 90 && config.orientation != 180 &&
      config.orientation != 270) ||
    decide (config.maxOutputStreams < 1) || decide (3 < config.maxOutputStreams)

-- The parcel copy of the argument has the same contents.
def normalize (supplied : Option VirtualCameraConfig) : Except String VirtualCameraConfig :=
  match supplied with
  | none => .error "missing descriptor"
  | some config =>
    if config.supportedFormats.any fun formats => formats != [1] then
      .error "only RGBA8888 source transport is implemented"
    else do
      let (config, modes) ← config.declareModes
      if config.outsideBounds modes then throw "invalid descriptor bounds"
      else
        checkModes config.supportsJpeg [] modes
        pure config

def packMode : Option SourceMode → Option (List Int)
  | none => none
  | some mode => mode.outputFormats.map fun formats =>
    [mode.id, mode.width, mode.height, mode.minFps, mode.maxFps, if mode.allowDownscale then 1 else 0,
      formats.length] ++ formats

-- `none` is the exception that a null array or a null element raises.
def pack (config : VirtualCameraConfig) : Option (List Int) := do
  let modes ← config.modes
  let packed ← modes.mapM packMode
  pure ([config.facing, config.orientation, config.maxOutputStreams, modes.length] ++ packed.flatten)

end VirtualCameraConfig

def ProducerMode.source (mode : ProducerMode) : SourceMode where
  id := mode.id
  width := mode.width
  height := mode.height
  minFps := mode.minFps
  maxFps := mode.maxFps
  outputFormats := some mode.formats
  allowDownscale := mode.downscale

namespace SourceMode

theorem not_unsupported_iff (supportsJpeg : Bool) (seen formats : List Int) :
    unsupported supportsJpeg seen formats = false ↔
      (∀ format ∈ formats, (format = 1 ∨ format = 0x22 ∨ format = 0x23 ∨ format = 0x21) ∧
        (format = 33 → supportsJpeg = true) ∧ format ∉ seen) ∧ formats.Nodup := by
  induction formats generalizing seen with
  | nil => simp [unsupported]
  | cons format rest ih =>
    simp only [unsupported, Bool.or_eq_false_iff, ih]
    constructor
    next =>
      rintro ⟨⟨⟨known, fresh⟩, jpeg⟩, later, distinct⟩
      have unseen : format ∉ rest := fun member => (later format member).2.2 List.mem_cons_self
      refine ⟨fun other member => ?_, List.nodup_cons.mpr ⟨unseen, distinct⟩⟩
      rcases List.mem_cons.mp member with rfl | member
      · refine ⟨?_, ?_, ?_⟩
        · by_contra strange
          simp only [not_or] at strange
          simp [strange] at known
        · rintro rfl
          simpa using jpeg
        · simpa using fresh
      · obtain ⟨kind, allowed, absent⟩ := later other member
        exact ⟨kind, allowed, fun inside => absent (List.mem_cons_of_mem _ inside)⟩
    next =>
      rintro ⟨all, distinct⟩
      obtain ⟨kind, allowed, fresh⟩ := all format List.mem_cons_self
      refine ⟨⟨⟨?_, by simpa using fresh⟩, ?_⟩, fun other member => ?_, (List.nodup_cons.mp distinct).2⟩
      · rcases kind with rfl | rfl | rfl | rfl <;> rfl
      · by_cases jpeg : format = 33
        · simp [allowed jpeg]
        · simp [jpeg]
      · obtain ⟨kind, allowed, absent⟩ := all other (List.mem_cons_of_mem _ member)
        refine ⟨kind, allowed, fun inside => ?_⟩
        rcases List.mem_cons.mp inside with rfl | inside
        · exact (List.nodup_cons.mp distinct).1 member
        · exact absent inside

theorem accepted_valid (mode : SourceMode) (ids formats : List Int) (supportsJpeg : Bool)
    (present : mode.outputFormats = some formats) (bounded : mode.invalid ids formats = false)
    (supported : unsupported supportsJpeg [] formats = false) :
    ∃ accepted : ProducerMode, accepted.source = mode ∧ accepted.valid = true ∧ mode.id ∉ ids := by
  have formed := (not_unsupported_iff supportsJpeg [] formats).mp supported
  have fresh : mode.id ∉ ids := by
    intro member
    simp [invalid, member] at bounded
  simp only [invalid, Bool.or_eq_false_iff, decide_eq_false_iff_not, not_le, not_lt,
    List.contains_eq_mem, bne_eq_false_iff_eq] at bounded
  refine ⟨{ mode with formats, downscale := mode.allowDownscale }, ?_, ?_, fresh⟩
  · simp [ProducerMode.source, ← present]
  · have nonempty : formats ≠ [] := by
      rintro rfl
      simp at bounded
    rw [ProducerMode.valid, decide_eq_true_iff]
    simp only [ProducerMode.area]
    exact ⟨by omega, by omega, by omega, by omega, by omega, by omega, by omega, by omega, by omega,
      by omega, by omega, nonempty, by omega, fun format member => (formed.1 format member).1, formed.2⟩

end SourceMode

def ProducerMode.packed (mode : ProducerMode) : List Int :=
  [mode.id, mode.width, mode.height, mode.minFps, mode.maxFps, if mode.downscale then 1 else 0,
    mode.formats.length] ++ mode.formats

namespace VirtualCameraConfig

theorem checkModes_ok (supportsJpeg : Bool) (ids : List Int) (declared : List (Option SourceMode))
    (ok : checkModes supportsJpeg ids declared = .ok ()) :
    ∃ modes : List ProducerMode, declared = modes.map (fun mode => some mode.source) ∧
      (∀ mode ∈ modes, mode.valid = true ∧ mode.id ∉ ids) ∧ (modes.map (·.id)).Nodup := by
  induction declared generalizing ids with
  | nil => exact ⟨[], rfl, by simp, by simp⟩
  | cons first rest ih =>
    cases first with
    | none => simp [checkModes] at ok
    | some mode =>
      cases present : mode.outputFormats with
      | none => simp [checkModes, present] at ok
      | some formats =>
        simp only [checkModes, present] at ok
        split at ok
        next => cases ok
        next bounded =>
          split at ok
          next => cases ok
          next supported =>
            obtain ⟨accepted, rfl, valid, fresh⟩ := mode.accepted_valid ids formats supportsJpeg present
              (by simpa using bounded) (by simpa using supported)
            obtain ⟨modes, rfl, all, distinct⟩ := ih _ ok
            refine ⟨accepted :: modes, rfl, fun other member => ?_, ?_⟩
            · rcases List.mem_cons.mp member with rfl | member
              · exact ⟨valid, fresh⟩
              · exact ⟨(all other member).1, fun inside => (all other member).2 (List.mem_cons_of_mem _ inside)⟩
            · rw [List.map_cons, List.nodup_cons]
              refine ⟨fun member => ?_, distinct⟩
              obtain ⟨other, inside, same⟩ := List.mem_map.mp member
              refine (all other inside).2 ?_
              rw [same]
              exact List.mem_cons_self

structure Normalized (config : VirtualCameraConfig) (modes : List ProducerMode) : Prop where
  modes_eq : config.modes = some (modes.map fun mode => some mode.source)
  valid : ∀ registration, 0 < registration → ProducerCapabilities.valid
    { registration, facing := config.facing, orientation := config.orientation
      maxStreams := config.maxOutputStreams, modes } = true

theorem declareModes_ok (config declared : VirtualCameraConfig) (modes : List (Option SourceMode))
    (ok : config.declareModes = .ok (declared, modes)) : declared.modes = some modes ∧ modes ≠ [] := by
  unfold declareModes at ok
  split at ok
  next mode rest present =>
    cases ok
    exact ⟨present, by simp⟩
  next =>
    split at ok
    · cases ok
    · cases ok
      exact ⟨rfl, by simp⟩

theorem normalize_ok (supplied : Option VirtualCameraConfig) (config : VirtualCameraConfig)
    (ok : normalize supplied = .ok config) : ∃ modes, Normalized config modes := by
  cases supplied with
  | none => cases ok
  | some given =>
    simp only [normalize] at ok
    split at ok
    next => cases ok
    next =>
      cases made : given.declareModes with
      | error text => simp [made, bind, Except.bind] at ok
      | ok pair =>
        obtain ⟨declared, listed⟩ := pair
        obtain ⟨stored, nonempty⟩ := declareModes_ok given declared listed made
        simp only [made, bind, Except.bind] at ok
        split at ok
        next => cases ok
        next bounded =>
          cases checked : checkModes declared.supportsJpeg [] listed with
          | error text => simp [checked] at ok
          | ok done =>
            simp only [checked] at ok
            cases ok
            obtain ⟨modes, rfl, all, distinct⟩ := checkModes_ok _ _ _ checked
            refine ⟨modes, stored, fun registration positive => ?_⟩
            rw [Bool.not_eq_true] at bounded
            simp only [outsideBounds, Bool.or_eq_false_iff, Bool.and_eq_false_iff, decide_eq_false_iff_not,
              not_lt, bne_eq_false_iff_eq, List.length_map] at bounded
            simp only [ProducerCapabilities.valid, decide_eq_true_eq]
            refine ⟨positive, by simpa using nonempty, ?_, ?_, ?_, ?_, ?_, ?_, distinct,
              fun mode member => (all mode member).1⟩ <;> omega

theorem packModes (modes : List ProducerMode) :
    (modes.map fun mode => some mode.source).mapM packMode = some (modes.map ProducerMode.packed) := by
  induction modes with
  | nil => rfl
  | cons mode rest ih =>
    have single : packMode (some mode.source) = some mode.packed := rfl
    rw [List.map_cons, List.mapM_cons, single, ih]
    rfl

theorem pack_normalized (config : VirtualCameraConfig) (modes : List ProducerMode)
    (normalized : Normalized config modes) :
    config.pack = some ([config.facing, config.orientation, config.maxOutputStreams, modes.length] ++
      modes.flatMap ProducerMode.packed) := by
  rw [pack, normalized.modes_eq, Option.bind_eq_bind, Option.bind_some, packModes, List.length_map,
    List.flatMap]
  rfl

end VirtualCameraConfig

end VirtualCamera
