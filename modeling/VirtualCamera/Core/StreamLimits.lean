import VirtualCamera.Core.FpsRanges
import VirtualCamera.Core.FrameDurations

set_option autoImplicit false

namespace VirtualCamera

def Output.stream (output : Output) : StreamDesc where
  format := output.format
  width := output.width
  height := output.height
  useCase := 0
  input := false
  rotation := 0

def StreamDesc.output (stream : StreamDesc) : Output where
  format := stream.format
  width := stream.width
  height := stream.height

namespace MetadataBuilder

open ProducerCapabilities

variable (capabilities : Option ProducerCapabilities) (caps : ProducerCapabilities)

-- BLOB is the one stalling format.
def stallingCount (outputs : List Output) : Int := jpegCount outputs

def processedCount (outputs : List Output) : Int := outputs.length - jpegCount outputs

theorem supported_iff (streams : List StreamDesc) :
    isStreamCombinationSupported streams capabilities = true ↔
      (∀ stream ∈ streams, stream.input = false ∧ stream.useCase = 0 ∧ stream.rotation = 0) ∧
        ((capabilities.getD diagnostic).selectAny (streams.map StreamDesc.output)).isSome := by
  have outputs : (streams.map fun stream : StreamDesc =>
      ({ format := stream.format, width := stream.width, height := stream.height } : Output)) =
      streams.map StreamDesc.output := rfl
  simp only [isStreamCombinationSupported, outputs]
  split
  next special =>
    refine iff_of_false nofun fun plain => ?_
    obtain ⟨stream, member, asks⟩ := List.any_eq_true.mp special
    obtain ⟨input, useCase, rotation⟩ := plain.1 stream member
    simp [input, useCase, rotation] at asks
  next plain =>
    refine ⟨fun selected => ⟨fun stream member => ?_, selected⟩, fun selected => selected.2⟩
    have asks : (stream.input || stream.useCase != 0 || stream.rotation != 0) = false := by
      rw [← Bool.not_eq_true]
      exact fun asks => plain (List.any_eq_true.mpr ⟨stream, member, asks⟩)
    simpa [and_assoc] using asks

theorem plain_supported_iff (outputs : List Output) :
    isStreamCombinationSupported (outputs.map Output.stream) capabilities = true ↔
      ((capabilities.getD diagnostic).selectAny outputs).isSome := by
  have same : (outputs.map Output.stream).map StreamDesc.output = outputs := by
    rw [List.map_map]
    exact List.map_id outputs
  rw [supported_iff, same]
  refine and_iff_right fun stream member => ?_
  obtain ⟨output, _, rfl⟩ := List.mem_map.mp member
  exact ⟨rfl, rfl, rfl⟩

theorem selectAny_declared (outputs : List Output) (mode : ProducerMode) (limits : caps.WithinLimits outputs)
    (member : mode ∈ caps.modes) (declared : ∀ output ∈ outputs, mode.declares output = true) :
    (caps.selectAny outputs).isSome := by
  refine (caps.select_isSome_iff outputs 0 0).mpr ⟨limits, .inl rfl, mode, member, ?_⟩
  exact (serves_iff _ _ _ _).mpr ⟨(mode.inRange_iff 0 0).mpr (.inl rfl), fun output inside =>
    mode.fits_of_declares output (declared output inside)⟩

theorem selectAny_single (valid : caps.valid = true) (output : Output) :
    (caps.selectAny [output]).isSome ↔ caps.advertised output = true := by
  constructor
  next =>
    intro selected
    exact ((caps.select_isSome_iff [output] 0 0).mp selected).1.advertised output (by simp)
  next =>
    intro advertised
    obtain ⟨mode, member, declared⟩ := (caps.advertised_iff output).mp advertised
    exact selectAny_declared caps [output] mode (caps.single_withinLimits valid output advertised) member
      (by simpa using declared)

theorem hasJpeg_of_advertised (output : Output) (advertised : caps.advertised output = true)
    (blob : output.format = blobFormat) : hasJpeg caps = true := by
  obtain ⟨mode, member, declared⟩ := (caps.advertised_iff output).mp advertised
  obtain ⟨_, _, format⟩ := (mode.declares_iff output).mp declared
  exact List.any_eq_true.mpr ⟨mode, member, by simpa [blob] using format⟩

theorem jpegCount_bounded (outputs : List Output) (limits : caps.WithinLimits outputs) :
    (jpegCount outputs : Int) ≤ if hasJpeg caps = true then 1 else 0 := by
  have once := limits.jpeg
  split
  next => omega
  next missing =>
    have none : jpegCount outputs = 0 := by
      refine List.countP_eq_zero.mpr fun output member blob => missing ?_
      exact hasJpeg_of_advertised caps output (limits.advertised output member) (by simpa using blob)
    omega

structure LimitsAgree (characteristics : CameraCharacteristics) (allowed : List Output → Prop) : Prop where
  listed : ∀ output, output ∈ characteristics.streamConfigurations ↔
    isStreamCombinationSupported [output.stream] capabilities = true
  bounded : ∀ streams, isStreamCombinationSupported streams capabilities = true →
    processedCount (streams.map StreamDesc.output) ≤ characteristics.maxProcessedOutputs ∧
      stallingCount (streams.map StreamDesc.output) ≤ characteristics.maxStallingOutputs
  complete : ∀ mode ∈ (capabilities.getD diagnostic).modes, ∀ outputs, allowed outputs →
    (∀ output ∈ outputs, mode.declares output = true) →
    processedCount outputs ≤ characteristics.maxProcessedOutputs →
    stallingCount outputs ≤ characteristics.maxStallingOutputs →
      isStreamCombinationSupported (outputs.map Output.stream) capabilities = true

theorem build_valid (valid : (capabilities.getD diagnostic).valid = true) :
    ∃ characteristics, buildCameraCharacteristics capabilities = some characteristics ∧
      characteristics.streamConfigurations = (outputs (capabilities.getD diagnostic)).map (·.1) ∧
      characteristics.maxProcessedOutputs = min 2 (capabilities.getD diagnostic).maxStreams ∧
      characteristics.maxStallingOutputs = if hasJpeg (capabilities.getD diagnostic) = true then 1 else 0 := by
  simp [buildCameraCharacteristics, valid]

theorem stream_limits (valid : (capabilities.getD diagnostic).valid = true) :
    ∃ characteristics, buildCameraCharacteristics capabilities = some characteristics ∧
      LimitsAgree capabilities characteristics fun outputs =>
        outputs ≠ [] ∧ (outputs.length : Int) ≤ (capabilities.getD diagnostic).maxStreams := by
  obtain ⟨characteristics, built, configurations, processed, stalling⟩ := build_valid capabilities valid
  refine ⟨characteristics, built, ?_⟩
  constructor
  case listed =>
    intro output
    have single := plain_supported_iff capabilities [output]
    rw [List.map_singleton] at single
    rw [single, selectAny_single _ valid, configurations]
    constructor
    next =>
      intro member
      obtain ⟨⟨other, rate⟩, inside, rfl⟩ := List.mem_map.mp member
      exact ((mem_outputs _ other rate).mp inside).1
    next =>
      intro advertised
      exact List.mem_map.mpr ⟨(output, _), (mem_outputs _ output _).mpr ⟨advertised, rfl⟩, rfl⟩
  case bounded =>
    intro streams supported
    have selected := ((supported_iff capabilities streams).mp supported).2
    have limits := ((ProducerCapabilities.select_isSome_iff _ _ 0 0).mp selected).1
    rw [processed, stalling]
    have few := limits.processed
    have total := limits.streams
    refine ⟨le_min few ?_, jpegCount_bounded _ _ limits⟩
    simp only [processedCount]
    omega
  case complete =>
    intro mode member outputs allowed declared few stalls
    rw [processed] at few
    rw [stalling] at stalls
    have once : jpegCount outputs ≤ 1 := by
      simp only [stallingCount] at stalls
      split at stalls <;> omega
    refine (plain_supported_iff capabilities outputs).mpr (selectAny_declared _ outputs mode ?_ member declared)
    exact
      { valid
        nonempty := allowed.1
        streams := allowed.2
        advertised := fun output inside =>
          (ProducerCapabilities.advertised_iff _ output).mpr ⟨mode, member, declared output inside⟩
        jpeg := once
        processed := few.trans (min_le_left _ _) }

theorem stream_limits_diagnostic :
    ∃ characteristics, buildCameraCharacteristics none = some characteristics ∧
      LimitsAgree none characteristics fun outputs =>
        outputs ≠ [] ∧ (outputs.length : Int) ≤ diagnostic.maxStreams :=
  stream_limits none diagnostic_valid

def singleStream : ProducerCapabilities where
  registration := 1
  maxStreams := 1
  modes := [{ id := 1, width := 640, height := 480, minFps := 15, maxFps := 30, formats := [0x23, 0x21] }]

theorem stream_limits_disagree :
    singleStream.valid = true ∧
      ∀ characteristics, buildCameraCharacteristics (some singleStream) = some characteristics →
        ¬ LimitsAgree (some singleStream) characteristics fun outputs => outputs ≠ [] := by
  refine ⟨by decide, fun characteristics built agree => ?_⟩
  obtain ⟨_, same, _, processed, stalling⟩ := build_valid (some singleStream) (by decide)
  cases built.symm.trans same
  have accepted := agree.complete (singleStream.modes.head (by decide)) (by decide)
    [{ format := 0x23, width := 640, height := 480 }, { format := blobFormat, width := 640, height := 480 }]
    (by decide) (by decide) (by rw [processed]; decide) (by rw [stalling]; decide)
  exact absurd accepted (by decide)

end MetadataBuilder

end VirtualCamera
