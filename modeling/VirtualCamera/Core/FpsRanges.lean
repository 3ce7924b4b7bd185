import VirtualCamera.Core.ModeSelection
import VirtualCamera.Core.MetadataBuilder

set_option autoImplicit false

namespace VirtualCamera

theorem ProducerMode.ranges_within (mode : ProducerMode) (formed : mode.WellFormed)
    (range : Int × Int) (listed : range ∈ mode.ranges) :
    mode.minFps ≤ range.1 ∧ range.1 ≤ range.2 ∧ range.2 ≤ mode.maxFps := by
  have ordered := formed.fps_ordered
  simp only [ProducerMode.ranges, List.mem_append, List.mem_cons, List.not_mem_nil, or_false] at listed
  rcases listed with (rfl | rfl | rfl) | cadence
  · exact ⟨le_rfl, ordered, le_rfl⟩
  · exact ⟨le_rfl, le_rfl, ordered⟩
  · exact ⟨ordered, le_rfl, le_rfl⟩
  · split at cadence
    next inside =>
      simp only [List.mem_cons, List.not_mem_nil, or_false] at cadence
      rcases cadence with rfl | rfl | rfl
      · exact ⟨inside.1, le_rfl, inside.2⟩
      · exact ⟨le_rfl, inside.1, inside.2⟩
      · exact ⟨inside.1, inside.2, le_rfl⟩
    next => cases cadence

theorem clamp_within (value low high : Int) (ordered : low ≤ high) :
    low ≤ clamp value low high ∧ clamp value low high ≤ high := by
  unfold clamp
  split
  · exact ⟨le_rfl, ordered⟩
  · split <;> omega

namespace ProducerCapabilities

theorem commonLow_bounds (caps : ProducerCapabilities) :
    1 ≤ caps.commonLow ∧ ∀ mode ∈ caps.modes, mode.minFps ≤ caps.commonLow :=
  (Selection.foldl_max_le_iff ProducerMode.minFps caps.modes 1 caps.commonLow).mp le_rfl

theorem commonHigh_bounds (caps : ProducerCapabilities) :
    caps.commonHigh ≤ 120 ∧ ∀ mode ∈ caps.modes, caps.commonHigh ≤ mode.maxFps :=
  (Selection.le_foldl_min_iff ProducerMode.maxFps caps.modes 120 caps.commonHigh).mp le_rfl

theorem globalLow_bounds (caps : ProducerCapabilities) :
    caps.globalLow ≤ 120 ∧ ∀ mode ∈ caps.modes, caps.globalLow ≤ mode.minFps :=
  (Selection.le_foldl_min_iff ProducerMode.minFps caps.modes 120 caps.globalLow).mp le_rfl

theorem globalHigh_bounds (caps : ProducerCapabilities) :
    1 ≤ caps.globalHigh ∧ ∀ mode ∈ caps.modes, mode.maxFps ≤ caps.globalHigh :=
  (Selection.foldl_max_le_iff ProducerMode.maxFps caps.modes 1 caps.globalHigh).mp le_rfl

theorem defaultRange_overlaps (caps : ProducerCapabilities) (formed : caps.WellFormed)
    (mode : ProducerMode) (declared : mode ∈ caps.modes) :
    caps.defaultRange.1 ≤ mode.maxFps ∧ mode.minFps ≤ caps.defaultRange.2 := by
  have ordered := (formed.mode mode declared).fps_ordered
  unfold defaultRange
  split
  next agree =>
    have within := clamp_within 30 caps.commonLow caps.commonHigh agree
    have low := caps.commonLow_bounds.2 mode declared
    have high := caps.commonHigh_bounds.2 mode declared
    exact ⟨le_trans within.2 high, le_trans low within.1⟩
  next =>
    have low := caps.globalLow_bounds.2 mode declared
    have high := caps.globalHigh_bounds.2 mode declared
    exact ⟨le_trans low ordered, le_trans ordered high⟩

theorem defaultRange_bounds (caps : ProducerCapabilities) (formed : caps.WellFormed) :
    1 ≤ caps.defaultRange.1 ∧ caps.defaultRange.1 ≤ caps.defaultRange.2 ∧
      caps.defaultRange.2 ≤ 120 := by
  obtain ⟨mode, rest, cons⟩ := List.exists_cons_of_ne_nil formed.modes_nonempty
  have declared : mode ∈ caps.modes := by rw [cons]; exact List.mem_cons_self
  unfold defaultRange
  split
  next agree =>
    have within := clamp_within 30 caps.commonLow caps.commonHigh agree
    exact ⟨le_trans caps.commonLow_bounds.1 within.1, le_rfl, le_trans within.2 caps.commonHigh_bounds.1⟩
  next =>
    have ordered := (formed.mode mode declared).fps_ordered
    have low := caps.globalLow_bounds.2 mode declared
    have high := caps.globalHigh_bounds.2 mode declared
    have positive : 1 ≤ caps.globalLow :=
      (Selection.le_foldl_min_iff ProducerMode.minFps caps.modes 120 1).mpr
        ⟨by omega, fun other inside => (formed.mode other inside).fps_pos⟩
    have bounded : caps.globalHigh ≤ 120 :=
      (Selection.foldl_max_le_iff ProducerMode.maxFps caps.modes 1 120).mpr
        ⟨by omega, fun other inside => (formed.mode other inside).fps_bounded⟩
    exact ⟨positive, le_trans low (le_trans ordered high), bounded⟩

theorem defaultRange_listed (caps : ProducerCapabilities) : caps.defaultRange ∈ caps.fpsRanges :=
  (caps.mem_fpsRanges caps.defaultRange).mpr (.inl rfl)

theorem defaultRange_inRange (caps : ProducerCapabilities) (formed : caps.WellFormed)
    (mode : ProducerMode) (declared : mode ∈ caps.modes) :
    mode.inRange caps.defaultRange.1 caps.defaultRange.2 = true := by
  obtain ⟨positive, ordered, _⟩ := caps.defaultRange_bounds formed
  obtain ⟨below, above⟩ := caps.defaultRange_overlaps formed mode declared
  exact (mode.inRange_iff _ _).mpr (.inr ⟨positive, ordered, above, below⟩)

theorem fpsRanges_bounds (caps : ProducerCapabilities) (formed : caps.WellFormed)
    (range : Int × Int) (listed : range ∈ caps.fpsRanges) :
    1 ≤ range.1 ∧ range.1 ≤ range.2 ∧ range.2 ≤ 120 := by
  rcases (caps.mem_fpsRanges range).mp listed with rfl | ⟨mode, declared, inside⟩
  · exact caps.defaultRange_bounds formed
  · have modeFormed := formed.mode mode declared
    obtain ⟨low, ordered, high⟩ := mode.ranges_within modeFormed range inside
    exact ⟨le_trans modeFormed.fps_pos low, ordered, le_trans high modeFormed.fps_bounded⟩

theorem fpsRanges_inRange (caps : ProducerCapabilities) (formed : caps.WellFormed)
    (range : Int × Int) (listed : range ∈ caps.fpsRanges) :
    ∃ mode ∈ caps.modes, mode.inRange range.1 range.2 = true := by
  rcases (caps.mem_fpsRanges range).mp listed with rfl | ⟨mode, declared, inside⟩
  · obtain ⟨mode, rest, cons⟩ := List.exists_cons_of_ne_nil formed.modes_nonempty
    have declared : mode ∈ caps.modes := by rw [cons]; exact List.mem_cons_self
    exact ⟨mode, declared, caps.defaultRange_inRange formed mode declared⟩
  · have modeFormed := formed.mode mode declared
    obtain ⟨low, ordered, high⟩ := mode.ranges_within modeFormed range inside
    have positive := modeFormed.fps_pos
    exact ⟨mode, declared, (mode.inRange_iff _ _).mpr
      (.inr ⟨by omega, ordered, by omega, by omega⟩)⟩

theorem single_withinLimits (caps : ProducerCapabilities) (valid : caps.valid = true)
    (output : Output) (advertised : caps.advertised output = true) :
    caps.WithinLimits [output] := by
  have formed := caps.wellFormed valid
  have count : jpegCount [output] ≤ 1 := List.countP_le_length
  exact
    { valid
      nonempty := by simp
      streams := formed.streams_low
      advertised := by simpa using advertised
      jpeg := count
      processed := by simp only [List.length_singleton]; omega }

theorem fpsRanges_accepted (caps : ProducerCapabilities) (valid : caps.valid = true)
    (range : Int × Int) (listed : range ∈ caps.fpsRanges) :
    ∃ output, caps.advertised output = true ∧ (caps.select [output] range.1 range.2).isSome := by
  have formed := caps.wellFormed valid
  obtain ⟨mode, declared, inside⟩ := caps.fpsRanges_inRange formed range listed
  obtain ⟨format, rest, cons⟩ := List.exists_cons_of_ne_nil (formed.mode mode declared).formats_nonempty
  let output : Output := { format, width := mode.width, height := mode.height }
  have declares : mode.declares output = true :=
    (mode.declares_iff output).mpr ⟨rfl, rfl, by rw [cons]; exact List.mem_cons_self⟩
  have advertised : caps.advertised output = true :=
    (caps.advertised_iff output).mpr ⟨mode, declared, declares⟩
  refine ⟨output, advertised, (caps.select_isSome_iff _ _ _).mpr
    ⟨caps.single_withinLimits valid output advertised, .inr listed, mode, declared, ?_⟩⟩
  exact (serves_iff _ _ _ _).mpr ⟨inside, by simpa using mode.fits_of_declares output declares⟩

theorem select_defaultRange (caps : ProducerCapabilities) (valid : caps.valid = true)
    (outputs : List Output) :
    caps.select outputs caps.defaultRange.1 caps.defaultRange.2 = caps.selectAny outputs := by
  have formed := caps.wellFormed valid
  have listed : decide ((caps.defaultRange.1, caps.defaultRange.2) ∈ caps.fpsRanges) = true :=
    decide_eq_true caps.defaultRange_listed
  have same : Selection.pick (serves outputs caps.defaultRange.1 caps.defaultRange.2)
      ProducerMode.smaller caps.modes = Selection.pick (serves outputs 0 0)
        ProducerMode.smaller caps.modes := by
    apply Selection.pick_congr
    intro mode declared
    have unrestricted : mode.inRange 0 0 = true := (mode.inRange_iff 0 0).mpr (.inl rfl)
    simp only [serves, caps.defaultRange_inRange formed mode declared, unrestricted]
  simp only [selectAny, select, listed, Bool.or_true, Bool.and_true, same, beq_self_eq_true,
    Bool.true_or]

end ProducerCapabilities

end VirtualCamera
