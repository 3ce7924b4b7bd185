import Mathlib.Data.List.Nodup
import Mathlib.Tactic.Linarith
import VirtualCamera.Core.ProducerCapabilities

set_option autoImplicit false

namespace VirtualCamera

structure ProducerMode.WellFormed (mode : ProducerMode) : Prop where
  id_pos : 0 < mode.id
  width_pos : 16 ≤ mode.width
  height_pos : 16 ≤ mode.height
  fps_pos : 1 ≤ mode.minFps
  fps_ordered : mode.minFps ≤ mode.maxFps
  fps_bounded : mode.maxFps ≤ 120
  formats_nonempty : mode.formats ≠ []

theorem ProducerMode.wellFormed (mode : ProducerMode) (valid : mode.valid = true) :
    mode.WellFormed := by
  simp only [ProducerMode.valid, decide_eq_true_eq] at valid
  obtain ⟨id, width, height, _, _, _, _, _, low, ordered, high, formats, _⟩ := valid
  exact ⟨id, width, height, low, ordered, high, formats⟩

namespace ProducerCapabilities

structure WellFormed (caps : ProducerCapabilities) : Prop where
  modes_nonempty : caps.modes ≠ []
  streams_low : 1 ≤ caps.maxStreams
  streams_high : caps.maxStreams ≤ 3
  ids_distinct : (caps.modes.map (·.id)).Nodup
  mode : ∀ mode ∈ caps.modes, mode.WellFormed

theorem wellFormed (caps : ProducerCapabilities) (valid : caps.valid = true) : caps.WellFormed := by
  simp only [ProducerCapabilities.valid, decide_eq_true_eq] at valid
  obtain ⟨_, nonempty, _, _, _, _, low, high, distinct, modes⟩ := valid
  exact ⟨nonempty, low, high, distinct, fun mode member => mode.wellFormed (modes mode member)⟩

theorem mode_eq_of_id (caps : ProducerCapabilities) (formed : caps.WellFormed)
    (a b : ProducerMode) (left : a ∈ caps.modes) (right : b ∈ caps.modes) (same : a.id = b.id) :
    a = b :=
  List.inj_on_of_nodup_map formed.ids_distinct left right same

theorem mem_fpsRanges (caps : ProducerCapabilities) (range : Int × Int) :
    range ∈ caps.fpsRanges ↔
      range = caps.defaultRange ∨ ∃ mode ∈ caps.modes, range ∈ mode.ranges := by
  simp [fpsRanges]

theorem advertised_iff (caps : ProducerCapabilities) (output : Output) :
    caps.advertised output = true ↔ ∃ mode ∈ caps.modes, mode.declares output = true := by
  simp [advertised]

end ProducerCapabilities

theorem ProducerMode.declares_iff (mode : ProducerMode) (output : Output) :
    mode.declares output = true ↔
      mode.width = output.width ∧ mode.height = output.height ∧ output.format ∈ mode.formats := by
  simp [ProducerMode.declares, and_assoc]

theorem ProducerMode.fits_iff (mode : ProducerMode) (output : Output) :
    mode.fits output = true ↔
      output.format ∈ mode.formats ∧ output.width ≤ mode.width ∧ output.height ≤ mode.height ∧
        ((output.width = mode.width ∧ output.height = mode.height) ∨
          (mode.downscale = true ∧ output.width * mode.height = output.height * mode.width)) := by
  simp only [ProducerMode.fits, gt_iff_lt, Bool.and_eq_true, List.contains_eq_mem,
    decide_eq_true_eq, Bool.not_eq_true', Bool.or_eq_false_iff, decide_eq_false_iff_not, not_lt,
    Bool.and_eq_false_iff, Bool.not_eq_false', bne_eq_false_iff_eq]
  tauto

theorem ProducerMode.fits_of_declares (mode : ProducerMode) (output : Output)
    (declared : mode.declares output = true) : mode.fits output = true := by
  obtain ⟨width, height, format⟩ := (mode.declares_iff output).mp declared
  exact (mode.fits_iff output).mpr ⟨format, width.ge, height.ge, .inl ⟨width.symm, height.symm⟩⟩

theorem ProducerMode.inRange_iff (mode : ProducerMode) (low high : Int) :
    mode.inRange low high = true ↔
      high = 0 ∨ (1 ≤ low ∧ low ≤ high ∧ mode.minFps ≤ high ∧ low ≤ mode.maxFps) := by
  simp only [ProducerMode.inRange, Bool.not_eq_true', Bool.and_eq_false_iff, bne_eq_false_iff_eq,
    Bool.or_eq_false_iff, decide_eq_false_iff_not, gt_iff_lt, not_lt]
  tauto

theorem serves_iff (outputs : List Output) (low high : Int) (mode : ProducerMode) :
    ProducerCapabilities.serves outputs low high mode = true ↔
      mode.inRange low high = true ∧ ∀ output ∈ outputs, mode.fits output = true := by
  simp [ProducerCapabilities.serves]

theorem ProducerMode.fits_aspect (mode : ProducerMode) (output : Output)
    (fit : mode.fits output = true) : output.width * mode.height = output.height * mode.width := by
  obtain ⟨_, _, _, ⟨width, height⟩ | ⟨_, aspect⟩⟩ := (mode.fits_iff output).mp fit
  · rw [width, height, mul_comm]
  · exact aspect

theorem same_size (a b : ProducerMode) (output : Output) (formedA : a.WellFormed)
    (formedB : b.WellFormed) (width : 0 < output.width) (height : 0 < output.height)
    (fitA : a.fits output = true) (fitB : b.fits output = true) (area : a.area = b.area) :
    a.width = b.width ∧ a.height = b.height := by
  have aspectA := a.fits_aspect output fitA
  have aspectB := b.fits_aspect output fitB
  have positiveA := formedA.width_pos
  have positiveA' := formedA.height_pos
  have positiveB := formedB.width_pos
  have positiveB' := formedB.height_pos
  simp only [ProducerMode.area] at area
  have widths : a.width = b.width := by
    rcases lt_trichotomy a.width b.width with less | same | more
    · have scaled : output.height * a.width < output.height * b.width :=
        mul_lt_mul_of_pos_left less height
      have heights : a.height < b.height :=
        lt_of_mul_lt_mul_left (by rw [aspectA, aspectB]; exact scaled) width.le
      nlinarith
    · exact same
    · have scaled : output.height * b.width < output.height * a.width :=
        mul_lt_mul_of_pos_left more height
      have heights : b.height < a.height :=
        lt_of_mul_lt_mul_left (by rw [aspectA, aspectB]; exact scaled) width.le
      nlinarith
  refine ⟨widths, ?_⟩
  rw [widths] at area
  exact mul_left_cancel₀ (by omega) area

def ProducerMode.rank (mode : ProducerMode) : Int ×ₗ Int := toLex (mode.area, mode.id)

theorem smaller_iff_rank (a b : ProducerMode) (output : Output) (formedA : a.WellFormed)
    (formedB : b.WellFormed) (width : 0 < output.width) (height : 0 < output.height)
    (fitA : a.fits output = true) (fitB : b.fits output = true) :
    a.smaller b = true ↔ a.rank < b.rank := by
  have sized := same_size a b output formedA formedB width height fitA fitB
  simp only [ProducerMode.smaller, Bool.or_eq_true, decide_eq_true_eq, Bool.and_eq_true, beq_iff_eq,
    ProducerMode.rank, Prod.Lex.lt_iff, ofLex_toLex]
  constructor
  · rintro (less | ⟨⟨widths, heights⟩, ids⟩)
    · exact .inl less
    · exact .inr ⟨by rw [ProducerMode.area, ProducerMode.area, widths, heights], ids⟩
  · rintro (less | ⟨areas, ids⟩)
    · exact .inl less
    · exact .inr ⟨sized areas, ids⟩

namespace ProducerCapabilities

structure Best (caps : ProducerCapabilities) (outputs : List Output) (low high : Int)
    (mode : ProducerMode) : Prop where
  declared : mode ∈ caps.modes
  range : mode.inRange low high = true
  fits : ∀ output ∈ outputs, mode.fits output = true
  least : ∀ other ∈ caps.modes, serves outputs low high other = true → mode.rank ≤ other.rank

structure WithinLimits (caps : ProducerCapabilities) (outputs : List Output) : Prop where
  valid : caps.valid = true
  nonempty : outputs ≠ []
  streams : (outputs.length : Int) ≤ caps.maxStreams
  advertised : ∀ output ∈ outputs, caps.advertised output = true
  jpeg : jpegCount outputs ≤ 1
  processed : (outputs.length : Int) - jpegCount outputs ≤ 2

theorem withinLimits_iff (caps : ProducerCapabilities) (outputs : List Output) :
    caps.withinLimits outputs = true ↔ caps.WithinLimits outputs := by
  simp only [withinLimits, Bool.and_eq_true, Bool.not_eq_true', Bool.or_eq_false_iff,
    Bool.not_eq_false', List.isEmpty_eq_false_iff, decide_eq_false_iff_not, not_lt, List.all_eq_true]
  constructor
  · rintro ⟨⟨⟨⟨valid, nonempty⟩, streams⟩, advertised⟩, jpeg, processed⟩
    exact ⟨valid, nonempty, streams, advertised, jpeg, processed⟩
  · rintro ⟨valid, nonempty, streams, advertised, jpeg, processed⟩
    exact ⟨⟨⟨⟨valid, nonempty⟩, streams⟩, advertised⟩, jpeg, processed⟩

theorem pick_eq_some_iff (caps : ProducerCapabilities) (outputs : List Output) (low high : Int)
    (mode : ProducerMode) (limits : caps.WithinLimits outputs) :
    Selection.pick (serves outputs low high) ProducerMode.smaller caps.modes = some mode ↔
      caps.Best outputs low high mode := by
  have formed := caps.wellFormed limits.valid
  obtain ⟨output, rest, cons⟩ := List.exists_cons_of_ne_nil limits.nonempty
  have member : output ∈ outputs := by rw [cons]; exact List.mem_cons_self
  obtain ⟨source, declared, matching⟩ := (caps.advertised_iff output).mp (limits.advertised output member)
  obtain ⟨width, height, _⟩ := (source.declares_iff output).mp matching
  have wide := (formed.mode source declared).width_pos
  have tall := (formed.mode source declared).height_pos
  have first : ∀ a, serves outputs low high a = true → a.fits output = true :=
    fun a serving => ((serves_iff outputs low high a).mp serving).2 output member
  -- The rank order is only claimed on declared modes, so the candidates carry membership.
  have attached : Selection.pick (serves outputs low high) ProducerMode.smaller caps.modes =
      Selection.pick (fun a => serves outputs low high a && decide (a ∈ caps.modes))
        ProducerMode.smaller caps.modes := by
    apply Selection.pick_congr
    intro a inside
    simp [inside]
  rw [attached, Selection.pick_eq_some_iff ProducerMode.rank]
  · simp only [Bool.and_eq_true, decide_eq_true_eq, serves_iff]
    constructor
    · rintro ⟨inside, ⟨⟨range, fits⟩, _⟩, least⟩
      exact ⟨inside, range, fits, fun other within serving =>
        least other within ⟨(serves_iff _ _ _ _).mp serving, within⟩⟩
    · rintro ⟨inside, range, fits, least⟩
      exact ⟨inside, ⟨⟨range, fits⟩, inside⟩, fun other within serving =>
        least other within ((serves_iff _ _ _ _).mpr serving.1)⟩
  · intro a b servingA servingB
    simp only [Bool.and_eq_true, decide_eq_true_eq] at servingA servingB
    exact smaller_iff_rank a b output (formed.mode a servingA.2) (formed.mode b servingB.2)
      (by omega) (by omega) (first a servingA.1) (first b servingB.1)
  · intro a insideA b insideB _ _ same
    have ids : a.id = b.id := congrArg (fun rank => (ofLex rank).2) same
    exact caps.mode_eq_of_id formed a b insideA insideB ids

theorem select_eq_some_iff (caps : ProducerCapabilities) (outputs : List Output) (low high : Int)
    (mode : ProducerMode) :
    caps.select outputs low high = some mode ↔
      caps.WithinLimits outputs ∧ (high = 0 ∨ (low, high) ∈ caps.fpsRanges) ∧
        caps.Best outputs low high mode := by
  unfold select
  by_cases limits : caps.WithinLimits outputs
  · have checked := (caps.withinLimits_iff outputs).mpr limits
    by_cases listed : high = 0 ∨ (low, high) ∈ caps.fpsRanges
    · rw [if_pos (by simpa [checked] using listed), caps.pick_eq_some_iff outputs low high mode limits]
      simp [limits, listed]
    · rw [if_neg (by simpa [checked] using listed)]
      simp [listed]
  · have refused : caps.withinLimits outputs = false := by
      rw [← Bool.not_eq_true, caps.withinLimits_iff]
      exact limits
    simp [refused, limits]

theorem select_isSome_iff (caps : ProducerCapabilities) (outputs : List Output) (low high : Int) :
    (caps.select outputs low high).isSome ↔
      caps.WithinLimits outputs ∧ (high = 0 ∨ (low, high) ∈ caps.fpsRanges) ∧
        ∃ mode ∈ caps.modes, serves outputs low high mode = true := by
  constructor
  · intro selected
    obtain ⟨mode, picked⟩ := Option.isSome_iff_exists.mp selected
    obtain ⟨limits, listed, best⟩ := (caps.select_eq_some_iff outputs low high mode).mp picked
    exact ⟨limits, listed, mode, best.declared, (serves_iff _ _ _ _).mpr ⟨best.range, best.fits⟩⟩
  · rintro ⟨limits, listed, mode, declared, serving⟩
    have checked := (caps.withinLimits_iff outputs).mpr limits
    rw [select, if_pos (by simpa [checked] using listed)]
    exact Selection.pick_isSome _ _ _ mode declared serving

end ProducerCapabilities

end VirtualCamera
