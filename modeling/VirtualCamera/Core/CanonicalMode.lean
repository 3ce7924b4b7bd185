import Mathlib.Data.List.Perm.Basic
import VirtualCamera.Core.FpsRanges

set_option autoImplicit false

namespace VirtualCamera

def ProducerMode.Contains (mode : ProducerMode) (output : Output) : Prop :=
  (output.width = mode.width ∧ output.height = mode.height) ∨
    (mode.downscale = true ∧ output.width ≤ mode.width ∧ output.height ≤ mode.height ∧
      output.width * mode.height = output.height * mode.width)

theorem ProducerMode.fits_iff_contains (mode : ProducerMode) (output : Output) :
    mode.fits output = true ↔ output.format ∈ mode.formats ∧ mode.Contains output := by
  rw [mode.fits_iff]
  refine and_congr_right fun _ => ?_
  constructor
  · rintro ⟨narrower, lower, exactly | ⟨downscale, aspect⟩⟩
    · exact .inl exactly
    · exact .inr ⟨downscale, narrower, lower, aspect⟩
  · rintro (⟨width, height⟩ | ⟨downscale, narrower, lower, aspect⟩)
    · exact ⟨width.le, height.le, .inl ⟨width, height⟩⟩
    · exact ⟨narrower, lower, .inr ⟨downscale, aspect⟩⟩

def ProducerMode.Overlaps (mode : ProducerMode) (range : Int × Int) : Prop :=
  range.1 ≤ mode.maxFps ∧ mode.minFps ≤ range.2

namespace ProducerCapabilities

-- `select(outputs)` and `select(outputs, low, high)`.
def selectFor (caps : ProducerCapabilities) (outputs : List Output) : Option (Int × Int) → Option ProducerMode
  | none => caps.selectAny outputs
  | some (low, high) => caps.select outputs low high

def Lists (caps : ProducerCapabilities) (range : Option (Int × Int)) : Prop :=
  ∀ asked ∈ range, 0 < asked.2 ∧ asked ∈ caps.fpsRanges

structure Offers (caps : ProducerCapabilities) (outputs : List Output) (range : Option (Int × Int))
    (mode : ProducerMode) : Prop where
  declared : mode ∈ caps.modes
  formats : ∀ output ∈ outputs, output.format ∈ mode.formats
  sizes : ∀ output ∈ outputs, mode.Contains output
  rates : ∀ asked ∈ range, mode.Overlaps asked

structure Canonical (caps : ProducerCapabilities) (outputs : List Output) (range : Option (Int × Int))
    (mode : ProducerMode) : Prop where
  offered : caps.Offers outputs range mode
  least : ∀ other, caps.Offers outputs range other → other ≠ mode → mode.rank < other.rank

variable {caps : ProducerCapabilities} {outputs : List Output} {range : Option (Int × Int)}

-- The bounds that `selectFor` passes on; a zero upper bound stands for no range.
def bounds : Option (Int × Int) → Int × Int
  | none => (0, 0)
  | some asked => asked

theorem selectFor_eq (caps : ProducerCapabilities) (outputs : List Output) (range : Option (Int × Int)) :
    caps.selectFor outputs range = caps.select outputs (bounds range).1 (bounds range).2 := by
  cases range <;> rfl

theorem Lists.checked (listed : caps.Lists range) :
    (bounds range).2 = 0 ∨ ((bounds range).1, (bounds range).2) ∈ caps.fpsRanges := by
  cases range with
  | none => exact .inl rfl
  | some asked => exact .inr (listed asked rfl).2

theorem Lists.inRange_iff (listed : caps.Lists range) (formed : caps.WellFormed) (mode : ProducerMode) :
    mode.inRange (bounds range).1 (bounds range).2 = true ↔ ∀ asked ∈ range, mode.Overlaps asked := by
  rw [mode.inRange_iff]
  cases range with
  | none => simp [bounds]
  | some asked =>
    obtain ⟨positive, member⟩ := listed asked rfl
    obtain ⟨low, ordered, _⟩ := caps.fpsRanges_bounds formed asked member
    simp only [bounds, Option.mem_def, Option.some.injEq, forall_eq', ProducerMode.Overlaps]
    constructor
    · rintro (none | ⟨_, _, slow, fast⟩)
      · omega
      · exact ⟨fast, slow⟩
    · rintro ⟨fast, slow⟩
      exact .inr ⟨low, ordered, slow, fast⟩

theorem Lists.offers_iff (listed : caps.Lists range) (formed : caps.WellFormed) (mode : ProducerMode) :
    caps.Offers outputs range mode ↔
      mode ∈ caps.modes ∧ serves outputs (bounds range).1 (bounds range).2 mode = true := by
  simp only [serves_iff, listed.inRange_iff formed, ProducerMode.fits_iff_contains]
  constructor
  · rintro ⟨declared, formats, sizes, rates⟩
    exact ⟨declared, rates, fun output member => ⟨formats output member, sizes output member⟩⟩
  · rintro ⟨declared, rates, fits⟩
    exact ⟨declared, fun output member => (fits output member).1, fun output member => (fits output member).2,
      rates⟩

theorem Lists.best_iff (listed : caps.Lists range) (formed : caps.WellFormed) (mode : ProducerMode) :
    caps.Best outputs (bounds range).1 (bounds range).2 mode ↔ caps.Canonical outputs range mode := by
  have offers : ∀ mode, caps.Offers outputs range mode ↔
      mode ∈ caps.modes ∧ serves outputs (bounds range).1 (bounds range).2 mode = true := listed.offers_iff formed
  constructor
  · rintro ⟨declared, rates, fits, least⟩
    refine ⟨(offers mode).mpr ⟨declared, (serves_iff _ _ _ _).mpr ⟨rates, fits⟩⟩, fun other offered differs => ?_⟩
    obtain ⟨declared', serving⟩ := (offers other).mp offered
    refine lt_of_le_of_ne (least other declared' serving) fun same => differs ?_
    exact caps.mode_eq_of_id formed other mode declared' declared
      (congrArg (fun rank => (ofLex rank).2) same.symm)
  · rintro ⟨offered, least⟩
    obtain ⟨declared, serving⟩ := (offers mode).mp offered
    obtain ⟨rates, fits⟩ := (serves_iff _ _ _ _).mp serving
    refine ⟨declared, rates, fits, fun other declared' serving' => ?_⟩
    by_cases same : other = mode
    · rw [same]
    · exact (least other ((offers other).mpr ⟨declared', serving'⟩) same).le

theorem selectFor_eq_some_iff (limits : caps.WithinLimits outputs) (listed : caps.Lists range)
    (mode : ProducerMode) :
    caps.selectFor outputs range = some mode ↔ caps.Canonical outputs range mode := by
  rw [selectFor_eq, caps.select_eq_some_iff, listed.best_iff (caps.wellFormed limits.valid)]
  simp only [limits, listed.checked, true_and]

section Permutation

variable {modes : List ProducerMode} {outputs' : List Output}

theorem defaultRange_perm (caps : ProducerCapabilities) (shuffled : modes.Perm caps.modes) :
    ({ caps with modes } : ProducerCapabilities).defaultRange = caps.defaultRange := by
  have commonLow : ({ caps with modes } : ProducerCapabilities).commonLow = caps.commonLow :=
    Selection.foldl_max_perm ProducerMode.minFps shuffled _
  have commonHigh : ({ caps with modes } : ProducerCapabilities).commonHigh = caps.commonHigh :=
    Selection.foldl_min_perm ProducerMode.maxFps shuffled _
  have globalLow : ({ caps with modes } : ProducerCapabilities).globalLow = caps.globalLow :=
    Selection.foldl_min_perm ProducerMode.minFps shuffled _
  have globalHigh : ({ caps with modes } : ProducerCapabilities).globalHigh = caps.globalHigh :=
    Selection.foldl_max_perm ProducerMode.maxFps shuffled _
  unfold defaultRange
  rw [commonLow, commonHigh, globalLow, globalHigh]

theorem fpsRanges_perm (caps : ProducerCapabilities) (shuffled : modes.Perm caps.modes) :
    ({ caps with modes } : ProducerCapabilities).fpsRanges = caps.fpsRanges := by
  ext asked
  simp only [mem_fpsRanges, caps.defaultRange_perm shuffled, shuffled.mem_iff]

theorem valid_perm (caps : ProducerCapabilities) (shuffled : modes.Perm caps.modes) (valid : caps.valid = true) :
    ({ caps with modes } : ProducerCapabilities).valid = true := by
  simp only [ProducerCapabilities.valid, decide_eq_true_eq, shuffled.length_eq, shuffled.mem_iff,
    (shuffled.map _).nodup_iff, ← List.length_pos_iff] at valid ⊢
  exact valid

theorem WithinLimits.perm (limits : caps.WithinLimits outputs) (shuffled : modes.Perm caps.modes)
    (reordered : outputs'.Perm outputs) :
    ({ caps with modes } : ProducerCapabilities).WithinLimits outputs' where
  valid := caps.valid_perm shuffled limits.valid
  nonempty absent := limits.nonempty (List.nil_perm.mp (absent ▸ reordered))
  streams := by rw [reordered.length_eq]; exact limits.streams
  advertised output member := by
    have advertised := limits.advertised output (reordered.mem_iff.mp member)
    simp only [advertised_iff, shuffled.mem_iff] at advertised ⊢
    exact advertised
  jpeg := by rw [jpegCount, reordered.countP_eq]; exact limits.jpeg
  processed := by rw [jpegCount, reordered.countP_eq, reordered.length_eq]; exact limits.processed

theorem canonical_perm (shuffled : modes.Perm caps.modes) (reordered : outputs'.Perm outputs) (mode : ProducerMode) :
    ({ caps with modes } : ProducerCapabilities).Canonical outputs' range mode ↔
      caps.Canonical outputs range mode := by
  have offers : ∀ other, ({ caps with modes } : ProducerCapabilities).Offers outputs' range other ↔
      caps.Offers outputs range other := by
    intro other
    constructor
    · rintro ⟨declared, formats, sizes, rates⟩
      exact ⟨shuffled.mem_iff.mp declared, fun output member => formats output (reordered.mem_iff.mpr member),
        fun output member => sizes output (reordered.mem_iff.mpr member), rates⟩
    · rintro ⟨declared, formats, sizes, rates⟩
      exact ⟨shuffled.mem_iff.mpr declared, fun output member => formats output (reordered.mem_iff.mp member),
        fun output member => sizes output (reordered.mem_iff.mp member), rates⟩
  constructor
  · rintro ⟨offered, least⟩
    exact ⟨(offers mode).mp offered, fun other inside => least other ((offers other).mpr inside)⟩
  · rintro ⟨offered, least⟩
    exact ⟨(offers mode).mpr offered, fun other inside => least other ((offers other).mp inside)⟩

theorem selectFor_perm (limits : caps.WithinLimits outputs) (listed : caps.Lists range)
    (shuffled : modes.Perm caps.modes) (reordered : outputs'.Perm outputs) :
    ({ caps with modes } : ProducerCapabilities).selectFor outputs' range = caps.selectFor outputs range := by
  have listed' : ({ caps with modes } : ProducerCapabilities).Lists range := by
    intro asked member
    rw [caps.fpsRanges_perm shuffled]
    exact listed asked member
  ext mode
  rw [selectFor_eq_some_iff (limits.perm shuffled reordered) listed', selectFor_eq_some_iff limits listed]
  exact canonical_perm shuffled reordered mode

end Permutation

theorem selectFor_canonical (caps : ProducerCapabilities) (outputs : List Output) (range : Option (Int × Int))
    (limits : caps.WithinLimits outputs) (listed : caps.Lists range) :
    ((caps.selectFor outputs range).isSome ↔ ∃ mode, caps.Offers outputs range mode) ∧
      (∀ mode, caps.selectFor outputs range = some mode ↔ caps.Canonical outputs range mode) ∧
      ∀ (modes : List ProducerMode) (outputs' : List Output), modes.Perm caps.modes → outputs'.Perm outputs →
        ({ caps with modes } : ProducerCapabilities).selectFor outputs' range = caps.selectFor outputs range := by
  refine ⟨?_, selectFor_eq_some_iff limits listed, fun _ _ => selectFor_perm limits listed⟩
  simp only [listed.offers_iff (caps.wellFormed limits.valid)]
  rw [selectFor_eq, caps.select_isSome_iff]
  simp only [limits, listed.checked, true_and]

theorem selectFor_canonical_thirty :
    ({ diagnostic with modes := diagnostic.modes.reverse } : ProducerCapabilities).selectFor
        [⟨0x23, 1280, 720⟩, ⟨0x23, 1920, 1080⟩] (some (30, 30)) =
      diagnostic.selectFor [⟨0x23, 1920, 1080⟩, ⟨0x23, 1280, 720⟩] (some (30, 30)) := by
  have limits : diagnostic.WithinLimits [⟨0x23, 1920, 1080⟩, ⟨0x23, 1280, 720⟩] :=
    (diagnostic.withinLimits_iff _).mp (by decide)
  have listed : diagnostic.Lists (some (30, 30)) := by
    rintro asked ⟨⟩
    decide
  exact (selectFor_canonical diagnostic _ (some (30, 30)) limits listed).2.2 _ _ (List.reverse_perm _)
    (List.Perm.swap _ _ [])

end ProducerCapabilities

end VirtualCamera
