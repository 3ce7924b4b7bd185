import Mathlib.Tactic.Linarith
import VirtualCamera.Core.FpsRanges

set_option autoImplicit false

namespace VirtualCamera

theorem frameDuration_bounds (fps : Int) (positive : 1 ≤ fps) :
    nanosPerSecond ≤ fps * frameDuration fps ∧ fps * frameDuration fps ≤ nanosPerSecond + fps - 1 := by
  have split := Int.mul_ediv_add_emod (nanosPerSecond + fps - 1) fps
  have low := Int.emod_nonneg (nanosPerSecond + fps - 1) (by omega : fps ≠ 0)
  have high := Int.emod_lt_of_pos (nanosPerSecond + fps - 1) (by omega : 0 < fps)
  unfold frameDuration
  constructor <;> omega

theorem frameDuration_lt (slow fast : Int) (positive : 1 ≤ slow) (less : slow < fast)
    (bounded : fast ≤ 120) : frameDuration fast < frameDuration slow := by
  obtain ⟨slowLow, _⟩ := frameDuration_bounds slow positive
  obtain ⟨fastLow, fastHigh⟩ := frameDuration_bounds fast (by omega)
  by_contra inverted
  have below : frameDuration slow ≤ frameDuration fast := not_lt.mp inverted
  have scaled : slow * frameDuration slow ≤ slow * frameDuration fast :=
    mul_le_mul_of_nonneg_left below (by omega)
  have gap : frameDuration fast ≤ (fast - slow) * frameDuration fast := by
    nlinarith [show (0 : Int) ≤ frameDuration fast by unfold nanosPerSecond at fastLow; nlinarith]
  unfold nanosPerSecond at *
  nlinarith

theorem frameDuration_le_iff (a b : Int) (lowA : 1 ≤ a) (highA : a ≤ 120) (lowB : 1 ≤ b)
    (highB : b ≤ 120) : frameDuration a ≤ frameDuration b ↔ b ≤ a := by
  constructor
  · intro ordered
    by_contra faster
    exact absurd ordered (not_le.mpr (frameDuration_lt a b lowA (not_le.mp faster) highB))
  · intro slower
    rcases eq_or_lt_of_le slower with rfl | less
    · exact le_rfl
    · exact (frameDuration_lt b a lowB less highA).le

namespace MetadataBuilder

theorem mem_declaredOutputs (caps : ProducerCapabilities) (output : Output) :
    output ∈ declaredOutputs caps ↔ caps.advertised output = true := by
  simp only [declaredOutputs, List.mem_flatMap, List.mem_map, caps.advertised_iff,
    ProducerMode.declares_iff]
  refine exists_congr fun mode => and_congr_right fun _ => ?_
  constructor
  · rintro ⟨format, member, rfl⟩
    exact ⟨rfl, rfl, member⟩
  · rintro ⟨width, height, member⟩
    exact ⟨output.format, member, by rw [width, height]⟩

theorem mem_outputs (caps : ProducerCapabilities) (output : Output) (rate : Int) :
    (output, rate) ∈ outputs caps ↔ caps.advertised output = true ∧ rate = declaredRate caps output := by
  simp only [outputs, List.mem_map, List.mem_insertionSort, List.mem_dedup, Prod.mk.injEq]
  constructor
  · rintro ⟨other, member, rfl, rfl⟩
    exact ⟨(mem_declaredOutputs caps other).mp member, rfl⟩
  · rintro ⟨advertised, rfl⟩
    exact ⟨output, (mem_declaredOutputs caps output).mpr advertised, rfl, rfl⟩

theorem le_declaredRate_iff (caps : ProducerCapabilities) (output : Output) (rate : Int)
    (positive : 1 ≤ rate) :
    rate ≤ declaredRate caps output ↔
      ∃ mode ∈ caps.modes, mode.declares output = true ∧ rate ≤ mode.maxFps := by
  have below := Selection.foldl_max_le_iff ProducerMode.maxFps
    (caps.modes.filter (·.declares output)) 0 (rate - 1)
  constructor
  · intro reached
    by_contra missing
    push Not at missing
    have short : declaredRate caps output ≤ rate - 1 := by
      refine below.mpr ⟨by omega, fun mode member => ?_⟩
      obtain ⟨declared, exact⟩ := List.mem_filter.mp member
      have slower := missing mode declared exact
      omega
    omega
  · rintro ⟨mode, declared, exact, fast⟩
    by_contra slow
    have short := (below.mp (by unfold declaredRate at slow; omega)).2 mode
      (List.mem_filter.mpr ⟨declared, exact⟩)
    omega

theorem declaredRate_bounds (caps : ProducerCapabilities) (formed : caps.WellFormed) (output : Output)
    (advertised : caps.advertised output = true) :
    1 ≤ declaredRate caps output ∧ declaredRate caps output ≤ 120 := by
  constructor
  · obtain ⟨mode, declared, exact⟩ := (caps.advertised_iff output).mp advertised
    have shape := formed.mode mode declared
    have low := shape.fps_pos
    have ordered := shape.fps_ordered
    exact (le_declaredRate_iff caps output 1 le_rfl).mpr ⟨mode, declared, exact, by omega⟩
  · refine (Selection.foldl_max_le_iff ProducerMode.maxFps _ 0 120).mpr ⟨by omega, fun mode member => ?_⟩
    exact (formed.mode mode (List.mem_filter.mp member).1).fps_bounded

end MetadataBuilder

def DurationsRespected (caps : ProducerCapabilities) (outputs : List Output) (duration : Int) : Prop :=
  ∀ characteristics, MetadataBuilder.buildCameraCharacteristics (some caps) = some characteristics →
    ∀ output ∈ outputs, ∀ least, (output, least) ∈ characteristics.minFrameDurations → least ≤ duration

-- Each output has a mode of its own size that is as fast as the mode the request will run.
def RatesDeclared (caps : ProducerCapabilities) (outputs : List Output) (low high : Int) : Prop :=
  ∀ mode, caps.Best outputs low high mode → ∀ output ∈ outputs, ∃ exact ∈ caps.modes,
    exact.declares output = true ∧ min high mode.maxFps ≤ exact.maxFps

theorem minFrameDurations_iff (caps : ProducerCapabilities) (valid : caps.valid = true)
    (output : Output) (least : Int) (characteristics : CameraCharacteristics)
    (built : MetadataBuilder.buildCameraCharacteristics (some caps) = some characteristics) :
    (output, least) ∈ characteristics.minFrameDurations ↔ caps.advertised output = true ∧
      least = frameDuration (MetadataBuilder.declaredRate caps output) := by
  simp only [MetadataBuilder.buildCameraCharacteristics, Option.getD_some, valid, Bool.not_true,
    Bool.false_eq_true, if_false, Option.some.injEq] at built
  subst built
  simp only [List.mem_map, Prod.mk.injEq]
  constructor
  · rintro ⟨⟨other, rate⟩, member, rfl, rfl⟩
    obtain ⟨advertised, rfl⟩ := (MetadataBuilder.mem_outputs caps other rate).mp member
    exact ⟨advertised, rfl⟩
  · rintro ⟨advertised, rfl⟩
    exact ⟨_, (MetadataBuilder.mem_outputs caps output _).mpr ⟨advertised, rfl⟩, rfl, rfl⟩

theorem durationsRespected_iff (caps : ProducerCapabilities) (outputs : List Output) (low high : Int)
    (mode : ProducerMode) (positive : 0 < high)
    (selected : caps.select outputs low high = some mode) :
    DurationsRespected caps outputs (frameDuration (min high mode.maxFps)) ↔
      RatesDeclared caps outputs low high := by
  obtain ⟨limits, listed, best⟩ := (caps.select_eq_some_iff outputs low high mode).mp selected
  have valid := limits.valid
  have formed := caps.wellFormed valid
  have shape := formed.mode mode best.declared
  have low' := shape.fps_pos
  have ordered := shape.fps_ordered
  have bounded := shape.fps_bounded
  have rate : 1 ≤ min high mode.maxFps ∧ min high mode.maxFps ≤ 120 := by omega
  have each : ∀ output ∈ outputs,
      (frameDuration (MetadataBuilder.declaredRate caps output) ≤ frameDuration (min high mode.maxFps) ↔
        ∃ exact ∈ caps.modes, exact.declares output = true ∧ min high mode.maxFps ≤ exact.maxFps) := by
    intro output member
    obtain ⟨declaredLow, declaredHigh⟩ :=
      MetadataBuilder.declaredRate_bounds caps formed output (limits.advertised output member)
    rw [frameDuration_le_iff _ _ declaredLow declaredHigh rate.1 rate.2]
    exact MetadataBuilder.le_declaredRate_iff caps output _ rate.1
  have unique : ∀ other, caps.Best outputs low high other → other = mode := by
    intro other alike
    have picked := (caps.select_eq_some_iff outputs low high other).mpr ⟨limits, listed, alike⟩
    exact Option.some.inj (picked.symm.trans selected)
  obtain ⟨characteristics, built⟩ : ∃ characteristics,
      MetadataBuilder.buildCameraCharacteristics (some caps) = some characteristics := by
    simp [MetadataBuilder.buildCameraCharacteristics, valid]
  constructor
  · intro respected other alike output member
    rw [unique other alike]
    refine (each output member).mp (respected characteristics built output member _ ?_)
    exact (minFrameDurations_iff caps valid output _ characteristics built).mpr
      ⟨limits.advertised output member, rfl⟩
  · intro declared built' same output member least entry
    obtain ⟨_, rfl⟩ := (minFrameDurations_iff caps valid output least built' same).mp entry
    exact (each output member).mpr (declared mode best output member)

end VirtualCamera
