import VirtualCamera.Core.ModeSelection

set_option autoImplicit false

namespace VirtualCamera

variable {A : Type}

-- `for (i = 0; i < count; i++) out[place(i)] = value(i, out[place(i)])`
def fill (count : Nat) (place : Nat → Nat) (value : Nat → A → A) (out : Nat → A) : Nat → A :=
  (List.range count).foldl (fun out i => Function.update out (place i) (value i (out (place i)))) out

theorem fill_apply (count : Nat) (value : Nat → A → A) (out : Nat → A) (i : Nat) :
    fill count id value out i = if i < count then value i (out i) else out i := by
  induction count with
  | zero => simp [fill]
  | succ count ih =>
    have step : fill (count + 1) id value out =
        Function.update (fill count id value out) count (value count (fill count id value out count)) := by
      simp [fill, List.range_succ]
    rw [step]
    by_cases same : i = count
    · subst same
      simp [ih]
    · rw [Function.update_of_ne same, ih]
      simp only [show i < count + 1 ↔ i < count by omega]

structure Rgba where
  r : UInt8 := 0
  g : UInt8 := 0
  b : UInt8 := 0
  a : UInt8 := 0
deriving DecidableEq

namespace Rgba

def weighted (pixel : Rgba) (red green blue offset : Int) : UInt8 :=
  let sum := red * pixel.r.toNat + green * pixel.g.toNat + blue * pixel.b.toNat + 128
  (clamp ((sum >>> (8 : Nat)) + offset) 0 255).toNat.toUInt8

-- BT.601
def luma (pixel : Rgba) : UInt8 := pixel.weighted 66 129 25 16

def cb (pixel : Rgba) : UInt8 := pixel.weighted (-38) (-74) 112 128

def cr (pixel : Rgba) : UInt8 := pixel.weighted 112 (-94) (-18) 128

end Rgba

-- A pixel buffer as its rows: the row stride is the allocator's business.
structure RgbaImage where
  width : Nat
  height : Nat
  pixel : Nat → Nat → Rgba

structure Ycbcr where
  y : Nat → Nat → UInt8
  cb : Nat → Nat → UInt8
  cr : Nat → Nat → UInt8
  chromaStep : Nat

namespace FrameFiller

def fillBufferFromV2Rgba (width height : Nat) (source : RgbaImage) (ycbcr : Ycbcr) : Ycbcr :=
  let copyWidth := min width source.width
  let copyHeight := min height source.height
  let chromaH := copyHeight / 2
  let chromaW := copyWidth / 2
  let place := fun cx => if ycbcr.chromaStep = 2 then cx * 2 else cx
  { ycbcr with
    y := fill copyHeight id (fun y => fill copyWidth id fun x _ => (source.pixel y x).luma) ycbcr.y
    cb := fill chromaH id (fun cy => fill chromaW place fun cx _ => (source.pixel (cy * 2) (cx * 2)).cb) ycbcr.cb
    cr := fill chromaH id (fun cy => fill chromaW place fun cx _ => (source.pixel (cy * 2) (cx * 2)).cr) ycbcr.cr }

theorem luma_copied (width height : Nat) (source : RgbaImage) (ycbcr : Ycbcr) {x y : Nat}
    (column : x < width) (row : y < height) (wide : width ≤ source.width) (high : height ≤ source.height) :
    (fillBufferFromV2Rgba width height source ycbcr).y y x = (source.pixel y x).luma := by
  simp only [fillBufferFromV2Rgba]
  rw [fill_apply, if_pos (by omega), fill_apply, if_pos (by omega)]

end FrameFiller

namespace JpegEncoder

-- The line that `encodeToBlob` hands to the compressor as number `y`.
def line (source : RgbaImage) (width height y : Nat) : Nat → Rgba :=
  if source.width = width ∧ source.height = height then source.pixel y
  else
    let srow := source.pixel (y * source.height / height)
    fill width id (fun x _ => srow (x * source.width / width)) fun _ => {}

-- Equal sizes need no case of their own: the nearest source pixel is then the pixel itself.
theorem line_apply (source : RgbaImage) (width height : Nat) {x y : Nat} (column : x < width) (row : y < height) :
    line source width height y x = source.pixel (y * source.height / height) (x * source.width / width) := by
  unfold line
  split
  next same =>
    rw [same.1, same.2, Nat.mul_div_cancel y (by omega), Nat.mul_div_cancel x (by omega)]
  next => rw [fill_apply, if_pos column]

end JpegEncoder

-- Every luma sample is of the source pixel the JPEG path takes there, and every source pixel is in a sample's cell.
structure SameSampling (srcWidth srcHeight width height : Nat) : Prop where
  agrees : ∀ (source : RgbaImage) (ycbcr : Ycbcr), source.width = srcWidth → source.height = srcHeight →
    ∀ x < width, ∀ y < height, (FrameFiller.fillBufferFromV2Rgba width height source ycbcr).y y x =
      (source.pixel (y * srcHeight / height) (x * srcWidth / width)).luma ∧
    (FrameFiller.fillBufferFromV2Rgba width height source ycbcr).y y x =
      (JpegEncoder.line source width height y x).luma
  covers : ∀ (source : RgbaImage) (ycbcr : Ycbcr), source.width = srcWidth → source.height = srcHeight →
    ∀ i < srcWidth, ∀ j < srcHeight, ∃ x < width, ∃ y < height,
      x * srcWidth / width ≤ i ∧ i < (x + 1) * srcWidth / width ∧
      y * srcHeight / height ≤ j ∧ j < (y + 1) * srcHeight / height ∧
      (FrameFiller.fillBufferFromV2Rgba width height source ycbcr).y y x =
        (source.pixel (y * srcHeight / height) (x * srcWidth / width)).luma

theorem sameSampling_equal (width height : Nat) : SameSampling width height width height where
  agrees := by
    intro source ycbcr wide high x column y row
    have copied := FrameFiller.luma_copied width height source ycbcr column row wide.ge high.ge
    rw [JpegEncoder.line_apply source width height column row, wide, high, Nat.mul_div_cancel y (by omega),
      Nat.mul_div_cancel x (by omega)]
    exact ⟨copied, copied⟩
  covers := by
    intro source ycbcr wide high i column j row
    have copied := FrameFiller.luma_copied width height source ycbcr column row wide.ge high.ge
    refine ⟨i, column, j, row, ?_⟩
    simp only [Nat.mul_div_cancel _ (show 0 < width by omega), Nat.mul_div_cancel _ (show 0 < height by omega)]
    exact ⟨le_rfl, Nat.lt_succ_self i, le_rfl, Nat.lt_succ_self j, copied⟩

def dotted (width height row column : Nat) : RgbaImage where
  width := width
  height := height
  pixel := fun y x => if y = row ∧ x = column then { r := 255, g := 255, b := 255 } else {}

theorem dotted_luma (width height row column y x : Nat) :
    ((dotted width height row column).pixel y x).luma = if y = row ∧ x = column then 235 else 16 := by
  simp only [dotted]
  split <;> decide

theorem not_sameSampling {srcWidth srcHeight width height : Nat} (wide : 2 ≤ width) (rows : 0 < height)
    (narrow : width + 2 ≤ srcWidth) (lower : height ≤ srcHeight) :
    ¬ SameSampling srcWidth srcHeight width height := by
  intro same
  have last : width - 1 < width := by omega
  have beyond : width ≤ (width - 1) * srcWidth / width := by
    rw [Nat.le_div_iff_mul_le (by omega)]
    have scaled : (width - 1) * (width + 2) ≤ (width - 1) * srcWidth := Nat.mul_le_mul_left _ narrow
    obtain ⟨less, rfl⟩ := Nat.exists_eq_add_of_le wide
    have square : (2 + less) * (2 + less) ≤ (2 + less - 1) * (2 + less + 2) := by
      rw [show 2 + less - 1 = less + 1 by omega]
      nlinarith
    exact square.trans scaled
  let source := dotted srcWidth srcHeight 0 (width - 1)
  have agreed := (same.agrees source ⟨fun _ _ => 0, fun _ _ => 0, fun _ _ => 0, 1⟩ rfl rfl _ last 0 rows).1
  rw [FrameFiller.luma_copied width height source _ last rows (show width ≤ srcWidth by omega) lower,
    dotted_luma, dotted_luma, if_pos ⟨rfl, rfl⟩, if_neg (by omega)] at agreed
  exact absurd agreed (by decide)

namespace ProducerCapabilities

theorem even_width {caps : ProducerCapabilities} (valid : caps.valid = true) {mode : ProducerMode}
    (member : mode ∈ caps.modes) : mode.width % 2 = 0 := by
  simp only [ProducerCapabilities.valid, decide_eq_true_eq] at valid
  obtain ⟨_, _, _, _, _, _, _, _, _, modes⟩ := valid
  have here := modes mode member
  simp only [ProducerMode.valid, decide_eq_true_eq] at here
  exact here.2.2.2.2.2.1

theorem select_size {caps : ProducerCapabilities} {outputs : List Output} {low high : Int} {mode : ProducerMode}
    {output : Output} (selected : caps.select outputs low high = some mode) (member : output ∈ outputs) :
    16 ≤ output.width ∧ 16 ≤ output.height ∧ output.height ≤ mode.height ∧
      ((output.width = mode.width ∧ output.height = mode.height) ∨ output.width + 2 ≤ mode.width) := by
  obtain ⟨limits, _, best⟩ := (caps.select_eq_some_iff outputs low high mode).mp selected
  obtain ⟨_, narrower, lower, _⟩ := (mode.fits_iff output).mp (best.fits output member)
  have aspect := mode.fits_aspect output (best.fits output member)
  obtain ⟨declaring, declared, exactly⟩ := (caps.advertised_iff output).mp (limits.advertised output member)
  obtain ⟨width, height, _⟩ := (declaring.declares_iff output).mp exactly
  have formed := (caps.wellFormed limits.valid).mode declaring declared
  have wide := formed.width_pos
  have tall := formed.height_pos
  have even := even_width limits.valid declared
  have even' := even_width limits.valid best.declared
  rw [width] at wide even
  rw [height] at tall
  by_cases same : output.width = mode.width
  · rw [same, mul_comm] at aspect
    have heights := mul_right_cancel₀ (by omega) aspect
    exact ⟨wide, tall, lower, .inl ⟨same, heights.symm⟩⟩
  · exact ⟨wide, tall, lower, .inr (by omega)⟩

theorem cpu_sampling (caps : ProducerCapabilities) (outputs : List Output) (low high : Int) (mode : ProducerMode)
    (output : Output) (selected : caps.select outputs low high = some mode) (member : output ∈ outputs) :
    SameSampling mode.width.toNat mode.height.toNat output.width.toNat output.height.toNat ↔
      output.width = mode.width ∧ output.height = mode.height := by
  obtain ⟨wide, tall, lower, equal | narrower⟩ := select_size selected member
  · rw [equal.1, equal.2]
    exact iff_of_true (sameSampling_equal _ _) ⟨rfl, rfl⟩
  · refine iff_of_false (not_sameSampling ?_ ?_ ?_ ?_) fun equal => ?_
    all_goals omega

def preview : Output := { format := 0x23, width := 1280, height := 720 }

def recording : Output := { format := 0x23, width := 1920, height := 1080 }

theorem cpu_sampling_preview :
    diagnostic.select [recording, preview] 0 0 = diagnostic.modes[1]? ∧
    ¬ SameSampling 1920 1080 1280 720 := by
  have selected : diagnostic.select [recording, preview] 0 0 = some diagnostic.modes[1] := by decide
  exact ⟨selected, fun same => absurd ((cpu_sampling diagnostic [recording, preview] 0 0 diagnostic.modes[1] preview
    selected (by simp)).mp same) (by decide)⟩

theorem cpu_sampling_crops :
    ¬ ∀ (caps : ProducerCapabilities) (outputs : List Output) (low high : Int) (mode : ProducerMode)
      (output : Output), caps.select outputs low high = some mode → output ∈ outputs →
      (output.width < mode.width ∧ output.height < mode.height) →
      SameSampling mode.width.toNat mode.height.toNat output.width.toNat output.height.toNat := by
  intro all
  have same := all diagnostic [recording, preview] 0 0 diagnostic.modes[1] preview (by decide) (by simp)
    (by decide)
  exact not_sameSampling (by decide) (by decide) (by decide) (by decide) same

end ProducerCapabilities

end VirtualCamera
