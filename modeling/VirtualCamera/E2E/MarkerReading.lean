import Mathlib.Tactic.Linarith
import Mathlib.Tactic.Ring
import VirtualCamera.E2E.FrameIdentity

set_option autoImplicit false

namespace VirtualCamera

namespace FrameIdentity

section Words

variable {a c : Int32}

theorem toInt_add_of_lt (low : 0 ≤ a.toInt + c.toInt) (high : a.toInt + c.toInt < 2 ^ 31) :
    (a + c).toInt = a.toInt + c.toInt := by
  rw [Int32.toInt_add]
  exact Int.bmod_eq_of_le_mul_two (by omega) (by omega)

theorem toInt_sub_of_lt (low : 0 ≤ a.toInt - c.toInt) (high : a.toInt - c.toInt < 2 ^ 31) :
    (a - c).toInt = a.toInt - c.toInt := by
  rw [Int32.toInt_sub]
  exact Int.bmod_eq_of_le_mul_two (by omega) (by omega)

theorem toInt_mul_of_lt (low : 0 ≤ a.toInt * c.toInt) (high : a.toInt * c.toInt < 2 ^ 31) :
    (a * c).toInt = a.toInt * c.toInt := by
  rw [Int32.toInt_mul]
  exact Int.bmod_eq_of_le_mul_two (by omega) (by omega)

theorem toInt_div_of_nonneg (low : 0 ≤ a.toInt) (positive : 0 < c.toInt) : (a / c).toInt = a.toInt / c.toInt := by
  have apart : c ≠ -1 := by
    rintro rfl
    have negative : (-1 : Int32).toInt = -1 := by decide
    omega
  rw [Int32.toInt_div_of_ne_right a c apart, Int.tdiv_eq_ediv_of_nonneg low]

end Words

section Bits

variable {b other : MarkerBytes}

theorem bit_eq (cell : Nat) : bit b cell = (b (cell / 8)).getLsbD (7 - cell % 8) := by
  have low : (b (cell / 8) >>> (7 - cell % 8)).getLsbD 0 = (b (cell / 8)).getLsbD (7 - cell % 8) := by simp
  rw [bit, show (1 : BitVec 8) = 1#8 from rfl, BitVec.and_one_eq_setWidth_ofBool_getLsbD, low]
  cases (b (cell / 8)).getLsbD (7 - cell % 8) <;> rfl

theorem bit_setBit (cell place : Nat) : bit (setBit b cell) place = (bit b place || place == cell) := by
  rw [bit_eq, bit_eq, setBit]
  by_cases byte : place / 8 = cell / 8
  · have mask : ((1 : BitVec 8) <<< (7 - cell % 8)).getLsbD (7 - place % 8) = (place == cell) := by
      have power : (1 : BitVec 8) <<< (7 - cell % 8) = BitVec.twoPow 8 (7 - cell % 8) := rfl
      rw [power, BitVec.getLsbD_twoPow, Bool.eq_iff_iff]
      simp
      omega
    rw [byte, Function.update_self, BitVec.getLsbD_or, mask]
  · rw [Function.update_of_ne byte]
    have apart : (place == cell) = false := by
      rw [beq_eq_false_iff_ne]
      rintro rfl
      exact byte rfl
    rw [apart, Bool.or_false]

theorem eq_of_bits (same : ∀ cell < 128, bit b cell = bit other cell) (i : Nat) (low : i < 16) :
    b i = other i := by
  refine BitVec.eq_of_getLsbD_eq fun place within => ?_
  have here := same (8 * i + (7 - place)) (by omega)
  rw [bit_eq, bit_eq, show (8 * i + (7 - place)) / 8 = i by omega,
    show 7 - (8 * i + (7 - place)) % 8 = place by omega] at here
  exact here

structure Read (b : MarkerBytes) (count : Nat) (reading : Reading) : Prop where
  bits : ∀ cell, bit reading.b cell = (decide (cell < count) && bit b cell)
  beyond : ∀ i, 16 ≤ i → reading.b i = 0
  contrast : reading.contrast = true

def Shows (b : MarkerBytes) (cell value : Nat) : Prop :=
  if bit b cell then 176 ≤ value else value ≤ 80

theorem Read.add {count value : Nat} {reading : Reading} (read : Read b count reading) (within : count < 128)
    (shows_ : Shows b count value) : Read b (count + 1) (reading.add count value) := by
  have clear : ¬ (80 < value ∧ value < 176) := by
    unfold Shows at shows_
    split at shows_ <;> omega
  have high : 128 ≤ value ↔ bit b count = true := by
    unfold Shows at shows_
    split at shows_ <;> simp [*] <;> omega
  refine ⟨fun cell => ?_, fun i beyond => ?_, ?_⟩
  · rw [Reading.add]
    dsimp only
    by_cases set_ : bit b count = true
    · rw [if_pos (high.mpr set_), bit_setBit, read.bits]
      by_cases same : cell = count
      · subst same
        simp [set_]
      · have order : cell < count + 1 ↔ cell < count := by omega
        simp [same, order]
    · rw [if_neg (high.not.mpr set_), read.bits]
      by_cases same : cell = count
      · subst same
        simp [Bool.not_eq_true _ ▸ set_]
      · have order : cell < count + 1 ↔ cell < count := by omega
        simp [order]
  · rw [Reading.add]
    dsimp only
    split
    · rw [setBit, Function.update_of_ne (by omega)]
      exact read.beyond i beyond
    · exact read.beyond i beyond
  · rw [Reading.add]
    exact (if_neg clear).trans read.contrast

theorem readCells_eq {y : ByteBuffer} {layout : LumaLayout} {flip : Bool}
    (reads : ∀ cell < 128, ∃ value, readCell y layout flip cell = some value ∧ Shows b cell value)
    (len start : Nat)
    (within : start + len ≤ 128) {reading : Reading} (read : Read b start reading) :
    ∃ result, readCells y layout flip (List.range' start len) reading = some result ∧
      Read b (start + len) result := by
  induction len generalizing start reading with
  | zero => exact ⟨reading, rfl, read⟩
  | succ len ih =>
    obtain ⟨value, here, shows_⟩ := reads start (by omega)
    rw [List.range'_succ, readCells, here]
    have next := ih (start + 1) (by omega) (read.add (by omega) shows_)
    rwa [Nat.add_assoc, Nat.add_comm 1] at next

theorem readMarker_eq {y : ByteBuffer} {layout : LumaLayout} {flip : Bool}
    (reads : ∀ cell < 128, ∃ value, readCell y layout flip cell = some value ∧ Shows b cell value)
    (beyond : ∀ i, 16 ≤ i → b i = 0) :
    readCells y layout flip (List.range 128) {} = some { b, contrast := true } := by
  have start : Read b 0 {} := ⟨fun cell => by simp [bit], fun _ _ => rfl, rfl⟩
  obtain ⟨⟨bytes, contrast⟩, ends, read⟩ := readCells_eq reads 128 0 (by omega) start
  have same : bytes = b := by
    funext i
    by_cases low : i < 16
    · refine eq_of_bits (fun cell inside => ?_) i low
      have shown := read.bits cell
      rwa [decide_eq_true (by omega), Bool.true_and] at shown
    · rw [beyond i (Nat.le_of_not_lt low)]
      exact read.beyond i (Nat.le_of_not_lt low)
  have contrasted : contrast = true := read.contrast
  rw [List.range_eq_range', ends, same, contrasted]

end Bits

structure Fits (y : ByteBuffer) (layout : LumaLayout) : Prop where
  width : 64 ≤ layout.width.toInt
  height : 32 ≤ layout.height.toInt
  pixelStride : 1 ≤ layout.pixelStride.toInt
  rowStride : layout.width.toInt * layout.pixelStride.toInt ≤ layout.rowStride.toInt
  position : 0 ≤ y.position.toInt
  room : y.position.toInt + (layout.height.toInt - 1) * layout.rowStride.toInt +
    (layout.width.toInt - 1) * layout.pixelStride.toInt < y.limit.toInt

def luma (y : ByteBuffer) (layout : LumaLayout) (row column : Int) : Nat :=
  (y.bytes (y.position.toInt + row * layout.rowStride.toInt + column * layout.pixelStride.toInt).toNat).toNat

-- `drawMarker`'s rectangle of a cell, from the top left.
structure InCell (layout : LumaLayout) (cell : Nat) (row column : Int) : Prop where
  top : ((cell / COLS : Nat) : Int) * layout.height.toInt / ROWS ≤ row
  bottom : row < (((cell / COLS : Nat) : Int) + 1) * layout.height.toInt / ROWS
  left : ((cell % COLS : Nat) : Int) * layout.width.toInt / COLS ≤ column
  right : column < (((cell % COLS : Nat) : Int) + 1) * layout.width.toInt / COLS

def Painted (y : ByteBuffer) (layout : LumaLayout) (flipped : Bool) (b : MarkerBytes) : Prop :=
  ∀ cell < 128, ∀ row column : Int, InCell layout cell row column →
    Shows b cell (luma y layout (if flipped then layout.height.toInt - 1 - row else row) column)

section Samples

variable {y : ByteBuffer} {layout : LumaLayout}

theorem Fits.small (fits : Fits y layout) : 31 * layout.width.toInt < 2 ^ 31 ∧
    15 * layout.height.toInt < 2 ^ 31 := by
  have limit := y.limit.toInt_lt
  obtain ⟨width, height, pixelStride, rowStride, position, room⟩ := fits
  generalize layout.width.toInt = w at *
  generalize layout.height.toInt = h at *
  generalize layout.pixelStride.toInt = p at *
  generalize layout.rowStride.toInt = r at *
  have wide : w ≤ w * p := by nlinarith
  have columns : 0 ≤ (w - 1) * p := by nlinarith
  have rows : 31 * w ≤ (h - 1) * r := by nlinarith
  have tall : (h - 1) * 64 ≤ (h - 1) * r := by nlinarith
  constructor <;> omega

def NearMiddle (size parts place at_ : Int) : Prop :=
  (2 * place + 1) * size / (2 * parts) - size / (parts * 8) ≤ at_ ∧
    at_ ≤ (2 * place + 1) * size / (2 * parts) + size / (parts * 8)

theorem NearMiddle.inside {size parts place at_ : Int} (near : NearMiddle size parts place at_)
    (which : parts = 8 ∨ parts = 16) (large : 4 * parts ≤ size) :
    place * size / parts ≤ at_ ∧ at_ < (place + 1) * size / parts := by
  have double : (2 * place + 1) * size = 2 * (place * size) + size := by ring
  have next : (place + 1) * size = place * size + size := by ring
  unfold NearMiddle at near
  rw [double] at near
  rw [next]
  generalize place * size = product at *
  rcases which with rfl | rfl <;> omega

theorem NearMiddle.mirrored {size parts place at_ : Int} (near : NearMiddle size parts place at_)
    (which : parts = 8 ∨ parts = 16) (large : 4 * parts ≤ size) :
    (parts - 1 - place) * size / parts ≤ size - 1 - at_ ∧
      size - 1 - at_ < (parts - 1 - place + 1) * size / parts := by
  have double : (2 * place + 1) * size = 2 * (place * size) + size := by ring
  have this_ : (parts - 1 - place) * size = parts * size - size - place * size := by ring
  have next : (parts - 1 - place + 1) * size = parts * size - place * size := by ring
  unfold NearMiddle at near
  rw [double] at near
  rw [this_, next]
  generalize place * size = product at *
  rcases which with rfl | rfl <;> omega

theorem NearMiddle.within {size parts place at_ : Int} (near : NearMiddle size parts place at_)
    (which : parts = 8 ∨ parts = 16) (large : 4 * parts ≤ size) (low : 0 ≤ place) (high : place < parts) :
    0 ≤ at_ ∧ at_ ≤ size - 1 := by
  have inside := near.inside which large
  have start : 0 ≤ place * size := by nlinarith
  have stop : (place + 1) * size ≤ parts * size := by nlinarith
  generalize place * size = product at *
  generalize (place + 1) * size = upper at *
  rcases which with rfl | rfl <;> omega

section Axis

variable {size : Int32} {parts place : Nat}

theorem middle_toInt (which : parts = 8 ∨ parts = 16) (low : place < parts) (size_pos : 0 ≤ size.toInt)
    (small : (2 * parts - 1) * size.toInt < 2 ^ 31) :
    (Int32.ofNat (2 * place + 1) * size / Int32.ofNat (2 * parts)).toInt =
      (2 * place + 1) * size.toInt / (2 * parts) := by
  have factor : (Int32.ofNat (2 * place + 1)).toInt = 2 * place + 1 := by
    rw [Int32.toInt_ofNat_of_lt (by omega)]
    rfl
  have divisor : (Int32.ofNat (2 * parts)).toInt = 2 * parts := by
    rw [Int32.toInt_ofNat_of_lt (by omega)]
    rfl
  have order : (2 * place + 1 : Int) ≤ 2 * parts - 1 := by omega
  have bounded : (2 * place + 1) * size.toInt ≤ (2 * parts - 1) * size.toInt :=
    Int.mul_le_mul_of_nonneg_right order size_pos
  have nonneg : 0 ≤ (2 * place + 1) * size.toInt := Int.mul_nonneg (by omega) size_pos
  have product : (Int32.ofNat (2 * place + 1) * size).toInt = (2 * place + 1) * size.toInt := by
    rw [toInt_mul_of_lt, factor] <;> rw [factor]
    · exact nonneg
    · omega
  rw [toInt_div_of_nonneg, product, divisor]
  · rw [product]
    exact nonneg
  · rw [divisor]
    omega

theorem eighth_toInt (which : parts = 8 ∨ parts = 16) (size_pos : 0 ≤ size.toInt) :
    (size / Int32.ofNat (parts * 8)).toInt = size.toInt / (parts * 8) := by
  have divisor : (Int32.ofNat (parts * 8)).toInt = parts * 8 := by
    rw [Int32.toInt_ofNat_of_lt (by omega)]
    rfl
  rw [toInt_div_of_nonneg size_pos (by omega), divisor]

theorem nearMiddle_of_sample (which : parts = 8 ∨ parts = 16) (low : place < parts)
    (large : 4 * parts ≤ size.toInt)
    (small : (2 * parts - 1) * size.toInt < 2 ^ 31) {at_ : Int32}
    (sampled : at_ = Int32.ofNat (2 * place + 1) * size / Int32.ofNat (2 * parts) ∨
      at_ = Int32.ofNat (2 * place + 1) * size / Int32.ofNat (2 * parts) - size / Int32.ofNat (parts * 8) ∨
      at_ = Int32.ofNat (2 * place + 1) * size / Int32.ofNat (2 * parts) + size / Int32.ofNat (parts * 8)) :
    NearMiddle size.toInt parts place at_.toInt := by
  have size_pos : 0 ≤ size.toInt := by omega
  have middle := middle_toInt which low size_pos small
  have eighth := eighth_toInt which size_pos
  have exact_ : NearMiddle size.toInt parts place ((2 * place + 1) * size.toInt / (2 * parts)) := by
    unfold NearMiddle
    rcases which with rfl | rfl <;> push_cast <;> omega
  have below : NearMiddle size.toInt parts place
      ((2 * place + 1) * size.toInt / (2 * parts) - size.toInt / (parts * 8)) := by
    unfold NearMiddle
    rcases which with rfl | rfl <;> push_cast <;> omega
  have above : NearMiddle size.toInt parts place
      ((2 * place + 1) * size.toInt / (2 * parts) + size.toInt / (parts * 8)) := by
    unfold NearMiddle
    rcases which with rfl | rfl <;> push_cast <;> omega
  have lower := below.within (by omega) large (by omega) (by omega)
  have upper := above.within (by omega) large (by omega) (by omega)
  have size_small := size.toInt_lt
  rcases sampled with rfl | rfl | rfl
  · rw [middle]
    exact exact_
  · have value : (Int32.ofNat (2 * place + 1) * size / Int32.ofNat (2 * parts) - size / Int32.ofNat
      (parts * 8)).toInt =
        (2 * place + 1) * size.toInt / (2 * parts) - size.toInt / (parts * 8) := by
      rw [toInt_sub_of_lt, middle, eighth] <;> rw [middle, eighth] <;> omega
    rw [value]
    exact below
  · have value : (Int32.ofNat (2 * place + 1) * size / Int32.ofNat (2 * parts) + size / Int32.ofNat
      (parts * 8)).toInt =
        (2 * place + 1) * size.toInt / (2 * parts) + size.toInt / (parts * 8) := by
      rw [toInt_add_of_lt, middle, eighth] <;> rw [middle, eighth] <;> omega
    rw [value]
    exact above

end Axis

theorem sampleX_near (fits : Fits y layout) (cell sample : Nat) :
    NearMiddle layout.width.toInt COLS ((cell % COLS : Nat) : Int) (sampleX layout cell sample).toInt := by
  refine nearMiddle_of_sample (.inr rfl) (Nat.mod_lt _ (by decide)) fits.width fits.small.1 ?_
  unfold sampleX
  dsimp only
  split
  · exact .inr (.inl rfl)
  · split
    · exact .inr (.inr rfl)
    · exact .inl rfl

theorem row_lt {cell : Nat} (inside : cell < 128) : ((cell / COLS : Nat) : Int) < ROWS := by
  have row : cell / COLS < ROWS := by
    rw [COLS, ROWS]
    omega
  exact Int.ofNat_lt.mpr row

theorem sampleY_near (fits : Fits y layout) {cell : Nat} (inside : cell < 128) (sample : Nat) :
    NearMiddle layout.height.toInt ROWS ((cell / COLS : Nat) : Int) (sampleY layout false cell sample).toInt := by
  refine nearMiddle_of_sample (.inl rfl) (Int.ofNat_lt.mp (row_lt inside)) fits.height fits.small.2 ?_
  unfold sampleY
  dsimp only
  rw [if_neg Bool.false_ne_true]
  split
  · exact .inr (.inl rfl)
  · split
    · exact .inr (.inr rfl)
    · exact .inl rfl

theorem get_pixel (fits : Fits y layout) {row column : Int32}
    (rows : 0 ≤ row.toInt ∧ row.toInt ≤ layout.height.toInt - 1)
    (columns : 0 ≤ column.toInt ∧ column.toInt ≤ layout.width.toInt - 1) :
    ∃ pixel, y.get (y.position + row * layout.rowStride + column * layout.pixelStride) = some pixel ∧
      pixel.toNat = luma y layout row.toInt column.toInt := by
  have limit := y.limit.toInt_lt
  obtain ⟨width, height, pixelStride, rowStride, position, room⟩ := fits
  have stride : 0 ≤ layout.rowStride.toInt := by nlinarith
  have row_low : 0 ≤ row.toInt * layout.rowStride.toInt := Int.mul_nonneg rows.1 stride
  have row_high : row.toInt * layout.rowStride.toInt ≤ (layout.height.toInt - 1) * layout.rowStride.toInt :=
    Int.mul_le_mul_of_nonneg_right rows.2 stride
  have column_low : 0 ≤ column.toInt * layout.pixelStride.toInt := Int.mul_nonneg columns.1 (by omega)
  have column_high : column.toInt * layout.pixelStride.toInt ≤
      (layout.width.toInt - 1) * layout.pixelStride.toInt := Int.mul_le_mul_of_nonneg_right columns.2 (by omega)
  have row_part : (row * layout.rowStride).toInt = row.toInt * layout.rowStride.toInt :=
    toInt_mul_of_lt row_low (by omega)
  have column_part : (column * layout.pixelStride).toInt = column.toInt * layout.pixelStride.toInt :=
    toInt_mul_of_lt column_low (by omega)
  have start : (y.position + row * layout.rowStride).toInt =
      y.position.toInt + row.toInt * layout.rowStride.toInt := by
    rw [toInt_add_of_lt, row_part] <;> rw [row_part] <;> omega
  have place : (y.position + row * layout.rowStride + column * layout.pixelStride).toInt =
      y.position.toInt + row.toInt * layout.rowStride.toInt + column.toInt * layout.pixelStride.toInt := by
    rw [toInt_add_of_lt, start, column_part] <;> rw [start, column_part] <;> omega
  have inside : 0 ≤ y.position + row * layout.rowStride + column * layout.pixelStride ∧
      y.position + row * layout.rowStride + column * layout.pixelStride < y.limit := by
    rw [Int32.le_iff_toInt_le, Int32.lt_iff_toInt_lt, place, Int32.toInt_zero]
    omega
  refine ⟨_, if_pos inside, ?_⟩
  rw [place]
  rfl

theorem sampleY_flip (fits : Fits y layout) {cell : Nat} (inside : cell < 128) (flip : Bool) (sample : Nat) :
    (sampleY layout flip cell sample).toInt =
      if flip then layout.height.toInt - 1 - (sampleY layout false cell sample).toInt
      else (sampleY layout false cell sample).toInt := by
  cases flip with
  | false => rfl
  | true =>
    obtain ⟨low, high⟩ :=
      (sampleY_near fits inside sample).within (.inl rfl) fits.height (Int.natCast_nonneg _) (row_lt inside)
    have size := layout.height.toInt_lt
    have one : (1 : Int32).toInt = 1 := by decide
    have tall := fits.height
    have less : (layout.height - 1).toInt = layout.height.toInt - 1 := by
      rw [toInt_sub_of_lt, one] <;> rw [one] <;> omega
    have turned : sampleY layout true cell sample = layout.height - 1 - sampleY layout false cell sample := rfl
    rw [turned, if_pos rfl, toInt_sub_of_lt, less] <;> rw [less] <;> omega

variable {b : MarkerBytes} {flip : Bool}

theorem readCell_of_samples {cell place : Nat}
    (samples : ∀ sample, ∃ pixel, y.get (sampleIndex y layout flip cell sample) = some pixel ∧
      Shows b place pixel.toNat) : ∃ value, readCell y layout flip cell = some value ∧ Shows b place value := by
  obtain ⟨p0, get0, shows0⟩ := samples 0
  obtain ⟨p1, get1, shows1⟩ := samples 1
  obtain ⟨p2, get2, shows2⟩ := samples 2
  obtain ⟨p3, get3, shows3⟩ := samples 3
  obtain ⟨p4, get4, shows4⟩ := samples 4
  have five : List.range 5 = [0, 1, 2, 3, 4] := rfl
  refine ⟨(p0.toNat + (p1.toNat + (p2.toNat + (p3.toNat + (p4.toNat + 0))))) / 5, ?_, ?_⟩
  · rw [readCell, five]
    simp [get0, get1, get2, get3, get4]
  · unfold Shows at *
    split at shows0 <;> simp_all <;> omega

theorem pixel_of_sample (fits : Fits y layout) {cell : Nat} (inside : cell < 128) (flip : Bool) (sample : Nat) :
    ∃ pixel, y.get (sampleIndex y layout flip cell sample) = some pixel ∧
      pixel.toNat = luma y layout (sampleY layout flip cell sample).toInt (sampleX layout cell sample).toInt := by
  have column : ((cell % COLS : Nat) : Int) < COLS := Int.ofNat_lt.mpr (Nat.mod_lt _ (by decide))
  have rows := (sampleY_near fits inside sample).within (.inl rfl) fits.height (Int.natCast_nonneg _)
    (row_lt inside)
  have columns := (sampleX_near fits cell sample).within (.inr rfl) fits.width (Int.natCast_nonneg _) column
  refine get_pixel fits ?_ columns
  rw [sampleY_flip fits inside]
  cases flip
  · exact rows
  · rw [if_pos rfl]
    omega

theorem readCell_upright (fits : Fits y layout) (painted : Painted y layout flip b) {cell : Nat}
    (inside : cell < 128) :
    ∃ value, readCell y layout flip cell = some value ∧ Shows b cell value := by
  refine readCell_of_samples fun sample => ?_
  obtain ⟨pixel, got, same⟩ := pixel_of_sample fits inside flip sample
  obtain ⟨top, bottom⟩ := (sampleY_near fits inside sample).inside (.inl rfl) fits.height
  obtain ⟨left, right⟩ := (sampleX_near fits cell sample).inside (.inr rfl) fits.width
  have shown := painted cell inside _ _ ⟨top, bottom, left, right⟩
  rw [← sampleY_flip fits inside, ← same] at shown
  exact ⟨pixel, got, shown⟩

def mirrorCell (cell : Nat) : Nat := (7 - cell / 16) * 16 + cell % 16

def mirrored (b : MarkerBytes) : MarkerBytes := fun i => if i < 16 then b (14 - 2 * (i / 2) + i % 2) else 0

theorem bit_mirrored {cell : Nat} (inside : cell < 128) : bit (mirrored b) cell = bit b (mirrorCell cell) := by
  have place : mirrorCell cell / 8 = 14 - 2 * (cell / 8 / 2) + cell / 8 % 2 := by
    rw [mirrorCell]
    omega
  have offset : mirrorCell cell % 8 = cell % 8 := by
    rw [mirrorCell]
    omega
  rw [bit_eq, bit_eq, mirrored, if_pos (by omega), place, offset]

theorem readCell_mirrored (fits : Fits y layout) (painted : Painted y layout true b) {cell : Nat}
    (inside : cell < 128) :
    ∃ value, readCell y layout false cell = some value ∧ Shows (mirrored b) cell value := by
  refine readCell_of_samples fun sample => ?_
  obtain ⟨pixel, got, same⟩ := pixel_of_sample fits inside false sample
  obtain ⟨top, bottom⟩ := (sampleY_near fits inside sample).mirrored (.inl rfl) fits.height
  obtain ⟨left, right⟩ := (sampleX_near fits cell sample).inside (.inr rfl) fits.width
  have row : ((mirrorCell cell / COLS : Nat) : Int) = (ROWS : Int) - 1 - ((cell / COLS : Nat) : Int) := by
    rw [mirrorCell, COLS, ROWS]
    omega
  have column : mirrorCell cell % COLS = cell % COLS := by
    rw [mirrorCell, COLS]
    omega
  have within : InCell layout (mirrorCell cell)
    (layout.height.toInt - 1 - (sampleY layout false cell sample).toInt)
      (sampleX layout cell sample).toInt := by
    constructor
    · rw [row]
      exact top
    · rw [row]
      exact bottom
    · rw [column]
      exact left
    · rw [column]
      exact right
  have other : mirrorCell cell < 128 := by
    rw [mirrorCell]
    omega
  have shown := painted (mirrorCell cell) other _ _ within
  rw [if_pos rfl, Int.sub_sub_self, ← same] at shown
  refine ⟨pixel, got, ?_⟩
  rw [Shows, bit_mirrored inside]
  exact shown

theorem mirrored_beyond (i : Nat) (high : 16 ≤ i) : mirrored b i = 0 := if_neg (Nat.not_lt.mpr high)

end Samples

end FrameIdentity

end VirtualCamera
