import VirtualCamera.E2E.MarkerReading

set_option autoImplicit false

namespace VirtualCamera

namespace FrameIdentity

variable {y : ByteBuffer} {layout : LumaLayout} {b : MarkerBytes} {producer run generation : Int32}
    {sequence : Int64}

theorem decode_eq (fits : Fits y layout) : decode y layout = decodeFlips y layout [false, true] := by
  have limit := layout.rowStride.toInt_lt
  have area : 0 ≤ layout.width.toInt * layout.pixelStride.toInt :=
    Int.mul_nonneg (by have := fits.width; omega) (by have := fits.pixelStride; omega)
  have product : (layout.width * layout.pixelStride).toInt = layout.width.toInt * layout.pixelStride.toInt :=
    toInt_mul_of_lt area (by have := fits.rowStride; omega)
  have limits : (Int32.ofNat (COLS * 4)).toInt = 64 ∧ (Int32.ofNat (ROWS * 4)).toInt = 32 ∧
    (1 : Int32).toInt = 1 := by
    decide
  have accepted : ¬ (layout.width < Int32.ofNat (COLS * 4) ∨ layout.height < Int32.ofNat (ROWS * 4) ∨
      layout.rowStride < layout.width * layout.pixelStride ∨ layout.pixelStride < 1) := by
    simp only [Int32.lt_iff_toInt_lt, product, limits, not_or, Int.not_lt]
    exact ⟨fits.width, fits.height, fits.rowStride, fits.pixelStride⟩
  exact if_neg accepted

def valid (b : MarkerBytes) : Bool := accepts b && (ofBytes b false).positive

theorem identity_of_valid (sure : valid b = true) (flip : Bool) :
    Reading.identity { b, contrast := true } flip = some (ofBytes b flip) := by
  obtain ⟨accepted, fields⟩ := Bool.and_eq_true_iff.mp sure
  have positive : (ofBytes b flip).positive = true := fields
  simp [Reading.identity, accepted, positive]

theorem identity_of_invalid (unsure : valid b = false) (flip : Bool) :
    Reading.identity { b, contrast := true } flip = none := by
  rw [valid, Bool.and_eq_false_iff] at unsure
  rcases unsure with refused | fields
  · simp [Reading.identity, refused]
  · have positive : (ofBytes b flip).positive = false := fields
    simp [Reading.identity, positive]

theorem Encodes.valid (encodes : Encodes producer run generation sequence b) : FrameIdentity.valid b = true := by
  rw [FrameIdentity.valid, encodes.accepted, encodes.positive]
  rfl

theorem read_upright (fits : Fits y layout) {flip : Bool} (painted : Painted y layout flip b)
    (beyond : ∀ i, 16 ≤ i → b i = 0) :
    readCells y layout flip (List.range 128) {} = some { b, contrast := true } :=
  readMarker_eq (fun _ inside => readCell_upright fits painted inside) beyond

theorem read_mirrored (fits : Fits y layout) (painted : Painted y layout true b) :
    readCells y layout false (List.range 128) {} = some { b := mirrored b, contrast := true } :=
  readMarker_eq (fun _ inside => readCell_mirrored fits painted inside) mirrored_beyond

theorem decode_upright (fits : Fits y layout) (painted : Painted y layout false b) (beyond : ∀ i, 16 ≤ i → b i = 0)
    (sure : valid b = true) : decode y layout = .ok (ofBytes b false) := by
  rw [decode_eq fits, decodeFlips, read_upright fits painted beyond]
  dsimp only
  rw [identity_of_valid sure]

theorem decode_mirrored (fits : Fits y layout) (painted : Painted y layout true b)
    (sure : valid (mirrored b) = true) :
    decode y layout = .ok (ofBytes (mirrored b) false) := by
  rw [decode_eq fits, decodeFlips, read_mirrored fits painted]
  dsimp only
  rw [identity_of_valid sure]

theorem decode_flipped (fits : Fits y layout) (painted : Painted y layout true b) (beyond : ∀ i, 16 ≤ i → b i = 0)
    (unsure : valid (mirrored b) = false) (sure : valid b = true) : decode y layout = .ok (ofBytes b true) := by
  rw [decode_eq fits, decodeFlips, read_mirrored fits painted]
  dsimp only
  rw [identity_of_invalid unsure]
  dsimp only
  rw [decodeFlips, read_upright fits painted beyond]
  dsimp only
  rw [identity_of_valid sure]

end FrameIdentity

open FrameIdentity

theorem decode_encode {y : ByteBuffer} {layout : LumaLayout} {b : MarkerBytes} {producer run generation : Int32}
    {sequence : Int64} {flipped : Bool} (encoded : encode producer run generation sequence = some b)
    (fits : Fits y layout) (painted : Painted y layout flipped b) :
    decode y layout = .ok ⟨producer, run, generation, sequence, flipped⟩ ↔
      ¬ (flipped = true ∧ valid (mirrored b) = true) := by
  have encodes := encodes_of_encode encoded
  rw [← encodes.ofBytes]
  cases flipped with
  | false => exact iff_of_true (decode_upright fits painted encodes.beyond encodes.valid) (by simp)
  | true =>
    cases unsure : valid (mirrored b) with
    | false =>
      exact iff_of_true (decode_flipped fits painted encodes.beyond unsure encodes.valid) (by simp)
    | true =>
      rw [decode_mirrored fits painted unsure]
      refine iff_of_false (fun same => ?_) (by simp)
      have flag := congrArg FrameIdentity.flipped (Except.ok.inj same)
      cases flag

namespace FrameIdentity

def smallLayout : LumaLayout := ⟨64, 32, 64, 1⟩

def drawn (b : MarkerBytes) (flipped : Bool) : ByteBuffer where
  position := 0
  limit := 2048
  bytes i :=
    let row := if flipped then 31 - i / 64 else i / 64
    if bit b (row / 4 * 16 + i % 64 / 4) then 255 else 0

theorem smallLayout_sizes : smallLayout.width.toInt = 64 ∧ smallLayout.height.toInt = 32 ∧
    smallLayout.rowStride.toInt = 64 ∧ smallLayout.pixelStride.toInt = 1 ∧ (0 : Int32).toInt = 0 ∧
    (2048 : Int32).toInt = 2048 := by
  decide

theorem drawn_fits (b : MarkerBytes) (flipped : Bool) : Fits (drawn b flipped) smallLayout := by
  constructor <;> simp [smallLayout_sizes, drawn]

theorem drawn_painted (b : MarkerBytes) (flipped : Bool) : Painted (drawn b flipped) smallLayout flipped b := by
  intro cell inside row column within
  obtain ⟨top, bottom, left, right⟩ := within
  simp only [smallLayout_sizes, COLS, ROWS] at top bottom left right
  obtain ⟨k, place⟩ : ∃ k : Nat, (0 : Int) + (if flipped then 32 - 1 - row else row) * 64 + column * 1 = k :=
    ⟨_, (Int.toNat_of_nonneg (by cases flipped <;> simp <;> omega)).symm⟩
  have here : (if flipped then 31 - k / 64 else k / 64) / 4 * 16 + k % 64 / 4 = cell := by
    cases flipped <;> simp at place ⊢ <;> omega
  have shown : luma (drawn b flipped) smallLayout (if flipped then 32 - 1 - row else row) column =
      if bit b cell then 255 else 0 := by
    rw [luma]
    simp only [drawn, smallLayout_sizes, place, Int.toNat_natCast, here]
    cases bit b cell <;> rfl
  simp only [smallLayout_sizes, shown]
  unfold Shows
  cases bit b cell <;> decide

def markerOf (producer run generation : Int32) (sequence : Int64) : MarkerBytes :=
  (encode producer run generation sequence).getD fun _ => 0

theorem encode_eq_markerOf {producer run generation : Int32} {sequence : Int64}
    (range : (encode producer run generation sequence).isSome = true) :
    encode producer run generation sequence = some (markerOf producer run generation sequence) := by
  obtain ⟨b, encoded⟩ := Option.isSome_iff_exists.mp range
  rw [markerOf, encoded]
  rfl

end FrameIdentity

theorem decode_encode_flipped :
    decode (drawn (markerOf 2 0x12345678 65535 0xffffffff) true) smallLayout =
      .ok ⟨2, 0x12345678, 65535, 0xffffffff, true⟩ := by
  have encoded := encode_eq_markerOf (show (encode 2 0x12345678 65535 0xffffffff).isSome = true by decide)
  exact (decode_encode encoded (drawn_fits _ _) (drawn_painted _ _)).mpr (by decide +kernel)

theorem decode_reads_mirror_image :
    ∃ b, encode 1 809830756 27449 268370329 = some b ∧ Fits (drawn b true) smallLayout ∧
      Painted (drawn b true) smallLayout true b ∧
      decode (drawn b true) smallLayout = .ok ⟨153, 268397369, 2404, 809828609, false⟩ := by
  have encoded := encode_eq_markerOf (show (encode 1 809830756 27449 268370329).isSome = true by decide)
  have fits := drawn_fits (markerOf 1 809830756 27449 268370329) true
  have painted := drawn_painted (markerOf 1 809830756 27449 268370329) true
  refine ⟨_, encoded, fits, painted, ?_⟩
  have sure : valid (mirrored (markerOf 1 809830756 27449 268370329)) = true := by decide +kernel
  have fields : ofBytes (mirrored (markerOf 1 809830756 27449 268370329)) false =
      ⟨153, 268397369, 2404, 809828609, false⟩ := by
    decide
  exact (decode_mirrored fits painted sure).trans (congrArg Except.ok fields)

end VirtualCamera
