import VirtualCamera.E2E.MarkerOrientation

set_option autoImplicit false

namespace VirtualCamera

open Checksums

namespace FrameIdentity

def toggle (b : MarkerBytes) (cell : Nat) : MarkerBytes :=
  Function.update b (cell / 8) (b (cell / 8) ^^^ (1 : BitVec 8) <<< (7 - cell % 8))

def inverted (b : MarkerBytes) (cells : List Nat) : MarkerBytes := cells.foldr (fun cell b => toggle b cell) b

def carried (b : MarkerBytes) : BitVec 16 := word b 14 ^^^ (b 15).setWidth 16

def residue (b : MarkerBytes) : BitVec 16 := crc b ^^^ carried b

def single (cell : Nat) : MarkerBytes := fun i => if i = cell / 8 then (1 : BitVec 8) <<< (7 - cell % 8) else 0

def syndrome (cell : Nat) : BitVec 16 :=
  remainder polynomial 8 0 ((List.range 14).map (word (single cell))) ^^^ carried (single cell)

section Residues

variable {b : MarkerBytes}

theorem toggle_eq (cell i : Nat) : toggle b cell i = b i ^^^ single cell i := by
  rw [toggle, single]
  by_cases same : i = cell / 8
  · rw [same, Function.update_self, if_pos rfl]
  · rw [Function.update_of_ne same, if_neg same]
    exact BitVec.xor_zero.symm

theorem word_toggle (cell i : Nat) : word (toggle b cell) i = word b i ^^^ word (single cell) i := by
  rw [word, toggle_eq, BitVec.setWidth_xor, BitVec.shiftLeft_xor_distrib]
  rfl

theorem residue_toggle (cell : Nat) : residue (toggle b cell) = residue b ^^^ syndrome cell := by
  have register : crc (toggle b cell) =
      crc b ^^^ remainder polynomial 8 0 ((List.range 14).map (word (single cell))) := by
    have linear := remainder_xor polynomial 8 0xffff 0 (word b) (word (single cell)) (List.range 14)
    have words : word (toggle b cell) = fun i => word b i ^^^ word (single cell) i := funext (word_toggle cell)
    have start : (0xffff : BitVec 16) ^^^ 0 = 0xffff := by decide
    rw [crc_eq, crc_eq, words, ← linear, start]
  have check : carried (toggle b cell) = carried b ^^^ carried (single cell) := by
    rw [carried, word_toggle, toggle_eq, BitVec.setWidth_xor, xor_swap]
    rfl
  rw [residue, register, check, xor_swap]
  rfl

theorem residue_inverted (cells : List Nat) : residue
    (inverted b cells) = residue b ^^^ combined syndrome cells := by
  induction cells with
  | nil => exact BitVec.xor_zero.symm
  | cons cell cells ih =>
    have first : inverted b (cell :: cells) = toggle (inverted b cells) cell := rfl
    have joined : combined syndrome (cell :: cells) = syndrome cell ^^^ combined syndrome cells := rfl
    rw [first, joined, residue_toggle, ih, BitVec.xor_assoc, BitVec.xor_comm (combined syndrome cells)]

theorem carried_eq : carried b = BitVec.ofNat 16 (unsigned b 14 2) := by
  have shape : unsigned b 14 2 = (b 14).toNat <<< 8 ||| (b 15).toNat := by
    simp [unsigned, List.range']
  refine BitVec.eq_of_getLsbD_eq fun i low => ?_
  rw [shape, carried, word, BitVec.getLsbD_xor, BitVec.getLsbD_ofNat, Nat.testBit_or, Nat.testBit_shiftLeft,
    BitVec.getLsbD_shiftLeft, BitVec.getLsbD_setWidth, BitVec.getLsbD_setWidth]
  -- Below the eighth place there is only the last byte, above it only the byte before.
  by_cases half : i < 8
  · simp [half, low, Nat.not_le.mpr half, BitVec.testBit_toNat]
  · have inside : i - 8 < 16 := by omega
    simp [half, low, inside, Nat.le_of_not_lt half, BitVec.testBit_toNat]

theorem residue_of_accepts (sure : accepts b = true) : residue b = 0 := by
  have checked : unsigned b 14 2 = (crc b).toNat := (of_decide_eq_true sure).2.2.2
  rw [residue, carried_eq, checked, BitVec.ofNat_toNat, BitVec.setWidth_eq]
  exact BitVec.xor_self

theorem word_single (cell : Nat) : word (single cell) (cell / 8) = shifts polynomial (15 - cell % 8) 1 := by
  have moved : ∀ bit < 8, ((1 : BitVec 8) <<< (7 - bit)).setWidth 16 <<< 8 = shifts polynomial (15 - bit) 1 := by
    decide
  rw [word, single, if_pos rfl]
  exact moved _ (Nat.mod_lt _ (by decide))

theorem word_single_of_ne {cell i : Nat} (other : i ≠ cell / 8) : word (single cell) i = 0 := by
  rw [word, single, if_neg other]
  rfl

theorem words_single {cell : Nat} {places : List Nat} (others : ∀ i ∈ places, i ≠ cell / 8) :
    places.map (word (single cell)) = List.replicate places.length 0#16 :=
  List.map_eq_replicate_iff.mpr fun i member => word_single_of_ne (others i member)

theorem remainder_words_single {cell : Nat} (early : cell < 112) :
    remainder polynomial 8 0 ((List.range 14).map (word (single cell))) = shifts polynomial (127 - cell) 1 := by
  have split : List.range 14 =
      List.range (cell / 8) ++ cell / 8 :: List.range' (cell / 8 + 1) (13 - cell / 8) := by
    rw [← List.range'_succ, List.range_eq_range', List.range_eq_range']
    have whole : 14 = cell / 8 + (13 - cell / 8 + 1) := by omega
    have joined : List.range' 0 (cell / 8) ++ List.range' (0 + cell / 8) (13 - cell / 8 + 1) = List.range' 0 14 := by
      rw [List.range'_append_1, ← whole]
    rw [← joined, Nat.zero_add]
  have before : ∀ i ∈ List.range (cell / 8), i ≠ cell / 8 := fun i member =>
    Nat.ne_of_lt (List.mem_range.mp member)
  have after : ∀ i ∈ List.range' (cell / 8 + 1) (13 - cell / 8), i ≠ cell / 8 := fun i member =>
    Nat.ne_of_gt (List.mem_range'_1.mp member).1
  have count : 15 - cell % 8 + (13 - cell / 8 + 1) * 8 = 127 - cell := by omega
  rw [split, List.map_append, List.map_cons, words_single before, words_single after, word_single,
    List.length_range, List.length_range']
  exact (remainder_single ..).trans (by rw [← shifts_add, count])

theorem remainder_words_single_of_late {cell : Nat} (late : 112 ≤ cell) :
    remainder polynomial 8 0 ((List.range 14).map (word (single cell))) = 0 := by
  have others : ∀ i ∈ List.range 14, i ≠ cell / 8 := fun i member => by
    have within := List.mem_range.mp member
    omega
  rw [words_single others, remainder_zeros]
  exact shifts_zero _ _

theorem carried_single_of_early {cell : Nat} (early : cell < 112) : carried (single cell) = 0 := by
  rw [carried, word_single_of_ne (by omega), single, if_neg (by omega)]
  rfl

theorem carried_single {cell : Nat} (late : 112 ≤ cell) (inside : cell < 128) :
    carried (single cell) = shifts polynomial (127 - cell) 1 := by
  by_cases upper : cell < 120
  · have first : cell / 8 = 14 := by omega
    have alone := word_single cell
    rw [first] at alone
    have count : 15 - cell % 8 = 127 - cell := by omega
    rw [carried, alone, single, if_neg (by omega), count]
    exact BitVec.xor_zero
  · have lower : ∀ bit < 8, ((1 : BitVec 8) <<< (7 - bit)).setWidth 16 = shifts polynomial (7 - bit) 1 := by
      decide
    have count : 7 - cell % 8 = 127 - cell := by omega
    rw [carried, word_single_of_ne (by omega), single, if_pos (by omega), lower _ (Nat.mod_lt _ (by decide)), count]
    exact BitVec.zero_xor

theorem syndrome_eq {cell : Nat} (inside : cell < 128) : syndrome cell = shifts polynomial (127 - cell) 1 := by
  rw [syndrome]
  by_cases early : cell < 112
  · rw [remainder_words_single early, carried_single_of_early early]
    exact BitVec.xor_zero
  · rw [remainder_words_single_of_late (by omega), carried_single (by omega) inside]
    exact BitVec.zero_xor

theorem order_polynomial : ∀ k < 128, 0 < k → shifts polynomial k 1 ≠ 1 := by decide

theorem parity_syndrome {cell : Nat} (inside : cell < 128) : parity (syndrome cell) = 1 := by
  have odd : parity polynomial = 1 := by decide
  rw [syndrome_eq inside, parity_shifts odd]
  decide

theorem syndrome_injective {cell other : Nat} (inside : cell < 128) (other_inside : other < 128)
    (same : syndrome cell = syndrome other) : cell = other := by
  rw [syndrome_eq inside, syndrome_eq other_inside] at same
  have apart := shifts_apart (by decide) order_polynomial (by omega) (by omega) same
  omega

end Residues

theorem accepts_inverted {b : MarkerBytes} (sure : accepts b = true) {cells : List Nat}
    (inside : ∀ cell ∈ cells, cell < 128) (distinct : cells.Nodup) (some_ : cells ≠ []) (few : cells.length ≤ 3) :
    accepts (inverted b cells) = false := by
  have spoilt : combined syndrome cells ≠ 0 :=
    combined_ne_zero (fun cell member => parity_syndrome (inside cell member))
      (fun cell member other other_member => syndrome_injective (inside cell member) (inside other other_member))
      distinct some_ few
  cases wrong : accepts (inverted b cells) with
  | false => rfl
  | true =>
    have zero := residue_of_accepts wrong
    rw [residue_inverted, residue_of_accepts sure] at zero
    exact absurd (BitVec.zero_xor.symm.trans zero) spoilt

theorem inverted_beyond {b : MarkerBytes} (beyond : ∀ i, 16 ≤ i → b i = 0) {cells : List Nat}
    (inside : ∀ cell ∈ cells, cell < 128) (i : Nat) (high : 16 ≤ i) : inverted b cells i = 0 := by
  induction cells with
  | nil => exact beyond i high
  | cons cell cells ih =>
    have within := inside cell List.mem_cons_self
    have rest := ih fun other member => inside other (List.mem_cons_of_mem _ member)
    rw [inverted, List.foldr_cons, toggle, Function.update_of_ne (by omega)]
    exact rest

theorem flipped_of_decodeFlips {y : ByteBuffer} {layout : LumaLayout} {id : FrameIdentity}
    (decoded : decodeFlips y layout [true] = .ok id) : id.flipped = true := by
  rw [decodeFlips] at decoded
  split at decoded
  · cases decoded
  next reading _ =>
    split at decoded
    next found here =>
      cases decoded
      rw [Reading.identity] at here
      split at here
      · dsimp only at here
        split at here
        · cases here
          rfl
        · cases here
      · cases here
    · cases decoded

end FrameIdentity

open FrameIdentity

theorem decode_inverted {y : ByteBuffer} {layout : LumaLayout} {b : MarkerBytes} {producer run generation : Int32}
    {sequence : Int64} {cells : List Nat} (encoded : encode producer run generation sequence = some b)
    (fits : Fits y layout) (inside : ∀ cell ∈ cells, cell < 128) (distinct : cells.Nodup) (some_ : cells ≠ [])
    (few : cells.length ≤ 3) (painted : Painted y layout false (inverted b cells)) :
    ∀ id, decode y layout = .ok id → id.flipped ≠ false := by
  intro id decoded
  have encodes := encodes_of_encode encoded
  have refused := accepts_inverted encodes.accepted inside distinct some_ few
  have unsure : valid (inverted b cells) = false := by
    rw [valid, refused]
    rfl
  rw [decode_eq fits, decodeFlips, read_upright fits painted (inverted_beyond encodes.beyond inside)] at decoded
  dsimp only at decoded
  rw [identity_of_invalid unsure] at decoded
  rw [flipped_of_decodeFlips decoded]
  decide

theorem decode_inverted_three :
    decode (drawn (inverted (markerOf 2 0x12345678 65535 0xffffffff) [29, 60, 127]) false) smallLayout ≠
      .ok ⟨2, 0x12345678, 65535, 0xffffffff, false⟩ := by
  have encoded := encode_eq_markerOf (show (encode 2 0x12345678 65535 0xffffffff).isSome = true by decide)
  intro decoded
  exact decode_inverted encoded (drawn_fits _ _) (by decide) (by decide) (by decide) (by decide)
    (drawn_painted _ _) _ decoded rfl

end VirtualCamera
