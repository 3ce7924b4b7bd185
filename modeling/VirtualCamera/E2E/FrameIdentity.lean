import Mathlib.Logic.Function.Basic
import VirtualCamera.Shared.Checksums

set_option autoImplicit false

namespace VirtualCamera

open Checksums

-- The sixteen bytes of a marker, by index. There is nothing beyond them.
abbrev MarkerBytes := Nat → BitVec 8

structure FrameIdentity where
  producer : Int32
  run : Int32
  generation : Int32
  sequence : Int64
  flipped : Bool
deriving DecidableEq, Repr

namespace FrameIdentity

def COLS : Nat := 16
def ROWS : Nat := 8

def unsigned (b : MarkerBytes) (start length : Nat) : Nat :=
  (List.range' start length).foldl (fun value i => value <<< 8 ||| (b i).toNat) 0

-- From the last byte to the first. No value is negative.
def put (b : MarkerBytes) (start : Nat) : Nat → Nat → MarkerBytes
  | 0, _ => b
  | length + 1, value => put (Function.update b (start + length) (BitVec.ofNat 8 value)) start length (value >>> 8)

-- The register is kept to sixteen bits.
def crcBits : Nat → BitVec 16 → BitVec 16
  | 0, crc => crc
  | k + 1, crc => crcBits k (crc <<< 1 ^^^ if crc &&& 0x8000 = 0 then 0 else 0x1021)

def crc (b : MarkerBytes) : BitVec 16 :=
  (List.range 14).foldl (fun crc i => crcBits 8 (crc ^^^ (b i).setWidth 16 <<< 8)) 0xffff

def ofBytes (b : MarkerBytes) (flip : Bool) : FrameIdentity where
  producer := Int32.ofNat (b 3).toNat
  run := Int32.ofNat (unsigned b 4 4)
  generation := Int32.ofNat (unsigned b 8 2)
  sequence := Int64.ofNat (unsigned b 10 4)
  flipped := flip

-- `none` where "identity out of range" is thrown.
def encode (producer run generation : Int32) (sequence : Int64) : Option MarkerBytes :=
  if producer < 1 ∨ 255 < producer ∨ run ≤ 0 ∨ generation < 1 ∨ 65535 < generation ∨ sequence < 1 ∨
      0xffffffff < sequence then none
  else
    let b : MarkerBytes := fun _ => 0
    let b := Function.update b 0 0x56
    let b := Function.update b 1 0xca
    let b := Function.update b 2 1
    let b := Function.update b 3 (producer.toBitVec.setWidth 8)
    let b := put b 4 4 run.toInt.toNat
    let b := put b 8 2 generation.toInt.toNat
    let b := put b 10 4 sequence.toInt.toNat
    some (put b 14 2 (crc b).toNat)

def bit (b : MarkerBytes) (cell : Nat) : Bool := (b (cell / 8) >>> (7 - cell % 8) &&& 1) ≠ 0

-- `b[cell / 8] |= 1 << (7 - cell % 8)`.
def setBit (b : MarkerBytes) (cell : Nat) : MarkerBytes :=
  Function.update b (cell / 8) (b (cell / 8) ||| (1 : BitVec 8) <<< (7 - cell % 8))

end FrameIdentity

structure ByteBuffer where
  position : Int32
  limit : Int32
  bytes : Nat → UInt8

def ByteBuffer.get (buffer : ByteBuffer) (index : Int32) : Option UInt8 :=
  if 0 ≤ index ∧ index < buffer.limit then some (buffer.bytes index.toInt.toNat) else none

structure LumaLayout where
  width : Int32
  height : Int32
  rowStride : Int32
  pixelStride : Int32
deriving DecidableEq, Repr

inductive DecodeError where
  | illegalArgument (message : String)
  | indexOutOfBounds
deriving DecidableEq, Repr

namespace FrameIdentity

-- Where the sample of a cell lies: in the middle, or beside it to the left, the right, above or below.
def sampleX (layout : LumaLayout) (cell sample : Nat) : Int32 :=
  let sx := Int32.ofNat (2 * (cell % COLS) + 1) * layout.width / Int32.ofNat (2 * COLS)
  if sample = 1 then sx - layout.width / Int32.ofNat (COLS * 8)
  else if sample = 2 then sx + layout.width / Int32.ofNat (COLS * 8)
  else sx

def sampleY (layout : LumaLayout) (flip : Bool) (cell sample : Nat) : Int32 :=
  let sy := Int32.ofNat (2 * (cell / COLS) + 1) * layout.height / Int32.ofNat (2 * ROWS)
  let sy :=
    if sample = 3 then sy - layout.height / Int32.ofNat (ROWS * 8)
    else if sample = 4 then sy + layout.height / Int32.ofNat (ROWS * 8)
    else sy
  if flip then layout.height - 1 - sy else sy

def sampleIndex (y : ByteBuffer) (layout : LumaLayout) (flip : Bool) (cell sample : Nat) : Int32 :=
  y.position + sampleY layout flip cell sample * layout.rowStride + sampleX layout cell sample * layout.pixelStride

def readCell (y : ByteBuffer) (layout : LumaLayout) (flip : Bool) (cell : Nat) : Option Nat :=
  ((List.range 5).mapM fun sample => y.get (sampleIndex y layout flip cell sample)).map fun samples =>
    (samples.map UInt8.toNat).sum / 5

structure Reading where
  b : MarkerBytes := fun _ => 0
  contrast : Bool := true

def Reading.add (reading : Reading) (cell value : Nat) : Reading where
  b := if 128 ≤ value then setBit reading.b cell else reading.b
  contrast := if 80 < value ∧ value < 176 then false else reading.contrast

def readCells (y : ByteBuffer) (layout : LumaLayout) (flip : Bool) : List Nat → Reading → Option Reading
  | [], reading => some reading
  | cell :: cells, reading =>
    match readCell y layout flip cell with
    | none => none
    | some value => readCells y layout flip cells (reading.add cell value)

def positive (id : FrameIdentity) : Bool :=
  0 < id.producer ∧ 0 < id.run ∧ 0 < id.generation ∧ 0 < id.sequence

def accepts (b : MarkerBytes) : Bool :=
  b 0 = 0x56 ∧ b 1 = 0xca ∧ b 2 = 1 ∧ unsigned b 14 2 = (crc b).toNat

def Reading.identity (reading : Reading) (flip : Bool) : Option FrameIdentity :=
  if reading.contrast ∧ accepts reading.b then
    let id := ofBytes reading.b flip
    if id.positive then some id else none
  else none

def decodeFlips (y : ByteBuffer) (layout : LumaLayout) : List Bool → Except DecodeError FrameIdentity
  | [] => .error (.illegalArgument "marker contrast/header/CRC failure")
  | flip :: flips =>
    match readCells y layout flip (List.range 128) {} with
    | none => .error .indexOutOfBounds
    | some reading =>
      match reading.identity flip with
      | some id => .ok id
      | none => decodeFlips y layout flips

def decode (y : ByteBuffer) (layout : LumaLayout) : Except DecodeError FrameIdentity :=
  if layout.width < Int32.ofNat (COLS * 4) ∨ layout.height < Int32.ofNat (ROWS * 4) ∨
      layout.rowStride < layout.width * layout.pixelStride ∨ layout.pixelStride < 1 then
    .error (.illegalArgument "invalid luma layout")
  else decodeFlips y layout [false, true]

end FrameIdentity

namespace FrameIdentity

variable {b other : MarkerBytes} {start length value : Nat}

theorem unsigned_succ : unsigned b start (length + 1) = unsigned b start length * 256 +
    (b (start + length)).toNat := by
  have byte := (b (start + length)).isLt
  rw [unsigned, List.range'_1_concat, List.foldl_append, List.foldl_cons, List.foldl_nil, ← unsigned,
    ← Nat.shiftLeft_add_eq_or_of_lt byte, Nat.shiftLeft_eq]

theorem unsigned_congr (same : ∀ i, start ≤ i → i < start + length → b i = other i) :
    unsigned b start length = unsigned other start length := by
  induction length with
  | zero => rfl
  | succ length ih =>
    rw [unsigned_succ, unsigned_succ, ih fun i low high => same i low (by omega),
      same (start + length) (by omega) (by omega)]

theorem put_of_outside {i : Nat} (outside : i < start ∨ start + length ≤ i) :
    put b start length value i = b i := by
  induction length generalizing b value with
  | zero => rfl
  | succ length ih =>
    rw [put, ih (by omega)]
    exact Function.update_of_ne (by omega) _ _

theorem unsigned_put : unsigned (put b start length value) start length = value % 256 ^ length := by
  induction length generalizing b value with
  | zero => simp [unsigned, Nat.mod_one]
  | succ length ih =>
    have last : (put b start (length + 1) value (start + length)).toNat = value % 256 := by
      rw [put, put_of_outside (.inr (Nat.le_refl _)), Function.update_self]
      exact BitVec.toNat_ofNat value 8
    have first : unsigned (put b start (length + 1) value) start length = value / 256 % 256 ^ length := by
      rw [put, ih, Nat.shiftRight_eq_div_pow]
    rw [unsigned_succ, first, last, Nat.pow_succ, Nat.mul_comm (256 ^ length) 256, Nat.mod_mul]
    omega

theorem unsigned_lt : unsigned b start length < 256 ^ length := by
  induction length with
  | zero => simp [unsigned]
  | succ length ih =>
    have byte := (b (start + length)).isLt
    rw [unsigned_succ, Nat.pow_succ]
    omega

def polynomial : BitVec 16 := 0x1021

def word (b : MarkerBytes) (i : Nat) : BitVec 16 := (b i).setWidth 16 <<< 8

theorem crcBits_eq (k : Nat) (crc : BitVec 16) : crcBits k crc = shifts polynomial k crc := by
  induction k generalizing crc with
  | zero => rfl
  | succ k ih =>
    have mask : (0x8000 : BitVec 16) = BitVec.twoPow 16 15 := by decide
    have top : crc &&& 0x8000 = if crc.msb then 0x8000 else 0 := by
      rw [mask, BitVec.and_twoPow, BitVec.msb_eq_getLsbD_last]
      rfl
    rw [crcBits, ih, shifts, shift, top]
    cases crc.msb <;> rfl

theorem crc_eq : crc b = remainder polynomial 8 0xffff ((List.range 14).map (word b)) := by
  have steps : ∀ (register : BitVec 16) (places : List Nat),
      places.foldl (fun crc i => crcBits 8 (crc ^^^ (b i).setWidth 16 <<< 8)) register =
        remainder polynomial 8 register (places.map (word b)) := by
    intro register places
    induction places generalizing register with
    | nil => rfl
    | cons i places ih =>
      rw [List.foldl_cons, ih, List.map_cons, remainder, crcBits_eq]
      rfl
  exact steps 0xffff (List.range 14)

theorem crc_congr (same : ∀ i < 14, b i = other i) : crc b = crc other := by
  have words : (List.range 14).map (word b) = (List.range 14).map (word other) := by
    refine List.map_congr_left fun i member => ?_
    rw [word, word, same i (List.mem_range.mp member)]
  rw [crc_eq, crc_eq, words]

theorem unsigned_put_of_outside {from_ size : Nat} (outside : from_ + size ≤ start ∨ start + length ≤ from_) :
    unsigned (put b start length value) from_ size = unsigned b from_ size :=
  unsigned_congr fun i low high => put_of_outside (by omega)

def unchecked (producer : BitVec 8) (run generation sequence : Nat) : MarkerBytes :=
  put (put (put (Function.update (Function.update (Function.update (Function.update (fun _ => 0) 0 0x56) 1 0xca) 2 1)
    3 producer) 4 4 run) 8 2 generation) 10 4 sequence

section Unchecked

variable (producer : BitVec 8) (run generation sequence : Nat)

theorem unchecked_header : unchecked producer run generation sequence 0 = 0x56 ∧
    unchecked producer run generation sequence 1 = 0xca ∧ unchecked producer run generation sequence 2 = 1 ∧
    unchecked producer run generation sequence 3 = producer := by
  unfold unchecked
  refine ⟨?_, ?_, ?_, ?_⟩ <;>
  · rw [put_of_outside (by omega), put_of_outside (by omega), put_of_outside (by omega)]
    simp [Function.update]

theorem unchecked_beyond (i : Nat) (high : 14 ≤ i) : unchecked producer run generation sequence i = 0 := by
  unfold unchecked
  rw [put_of_outside (by omega), put_of_outside (by omega), put_of_outside (by omega)]
  simp [Function.update, show i ≠ 0 ∧ i ≠ 1 ∧ i ≠ 2 ∧ i ≠ 3 by omega]

theorem unsigned_unchecked :
    unsigned (unchecked producer run generation sequence) 4 4 = run % 256 ^ 4 ∧
      unsigned (unchecked producer run generation sequence) 8 2 = generation % 256 ^ 2 ∧
      unsigned (unchecked producer run generation sequence) 10 4 = sequence % 256 ^ 4 := by
  unfold unchecked
  refine ⟨?_, ?_, unsigned_put⟩
  · rw [unsigned_put_of_outside (.inl (by omega)), unsigned_put_of_outside (.inl (by omega)), unsigned_put]
  · rw [unsigned_put_of_outside (.inl (by omega)), unsigned_put]

end Unchecked

structure Encodes (producer run generation : Int32) (sequence : Int64) (b : MarkerBytes) : Prop where
  producer : 0 < producer.toInt ∧ (b 3).toNat = producer.toInt
  run : 0 < run.toInt ∧ unsigned b 4 4 = run.toInt
  generation : 0 < generation.toInt ∧ unsigned b 8 2 = generation.toInt
  sequence : 0 < sequence.toInt ∧ unsigned b 10 4 = sequence.toInt
  accepted : accepts b = true
  beyond : ∀ i, 16 ≤ i → b i = 0

theorem accepts_put {b : MarkerBytes} (header : b 0 = 0x56 ∧ b 1 = 0xca ∧ b 2 = 1) :
    accepts (put b 14 2 (crc b).toNat) = true := by
  have kept : ∀ i < 14, put b 14 2 (crc b).toNat i = b i := fun i low => put_of_outside (by omega)
  have checked : unsigned (put b 14 2 (crc b).toNat) 14 2 = (crc (put b 14 2 (crc b).toNat)).toNat := by
    rw [unsigned_put, crc_congr kept]
    exact Nat.mod_eq_of_lt (crc b).isLt
  simp only [accepts, kept 0 (by omega), kept 1 (by omega), kept 2 (by omega), header, checked]
  decide

structure InRange (producer run generation : Int32) (sequence : Int64) : Prop where
  producer : 1 ≤ producer.toInt ∧ producer.toInt ≤ 255
  run : 0 < run.toInt
  generation : 1 ≤ generation.toInt ∧ generation.toInt ≤ 65535
  sequence : 1 ≤ sequence.toInt ∧ sequence.toInt ≤ 0xffffffff

section Encoded

variable {producer run generation : Int32} {sequence : Int64}

theorem encode_eq_some (encoded : encode producer run generation sequence = some b) :
    InRange producer run generation sequence ∧
      put (unchecked (producer.toBitVec.setWidth 8) run.toInt.toNat generation.toInt.toNat sequence.toInt.toNat) 14 2
        (crc (unchecked (producer.toBitVec.setWidth 8) run.toInt.toNat generation.toInt.toNat
          sequence.toInt.toNat)).toNat = b := by
  unfold encode at encoded
  split at encoded
  · cases encoded
  next inside =>
    refine ⟨?_, Option.some.inj encoded⟩
    have limits : (1 : Int32).toInt = 1 ∧ (255 : Int32).toInt = 255 ∧ (0 : Int32).toInt = 0 ∧
        (65535 : Int32).toInt = 65535 ∧ (1 : Int64).toInt = 1 ∧ (0xffffffff : Int64).toInt = 0xffffffff := by
      decide
    simp only [Int32.lt_iff_toInt_lt, Int32.le_iff_toInt_le, Int64.lt_iff_toInt_lt, limits, not_or, Int.not_lt,
      Int.not_le] at inside
    obtain ⟨producer_low, producer_high, run_low, generation_low, generation_high, sequence_low, sequence_high⟩ :=
      inside
    exact ⟨⟨producer_low, producer_high⟩, run_low, ⟨generation_low, generation_high⟩, sequence_low, sequence_high⟩

theorem encodes_of_encode (encoded : encode producer run generation sequence = some b) :
    Encodes producer run generation sequence b := by
  obtain ⟨range, rfl⟩ := encode_eq_some encoded
  obtain ⟨⟨producer_low, producer_high⟩, run_low, ⟨generation_low, generation_high⟩, sequence_low,
    sequence_high⟩ :=
    range
  have run_high := run.toInt_lt
  have byte : (producer.toBitVec.setWidth 8).toNat = producer.toInt := by
    have signed : producer.toInt = producer.toBitVec.toInt := rfl
    have width := producer.toBitVec.isLt
    rw [signed, BitVec.toInt_eq_toNat_cond] at producer_low producer_high ⊢
    rw [BitVec.toNat_setWidth]
    omega
  have fields := unsigned_unchecked (producer.toBitVec.setWidth 8) run.toInt.toNat generation.toInt.toNat
    sequence.toInt.toNat
  have header := unchecked_header (producer.toBitVec.setWidth 8) run.toInt.toNat generation.toInt.toNat
    sequence.toInt.toNat
  have beyond := unchecked_beyond (producer.toBitVec.setWidth 8) run.toInt.toNat generation.toInt.toNat
    sequence.toInt.toNat
  generalize unchecked (producer.toBitVec.setWidth 8) run.toInt.toNat generation.toInt.toNat sequence.toInt.toNat = b
    at fields header beyond
  constructor
  · rw [put_of_outside (by omega), header.2.2.2]
    omega
  · rw [unsigned_put_of_outside (by omega), fields.1]
    omega
  · rw [unsigned_put_of_outside (by omega), fields.2.1]
    omega
  · rw [unsigned_put_of_outside (by omega), fields.2.2]
    omega
  · exact accepts_put ⟨header.1, header.2.1, header.2.2.1⟩
  · intro i high
    rw [put_of_outside (by omega), beyond i (by omega)]

theorem Encodes.ofBytes (encodes : Encodes producer run generation sequence b) (flip : Bool) :
    FrameIdentity.ofBytes b flip = ⟨producer, run, generation, sequence, flip⟩ := by
  have byte := (b 3).isLt
  have run_high := run.toInt_lt
  have short : unsigned b 8 2 < 256 ^ 2 := unsigned_lt
  have long : unsigned b 10 4 < 256 ^ 4 := unsigned_lt
  have first : Int32.ofNat (b 3).toNat = producer := by
    rw [← Int32.toInt_inj, Int32.toInt_ofNat_of_lt (by omega)]
    exact encodes.producer.2
  have second : Int32.ofNat (unsigned b 4 4) = run := by
    have read := encodes.run.2
    rw [← Int32.toInt_inj, Int32.toInt_ofNat_of_lt (by omega)]
    exact read
  have third : Int32.ofNat (unsigned b 8 2) = generation := by
    rw [← Int32.toInt_inj, Int32.toInt_ofNat_of_lt (by omega)]
    exact encodes.generation.2
  have fourth : Int64.ofNat (unsigned b 10 4) = sequence := by
    rw [← Int64.toInt_inj, Int64.toInt_ofNat_of_lt (by omega)]
    exact encodes.sequence.2
  rw [FrameIdentity.ofBytes, first, second, third, fourth]

theorem Encodes.positive (encodes : Encodes producer run generation sequence b) (flip : Bool) :
    (FrameIdentity.ofBytes b flip).positive = true := by
  have zero : (0 : Int32).toInt = 0 ∧ (0 : Int64).toInt = 0 := by decide
  rw [encodes.ofBytes, FrameIdentity.positive, decide_eq_true_iff]
  simp only [Int32.lt_iff_toInt_lt, Int64.lt_iff_toInt_lt, zero]
  exact ⟨encodes.producer.1, encodes.run.1, encodes.generation.1, encodes.sequence.1⟩

end Encoded

end FrameIdentity

end VirtualCamera
