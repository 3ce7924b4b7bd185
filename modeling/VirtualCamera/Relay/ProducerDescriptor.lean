import VirtualCamera.Hal.StableHal
import VirtualCamera.Service.ProducerCapabilities

set_option autoImplicit false

namespace VirtualCamera

-- `refused` is a `JNI_FALSE`; `outside` would be a read past the end of the array.
inductive ParseFault where
  | refused
  | outside
deriving DecidableEq, Repr

namespace ProducerDescriptor

def readInt (v : List Int) (index : Nat) : Except ParseFault Int :=
  match v[index]? with
  | some value => .ok value
  | none => .error .outside

def parseFormats (v : List Int) : Nat → Nat → Except ParseFault (List Int × Nat)
  | 0, index => pure ([], index)
  | count + 1, index => do
    let format ← readInt v index
    let (formats, index) ← parseFormats v count (index + 1)
    pure (format :: formats, index)

def parseMode (v : List Int) (index : Nat) : Except ParseFault (ProducerMode × Nat) :=
  if v.length < index + 7 then throw .refused
  else do
    let id ← readInt v index
    let width ← readInt v (index + 1)
    let height ← readInt v (index + 2)
    let minFps ← readInt v (index + 3)
    let maxFps ← readInt v (index + 4)
    let allowDownscale ← readInt v (index + 5)
    let n ← readInt v (index + 6)
    if n < 1 ∨ 4 < n ∨ v.length < index + 7 + n.toNat then throw .refused
    else
      let (formats, index) ← parseFormats v n.toNat (index + 7)
      pure ({ id, width, height, minFps, maxFps, formats, downscale := allowDownscale != 0 }, index)

def parseModes (v : List Int) : Nat → Nat → Except ParseFault (List ProducerMode × Nat)
  | 0, index => pure ([], index)
  | count + 1, index => do
    let (mode, index) ← parseMode v index
    let (modes, index) ← parseModes v count index
    pure (mode :: modes, index)

def parseArray (registration : Int) (v : List Int) : Except ParseFault ProducerCapabilities :=
  if v.length < 4 ∨ 400 < v.length then throw .refused
  else do
    let facing ← readInt v 0
    let orientation ← readInt v 1
    let maxStreams ← readInt v 2
    let count ← readInt v 3
    if count < 1 ∨ 32 < count then throw .refused
    else
      let (modes, index) ← parseModes v count.toNat 4
      if index ≠ v.length then throw .refused
      else pure { registration, facing, orientation, maxStreams, modes }

-- `nativeRegisterProducer` up to its use of the HAL; a null array is `none`.
def parseDescriptor (slot registration : Int) (packed : Option (List Int)) :
    Except ParseFault ProducerCapabilities :=
  match validSlot slot, packed with
  | some _, some v => if registration ≤ 0 then throw .refused else parseArray registration v
  | _, _ => throw .refused

end ProducerDescriptor

-- One mode of an array as it stands there: any non-zero `downscale` means true.
structure PackedMode where
  id : Int
  width : Int
  height : Int
  minFps : Int
  maxFps : Int
  downscale : Int
  formats : List Int

namespace PackedMode

def header (mode : PackedMode) : List Int :=
  [mode.id, mode.width, mode.height, mode.minFps, mode.maxFps, mode.downscale, mode.formats.length]

def ints (mode : PackedMode) : List Int := mode.header ++ mode.formats

def Sized (mode : PackedMode) : Prop := 1 ≤ mode.formats.length ∧ mode.formats.length ≤ 4

def read (mode : PackedMode) : ProducerMode where
  id := mode.id
  width := mode.width
  height := mode.height
  minFps := mode.minFps
  maxFps := mode.maxFps
  formats := mode.formats
  downscale := mode.downscale != 0

end PackedMode

structure PackedDescriptor where
  facing : Int
  orientation : Int
  maxStreams : Int
  modes : List PackedMode

namespace PackedDescriptor

def ints (packed : PackedDescriptor) : List Int :=
  [packed.facing, packed.orientation, packed.maxStreams, packed.modes.length] ++
    packed.modes.flatMap PackedMode.ints

-- 1 to 32 modes of 1 to 4 formats each.
structure WellFormed (packed : PackedDescriptor) : Prop where
  nonempty : 1 ≤ packed.modes.length
  bounded : packed.modes.length ≤ 32
  sized : ∀ mode ∈ packed.modes, mode.Sized

def read (packed : PackedDescriptor) (registration : Int) : ProducerCapabilities where
  registration := registration
  facing := packed.facing
  orientation := packed.orientation
  maxStreams := packed.maxStreams
  modes := packed.modes.map PackedMode.read

end PackedDescriptor

namespace ProducerDescriptor

variable {v : List Int}

theorem readInt_drop {index : Nat} {value : Int} {rest : List Int} (shape : v.drop index = value :: rest) :
    readInt v index = .ok value ∧ v.drop (index + 1) = rest := by
  have present : v[index]? = some value := by
    have head := congrArg List.head? shape
    rwa [List.head?_drop] at head
  refine ⟨by simp [readInt, present], ?_⟩
  rw [← List.drop_drop, shape]
  rfl

theorem drop_next {index : Nat} {ints rest : List Int} (shape : v.drop index = ints ++ rest) :
    v.drop (index + ints.length) = rest := by
  rw [← List.drop_drop, shape, List.drop_left]

theorem parseFormats_eq (count index : Nat) (inside : count ≤ (v.drop index).length) :
    parseFormats v count index = .ok ((v.drop index).take count, index + count) := by
  induction count generalizing index with
  | zero => rfl
  | succ count ih =>
    cases shape : v.drop index with
    | nil => simp [shape] at inside
    | cons value rest =>
      obtain ⟨read, next⟩ := readInt_drop shape
      have later := ih (index + 1) (by simpa [shape, next] using inside)
      simp only [parseFormats, read, later, next, bind, Except.bind, pure, Except.pure, List.take_succ_cons]
      rw [Nat.add_assoc, Nat.add_comm 1]

theorem parseMode_header {index : Nat} {id width height minFps maxFps downscale n : Int} {rest : List Int}
    (shape : v.drop index = [id, width, height, minFps, maxFps, downscale, n] ++ rest) :
    parseMode v index =
      if n < 1 ∨ 4 < n ∨ rest.length < n.toNat then .error .refused
      else .ok ({ id, width, height, minFps, maxFps, formats := rest.take n.toNat,
                  downscale := downscale != 0 }, index + 7 + n.toNat) := by
  have lengths := congrArg List.length shape
  simp only [List.length_drop, List.length_append, List.length_cons, List.length_nil] at lengths
  obtain ⟨readId, shape⟩ := readInt_drop shape
  obtain ⟨readWidth, shape⟩ := readInt_drop shape
  obtain ⟨readHeight, shape⟩ := readInt_drop shape
  obtain ⟨readMin, shape⟩ := readInt_drop shape
  obtain ⟨readMax, shape⟩ := readInt_drop shape
  obtain ⟨readDownscale, shape⟩ := readInt_drop shape
  obtain ⟨readCount, shape⟩ := readInt_drop shape
  replace shape : v.drop (index + 7) = rest := shape
  unfold parseMode
  rw [if_neg (by omega)]
  simp only [readId, readWidth, readHeight, readMin, readMax, readDownscale, readCount, bind, Except.bind]
  by_cases fits : n < 1 ∨ 4 < n ∨ rest.length < n.toNat
  · rw [if_pos fits, if_pos (by omega)]
    rfl
  · have formats := @parseFormats_eq v n.toNat (index + 7) (by rw [shape]; omega)
    rw [if_neg fits, if_neg (by omega), formats, shape]
    rfl

theorem parseMode_ints (packed : PackedMode) (sized : packed.Sized) (index : Nat) (rest : List Int)
    (shape : v.drop index = packed.ints ++ rest) :
    parseMode v index = .ok (packed.read, index + packed.ints.length) := by
  rw [PackedMode.ints, List.append_assoc] at shape
  obtain ⟨few, many⟩ := sized
  have there : packed.formats.length ≤ (packed.formats ++ rest).length := by simp
  rw [parseMode_header shape, if_neg (by omega)]
  simp only [Int.toNat_natCast, List.take_left', PackedMode.read, PackedMode.ints, PackedMode.header,
    List.length_append, List.length_cons, List.length_nil]
  rw [Nat.add_assoc]

theorem parseMode_sound (index : Nat) :
    parseMode v index = .error .refused ∨ ∃ packed : PackedMode, packed.Sized ∧
      parseMode v index = .ok (packed.read, index + packed.ints.length) ∧
        v.drop index = packed.ints ++ v.drop (index + packed.ints.length) := by
  by_cases short : v.length < index + 7
  · left
    simp [parseMode, short, throw, throwThe, MonadExceptOf.throw]
  · have long : 7 ≤ (v.drop index).length := by
      rw [List.length_drop]
      omega
    match shape : v.drop index, long with
    | id :: width :: height :: minFps :: maxFps :: downscale :: n :: rest, _ =>
      by_cases fits : n < 1 ∨ 4 < n ∨ rest.length < n.toNat
      · left
        rw [parseMode_header shape, if_pos fits]
      · right
        have taken : (rest.take n.toNat).length = n.toNat := List.length_take_of_le (by omega)
        let packed : PackedMode :=
          { id, width, height, minFps, maxFps, downscale, formats := rest.take n.toNat }
        have ints : v.drop index = packed.ints ++ rest.drop n.toNat := by
          have count : ((rest.take n.toNat).length : Int) = n := by omega
          simp only [packed, PackedMode.ints, PackedMode.header, count, List.append_assoc,
            List.take_append_drop]
          exact shape
        have sized : packed.Sized := by
          simp only [packed, PackedMode.Sized, taken]
          omega
        refine ⟨packed, sized, parseMode_ints packed sized index _ ints, ?_⟩
        rw [drop_next ints, ← shape]
        exact ints

theorem parseModes_ints (packs : List PackedMode) (sized : ∀ mode ∈ packs, mode.Sized) (index : Nat)
    (rest : List Int) (shape : v.drop index = packs.flatMap PackedMode.ints ++ rest) :
    parseModes v packs.length index =
      .ok (packs.map PackedMode.read, index + (packs.flatMap PackedMode.ints).length) := by
  induction packs generalizing index with
  | nil => rfl
  | cons mode packs ih =>
    rw [List.flatMap_cons, List.append_assoc] at shape
    have first := parseMode_ints mode (sized mode List.mem_cons_self) index _ shape
    have later := ih (fun other member => sized other (List.mem_cons_of_mem _ member)) _ (drop_next shape)
    simp only [List.length_cons, parseModes, first, later, bind, Except.bind, List.map_cons,
      List.flatMap_cons, List.length_append]
    rw [Nat.add_assoc]
    rfl

theorem parseModes_sound (count index : Nat) :
    parseModes v count index = .error .refused ∨ ∃ packs : List PackedMode, packs.length = count ∧
      (∀ mode ∈ packs, mode.Sized) ∧
        parseModes v count index =
          .ok (packs.map PackedMode.read, index + (packs.flatMap PackedMode.ints).length) ∧
        v.drop index = packs.flatMap PackedMode.ints ++
          v.drop (index + (packs.flatMap PackedMode.ints).length) := by
  induction count generalizing index with
  | zero => exact .inr ⟨[], rfl, by simp, rfl, by simp⟩
  | succ count ih =>
    rcases @parseMode_sound v index with refused | ⟨mode, fits, first, shape⟩
    · left
      simp only [parseModes, refused, bind, Except.bind]
    · rcases ih (index + mode.ints.length) with refused | ⟨packs, rfl, sized, _, later⟩
      · left
        simp only [parseModes, first, refused, bind, Except.bind]
      · right
        have all : ∀ other ∈ mode :: packs, other.Sized := by
          intro other member
          rcases List.mem_cons.mp member with rfl | member
          · exact fits
          · exact sized other member
        have whole : v.drop index = (mode :: packs).flatMap PackedMode.ints ++
            v.drop (index + ((mode :: packs).flatMap PackedMode.ints).length) := by
          rw [List.flatMap_cons, List.append_assoc, List.length_append, ← Nat.add_assoc, ← later]
          exact shape
        exact ⟨mode :: packs, rfl, all, parseModes_ints _ all index _ whole, whole⟩

theorem ints_length (modes : List PackedMode) (sized : ∀ mode ∈ modes, mode.Sized) :
    (modes.flatMap PackedMode.ints).length ≤ 11 * modes.length := by
  induction modes with
  | nil => simp
  | cons mode modes ih =>
    have few := (sized mode List.mem_cons_self).2
    have later := ih fun other member => sized other (List.mem_cons_of_mem _ member)
    simp only [List.flatMap_cons, List.length_append, PackedMode.ints, PackedMode.header, List.length_cons,
      List.length_nil]
    omega

theorem parseArray_ints (registration : Int) (packed : PackedDescriptor) (formed : packed.WellFormed) :
    parseArray registration packed.ints = .ok (packed.read registration) := by
  obtain ⟨nonempty, bounded, sized⟩ := formed
  have length := ints_length packed.modes sized
  have modes := parseModes_ints packed.modes sized 4 [] (v := packed.ints) (by simp [PackedDescriptor.ints])
  have total : packed.ints.length = 4 + (packed.modes.flatMap PackedMode.ints).length := by
    simp [PackedDescriptor.ints]
    omega
  unfold parseArray
  rw [if_neg (by omega)]
  have reads : readInt packed.ints 0 = .ok packed.facing ∧ readInt packed.ints 1 = .ok packed.orientation ∧
      readInt packed.ints 2 = .ok packed.maxStreams ∧ readInt packed.ints 3 = .ok (packed.modes.length : Int) :=
    ⟨rfl, rfl, rfl, rfl⟩
  simp only [reads, bind, Except.bind]
  rw [if_neg (by omega), Int.toNat_natCast, modes]
  simp only [total, ne_eq, not_true, if_false]
  rfl

theorem parseArray_sound (registration : Int) :
    parseArray registration v = .error .refused ∨
      ∃ packed : PackedDescriptor, packed.WellFormed ∧ v = packed.ints := by
  by_cases sized : v.length < 4 ∨ 400 < v.length
  · left
    simp [parseArray, sized, throw, throwThe, MonadExceptOf.throw]
  · obtain ⟨facing, orientation, maxStreams, count, rest, rfl⟩ :
        ∃ facing orientation maxStreams count rest,
          v = facing :: orientation :: maxStreams :: count :: rest := by
      match v, (by omega : 4 ≤ v.length) with
      | facing :: orientation :: maxStreams :: count :: rest, _ => exact ⟨_, _, _, _, _, rfl⟩
    generalize whole : facing :: orientation :: maxStreams :: count :: rest = v at sized ⊢
    have reads : readInt v 0 = .ok facing ∧ readInt v 1 = .ok orientation ∧
        readInt v 2 = .ok maxStreams ∧ readInt v 3 = .ok count := by
      subst whole
      exact ⟨rfl, rfl, rfl, rfl⟩
    simp only [parseArray, if_neg sized, reads, bind, Except.bind]
    by_cases counted : count < 1 ∨ 32 < count
    · left
      simp [counted, throw, throwThe, MonadExceptOf.throw]
    · simp only [if_neg counted]
      rcases @parseModes_sound v count.toNat 4 with refused | ⟨packs, length, fits, parsed, shape⟩
      · left
        rw [refused]
      · rw [parsed]
        by_cases ends : 4 + (packs.flatMap PackedMode.ints).length = v.length
        · right
          have rest_eq : rest = packs.flatMap PackedMode.ints := by
            rw [ends, List.drop_length, List.append_nil, ← whole] at shape
            exact shape
          have counts : (packs.length : Int) = count := by omega
          have few : 1 ≤ packs.length ∧ packs.length ≤ 32 := by omega
          refine ⟨⟨facing, orientation, maxStreams, packs⟩, ⟨few.1, few.2, fits⟩, ?_⟩
          simp [PackedDescriptor.ints, ← whole, counts, rest_eq]
        · left
          simp only [ne_eq, ends, not_false_iff, if_true]
          rfl

theorem parseArray_ok_iff (registration : Int) (v : List Int) :
    (∃ descriptor, parseArray registration v = .ok descriptor) ↔
      ∃ packed : PackedDescriptor, packed.WellFormed ∧ v = packed.ints := by
  constructor
  next =>
    rintro ⟨descriptor, parsed⟩
    rcases @parseArray_sound v registration with refused | formed
    · rw [refused] at parsed
      cases parsed
    · exact formed
  next =>
    rintro ⟨packed, formed, rfl⟩
    exact ⟨_, parseArray_ints registration packed formed⟩

theorem parseArray_inside (registration : Int) (v : List Int) :
    parseArray registration v ≠ .error .outside := by
  rcases @parseArray_sound v registration with refused | ⟨packed, formed, rfl⟩
  · rw [refused]
    nofun
  · rw [parseArray_ints registration packed formed]
    nofun

end ProducerDescriptor

end VirtualCamera
