import Mathlib.Data.List.TakeWhile
import Mathlib.Tactic.Ring
import VirtualCamera.Hal.Presence

set_option autoImplicit false

namespace VirtualCamera

open StableHal

inductive StdException where
  | invalidArgument
  | outOfRange
deriving DecidableEq, Repr

def intMax : Int := 2147483647

-- What `strtol` reads of a string of digits.
def decimalValue (digits : List Char) : Nat :=
  digits.foldl (fun value digit => 10 * value + (digit.toNat - 48)) 0

-- `std::stoi`, on a string that has no space and no sign.
def stoi (num : List Char) : Except StdException Int :=
  let digits := num.takeWhile Char.isDigit
  if digits = [] then .error .invalidArgument
  else if intMax < decimalValue digits then .error .outOfRange
  else .ok (decimalValue digits)

def deviceIdPrefix : String := "device@1.0/virtual_renderer/"

-- A byte of the `std::string` is a character.
def slotForDeviceId (id : String) : Except StdException Int :=
  if deviceIdPrefix.toList.isPrefixOf id.toList = false then .ok (-1)
  else
    let num := id.toList.drop deviceIdPrefix.length
    if num = [] ∨ num.all Char.isDigit = false then .ok (-1)
    else
      match stoi num with
      | .error exception => .error exception
      | .ok value =>
        let n : Int := value - kFirstVirtualCameraNumber
        .ok (if 0 ≤ n ∧ n < kMaxVirtualCameras then n else -1)

def Inverted (id : String) : Prop :=
  ∃ result, slotForDeviceId id = .ok result ∧ (∀ slot : Slot, result = slot.val ↔ id = deviceIdForSlot slot) ∧
    ((∀ slot : Slot, id ≠ deviceIdForSlot slot) → result = -1)

-- The number does not fit in an `int`, or it is a slot's number with zeros before it.
def Misread (id : String) : Prop :=
  ∃ num, id.toList = deviceIdPrefix.toList ++ num ∧ num ≠ [] ∧ num.all Char.isDigit = true ∧
    (intMax < decimalValue num ∨ num.head? = some '0' ∧ kFirstVirtualCameraNumber ≤ decimalValue num ∧
      decimalValue num < kFirstVirtualCameraNumber + kMaxVirtualCameras)

theorem decimalValue_ge (value : Nat) (digits : List Char) :
    value * 10 ^ digits.length ≤ digits.foldl (fun value digit => 10 * value + (digit.toNat - 48)) value := by
  induction digits generalizing value with
  | nil => simp
  | cons digit rest ih =>
    have grown := ih (10 * value + (digit.toNat - 48))
    rw [List.length_cons, pow_succ, List.foldl_cons]
    calc value * (10 ^ rest.length * 10) = 10 * value * 10 ^ rest.length := by ring
      _ ≤ (10 * value + (digit.toNat - 48)) * 10 ^ rest.length := Nat.mul_le_mul_right _ (Nat.le_add_right _ _)
      _ ≤ _ := grown

theorem digit_bounds {digit : Char} (isDigit : digit.isDigit = true) : 48 ≤ digit.toNat ∧ digit.toNat ≤ 57 :=
  Char.isDigit_iff_toNat.mp isDigit

theorem digits_of_slot : ∀ slot : Slot, (toString (kFirstVirtualCameraNumber + slot)).toList =
    ['1', '0', Char.ofNat (48 + slot)] := by decide

theorem digit_of_slot : ∀ slot : Slot, (Char.ofNat (48 + slot)).toNat = 48 + slot := by decide

theorem digits_eq {digits : List Char} (numeric : ∀ digit ∈ digits, digit.isDigit = true)
    (leading : digits.head? ≠ some '0') (slot : Slot)
    (value : decimalValue digits = kFirstVirtualCameraNumber + slot) :
    digits = (toString (kFirstVirtualCameraNumber + slot)).toList := by
  have bound := slot.isLt
  simp only [kFirstVirtualCameraNumber, kMaxVirtualCameras, decimalValue] at bound value
  have bounds := fun digit member => digit_bounds (numeric digit member)
  match digits with
  | [] =>
    simp only [List.foldl_nil] at value
    omega
  | [a] =>
    have first := bounds a (by simp)
    simp only [List.foldl_cons, List.foldl_nil] at value
    omega
  | [a, b] =>
    have first := bounds a (by simp)
    have second := bounds b (by simp)
    simp only [List.foldl_cons, List.foldl_nil] at value
    omega
  | [a, b, c] =>
    have first := bounds a (by simp)
    have second := bounds b (by simp)
    have third := bounds c (by simp)
    simp only [List.foldl_cons, List.foldl_nil] at value
    obtain rfl : a = '1' := Char.toNat_inj.mp (by change _ = 49; omega)
    obtain rfl : b = '0' := Char.toNat_inj.mp (by change _ = 48; omega)
    have last := digit_of_slot slot
    obtain rfl : c = Char.ofNat (48 + slot) := Char.toNat_inj.mp (by omega)
    exact (digits_of_slot slot).symm
  | a :: b :: c :: d :: rest =>
    have first := bounds a (by simp)
    have nonzero : a.toNat ≠ 48 := fun zero => leading (congrArg some (Char.toNat_inj.mp zero))
    have grown := decimalValue_ge (10 * (10 * (10 * (10 * 0 + (a.toNat - 48)) + (b.toNat - 48)) + (c.toNat - 48)) +
      (d.toNat - 48)) rest
    have least : 1 ≤ 10 ^ rest.length := Nat.one_le_pow _ _ (by decide)
    simp only [List.foldl_cons] at value
    rw [value] at grown
    have wide := Nat.mul_le_mul_left (10 * (10 * (10 * (10 * 0 + (a.toNat - 48)) + (b.toNat - 48)) + (c.toNat - 48)) +
      (d.toNat - 48)) least
    omega

theorem value_of_slot : ∀ slot : Slot,
    decimalValue (toString (kFirstVirtualCameraNumber + slot)).toList = kFirstVirtualCameraNumber + slot := by decide

def slotOfNumber (value : Nat) : Int :=
  if 0 ≤ (value : Int) - kFirstVirtualCameraNumber ∧
    (value : Int) - kFirstVirtualCameraNumber < kMaxVirtualCameras then
    (value : Int) - kFirstVirtualCameraNumber
  else -1

inductive Parsed (id : String) : Except StdException Int → Prop where
  | foreign (other : ∀ num, num ≠ [] → num.all Char.isDigit = true → id.toList ≠ deviceIdPrefix.toList ++ num) :
      Parsed id (.ok (-1))
  | overflow (num : List Char) (shape : id.toList = deviceIdPrefix.toList ++ num) (filled : num ≠ [])
      (numeric : num.all Char.isDigit = true) (wide : intMax < decimalValue num) : Parsed id (.error .outOfRange)
  | number (num : List Char) (shape : id.toList = deviceIdPrefix.toList ++ num) (filled : num ≠ [])
      (numeric : num.all Char.isDigit = true) (fits : (decimalValue num : Int) ≤ intMax) :
      Parsed id (.ok (slotOfNumber (decimalValue num)))

theorem stoi_digits {num : List Char} (filled : num ≠ []) (numeric : num.all Char.isDigit = true) :
    stoi num = if intMax < decimalValue num then .error .outOfRange else .ok (decimalValue num) := by
  have whole : num.takeWhile Char.isDigit = num := by
    rw [List.takeWhile_eq_self_iff]
    exact fun digit member => List.all_eq_true.mp numeric digit member
  rw [stoi, whole, if_neg filled]

theorem slotForDeviceId_parsed (id : String) : Parsed id (slotForDeviceId id) := by
  unfold slotForDeviceId
  by_cases starts : deviceIdPrefix.toList <+: id.toList
  · obtain ⟨num, shape⟩ := starts
    have rest : id.toList.drop deviceIdPrefix.length = num := by
      rw [← shape, ← String.length_toList, List.drop_left]
    have begins : deviceIdPrefix.toList.isPrefixOf id.toList = true := List.isPrefixOf_iff_prefix.mpr ⟨num, shape⟩
    rw [if_neg (by simp [begins]), rest]
    dsimp only
    split
    next odd =>
      refine .foreign fun other filled numeric same => ?_
      have equal : num = other := List.append_cancel_left (shape.trans same)
      subst equal
      rcases odd with empty | mixed
      · exact filled empty
      · exact absurd (numeric.symm.trans mixed) (by decide)
    next plain =>
      have filled : num ≠ [] := fun empty => plain (.inl empty)
      have numeric : num.all Char.isDigit = true := by
        by_contra mixed
        exact plain (.inr (Bool.eq_false_iff.mpr mixed))
      rw [stoi_digits filled numeric]
      by_cases wide : intMax < decimalValue num
      · rw [if_pos wide]
        exact .overflow num shape.symm filled numeric wide
      · rw [if_neg wide]
        exact .number num shape.symm filled numeric (not_lt.mp wide)
  · have differs : deviceIdPrefix.toList.isPrefixOf id.toList = false := by
      by_contra begins
      exact starts (List.isPrefixOf_iff_prefix.mp (by simpa using begins))
    rw [if_pos differs]
    exact .foreign fun num _ _ same => starts ⟨num, same.symm⟩

theorem deviceIdForSlot_shape (slot : Slot) :
    (deviceIdForSlot slot).toList = deviceIdPrefix.toList ++ (toString (kFirstVirtualCameraNumber + slot)).toList :=
  String.toList_append

theorem slotOfNumber_inside {value : Nat} (inside : 100 ≤ value ∧ value < 104) : slotOfNumber value = value - 100 :=
  if_pos (by change 0 ≤ (value : Int) - 100 ∧ (value : Int) - 100 < 4; omega)

theorem slotOfNumber_outside {value : Nat} (outside : ¬ (100 ≤ value ∧ value < 104)) : slotOfNumber value = -1 :=
  if_neg (by change ¬ (0 ≤ (value : Int) - 100 ∧ (value : Int) - 100 < 4); omega)

theorem slotOfNumber_eq_iff (value : Nat) (slot : Slot) :
    slotOfNumber value = slot.val ↔ value = kFirstVirtualCameraNumber + slot := by
  have bound : slot.val < 4 := slot.isLt
  change _ ↔ value = 100 + slot
  by_cases inside : 100 ≤ value ∧ value < 104
  · rw [slotOfNumber_inside inside]
    omega
  · rw [slotOfNumber_outside inside]
    omega

theorem slotOfNumber_foreign {value : Nat} (foreign : ∀ slot : Slot, value ≠ kFirstVirtualCameraNumber + slot) :
    slotOfNumber value = -1 := by
  refine slotOfNumber_outside fun ⟨least, most⟩ => ?_
  have inside : value - 100 < kMaxVirtualCameras := by change _ < 4; omega
  exact foreign ⟨value - 100, inside⟩ (by change value = 100 + (value - 100); omega)

theorem eq_deviceIdForSlot_iff {id : String} {num : List Char} (shape : id.toList = deviceIdPrefix.toList ++ num)
    (slot : Slot) : id = deviceIdForSlot slot ↔ num = (toString (kFirstVirtualCameraNumber + slot)).toList := by
  rw [← String.toList_inj, shape, deviceIdForSlot_shape, List.append_cancel_left_eq]

theorem printed_numeric : ∀ slot : Slot, (toString (kFirstVirtualCameraNumber + slot)).toList ≠ [] ∧
    (toString (kFirstVirtualCameraNumber + slot)).toList.all Char.isDigit = true ∧
    (toString (kFirstVirtualCameraNumber + slot)).toList.head? ≠ some '0' := by decide

theorem misread_not_inverted {id : String} (misread : Misread id) : ¬ Inverted id := by
  rintro ⟨result, returned, inverse, _⟩
  obtain ⟨num, shape, filled, numeric, kind⟩ := misread
  have parsed := slotForDeviceId_parsed id
  rw [returned] at parsed
  cases parsed with
  | foreign other => exact other num filled numeric shape
  | number other shape' _ _ fits =>
    obtain rfl : num = other := List.append_cancel_left (shape.symm.trans shape')
    rcases kind with wide | ⟨zero, least, most⟩
    · exact absurd fits (not_le.mpr wide)
    · have inside : decimalValue num - 100 < kMaxVirtualCameras := by
        change _ < 4
        change _ < 100 + 4 at most
        omega
      let slot : Slot := ⟨decimalValue num - 100, inside⟩
      have value : decimalValue num = kFirstVirtualCameraNumber + slot := by
        change _ = 100 + (decimalValue num - 100)
        change 100 ≤ _ at least
        omega
      have printed := (eq_deviceIdForSlot_iff shape slot).mp
        ((inverse slot).mp ((slotOfNumber_eq_iff _ slot).mpr value))
      exact (printed_numeric slot).2.2 (printed ▸ zero)

theorem inverted_of_not_misread {id : String} (plain : ¬ Misread id) : Inverted id := by
  have parsed := slotForDeviceId_parsed id
  generalize returned : slotForDeviceId id = outcome at parsed
  cases parsed with
  | foreign other =>
    refine ⟨-1, returned, fun slot => iff_of_false (by omega) ?_, fun _ => rfl⟩
    rintro rfl
    obtain ⟨filled, numeric, _⟩ := printed_numeric slot
    exact other _ filled numeric (deviceIdForSlot_shape slot)
  | overflow num shape filled numeric wide => exact absurd ⟨num, shape, filled, numeric, .inl wide⟩ plain
  | number num shape filled numeric fits =>
    have exactly : ∀ slot : Slot, decimalValue num = kFirstVirtualCameraNumber + slot ↔
      id = deviceIdForSlot slot := by
      intro slot
      rw [eq_deviceIdForSlot_iff shape slot]
      refine ⟨fun value => ?_, fun printed => printed ▸ value_of_slot slot⟩
      have leading : num.head? ≠ some '0' := fun zero => plain ⟨num, shape, filled, numeric, .inr ⟨zero, by omega, by
        have bound := slot.isLt
        omega⟩⟩
      exact digits_eq (List.all_eq_true.mp numeric) leading slot value
    refine ⟨_, returned, fun slot => (slotOfNumber_eq_iff _ slot).trans (exactly slot), fun foreign => ?_⟩
    exact slotOfNumber_foreign fun slot value => foreign slot ((exactly slot).mp value)

theorem slotForDeviceId_inverts (id : String) : Inverted id ↔ ¬ Misread id :=
  ⟨fun inverted misread => misread_not_inverted misread inverted, inverted_of_not_misread⟩

theorem slotForDeviceId_misreads :
    (¬ ∀ id, Inverted id) ∧ slotForDeviceId "device@1.0/virtual_renderer/99999999999" = .error .outOfRange ∧
      slotForDeviceId "device@1.0/virtual_renderer/0100" = .ok 0 := by
  have throws : slotForDeviceId "device@1.0/virtual_renderer/99999999999" = .error .outOfRange := by decide +kernel
  refine ⟨fun all => ?_, throws, by decide +kernel⟩
  obtain ⟨result, returned, _⟩ := all "device@1.0/virtual_renderer/99999999999"
  cases throws.symm.trans returned

end VirtualCamera
