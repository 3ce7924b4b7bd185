import Mathlib.Algebra.BigOperators.Fin
import Mathlib.Algebra.Field.ZMod

set_option autoImplicit false

namespace Checksums

variable {n : Nat}

/-- One step of the division by the polynomial whose leading term lies just above the register. -/
def shift (poly register : BitVec n) : BitVec n := register <<< 1 ^^^ if register.msb then poly else 0#n

def shifts (poly : BitVec n) : Nat → BitVec n → BitVec n
  | 0, register => register
  | k + 1, register => shifts poly k (shift poly register)

def remainder (poly : BitVec n) (k : Nat) : BitVec n → List (BitVec n) → BitVec n
  | register, [] => register
  | register, word :: words => remainder poly k (shifts poly k (register ^^^ word)) words

theorem xor_swap (a b c d : BitVec n) : (a ^^^ b) ^^^ (c ^^^ d) = (a ^^^ c) ^^^ (b ^^^ d) := by
  rw [BitVec.xor_assoc, BitVec.xor_assoc, ← BitVec.xor_assoc b, BitVec.xor_comm b c, BitVec.xor_assoc c]

theorem shift_xor (poly x y : BitVec n) : shift poly (x ^^^ y) = shift poly x ^^^ shift poly y := by
  have taken : (if (x ^^^ y).msb then poly else 0#n) =
      (if x.msb then poly else 0#n) ^^^ (if y.msb then poly else 0#n) := by
    rw [BitVec.msb_xor]
    cases x.msb <;> cases y.msb <;> simp
  rw [shift, BitVec.shiftLeft_xor_distrib, taken, xor_swap]
  rfl

theorem shifts_xor (poly : BitVec n) (k : Nat) (x y : BitVec n) :
    shifts poly k (x ^^^ y) = shifts poly k x ^^^ shifts poly k y := by
  induction k generalizing x y with
  | zero => rfl
  | succ k ih => rw [shifts, shift_xor, ih]; rfl

theorem remainder_xor {ι : Type} (poly : BitVec n) (k : Nat) (x y : BitVec n) (f g : ι → BitVec n)
    (places : List ι) :
    remainder poly k (x ^^^ y) (places.map fun i => f i ^^^ g i) =
      remainder poly k x (places.map f) ^^^ remainder poly k y (places.map g) := by
  induction places generalizing x y with
  | nil => rfl
  | cons i places ih =>
    simp only [List.map_cons, remainder]
    rw [xor_swap, shifts_xor, ih]

theorem shifts_add (poly : BitVec n) (j k : Nat) (register : BitVec n) :
    shifts poly (j + k) register = shifts poly k (shifts poly j register) := by
  induction j generalizing register with
  | zero => rw [Nat.zero_add]; rfl
  | succ j ih => rw [Nat.succ_add, shifts, ih]; rfl

theorem shifts_zero (poly : BitVec n) (k : Nat) : shifts poly k 0#n = 0#n := by
  have step : shift poly 0#n = 0#n := by simp [shift]
  induction k with
  | zero => rfl
  | succ k ih => rw [shifts, step, ih]

theorem remainder_append (poly : BitVec n) (k : Nat) (register : BitVec n) (words later : List (BitVec n)) :
    remainder poly k register (words ++ later) = remainder poly k (remainder poly k register words) later := by
  induction words generalizing register with
  | nil => rfl
  | cons word words ih => exact ih _

theorem remainder_zeros (poly : BitVec n) (k m : Nat) (register : BitVec n) :
    remainder poly k register (List.replicate m 0#n) = shifts poly (m * k) register := by
  induction m generalizing register with
  | zero => rw [Nat.zero_mul]; rfl
  | succ m ih =>
    rw [List.replicate_succ, remainder, ih, BitVec.xor_zero, ← shifts_add, Nat.succ_mul, Nat.add_comm]

theorem remainder_single (poly : BitVec n) (k before after : Nat) (word : BitVec n) :
    remainder poly k 0#n (List.replicate before 0#n ++ word :: List.replicate after 0#n) =
      shifts poly ((after + 1) * k) word := by
  rw [remainder_append, remainder_zeros, shifts_zero, remainder, BitVec.zero_xor, remainder_zeros, ← shifts_add,
    Nat.succ_mul, Nat.add_comm]

theorem shift_eq_zero {poly register : BitVec n} (bottom : poly.getLsbD 0 = true)
    (zero : shift poly register = 0#n) : register = 0#n := by
  have top : register.msb = false := by
    have first := congrArg (fun x => x.getLsbD 0) zero
    cases here : register.msb with
    | false => rfl
    | true => simp [shift, here, bottom] at first
  rw [shift, top, if_neg Bool.false_ne_true, BitVec.xor_zero] at zero
  refine BitVec.eq_of_getLsbD_eq fun i low => ?_
  rw [BitVec.getLsbD_zero]
  by_cases last : i + 1 < n
  · have next := congrArg (fun x => x.getLsbD (i + 1)) zero
    rw [BitVec.getLsbD_eq_getElem low]
    simpa [last] using next
  · have same : n - 1 = i := by omega
    rw [BitVec.msb_eq_getLsbD_last, same] at top
    exact top

theorem shifts_injective {poly : BitVec n} (bottom : poly.getLsbD 0 = true) (k : Nat) {x y : BitVec n}
    (same : shifts poly k x = shifts poly k y) : x = y := by
  induction k generalizing x y with
  | zero => exact same
  | succ k ih =>
    have step := ih same
    have zero : shift poly (x ^^^ y) = 0#n := by rw [shift_xor, step, BitVec.xor_self]
    exact BitVec.xor_eq_zero_iff.mp (shift_eq_zero bottom zero)

theorem shifts_apart {poly start : BitVec n} (bottom : poly.getLsbD 0 = true) {limit : Nat}
    (order : ∀ k < limit, 0 < k → shifts poly k start ≠ start) {i j : Nat} (low : i < limit) (high : j < limit)
    (same : shifts poly i start = shifts poly j start) : i = j := by
  wlog less : i ≤ j generalizing i j
  · exact (this high low same.symm (by omega)).symm
  by_contra apart
  have split : j = j - i + i := by omega
  rw [split, shifts_add] at same
  exact order (j - i) (by omega) (by omega) (shifts_injective bottom i same).symm

def parity (register : BitVec n) : ZMod 2 := ∑ i : Fin n, if register.getLsbD i then 1 else 0

theorem parity_zero : parity (0#n) = 0 := by simp [parity]

theorem parity_xor (x y : BitVec n) : parity (x ^^^ y) = parity x + parity y := by
  rw [parity, parity, parity, ← Finset.sum_add_distrib]
  refine Finset.sum_congr rfl fun i _ => ?_
  rw [BitVec.getLsbD_xor]
  cases x.getLsbD i <;> cases y.getLsbD i <;> decide

theorem parity_shiftLeft (register : BitVec n) :
    parity (register <<< 1) = parity register + if register.msb then 1 else 0 := by
  cases n with
  | zero => simp [parity, BitVec.msb]
  | succ n =>
    have top : register.msb = register.getLsbD n := by simp [BitVec.msb_eq_getLsbD_last]
    rw [parity, parity, Fin.sum_univ_succ, Fin.sum_univ_castSucc, top]
    have low : (register <<< 1).getLsbD ((0 : Fin (n + 1)) : Nat) = false := by simp
    have rest : ∀ i : Fin n, (register <<< 1).getLsbD (i.succ : Nat) = register.getLsbD (i.castSucc : Nat) := by
      intro i
      have within : (i : Nat) + 1 < n + 1 := by omega
      simp [within]
    rw [low, Finset.sum_congr rfl fun i _ => by rw [rest i]]
    have twice : ∀ bit : Bool, ((if bit then 1 else 0) + if bit then 1 else 0 : ZMod 2) = 0 := by decide
    rw [Fin.val_last, add_assoc, twice, add_zero, if_neg Bool.false_ne_true, zero_add]

theorem parity_shift {poly : BitVec n} (odd : parity poly = 1) (register : BitVec n) :
    parity (shift poly register) = parity register := by
  rw [shift, parity_xor, parity_shiftLeft]
  cases register.msb with
  | false => simp [parity_zero]
  | true =>
    have even : (1 : ZMod 2) + 1 = 0 := by decide
    simp only [if_true, odd]
    rw [add_assoc, even, add_zero]

theorem parity_shifts {poly : BitVec n} (odd : parity poly = 1) (k : Nat) (register : BitVec n) :
    parity (shifts poly k register) = parity register := by
  induction k generalizing register with
  | zero => rfl
  | succ k ih => rw [shifts, ih, parity_shift odd]

def combined {ι : Type} (syndrome : ι → BitVec n) (errors : List ι) : BitVec n :=
  errors.foldr (fun error rest => syndrome error ^^^ rest) 0#n

theorem parity_combined {ι : Type} {syndrome : ι → BitVec n} {errors : List ι}
    (odd : ∀ error ∈ errors, parity (syndrome error) = 1) :
    parity (combined syndrome errors) = errors.length := by
  induction errors with
  | nil => exact parity_zero
  | cons error errors ih =>
    have rest := ih fun other member => odd other (List.mem_cons_of_mem _ member)
    rw [combined, List.foldr_cons, parity_xor, odd error List.mem_cons_self]
    rw [combined] at rest
    rw [rest, List.length_cons, Nat.cast_succ, add_comm]

theorem combined_ne_zero_of_odd {ι : Type} {syndrome : ι → BitVec n} {errors : List ι}
    (odd : ∀ error ∈ errors, parity (syndrome error) = 1) (count : errors.length % 2 = 1) :
    combined syndrome errors ≠ 0#n := by
  intro cancels
  have even := parity_combined odd
  rw [cancels, parity_zero] at even
  have divides := (ZMod.natCast_eq_zero_iff _ 2).mp even.symm
  omega

theorem combined_ne_zero {ι : Type} {syndrome : ι → BitVec n} {errors : List ι}
    (odd : ∀ error ∈ errors, parity (syndrome error) = 1)
    (apart : ∀ error ∈ errors, ∀ other ∈ errors, syndrome error = syndrome other → error = other)
    (distinct : errors.Nodup) (some_ : errors ≠ []) (few : errors.length ≤ 3) :
    combined syndrome errors ≠ 0#n := by
  by_cases count : errors.length % 2 = 1
  · exact combined_ne_zero_of_odd odd count
  · have positive := List.length_pos_iff.mpr some_
    have two : errors.length = 2 := by omega
    obtain ⟨first, second, rfl⟩ := List.length_eq_two.mp two
    intro cancels
    have same : syndrome first = syndrome second := by
      simp only [combined, List.foldr_cons, List.foldr_nil, BitVec.xor_zero] at cancels
      exact BitVec.xor_eq_zero_iff.mp cancels
    have equal := apart first (by simp) second (by simp) same
    simp [equal] at distinct

end Checksums
