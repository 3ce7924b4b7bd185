import Mathlib.Order.Lattice

set_option autoImplicit false

namespace Renaming

variable {A B : Type} [LinearOrder A] [LinearOrder B]

def InOrder (pairs : List (A × B)) : Prop :=
  ∀ first ∈ pairs, ∀ second ∈ pairs, first.1 < second.1 ↔ first.2 < second.2

variable {pairs : List (A × B)} {a a' : A} {b b' : B}

theorem InOrder.lt_iff (ordered : InOrder pairs) (first : (a, b) ∈ pairs) (second : (a', b') ∈ pairs) :
    a < a' ↔ b < b' := ordered _ first _ second

theorem InOrder.le_iff (ordered : InOrder pairs) (first : (a, b) ∈ pairs) (second : (a', b') ∈ pairs) :
    a ≤ a' ↔ b ≤ b' := by
  rw [← not_lt, ← not_lt, ordered.lt_iff second first]

theorem InOrder.eq_iff (ordered : InOrder pairs) (first : (a, b) ∈ pairs) (second : (a', b') ∈ pairs) :
    a = a' ↔ b = b' := by
  rw [le_antisymm_iff, le_antisymm_iff, ordered.le_iff first second, ordered.le_iff second first]

def Fits (pairs : List (A × B)) (a : A) (b : B) : Prop :=
  ∀ pair ∈ pairs, (pair.1 < a ↔ pair.2 < b) ∧ (a < pair.1 ↔ b < pair.2)

theorem InOrder.cons (ordered : InOrder pairs) (fits : Fits pairs a b) : InOrder ((a, b) :: pairs) := by
  intro first member second there
  rcases List.mem_cons.mp member with rfl | earlier <;> rcases List.mem_cons.mp there with rfl | before
  · simp
  · exact (fits second before).2
  · exact (fits first earlier).1
  · exact ordered first earlier second before

end Renaming
