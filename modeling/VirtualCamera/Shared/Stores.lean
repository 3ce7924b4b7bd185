import Mathlib.Logic.Function.Basic

set_option autoImplicit false

namespace Stores

variable {A V : Type} [DecidableEq A]

/-- A memory after some stores, the last of them at an address being the one that shows. -/
def applied (stores : List (A × V)) (memory : A → V) : A → V :=
  stores.foldl (fun memory store => Function.update memory store.1 store.2) memory

variable {stores : List (A × V)} {memory : A → V} {address : A} {value : V}

theorem applied_untouched (absent : ∀ store ∈ stores, store.1 ≠ address) :
    applied stores memory address = memory address := by
  induction stores generalizing memory with
  | nil => rfl
  | cons store rest ih =>
    obtain ⟨other, others⟩ := List.forall_mem_cons.mp absent
    have later : applied rest (Function.update memory store.1 store.2) address =
        Function.update memory store.1 store.2 address := ih others
    rwa [Function.update_of_ne (Ne.symm other)] at later

theorem applied_written (agree : ∀ store ∈ stores, store.1 = address → store.2 = value)
    (written : ∃ store ∈ stores, store.1 = address) : applied stores memory address = value := by
  induction stores generalizing memory with
  | nil => simp at written
  | cons store rest ih =>
    obtain ⟨here, later⟩ := List.forall_mem_cons.mp agree
    by_cases again : ∃ store ∈ rest, store.1 = address
    · exact ih later again
    · obtain ⟨first, member, same⟩ := written
      rcases List.mem_cons.mp member with rfl | old
      · have untouched : ∀ store ∈ rest, store.1 ≠ address := fun other inside equal => again ⟨other, inside, equal⟩
        have shown : applied rest (Function.update memory first.1 first.2) address =
            Function.update memory first.1 first.2 address := applied_untouched untouched
        exact shown.trans (by rw [← same, Function.update_self, here same])
      · exact absurd ⟨first, old, same⟩ again

end Stores
