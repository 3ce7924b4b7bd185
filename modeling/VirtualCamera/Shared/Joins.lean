import Mathlib.Order.Bounds.Basic
import Mathlib.Order.MinMax
import VirtualCamera.Shared.Runs

set_option autoImplicit false

namespace Joins

open Runs

variable {σ E α : Type} [LinearOrder α]

/-- A machine whose value only rises: an event that has a key joins it, and the others leave the value alone. -/
structure Joining (step : σ → E → σ → Prop) (value : σ → α) (key : E → Option α) : Prop where
  passes : ∀ state event after, step state event after → key event = none → value after = value state
  joins : ∀ state event after added, step state event after → key event = some added →
    value after = max (value state) added

def delivered (first : α) (key : E → Option α) (events : List E) : Set α :=
  insert first { added | ∃ event ∈ events, key event = some added }

variable {step : σ → E → σ → Prop} {value : σ → α} {key : E → Option α} {start final : σ} {events : List E}

theorem Joining.greatest (joining : Joining step value key) (run : Run step start events final) :
    IsGreatest (delivered (value start) key events) (value final) := by
  induction run with
  | refl =>
    refine ⟨Set.mem_insert _ _, ?_⟩
    rintro added (rfl | ⟨event, member, _⟩)
    · exact le_rfl
    · cases member
  | @snoc events middle after event run next ih =>
    cases keyed : key event with
    | none =>
      rw [joining.passes middle event after next keyed]
      refine ⟨ih.1.imp_right ?_, ?_⟩
      · rintro ⟨earlier, member, same⟩
        exact ⟨earlier, List.mem_append_left _ member, same⟩
      · rintro added (rfl | ⟨earlier, member, same⟩)
        · exact ih.2 (Set.mem_insert _ _)
        · rcases List.mem_append.mp member with member | member
          · exact ih.2 (.inr ⟨earlier, member, same⟩)
          · obtain rfl := List.mem_singleton.mp member
            simp [keyed] at same
    | some added =>
      rw [joining.joins middle event after added next keyed]
      refine ⟨?_, ?_⟩
      · rcases max_choice (value middle) added with kept | raised
        · rw [kept]
          refine ih.1.imp_right ?_
          rintro ⟨earlier, member, same⟩
          exact ⟨earlier, List.mem_append_left _ member, same⟩
        · rw [raised]
          exact .inr ⟨event, by simp, keyed⟩
      · rintro other (rfl | ⟨earlier, member, same⟩)
        · exact (ih.2 (Set.mem_insert _ _)).trans (le_max_left _ _)
        · rcases List.mem_append.mp member with member | member
          · exact (ih.2 (.inr ⟨earlier, member, same⟩)).trans (le_max_left _ _)
          · obtain rfl := List.mem_singleton.mp member
            obtain rfl := Option.some.inj (keyed.symm.trans same)
            exact le_max_right _ _

theorem Joining.lt_iff (joining : Joining step value key) (run : Run step start events final) (added : α) :
    value final < added ↔ ∀ other ∈ delivered (value start) key events, other < added := by
  have greatest := joining.greatest run
  exact ⟨fun above other member => (greatest.2 member).trans_lt above, fun above => above _ greatest.1⟩

theorem Joining.greatest_of_fresh (joining : Joining step value key) (run : Run step start events final)
    (above : ∀ event ∈ events, ∀ added, key event = some added → value start < added)
    (delivers : ∃ event ∈ events, key event ≠ none) :
    IsGreatest { added | ∃ event ∈ events, key event = some added } (value final) := by
  have greatest := joining.greatest run
  obtain ⟨event, member, keyed⟩ := delivers
  obtain ⟨added, keyed⟩ := Option.ne_none_iff_exists'.mp keyed
  refine ⟨greatest.1.resolve_left fun same => ?_, fun other inside => greatest.2 (.inr inside)⟩
  exact absurd (above event member added keyed) (not_lt.mpr (same ▸ greatest.2 (.inr ⟨event, member, keyed⟩)))

end Joins
