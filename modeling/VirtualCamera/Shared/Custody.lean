import Mathlib.Data.Finset.Card
import Mathlib.Data.List.Perm.Basic

set_option autoImplicit false

namespace Custody

variable {B : Type}

/-- Of the items `all`, those in `owned` have one owner each and the others are marked free. -/
structure Kept (all : Finset B) (free : B → Prop) (owned : List B) : Prop where
  nodup : owned.Nodup
  inside : ∀ item ∈ owned, item ∈ all
  marked : ∀ item ∈ all, free item ↔ item ∉ owned

namespace Kept

variable {all : Finset B} {free : B → Prop} {owned : List B}

theorem perm (kept : Kept all free owned) {other : List B} (same : owned.Perm other) : Kept all free other where
  nodup := same.nodup_iff.mp kept.nodup
  inside item member := kept.inside item (same.mem_iff.mpr member)
  marked item member := by rw [kept.marked item member, same.mem_iff]

theorem length_le (kept : Kept all free owned) : owned.length ≤ all.card := by
  classical
  have distinct := List.toFinset_card_of_nodup kept.nodup
  rw [← distinct]
  exact Finset.card_le_card fun item member => kept.inside item (List.mem_toFinset.mp member)

theorem release {item : B} {rest : List B} (kept : Kept all free (item :: rest)) {free' : B → Prop}
    (now : free' item) (others : ∀ other, other ≠ item → (free' other ↔ free other)) : Kept all free' rest where
  nodup := kept.nodup.of_cons
  inside other member := kept.inside other (List.mem_cons_of_mem _ member)
  marked other member := by
    by_cases same : other = item
    · subst same
      exact iff_of_true now (List.nodup_cons.mp kept.nodup).1
    · rw [others other same, kept.marked other member, List.mem_cons, not_or, and_iff_right same]

theorem claim {item : B} (kept : Kept all free owned) (member : item ∈ all) (was : free item) {free' : B → Prop}
    (now : ¬ free' item) (others : ∀ other, other ≠ item → (free' other ↔ free other)) :
    Kept all free' (item :: owned) where
  nodup := List.nodup_cons.mpr ⟨(kept.marked item member).mp was, kept.nodup⟩
  inside other there := by
    rcases List.mem_cons.mp there with rfl | there
    · exact member
    · exact kept.inside other there
  marked other there := by
    by_cases same : other = item
    · subst same
      exact iff_of_false now (not_not.mpr List.mem_cons_self)
    · rw [others other same, kept.marked other there, List.mem_cons, not_or, and_iff_right same]

theorem single [DecidableEq B] [DecidablePred free] (kept : Kept all free owned) {item : B} (member : item ∈ all) :
    (if free item then 1 else 0) + owned.count item = 1 := by
  by_cases there : item ∈ owned
  · rw [if_neg fun marked => (kept.marked item member).mp marked there, List.count_eq_one_of_mem kept.nodup there]
  · rw [if_pos ((kept.marked item member).mpr there), List.count_eq_zero_of_not_mem there]

end Kept

end Custody
