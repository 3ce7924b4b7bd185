import VirtualCamera.Core.ReadFenceSet
import VirtualCamera.Shared.KernelTwins

set_option autoImplicit false

namespace VirtualCamera

open Descriptors Kernel

theorem pruneReadFences_later (kernel : Kernel) (fences : List Fd) :
    kernel.Later (pruneReadFences kernel fences).2 := by
  induction fences generalizing kernel with
  | nil => exact .refl kernel
  | cons fence rest ih =>
    have waited := later_syncWait kernel fence
    simp only [pruneReadFences]
    split
    next => exact (waited.trans (later_close _ fence)).trans (ih _)
    next => exact waited.trans (ih _)

theorem mergeReadFences_later (kernel : Kernel) (front : Fd) (rest : List Fd) :
    kernel.Later (mergeReadFences kernel front rest).2.2 := by
  induction rest generalizing kernel front with
  | nil => exact .refl kernel
  | cons back rest ih =>
    have merging := later_syncMerge kernel front back
    simp only [mergeReadFences]
    generalize kernel.syncMerge front back = result at merging
    obtain ⟨_ | combined, after⟩ := result
    · exact merging
    · exact merging.trans (((later_close _ front).trans (later_close _ back)).trans (ih _ _))

theorem consolidateReadFences_later (kernel : Kernel) (fences : List Fd) :
    kernel.Later (consolidateReadFences kernel fences).2.2 := by
  have pruned := pruneReadFences_later kernel fences
  unfold consolidateReadFences
  generalize pruneReadFences kernel fences = result at pruned
  obtain ⟨_ | ⟨front, rest⟩, after⟩ := result
  · exact pruned
  · exact pruned.trans (mergeReadFences_later _ _ _)

theorem duplicateAcquireFence_later (kernel : Kernel) (fence : Option Fd) :
    kernel.Later (duplicateAcquireFence kernel fence).2.2 := by
  cases fence with
  | none => exact .refl kernel
  | some fd => exact later_dup kernel fd

section Twins

variable {device : Point → Prop} {final : Nat} {left right : Kernel}

theorem alikes_together {left' right' : Kernel} {fences others : List Fd}
    (alike : List.Forall₂ (Alike device left right) fences others)
    (together : Together left right left' right') : List.Forall₂ (Alike device left' right') fences others :=
  alike.imp fun _ _ here => here.later together.first together.second

theorem last_alike {fences others : List Fd} (alike : List.Forall₂ (Alike device left right) fences others) :
    Option.Rel (Alike device left right) fences.getLast? others.getLast? := by
  rw [← List.head?_reverse, ← List.head?_reverse]
  have backwards := List.rel_reverse alike
  generalize fences.reverse = back at backwards
  generalize others.reverse = back' at backwards
  cases backwards with
  | nil => exact .none
  | cons here _ => exact .some here

theorem pruneReadFences_same {fences others : List Fd} (same : SameWork device left right)
    (alike : List.Forall₂ (Alike device left right) fences others) (agrees : Agrees final left right)
    (used : (pruneReadFences left fences).2.calls ≤ final) :
    Together left right (pruneReadFences left fences).2 (pruneReadFences right others).2 ∧
      List.Forall₂ (Alike device (pruneReadFences left fences).2 (pruneReadFences right others).2)
        (pruneReadFences left fences).1 (pruneReadFences right others).1 := by
  induction fences generalizing left right others with
  | nil =>
    cases alike
    exact ⟨.refl left right, .nil⟩
  | cons fence rest ih =>
    cases alike with
    | cons here later =>
      next other others =>
      have waited := syncWait_together left right fence other
      have asked : (left.syncWait fence).2.calls ≤ final := by
        refine le_trans ?_ used
        simp only [pruneReadFences]
        split
        next => exact ((later_close _ fence).trans (pruneReadFences_later _ _)).calls
        next => exact (pruneReadFences_later _ _).calls
      have answer := syncWait_same same here agrees asked
      simp only [pruneReadFences, ← answer] at used ⊢
      split at used
      next passed =>
        have closed := waited.trans (close_together _ _ fence other)
        obtain ⟨together, kept⟩ := ih (same.later closed.first closed.second) (alikes_together later closed)
          (agrees.together closed) used
        rw [if_pos passed, if_pos passed]
        exact ⟨closed.trans together, kept⟩
      next missed =>
        obtain ⟨together, kept⟩ := ih (same.later waited.first waited.second) (alikes_together later waited)
          (agrees.together waited) used
        rw [if_neg missed, if_neg missed]
        have both := waited.trans together
        exact ⟨both, .cons (here.later both.first both.second) kept⟩

theorem mergeReadFences_same {front other : Fd} {fences others : List Fd}
    (here : Alike device left right front other)
    (alike : List.Forall₂ (Alike device left right) fences others) (agrees : Agrees final left right)
    (used : (mergeReadFences left front fences).2.2.calls ≤ final) :
    Together left right (mergeReadFences left front fences).2.2 (mergeReadFences right other others).2.2 ∧
      (mergeReadFences left front fences).1 = (mergeReadFences right other others).1 ∧
      List.Forall₂ (Alike device (mergeReadFences left front fences).2.2 (mergeReadFences right other others).2.2)
        (mergeReadFences left front fences).2.1 (mergeReadFences right other others).2.1 := by
  induction fences generalizing left right front other others with
  | nil =>
    cases alike
    exact ⟨.refl left right, rfl, .cons here .nil⟩
  | cons back rest ih =>
    cases alike with
    | cons first later =>
      next back' others =>
      have asked : (left.syncMerge front back).2.calls ≤ final := by
        refine le_trans ?_ used
        simp only [mergeReadFences]
        split
        next merged => simp [merged]
        next merged =>
          simp only [merged]
          exact (((later_close _ front).trans (later_close _ back)).trans (mergeReadFences_later _ _ _)).calls
      obtain ⟨merging, combined⟩ := syncMerge_same here first agrees asked
      simp only [mergeReadFences] at used ⊢
      generalize left.syncMerge front back = result at merging combined used
      generalize right.syncMerge other back' = result' at merging combined
      obtain ⟨merged, after⟩ := result
      obtain ⟨merged', after'⟩ := result'
      cases combined with
      | none =>
        refine ⟨merging, rfl, .cons (here.later merging.first merging.second) ?_⟩
        exact List.rel_reverse (.cons (first.later merging.first merging.second) (alikes_together later merging))
      | some alike =>
        have closed := (close_together after after' front other).trans (close_together _ _ back back')
        obtain ⟨together, rest⟩ := ih (alike.later closed.first closed.second)
          (alikes_together later (merging.trans closed)) (agrees.together (merging.trans closed)) used
        exact ⟨(merging.trans closed).trans together, rest⟩

theorem consolidateReadFences_same {fences others : List Fd} (same : SameWork device left right)
    (alike : List.Forall₂ (Alike device left right) fences others) (agrees : Agrees final left right)
    (used : (consolidateReadFences left fences).2.2.calls ≤ final) :
    Together left right (consolidateReadFences left fences).2.2 (consolidateReadFences right others).2.2 ∧
      (consolidateReadFences left fences).1 = (consolidateReadFences right others).1 ∧
      List.Forall₂ (Alike device (consolidateReadFences left fences).2.2 (consolidateReadFences right others).2.2)
        (consolidateReadFences left fences).2.1 (consolidateReadFences right others).2.1 := by
  have asked : (pruneReadFences left fences).2.calls ≤ final := by
    refine le_trans ?_ used
    unfold consolidateReadFences
    split
    next pruned => simp [pruned]
    next pruned =>
      simp only [pruned]
      exact (mergeReadFences_later _ _ _).calls
  obtain ⟨pruning, kept⟩ := pruneReadFences_same same alike agrees asked
  unfold consolidateReadFences at used ⊢
  generalize pruneReadFences left fences = result at pruning kept used
  generalize pruneReadFences right others = result' at pruning kept
  obtain ⟨fences, after⟩ := result
  obtain ⟨others, after'⟩ := result'
  cases kept with
  | nil => exact ⟨pruning, rfl, .nil⟩
  | cons here later =>
    obtain ⟨together, rest⟩ := mergeReadFences_same here (List.rel_reverse later) (agrees.together pruning) used
    exact ⟨pruning.trans together, rest⟩

theorem duplicateAcquireFence_same {fence other : Option Fd}
    (alike : Option.Rel (Alike device left right) fence other)
    (agrees : Agrees final left right) (used : (duplicateAcquireFence left fence).2.2.calls ≤ final) :
    Together left right (duplicateAcquireFence left fence).2.2 (duplicateAcquireFence right other).2.2 ∧
      (duplicateAcquireFence left fence).1 = (duplicateAcquireFence right other).1 ∧
      Option.Rel (Alike device (duplicateAcquireFence left fence).2.2 (duplicateAcquireFence right other).2.2)
        (duplicateAcquireFence left fence).2.1 (duplicateAcquireFence right other).2.1 := by
  cases alike with
  | none => exact ⟨.refl left right, rfl, .none⟩
  | some here =>
    obtain ⟨together, copies⟩ := dup_same here agrees used
    refine ⟨together, ?_, copies⟩
    simp only [duplicateAcquireFence]
    generalize left.dup _ = result at copies
    generalize right.dup _ = result' at copies
    obtain ⟨copy, after⟩ := result
    obtain ⟨copy', after'⟩ := result'
    cases copies <;> rfl

end Twins

end VirtualCamera
