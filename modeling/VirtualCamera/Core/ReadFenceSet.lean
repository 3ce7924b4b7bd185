import VirtualCamera.Shared.Descriptors

set_option autoImplicit false

namespace VirtualCamera

open Descriptors

def pruneReadFences (kernel : Kernel) : List Fd → List Fd × Kernel
  | [] => ([], kernel)
  | fence :: rest =>
    let (signalled, kernel) := kernel.syncWait fence
    if signalled then pruneReadFences (kernel.close fence) rest
    else
      let (kept, kernel) := pruneReadFences kernel rest
      (fence :: kept, kernel)

-- The merge loop, with the fences behind the front one last first, as the loop takes them.
def mergeReadFences (kernel : Kernel) (front : Fd) : List Fd → Bool × List Fd × Kernel
  | [] => (true, [front], kernel)
  | back :: rest =>
    match kernel.syncMerge front back with
    | (none, kernel) => (false, front :: (back :: rest).reverse, kernel)
    | (some combined, kernel) => mergeReadFences ((kernel.close front).close back) combined rest

def consolidateReadFences (kernel : Kernel) (fences : List Fd) : Bool × List Fd × Kernel :=
  match pruneReadFences kernel fences with
  | ([], kernel) => (true, [], kernel)
  | (front :: rest, kernel) => mergeReadFences kernel front rest.reverse

def retiredFrameReady (kernel : Kernel) (inflight : Nat) (fences : List Fd) :
    Bool × List Fd × Kernel :=
  let (kept, kernel) := pruneReadFences kernel fences
  (inflight == 0 && kept.isEmpty, kept, kernel)

-- `false` is the failed dup of a fence that exists; no fence is a success with no descriptor.
def duplicateAcquireFence (kernel : Kernel) (fence : Option Fd) : Bool × Option Fd × Kernel :=
  match fence with
  | none => (true, none, kernel)
  | some fd =>
    let (copy, kernel) := kernel.dup fd
    (copy.isSome, copy, kernel)

structure FencesKept (before after : Kernel) (fences kept : List Fd) (others : Multiset Fd) : Prop where
  extends_ : before.Extends after
  balanced : after.Balanced (kept + others)
  covered : ∀ fd ∈ fences, after.Covered kept fd

theorem FencesKept.trans {before middle after : Kernel} {fences kept final : List Fd}
    {others : Multiset Fd} (balanced : before.Balanced (fences + others))
    (first : FencesKept before middle fences kept others)
    (second : FencesKept middle after kept final others) :
    FencesKept before after fences final others where
  extends_ := first.extends_.trans second.extends_
  balanced := second.balanced
  covered fd member := by
    have opened : fd < before.next := balanced.opened (by simp [member])
    have early := first.covered fd member
    have keepers : ∀ keeper ∈ kept, keeper < middle.next :=
      fun keeper inside => first.balanced.opened (by simp [inside])
    have late := second.extends_.covered (lt_of_lt_of_le opened first.extends_.next) keepers early
    exact late.trans second.covered

theorem pruneReadFences_kept (kernel : Kernel) (fences : List Fd) (others : Multiset Fd)
    (balanced : kernel.Balanced (fences + others)) :
    FencesKept kernel (pruneReadFences kernel fences).2 fences (pruneReadFences kernel fences).1 others := by
  induction fences generalizing kernel others with
  | nil => exact ⟨.refl kernel, balanced, by simp⟩
  | cons fence rest ih =>
    have opened : fence < kernel.next := balanced.opened (by simp)
    have waited := Kernel.extends_syncWait kernel fence
    simp only [pruneReadFences]
    split
    next passed =>
      have closing : (kernel.syncWait fence).2.Balanced (fence ::ₘ (rest + others)) := by
        have waiting := balanced.syncWait fence
        rwa [← Multiset.cons_coe, Multiset.cons_add] at waiting
      have step := ih ((kernel.syncWait fence).2.close fence) others closing.close
      have moved := waited.trans (Kernel.extends_close _ fence)
      refine ⟨moved.trans step.extends_, step.balanced, ?_⟩
      intro fd member
      rcases List.mem_cons.mp member with rfl | later
      · exact .inl ((moved.trans step.extends_).ready opened (Kernel.syncWait_ready passed))
      · exact step.covered fd later
    next =>
      have holding : (kernel.syncWait fence).2.Balanced (rest + (fence ::ₘ others)) := by
        have shape : ((fence :: rest : List Fd) : Multiset Fd) + others =
            (rest : Multiset Fd) + (fence ::ₘ others) := by
          rw [← Multiset.cons_coe, Multiset.cons_add, Multiset.add_cons]
        rw [← shape]
        exact balanced
      have step := ih (kernel.syncWait fence).2 (fence ::ₘ others) holding
      refine ⟨waited.trans step.extends_, ?_, ?_⟩
      · have shape : ((fence :: (pruneReadFences (kernel.syncWait fence).2 rest).1 : List Fd) :
            Multiset Fd) + others =
            ((pruneReadFences (kernel.syncWait fence).2 rest).1 : Multiset Fd) + (fence ::ₘ others) := by
          rw [← Multiset.cons_coe, Multiset.cons_add, Multiset.add_cons]
        rw [shape]
        exact step.balanced
      · intro fd member
        rcases List.mem_cons.mp member with rfl | later
        · exact .self (List.mem_cons_self)
        · exact (step.covered fd later).mono (List.subset_cons_self _ _)

theorem mergeReadFences_kept (kernel : Kernel) (front : Fd) (rest : List Fd) (others : Multiset Fd)
    (balanced : kernel.Balanced ((front :: rest : List Fd) + others)) :
    FencesKept kernel (mergeReadFences kernel front rest).2.2 (front :: rest)
      (mergeReadFences kernel front rest).2.1 others := by
  induction rest generalizing kernel front with
  | nil => exact ⟨.refl kernel, balanced, fun fd member => .self member⟩
  | cons back rest ih =>
    have merge := Kernel.syncMerge_spec kernel front back balanced
    simp only [mergeReadFences]
    cases merged : kernel.syncMerge front back with
    | mk combined next =>
      rw [merged] at merge
      cases combined with
      | none =>
        refine ⟨merge.1, ?_, ?_⟩
        · have shape : ((front :: (back :: rest).reverse : List Fd) : Multiset Fd) =
              (front :: back :: rest : List Fd) :=
            Multiset.coe_eq_coe.mpr ((List.reverse_perm _).cons front)
          rw [shape]
          exact merge.2
        · intro fd member
          exact .self (List.mem_cons.mpr ((List.mem_cons.mp member).imp_right List.mem_reverse.mpr))
      | some combined =>
        obtain ⟨extended, holding, points⟩ := merge
        -- Both inputs go, the merged descriptor waits for all that they waited for.
        have closing : ((next.close front).close back).Balanced
            ((combined :: rest : List Fd) + others) := by
          apply Kernel.Balanced.close
          apply Kernel.Balanced.close
          have shape : (front ::ₘ back ::ₘ (((combined :: rest : List Fd) : Multiset Fd) + others)) =
              combined ::ₘ (((front :: back :: rest : List Fd) : Multiset Fd) + others) := by
            simp only [← Multiset.cons_coe, Multiset.cons_add]
            rw [Multiset.cons_swap back, Multiset.cons_swap front]
          rw [shape]
          exact holding
        have step := ih ((next.close front).close back) combined closing
        have moved := (extended.trans (Kernel.extends_close next front)).trans
          (Kernel.extends_close (next.close front) back)
        have first : FencesKept kernel ((next.close front).close back) (front :: back :: rest)
            (combined :: rest) others := by
          refine ⟨moved, closing, ?_⟩
          have opened : ∀ fd ∈ front :: back :: rest, fd < kernel.next :=
            fun fd member => balanced.opened (Multiset.mem_add.mpr (.inl member))
          have same : ∀ fd, ((next.close front).close back).points fd = next.points fd := fun _ => rfl
          intro fd member
          rcases List.mem_cons.mp member with rfl | member'
          · refine .inr ⟨combined, List.mem_cons_self, ?_⟩
            rw [same, same, points, extended.points fd (opened fd member)]
            exact List.subset_append_left _ _
          · rcases List.mem_cons.mp member' with rfl | inside
            · refine .inr ⟨combined, List.mem_cons_self, ?_⟩
              rw [same, same, points, extended.points fd (opened fd member)]
              exact List.subset_append_right _ _
            · exact .self (List.mem_cons_of_mem _ inside)
        exact first.trans balanced step

theorem consolidateReadFences_kept (kernel : Kernel) (fences : List Fd) (others : Multiset Fd)
    (balanced : kernel.Balanced (fences + others)) :
    FencesKept kernel (consolidateReadFences kernel fences).2.2 fences
      (consolidateReadFences kernel fences).2.1 others := by
  have pruned := pruneReadFences_kept kernel fences others balanced
  unfold consolidateReadFences
  cases shape : pruneReadFences kernel fences with
  | mk kept next =>
    rw [shape] at pruned
    cases kept with
    | nil => exact pruned
    | cons front rest =>
      have reversed : ((front :: rest.reverse : List Fd) : Multiset Fd) = (front :: rest : List Fd) :=
        Multiset.coe_eq_coe.mpr ((List.reverse_perm _).cons front)
      have turned : FencesKept kernel next fences (front :: rest.reverse) others := by
        refine ⟨pruned.extends_, ?_, ?_⟩
        · rw [reversed]
          exact pruned.balanced
        · intro fd member
          refine (pruned.covered fd member).mono ?_
          intro keeper inside
          simpa using inside
      exact turned.trans balanced (mergeReadFences_kept next front rest.reverse others turned.balanced)

theorem mergeReadFences_length (kernel : Kernel) (front : Fd) (rest : List Fd)
    (merged : (mergeReadFences kernel front rest).1 = true) :
    (mergeReadFences kernel front rest).2.1.length = 1 := by
  induction rest generalizing kernel front with
  | nil => rfl
  | cons back rest ih =>
    simp only [mergeReadFences] at merged ⊢
    cases step : kernel.syncMerge front back with
    | mk combined next =>
      rw [step] at merged
      cases combined with
      | none => cases merged
      | some combined => exact ih _ _ merged

theorem consolidateReadFences_length (kernel : Kernel) (fences : List Fd)
    (merged : (consolidateReadFences kernel fences).1 = true) :
    (consolidateReadFences kernel fences).2.1.length ≤ 1 := by
  unfold consolidateReadFences at merged ⊢
  cases shape : pruneReadFences kernel fences with
  | mk kept next =>
    rw [shape] at merged
    cases kept with
    | nil => exact Nat.zero_le 1
    | cons front rest => exact (mergeReadFences_length next front rest.reverse merged).le

theorem duplicateAcquireFence_failed (kernel : Kernel) (fence : Option Fd)
    (failed : (duplicateAcquireFence kernel fence).1 = false) :
    ∃ fd, kernel.dup fd = (none, (duplicateAcquireFence kernel fence).2.2) := by
  cases fence with
  | none => cases failed
  | some fd =>
    have absent : (kernel.dup fd).1 = none := by simpa [duplicateAcquireFence] using failed
    exact ⟨fd, Prod.ext absent rfl⟩

theorem duplicateAcquireFence_balanced (kernel : Kernel) (fence : Option Fd) (held : Multiset Fd)
    (balanced : kernel.Balanced held) :
    kernel.Extends (duplicateAcquireFence kernel fence).2.2 ∧
      (duplicateAcquireFence kernel fence).2.2.Balanced
        (((duplicateAcquireFence kernel fence).2.1.toList : Multiset Fd) + held) := by
  cases fence with
  | none => exact ⟨.refl kernel, by simpa [duplicateAcquireFence] using balanced⟩
  | some fd =>
    obtain ⟨moved, made⟩ := Kernel.dup_spec kernel fd balanced
    refine ⟨moved, ?_⟩
    simp only [duplicateAcquireFence]
    cases copy : (kernel.dup fd).1 with
    | none => simpa [copy] using made
    | some copied =>
      rw [copy] at made
      simpa [Multiset.singleton_add] using made.1

theorem retiredFrameReady_kept (kernel : Kernel) (inflight : Nat) (fences : List Fd)
    (others : Multiset Fd) (balanced : kernel.Balanced (fences + others)) :
    FencesKept kernel (retiredFrameReady kernel inflight fences).2.2 fences
      (retiredFrameReady kernel inflight fences).2.1 others :=
  pruneReadFences_kept kernel fences others balanced

theorem retiredFrameReady_iff (kernel : Kernel) (inflight : Nat) (fences : List Fd) :
    (retiredFrameReady kernel inflight fences).1 = true ↔
      inflight = 0 ∧ (retiredFrameReady kernel inflight fences).2.1 = [] := by
  simp [retiredFrameReady]

end VirtualCamera
