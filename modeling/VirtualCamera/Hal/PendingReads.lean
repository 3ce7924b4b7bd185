import VirtualCamera.Hal.Configurations
import VirtualCamera.Hal.Conservation

set_option autoImplicit false

namespace VirtualCamera

open Descriptors Runs StableHal

theorem pruneReadFences_length_le (kernel : Kernel) (fences : List Fd) :
    (pruneReadFences kernel fences).1.length ≤ fences.length := by
  induction fences generalizing kernel with
  | nil => exact le_rfl
  | cons fence rest ih =>
    simp only [pruneReadFences]
    split
    · exact (ih _).trans (Nat.le_succ _)
    · exact Nat.succ_le_succ (ih _)

theorem mergeReadFences_length_le (kernel : Kernel) (front : Fd) (rest : List Fd) :
    (mergeReadFences kernel front rest).2.1.length ≤ rest.length + 1 := by
  induction rest generalizing kernel front with
  | nil => exact le_rfl
  | cons back rest ih =>
    simp only [mergeReadFences]
    split
    · simp
    · exact (ih _ _).trans (Nat.le_succ _)

theorem consolidateReadFences_length_le (kernel : Kernel) (fences : List Fd) :
    (consolidateReadFences kernel fences).2.1.length ≤ fences.length := by
  have pruned := pruneReadFences_length_le kernel fences
  unfold consolidateReadFences
  split
  next => exact Nat.zero_le _
  next front rest next kept =>
    rw [kept] at pruned
    refine (mergeReadFences_length_le next front rest.reverse).trans ?_
    simpa using pruned

def Frame.pending (k : Nat) (frame : Frame) : Nat := frame.readFences.length + k * frame.inflight

namespace StableHal

variable {before after hal : StableHal} {k : Nat}

theorem Passes.pending (passes : Passes before after) (slot : Slot) :
    (after.latest slot).pending k ≤ (before.latest slot).pending k := by
  induction passes with
  | same _ latest _ => rw [latest]
  | reap hal chosen =>
    have pruned : (retiredFrameReady hal.kernel (hal.latest chosen).inflight (hal.latest chosen).readFences).2.1.length ≤
        (hal.latest chosen).readFences.length := pruneReadFences_length_le _ _
    simp only [StableHal.reap]
    by_cases same : slot = chosen
    · subst same
      split
      · simpa [setFrame, Frame.pending] using pruned
      · simp [setFrame, Frame.pending]
    · split <;> simp [setFrame, Function.update_of_ne same]
  | consolidate hal chosen =>
    by_cases same : slot = chosen
    · subst same
      rw [consolidated_frame]
      exact Nat.add_le_add_right (consolidateReadFences_length_le _ _) _
    · simp [consolidated, setFrame, Function.update_of_ne same]
  | trans _ _ first second => exact second.trans first

theorem Enqueued.pending {slot : Slot} {frame : Submission} {outcome : EnqueueResult × StableHal}
    (enqueued : Enqueued hal slot frame outcome) (other : Slot) :
    (outcome.2.latest other).pending k ≤ (hal.latest other).pending k := by
  cases enqueued with
  | rejected code middle passes control => simpa using passes.pending other
  | waiting after passes control => exact passes.pending other
  | accepted middle passes control admitted idle single =>
    rw [swap_latest]
    by_cases same : other = slot
    · subst same
      simp [stored, Frame.pending]
    · rw [Function.update_of_ne same]
      exact passes.pending other

theorem acquireLatest_room (hal : StableHal) (slot : Slot) (wantsFence wantsSequence : Bool) (afterSequence : Nat)
    (configurationToken : Int)
    (granted : (hal.acquireLatest (slot : Nat) wantsFence wantsSequence afterSequence configurationToken).1.isSome) :
    let frame := (hal.acquireLatest (slot : Nat) wantsFence wantsSequence afterSequence configurationToken).2.latest slot
    frame.readFences.length + frame.inflight ≤ kMaxPendingReads := by
  generalize result : hal.acquireLatest (slot : Nat) wantsFence wantsSequence afterSequence configurationToken =
    outcome at granted ⊢
  have refused : ∀ after : StableHal, (none, after) ≠ outcome := by
    rintro after rfl
    cases granted
  simp only [acquireLatest, validSlot_coe] at result
  split at result
  next => exact absurd result (refused _)
  next =>
    split at result
    next => exact absurd result (refused _)
    next ahb present =>
      split at result
      next => exact absurd result (refused _)
      next =>
        split at result
        next => exact absurd result (refused _)
        next =>
          split at result
          next => exact absurd result (refused _)
          next room =>
            split at result
            next => exact absurd result (refused _)
            next =>
              split at result
              next => exact absurd result (refused _)
              next =>
                subst result
                simp only [setFrame, Function.update_self]
                omega

theorem pending_of_room {frame : Frame} (positive : 1 ≤ k)
    (room : frame.readFences.length + frame.inflight ≤ kMaxPendingReads) :
    frame.pending k ≤ kMaxPendingReads * k := by
  calc frame.pending k ≤ k * frame.readFences.length + k * frame.inflight :=
        Nat.add_le_add_right (Nat.le_mul_of_pos_left _ positive) _
    _ = k * (frame.readFences.length + frame.inflight) := (Nat.mul_add _ _ _).symm
    _ ≤ k * kMaxPendingReads := Nat.mul_le_mul_left k room
    _ = kMaxPendingReads * k := Nat.mul_comm _ _

theorem acquireLatest_pending (hal : StableHal) (slot : Int) (wantsFence wantsSequence : Bool) (afterSequence : Nat)
    (configurationToken : Int) (positive : 1 ≤ k) (other : Slot)
    (bounded : (hal.latest other).pending k ≤ kMaxPendingReads * k) :
    ((hal.acquireLatest slot wantsFence wantsSequence afterSequence configurationToken).2.latest other).pending k ≤
      kMaxPendingReads * k := by
  have read := acquireLatest_read hal slot wantsFence wantsSequence afterSequence configurationToken
  have room := fun index : Slot =>
    acquireLatest_room hal index wantsFence wantsSequence afterSequence configurationToken
  by_cases here : validSlot slot = some other
  · rw [validSlot_eq_some here] at read ⊢
    cases granted : (hal.acquireLatest (other : Nat) wantsFence wantsSequence afterSequence configurationToken).1 with
    | some acquired => exact pending_of_room positive (room other (by simp [granted]))
    | none =>
      generalize hal.acquireLatest (other : Nat) wantsFence wantsSequence afterSequence configurationToken = outcome
        at read granted
      cases read with
      | refused middle kernel passes control moved => exact (passes.pending other).trans bounded
      | granted => cases granted
  · generalize hal.acquireLatest slot wantsFence wantsSequence afterSequence configurationToken = outcome at read
    cases read with
    | refused middle kernel passes control moved => exact (passes.pending other).trans bounded
    | granted index middle ahb fence kernel valid passes control token current present live newer copied =>
      have differs : other ≠ index := fun same => here (same ▸ valid)
      simp only [setFrame, Function.update_of_ne differs, acquireBuffer]
      exact (passes.pending other).trans bounded

theorem returned_pending (hal : StableHal) (slot : Slot) (readFences : List Fd) (few : readFences.length ≤ k)
    (reading : 0 < (hal.latest slot).inflight) (other : Slot) :
    ((hal.returned slot readFences).latest other).pending k ≤ (hal.latest other).pending k := by
  by_cases same : other = slot
  · subst same
    obtain ⟨rest, counted⟩ := Nat.exists_eq_succ_of_ne_zero reading.ne'
    simp only [returned, setFrame, Function.update_self, Frame.pending, counted, List.length_append,
      Nat.succ_sub_one, Nat.mul_succ]
    omega
  · simp [returned, setFrame, Function.update_of_ne same]

end StableHal

namespace HalWorld

variable {world after : HalWorld} {k : Nat}

def contributes (k : Nat) : HalEvent → Prop
  | .release _ readFences => readFences.length ≤ k
  | _ => True

theorem step_pending (sound : world.Sound) (positive : 1 ≤ k) {event : HalEvent} (few : contributes k event)
    (bounded : ∀ slot, (world.hal.latest slot).pending k ≤ kMaxPendingReads * k) (step : Step world event after)
    (slot : Slot) : (after.hal.latest slot).pending k ≤ kMaxPendingReads * k := by
  obtain ⟨allowed, rfl⟩ := step
  cases event with
  | control op => exact ((op.passes world.hal).pending slot).trans (bounded slot)
  | enqueue index handle imported width height format timestampNs acquireFence configurationToken =>
    have enqueued := StableHal.enqueue_enqueued world.hal index handle imported width height format timestampNs
      acquireFence configurationToken
    rw [HalWorld.perform, answer_hal]
    exact (enqueued.pending slot).trans (bounded slot)
  | wake index frame timedOut =>
    have enqueued := StableHal.enqueueWake_enqueued world.hal index frame timedOut
    rw [HalWorld.perform, answer_hal]
    exact (enqueued.pending slot).trans (bounded slot)
  | acquire index wantsFence wantsSequence afterSequence configurationToken =>
    rw [HalWorld.perform, grant_hal]
    exact StableHal.acquireLatest_pending world.hal index wantsFence wantsSequence afterSequence configurationToken
      positive slot (bounded slot)
  | release reservation readFences =>
    have found := (sound.stored reservation allowed.1).1
    have passes := (StableHal.releaseFrame_found world.hal reservation.slot reservation.ahb readFences found).1
    refine (passes.pending slot).trans (le_trans ?_ (bounded slot))
    exact StableHal.returned_pending world.hal reservation.slot readFences few (sound.reading reservation allowed.1) slot
  | signal | create | close => exact bounded slot

theorem pendingReads_bounded (provider : Bool) (outcome : Nat → Bool) (events : List HalEvent) (world : HalWorld)
    (run : Run Step (boot provider outcome) events world) (k : Nat) (positive : 1 ≤ k)
    (few : ∀ reservation readFences, .release reservation readFences ∈ events → readFences.length ≤ k) (slot : Slot) :
    (world.hal.latest slot).readFences.length + k * (world.hal.latest slot).inflight ≤ 16 * k := by
  have both : world.Sound ∧ ∀ slot, (world.hal.latest slot).pending k ≤ kMaxPendingReads * k := by
    refine run.always (fun world => world.Sound ∧ ∀ slot, (world.hal.latest slot).pending k ≤ kMaxPendingReads * k)
      (contributes k) ⟨boot_sound provider outcome, fun _ => Nat.zero_le _⟩ (fun event member => ?_) ?_
    · cases event with
      | release reservation readFences => exact few reservation readFences member
      | _ => trivial
    · rintro middle event after contributes ⟨sound, bounded⟩ step
      exact ⟨sound.step step, step_pending sound positive contributes bounded step⟩
  exact both.2 slot

theorem pendingReads_bounded_reader :
    let world := (boot true fun _ => true).performAll readerEvents
    (world.hal.latest 0).readFences.length + 1 * (world.hal.latest 0).inflight ≤ 16 * 1 :=
  pendingReads_bounded true (fun _ => true) readerEvents _ (Legal.run (by decide +kernel)) 1 le_rfl
    (fun reservation readFences member => by
      simp only [readerEvents, List.mem_cons, HalEvent.release.injEq, reduceCtorEq, false_or, List.not_mem_nil,
        or_false] at member
      simp [member]) 0

end HalWorld

end VirtualCamera
