import VirtualCamera.Hal.BufferReferences

set_option autoImplicit false

namespace VirtualCamera

open Descriptors Runs StableHal

structure Frame.Spared (kernel : Kernel) (before after : Frame) : Prop where
  ahb : after.ahb = before.ahb
  timestampNs : after.timestampNs = before.timestampNs
  sequence : after.sequence = before.sequence
  configurationToken : after.configurationToken = before.configurationToken
  acquireFence : after.acquireFence = before.acquireFence
  inflight : after.inflight = before.inflight
  retiring : after.retiring = before.retiring
  covered : ∀ fd ∈ before.readFences, kernel.Covered after.readFences fd

def EnqueueResult.accepted : EnqueueResult → Bool
  | .returned .ok _ => true
  | _ => false

namespace StableHal

variable {hal after : StableHal} {others : Multiset Fd}

inductive Spares (hal : StableHal) (slot : Slot) (after : StableHal) : Prop where
  | same (kernel : hal.kernel.Extends after.kernel) (latest : after.latest slot = hal.latest slot)
  | merged (kernel : (hal.consolidated slot).kernel.Extends after.kernel)
      (latest : after.latest slot = (hal.consolidated slot).latest slot)

theorem Spares.spared {slot : Slot} (spares : Spares hal slot after) (owned : hal.Owned others) :
    Frame.Spared after.kernel (hal.latest slot) (after.latest slot) := by
  cases spares with
  | same kernel latest =>
    rw [latest]
    exact ⟨rfl, rfl, rfl, rfl, rfl, rfl, rfl, fun fd member => .self member⟩
  | merged kernel latest =>
    rw [latest, consolidated_frame]
    refine ⟨rfl, rfl, rfl, rfl, rfl, rfl, rfl, fun fd member => ?_⟩
    have split : hal.held + others = ((hal.latest slot).readFences : Multiset Fd) +
        (((hal.latest slot).acquireFence.toList : Multiset Fd) + hal.heldElsewhere slot + others) := by
      rw [held_eq hal slot, Frame.fences]
      simp only [add_assoc, add_left_comm]
    have kept := consolidateReadFences_kept hal.kernel (hal.latest slot).readFences _ (split ▸ owned.balanced)
    refine kernel.covered ?_ (fun keeper inside => ?_) (kept.covered fd member)
    · exact lt_of_lt_of_le (owned.opened slot fd member) kept.extends_.next
    · exact kept.balanced.opened (Multiset.mem_add.mpr (.inl inside))

theorem Spares.reject {slot : Slot} {middle : StableHal} (spares : Spares hal slot middle) (frame : Submission)
    (code : Nat) : Spares hal slot (middle.reject frame code).2 := by
  have closing := extends_closeFd (middle.releaseBuffer frame.ahb) frame.acquireFence
  have latest : (middle.reject frame code).2.latest = middle.latest := by simp [StableHal.reject, releaseBuffer]
  cases spares with
  | same kernel same => exact .same (kernel.trans closing) (by rw [latest, same])
  | merged kernel same => exact .merged (kernel.trans closing) (by rw [latest, same])

theorem reapRetiringLocked_live (hal : StableHal) (slot : Slot) (live : (hal.latest slot).retiring = false) :
    hal.reapRetiringLocked slot = (true, hal) := by
  rw [reapRetiringLocked_eq, live]
  rfl

theorem enqueueCommit_spares (hal : StableHal) (slot : Slot) (frame : Submission)
    (live : (hal.latest slot).retiring = false)
    (failed : EnqueueResult.accepted (hal.enqueueCommit slot frame).1 = false) :
    Spares hal slot (hal.enqueueCommit slot frame).2 := by
  have still : Spares hal slot hal := .same (.refl _) rfl
  have merged : Spares hal slot (hal.consolidated slot) := .merged (.refl _) rfl
  simp only [enqueueCommit, reapRetiringLocked_live hal slot live] at failed ⊢
  split at failed
  next refused =>
    rw [if_pos refused]
    exact still.reject frame 7
  next admitted =>
    rw [if_neg admitted]
    simp only [Bool.not_true, Bool.false_eq_true, if_false] at failed ⊢
    split at failed
    next unmerged =>
      rw [if_pos unmerged]
      exact merged.reject frame 6
    next => cases failed

theorem enqueue_spares (hal : StableHal) (slot : Slot) (handle : Bool) (imported : Option Ahb)
    (width height format timestampNs : Int) (acquireFence : Option Fd) (configurationToken : Int)
    (live : (hal.latest slot).retiring = false)
    (failed : EnqueueResult.accepted (hal.enqueue slot handle imported width height format timestampNs acquireFence
      configurationToken).1 = false) :
    Spares hal slot (hal.enqueue slot handle imported width height format timestampNs acquireFence
      configurationToken).2 := by
  have plain : Spares hal slot (hal.closeFd acquireFence) :=
    .same (extends_closeFd hal acquireFence) (by simp)
  unfold enqueue at failed ⊢
  split at failed
  next bad =>
    rw [if_pos bad]
    exact plain
  next good =>
    rw [if_neg good]
    cases imported with
    | none => exact plain
    | some ahb =>
      have taken : Spares hal slot (hal.acquireBuffer ahb) := .same (.refl _) rfl
      simp only [reapRetiringLocked_live (hal.acquireBuffer ahb) slot live, Bool.not_true, Bool.false_eq_true,
        if_false] at failed ⊢
      split at failed
      next refused =>
        rw [if_pos refused]
        exact taken.reject _ 7
      next admitted =>
        rw [if_neg admitted]
        split at failed
        next busy =>
          rw [if_pos busy]
          exact taken
        next idle =>
          rw [if_neg idle]
          rcases enqueueCommit_spares (hal.acquireBuffer ahb) slot _ live failed with
            ⟨kernel, latest⟩ | ⟨kernel, latest⟩
          · exact .same kernel latest
          · exact .merged kernel latest

theorem enqueueWake_spares (hal : StableHal) (slot : Slot) (frame : Submission) (timedOut : Bool)
    (live : (hal.latest slot).retiring = false)
    (failed : EnqueueResult.accepted (hal.enqueueWake slot frame timedOut).1 = false) :
    Spares hal slot (hal.enqueueWake slot frame timedOut).2 := by
  have still : Spares hal slot hal := .same (.refl _) rfl
  unfold enqueueWake at failed ⊢
  split at failed
  next idle =>
    rw [if_pos idle]
    exact enqueueCommit_spares hal slot frame live failed
  next busy =>
    rw [if_neg busy]
    split
    · exact still.reject frame 4
    · exact still

end StableHal

structure Attempt where
  slot : Slot
  acquireFence : Option Fd
  held : Option Ahb
  result : EnqueueResult

-- A first step imports its buffer itself, a later one has waited with it.
def HalEvent.attempt (hal : StableHal) : HalEvent → Option Attempt
  | .enqueue slot handle imported width height format timestampNs acquireFence configurationToken =>
    some ⟨slot, acquireFence, none,
      (hal.enqueue slot handle imported width height format timestampNs acquireFence configurationToken).1⟩
  | .wake slot frame timedOut =>
    some ⟨slot, frame.acquireFence, some frame.ahb, (hal.enqueueWake slot frame timedOut).1⟩
  | _ => none

namespace HalWorld

variable {world : HalWorld}

structure Refused (world after : HalWorld) (attempt : Attempt) : Prop where
  retired : after.retired = world.retired
  closed : ∀ fd, attempt.acquireFence = some fd →
    fd ∉ world.hal.kernel.closed ∧ after.hal.kernel.closed.count fd = 1
  released : ∀ ahb, after.hal.loans ahb = world.hal.loans ahb - heldRef attempt.held ahb

structure Unaccepted (world after : HalWorld) (attempt : Attempt) : Prop where
  current : (world.hal.latest attempt.slot).retiring = false →
    Frame.Spared after.hal.kernel (world.hal.latest attempt.slot) (after.hal.latest attempt.slot)
  readers : after.readers = world.readers
  accounted : after.Referenced
  refused : ∀ status fence, attempt.result = .returned status fence → fence = none ∧ Refused world after attempt

structure Unread (world after : HalWorld) : Prop where
  inflight : ∀ slot, (after.hal.latest slot).inflight = (world.hal.latest slot).inflight
  readers : after.readers = world.readers
  callers : after.callers = world.callers
  loans : ∀ ahb, after.hal.loans ahb = world.hal.loans ahb

theorem closed_count_le (sound : world.Sound) (fd : Fd) : world.hal.kernel.closed.count fd ≤ 1 := by
  by_cases opened : fd < world.hal.kernel.next
  · have once := sound.owned.balanced.count opened
    omega
  · by_contra twice
    have closed : fd ∈ world.hal.kernel.closed := List.count_pos_iff.mp (by omega)
    have inside : fd ∈ world.hal.held + (world.waitingFences + world.callers) +
        (world.hal.kernel.closed : Multiset Fd) := Multiset.mem_add.mpr (.inr closed)
    rw [sound.owned.balanced] at inside
    exact opened (Multiset.mem_range.mp inside)

theorem not_closed (sound : world.Sound) (fd : Fd) (owned : fd ∈ world.waitingFences + world.callers) :
    fd ∉ world.hal.kernel.closed := by
  have held : fd ∈ world.hal.held + (world.waitingFences + world.callers) := Multiset.mem_add.mpr (.inr owned)
  have once := sound.owned.balanced.count (sound.owned.balanced.opened held)
  have counted := Multiset.count_pos.mpr held
  exact List.count_eq_zero.mp (by omega)

theorem Enqueued.closes {hal : StableHal} {slot : Slot} {frame : Submission} {outcome : EnqueueResult × StableHal}
    (enqueued : Enqueued hal slot frame outcome) (failed : outcome.1.accepted = false) {status : Status}
    {fence : Option Fd} (returned : outcome.1 = .returned status fence) :
    fence = none ∧ ∀ fd, frame.acquireFence = some fd → fd ∈ outcome.2.kernel.closed := by
  cases enqueued with
  | rejected code middle passes control =>
    cases returned
    refine ⟨rfl, fun fd same => ?_⟩
    rw [same]
    exact List.mem_cons_self
  | waiting => cases returned
  | accepted => cases failed

theorem answer_returned {world : HalWorld} {slot : Slot} {outcome : EnqueueResult × StableHal} {status : Status}
    (returned : outcome.1 = .returned status none) : (world.answer slot outcome).retired = world.retired := by
  obtain ⟨result, hal⟩ := outcome
  cases returned
  rfl

theorem answer_readers (world : HalWorld) (slot : Slot) (outcome : EnqueueResult × StableHal) :
    (world.answer slot outcome).readers = world.readers := by
  obtain ⟨result, hal⟩ := outcome
  cases result <;> rfl

theorem attempt_unaccepted (sound : world.Sound) (referenced : world.Referenced) {event : HalEvent}
    {attempt : Attempt}
    (allowed : world.Allowed event) (attempted : event.attempt world.hal = some attempt)
    (failed : attempt.result.accepted = false) : Unaccepted world (world.perform event) attempt := by
  have next := sound.step ⟨allowed, rfl⟩
  have counted := referenced.step ⟨allowed, rfl⟩
  cases event with
  | enqueue slot handle imported width height format timestampNs acquireFence configurationToken =>
    cases attempted
    have enqueued := enqueue_enqueued world.hal slot handle imported width height format timestampNs
      acquireFence configurationToken
    refine ⟨fun live => ?_, answer_readers _ _ _, counted, fun status fence returned => ?_⟩
    · rw [perform, answer_hal]
      exact (enqueue_spares world.hal slot handle imported width height format timestampNs acquireFence
        configurationToken live failed).spared sound.owned
    · obtain ⟨rfl, closes⟩ := Enqueued.closes enqueued failed returned
      refine ⟨rfl, answer_returned returned, fun fd same => ⟨?_, ?_⟩, fun ahb => ?_⟩
      · refine not_closed sound fd (Multiset.mem_add.mpr (.inr (Multiset.mem_of_le allowed ?_)))
        simp [show acquireFence = some fd from same]
      · have closed := List.count_pos_iff.mpr (closes fd same)
        rw [← answer_hal] at closed
        have once := closed_count_le next fd
        exact le_antisymm once closed
      · rw [perform, answer_hal, enqueue_loans, show (world.hal.enqueue slot handle imported width height format
          timestampNs acquireFence configurationToken).1 = .returned status none from returned]
        simp [EnqueueResult.pending]
  | wake slot frame timedOut =>
    cases attempted
    have enqueued := enqueueWake_enqueued world.hal slot frame timedOut
    refine ⟨fun live => ?_, answer_readers _ _ _, counted, fun status fence returned => ?_⟩
    · rw [perform, answer_hal]
      exact (enqueueWake_spares world.hal slot frame timedOut live failed).spared sound.owned
    · obtain ⟨rfl, closes⟩ := Enqueued.closes enqueued failed returned
      refine ⟨rfl, answer_returned returned, fun fd same => ⟨?_, ?_⟩, fun ahb => ?_⟩
      · refine not_closed sound fd (Multiset.mem_add.mpr (.inl ?_))
        rw [← world.waitingFences_cons (slot, frame) allowed]
        exact Multiset.mem_add.mpr (.inl (by simp [show frame.acquireFence = some fd from same]))
      · have closed := List.count_pos_iff.mpr (closes fd same)
        have once := closed_count_le next fd
        rw [perform, answer_hal] at once ⊢
        exact le_antisymm once closed
      · rw [perform, answer_hal, enqueueWake_loans, show (world.hal.enqueueWake slot frame timedOut).1 =
          .returned status none from returned]
        simp [EnqueueResult.pending]
  | control | acquire | release | signal | create | close => cases attempted

theorem acquire_unread (sound : world.Sound) (slot : Int) (wantsFence wantsSequence : Bool) (afterSequence : Nat)
    (configurationToken : Int)
    (refused : (world.hal.acquireLatest slot wantsFence wantsSequence afterSequence configurationToken).1 = none) :
    Unread world (world.perform (.acquire slot wantsFence wantsSequence afterSequence configurationToken)) := by
  have loans := fun ahb =>
    acquireLatest_loans ahb world.hal slot wantsFence wantsSequence afterSequence configurationToken
  have read := acquireLatest_read world.hal slot wantsFence wantsSequence afterSequence configurationToken
  simp only [perform]
  generalize world.hal.acquireLatest slot wantsFence wantsSequence afterSequence configurationToken = outcome
    at loans read refused ⊢
  cases read with
  | refused middle kernel passes control moved =>
    refine ⟨fun index => ((passes.tidied sound.owned).frames index).inflight, rfl, rfl, fun ahb => ?_⟩
    exact (loans ahb).trans (add_zero _)
  | granted => cases refused

theorem submission_atomic (provider : Bool) (outcome : Nat → Bool) (events : List HalEvent) (world : HalWorld)
    (run : Run Step (boot provider outcome) events world) :
    (∀ event attempt, world.Allowed event → event.attempt world.hal = some attempt →
      attempt.result.accepted = false → Unaccepted world (world.perform event) attempt) ∧
    ∀ slot wantsFence wantsSequence afterSequence configurationToken,
      (world.hal.acquireLatest slot wantsFence wantsSequence afterSequence configurationToken).1 = none →
      Unread world (world.perform (.acquire slot wantsFence wantsSequence afterSequence configurationToken)) := by
  have both : world.Sound ∧ world.Referenced := by
    refine run.invariant (fun _ world => world.Sound ∧ world.Referenced)
      ⟨boot_sound provider outcome, boot_referenced provider outcome⟩ ?_
    rintro _ middle event after _ ⟨sound, referenced⟩ step
    exact ⟨sound.step step, referenced.step step⟩
  exact ⟨fun event attempt allowed attempted failed => attempt_unaccepted both.1 both.2 allowed attempted failed,
    fun slot wantsFence wantsSequence afterSequence configurationToken refused =>
      acquire_unread both.1 slot wantsFence wantsSequence afterSequence configurationToken refused⟩

theorem submission_atomic_timeout :
    let world := (boot true fun _ => true).performAll (readerEvents.take 6)
    Unaccepted world (world.perform (.wake 0 ⟨6, 640, 480, 1, 10, none, 1⟩ true))
      ⟨0, none, some 6, .returned (.serviceSpecific 4) none⟩ := by
  have atomic := (submission_atomic true (fun _ => true) (readerEvents.take 6) _ (Legal.run (by decide +kernel))).1
  exact atomic (.wake 0 ⟨6, 640, 480, 1, 10, none, 1⟩ true) _ (by decide +kernel) rfl rfl

end HalWorld

end VirtualCamera
