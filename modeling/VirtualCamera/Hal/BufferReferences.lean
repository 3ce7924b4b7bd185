import Mathlib.Algebra.BigOperators.Ring.Finset
import VirtualCamera.Hal.Configurations
import VirtualCamera.Hal.Conservation

set_option autoImplicit false

namespace VirtualCamera

open Descriptors Runs

def heldRef (held : Option Ahb) (ahb : Ahb) : Int := if held = some ahb then 1 else 0

@[simp] theorem heldRef_none (ahb : Ahb) : heldRef none ahb = 0 := rfl

def EnqueueResult.pending : EnqueueResult → Option Ahb
  | .waiting frame => some frame.ahb
  | .returned .. => none

namespace StableHal

variable {hal before after : StableHal} (ahb : Ahb)

def loans (hal : StableHal) (ahb : Ahb) : Int := hal.bufferRefs ahb - ∑ slot, heldRef (hal.latest slot).ahb ahb

theorem loans_congr (references : after.bufferRefs = before.bufferRefs) (latest : after.latest = before.latest) :
    after.loans ahb = before.loans ahb := by
  rw [loans, loans, references, latest]

@[simp] theorem loans_closeFd (hal : StableHal) (fd : Option Fd) : (hal.closeFd fd).loans ahb = hal.loans ahb := by
  cases fd <;> rfl

@[simp] theorem loans_acquireBuffer (hal : StableHal) (taken : Ahb) :
    (hal.acquireBuffer taken).loans ahb = hal.loans ahb + heldRef (some taken) ahb := by
  have counted : (hal.acquireBuffer taken).bufferRefs ahb = hal.bufferRefs ahb + heldRef (some taken) ahb := by
    by_cases same : ahb = taken
    · simp [acquireBuffer, heldRef, same]
    · simp [acquireBuffer, heldRef, same, Ne.symm same]
  have frames : (hal.acquireBuffer taken).latest = hal.latest := rfl
  rw [loans, loans, counted, frames]
  omega

@[simp] theorem loans_releaseBuffer (hal : StableHal) (given : Ahb) :
    (hal.releaseBuffer given).loans ahb = hal.loans ahb - heldRef (some given) ahb := by
  have counted : (hal.releaseBuffer given).bufferRefs ahb = hal.bufferRefs ahb - heldRef (some given) ahb := by
    by_cases same : ahb = given
    · simp [releaseBuffer, heldRef, same]
    · simp [releaseBuffer, heldRef, same, Ne.symm same]
  have frames : (hal.releaseBuffer given).latest = hal.latest := rfl
  rw [loans, loans, counted, frames]
  omega

@[simp] theorem loans_releaseIfHeld (hal : StableHal) (held : Option Ahb) :
    (hal.releaseIfHeld held).loans ahb = hal.loans ahb - heldRef held ahb := by
  cases held with
  | none => simp [releaseIfHeld]
  | some given => exact loans_releaseBuffer ahb hal given

theorem loans_setFrame (hal : StableHal) (slot : Slot) (frame : Frame) :
    (hal.setFrame slot frame).loans ahb = hal.loans ahb + heldRef (hal.latest slot).ahb ahb - heldRef frame.ahb ahb := by
  have before := Finset.add_sum_erase Finset.univ (fun slot => heldRef (hal.latest slot).ahb ahb) (Finset.mem_univ slot)
  have after := Finset.add_sum_erase Finset.univ (fun other => heldRef ((hal.setFrame slot frame).latest other).ahb ahb)
    (Finset.mem_univ slot)
  have elsewhere : ∑ other ∈ Finset.univ.erase slot, heldRef ((hal.setFrame slot frame).latest other).ahb ahb =
      ∑ other ∈ Finset.univ.erase slot, heldRef (hal.latest other).ahb ahb := by
    refine Finset.sum_congr rfl fun other member => ?_
    simp [setFrame, Function.update_of_ne (Finset.ne_of_mem_erase member)]
  have here : ((hal.setFrame slot frame).latest slot).ahb = frame.ahb := by simp [setFrame]
  rw [elsewhere, here] at after
  have references : (hal.setFrame slot frame).bufferRefs = hal.bufferRefs := rfl
  rw [loans, loans, ← after, ← before, references]
  omega

theorem loans_setFrame_same (hal : StableHal) (slot : Slot) (frame : Frame)
    (same : frame.ahb = (hal.latest slot).ahb) :
    (hal.setFrame slot frame).loans ahb = hal.loans ahb := by
  rw [loans_setFrame, same]
  omega

theorem loans_kernel (hal : StableHal) (kernel : Kernel) : loans { hal with kernel } ahb = hal.loans ahb := rfl

@[simp] theorem loans_consolidated (hal : StableHal) (slot : Slot) :
    (hal.consolidated slot).loans ahb = hal.loans ahb := loans_setFrame_same ahb _ slot _ rfl

theorem Sweeps.loans (sweeps : Sweeps before after) : after.loans ahb = before.loans ahb := by
  induction sweeps with
  | same _ latest _ references => exact loans_congr ahb references latest
  | reap hal slot =>
    simp only [StableHal.reap]
    split
    · exact loans_setFrame_same ahb _ slot _ rfl
    · rw [loans_setFrame, loans_closeFd, loans_releaseIfHeld, closeFd_latest, releaseIfHeld_latest, loans_kernel]
      simp
  | consolidate hal slot => exact loans_consolidated ahb hal slot
  | trans _ _ first second => exact second.trans first

theorem loans_reject (hal : StableHal) (frame : Submission) (code : Nat) :
    (hal.reject frame code).2.loans ahb = hal.loans ahb - heldRef (some frame.ahb) ahb := by
  rw [reject, loans_closeFd, loans_releaseBuffer]

theorem loans_swap (hal : StableHal) (slot : Slot) (frame : Submission) :
    (hal.swap slot frame).2.loans ahb = hal.loans ahb - heldRef (some frame.ahb) ahb := by
  simp only [swap, swapFrame, loans_closeFd, loans_releaseIfHeld, loans_setFrame]
  have counted : loans { hal.setFrame slot { hal.latest slot with readFences := [] } with
      framesReceived := (hal.setFrame slot { hal.latest slot with readFences := [] }).framesReceived + 1 } ahb =
      hal.loans ahb := loans_setFrame_same ahb hal slot _ rfl
  rw [counted]
  simp only [setFrame, Function.update_self]
  omega

theorem enqueueCommit_loans (hal : StableHal) (slot : Slot) (frame : Submission) :
    (hal.enqueueCommit slot frame).2.loans ahb = hal.loans ahb - heldRef (some frame.ahb) ahb := by
  have reaped := (reapRetiringLocked_sweeps hal slot).loans ahb
  simp only [enqueueCommit]
  split
  · exact loans_reject ahb hal frame 7
  · split
    · rw [loans_reject, reaped]
    · split
      · rw [loans_reject, loans_setFrame_same, loans_kernel, reaped]
        rfl
      · have swapped := loans_swap ahb ((hal.reapRetiringLocked slot).2.consolidated slot) slot frame
        rw [loans_consolidated, reaped] at swapped
        simp only [swap, consolidated_frame] at swapped
        simp only [consolidated, setFrame, Function.update_idem] at swapped
        exact swapped

theorem enqueueCommit_pending (hal : StableHal) (slot : Slot) (frame : Submission) :
    EnqueueResult.pending (hal.enqueueCommit slot frame).1 = none := by
  cases result : (hal.enqueueCommit slot frame).1 with
  | returned status fence => rfl
  | waiting other => exact absurd result (enqueueCommit_returns hal slot frame other)

theorem enqueue_loans (hal : StableHal) (slot : Slot) (handle : Bool) (imported : Option Ahb)
    (width height format timestampNs : Int) (acquireFence : Option Fd) (configurationToken : Int) :
    let outcome := hal.enqueue slot handle imported width height format timestampNs acquireFence configurationToken
    outcome.2.loans ahb = hal.loans ahb + heldRef (EnqueueResult.pending outcome.1) ahb := by
  have plain : (hal.closeFd acquireFence).loans ahb = hal.loans ahb + heldRef none ahb := by simp
  unfold enqueue
  split
  · exact plain
  · cases imported with
    | none => exact plain
    | some taken =>
      have rejected : ∀ (middle : StableHal) (frame : Submission) (code : Nat), frame.ahb = taken →
          middle.loans ahb = (hal.acquireBuffer taken).loans ahb → (middle.reject frame code).2.loans ahb =
            hal.loans ahb + heldRef (EnqueueResult.pending (middle.reject frame code).1) ahb := by
        intro middle frame code same counted
        rw [loans_reject, counted, loans_acquireBuffer, same]
        simp [reject, EnqueueResult.pending]
      dsimp only
      split
      · exact rejected _ _ 7 rfl rfl
      · have reaped := (reapRetiringLocked_sweeps (hal.acquireBuffer taken) slot).loans ahb
        split
        · exact rejected _ _ 4 rfl reaped
        · split
          · rw [reaped, loans_acquireBuffer]
            rfl
          · rw [enqueueCommit_loans, enqueueCommit_pending, reaped, loans_acquireBuffer]
            simp

theorem enqueueWake_loans (hal : StableHal) (slot : Slot) (frame : Submission) (timedOut : Bool) :
    (hal.enqueueWake slot frame timedOut).2.loans ahb = hal.loans ahb - heldRef (some frame.ahb) ahb +
      heldRef (EnqueueResult.pending (hal.enqueueWake slot frame timedOut).1) ahb := by
  unfold enqueueWake
  split
  · rw [enqueueCommit_loans, enqueueCommit_pending]
    simp
  · split
    · rw [loans_reject]
      simp [reject, EnqueueResult.pending]
    · simp [EnqueueResult.pending]

theorem acquireLatest_loans (hal : StableHal) (slot : Int) (wantsFence wantsSequence : Bool) (afterSequence : Nat)
    (configurationToken : Int) :
    let outcome := hal.acquireLatest slot wantsFence wantsSequence afterSequence configurationToken
    outcome.2.loans ahb = hal.loans ahb + heldRef (outcome.1.map (·.ahb)) ahb := by
  have refused : ∀ after : StableHal, after.loans ahb = hal.loans ahb →
      after.loans ahb = hal.loans ahb + heldRef ((none : Option Acquired).map (·.ahb)) ahb := by
    intro after same
    simpa using same
  unfold acquireLatest
  split
  · exact refused _ rfl
  · dsimp only
    split
    · exact refused _ rfl
    · split
      · exact refused _ rfl
      · split
        · exact refused _ rfl
        · split
          · exact refused _ rfl
          next index _ _ _ _ _ _ _ =>
            have tidy : (hal.consolidated index).loans ahb = hal.loans ahb := loans_consolidated ahb hal index
            split
            · exact refused _ tidy
            · split
              · exact refused _ tidy
              · split
                · exact refused _ tidy
                · rw [loans_setFrame_same, loans_acquireBuffer]
                  · exact congrArg (· + _) tidy
                  · simp [setFrame, acquireBuffer]

theorem closeAll_loans (hal : StableHal) (fences : List Fd) : (hal.closeAll fences).loans ahb = hal.loans ahb := by
  induction fences generalizing hal with
  | nil => rfl
  | cons fence rest ih => exact (ih _).trans (loans_closeFd ahb hal (some fence))

theorem releaseFrame_loans (hal : StableHal) (slot : Int) (given : Ahb) (readFences : List Fd) :
    (hal.releaseFrame slot given readFences).loans ahb = hal.loans ahb - heldRef (some given) ahb := by
  unfold releaseFrame
  split
  · rw [loans_releaseBuffer, closeAll_loans]
  · dsimp only
    rw [loans_releaseBuffer, (reapRetiringLocked_sweeps _ _).loans, loans_setFrame_same, loans_kernel]
    rfl

end StableHal

namespace HalWorld

variable {world after : HalWorld}

def references (world : HalWorld) (ahb : Ahb) : Int :=
  world.readers.countP (·.ahb == ahb) + world.waiting.countP (·.2.ahb == ahb)

def Referenced (world : HalWorld) : Prop := ∀ ahb, world.hal.loans ahb = world.references ahb

theorem answer_references (world : HalWorld) (slot : Slot) (outcome : EnqueueResult × StableHal) (ahb : Ahb) :
    (world.answer slot outcome).references ahb =
      world.references ahb + heldRef (EnqueueResult.pending outcome.1) ahb := by
  obtain ⟨result, hal⟩ := outcome
  cases result with
  | returned status fence => exact (add_zero _).symm
  | waiting frame =>
    simp only [answer, references, List.countP_cons, EnqueueResult.pending, heldRef, Option.some.injEq,
      beq_iff_eq]
    split
    · push_cast
      omega
    · simp

theorem erase_waiting_references (world : HalWorld) (slot : Slot) (frame : Submission)
    (waits : (slot, frame) ∈ world.waiting) (ahb : Ahb) :
    references { world with waiting := world.waiting.erase (slot, frame) } ahb =
      world.references ahb - heldRef (some frame.ahb) ahb := by
  have counted := (List.perm_cons_erase waits).countP_eq fun entry => entry.2.ahb == ahb
  rw [List.countP_cons] at counted
  simp only [references, counted, heldRef, Option.some.injEq, beq_iff_eq]
  split
  · push_cast
    omega
  · simp

theorem erase_reader_references (world : HalWorld) (reservation : Reservation) (reads : reservation ∈ world.readers)
    (ahb : Ahb) :
    references { world with readers := world.readers.erase reservation } ahb =
      world.references ahb - heldRef (some reservation.ahb) ahb := by
  have counted := (List.perm_cons_erase reads).countP_eq fun reader => reader.ahb == ahb
  rw [List.countP_cons] at counted
  simp only [references, counted, heldRef, Option.some.injEq, beq_iff_eq]
  split
  · push_cast
    omega
  · simp

theorem grant_references (world : HalWorld) (slot : Int) (wantsFence wantsSequence : Bool) (afterSequence : Nat)
    (configurationToken : Int) (ahb : Ahb) :
    let outcome := world.hal.acquireLatest slot wantsFence wantsSequence afterSequence configurationToken
    (world.grant slot outcome).references ahb = world.references ahb + heldRef (outcome.1.map (·.ahb)) ahb := by
  have read := StableHal.acquireLatest_read world.hal slot wantsFence wantsSequence afterSequence configurationToken
  generalize world.hal.acquireLatest slot wantsFence wantsSequence afterSequence configurationToken = outcome at read
  cases read with
  | refused => exact (add_zero _).symm
  | granted index middle taken fence kernel valid =>
    simp only [grant, valid, references, Option.toList_some, List.map_cons, List.map_nil, List.cons_append,
      List.nil_append, List.countP_cons, Option.map_some, heldRef, Option.some.injEq, beq_iff_eq]
    split
    · push_cast
      omega
    · simp

theorem Referenced.step {event : HalEvent} (referenced : world.Referenced) (step : Step world event after) :
    after.Referenced := by
  obtain ⟨allowed, rfl⟩ := step
  intro ahb
  have counted := referenced ahb
  cases event with
  | control op => exact ((op.sweeps world.hal).loans ahb).trans counted
  | enqueue slot handle imported width height format timestampNs acquireFence configurationToken =>
    rw [perform, answer_hal, answer_references, StableHal.enqueue_loans, counted]
    rfl
  | wake slot frame timedOut =>
    rw [perform, answer_hal, answer_references, erase_waiting_references world slot frame allowed,
      StableHal.enqueueWake_loans, counted]
  | acquire slot wantsFence wantsSequence afterSequence configurationToken =>
    rw [perform, grant_hal, grant_references, StableHal.acquireLatest_loans, counted]
  | release reservation readFences =>
    have given := StableHal.releaseFrame_loans ahb world.hal (reservation.slot : Nat) reservation.ahb readFences
    exact given.trans ((congrArg (· - _) counted).trans
      (erase_reader_references world reservation allowed.1 ahb).symm)
  | signal | create | close => exact counted

theorem boot_referenced (provider : Bool) (outcome : Nat → Bool) : (boot provider outcome).Referenced := by
  intro ahb
  simp [boot, StableHal.loans, references, heldRef]

end HalWorld

end VirtualCamera
