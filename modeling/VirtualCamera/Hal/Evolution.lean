import VirtualCamera.Hal.Submission

set_option autoImplicit false

namespace VirtualCamera

open Descriptors

namespace StableHal

structure Quiet (before after : StableHal) : Prop where
  control : after.control = before.control
  framesReceived : after.framesReceived = before.framesReceived
  offered : ∀ slot, ¬ (after.latest slot).Gone →
    ¬ (before.latest slot).Gone ∧ (before.latest slot).Same (after.latest slot)

inductive Evolves (hal : StableHal) (accepted : Option (Slot × Submission)) (after : StableHal) : Prop where
  | quiet (quiet : Quiet hal after)
  | stored (slot : Slot) (frame : Submission) (chosen : accepted = some (slot, frame))
      (admitted : hal.admitted slot frame = true) (control : after.control = hal.control)
      (framesReceived : after.framesReceived = hal.framesReceived + 1)
      (latest : after.latest slot = hal.stored frame)
      (offered : ∀ other, other ≠ slot → ¬ (after.latest other).Gone →
        ¬ (hal.latest other).Gone ∧ (hal.latest other).Same (after.latest other))

def acceptedBy (slot : Slot) (frame : Submission) : EnqueueResult → Option (Slot × Submission)
  | .returned .ok _ => some (slot, frame)
  | _ => none

variable {hal before middle after : StableHal}

theorem Quiet.of_same (control : after.control = before.control)
    (received : after.framesReceived = before.framesReceived)
    (same : ∀ slot, (before.latest slot).Same (after.latest slot) ∧
      (after.latest slot).retiring = (before.latest slot).retiring) : Quiet before after := by
  refine ⟨control, received, fun slot offered => ⟨fun gone => offered ?_, (same slot).1⟩⟩
  rcases gone with absent | retiring
  · exact .inl ((same slot).1.1.trans absent)
  · exact .inr ((same slot).2.trans retiring)

theorem Passes.quiet (passes : Passes before after) (control : after.control = before.control) :
    Quiet before after :=
  ⟨control, passes.framesReceived, fun slot offered => passes.offered slot offered⟩

theorem Quiet.trans (first : Quiet before middle) (second : Quiet middle after) : Quiet before after := by
  refine ⟨second.control.trans first.control, second.framesReceived.trans first.framesReceived,
    fun slot offered => ?_⟩
  obtain ⟨there, ahb, timestamp, sequence, token⟩ := second.offered slot offered
  obtain ⟨early, ahb', timestamp', sequence', token'⟩ := first.offered slot there
  exact ⟨early, ahb.trans ahb', timestamp.trans timestamp', sequence.trans sequence', token.trans token'⟩

theorem closeFd_quiet (hal : StableHal) (fd : Option Fd) : Quiet hal (hal.closeFd fd) :=
  .of_same (by simp) (by simp) fun slot => by simp [Frame.Same]

theorem Enqueued.evolves {slot : Slot} {frame : Submission} {outcome : EnqueueResult × StableHal}
    (enqueued : Enqueued hal slot frame outcome) :
    Evolves hal (acceptedBy slot frame outcome.1) outcome.2 := by
  cases enqueued with
  | rejected code middle passes control =>
    exact .quiet ((passes.quiet control).trans (closeFd_quiet middle frame.acquireFence))
  | waiting after passes control => exact .quiet (passes.quiet control)
  | accepted middle passes control admitted idle single =>
    refine .stored slot frame rfl admitted ?_ ?_ ?_ ?_
    · rw [swap_control, control]
    · rw [swap_framesReceived, passes.framesReceived]
    · rw [swap_latest, Function.update_self, stored, stored, passes.framesReceived]
    · intro other differs offered
      rw [swap_latest, Function.update_of_ne differs] at offered ⊢
      exact passes.offered other offered

theorem Read.quiet {slot : Int} {wantsSequence : Bool} {afterSequence : Nat} {configurationToken : Int}
    {outcome : Option Acquired × StableHal}
    (read : Read hal slot wantsSequence afterSequence configurationToken outcome) :
    Quiet hal outcome.2 := by
  cases read with
  | refused middle kernel passes control moved =>
    exact (passes.quiet control).trans (.of_same rfl rfl fun slot => ⟨⟨rfl, rfl, rfl, rfl⟩, rfl⟩)
  | granted index middle ahb fence kernel valid passes control token current present live newer copied =>
    refine (passes.quiet control).trans (.of_same rfl rfl fun other => ?_)
    by_cases same : other = index
    · subst same
      simp [setFrame, Frame.Same]
    · simp [setFrame, Function.update_of_ne same, acquireBuffer, Frame.Same]

theorem closeAll_quiet (hal : StableHal) (fences : List Fd) : Quiet hal (hal.closeAll fences) := by
  induction fences generalizing hal with
  | nil => exact .of_same rfl rfl fun slot => ⟨⟨rfl, rfl, rfl, rfl⟩, rfl⟩
  | cons fence fences ih => exact (closeFd_quiet hal (some fence)).trans (ih _)

theorem returned_quiet (hal : StableHal) (slot : Slot) (readFences : List Fd) :
    Quiet hal (hal.returned slot readFences) := by
  refine .of_same rfl rfl fun other => ?_
  by_cases same : other = slot
  · subst same
    simp [returned, setFrame, Frame.Same]
  · simp [returned, setFrame, Function.update_of_ne same, Frame.Same]

theorem releaseFrame_quiet (hal : StableHal) (slot : Int) (ahb : Ahb) (readFences : List Fd) :
    Quiet hal (hal.releaseFrame slot ahb readFences) := by
  cases found : (validSlot slot).filter fun slot => (hal.latest slot).ahb == some ahb with
  | none =>
    simp only [releaseFrame, found]
    exact (closeAll_quiet hal readFences).trans (.of_same rfl rfl fun slot => ⟨⟨rfl, rfl, rfl, rfl⟩, rfl⟩)
  | some index =>
    obtain ⟨valid, stored⟩ := Option.filter_eq_some_iff.mp found
    have read := releaseFrame_found hal index ahb readFences (by simpa using stored)
    rw [validSlot_eq_some valid]
    refine (returned_quiet hal index readFences).trans (read.1.quiet ?_)
    rw [read.2]
    rfl

end StableHal

end VirtualCamera
