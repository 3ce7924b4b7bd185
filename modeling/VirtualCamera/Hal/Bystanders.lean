import VirtualCamera.Hal.SlotTwins

set_option autoImplicit false

namespace VirtualCamera

open Descriptors

namespace StableHal

structure Untouched (device : Point → Prop) (slot : Slot) (before after : StableHal) : Prop where
  provider : after.provider = before.provider
  callback : after.callback = before.callback
  control : after.slots slot = before.slots slot
  frame : after.latest slot = before.latest slot
  kernel : Kernel.Grown device before.kernel after.kernel

variable {device : Point → Prop} {slot chosen : Slot} {hal before middle after : StableHal}

theorem Untouched.refl (hal : StableHal) : Untouched device slot hal hal := ⟨rfl, rfl, rfl, rfl, .refl _⟩

theorem Untouched.trans (first : Untouched device slot before middle)
    (second : Untouched device slot middle after) :
    Untouched device slot before after where
  provider := second.provider.trans first.provider
  callback := second.callback.trans first.callback
  control := second.control.trans first.control
  frame := second.frame.trans first.frame
  kernel := first.kernel.trans second.kernel

theorem Untouched.setFrame (first : Untouched device slot before after) (differs : slot ≠ chosen) (frame : Frame) :
    Untouched device slot before (after.setFrame chosen frame) :=
  first.trans ⟨rfl, rfl, rfl, Function.update_of_ne differs _ _, .refl _⟩

theorem Untouched.setControl (first : Untouched device slot before after) (differs : slot ≠ chosen)
    (control : SlotControl) : Untouched device slot before (after.setControl chosen control) :=
  first.trans ⟨rfl, rfl, Function.update_of_ne differs _ _, rfl, .refl _⟩

theorem Untouched.onward (first : Untouched device slot before after) {kernel : Kernel}
    (later : after.kernel.Later kernel) : Untouched device slot before { after with kernel } :=
  first.trans ⟨rfl, rfl, rfl, rfl, later.grown⟩

theorem Untouched.closeFd (first : Untouched device slot before after) (fence : Option Fd) :
    Untouched device slot before (after.closeFd fence) := by
  cases fence with
  | none => exact first
  | some fd => exact first.onward (Kernel.later_close _ fd)

theorem Untouched.acquireBuffer (first : Untouched device slot before after) (ahb : Ahb) :
    Untouched device slot before (after.acquireBuffer ahb) := first.trans ⟨rfl, rfl, rfl, rfl, .refl _⟩

theorem Untouched.releaseBuffer (first : Untouched device slot before after) (ahb : Ahb) :
    Untouched device slot before (after.releaseBuffer ahb) := first.trans ⟨rfl, rfl, rfl, rfl, .refl _⟩

theorem Untouched.releaseIfHeld (first : Untouched device slot before after) (ahb : Option Ahb) :
    Untouched device slot before (after.releaseIfHeld ahb) := by
  cases ahb with
  | none => exact first
  | some ahb => exact first.releaseBuffer ahb

theorem Untouched.reap (first : Untouched device slot before after) (differs : slot ≠ chosen) :
    Untouched device slot before (after.reapRetiringLocked chosen).2 := by
  have pruned := first.onward (pruneReadFences_later after.kernel (after.latest chosen).readFences)
  simp only [reapRetiringLocked]
  split
  next => exact first
  next =>
    split
    next => exact pruned.setFrame differs _
    next => exact ((pruned.releaseIfHeld _).closeFd _).setFrame differs _

theorem Untouched.drop (first : Untouched device slot before after) (differs : slot ≠ chosen) :
    Untouched device slot before (after.dropLatestLocked chosen) := (first.setFrame differs _).reap differs

theorem Untouched.retireOwner (first : Untouched device slot before after) (differs : slot ≠ chosen) :
    Untouched device slot before (after.retireOwner chosen) := by
  unfold StableHal.retireOwner
  split
  next => exact (first.setControl differs _).trans ⟨rfl, rfl, rfl, rfl, .refl _⟩
  next => exact first

theorem Untouched.revokeSlot (first : Untouched device slot before after) (differs : slot ≠ chosen) :
    Untouched device slot before (after.revokeSlot chosen) :=
  ((first.setControl differs _).drop differs).retireOwner differs

theorem Untouched.reject (first : Untouched device slot before after) (frame : Submission) (code : Nat) :
    Untouched device slot before (after.reject frame code).2 := (first.releaseBuffer _).closeFd _

theorem Untouched.swapFrame (first : Untouched device slot before after) (differs : slot ≠ chosen)
    (frame : Submission) : Untouched device slot before (after.swapFrame chosen frame) := by
  have counted : Untouched device slot before { after with framesReceived := after.framesReceived + 1 } :=
    first.trans ⟨rfl, rfl, rfl, rfl, .refl _⟩
  exact ((counted.setFrame differs _).releaseIfHeld _).closeFd _

theorem Untouched.enqueueCommit (first : Untouched device slot before after) (differs : slot ≠ chosen)
    (frame : Submission) : Untouched device slot before (after.enqueueCommit chosen frame).2 := by
  have reaped := first.reap differs
  have merged := reaped.onward (consolidateReadFences_later (after.reapRetiringLocked chosen).2.kernel
    ((after.reapRetiringLocked chosen).2.latest chosen).readFences)
  simp only [StableHal.enqueueCommit]
  split
  next => exact first.reject frame 7
  next =>
    split
    next => exact reaped.reject frame 4
    next =>
      split
      next => exact (merged.setFrame differs _).reject frame 6
      next => exact (merged.setFrame differs _).swapFrame differs frame

theorem Untouched.enqueueWake (first : Untouched device slot before after) (differs : slot ≠ chosen)
    (frame : Submission) (timedOut : Bool) :
    Untouched device slot before (after.enqueueWake chosen frame timedOut).2 := by
  unfold StableHal.enqueueWake
  split
  next => exact first.enqueueCommit differs frame
  next =>
    split
    next => exact first.reject frame 4
    next => exact first

theorem enqueue_untouched (hal : StableHal) (differs : slot ≠ chosen) (handle : Bool) (imported : Option Ahb)
    (width height format timestampNs : Int) (fence : Option Fd) (token : Int) :
    Untouched device slot hal (hal.enqueue chosen handle imported width height format timestampNs fence token).2 := by
  unfold enqueue
  split
  next => exact (Untouched.refl hal).closeFd fence
  next =>
    split
    next => exact (Untouched.refl hal).closeFd fence
    next ahb =>
      have taken : Untouched device slot hal (hal.acquireBuffer ahb) := (Untouched.refl hal).acquireBuffer ahb
      have reaped := taken.reap differs
      dsimp only
      split
      next => exact taken.reject _ 7
      next =>
        split
        next => exact reaped.reject _ 4
        next =>
          split
          next => exact reaped
          next => exact reaped.enqueueCommit differs _

theorem Twins.first {names : Names} {left right left' : StableHal} (twins : Twins names device slot left right)
    (untouched : Untouched device slot left left') : Twins names device slot left' right where
  provider := untouched.provider.trans twins.provider
  callback := untouched.callback.trans twins.callback
  control := by rw [untouched.control]; exact twins.control
  frame := by
    rw [untouched.frame]
    exact twins.frame.imp fun _ _ here => here.grown untouched.kernel (.refl _)
  work := twins.work.grown untouched.kernel (.refl _)

theorem Twins.second {names : Names} {left right right' : StableHal} (twins : Twins names device slot left right)
    (untouched : Untouched device slot right right') : Twins names device slot left right' where
  provider := twins.provider.trans untouched.provider.symm
  callback := twins.callback.trans untouched.callback.symm
  control := by rw [untouched.control]; exact twins.control
  frame := by
    rw [untouched.frame]
    exact twins.frame.imp fun _ _ here => here.grown (.refl _) untouched.kernel
  work := twins.work.grown (.refl _) untouched.kernel

theorem acquireLatest_untouched (hal : StableHal) {index : Int} (there : validSlot index ≠ some slot)
    (wantsFence wantsSequence : Bool) (afterSequence : Nat) (token : Int) :
    Untouched device slot hal (hal.acquireLatest index wantsFence wantsSequence afterSequence token).2 := by
  unfold acquireLatest
  split
  next => exact .refl hal
  next chosen valid =>
    have differs : slot ≠ chosen := fun same => there (same ▸ valid)
    have untouched : Untouched device slot hal hal := .refl hal
    have merged := untouched.onward (consolidateReadFences_later hal.kernel (hal.latest chosen).readFences)
    dsimp only
    split
    next => exact untouched
    next =>
      split
      next => exact untouched
      next ahb _ =>
        split
        next => exact untouched
        next =>
          split
          next => exact untouched
          next =>
            have held := merged.setFrame differs
              { hal.latest chosen with readFences := (consolidateReadFences hal.kernel (hal.latest chosen).readFences).2.1 }
            have copied := held.onward (duplicateAcquireFence_later _ (hal.latest chosen).acquireFence)
            split
            next => exact held
            next =>
              split
              next => exact held
              next =>
                split
                next => exact copied
                next => exact (copied.acquireBuffer ahb).setFrame differs _

theorem Untouched.closeAll (first : Untouched device slot before after) (fences : List Fd) :
    Untouched device slot before (after.closeAll fences) := by
  induction fences generalizing after with
  | nil => exact first
  | cons fence fences ih => exact ih (first.closeFd (some fence))

theorem releaseFrame_untouched (hal : StableHal) (differs : slot ≠ chosen) (ahb : Ahb) (fences : List Fd) :
    Untouched device slot hal (hal.releaseFrame (chosen : Nat) ahb fences) := by
  have untouched : Untouched device slot hal hal := .refl hal
  unfold releaseFrame
  split
  next => exact (untouched.closeAll fences).releaseBuffer ahb
  next found =>
    obtain ⟨valid, _⟩ := Option.filter_eq_some_iff.mp found
    cases (validSlot_coe chosen).symm.trans valid
    have merged := untouched.onward
      (consolidateReadFences_later hal.kernel ((hal.latest chosen).readFences ++ fences))
    exact ((merged.setFrame differs _).reap differs).releaseBuffer ahb

end StableHal

namespace ControlOp

open StableHal

variable {device : Point → Prop} {slot : Slot}

-- A replaced callback concerns every slot, so only the operations of one other slot are elsewhere.
def elsewhere (slot : Slot) : ControlOp → Bool
  | .setCallback .. => false
  | .registerProducer index _ _ => validSlot index != some slot
  | .removeProducer index _ _ => validSlot index != some slot
  | .setConfigurationReady index _ _ => validSlot index != some slot
  | .setCameraPresent index _ => validSlot index != some slot
  | .allocateSessionIdentity => true
  | .notifyStreamsConfigured index _ _ _ _ => validSlot index != some slot
  | .notifyCameraClosed index _ _ => validSlot index != some slot

theorem untouched {op : ControlOp} (there : op.elsewhere slot = true) (hal : StableHal) :
    Untouched device slot hal (op.run hal) := by
  have untouched : Untouched device slot hal hal := .refl hal
  cases op with
  | setCallback => cases there
  | registerProducer index descriptor owner =>
    simp only [run, StableHal.registerProducer]
    split
    next => exact untouched
    next chosen valid =>
      have differs : slot ≠ chosen := by
        rintro rfl
        simp [elsewhere, valid] at there
      split
      next => exact untouched
      next =>
        split
        next => exact untouched
        next => exact untouched.setControl differs _
  | removeProducer index registration owner =>
    simp only [run, StableHal.removeProducer]
    split
    next => exact untouched
    next chosen valid =>
      have differs : slot ≠ chosen := by
        rintro rfl
        simp [elsewhere, valid] at there
      split
      next => exact untouched
      next =>
        split
        next => exact untouched
        next => exact untouched.revokeSlot differs
  | setConfigurationReady index token ready =>
    simp only [run, StableHal.setConfigurationReady]
    split
    next => exact untouched
    next chosen valid =>
      have differs : slot ≠ chosen := by
        rintro rfl
        simp [elsewhere, valid] at there
      split
      next => exact untouched
      next =>
        have readied := untouched.setControl differs { hal.slots chosen with ready }
        split
        next => exact readied
        next => exact (readied.setControl differs _).drop differs
  | setCameraPresent index present =>
    simp only [run, StableHal.setCameraPresent]
    split
    next => exact untouched
    next chosen valid =>
      have differs : slot ≠ chosen := by
        rintro rfl
        simp [elsewhere, valid] at there
      split
      next => exact untouched
      next =>
        split
        next => exact untouched
        next =>
          have closed := untouched.setControl differs
            { hal.slots chosen with configuration := 0, ready := false, ownerClosed := true }
          split
          next => exact (closed.retireOwner differs).drop differs
          next => exact closed.drop differs
  | allocateSessionIdentity =>
    simp only [run, StableHal.allocateSessionIdentity]
    split
    next => exact untouched
    next => exact ⟨rfl, rfl, rfl, rfl, .refl _⟩
  | notifyStreamsConfigured index owner width height fps =>
    simp only [run, StableHal.notifyStreamsConfigured]
    split
    next => exact untouched
    next chosen valid =>
      have differs : slot ≠ chosen := by
        rintro rfl
        simp [elsewhere, valid] at there
      split
      next => exact untouched
      next =>
        have counted : Untouched device slot hal { hal with nextIdentity := hal.nextIdentity + 1 } :=
          ⟨rfl, rfl, rfl, rfl, .refl _⟩
        exact (counted.setControl differs _).drop differs
  | notifyCameraClosed index owner token =>
    simp only [run, StableHal.notifyCameraClosed]
    split
    next => exact untouched
    next chosen valid =>
      have differs : slot ≠ chosen := by
        rintro rfl
        simp [elsewhere, valid] at there
      split
      next => exact untouched
      next => exact (untouched.setControl differs _).drop differs

end ControlOp

end VirtualCamera
