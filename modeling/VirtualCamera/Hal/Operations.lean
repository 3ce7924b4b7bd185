import VirtualCamera.Hal.Tidying

set_option autoImplicit false

namespace VirtualCamera

open Descriptors

inductive ControlOp where
  | setCallback (callback : Option Binder) (version : Option Int)
  | registerProducer (slot : Int) (descriptor : ProducerCapabilities) (owner : Option Binder)
  | removeProducer (slot registration : Int) (owner : Option Binder)
  | setConfigurationReady (slot token : Int) (ready : Bool)
  | setCameraPresent (slot : Int) (present : Bool)
  | allocateSessionIdentity
  | notifyStreamsConfigured (slot owner width height fps : Int)
  | notifyCameraClosed (slot owner configurationToken : Int)

namespace ControlOp

def run (hal : StableHal) : ControlOp → StableHal
  | .setCallback callback version => (hal.setCallback callback version).2.2
  | .registerProducer slot descriptor owner => (hal.registerProducer slot descriptor owner).2.2
  | .removeProducer slot registration owner => (hal.removeProducer slot registration owner).2.2
  | .setConfigurationReady slot token ready => (hal.setConfigurationReady slot token ready).2
  | .setCameraPresent slot present => (hal.setCameraPresent slot present).2
  | .allocateSessionIdentity => hal.allocateSessionIdentity.2
  | .notifyStreamsConfigured slot owner width height fps =>
    (hal.notifyStreamsConfigured slot owner width height fps).2.2
  | .notifyCameraClosed slot owner configurationToken =>
    (hal.notifyCameraClosed slot owner configurationToken).2

def issued (hal : StableHal) : ControlOp → Option (Slot × Int)
  | .notifyStreamsConfigured slot owner width height fps =>
    (validSlot slot).bind fun index =>
      let (token, _, _) := hal.notifyStreamsConfigured slot owner width height fps
      if token = 0 then none else some (index, token)
  | _ => none

def resets (hal : StableHal) (slot : Slot) : ControlOp → Bool
  | .setCallback callback version =>
    (hal.setCallback callback version).1 == .ok && hal.callback.isSome && hal.callback != callback
  | .removeProducer index registration owner =>
    validSlot index == some slot && (hal.removeProducer index registration owner).1 == .ok
  | .setConfigurationReady index token ready =>
    validSlot index == some slot && !ready && (hal.setConfigurationReady index token ready).1 == .ok
  | .setCameraPresent index present =>
    validSlot index == some slot && !present && (hal.setCameraPresent index present).1 == .ok
  | .notifyCameraClosed index owner configurationToken =>
    validSlot index == some slot && decide (0 < owner ∧ 0 < configurationToken ∧
      (hal.slots slot).sessionOwner = owner ∧ (hal.slots slot).configuration = configurationToken)
  | op => (op.issued hal).any fun issue => issue.1 == slot

end ControlOp

namespace StableHal

theorem Sweeps.drop {hal middle : StableHal} (first : Sweeps hal middle) (slot : Slot) :
    Sweeps hal (middle.dropLatestLocked slot) := first.trans (dropLatestLocked_sweeps middle slot)

theorem retireOwner_sweeps (hal : StableHal) (slot : Slot) : Sweeps hal (hal.retireOwner slot) := by
  unfold retireOwner
  split
  · exact .same rfl rfl rfl rfl
  · exact .refl hal

theorem setControl_sweeps (hal : StableHal) (slot : Slot) (control : SlotControl) :
    Sweeps hal (hal.setControl slot control) := .same rfl rfl rfl rfl

theorem revokeSlot_sweeps (hal : StableHal) (slot : Slot) : Sweeps hal (hal.revokeSlot slot) :=
  ((setControl_sweeps hal slot _).drop slot).trans (retireOwner_sweeps _ slot)

theorem revokeSlots_sweeps (hal : StableHal) (slots : List Slot) :
    Sweeps hal (slots.foldl revokeSlot hal) := by
  induction slots generalizing hal with
  | nil => exact .refl hal
  | cons slot slots ih => exact (revokeSlot_sweeps hal slot).trans (ih _)

theorem setCallback_sweeps (hal : StableHal) (callback : Option Binder) (version : Option Int) :
    Sweeps hal (hal.setCallback callback version).2.2 := by
  simp only [setCallback]
  generalize (if callback.isSome = true then version.getD 1 else 0) = ver
  split
  · exact .refl hal
  · have revoked : Sweeps hal (if hal.callback.isSome && hal.callback != callback then
        (List.finRange kMaxVirtualCameras).foldl revokeSlot hal else hal) := by
      split
      · exact revokeSlots_sweeps hal _
      · exact .refl hal
    exact revoked.trans (.same rfl rfl rfl rfl)

theorem registerProducer_sweeps (hal : StableHal) (slot : Int) (descriptor : ProducerCapabilities)
    (owner : Option Binder) : Sweeps hal (hal.registerProducer slot descriptor owner).2.2 := by
  unfold registerProducer
  split
  · exact .refl hal
  · split
    · exact .refl hal
    · split
      · exact .refl hal
      · exact .same rfl rfl rfl rfl

theorem removeProducer_sweeps (hal : StableHal) (slot registration : Int) (owner : Option Binder) :
    Sweeps hal (hal.removeProducer slot registration owner).2.2 := by
  unfold removeProducer
  split
  · exact .refl hal
  · split
    · exact .refl hal
    · split
      · exact .refl hal
      · exact revokeSlot_sweeps hal _

theorem setConfigurationReady_sweeps (hal : StableHal) (slot token : Int) (ready : Bool) :
    Sweeps hal (hal.setConfigurationReady slot token ready).2 := by
  unfold setConfigurationReady
  split
  · exact .refl hal
  · dsimp only
    split
    · exact .refl hal
    · split
      · exact setControl_sweeps hal _ _
      · refine Sweeps.drop ?_ _
        exact .same rfl rfl rfl rfl

theorem setCameraPresent_sweeps (hal : StableHal) (slot : Int) (present : Bool) :
    Sweeps hal (hal.setCameraPresent slot present).2 := by
  unfold setCameraPresent
  split
  · exact .refl hal
  next slot _ =>
    split
    · exact .refl hal
    · split
      · exact .refl hal
      · dsimp only
        have closed := setControl_sweeps hal slot
          { hal.slots slot with configuration := 0, ready := false, ownerClosed := true }
        split
        · exact (closed.trans (retireOwner_sweeps _ slot)).drop slot
        · exact closed.drop slot

theorem allocateSessionIdentity_sweeps (hal : StableHal) : Sweeps hal hal.allocateSessionIdentity.2 := by
  unfold allocateSessionIdentity
  split
  · exact .refl hal
  · exact .same rfl rfl rfl rfl

theorem notifyStreamsConfigured_sweeps (hal : StableHal) (slot owner width height fps : Int) :
    Sweeps hal (hal.notifyStreamsConfigured slot owner width height fps).2.2 := by
  unfold notifyStreamsConfigured
  split
  · exact .refl hal
  · dsimp only
    split
    · exact .refl hal
    · refine Sweeps.drop ?_ _
      exact .same rfl rfl rfl rfl

theorem notifyCameraClosed_sweeps (hal : StableHal) (slot owner configurationToken : Int) :
    Sweeps hal (hal.notifyCameraClosed slot owner configurationToken).2 := by
  unfold notifyCameraClosed
  split
  · exact .refl hal
  · dsimp only
    split
    · exact .refl hal
    · exact (setControl_sweeps hal _ _).drop _

end StableHal

theorem ControlOp.sweeps (hal : StableHal) (op : ControlOp) : StableHal.Sweeps hal (op.run hal) := by
  cases op with
  | setCallback callback version => exact StableHal.setCallback_sweeps hal callback version
  | registerProducer slot descriptor owner =>
    exact StableHal.registerProducer_sweeps hal slot descriptor owner
  | removeProducer slot registration owner =>
    exact StableHal.removeProducer_sweeps hal slot registration owner
  | setConfigurationReady slot token ready =>
    exact StableHal.setConfigurationReady_sweeps hal slot token ready
  | setCameraPresent slot present => exact StableHal.setCameraPresent_sweeps hal slot present
  | allocateSessionIdentity => exact StableHal.allocateSessionIdentity_sweeps hal
  | notifyStreamsConfigured slot owner width height fps =>
    exact StableHal.notifyStreamsConfigured_sweeps hal slot owner width height fps
  | notifyCameraClosed slot owner configurationToken =>
    exact StableHal.notifyCameraClosed_sweeps hal slot owner configurationToken

theorem ControlOp.passes (hal : StableHal) (op : ControlOp) : StableHal.Passes hal (op.run hal) :=
  (op.sweeps hal).passes

end VirtualCamera
