import VirtualCamera.Hal.Ownership

set_option autoImplicit false

namespace VirtualCamera

open StableHal

def HalMessage.ending : HalMessage → HalMessage
  | .streamsConfiguredForProducer slot registration token _ _ _ => .cameraClosedForProducer slot registration token
  | .streamsConfiguredForConfiguration slot token _ _ _ => .cameraClosedForConfiguration slot token
  | message => message

def SlotControl.farewell (control : SlotControl) (slot : Slot) : HalMessage :=
  match control.capabilities with
  | some caps =>
    if caps.registration ≠ 0 then .cameraClosedForProducer slot caps.registration control.configuration
    else .cameraClosedForConfiguration slot control.configuration
  | none => .cameraClosedForConfiguration slot control.configuration

namespace ControlOp

-- A platform that does not register producers takes the slot's camera away.
def withdraws (hal : StableHal) (slot : Slot) : ControlOp → Bool
  | .setCameraPresent index present =>
    validSlot index == some slot && !present && (hal.setCameraPresent index present).1 == .ok
  | _ => false

def forgets (hal : StableHal) (slot : Slot) : ControlOp → Bool
  | .setConfigurationReady index token ready =>
    validSlot index == some slot && !ready && (hal.setConfigurationReady index token ready).1 == .ok
  | .registerProducer index descriptor owner =>
    validSlot index == some slot && (hal.slots slot).configuration != 0 &&
      (hal.registerProducer index descriptor owner).1 == .ok
  | _ => false

end ControlOp

namespace StableHal

inductive ConfigurationMove (hal : StableHal) (op : ControlOp) (slot : Slot) (after : StableHal) : Prop where
  | standing (configuration : (after.slots slot).configuration = (hal.slots slot).configuration)
      (capabilities : (after.slots slot).capabilities = (hal.slots slot).capabilities)
      (callback : after.callback = hal.callback)
  | closed (owner : Int) (chosen : op = .notifyCameraClosed (slot : Nat) owner (hal.slots slot).configuration)
      (sent : (hal.notifyCameraClosed (slot : Nat) owner (hal.slots slot).configuration).1 =
        hal.callback.map fun cb => (cb, (hal.slots slot).farewell slot))
  | superseded (owner width height fps : Int)
      (chosen : op = .notifyStreamsConfigured (slot : Nat) owner width height fps)
      (issued : 0 < (hal.notifyStreamsConfigured (slot : Nat) owner width height fps).1)
  | revoked (revokes : op.revokes hal slot = true)
  | withdrawn (withdraws : op.withdraws hal slot = true)
  | forgotten (forgets : op.forgets hal slot = true)

variable {hal after : StableHal} {op : ControlOp} {slot : Slot}

theorem ConfigurationMove.same (slots : after.slots slot = hal.slots slot)
    (callback : after.callback = hal.callback) :
    ConfigurationMove hal op slot after := by
  refine .standing ?_ ?_ callback
  · rw [slots]
  · rw [slots]

theorem setCallback_configuration (callback : Option Binder) (version : Option Int)
    (present : hal.callback.isSome = true) :
    ConfigurationMove hal (.setCallback callback version) slot (hal.setCallback callback version).2.2 := by
  rcases setCallback_cases hal callback version with refused | ⟨ver, ⟨same, kept⟩ | ⟨_, differs, replaced⟩⟩
  · rw [refused]
    exact .same rfl rfl
  · rw [kept]
    refine .same rfl ?_
    rcases same with absent | same
    · simp [absent] at present
    · exact same.symm
  · refine .revoked ?_
    have okay : (hal.setCallback callback version).1 = .ok := congrArg Prod.fst replaced
    simp [ControlOp.revokes, okay, present, Ne.symm differs]

theorem registerProducer_configuration (index : Int) (descriptor : ProducerCapabilities) (owner : Option Binder)
    (configured : (hal.slots slot).configuration ≠ 0) :
    ConfigurationMove hal (.registerProducer index descriptor owner) slot
      (hal.registerProducer index descriptor owner).2.2 := by
  cases registerProducer_descriptors hal index descriptor owner with
  | registered chosen added binder shape okay owned callback vacant held others published =>
    cases shape
    by_cases same : slot = chosen
    · subst same
      exact .forgotten (by simp [ControlOp.forgets, okay, configured])
    · exact .same (others slot same) (callback.trans owned.symm)
  | removed chosen gone binder shape => cases shape
  | replaced callback version shape => cases shape
  | kept callback capabilities published =>
    unfold registerProducer at capabilities ⊢
    split
    · exact .same rfl rfl
    next chosen valid =>
      split
      · exact .same rfl rfl
      next valued =>
        split
        · exact .same rfl rfl
        next vacant =>
          simp only [valid, if_neg valued, if_neg vacant] at capabilities
          have taken := capabilities chosen
          rw [setControl_self] at taken
          simp [← taken] at vacant

theorem removeProducer_configuration (index registration : Int) (owner : Option Binder) :
    ConfigurationMove hal (.removeProducer index registration owner) slot
      (hal.removeProducer index registration owner).2.2 := by
  have refused : hal.removeProducer index registration owner = (.serviceSpecific 8, [], hal) →
      ConfigurationMove hal (.removeProducer index registration owner) slot
        (hal.removeProducer index registration owner).2.2 := by
    intro shape
    rw [shape]
    exact .same rfl rfl
  cases valid : validSlot index with
  | none => exact refused (by simp only [removeProducer, valid])
  | some chosen =>
    by_cases unowned : owner.isNone = true
    · exact refused (by simp only [removeProducer, valid, if_pos unowned])
    · by_cases late : (hal.callback.isNone || hal.callback != owner ||
          !(hal.slots chosen).capabilities.any (·.registration == registration)) = true
      · exact refused (by simp only [removeProducer, valid, if_neg unowned, if_pos late])
      · have shape : hal.removeProducer index registration owner =
            (.ok, if hal.provider then [(chosen, false)] else [], hal.revokeSlot chosen) := by
          simp only [removeProducer, valid, if_neg unowned, if_neg late]
        by_cases same : slot = chosen
        · subst same
          exact .revoked (by simp [ControlOp.revokes, valid, shape])
        · rw [shape]
          exact .same (revokeSlot_other hal same) (revokeSlot_standing hal chosen).2

theorem setConfigurationReady_configuration (index token : Int) (ready : Bool) :
    ConfigurationMove hal (.setConfigurationReady index token ready) slot
      (hal.setConfigurationReady index token ready).2 := by
  have callback := (ControlOp.bystander hal (.setConfigurationReady index token ready) rfl).callback
  have capabilities := (ControlOp.bystander hal (.setConfigurationReady index token ready) rfl).capabilities slot
  simp only [ControlOp.run] at callback capabilities
  cases valid : validSlot index with
  | none =>
    refine .same ?_ callback
    simp only [setConfigurationReady, valid]
  | some chosen =>
    by_cases refused : token ≤ 0 ∨ (hal.slots chosen).configuration ≠ token ∨
        (hal.slots chosen).capabilities.isNone = true ∨ (hal.slots chosen).ownerClosed = true
    · refine .same ?_ callback
      simp only [setConfigurationReady, valid, if_pos refused]
    · cases ready
      case true =>
        refine .standing ?_ capabilities callback
        simp only [setConfigurationReady, valid, if_neg refused, if_true]
        by_cases same : slot = chosen
        · subst same
          rw [setControl_self]
        · rw [setControl_other hal same]
      case false =>
        by_cases same : slot = chosen
        · subst same
          have okay : (hal.setConfigurationReady index token false).1 = .ok := by
            simp only [setConfigurationReady, valid, if_neg refused, Bool.false_eq_true, if_false]
          exact .forgotten (by simp [ControlOp.forgets, valid, okay])
        · refine .same ?_ callback
          simp only [setConfigurationReady, valid, if_neg refused, Bool.false_eq_true, if_false]
          rw [dropLatestLocked_slots, setControl_other _ same, setControl_other _ same]

theorem setCameraPresent_configuration (index : Int) (present : Bool) :
    ConfigurationMove hal (.setCameraPresent index present) slot (hal.setCameraPresent index present).2 := by
  have callback := (ControlOp.bystander hal (.setCameraPresent index present) rfl).callback
  simp only [ControlOp.run] at callback
  cases valid : validSlot index with
  | none =>
    refine .same ?_ callback
    simp only [setCameraPresent, valid]
  | some chosen =>
    by_cases refused : hal.provider = true ∨ present = true
    · refine .same ?_ callback
      rcases refused with published | appears
      · simp only [setCameraPresent, valid, if_pos published]
      · simp only [setCameraPresent, valid, if_pos appears]
        split <;> rfl
    · obtain ⟨alone, leaves⟩ := not_or.mp refused
      by_cases same : slot = chosen
      · subst same
        refine .withdrawn ?_
        simp [ControlOp.withdraws, setCameraPresent, valid, if_neg alone, leaves]
      · refine .same ?_ callback
        simp only [setCameraPresent, valid, if_neg alone, if_neg leaves]
        rw [dropLatestLocked_slots]
        split
        · rw [retireOwner_other _ same, setControl_other _ same]
        · rw [setControl_other _ same]

theorem notifyStreamsConfigured_configuration (index owner width height fps : Int) (natural : 0 ≤ hal.nextIdentity) :
    ConfigurationMove hal (.notifyStreamsConfigured index owner width height fps) slot
      (hal.notifyStreamsConfigured index owner width height fps).2.2 := by
  have callback := (ControlOp.bystander hal (.notifyStreamsConfigured index owner width height fps) rfl).callback
  simp only [ControlOp.run] at callback
  cases valid : validSlot index with
  | none =>
    refine .same ?_ callback
    simp only [notifyStreamsConfigured, valid]
  | some chosen =>
    by_cases refused : owner ≤ 0 ∨ owner < (hal.slots chosen).sessionOwner ∨
        (owner = (hal.slots chosen).sessionOwner ∧ (hal.slots chosen).ownerClosed = true) ∨
          hal.nextIdentity = int64Max
    · refine .same ?_ callback
      simp only [notifyStreamsConfigured, valid, if_pos refused]
    · by_cases same : slot = chosen
      · subst same
        obtain rfl := validSlot_eq_some valid
        refine .superseded owner width height fps rfl ?_
        simp only [notifyStreamsConfigured, validSlot_coe, if_neg refused]
        exact Int.lt_add_one_of_le natural
      · refine .same ?_ callback
        simp only [notifyStreamsConfigured, valid, if_neg refused]
        rw [dropLatestLocked_slots, setControl_other _ same]

theorem notifyCameraClosed_configuration (index owner token : Int) :
    ConfigurationMove hal (.notifyCameraClosed index owner token) slot (hal.notifyCameraClosed index owner token).2 := by
  have callback := (ControlOp.bystander hal (.notifyCameraClosed index owner token) rfl).callback
  simp only [ControlOp.run] at callback
  cases valid : validSlot index with
  | none =>
    refine .same ?_ callback
    simp only [notifyCameraClosed, valid]
  | some chosen =>
    by_cases refused : owner ≤ 0 ∨ token ≤ 0 ∨ (hal.slots chosen).sessionOwner ≠ owner ∨
        (hal.slots chosen).configuration ≠ token
    · refine .same ?_ callback
      simp only [notifyCameraClosed, valid, if_pos refused]
    · by_cases same : slot = chosen
      · subst same
        obtain rfl := validSlot_eq_some valid
        obtain rfl : (hal.slots slot).configuration = token := by omega
        refine .closed owner rfl ?_
        simp only [notifyCameraClosed, validSlot_coe, if_neg refused]
        rw [(dropLatestLocked_standing _ slot).2]
        rfl
      · refine .same ?_ callback
        simp only [notifyCameraClosed, valid, if_neg refused]
        rw [dropLatestLocked_slots, setControl_other _ same]

end StableHal

open StableHal in
theorem ControlOp.configuration (hal : StableHal) (op : ControlOp) (slot : Slot) (natural : 0 ≤ hal.nextIdentity)
    (present : hal.callback.isSome = true) (configured : (hal.slots slot).configuration ≠ 0) :
    ConfigurationMove hal op slot (op.run hal) := by
  cases op with
  | setCallback callback version => exact setCallback_configuration callback version present
  | registerProducer index descriptor owner => exact registerProducer_configuration index descriptor owner configured
  | removeProducer index registration owner => exact removeProducer_configuration index registration owner
  | setConfigurationReady index token ready => exact setConfigurationReady_configuration index token ready
  | setCameraPresent index present => exact setCameraPresent_configuration index present
  | allocateSessionIdentity =>
    simp only [run, StableHal.allocateSessionIdentity]
    split <;> exact .same rfl rfl
  | notifyStreamsConfigured index owner width height fps =>
    exact notifyStreamsConfigured_configuration index owner width height fps natural
  | notifyCameraClosed index owner token => exact notifyCameraClosed_configuration index owner token

end VirtualCamera
