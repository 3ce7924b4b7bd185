import VirtualCamera.Hal.Configurations

set_option autoImplicit false

namespace VirtualCamera

open StableHal

namespace ControlOp

-- The entry points that hold `mPresenceLock` around their use of the HAL's own lock.
def publishes : ControlOp → Bool
  | .setCallback .. | .registerProducer .. | .removeProducer .. => true
  | _ => false

def published (hal : StableHal) : ControlOp → List (Slot × Bool)
  | .setCallback callback version => (hal.setCallback callback version).2.1
  | .registerProducer slot descriptor owner => (hal.registerProducer slot descriptor owner).2.1
  | .removeProducer slot registration owner => (hal.removeProducer slot registration owner).2.1
  | _ => []

end ControlOp

def HalEvent.publishes : HalEvent → Bool
  | .control op => op.publishes
  | _ => false

namespace StableHal

variable {hal : StableHal}

theorem setControl_capabilities (hal : StableHal) (slot : Slot) (control : SlotControl)
    (kept : control.capabilities = (hal.slots slot).capabilities) (other : Slot) :
    ((hal.setControl slot control).slots other).capabilities = (hal.slots other).capabilities := by
  by_cases same : other = slot
  · subst same
    rw [setControl_self, kept]
  · rw [setControl_other hal same]

theorem retireOwner_capabilities (hal : StableHal) (slot other : Slot) :
    ((hal.retireOwner slot).slots other).capabilities = (hal.slots other).capabilities := by
  unfold retireOwner
  split
  · exact setControl_capabilities hal slot
      { hal.slots slot with sessionOwner := hal.nextIdentity + 1 } rfl other
  · rfl

theorem retireOwner_standing (hal : StableHal) (slot : Slot) :
    (hal.retireOwner slot).provider = hal.provider ∧ (hal.retireOwner slot).callback = hal.callback := by
  unfold retireOwner
  split <;> exact ⟨rfl, rfl⟩

theorem dropLatestLocked_standing (hal : StableHal) (slot : Slot) :
    (hal.dropLatestLocked slot).provider = hal.provider ∧
      (hal.dropLatestLocked slot).callback = hal.callback :=
  ⟨congrArg Control.provider (dropLatestLocked_control hal slot),
    congrArg Control.callback (dropLatestLocked_control hal slot)⟩

theorem revokeSlot_capabilities (hal : StableHal) (slot : Slot) :
    ((hal.revokeSlot slot).slots slot).capabilities = none := by
  rw [revokeSlot, retireOwner_capabilities, dropLatestLocked_slots, setControl_self]

theorem revokeSlot_standing (hal : StableHal) (slot : Slot) :
    (hal.revokeSlot slot).provider = hal.provider ∧ (hal.revokeSlot slot).callback = hal.callback := by
  simp only [revokeSlot, retireOwner_standing, dropLatestLocked_standing]
  exact ⟨rfl, rfl⟩

theorem revokeSlots_capabilities (hal : StableHal) (slots : List Slot) (slot : Slot)
    (member : slot ∈ slots ∨ (hal.slots slot).capabilities = none) :
    ((slots.foldl revokeSlot hal).slots slot).capabilities = none := by
  induction slots generalizing hal with
  | nil => exact member.resolve_left List.not_mem_nil
  | cons first slots ih =>
    refine ih (hal.revokeSlot first) ?_
    by_cases same : slot = first
    · subst same
      exact .inr (revokeSlot_capabilities hal slot)
    · rw [revokeSlot_other hal same]
      exact member.imp_left fun member => (List.mem_cons.mp member).resolve_left same

theorem revokeSlots_standing (hal : StableHal) (slots : List Slot) :
    (slots.foldl revokeSlot hal).provider = hal.provider := by
  induction slots generalizing hal with
  | nil => rfl
  | cons first slots ih => exact (ih _).trans (revokeSlot_standing hal first).1

inductive DescriptorMove (hal : StableHal) (op : ControlOp) (after : StableHal) : Prop where
  | kept (callback : after.callback = hal.callback ∨ hal.callback = none)
      (capabilities : ∀ slot, (after.slots slot).capabilities = (hal.slots slot).capabilities)
      (published : op.published hal = [])
  | registered (slot : Slot) (descriptor : ProducerCapabilities) (binder : Binder)
      (chosen : op = .registerProducer (slot : Nat) descriptor (some binder))
      (okay : (hal.registerProducer (slot : Nat) descriptor (some binder)).1 = .ok)
      (owner : hal.callback = some binder) (callback : after.callback = some binder)
      (vacant : (hal.slots slot).capabilities = none)
      (held : (after.slots slot).capabilities = some descriptor)
      (others : ∀ other, other ≠ slot → after.slots other = hal.slots other)
      (published : op.published hal = if hal.provider then [(slot, true)] else [])
  | removed (slot : Slot) (descriptor : ProducerCapabilities) (binder : Binder)
      (chosen : op = .removeProducer (slot : Nat) descriptor.registration (some binder))
      (okay : (hal.removeProducer (slot : Nat) descriptor.registration (some binder)).1 = .ok)
      (owner : hal.callback = some binder) (callback : after.callback = some binder)
      (held : (hal.slots slot).capabilities = some descriptor)
      (cleared : (after.slots slot).capabilities = none)
      (others : ∀ other, other ≠ slot → after.slots other = hal.slots other)
      (published : op.published hal = if hal.provider then [(slot, false)] else [])
  | replaced (callback : Option Binder) (version : Option Int) (chosen : op = .setCallback callback version)
      (okay : (hal.setCallback callback version).1 = .ok) (present : hal.callback.isSome = true)
      (differs : callback ≠ hal.callback) (cleared : ∀ slot, (after.slots slot).capabilities = none)
      (published : op.published hal =
        if hal.provider then (List.finRange kMaxVirtualCameras).map fun slot => (slot, false) else [])

theorem setCallback_cases (hal : StableHal) (callback : Option Binder) (version : Option Int) :
    hal.setCallback callback version = (.serviceSpecific 7, [], hal) ∨
      ∃ callbackVersion,
        ((hal.callback = none ∨ hal.callback = callback) ∧
          hal.setCallback callback version = (.ok, [], { hal with callback, callbackVersion })) ∨
        (hal.callback.isSome = true ∧ callback ≠ hal.callback ∧
          hal.setCallback callback version =
            (.ok,
              if hal.provider then (List.finRange kMaxVirtualCameras).map fun slot => (slot, false) else [],
              { (List.finRange kMaxVirtualCameras).foldl revokeSlot hal with callback, callbackVersion })) := by
  have standing := revokeSlots_standing hal (List.finRange kMaxVirtualCameras)
  simp only [setCallback]
  generalize (List.finRange kMaxVirtualCameras).foldl revokeSlot hal = revoked at standing ⊢
  generalize (if callback.isSome = true then version.getD 1 else 0) = ver
  split
  · exact .inl rfl
  · refine .inr ⟨ver, ?_⟩
    by_cases replaced : (hal.callback.isSome && hal.callback != callback) = true
    · simp only [Bool.and_eq_true, bne_iff_ne] at replaced
      refine .inr ⟨replaced.1, replaced.2.symm, ?_⟩
      simp [replaced, standing]
    · refine .inl ⟨?_, by simp [replaced]⟩
      cases present : hal.callback with
      | none => exact .inl rfl
      | some binder => exact .inr (by simpa [present] using replaced)

theorem setCallback_descriptors (hal : StableHal) (callback : Option Binder) (version : Option Int) :
    DescriptorMove hal (.setCallback callback version) (hal.setCallback callback version).2.2 := by
  have cleared := fun slot => revokeSlots_capabilities hal (List.finRange kMaxVirtualCameras) slot
    (.inl (List.mem_finRange slot))
  have cases := setCallback_cases hal callback version
  generalize (List.finRange kMaxVirtualCameras).foldl revokeSlot hal = revoked at cleared cases
  rcases cases with refused | ⟨ver, ⟨same, kept⟩ | ⟨present, differs, replaced⟩⟩
  · rw [refused]
    exact .kept (.inl rfl) (fun _ => rfl) (congrArg (·.2.1) refused)
  · rw [kept]
    refine .kept ?_ (fun _ => rfl) (congrArg (·.2.1) kept)
    exact same.symm.imp_left Eq.symm
  · rw [replaced]
    exact .replaced callback version rfl (congrArg (·.1) replaced) present differs cleared
      (congrArg (·.2.1) replaced)

theorem registerProducer_descriptors (hal : StableHal) (index : Int) (descriptor : ProducerCapabilities)
    (owner : Option Binder) : DescriptorMove hal (.registerProducer index descriptor owner)
      (hal.registerProducer index descriptor owner).2.2 := by
  have refused : hal.registerProducer index descriptor owner = (.serviceSpecific 8, [], hal) →
      DescriptorMove hal (.registerProducer index descriptor owner)
        (hal.registerProducer index descriptor owner).2.2 := by
    intro shape
    rw [shape]
    exact .kept (.inl rfl) (fun _ => rfl) (congrArg (·.2.1) shape)
  cases valid : validSlot index with
  | none => exact refused (by simp only [registerProducer, valid])
  | some slot =>
    cases owner with
    | none => exact refused (by simp [registerProducer, valid])
    | some binder =>
      by_cases late : (hal.callback.isNone || hal.callback != some binder ||
          (hal.slots slot).capabilities.isSome) = true
      · refine refused ?_
        simp only [registerProducer, valid, if_pos late, ite_self]
      · by_cases early : (!descriptor.valid || (some binder).isNone) = true
        · exact refused (by simp only [registerProducer, valid, if_pos early])
        · have shape : hal.registerProducer index descriptor (some binder) =
              (.ok, if hal.provider then [(slot, true)] else [],
                hal.setControl slot { hal.slots slot with
                  capabilities := some descriptor, ready := false, configuration := 0 }) := by
            simp only [registerProducer, valid, if_neg early, if_neg late]
          obtain rfl := validSlot_eq_some valid
          obtain ⟨⟨_, owned⟩, vacant⟩ : (hal.callback ≠ none ∧ hal.callback = some binder) ∧
              (hal.slots slot).capabilities = none := by
            simpa using late
          rw [shape]
          refine .registered slot descriptor binder rfl (congrArg (·.1) shape) owned owned vacant ?_
            (fun other differs => setControl_other hal differs _) (congrArg (·.2.1) shape)
          rw [setControl_self]

theorem removeProducer_descriptors (hal : StableHal) (index registration : Int) (owner : Option Binder) :
    DescriptorMove hal (.removeProducer index registration owner)
      (hal.removeProducer index registration owner).2.2 := by
  have refused : hal.removeProducer index registration owner = (.serviceSpecific 8, [], hal) →
      DescriptorMove hal (.removeProducer index registration owner)
        (hal.removeProducer index registration owner).2.2 := by
    intro shape
    rw [shape]
    exact .kept (.inl rfl) (fun _ => rfl) (congrArg (·.2.1) shape)
  cases valid : validSlot index with
  | none => exact refused (by simp only [removeProducer, valid])
  | some slot =>
    cases owner with
    | none => exact refused (by simp only [removeProducer, valid]; rfl)
    | some binder =>
      by_cases late : (hal.callback.isNone || hal.callback != some binder ||
          !(hal.slots slot).capabilities.any (·.registration == registration)) = true
      · exact refused (by simp only [removeProducer, valid, if_pos late]; rfl)
      · have shape : hal.removeProducer index registration (some binder) =
            (.ok, if hal.provider then [(slot, false)] else [], hal.revokeSlot slot) := by
          simp only [removeProducer, valid, if_neg late]
          rfl
        obtain rfl := validSlot_eq_some valid
        obtain ⟨⟨_, owned⟩, found⟩ : (hal.callback ≠ none ∧ hal.callback = some binder) ∧
            (hal.slots slot).capabilities.any (·.registration == registration) = true := by
          simpa using late
        obtain ⟨descriptor, held, same⟩ := (Option.any_eq_true _ _).mp found
        obtain rfl := beq_iff_eq.mp same
        rw [shape]
        exact .removed slot descriptor binder rfl (congrArg (·.1) shape) owned
          ((revokeSlot_standing hal slot).2.trans owned) held (revokeSlot_capabilities hal slot)
          (fun other differs => revokeSlot_other hal differs) (congrArg (·.2.1) shape)

structure Bystander (before after : StableHal) : Prop where
  provider : after.provider = before.provider
  callback : after.callback = before.callback
  capabilities : ∀ slot, (after.slots slot).capabilities = (before.slots slot).capabilities

theorem Bystander.refl (hal : StableHal) : Bystander hal hal := ⟨rfl, rfl, fun _ => rfl⟩

theorem Bystander.of_control {before after : StableHal} (control : after.control = before.control) :
    Bystander before after := by
  refine ⟨congrArg Control.provider control, congrArg Control.callback control, fun slot => ?_⟩
  rw [show after.slots = before.slots from congrArg Control.slots control]

theorem Bystander.drop {before middle : StableHal} (bystander : Bystander before middle) (slot : Slot) :
    Bystander before (middle.dropLatestLocked slot) := by
  have dropped := Bystander.of_control (dropLatestLocked_control middle slot)
  exact ⟨dropped.provider.trans bystander.provider, dropped.callback.trans bystander.callback,
    fun other => (dropped.capabilities other).trans (bystander.capabilities other)⟩

theorem Bystander.retire {before middle : StableHal} (bystander : Bystander before middle) (slot : Slot) :
    Bystander before (middle.retireOwner slot) := by
  have standing := retireOwner_standing middle slot
  exact ⟨standing.1.trans bystander.provider, standing.2.trans bystander.callback,
    fun other => (retireOwner_capabilities middle slot other).trans (bystander.capabilities other)⟩

theorem Bystander.setControl {before middle : StableHal} (bystander : Bystander before middle) (slot : Slot)
    (control : SlotControl) (kept : control.capabilities = (before.slots slot).capabilities) :
    Bystander before (middle.setControl slot control) := by
  refine ⟨bystander.provider, bystander.callback, fun other => ?_⟩
  rw [setControl_capabilities middle slot control (kept.trans (bystander.capabilities slot).symm)]
  exact bystander.capabilities other

end StableHal

namespace ControlOp

variable {hal : StableHal}

theorem bystander (hal : StableHal) (op : ControlOp) (silent : op.publishes = false) :
    Bystander hal (op.run hal) := by
  cases op with
  | setCallback callback version => cases silent
  | registerProducer slot descriptor owner => cases silent
  | removeProducer slot registration owner => cases silent
  | setConfigurationReady slot token ready =>
    simp only [run, StableHal.setConfigurationReady]
    split
    · exact .refl hal
    · split
      · exact .refl hal
      · split
        · refine Bystander.setControl (.refl hal) _ _ ?_
          rfl
        · refine Bystander.drop (Bystander.setControl (Bystander.setControl (.refl hal) _ _ ?_) _ _ ?_) _
          · rfl
          · rfl
  | setCameraPresent slot present =>
    simp only [run, StableHal.setCameraPresent]
    split
    · exact .refl hal
    · split
      · exact .refl hal
      · split
        · exact .refl hal
        · split
          · refine Bystander.drop (Bystander.retire (Bystander.setControl (.refl hal) _ _ ?_) _) _
            rfl
          · refine Bystander.drop (Bystander.setControl (.refl hal) _ _ ?_) _
            rfl
  | allocateSessionIdentity =>
    simp only [run, StableHal.allocateSessionIdentity]
    split
    · exact .refl hal
    · exact ⟨rfl, rfl, fun _ => rfl⟩
  | notifyStreamsConfigured slot owner width height fps =>
    simp only [run, StableHal.notifyStreamsConfigured]
    split
    · exact .refl hal
    · split
      · exact .refl hal
      · refine Bystander.drop (Bystander.setControl ?_ _ _ ?_) _
        · exact ⟨rfl, rfl, fun _ => rfl⟩
        · rfl
  | notifyCameraClosed slot owner configurationToken =>
    simp only [run, StableHal.notifyCameraClosed]
    split
    · exact .refl hal
    · split
      · exact .refl hal
      · refine Bystander.drop (Bystander.setControl (.refl hal) _ _ ?_) _
        rfl

theorem run_provider (hal : StableHal) (op : ControlOp) : (op.run hal).provider = hal.provider := by
  cases silent : op.publishes with
  | false => exact (op.bystander hal silent).provider
  | true =>
    cases op with
    | setCallback callback version =>
      have standing := revokeSlots_standing hal (List.finRange kMaxVirtualCameras)
      have cases := setCallback_cases hal callback version
      generalize (List.finRange kMaxVirtualCameras).foldl revokeSlot hal = revoked at standing cases
      simp only [run]
      rcases cases with refused | ⟨ver, ⟨same, kept⟩ | ⟨present, differs, replaced⟩⟩
      · rw [refused]
      · rw [kept]
      · rw [replaced]
        exact standing
    | registerProducer slot descriptor owner =>
      simp only [run, StableHal.registerProducer]
      split
      · rfl
      · split
        · rfl
        · split <;> rfl
    | removeProducer slot registration owner =>
      simp only [run, StableHal.removeProducer]
      split
      · rfl
      · split
        · rfl
        · split
          · rfl
          · exact (revokeSlot_standing hal _).1
    | _ => cases silent

theorem descriptors (hal : StableHal) (op : ControlOp) : DescriptorMove hal op (op.run hal) := by
  cases silent : op.publishes with
  | false =>
    have bystander := op.bystander hal silent
    refine .kept (.inl bystander.callback) bystander.capabilities ?_
    cases op <;> simp [publishes] at silent <;> rfl
  | true =>
    cases op with
    | setCallback callback version => exact setCallback_descriptors hal callback version
    | registerProducer slot descriptor owner => exact registerProducer_descriptors hal slot descriptor owner
    | removeProducer slot registration owner => exact removeProducer_descriptors hal slot registration owner
    | _ => cases silent

end ControlOp

theorem HalEvent.bystander (world : HalWorld) (event : HalEvent) (silent : event.publishes = false) :
    Bystander world.hal (world.perform event).hal := by
  rcases world.perform_evolves event with ⟨op, rfl, same⟩ | ⟨_, quiet | ⟨_, _, _, _, control⟩⟩
  · rw [same]
    exact op.bystander world.hal silent
  · exact .of_control quiet.control
  · exact .of_control control

end VirtualCamera
