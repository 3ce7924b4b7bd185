import VirtualCamera.Hal.DescriptorMoves

set_option autoImplicit false

namespace VirtualCamera

namespace StableHal

variable {hal before middle after : StableHal}

structure Retired (before after : StableHal) (slot : Slot) : Prop where
  fresh : before.nextIdentity < (after.slots slot).sessionOwner
  bounded : (after.slots slot).sessionOwner ≤ after.nextIdentity
  closed : (after.slots slot).ownerClosed = true
  configuration : (after.slots slot).configuration = 0

inductive OwnerMove (hal : StableHal) (op : ControlOp) (slot : Slot) (after : StableHal) : Prop where
  | kept (owner : (after.slots slot).sessionOwner = (hal.slots slot).sessionOwner)
      (closed : (after.slots slot).ownerClosed = (hal.slots slot).ownerClosed)
      (configuration : (after.slots slot).configuration = (hal.slots slot).configuration ∨
        (after.slots slot).configuration = 0)
      (capabilities : ∀ descriptor, (hal.slots slot).capabilities = some descriptor →
        (after.slots slot).capabilities = some descriptor)
  | closed (owner : (after.slots slot).sessionOwner = (hal.slots slot).sessionOwner)
      (closed : (after.slots slot).ownerClosed = true) (configuration : (after.slots slot).configuration = 0)
      (capabilities : (after.slots slot).capabilities = (hal.slots slot).capabilities)
  | retired (retired : Retired hal after slot)
  | configured (owner width height fps : Int)
      (chosen : op = .notifyStreamsConfigured (slot : Nat) owner width height fps) (positive : 0 < owner)
      (permitted : (hal.slots slot).sessionOwner < owner ∨
        (hal.slots slot).sessionOwner = owner ∧ (hal.slots slot).ownerClosed = false)
      (reply : (hal.notifyStreamsConfigured (slot : Nat) owner width height fps).1 = hal.nextIdentity + 1)
      (owned : (after.slots slot).sessionOwner = owner) (opened : (after.slots slot).ownerClosed = false)
      (configuration : (after.slots slot).configuration = hal.nextIdentity + 1)
      (capabilities : (after.slots slot).capabilities = (hal.slots slot).capabilities)
      (next : after.nextIdentity = hal.nextIdentity + 1)

theorem OwnerMove.same {op : ControlOp} {slot : Slot} (slots : after.slots slot = hal.slots slot) :
    OwnerMove hal op slot after := by
  refine .kept ?_ ?_ (.inl ?_) fun descriptor held => ?_
  · rw [slots]
  · rw [slots]
  · rw [slots]
  · rwa [slots]

theorem retireOwner_retired (slot : Slot) (room : (hal.retireOwner slot).nextIdentity < int64Max) :
    (hal.retireOwner slot).nextIdentity = hal.nextIdentity + 1 ∧
      (hal.retireOwner slot).slots slot = { hal.slots slot with sessionOwner := hal.nextIdentity + 1 } := by
  unfold retireOwner at room ⊢
  split
  next =>
    refine ⟨rfl, ?_⟩
    simp [setControl]
  next full =>
    rw [if_neg full] at room
    exact absurd room full

theorem revokeSlot_retired (slot : Slot) (room : (hal.revokeSlot slot).nextIdentity < int64Max) :
    Retired hal (hal.revokeSlot slot) slot := by
  obtain ⟨next, slots⟩ := retireOwner_retired slot room
  rw [dropLatestLocked_nextIdentity] at next slots
  rw [dropLatestLocked_slots, setControl_self] at slots
  refine ⟨?_, ?_, ?_, ?_⟩ <;> rw [revokeSlot, slots]
  · exact Int.lt_succ hal.nextIdentity
  · exact next.ge

theorem revokeSlots_retired (hal : StableHal) (slots : List Slot) (slot : Slot)
    (room : (slots.foldl revokeSlot hal).nextIdentity < int64Max) :
    (slots.foldl revokeSlot hal).slots slot = hal.slots slot ∧ slot ∉ slots ∨
      Retired hal (slots.foldl revokeSlot hal) slot := by
  induction slots generalizing hal with
  | nil => exact .inl ⟨rfl, List.not_mem_nil⟩
  | cons first slots ih =>
    have once := revokeSlot_nextIdentity hal first
    have rest := revokeSlots_nextIdentity (hal.revokeSlot first) slots
    have retired : Retired hal _ first := revokeSlot_retired first (rest.trans_lt room)
    rcases ih (hal.revokeSlot first) room with ⟨kept, absent⟩ | later
    · by_cases same : slot = first
      · subst same
        refine .inr ⟨?_, ?_, ?_, ?_⟩ <;> rw [List.foldl_cons, kept]
        · exact retired.fresh
        · exact retired.bounded.trans rest
        · exact retired.closed
        · exact retired.configuration
      · refine .inl ⟨?_, by simp [same, absent]⟩
        rw [List.foldl_cons, kept, revokeSlot_other hal same]
    · exact .inr ⟨once.trans_lt later.fresh, later.bounded, later.closed, later.configuration⟩

variable {op : ControlOp} {slot : Slot}

theorem setCallback_owns (callback : Option Binder) (version : Option Int) (slot : Slot)
    (room : (hal.setCallback callback version).2.2.nextIdentity < int64Max) :
    OwnerMove hal (.setCallback callback version) slot (hal.setCallback callback version).2.2 := by
  have retired := revokeSlots_retired hal (List.finRange kMaxVirtualCameras) slot
  have cases := setCallback_cases hal callback version
  generalize (List.finRange kMaxVirtualCameras).foldl revokeSlot hal = revoked at retired cases
  rcases cases with refused | ⟨ver, ⟨same, kept⟩ | ⟨present, differs, replaced⟩⟩
  · rw [refused]
    exact .same rfl
  · rw [kept]
    exact .same rfl
  · rw [replaced] at room ⊢
    rcases retired room with ⟨_, absent⟩ | retired
    · exact absurd (List.mem_finRange slot) absent
    · exact .retired ⟨retired.fresh, retired.bounded, retired.closed, retired.configuration⟩

theorem registerProducer_owns (index : Int) (descriptor : ProducerCapabilities) (owner : Option Binder)
    (slot : Slot) : OwnerMove hal (.registerProducer index descriptor owner) slot
      (hal.registerProducer index descriptor owner).2.2 := by
  unfold registerProducer
  split
  · exact .same rfl
  next chosen _ =>
    split
    · exact .same rfl
    · split
      · exact .same rfl
      next vacant =>
        by_cases same : slot = chosen
        · subst same
          refine .kept ?_ ?_ (.inr ?_) fun descriptor held => ?_
          · rw [setControl_self]
          · rw [setControl_self]
          · rw [setControl_self]
          · simp [held] at vacant
        · exact .same (setControl_other hal same _)

theorem removeProducer_owns (index registration : Int) (owner : Option Binder) (slot : Slot)
    (room : (hal.removeProducer index registration owner).2.2.nextIdentity < int64Max) :
    OwnerMove hal (.removeProducer index registration owner) slot
      (hal.removeProducer index registration owner).2.2 := by
  unfold removeProducer at room ⊢
  split
  · exact .same rfl
  next chosen valid =>
    rw [valid] at room
    split
    · exact .same rfl
    next owned =>
      simp only [if_neg owned] at room
      split
      · exact .same rfl
      next held =>
        rw [if_neg held] at room
        by_cases same : slot = chosen
        · subst same
          exact .retired (revokeSlot_retired slot room)
        · exact .same (revokeSlot_other hal same)

theorem setConfigurationReady_owns (index token : Int) (ready : Bool) (slot : Slot) :
    OwnerMove hal (.setConfigurationReady index token ready) slot
      (hal.setConfigurationReady index token ready).2 := by
  unfold setConfigurationReady
  split
  · exact .same rfl
  next chosen _ =>
    dsimp only
    split
    · exact .same rfl
    · by_cases same : slot = chosen
      · subst same
        split
        · refine .kept ?_ ?_ (.inl ?_) fun descriptor held => ?_ <;> rw [setControl_self]
          exact held
        · refine .kept ?_ ?_ (.inr ?_) fun descriptor held => ?_ <;>
            rw [dropLatestLocked_slots, setControl_self]
          exact held
      · split
        · exact .same (setControl_other hal same _)
        · refine .same ?_
          rw [dropLatestLocked_slots, setControl_other _ same, setControl_other _ same]

theorem setCameraPresent_owns (index : Int) (present : Bool) (slot : Slot)
    (room : (hal.setCameraPresent index present).2.nextIdentity < int64Max) :
    OwnerMove hal (.setCameraPresent index present) slot (hal.setCameraPresent index present).2 := by
  unfold setCameraPresent at room ⊢
  split
  · exact .same rfl
  next chosen valid =>
    rw [valid] at room
    split
    · exact .same rfl
    next alone =>
      simp only [if_neg alone] at room
      split
      · exact .same rfl
      next leaves =>
        rw [if_neg leaves] at room
        dsimp only at room ⊢
        by_cases owned : 0 < (hal.slots chosen).sessionOwner
        · rw [if_pos owned] at room ⊢
          rw [dropLatestLocked_nextIdentity] at room
          obtain ⟨next, slots⟩ := retireOwner_retired chosen room
          rw [setControl_self] at slots
          by_cases same : slot = chosen
          · subst same
            refine .retired ⟨?_, ?_, ?_, ?_⟩ <;> rw [dropLatestLocked_slots, slots]
            · exact Int.lt_succ hal.nextIdentity
            · rw [dropLatestLocked_nextIdentity]
              exact next.ge
          · refine .same ?_
            rw [dropLatestLocked_slots, retireOwner_other _ same, setControl_other _ same]
        · rw [if_neg owned]
          by_cases same : slot = chosen
          · subst same
            refine .closed ?_ ?_ ?_ ?_ <;> rw [dropLatestLocked_slots, setControl_self]
          · refine .same ?_
            rw [dropLatestLocked_slots, setControl_other _ same]

theorem notifyStreamsConfigured_owns (index owner width height fps : Int) (slot : Slot) :
    OwnerMove hal (.notifyStreamsConfigured index owner width height fps) slot
      (hal.notifyStreamsConfigured index owner width height fps).2.2 := by
  cases valid : validSlot index with
  | none =>
    refine .same ?_
    simp only [notifyStreamsConfigured, valid]
  | some chosen =>
    by_cases refused : owner ≤ 0 ∨ owner < (hal.slots chosen).sessionOwner ∨
        (owner = (hal.slots chosen).sessionOwner ∧ (hal.slots chosen).ownerClosed = true) ∨
          hal.nextIdentity = int64Max
    · refine .same ?_
      simp only [notifyStreamsConfigured, valid, if_pos refused]
    · by_cases same : slot = chosen
      · subst same
        obtain rfl := validSlot_eq_some valid
        refine .configured owner width height fps rfl (by omega) ?_ ?_ ?_ ?_ ?_ ?_ ?_
        · cases closed : (hal.slots slot).ownerClosed with
          | true =>
            simp only [closed, and_true] at refused
            omega
          | false =>
            simp only [and_true]
            omega
        all_goals simp only [notifyStreamsConfigured, valid, if_neg refused, dropLatestLocked_slots,
          dropLatestLocked_nextIdentity, setControl_self]
        rfl
      · refine .same ?_
        simp only [notifyStreamsConfigured, valid, if_neg refused]
        rw [dropLatestLocked_slots, setControl_other _ same]

theorem notifyCameraClosed_owns (index owner configurationToken : Int) (slot : Slot) :
    OwnerMove hal (.notifyCameraClosed index owner configurationToken) slot
      (hal.notifyCameraClosed index owner configurationToken).2 := by
  unfold notifyCameraClosed
  split
  · exact .same rfl
  next chosen _ =>
    dsimp only
    split
    · exact .same rfl
    · by_cases same : slot = chosen
      · subst same
        refine .closed ?_ ?_ ?_ ?_ <;> rw [dropLatestLocked_slots, setControl_self]
      · refine .same ?_
        rw [dropLatestLocked_slots, setControl_other _ same]

end StableHal

open StableHal in
theorem ControlOp.owns (hal : StableHal) (op : ControlOp) (slot : Slot)
    (room : (op.run hal).nextIdentity < int64Max) : OwnerMove hal op slot (op.run hal) := by
  cases op with
  | setCallback callback version => exact setCallback_owns callback version slot room
  | registerProducer index descriptor owner => exact registerProducer_owns index descriptor owner slot
  | removeProducer index registration owner => exact removeProducer_owns index registration owner slot room
  | setConfigurationReady index token ready => exact setConfigurationReady_owns index token ready slot
  | setCameraPresent index present => exact setCameraPresent_owns index present slot room
  | allocateSessionIdentity =>
    refine .same ?_
    simp only [run, StableHal.allocateSessionIdentity]
    split <;> rfl
  | notifyStreamsConfigured index owner width height fps =>
    exact notifyStreamsConfigured_owns index owner width height fps slot
  | notifyCameraClosed index owner configurationToken =>
    exact notifyCameraClosed_owns index owner configurationToken slot

def ControlOp.revokes (hal : StableHal) (slot : Slot) : ControlOp → Bool
  | .setCallback callback version =>
    (hal.setCallback callback version).1 == .ok && hal.callback.isSome && hal.callback != callback
  | .removeProducer index registration owner =>
    validSlot index == some slot && (hal.removeProducer index registration owner).1 == .ok
  | _ => false

open StableHal in
theorem ControlOp.revokes_retired {hal : StableHal} {op : ControlOp} {slot : Slot}
    (revokes : op.revokes hal slot = true) (room : (op.run hal).nextIdentity < int64Max) :
    Retired hal (op.run hal) slot := by
  cases op with
  | setCallback callback version =>
    simp only [ControlOp.revokes, Bool.and_eq_true, beq_iff_eq, bne_iff_ne] at revokes
    obtain ⟨⟨okay, present⟩, differs⟩ := revokes
    change (hal.setCallback callback version).2.2.nextIdentity < int64Max at room
    change Retired hal (hal.setCallback callback version).2.2 slot
    have retired := revokeSlots_retired hal (List.finRange kMaxVirtualCameras) slot
    have cases := setCallback_cases hal callback version
    generalize (List.finRange kMaxVirtualCameras).foldl revokeSlot hal = revoked at retired cases
    rcases cases with refused | ⟨ver, ⟨same, _⟩ | ⟨_, _, replaced⟩⟩
    · simp [refused] at okay
    · rcases same with absent | same
      · simp [absent] at present
      · exact absurd same differs
    · rw [replaced] at room ⊢
      rcases retired room with ⟨_, absent⟩ | retired
      · exact absurd (List.mem_finRange slot) absent
      · exact ⟨retired.fresh, retired.bounded, retired.closed, retired.configuration⟩
  | removeProducer index registration owner =>
    simp only [ControlOp.revokes, Bool.and_eq_true, beq_iff_eq] at revokes
    obtain ⟨valid, okay⟩ := revokes
    change (hal.removeProducer index registration owner).2.2.nextIdentity < int64Max at room
    change Retired hal (hal.removeProducer index registration owner).2.2 slot
    simp only [StableHal.removeProducer, valid] at okay room ⊢
    split at okay
    next => cases okay
    next owned =>
      split at okay
      next => cases okay
      next held =>
        rw [if_neg owned, if_neg held] at room ⊢
        exact revokeSlot_retired slot room
  | _ => cases revokes

end VirtualCamera
