import VirtualCamera.Hal.Operations

set_option autoImplicit false

namespace VirtualCamera

open Descriptors

namespace StableHal

variable {hal before middle after : StableHal}

-- A slot that loses its configuration keeps an owner, so that no untokened frame returns.
structure Clears (before after : StableHal) (slot : Slot) : Prop where
  configuration : (after.slots slot).configuration = 0
  owner : 0 < (before.slots slot).sessionOwner → 0 < (after.slots slot).sessionOwner

inductive SlotMove (hal : StableHal) (op : ControlOp) (slot : Slot) (after : StableHal) : Prop where
  | same (slots : after.slots slot = hal.slots slot)
  | cleared (clears : Clears hal after slot)
  | readied (chosen : op = .setConfigurationReady (slot : Nat) (hal.slots slot).configuration true)
      (positive : 0 < (hal.slots slot).configuration)
      (okay : (hal.setConfigurationReady (slot : Nat) (hal.slots slot).configuration true).1 = .ok)
      (slots : after.slots slot = { hal.slots slot with ready := true })
  | configured (owner width height fps : Int)
      (chosen : op = .notifyStreamsConfigured (slot : Nat) owner width height fps)
      (issued : op.issued hal = some (slot, hal.nextIdentity + 1)) (positive : 0 < owner)
      (slots : after.slots slot = { hal.slots slot with
        sessionOwner := owner
        ownerClosed := false
        configuration := hal.nextIdentity + 1
        ready := (hal.slots slot).capabilities.isNone
        sourceWidth := width
        sourceHeight := height })
      (next : after.nextIdentity = hal.nextIdentity + 1)

@[simp] theorem dropLatestLocked_slots (hal : StableHal) (slot : Slot) :
    (hal.dropLatestLocked slot).slots = hal.slots :=
  congrArg Control.slots (dropLatestLocked_control hal slot)

@[simp] theorem dropLatestLocked_nextIdentity (hal : StableHal) (slot : Slot) :
    (hal.dropLatestLocked slot).nextIdentity = hal.nextIdentity :=
  congrArg Control.nextIdentity (dropLatestLocked_control hal slot)

theorem setControl_self (hal : StableHal) (slot : Slot) (control : SlotControl) :
    (hal.setControl slot control).slots slot = control := Function.update_self _ _ _

theorem setControl_other (hal : StableHal) {slot other : Slot} (differs : other ≠ slot)
    (control : SlotControl) : (hal.setControl slot control).slots other = hal.slots other :=
  Function.update_of_ne differs _ _

theorem retireOwner_nextIdentity (hal : StableHal) (slot : Slot) :
    hal.nextIdentity ≤ (hal.retireOwner slot).nextIdentity := by
  unfold retireOwner
  split
  · change hal.nextIdentity ≤ hal.nextIdentity + 1
    omega
  · exact le_rfl

theorem retireOwner_slots (hal : StableHal) (natural : 0 ≤ hal.nextIdentity) (slot : Slot) :
    ((hal.retireOwner slot).slots slot).configuration = (hal.slots slot).configuration ∧
      (0 < (hal.slots slot).sessionOwner → 0 < ((hal.retireOwner slot).slots slot).sessionOwner) := by
  unfold retireOwner
  split
  · simp only [setControl, Function.update_self, true_and]
    omega
  · exact ⟨rfl, id⟩

theorem retireOwner_other (hal : StableHal) {slot other : Slot} (differs : other ≠ slot) :
    (hal.retireOwner slot).slots other = hal.slots other := by
  unfold retireOwner
  split
  · exact setControl_other hal differs _
  · rfl

theorem revokeSlot_nextIdentity (hal : StableHal) (slot : Slot) :
    hal.nextIdentity ≤ (hal.revokeSlot slot).nextIdentity := by
  have retired := retireOwner_nextIdentity ((hal.setControl slot
    { hal.slots slot with
      configuration := 0, ownerClosed := true, ready := false, capabilities := none }).dropLatestLocked
    slot) slot
  rw [dropLatestLocked_nextIdentity] at retired
  exact retired

theorem revokeSlot_clears (hal : StableHal) (natural : 0 ≤ hal.nextIdentity) (slot : Slot) :
    Clears hal (hal.revokeSlot slot) slot := by
  have retired := retireOwner_slots ((hal.setControl slot
    { hal.slots slot with
      configuration := 0, ownerClosed := true, ready := false, capabilities := none }).dropLatestLocked
    slot) (by rw [dropLatestLocked_nextIdentity]; exact natural) slot
  rw [dropLatestLocked_slots, setControl_self] at retired
  exact ⟨retired.1, retired.2⟩

theorem revokeSlot_other (hal : StableHal) {slot other : Slot} (differs : other ≠ slot) :
    (hal.revokeSlot slot).slots other = hal.slots other := by
  rw [revokeSlot, retireOwner_other _ differs, dropLatestLocked_slots, setControl_other _ differs]

theorem revokeSlots_nextIdentity (hal : StableHal) (slots : List Slot) :
    hal.nextIdentity ≤ (slots.foldl revokeSlot hal).nextIdentity := by
  induction slots generalizing hal with
  | nil => exact le_rfl
  | cons slot slots ih => exact (revokeSlot_nextIdentity hal slot).trans (ih _)

theorem revokeSlots_clears (hal : StableHal) (natural : 0 ≤ hal.nextIdentity) (slots : List Slot)
    (slot : Slot) : (slots.foldl revokeSlot hal).slots slot = hal.slots slot ∧ slot ∉ slots ∨
      Clears hal (slots.foldl revokeSlot hal) slot := by
  induction slots generalizing hal with
  | nil => exact .inl ⟨rfl, List.not_mem_nil⟩
  | cons first slots ih =>
    have later := ih (hal.revokeSlot first) (natural.trans (revokeSlot_nextIdentity hal first))
    by_cases same : slot = first
    · subst same
      have cleared := revokeSlot_clears hal natural slot
      rcases later with ⟨kept, _⟩ | ⟨configuration, owner⟩
      · refine .inr ⟨?_, fun owned => ?_⟩
        · rw [List.foldl_cons, kept]
          exact cleared.configuration
        · rw [List.foldl_cons, kept]
          exact cleared.owner owned
      · exact .inr ⟨configuration, fun owned => owner (cleared.owner owned)⟩
    · rw [revokeSlot_other hal same] at later
      rcases later with ⟨kept, absent⟩ | ⟨configuration, owner⟩
      · exact .inl ⟨kept, by simp [same, absent]⟩
      · refine .inr ⟨configuration, fun owned => owner ?_⟩
        rwa [revokeSlot_other hal same]

theorem SlotMove.of_clears {op : ControlOp} {slot : Slot} (index : Slot)
    (others : slot ≠ index → after.slots slot = hal.slots slot) (clears : Clears hal after index) :
    SlotMove hal op slot after := by
  by_cases same : slot = index
  · exact .cleared (same ▸ clears)
  · exact .same (others same)

theorem Clears.of_control {index : Slot} {control : SlotControl}
    (slots : after.slots = (hal.setControl index control).slots) (clear : control.configuration = 0)
    (owner : control.sessionOwner = (hal.slots index).sessionOwner) : Clears hal after index := by
  refine ⟨?_, fun owned => ?_⟩
  · rw [slots, setControl_self, clear]
  · rwa [slots, setControl_self, owner]

theorem Clears.drop {index : Slot} (clears : Clears hal middle index) (slot : Slot) :
    Clears hal (middle.dropLatestLocked slot) index := by
  refine ⟨?_, ?_⟩
  · rw [dropLatestLocked_slots]
    exact clears.configuration
  · rw [dropLatestLocked_slots]
    exact clears.owner

theorem setCallback_moves (natural : 0 ≤ hal.nextIdentity) (callback : Option Binder)
    (version : Option Int) (slot : Slot) : SlotMove hal (.setCallback callback version) slot
      (hal.setCallback callback version).2.2 := by
  simp only [setCallback]
  generalize (if callback.isSome = true then version.getD 1 else 0) = ver
  split
  · exact .same rfl
  · dsimp only
    split
    · have cleared := revokeSlots_clears hal natural (List.finRange kMaxVirtualCameras) slot
      generalize (List.finRange kMaxVirtualCameras).foldl revokeSlot hal = revoked at cleared
      rcases cleared with ⟨kept, _⟩ | clears
      · exact .same kept
      · exact .cleared ⟨clears.configuration, clears.owner⟩
    · exact .same rfl

theorem registerProducer_moves (slot : Int) (descriptor : ProducerCapabilities) (owner : Option Binder)
    (index : Slot) : SlotMove hal (.registerProducer slot descriptor owner) index
      (hal.registerProducer slot descriptor owner).2.2 := by
  unfold registerProducer
  split
  · exact .same rfl
  next chosen _ =>
    split
    · exact .same rfl
    · split
      · exact .same rfl
      · refine .of_clears chosen (fun differs => setControl_other hal differs _) ?_
        exact .of_control rfl rfl rfl

theorem removeProducer_moves (natural : 0 ≤ hal.nextIdentity) (slot registration : Int)
    (owner : Option Binder) (index : Slot) : SlotMove hal (.removeProducer slot registration owner) index
      (hal.removeProducer slot registration owner).2.2 := by
  unfold removeProducer
  split
  · exact .same rfl
  next chosen _ =>
    split
    · exact .same rfl
    · split
      · exact .same rfl
      · exact .of_clears chosen (fun differs => revokeSlot_other hal differs) (revokeSlot_clears hal natural chosen)

theorem setConfigurationReady_moves (slot token : Int) (ready : Bool) (index : Slot) :
    SlotMove hal (.setConfigurationReady slot token ready) index
      (hal.setConfigurationReady slot token ready).2 := by
  have accepts : ∀ chosen, validSlot slot = some chosen →
      ¬ (token ≤ 0 ∨ (hal.slots chosen).configuration ≠ token ∨
        (hal.slots chosen).capabilities.isNone = true ∨ (hal.slots chosen).ownerClosed = true) →
      (hal.setConfigurationReady slot token true).1 = .ok := by
    intro chosen valid fits
    simp only [setConfigurationReady, valid, if_neg fits, if_true]
  unfold setConfigurationReady
  split
  · exact .same rfl
  next chosen valid =>
    dsimp only
    split
    · exact .same rfl
    next fits =>
      have okay := accepts chosen valid fits
      simp only [not_or, not_le, not_not] at fits
      split
      next isReady =>
        by_cases same : index = chosen
        · subst same
          obtain ⟨positive, rfl, _⟩ := fits
          rw [validSlot_eq_some valid] at okay
          refine .readied ?_ positive okay ?_
          · rw [validSlot_eq_some valid, isReady]
          · simp only [isReady]
            exact setControl_self hal index _
        · exact .same (setControl_other hal same _)
      next =>
        refine .of_clears chosen (fun differs => ?_) (Clears.drop ?_ chosen)
        · rw [dropLatestLocked_slots, setControl_other _ differs, setControl_other _ differs]
        · refine ⟨?_, fun owned => ?_⟩
          · rw [setControl_self]
          · rwa [setControl_self]

theorem setCameraPresent_moves (natural : 0 ≤ hal.nextIdentity) (slot : Int) (present : Bool)
    (index : Slot) : SlotMove hal (.setCameraPresent slot present) index
      (hal.setCameraPresent slot present).2 := by
  unfold setCameraPresent
  split
  · exact .same rfl
  next chosen _ =>
    split
    · exact .same rfl
    · split
      · exact .same rfl
      · dsimp only
        have retired := retireOwner_slots (hal.setControl chosen
          { hal.slots chosen with configuration := 0, ready := false, ownerClosed := true }) natural chosen
        rw [setControl_self] at retired
        split
        · refine .of_clears chosen (fun differs => ?_) (Clears.drop ⟨retired.1, retired.2⟩ chosen)
          rw [dropLatestLocked_slots, retireOwner_other _ differs, setControl_other _ differs]
        · refine .of_clears chosen (fun differs => ?_) (Clears.drop ?_ chosen)
          · rw [dropLatestLocked_slots, setControl_other _ differs]
          · exact .of_control rfl rfl rfl

theorem notifyStreamsConfigured_moves (natural : 0 ≤ hal.nextIdentity) (slot owner width height fps : Int)
    (index : Slot) : SlotMove hal (.notifyStreamsConfigured slot owner width height fps) index
      (hal.notifyStreamsConfigured slot owner width height fps).2.2 := by
  have issues : ∀ chosen, validSlot slot = some chosen →
      ¬ (owner ≤ 0 ∨ owner < (hal.slots chosen).sessionOwner ∨
        (owner = (hal.slots chosen).sessionOwner ∧ (hal.slots chosen).ownerClosed = true) ∨
          hal.nextIdentity = int64Max) →
      (ControlOp.notifyStreamsConfigured slot owner width height fps).issued hal =
        some (chosen, hal.nextIdentity + 1) := by
    intro chosen valid fits
    simp only [ControlOp.issued, valid, Option.bind_some, notifyStreamsConfigured, if_neg fits]
    rw [if_neg (by omega)]
  unfold notifyStreamsConfigured
  split
  · exact .same rfl
  next chosen valid =>
    dsimp only
    split
    · exact .same rfl
    next fits =>
      have issued := issues chosen valid fits
      by_cases same : index = chosen
      · subst same
        refine .configured owner width height fps (by rw [validSlot_eq_some valid]) issued (by omega) ?_ ?_
        · rw [dropLatestLocked_slots, setControl_self]
        · rw [dropLatestLocked_nextIdentity]
          rfl
      · refine .same ?_
        rw [dropLatestLocked_slots, setControl_other _ same]

theorem notifyCameraClosed_moves (slot owner configurationToken : Int) (index : Slot) :
    SlotMove hal (.notifyCameraClosed slot owner configurationToken) index
      (hal.notifyCameraClosed slot owner configurationToken).2 := by
  unfold notifyCameraClosed
  split
  · exact .same rfl
  next chosen _ =>
    dsimp only
    split
    · exact .same rfl
    · refine .of_clears chosen (fun differs => ?_) (Clears.drop ?_ chosen)
      · rw [dropLatestLocked_slots, setControl_other _ differs]
      · exact .of_control rfl rfl rfl

end StableHal

open StableHal in
theorem ControlOp.moves (hal : StableHal) (natural : 0 ≤ hal.nextIdentity) (op : ControlOp)
    (slot : Slot) : SlotMove hal op slot (op.run hal) := by
  cases op with
  | setCallback callback version => exact setCallback_moves natural callback version slot
  | registerProducer index descriptor owner => exact registerProducer_moves index descriptor owner slot
  | removeProducer index registration owner =>
    exact removeProducer_moves natural index registration owner slot
  | setConfigurationReady index token ready => exact setConfigurationReady_moves index token ready slot
  | setCameraPresent index present => exact setCameraPresent_moves natural index present slot
  | allocateSessionIdentity =>
    refine .same ?_
    simp only [run, StableHal.allocateSessionIdentity]
    split <;> rfl
  | notifyStreamsConfigured index owner width height fps =>
    exact notifyStreamsConfigured_moves natural index owner width height fps slot
  | notifyCameraClosed index owner configurationToken =>
    exact notifyCameraClosed_moves index owner configurationToken slot

namespace StableHal

variable {hal : StableHal}

theorem revokeSlot_gone (hal : StableHal) (slot : Slot) : ((hal.revokeSlot slot).latest slot).Gone :=
  (retireOwner_sweeps _ slot).passes.gone slot (dropLatestLocked_gone _ slot)

theorem revokeSlots_gone (hal : StableHal) (slots : List Slot) (slot : Slot) (member : slot ∈ slots) :
    ((slots.foldl revokeSlot hal).latest slot).Gone := by
  induction slots generalizing hal with
  | nil => cases member
  | cons first slots ih =>
    rcases List.mem_cons.mp member with rfl | later
    · exact (revokeSlots_sweeps _ slots).passes.gone slot (revokeSlot_gone hal slot)
    · exact ih _ later

theorem retireOwner_owner (hal : StableHal) (natural : 0 ≤ hal.nextIdentity) (slot : Slot)
    (room : hal.nextIdentity < int64Max) : 0 < ((hal.retireOwner slot).slots slot).sessionOwner := by
  simp only [retireOwner, if_pos room, setControl, Function.update_self]
  omega

theorem revokeSlot_owner (hal : StableHal) (natural : 0 ≤ hal.nextIdentity) (slot : Slot)
    (room : hal.nextIdentity < int64Max) : 0 < ((hal.revokeSlot slot).slots slot).sessionOwner := by
  refine retireOwner_owner _ ?_ slot ?_
  · rw [dropLatestLocked_nextIdentity]
    exact natural
  · rw [dropLatestLocked_nextIdentity]
    exact room

theorem revokeSlots_owner (hal : StableHal) (natural : 0 ≤ hal.nextIdentity) (slots : List Slot)
    (slot : Slot) (member : slot ∈ slots) (room : (slots.foldl revokeSlot hal).nextIdentity < int64Max) :
    0 < ((slots.foldl revokeSlot hal).slots slot).sessionOwner := by
  induction slots generalizing hal with
  | nil => cases member
  | cons first slots ih =>
    have once := revokeSlot_nextIdentity hal first
    rcases List.mem_cons.mp member with rfl | later
    · have rest := revokeSlots_nextIdentity (hal.revokeSlot slot) slots
      have owned := revokeSlot_owner hal natural slot ((once.trans rest).trans_lt room)
      rw [List.foldl_cons]
      rcases revokeSlots_clears (hal.revokeSlot slot) (natural.trans once) slots slot with
        ⟨kept, _⟩ | clears
      · rwa [kept]
      · exact clears.owner owned
    · exact ih _ (natural.trans once) later room

end StableHal

open StableHal

namespace ControlOp

variable {hal : StableHal}

theorem nextIdentity_le (hal : StableHal) (op : ControlOp) :
    hal.nextIdentity ≤ (op.run hal).nextIdentity := by
  cases op with
  | setCallback callback version =>
    simp only [run, StableHal.setCallback]
    generalize (if callback.isSome = true then version.getD 1 else 0) = ver
    split
    · exact le_rfl
    · dsimp only
      split
      · exact revokeSlots_nextIdentity hal _
      · exact le_rfl
  | registerProducer slot descriptor owner =>
    simp only [run, StableHal.registerProducer]
    split
    · exact le_rfl
    · split
      · exact le_rfl
      · split <;> exact le_rfl
  | removeProducer slot registration owner =>
    simp only [run, StableHal.removeProducer]
    split
    · exact le_rfl
    · split
      · exact le_rfl
      · split
        · exact le_rfl
        · exact revokeSlot_nextIdentity hal _
  | setConfigurationReady slot token ready =>
    simp only [run, StableHal.setConfigurationReady]
    split
    · exact le_rfl
    · split
      · exact le_rfl
      · split
        · exact le_rfl
        · rw [dropLatestLocked_nextIdentity]
          exact le_rfl
  | setCameraPresent slot present =>
    simp only [run, StableHal.setCameraPresent]
    split
    · exact le_rfl
    · split
      · exact le_rfl
      · split
        · exact le_rfl
        · rw [dropLatestLocked_nextIdentity]
          split
          · exact retireOwner_nextIdentity _ _
          · exact le_rfl
  | allocateSessionIdentity =>
    simp only [run, StableHal.allocateSessionIdentity]
    split
    · exact le_rfl
    · change hal.nextIdentity ≤ hal.nextIdentity + 1
      omega
  | notifyStreamsConfigured slot owner width height fps =>
    simp only [run, StableHal.notifyStreamsConfigured]
    split
    · exact le_rfl
    · split
      · exact le_rfl
      · rw [dropLatestLocked_nextIdentity]
        change hal.nextIdentity ≤ hal.nextIdentity + 1
        omega
  | notifyCameraClosed slot owner configurationToken =>
    simp only [run, StableHal.notifyCameraClosed]
    split
    · exact le_rfl
    · split
      · exact le_rfl
      · rw [dropLatestLocked_nextIdentity]
        exact le_rfl

theorem issued_eq {op : ControlOp} {slot : Slot} {token : Int} (issued : op.issued hal = some (slot, token)) :
    token = hal.nextIdentity + 1 ∧ (op.run hal).nextIdentity = token := by
  cases op with
  | notifyStreamsConfigured index owner width height fps =>
    simp only [ControlOp.issued] at issued
    cases valid : validSlot index with
    | none => simp [valid] at issued
    | some chosen =>
      simp only [valid, Option.bind_some] at issued
      by_cases fits : owner ≤ 0 ∨ owner < (hal.slots chosen).sessionOwner ∨
          (owner = (hal.slots chosen).sessionOwner ∧ (hal.slots chosen).ownerClosed = true) ∨
            hal.nextIdentity = int64Max
      · simp [StableHal.notifyStreamsConfigured, valid, fits] at issued
      · simp only [StableHal.notifyStreamsConfigured, valid, if_neg fits] at issued
        simp only [run, StableHal.notifyStreamsConfigured, valid, if_neg fits,
          dropLatestLocked_nextIdentity]
        split at issued
        next => cases issued
        next =>
          obtain ⟨_, rfl⟩ : chosen = slot ∧ hal.nextIdentity + 1 = token := by simpa using issued
          exact ⟨rfl, rfl⟩
  | _ => cases issued

def reopens (hal : StableHal) : ControlOp → Bool
  | .setCameraPresent _ _ => true
  | op => decide (int64Max ≤ (op.run hal).nextIdentity)

structure Reset (hal : StableHal) (op : ControlOp) (slot : Slot) : Prop where
  gone : ((op.run hal).latest slot).Gone
  configuration : ((op.run hal).slots slot).configuration = 0 ∨
    ((op.run hal).slots slot).configuration = hal.nextIdentity + 1
  owner : (0 < (hal.slots slot).configuration → 0 < (hal.slots slot).sessionOwner) →
    op.reopens hal = false → 0 < ((op.run hal).slots slot).sessionOwner

theorem Reset.drop {op : ControlOp} {slot : Slot} {middle : StableHal}
    (shape : op.run hal = middle.dropLatestLocked slot)
    (configuration : (middle.slots slot).configuration = 0 ∨
      (middle.slots slot).configuration = hal.nextIdentity + 1)
    (owner : (0 < (hal.slots slot).configuration → 0 < (hal.slots slot).sessionOwner) →
      op.reopens hal = false → 0 < (middle.slots slot).sessionOwner) : Reset hal op slot := by
  refine ⟨?_, ?_, ?_⟩
  · rw [shape]
    exact dropLatestLocked_gone middle slot
  · rwa [shape, dropLatestLocked_slots]
  · rwa [shape, dropLatestLocked_slots]

theorem setCallback_reset (natural : 0 ≤ hal.nextIdentity) (callback : Option Binder)
    (version : Option Int) (slot : Slot)
    (resets : (ControlOp.setCallback callback version).resets hal slot = true) :
    Reset hal (.setCallback callback version) slot := by
  simp only [ControlOp.resets, Bool.and_eq_true] at resets
  obtain ⟨⟨okay, present⟩, differs⟩ := resets
  have replaced : (hal.callback.isSome && hal.callback != callback) = true := by simp [present, differs]
  have gone := revokeSlots_gone hal _ slot (List.mem_finRange slot)
  have cleared := revokeSlots_clears hal natural (List.finRange kMaxVirtualCameras) slot
  have owned := revokeSlots_owner hal natural _ slot (List.mem_finRange slot)
  have shape : ((ControlOp.setCallback callback version).run hal).latest =
        ((List.finRange kMaxVirtualCameras).foldl revokeSlot hal).latest ∧
      ((ControlOp.setCallback callback version).run hal).slots =
        ((List.finRange kMaxVirtualCameras).foldl revokeSlot hal).slots ∧
      ((ControlOp.setCallback callback version).run hal).nextIdentity =
        ((List.finRange kMaxVirtualCameras).foldl revokeSlot hal).nextIdentity := by
    simp only [run, StableHal.setCallback] at okay ⊢
    generalize (if callback.isSome = true then version.getD 1 else 0) = ver at okay ⊢
    generalize (List.finRange kMaxVirtualCameras).foldl revokeSlot hal = revoked at okay ⊢
    split at okay
    next => cases okay
    next allowed =>
      rw [if_neg allowed, if_pos replaced]
      exact ⟨rfl, rfl, rfl⟩
  generalize (List.finRange kMaxVirtualCameras).foldl revokeSlot hal = revoked at gone cleared owned shape
  obtain ⟨latest, slots, identity⟩ := shape
  refine ⟨?_, ?_, fun _ kept => ?_⟩
  · rw [latest]
    exact gone
  · rw [slots]
    rcases cleared with ⟨_, absent⟩ | clears
    · exact absurd (List.mem_finRange slot) absent
    · exact .inl clears.configuration
  · rw [slots]
    exact owned (by simpa [reopens, identity] using kept)

theorem removeProducer_reset (natural : 0 ≤ hal.nextIdentity) (index registration : Int)
    (owner : Option Binder) (slot : Slot)
    (resets : (ControlOp.removeProducer index registration owner).resets hal slot = true) :
    Reset hal (.removeProducer index registration owner) slot := by
  simp only [ControlOp.resets, Bool.and_eq_true, beq_iff_eq] at resets
  obtain ⟨valid, okay⟩ := resets
  have shape : (ControlOp.removeProducer index registration owner).run hal = hal.revokeSlot slot := by
    simp only [run, StableHal.removeProducer, valid] at okay ⊢
    split at okay
    next => cases okay
    next owned =>
      rw [if_neg owned]
      split at okay
      next => cases okay
      next held => rw [if_neg held]
  refine ⟨?_, ?_, fun _ kept => ?_⟩
  · rw [shape]
    exact revokeSlot_gone hal slot
  · rw [shape]
    exact .inl (revokeSlot_clears hal natural slot).configuration
  · have once := revokeSlot_nextIdentity hal slot
    simp only [reopens, shape, decide_eq_false_iff_not, not_le] at kept
    rw [shape]
    exact revokeSlot_owner hal natural slot (once.trans_lt kept)

theorem setConfigurationReady_reset (index token : Int) (ready : Bool) (slot : Slot)
    (resets : (ControlOp.setConfigurationReady index token ready).resets hal slot = true) :
    Reset hal (.setConfigurationReady index token ready) slot := by
  simp only [ControlOp.resets, Bool.and_eq_true, beq_iff_eq, Bool.not_eq_true'] at resets
  obtain ⟨⟨valid, rfl⟩, okay⟩ := resets
  have current : ¬ (token ≤ 0 ∨ (hal.slots slot).configuration ≠ token ∨
      (hal.slots slot).capabilities.isNone = true ∨ (hal.slots slot).ownerClosed = true) := by
    intro stale
    simp only [StableHal.setConfigurationReady, valid, if_pos stale] at okay
    cases okay
  have shape : (ControlOp.setConfigurationReady index token false).run hal =
      ((hal.setControl slot { hal.slots slot with ready := false }).setControl slot
        { hal.slots slot with ready := false, configuration := 0 }).dropLatestLocked slot := by
    simp only [run, StableHal.setConfigurationReady, valid, if_neg current]
    rfl
  refine .drop shape (.inl (by rw [setControl_self])) fun owned _ => ?_
  rw [setControl_self]
  refine owned ?_
  rw [not_or, not_or, not_not] at current
  omega

theorem setCameraPresent_reset (natural : 0 ≤ hal.nextIdentity) (index : Int) (present : Bool)
    (slot : Slot) (resets : (ControlOp.setCameraPresent index present).resets hal slot = true) :
    Reset hal (.setCameraPresent index present) slot := by
  simp only [ControlOp.resets, Bool.and_eq_true, beq_iff_eq, Bool.not_eq_true'] at resets
  obtain ⟨⟨valid, rfl⟩, okay⟩ := resets
  have retired := (retireOwner_slots (hal.setControl slot
    { hal.slots slot with configuration := 0, ready := false, ownerClosed := true }) natural slot).1
  rw [setControl_self] at retired
  have shape : (ControlOp.setCameraPresent index false).run hal =
      (if 0 < (hal.slots slot).sessionOwner then (hal.setControl slot
        { hal.slots slot with configuration := 0, ready := false, ownerClosed := true }).retireOwner slot
      else hal.setControl slot
        { hal.slots slot with configuration := 0, ready := false, ownerClosed := true }).dropLatestLocked
        slot := by
    simp only [run, StableHal.setCameraPresent, valid] at okay ⊢
    split at okay
    next => cases okay
    next alone =>
      rw [if_neg alone]
      rfl
  refine .drop shape (.inl ?_) fun _ kept => by simp [reopens] at kept
  split
  · exact retired
  · rw [setControl_self]

theorem notifyStreamsConfigured_reset (index owner width height fps : Int) (slot : Slot)
    (resets : (ControlOp.notifyStreamsConfigured index owner width height fps).resets hal slot = true) :
    Reset hal (.notifyStreamsConfigured index owner width height fps) slot := by
  simp only [ControlOp.resets, issued] at resets
  cases valid : validSlot index with
  | none => simp [valid] at resets
  | some chosen =>
    simp only [valid, Option.bind_some] at resets
    by_cases fits : owner ≤ 0 ∨ owner < (hal.slots chosen).sessionOwner ∨
        (owner = (hal.slots chosen).sessionOwner ∧ (hal.slots chosen).ownerClosed = true) ∨
          hal.nextIdentity = int64Max
    · simp [StableHal.notifyStreamsConfigured, valid, fits] at resets
    · simp only [StableHal.notifyStreamsConfigured, valid, if_neg fits] at resets
      split at resets
      next => simp at resets
      next =>
        obtain rfl : chosen = slot := by simpa using resets
        have shape : (ControlOp.notifyStreamsConfigured index owner width height fps).run hal =
            ({ hal with nextIdentity := hal.nextIdentity + 1 }.setControl chosen
              { hal.slots chosen with
                sessionOwner := owner
                ownerClosed := false
                configuration := hal.nextIdentity + 1
                ready := (hal.slots chosen).capabilities.isNone
                sourceWidth := width
                sourceHeight := height }).dropLatestLocked chosen := by
          simp only [run, StableHal.notifyStreamsConfigured, valid, if_neg fits]
        refine .drop shape (.inr (by rw [setControl_self])) fun _ _ => ?_
        rw [setControl_self]
        change 0 < owner
        omega

theorem notifyCameraClosed_reset (index owner configurationToken : Int) (slot : Slot)
    (resets : (ControlOp.notifyCameraClosed index owner configurationToken).resets hal slot = true) :
    Reset hal (.notifyCameraClosed index owner configurationToken) slot := by
  simp only [ControlOp.resets, Bool.and_eq_true, beq_iff_eq, decide_eq_true_eq] at resets
  obtain ⟨valid, named, positive, owned, current⟩ := resets
  have shape : (ControlOp.notifyCameraClosed index owner configurationToken).run hal =
      (hal.setControl slot { hal.slots slot with
        configuration := 0, ready := false, ownerClosed := true }).dropLatestLocked slot := by
    simp only [run, StableHal.notifyCameraClosed, valid]
    rw [if_neg (by omega)]
  refine .drop shape (.inl (by rw [setControl_self])) fun _ _ => ?_
  rw [setControl_self]
  change 0 < (hal.slots slot).sessionOwner
  omega

theorem resets_reset (natural : 0 ≤ hal.nextIdentity) (op : ControlOp) (slot : Slot)
    (resets : op.resets hal slot = true) : Reset hal op slot := by
  cases op with
  | setCallback callback version => exact setCallback_reset natural callback version slot resets
  | registerProducer index descriptor owner => simp [ControlOp.resets, issued] at resets
  | removeProducer index registration owner =>
    exact removeProducer_reset natural index registration owner slot resets
  | setConfigurationReady index token ready => exact setConfigurationReady_reset index token ready slot resets
  | setCameraPresent index present => exact setCameraPresent_reset natural index present slot resets
  | allocateSessionIdentity => simp [ControlOp.resets, issued] at resets
  | notifyStreamsConfigured index owner width height fps =>
    exact notifyStreamsConfigured_reset index owner width height fps slot resets
  | notifyCameraClosed index owner configurationToken =>
    exact notifyCameraClosed_reset index owner configurationToken slot resets

end ControlOp

end VirtualCamera
