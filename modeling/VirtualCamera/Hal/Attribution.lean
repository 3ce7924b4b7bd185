import VirtualCamera.Hal.Configurations
import VirtualCamera.Hal.DescriptorMoves

set_option autoImplicit false

namespace VirtualCamera

open Descriptors Runs StableHal

def HalEvent.sends (hal : StableHal) : HalEvent → Option (Binder × HalMessage)
  | .control (.notifyStreamsConfigured slot owner width height fps) =>
    (hal.notifyStreamsConfigured slot owner width height fps).2.1
  | .control (.notifyCameraClosed slot owner configurationToken) =>
    (hal.notifyCameraClosed slot owner configurationToken).1
  | _ => none

namespace StableHal

structure Counted (hal : StableHal) : Prop where
  natural : 0 ≤ hal.nextIdentity
  issued : ∀ slot, (hal.slots slot).configuration ≤ hal.nextIdentity

structure Attributed (hal : StableHal) (slot : Slot) (registration token : Int) : Prop where
  positive : 0 < token
  issued : token ≤ hal.nextIdentity
  only : ∀ other, (hal.slots other).configuration = token →
    other = slot ∧ (hal.slots slot).capabilities.any (·.registration == registration) = true

variable {hal after : StableHal} {op : ControlOp} {slot : Slot} {registration token : Int}

theorem Attributed.of_control (attributed : hal.Attributed slot registration token)
    (control : after.control = hal.control) :
    after.Attributed slot registration token := by
  have slots : after.slots = hal.slots := congrArg Control.slots control
  have next : after.nextIdentity = hal.nextIdentity := congrArg Control.nextIdentity control
  exact ⟨attributed.positive, next ▸ attributed.issued, slots ▸ attributed.only⟩

theorem Counted.of_control (counted : hal.Counted) (control : after.control = hal.control) : after.Counted := by
  have slots : after.slots = hal.slots := congrArg Control.slots control
  have next : after.nextIdentity = hal.nextIdentity := congrArg Control.nextIdentity control
  exact ⟨next ▸ counted.natural, fun slot => slots ▸ next ▸ counted.issued slot⟩

theorem run_configuration (counted : hal.Counted) (op : ControlOp) (slot : Slot) :
    (((op.run hal).slots slot).configuration = (hal.slots slot).configuration ∧
        ((op.run hal).slots slot).capabilities = (hal.slots slot).capabilities) ∨
      ((op.run hal).slots slot).configuration = 0 ∨
      ((op.run hal).slots slot).configuration = hal.nextIdentity + 1 ∧
        (op.run hal).nextIdentity = hal.nextIdentity + 1 := by
  cases op.moves hal counted.natural slot with
  | same slots => exact .inl (by simp [slots])
  | cleared clears => exact .inr (.inl clears.configuration)
  | readied chosen positive okay slots => exact .inl (by simp [slots])
  | configured owner width height fps chosen issued positive slots next => exact .inr (.inr (by simp [slots, next]))

theorem Counted.run (counted : hal.Counted) (op : ControlOp) : (op.run hal).Counted where
  natural := counted.natural.trans (op.nextIdentity_le hal)
  issued slot := by
    have grown := op.nextIdentity_le hal
    rcases run_configuration counted op slot with ⟨same, _⟩ | none | ⟨new, next⟩
    · exact same ▸ (counted.issued slot).trans grown
    · exact none ▸ counted.natural.trans grown
    · rw [new, next]

theorem Attributed.run (attributed : hal.Attributed slot registration token) (counted : hal.Counted)
    (op : ControlOp) :
    (op.run hal).Attributed slot registration token where
  positive := attributed.positive
  issued := attributed.issued.trans (op.nextIdentity_le hal)
  only other current := by
    have positive := attributed.positive
    have issued := attributed.issued
    rcases run_configuration counted op other with ⟨same, kept⟩ | none | ⟨new, _⟩
    · obtain ⟨rfl, registered⟩ := attributed.only other (same.symm.trans current)
      exact ⟨rfl, kept ▸ registered⟩
    · omega
    · omega

theorem configured_sends {binder : Binder} {index owner width height fps width' height' fps' : Int}
    (counted : hal.Counted)
    (sends : (hal.notifyStreamsConfigured index owner width' height' fps').2.1 =
      some (binder, .streamsConfiguredForProducer slot registration token width height fps)) :
    hal.nextIdentity < token ∧
      (hal.notifyStreamsConfigured index owner width' height' fps').2.2.Attributed slot registration token := by
  unfold notifyStreamsConfigured at sends ⊢
  split at sends
  next => cases sends
  next chosen valid =>
    dsimp only at sends ⊢
    split at sends
    next => cases sends
    next fits =>
      obtain ⟨cb, _, same⟩ := Option.map_eq_some_iff.mp sends
      have message := (Prod.mk.inj same).2
      rw [if_neg fits]
      obtain ⟨rfl, rfl, caps, registered, rfl⟩ : chosen = slot ∧ hal.nextIdentity + 1 = token ∧
          ∃ caps, (hal.slots chosen).capabilities = some caps ∧ caps.registration = registration := by
        split at message
        next caps registered =>
          split at message <;> cases message
          exact ⟨rfl, rfl, caps, registered, rfl⟩
        next => cases message
      refine ⟨Int.lt_succ _, Int.lt_add_one_of_le counted.natural, ?_, fun other current => ?_⟩
      · rw [dropLatestLocked_nextIdentity]
        exact le_rfl
      · rw [dropLatestLocked_slots] at current ⊢
        by_cases same : other = chosen
        next =>
          subst same
          exact ⟨rfl, by simp [setControl_self, registered]⟩
        next =>
          rw [setControl_other _ same] at current
          have := counted.issued other
          change (hal.slots other).configuration = _ at current
          omega

theorem run_callback (hal : StableHal) (op : ControlOp) :
    (op.run hal).callback = hal.callback ∨
      ∃ callback version, op = .setCallback callback version ∧ (op.run hal).callback = callback := by
  cases op with
  | setCallback callback version =>
    simp only [ControlOp.run]
    rcases setCallback_cases hal callback version with refused | ⟨ver, ⟨_, kept⟩ | ⟨_, _, replaced⟩⟩
    · exact .inl (by rw [refused])
    · exact .inr ⟨callback, version, rfl, by rw [kept]⟩
    · exact .inr ⟨callback, version, rfl, by rw [replaced]⟩
  | registerProducer slot descriptor owner =>
    refine .inl ?_
    simp only [ControlOp.run, registerProducer]
    split
    next => rfl
    next =>
      split
      next => rfl
      next => split <;> rfl
  | removeProducer slot registration owner =>
    refine .inl ?_
    simp only [ControlOp.run, removeProducer]
    split
    next => rfl
    next slot valid =>
      split
      next => rfl
      next =>
        split
        next => rfl
        next => exact (revokeSlot_standing hal slot).2
  | _ => exact .inl (ControlOp.bystander hal _ rfl).callback

theorem setConfigurationReady_ok {ready : Bool} (okay : (hal.setConfigurationReady slot token ready).1 = .ok) :
    (hal.slots slot).configuration = token ∧
      ((hal.setConfigurationReady slot token ready).2.slots slot).ready = ready ∧
      ∀ other, other ≠ slot → (hal.setConfigurationReady slot token ready).2.slots other = hal.slots other := by
  unfold setConfigurationReady at *
  simp only [validSlot_coe] at *
  split at okay
  next => cases okay
  next current =>
    have configured : (hal.slots slot).configuration = token := by
      by_contra other
      exact current (.inr (.inl other))
    rw [if_neg current]
    cases ready with
    | true => exact ⟨configured, by simp [setControl_self], fun other apart => by simp [setControl_other _ apart]⟩
    | false =>
      refine ⟨configured, ?_, fun other apart => ?_⟩
      · simp [dropLatestLocked_slots, setControl_self]
      · simp [dropLatestLocked_slots, setControl_other _ apart]

end StableHal

namespace HalWorld

variable {world : HalWorld} {event : HalEvent} {slot : Slot} {registration token width height fps : Int}
    {binder : Binder}

theorem counted_perform (counted : world.hal.Counted) (event : HalEvent) : (world.perform event).hal.Counted := by
  rcases world.perform_evolves event with ⟨op, rfl, runs⟩ | ⟨_, quiet | ⟨_, _, _, _, control⟩⟩
  · exact runs ▸ counted.run op
  · exact counted.of_control quiet.control
  · exact counted.of_control control

theorem attributed_perform (attributed : world.hal.Attributed slot registration token) (counted : world.hal.Counted)
    (event : HalEvent) : (world.perform event).hal.Attributed slot registration token := by
  rcases world.perform_evolves event with ⟨op, rfl, runs⟩ | ⟨_, quiet | ⟨_, _, _, _, control⟩⟩
  · exact runs ▸ attributed.run counted op
  · exact attributed.of_control quiet.control
  · exact attributed.of_control control

theorem perform_callback (world : HalWorld) (event : HalEvent) :
    (world.perform event).hal.callback = world.hal.callback ∨
      ∃ callback version, event = .control (.setCallback callback version) ∧
        (world.perform event).hal.callback = callback := by
  rcases world.perform_evolves event with ⟨op, rfl, runs⟩ | ⟨_, quiet | ⟨_, _, _, _, control⟩⟩
  · rw [runs]
    rcases run_callback world.hal op with same | ⟨callback, version, rfl, given⟩
    · exact .inl same
    · exact .inr ⟨callback, version, rfl, given⟩
  · exact .inl (congrArg Control.callback quiet.control)
  · exact .inl (congrArg Control.callback control)

theorem sends_callback {message : HalMessage} (sends : event.sends world.hal = some (binder, message)) :
    world.hal.callback = some binder := by
  cases event with
  | control op =>
    cases op with
    | notifyStreamsConfigured index owner width' height' fps' =>
      simp only [HalEvent.sends, StableHal.notifyStreamsConfigured] at sends
      split at sends
      next => cases sends
      next chosen valid =>
        split at sends
        next => cases sends
        next =>
          obtain ⟨cb, present, same⟩ := Option.map_eq_some_iff.mp sends
          cases same
          rwa [(dropLatestLocked_standing _ chosen).2] at present
    | notifyCameraClosed index owner configurationToken =>
      simp only [HalEvent.sends, StableHal.notifyCameraClosed] at sends
      split at sends
      next => cases sends
      next =>
        split at sends
        next => cases sends
        next =>
          obtain ⟨cb, present, same⟩ := Option.map_eq_some_iff.mp sends
          cases same
          rwa [(dropLatestLocked_standing _ _).2] at present
    | _ => cases sends
  | _ => cases sends

theorem attributed_sends (counted : world.hal.Counted)
    (sends : event.sends world.hal = some (binder, .streamsConfiguredForProducer slot registration token width height fps)) :
    world.hal.nextIdentity < token ∧ (world.perform event).hal.Attributed slot registration token := by
  cases event with
  | control op =>
    cases op with
    | notifyStreamsConfigured index owner width' height' fps' => exact configured_sends counted sends
    | notifyCameraClosed index owner configurationToken =>
      simp only [HalEvent.sends, StableHal.notifyCameraClosed] at sends
      split at sends
      next => cases sends
      next =>
        split at sends
        next => cases sends
        next =>
          obtain ⟨cb, _, same⟩ := Option.map_eq_some_iff.mp sends
          split at same
          next =>
            split at same <;> cases (Prod.mk.inj same).2
          next => cases (Prod.mk.inj same).2
    | _ => cases sends
  | _ => cases sends

end HalWorld

end VirtualCamera
