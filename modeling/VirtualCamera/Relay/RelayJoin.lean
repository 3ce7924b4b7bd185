import Mathlib.Data.Bool.Basic
import Mathlib.Data.Prod.Lex
import VirtualCamera.Relay.RelayInvariants
import VirtualCamera.Shared.Joins

set_option autoImplicit false

namespace VirtualCamera

open Descriptors Joins Runs

-- A close is above the configure that it closes, and below every later token.
abbrev Stage := ℤ ×ₗ Bool

def stage (token : Int) (closed : Bool) : Stage := toLex (token, closed)

theorem stage_lt_iff (token token' : Int) (closed closed' : Bool) :
    stage token closed < stage token' closed' ↔
      token < token' ∨ (token = token' ∧ closed = false ∧ closed' = true) := by
  rw [stage, stage, Prod.Lex.toLex_lt_toLex, Bool.lt_iff]

namespace Relay

variable (relay : Relay)

def stage (slot : Slot) : Stage := VirtualCamera.stage (relay.configurations slot).token
    (relay.configurations slot).closed

theorem admitEvent_of_current (epoch : Epoch) (slot : Slot) (token : Int) (closed : Bool) (registration : Int)
    (alive : relay.hal.isSome = true) (current : relay.connectionEpoch = epoch)
    (registered : relay.registrations slot = registration) (positive : 0 < registration) (issued : 0 < token) :
    relay.admitEvent epoch slot token closed registration =
      if relay.stage slot < VirtualCamera.stage token closed then
        (true, { relay with configurations := Function.update relay.configurations slot { token, closed } })
      else (false, relay) := by
  have connected : ¬ (token ≤ 0 ∨ relay.hal = none ∨ relay.connectionEpoch ≠ epoch) := by
    rw [not_or, not_or]
    exact ⟨by omega, Option.isSome_iff_ne_none.mp alive, not_not.mpr current⟩
  have matching : ¬ (6 ≤ relay.halVersion ∧ (registration ≤ 0 ∨ relay.registrations slot ≠ registration)) := by
    rintro ⟨_, negative | other⟩
    · omega
    · exact other registered
  simp only [admitEvent, validSlot_coe, if_neg connected, if_neg matching]
  cases state : relay.configurations slot with
  | mk last ended =>
    by_cases raises : relay.stage slot < VirtualCamera.stage token closed
    next =>
      rw [if_pos raises, if_neg]
      rw [stage, state, stage_lt_iff] at raises
      grind
    next =>
      rw [if_neg raises, if_pos]
      rw [stage, state, stage_lt_iff] at raises
      grind

end Relay

namespace RelayWorld

variable {world after : RelayWorld}

theorem configurations_step (label : RelayLabel) : Step world label after →
    match label with
    | .connect hal version => after.relay = (world.relay.connect hal version).2
    | .admitEvent connection slot token closed registration =>
      after.relay = (world.relay.admitEvent connection slot token closed registration).2
    | .remove hal slot registration => after.relay = (world.relay.removing hal slot registration).2
    | _ => after.relay.configurations = world.relay.configurations := by
  intro next
  have move := step_moves world label after next
  cases label with
  | connect hal version =>
    simp only [Step, perform] at next
    split at next <;> cases next
    rfl
  | admitEvent | remove =>
    cases next
    rfl
  | _ =>
    cases move with
    | noted _ _ _ _ _ _ _ settled => exact settled rfl
    | connected _ _ _ named => cases named
    | _ => rfl

structure Within (epoch : Epoch) (slot : Slot) (registration : Int) (world : RelayWorld) : Prop where
  alive : world.relay.hal.isSome = true
  current : world.relay.connectionEpoch = epoch
  registered : world.relay.registrations slot = registration
  positive : 0 < registration

def StepWithin (epoch : Epoch) (slot : Slot) (registration : Int) (world : RelayWorld) (label : RelayLabel)
    (after : RelayWorld) : Prop :=
  Step world label after ∧ Within epoch slot registration world ∧ Within epoch slot registration after

def lifecycleEvent (epoch : Epoch) (slot : Slot) (registration : Int) : RelayLabel → Option Stage
  | .admitEvent connection place token closed registered =>
    if connection = epoch ∧ validSlot place = some slot ∧ registered = registration ∧ 0 < token then
      some (stage token closed)
    else none
  | _ => none

variable {epoch : Epoch} {slot : Slot} {registration : Int}

theorem stage_passes (sound : Sound world) (label : RelayLabel)
    (within : StepWithin epoch slot registration world label after)
    (other : lifecycleEvent epoch slot registration label = none) :
    after.relay.stage slot = world.relay.stage slot := by
  obtain ⟨next, before, still⟩ := within
  have moved := configurations_step label next
  have untouched (same : after.relay.configurations slot = world.relay.configurations slot) :
      after.relay.stage slot = world.relay.stage slot := by simp only [Relay.stage, same]
  cases label
  case connect hal version =>
    have renewed : world.relay.nextConnectionEpoch + 1 = epoch := by
      rw [← still.current, moved]
      rfl
    exact absurd sound.connected.issued (by rw [before.current, ← renewed]; exact Nat.not_succ_le_self _)
  case admitEvent connection place token closed registered =>
    rcases world.relay.admitEvent_cases connection place token closed registered with
      same | ⟨found, valid, issued, current, matching, admitted⟩
    · exact untouched (by rw [moved, same])
    · apply untouched
      rw [moved, admitted]
      refine Function.update_of_ne (fun here => ?_) _ _
      subst here
      have registered := (matching (sound.connected.version before.alive)).symm.trans before.registered
      simp only [lifecycleEvent, if_pos (show connection = epoch ∧ validSlot place = some slot ∧ _ ∧ 0 < token from
        ⟨current.symm.trans before.current, valid, registered, issued⟩)] at other
      cases other
  case remove hal place removed =>
    apply untouched
    rw [moved]
    unfold Relay.removing at moved ⊢
    split
    next => rfl
    next found valid =>
      simp only [valid] at moved
      split
      next => rfl
      next matching =>
        rw [if_neg matching] at moved
        refine Function.update_of_ne (fun here => ?_) _ _
        subst here
        have gone := still.registered
        have positive := still.positive
        rw [moved] at gone
        simp at gone
        omega
  all_goals exact untouched (congrFun moved slot)

theorem stage_joins (label : RelayLabel) (within : StepWithin epoch slot registration world label after)
    (added : Stage) (event : lifecycleEvent epoch slot registration label = some added) :
    after.relay.stage slot = max (world.relay.stage slot) added := by
  obtain ⟨next, before, _⟩ := within
  have moved := configurations_step label next
  cases label
  case admitEvent connection place token closed registered =>
    simp only [lifecycleEvent] at event
    split at event <;> cases event
    next own =>
      obtain ⟨rfl, valid, rfl, issued⟩ := own
      obtain rfl := validSlot_eq_some valid
      rw [moved, world.relay.admitEvent_of_current connection slot token closed registered before.alive before.current
        before.registered before.positive issued]
      split
      next raises =>
        rw [max_eq_right raises.le]
        simp [Relay.stage]
      next stays => rw [max_eq_left (not_lt.mp stays)]
  all_goals cases event

theorem stage_joining (epoch : Epoch) (slot : Slot) (registration : Int) :
    Joining (fun world label after => Sound world ∧ StepWithin epoch slot registration world label after)
      (fun world => world.relay.stage slot) (lifecycleEvent epoch slot registration) where
  passes _ label _ next other := stage_passes next.1 label next.2 other
  joins _ label _ added next event := stage_joins label next.2 added event

end RelayWorld

end VirtualCamera
