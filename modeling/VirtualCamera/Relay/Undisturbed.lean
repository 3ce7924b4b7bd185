import VirtualCamera.Relay.RelayInvariants

set_option autoImplicit false

namespace VirtualCamera

open Descriptors Runs

def Relay.Bound (relay : Relay) (queue : RelayQueue) (handle : HalHandle) : Prop :=
  relay.connectionEpoch = queue.connection → relay.hal = some handle

namespace RelayWorld

structure Undisturbed (before after : RelayWorld) : Prop where
  connection : (after.relay.hal = before.relay.hal ∧ after.relay.connectionEpoch = before.relay.connectionEpoch) ∨
    after.relay.connectionEpoch = 0 ∨ before.relay.nextConnectionEpoch < after.relay.connectionEpoch
  queues : ∀ slot queue, after.relay.slots slot = some queue → before.relay.slots slot = some queue ∨
    queue.held = none
  busy : ∀ slot generation handle item, before.gates slot = some (.submitted generation handle item) →
    after.gates slot = before.gates slot ∧ after.relay.slots slot = before.relay.slots slot
  handles : ∀ slot work handle, after.gates slot = some work → work.handle = some handle →
    after.relay.slots slot = before.relay.slots slot ∧
      (before.gates slot = some work ∨
        (∃ before', before.gates slot = some before' ∧ before'.handle = some handle ∧
          ∀ generation handle item, work ≠ .submitted generation handle item) ∨
        ∃ queue generation, before.relay.slots slot = some queue ∧ work = .snapshot generation handle ∧
          before.relay.connectionEpoch = queue.connection ∧ before.relay.hal = some handle)

variable {before after : RelayWorld} {slot : Slot}

theorem Undisturbed.of_globals (gates : after.gates = before.gates) (slots : after.relay.slots = before.relay.slots)
    (connection : (after.relay.hal = before.relay.hal ∧
        after.relay.connectionEpoch = before.relay.connectionEpoch) ∨
      after.relay.connectionEpoch = 0 ∨ before.relay.nextConnectionEpoch < after.relay.connectionEpoch) :
    Undisturbed before after where
  connection := connection
  queues _ _ found := .inl (slots ▸ found)
  busy slot _ _ _ _ := ⟨congrFun gates slot, congrFun slots slot⟩
  handles slot _ _ found _ := ⟨congrFun slots slot, .inl (gates ▸ found)⟩

theorem Undisturbed.of_gate {work : Option GateWork} (gates : after.gates = Function.update before.gates slot work)
    (hal : after.relay.hal = before.relay.hal) (epoch : after.relay.connectionEpoch = before.relay.connectionEpoch)
    (queues : ∀ queue, after.relay.slots slot = some queue → before.relay.slots slot = some queue ∨ queue.held = none)
    (others : ∀ other, other ≠ slot → after.relay.slots other = before.relay.slots other)
    (free : ∀ generation handle item, before.gates slot ≠ some (.submitted generation handle item))
    (handles : ∀ next handle, work = some next → next.handle = some handle →
      after.relay.slots slot = before.relay.slots slot ∧
        (∀ generation handle item, next ≠ .submitted generation handle item) ∧
        ((∃ before', before.gates slot = some before' ∧ before'.handle = some handle) ∨
          ∃ queue generation, before.relay.slots slot = some queue ∧ next = .snapshot generation handle ∧
            before.relay.connectionEpoch = queue.connection ∧ before.relay.hal = some handle)) :
    Undisturbed before after where
  connection := .inl ⟨hal, epoch⟩
  queues other queue found := by
    by_cases same : other = slot
    next =>
      subst same
      exact queues queue found
    next => exact .inl (others other same ▸ found)
  busy other generation handle item waits := by
    by_cases same : other = slot
    next =>
      subst same
      exact absurd waits (free generation handle item)
    next => exact ⟨by rw [gates, Function.update_of_ne same], others other same⟩
  handles other next handle found stands := by
    by_cases same : other = slot
    next =>
      subst same
      rw [gates, Function.update_self] at found
      obtain ⟨slots, unsubmitted, from' | snapshot⟩ := handles next handle found stands
      · obtain ⟨before', held, same⟩ := from'
        exact ⟨slots, .inr (.inl ⟨before', held, same, unsubmitted⟩)⟩
      · exact ⟨slots, .inr (.inr snapshot)⟩
    next =>
      rw [gates, Function.update_of_ne same] at found
      exact ⟨others other same, .inl found⟩

theorem Undisturbed.gated (slot : Slot) (work : Option GateWork)
    (free : ∀ generation handle item, before.gates slot ≠ some (.submitted generation handle item))
    (unhandled : ∀ next, work = some next → next.handle = none) : Undisturbed before (before.gate slot work) := by
  refine .of_gate rfl rfl rfl (fun _ found => .inl found) (fun _ _ => rfl) free fun next handle same stands => ?_
  rw [unhandled next same] at stands
  cases stands

theorem Undisturbed.abandoned (slot : Slot) (work : Option GateWork)
    (free : ∀ generation handle item, before.gates slot ≠ some (.submitted generation handle item))
    (unhandled : ∀ next, work = some next → next.handle = none) :
    Undisturbed before ((before.withRelay (before.relay.abandonQueueLocked slot)).gate slot work) := by
  refine .of_gate rfl rfl rfl (fun queue found => ?_) (fun other elsewhere => ?_) free fun next handle same stands => ?_
  · simp [withRelay, gate] at found
  · simp [withRelay, gate, Relay.abandonQueueLocked, Function.update_of_ne elsewhere]
  · rw [unhandled next same] at stands
    cases stands

theorem undisturbed_step {label : RelayLabel} (sound : Sound before) (other : label.submits = false)
    (next : Step before label after) : Undisturbed before after := by
  cases step_moves before label after next with
  | noted => exact .of_globals rfl rfl (.inl ⟨rfl, rfl⟩)
  | lost => exact .of_globals rfl rfl (.inr (.inl rfl))
  | connected => exact .of_globals rfl rfl (.inr (.inr (Nat.lt_succ_self _)))
  | released slot queue free =>
    have cleared : Undisturbed before _ := .abandoned slot none (by simp [free]) (by simp)
    have unmoved := gate_self (before.withRelay (before.relay.abandonQueueLocked slot)) slot none free
    rwa [unmoved] at cleared
  | created slot epoch token free checked =>
    refine .of_gate rfl rfl rfl (fun _ found => .inl found) (fun _ _ => rfl) (by simp [free]) ?_
    intro next handle same stands
    cases same
    cases stands
  | listening slot queue free =>
    refine .gated slot _ (by simp [free]) fun next same => ?_
    cases same
    rfl
  | advanced slot work next held creating listener uncleared taken unsubmitted =>
    obtain ⟨free, unsubmitted⟩ := unsubmitted other
    refine .of_gate rfl rfl rfl (fun _ found => .inl found) (fun _ _ => rfl) free ?_
    intro _ handle same stands
    cases same
    exact ⟨rfl, unsubmitted, (taken handle stands).imp_left fun kept => ⟨work, held, kept⟩⟩
  | cleared slot queue named held =>
    refine .abandoned slot _ (by simp [held]) fun next same => ?_
    cases same
    rfl
  | installed slot queue named held installable =>
    have fresh := (sound.working slot _ held).creating queue rfl
    have home := fresh.installed.home
    refine .of_gate rfl rfl rfl (fun found there => ?_) (fun other elsewhere => ?_) (by simp [held]) (by simp)
    · simp only [withRelay, gate, Relay.setQueue_slots, home, Function.update_self] at there
      cases there
      exact .inr fresh.unheld
    · simp [withRelay, gate, home, Function.update_of_ne elsewhere]
  | committed _ _ _ _ named =>
    subst named
    cases other
  | dropped _ _ named =>
    subst named
    cases other
  | idle slot unsubmitted => exact .gated slot none (unsubmitted other) (by simp)

end RelayWorld

end VirtualCamera
