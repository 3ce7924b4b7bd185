import VirtualCamera.Relay.RelayWorld

set_option autoImplicit false

namespace VirtualCamera

open Descriptors Runs

namespace GateWork

def creating : GateWork → Option RelayQueue
  | .checked queue | .confirmed queue | .cleared queue => some queue
  | _ => none

def listener : GateWork → Option Nat
  | .listening generation | .snapshot generation _ | .acquired generation _ _ | .submitted generation _ _ =>
    some generation
  | _ => none

def handle : GateWork → Option HalHandle
  | .snapshot _ handle | .acquired _ handle _ | .submitted _ handle _ => some handle
  | _ => none

end GateWork

def RelayLabel.submits : RelayLabel → Bool
  | .submit .. | .reply .. => true
  | _ => false

def RelayLabel.configures : RelayLabel → Bool
  | .admitEvent .. | .remove .. => true
  | _ => false

namespace Relay

@[simp] theorem abandonQueueLocked_slots (relay : Relay) (slot : Slot) :
    (relay.abandonQueueLocked slot).slots = Function.update relay.slots slot none := rfl

@[simp] theorem setQueue_slots (relay : Relay) (queue : RelayQueue) :
    (relay.setQueue queue).slots = Function.update relay.slots queue.slot (some queue) := rfl

theorem releaseQueue_cases (relay : Relay) (slot : Int) (expected : Epoch) (configurationToken : Int) :
    relay.releaseQueue slot expected configurationToken = relay ∨
      ∃ found queue, validSlot slot = some found ∧ relay.slots found = some queue ∧
        (expected ≠ 0 → queue.connection = expected) ∧
        relay.releaseQueue slot expected configurationToken = relay.abandonQueueLocked found := by
  unfold releaseQueue
  split
  next => exact .inl rfl
  next found valid =>
    split
    next => exact .inl rfl
    next queue installed =>
      split
      next => exact .inl rfl
      next matching =>
        split
        next => exact .inl rfl
        next => exact .inr ⟨found, queue, valid, installed, by simpa using matching, rfl⟩

theorem onHalDied_cases (relay : Relay) (dead : Epoch) :
    relay.onHalDied dead = (false, relay) ∨
      (relay.onHalDied dead = (true, relay.disconnected) ∧ dead = relay.connectionEpoch) := by
  unfold onHalDied
  split
  next => exact .inl rfl
  next alive =>
    rw [not_or, not_or, not_not] at alive
    exact .inr ⟨rfl, alive.2.1⟩

theorem admitEvent_cases (relay : Relay) (connection : Epoch) (slot token : Int) (closed : Bool)
    (registration : Int) :
    relay.admitEvent connection slot token closed registration = (false, relay) ∨
      ∃ found, validSlot slot = some found ∧ 0 < token ∧ relay.connectionEpoch = connection ∧
        (6 ≤ relay.halVersion → relay.registrations found = registration) ∧
        relay.admitEvent connection slot token closed registration =
          (true, { relay with
            configurations := Function.update relay.configurations found { token, closed } }) := by
  unfold admitEvent
  split
  next => exact .inl rfl
  next found valid =>
    split
    next => exact .inl rfl
    next connected =>
      split
      next => exact .inl rfl
      next registered =>
        dsimp only
        split
        next => exact .inl rfl
        next =>
          refine .inr ⟨found, valid, ?_, ?_, fun version => ?_, rfl⟩
          · by_contra other
            exact connected (.inl (by omega))
          · by_contra other
            exact connected (.inr (.inr other))
          · by_contra other
            exact registered ⟨version, .inr other⟩

theorem creationEpoch_spec (relay : Relay) (slot : Slot) (callbackEpoch epoch : Epoch) (callbackConfiguration : Int)
    (checked : relay.creationEpoch slot callbackEpoch callbackConfiguration = some epoch) :
    epoch = relay.connectionEpoch ∧ epoch ≠ 0 ∧ relay.hal.isSome = true ∧
      (callbackEpoch ≠ 0 → callbackEpoch = epoch) ∧ (4 ≤ relay.halVersion → 0 < callbackConfiguration) := by
  unfold creationEpoch at checked
  split at checked
  next => cases checked
  next connected =>
    split at checked
    next => cases checked
    next current =>
      cases checked
      rw [not_or, not_or] at connected
      refine ⟨rfl, connected.2.1, Option.isSome_iff_ne_none.mpr connected.1, fun restored => ?_, fun version => ?_⟩
      · by_contra other
        exact connected.2.2 ⟨restored, other⟩
      · by_contra other
        exact current ⟨version, .inl (by omega)⟩

end Relay

namespace RelayWorld

-- The connection that a step works for: an argument, the connection that is being made, the queue that is being
-- created, or the queue whose listener it is. Zero is none.
def carried (world : RelayWorld) : RelayLabel → Epoch
  | .halDied dead => dead
  | .release _ expected _ => expected
  | .admitEvent connection _ _ _ _ => connection
  | .create _ _ _ callbackEpoch _ => callbackEpoch
  | .connectFailed | .connected =>
    match world.connecting with
    | some (.linking epoch _) => epoch
    | _ => 0
  | .confirm slot | .clear slot | .install slot =>
    (((world.gates slot).bind GateWork.creating).map RelayQueue.connection).getD 0
  | .frameAvailable slot _ | .snapshot slot | .acquire slot _ | .submit slot _ | .reply slot _ =>
    ((world.relay.slots slot).map RelayQueue.connection).getD 0
  | .ask | .unavailable | .connect _ _ | .register _ _ _ | .registered _ _ | .remove _ _ _ => 0

def Stale (world : RelayWorld) (label : RelayLabel) : Prop :=
  world.carried label ≠ 0 ∧ world.carried label ≠ world.relay.connectionEpoch

def Unsubmitted (world : RelayWorld) (slot : Slot) : Prop :=
  ∀ generation handle item, world.gates slot ≠ some (.submitted generation handle item)

inductive Move (world : RelayWorld) (label : RelayLabel) : RelayWorld → Prop
  | noted (connecting : Option Connecting) (waiting : List Registering) (connectionReady : Bool)
      (registrations : Slot → Int) (configurations : Slot → ConfigurationState)
      (linking : ∀ epoch hal, connecting = some (.linking epoch hal) → world.connecting = some (.linking epoch hal))
      (stale : world.Stale label → connectionReady = world.relay.connectionReady ∧
        registrations = world.relay.registrations ∧ configurations = world.relay.configurations)
      (settled : label.configures = false → configurations = world.relay.configurations) :
      Move world label
        { world with
          connecting, waiting
          relay := { world.relay with connectionReady, registrations, configurations } }
  | lost (connecting : Option Connecting)
      (linking : ∀ epoch hal, connecting = some (.linking epoch hal) → world.connecting = some (.linking epoch hal))
      (current : world.carried label = world.relay.connectionEpoch) :
      Move world label { world with relay := world.relay.disconnected, connecting }
  | connected (hal : HalHandle) (version : Int) (supported : 6 ≤ version) (named : label = .connect hal version) :
      Move world label
        { world with
          relay := (world.relay.connect hal version).2
          connecting := some (.linking (world.relay.connect hal version).1 hal) }
  | released (slot : Slot) (queue : RelayQueue) (free : world.gates slot = none)
      (installed : world.relay.slots slot = some queue)
      (matching : world.carried label ≠ 0 → queue.connection = world.carried label) :
      Move world label (world.withRelay (world.relay.abandonQueueLocked slot))
  | created (slot : Slot) (epoch : Epoch) (token : Int) (free : world.gates slot = none)
      (checked : world.relay.creationEpoch slot (world.carried label) token = some epoch) :
      Move world label ((world.withRelay (world.relay.newQueue slot epoch token).2).gate slot
        (some (.checked (world.relay.newQueue slot epoch token).1)))
  | listening (slot : Slot) (queue : RelayQueue) (free : world.gates slot = none)
      (installed : world.relay.slots slot = some queue) :
      Move world label (world.gate slot (some (.listening queue.generation)))
  | advanced (slot : Slot) (work next : GateWork) (held : world.gates slot = some work)
      (creating : next.creating = work.creating) (listener : next.listener = work.listener)
      (uncleared : ∀ queue, next ≠ .cleared queue)
      (taken : ∀ handle, next.handle = some handle → work.handle = some handle ∨
        ∃ queue generation, world.relay.slots slot = some queue ∧ next = .snapshot generation handle ∧
          world.relay.connectionEpoch = queue.connection ∧ world.relay.hal = some handle)
      (unsubmitted : label.submits = false →
        world.Unsubmitted slot ∧ ∀ generation handle item, next ≠ .submitted generation handle item) :
      Move world label (world.gate slot (some next))
  | cleared (slot : Slot) (queue : RelayQueue) (named : label = .clear slot)
      (held : world.gates slot = some (.confirmed queue)) :
      Move world label ((world.withRelay (world.relay.abandonQueueLocked slot)).gate slot (some (.cleared queue)))
  | installed (slot : Slot) (queue : RelayQueue) (named : label = .install slot)
      (held : world.gates slot = some (.cleared queue)) (installable : world.relay.installable queue = true) :
      Move world label ((world.withRelay (world.relay.setQueue queue)).gate slot none)
  | committed (slot : Slot) (queue : RelayQueue) (item : BufferItem) (reply : SubmitReply)
      (named : label = .reply slot reply) (installed : world.relay.slots slot = some queue) :
      Move world label ((world.withRelay (world.relay.setQueue { queue with held := some item })).gate slot none)
  | dropped (slot : Slot) (reply : SubmitReply) (named : label = .reply slot reply) :
      Move world label ((world.withRelay (world.relay.abandonQueueLocked slot)).gate slot none)
  | idle (slot : Slot) (unsubmitted : label.submits = false → world.Unsubmitted slot) :
      Move world label (world.gate slot none)

theorem Move.same (world : RelayWorld) (label : RelayLabel) : Move world label world :=
  .noted _ _ _ _ _ (fun _ _ => id) (fun _ => ⟨rfl, rfl, rfl⟩) fun _ => rfl

theorem gate_self (world : RelayWorld) (slot : Slot) (work : Option GateWork) (held : world.gates slot = work) :
    world.gate slot work = world := by simp [gate, ← held]

theorem create_moves (world : RelayWorld) (label : RelayLabel) (slot : Slot) (callbackConfiguration : Int)
    (free : world.gates slot = none) :
    Move world label (world.create slot (world.carried label) callbackConfiguration) := by
  unfold create
  split
  next => exact .same world _
  next epoch checked => exact .created slot epoch callbackConfiguration free checked

theorem step_moves (world : RelayWorld) (label : RelayLabel) (after : RelayWorld) (next : Step world label after) :
    Move world label after := by
  cases label <;> simp only [Step, perform] at next
  case ask =>
    split at next <;> cases next
    exact .noted _ _ _ _ _ (by simp) (fun _ => ⟨rfl, rfl, rfl⟩) fun _ => rfl
  case unavailable =>
    split at next <;> cases next
    exact .noted _ _ _ _ _ (by simp) (fun _ => ⟨rfl, rfl, rfl⟩) fun _ => rfl
  case connect hal version =>
    split at next <;> cases next
    next asked => exact .connected hal version asked.2 rfl
  case connectFailed =>
    split at next <;> cases next
    next epoch _ linking =>
      unfold Relay.connectFailed
      split
      next current =>
        refine .lost none (by simp) ?_
        rw [current, carried, linking]
      next => exact .noted _ _ _ _ _ (by simp) (fun _ => ⟨rfl, rfl, rfl⟩) fun _ => rfl
  case connected =>
    split at next <;> cases next
    next epoch hal linking =>
      unfold Relay.connected
      split
      next => exact .noted _ _ _ _ _ (by simp) (fun _ => ⟨rfl, rfl, rfl⟩) fun _ => rfl
      next current =>
        refine .noted _ _ _ _ _ (by simp) (fun stale => absurd ?_ stale.2) fun _ => rfl
        rw [not_or, not_not] at current
        rw [current.1, carried, linking]
  case halDied dead =>
    cases next
    rcases world.relay.onHalDied_cases dead with same | ⟨lost, current⟩
    · rw [same]
      exact .same world _
    · rw [lost]
      exact .lost world.connecting (fun _ _ => id) current
  case release slot expected configurationToken =>
    split at next <;> cases next
    next free =>
      rcases world.relay.releaseQueue_cases slot expected configurationToken with
        same | ⟨found, queue, valid, installed, matching, abandoned⟩
      · rw [same]
        exact .same world _
      · rw [abandoned]
        simp only [gateFree, valid, Option.isNone_iff_eq_none] at free
        exact .released found queue free installed matching
  case admitEvent connection slot token closed registration =>
    cases next
    rcases world.relay.admitEvent_cases connection slot token closed registration with
      same | ⟨_, _, _, current, _, admitted⟩
    · rw [same]
      exact .same world _
    · rw [admitted]
      exact .noted _ _ _ _ _ (fun _ _ => id) (fun stale => absurd current.symm stale.2)
        (by simp [RelayLabel.configures])
  case create slot width height callbackEpoch callbackConfiguration =>
    split at next
    next =>
      cases next
      exact .same world _
    next found _ =>
      split at next
      next =>
        cases next
        exact .same world _
      next =>
        split at next <;> cases next
        next free => exact world.create_moves (.create ..) found callbackConfiguration free
  case confirm slot =>
    split at next <;> cases next
    next queue held =>
      split
      next =>
        exact .advanced slot (.checked queue) (.confirmed queue) held rfl rfl nofun nofun fun _ =>
          ⟨by simp [Unsubmitted, held], nofun⟩
      next => exact .idle slot fun _ => by simp [Unsubmitted, held]
  case clear slot =>
    split at next <;> cases next
    next queue held => exact .cleared slot queue rfl held
  case install slot =>
    split at next <;> cases next
    next queue held =>
      split
      next installable => exact .installed slot queue rfl held installable
      next => exact .idle slot fun _ => by simp [Unsubmitted, held]
  case frameAvailable slot generation =>
    split at next <;> cases next
    next free =>
      split
      next found =>
        obtain ⟨queue, installed, same⟩ := (Option.any_eq_true ..).mp found
        rw [← beq_iff_eq.mp same]
        exact .listening slot queue free installed
      next => exact .idle slot fun _ => by simp [Unsubmitted, free]
  case snapshot slot =>
    split at next <;> cases next
    next generation queue held installed =>
      have unsubmitted : world.Unsubmitted slot := by simp [Unsubmitted, held]
      split
      next current =>
        cases alive : world.relay.hal with
        | none => exact .idle slot fun _ => unsubmitted
        | some hal =>
          refine .advanced slot (.listening generation) (.snapshot generation hal) held rfl rfl nofun
            (fun handle stands => ?_) fun _ => ⟨unsubmitted, nofun⟩
          cases stands
          exact .inr ⟨queue, generation, installed, rfl, current, alive⟩
      next => exact .idle slot fun _ => unsubmitted
  case acquire slot item =>
    split at next <;> cases next
    next generation hal held =>
      have unsubmitted : world.Unsubmitted slot := by simp [Unsubmitted, held]
      cases item with
      | none => exact .idle slot fun _ => unsubmitted
      | some item =>
        exact .advanced slot (.snapshot generation hal) (.acquired generation hal item) held rfl rfl nofun
          (fun _ stands => .inl stands) fun _ => ⟨unsubmitted, nofun⟩
  case submit slot dup =>
    split at next <;> cases next
    next generation hal item held =>
      split
      next =>
        exact .advanced slot (.acquired generation hal item) (.submitted generation hal item) held rfl rfl nofun
          (fun _ stands => .inl stands) nofun
      next => exact .idle slot nofun
  case reply slot reply =>
    split at next
    next generation hal item held =>
      cases reply with
      | ok retired =>
        cases next
        unfold commitHeld
        split
        next => exact .idle slot nofun
        next queue installed => exact .committed slot queue item _ rfl installed
      | serviceSpecific =>
        cases next
        exact .idle slot nofun
      | transport =>
        cases next
        exact .dropped slot _ rfl
    next => cases next
  case register hal slot registration =>
    unfold Relay.registering at next
    split at next
    next =>
      cases next
      exact .same world _
    next previous relay found =>
      split at found <;> cases found
      cases next
      exact .noted _ _ _ _ _ (fun _ _ => id) (fun stale => absurd rfl stale.1) fun _ => rfl
  case registered entry okay =>
    split at next <;> cases next
    cases okay with
    | true => exact .noted _ _ _ _ _ (fun _ _ => id) (fun _ => ⟨rfl, rfl, rfl⟩) fun _ => rfl
    | false =>
      simp only [Bool.false_eq_true, if_false]
      unfold Relay.registrationRejected
      split
      next => exact .noted _ _ _ _ _ (fun _ _ => id) (fun stale => absurd rfl stale.1) fun _ => rfl
      next => exact .noted _ _ _ _ _ (fun _ _ => id) (fun _ => ⟨rfl, rfl, rfl⟩) fun _ => rfl
  case remove hal slot registration =>
    cases next
    unfold Relay.removing
    split
    next => exact .same world _
    next =>
      split
      next => exact .same world _
      next => exact .noted _ _ _ _ _ (fun _ _ => id) (fun stale => absurd rfl stale.1) (by simp [RelayLabel.configures])

end RelayWorld

end VirtualCamera
