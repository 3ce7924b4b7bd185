import VirtualCamera.Relay.VirtualCameraRelay
import VirtualCamera.Shared.Runs

set_option autoImplicit false

namespace VirtualCamera

open Descriptors Runs

inductive Connecting where
  | asking
  | linking (epoch : Epoch) (hal : HalHandle)
deriving DecidableEq, Repr

-- Who holds the gate of a slot: `createRelayQueue` with its new queue, or the listener of a queue.
inductive GateWork where
  | checked (queue : RelayQueue)
  | confirmed (queue : RelayQueue)
  | cleared (queue : RelayQueue)
  | listening (generation : Nat)
  | snapshot (generation : Nat) (hal : HalHandle)
  | acquired (generation : Nat) (hal : HalHandle) (item : BufferItem)
  | submitted (generation : Nat) (hal : HalHandle) (item : BufferItem)
deriving DecidableEq, Repr

inductive SubmitReply where
  | ok (retired : Option Fd)
  | serviceSpecific
  | transport
deriving DecidableEq, Repr

structure Registering where
  hal : HalHandle
  slot : Slot
  registration : Int
  previous : Int
deriving DecidableEq, Repr

structure RelayWorld where
  relay : Relay := {}
  connecting : Option Connecting := none
  gates : Slot → Option GateWork := fun _ => none
  waiting : List Registering := []

-- What happens between two releases of a lock, on any thread. Replies from outside come with the label.
inductive RelayLabel where
  | ask
  | unavailable
  | connect (hal : HalHandle) (version : Int)
  | connectFailed
  | connected
  | halDied (dead : Epoch)
  | release (slot : Int) (expected : Epoch) (configurationToken : Int)
  | admitEvent (connection : Epoch) (slot token : Int) (closed : Bool) (registration : Int)
  | create (slot : Int) (width height : Int) (callbackEpoch : Epoch) (callbackConfiguration : Int)
  | confirm (slot : Slot)
  | clear (slot : Slot)
  | install (slot : Slot)
  | frameAvailable (slot : Slot) (generation : Nat)
  | snapshot (slot : Slot)
  | acquire (slot : Slot) (item : Option BufferItem)
  | submit (slot : Slot) (dup : Option Fd)
  | reply (slot : Slot) (reply : SubmitReply)
  | register (hal : HalHandle) (slot : Slot) (registration : Int)
  | registered (entry : Registering) (okay : Bool)
  | remove (hal : HalHandle) (slot : Int) (registration : Int)
deriving DecidableEq, Repr

namespace RelayWorld

def withRelay (world : RelayWorld) (relay : Relay) : RelayWorld := { world with relay }

def gate (world : RelayWorld) (slot : Slot) (work : Option GateWork) : RelayWorld :=
  { world with gates := Function.update world.gates slot work }

def gateFree (world : RelayWorld) (slot : Int) : Bool :=
  match validSlot slot with
  | none => true
  | some slot => (world.gates slot).isNone

def commitHeld (relay : Relay) (slot : Slot) (item : BufferItem) : Relay :=
  match relay.slots slot with
  | none => relay
  | some queue => relay.setQueue { queue with held := some item }

def create (world : RelayWorld) (slot : Slot) (callbackEpoch : Epoch) (callbackConfiguration : Int) : RelayWorld :=
  match world.relay.creationEpoch slot callbackEpoch callbackConfiguration with
  | none => world
  | some epoch =>
    let (queue, relay) := world.relay.newQueue slot epoch callbackConfiguration
    (world.withRelay relay).gate slot (some (.checked queue))

-- The frame goes to the HAL unless it has no buffer, or its fence could not be duplicated.
def submits (item : BufferItem) (dup : Option Fd) : Bool := item.buffer.isSome && (item.fence.isNone || dup.isSome)

def perform (world : RelayWorld) : RelayLabel → Option RelayWorld
  | .ask =>
    if world.connecting = none ∧ ¬ (world.relay.hal.isSome = true ∧ world.relay.connectionReady = true) then
      some { world with connecting := some .asking }
    else none
  | .unavailable =>
    if world.connecting = some .asking then some { world with connecting := none } else none
  | .connect hal version =>
    if world.connecting = some .asking ∧ 6 ≤ version then
      let (epoch, relay) := world.relay.connect hal version
      some { world with relay, connecting := some (.linking epoch hal) }
    else none
  | .connectFailed =>
    match world.connecting with
    | some (.linking epoch _) =>
      some { world with relay := world.relay.connectFailed epoch, connecting := none }
    | _ => none
  | .connected =>
    match world.connecting with
    | some (.linking epoch hal) =>
      some { world with relay := (world.relay.connected epoch hal).2, connecting := none }
    | _ => none
  | .halDied dead => some (world.withRelay (world.relay.onHalDied dead).2)
  | .release slot expected configurationToken =>
    if world.gateFree slot then some (world.withRelay (world.relay.releaseQueue slot expected configurationToken))
    else none
  | .admitEvent connection slot token closed registration =>
    some (world.withRelay (world.relay.admitEvent connection slot token closed registration).2)
  | .create slot width height callbackEpoch callbackConfiguration =>
    match validSlot slot with
    | none => some world
    | some slot =>
      if width ≤ 0 ∨ height ≤ 0 then some world
      else if world.gates slot = none then some (world.create slot callbackEpoch callbackConfiguration)
      else none
  | .confirm slot =>
    match world.gates slot with
    | some (.checked queue) =>
      some (world.gate slot (if world.relay.isCurrentConnection queue.connection then some (.confirmed queue) else none))
    | _ => none
  | .clear slot =>
    match world.gates slot with
    | some (.confirmed queue) =>
      some ((world.withRelay (world.relay.abandonQueueLocked slot)).gate slot (some (.cleared queue)))
    | _ => none
  | .install slot =>
    match world.gates slot with
    | some (.cleared queue) =>
      some ((world.withRelay (if world.relay.installable queue then world.relay.setQueue queue else world.relay)).gate
        slot none)
    | _ => none
  | .frameAvailable slot generation =>
    if world.gates slot = none then
      some (world.gate slot
        (if (world.relay.slots slot).any (·.generation == generation) then some (.listening generation) else none))
    else none
  | .snapshot slot =>
    match world.gates slot, world.relay.slots slot with
    | some (.listening generation), some queue =>
      some (world.gate slot
        (if world.relay.connectionEpoch = queue.connection then
          world.relay.hal.map fun hal => .snapshot generation hal else none))
    | _, _ => none
  | .acquire slot item =>
    match world.gates slot with
    | some (.snapshot generation hal) =>
      some (world.gate slot (item.map fun item => .acquired generation hal item))
    | _ => none
  | .submit slot dup =>
    match world.gates slot with
    | some (.acquired generation hal item) =>
      some (world.gate slot (if submits item dup then some (.submitted generation hal item) else none))
    | _ => none
  | .reply slot reply =>
    match world.gates slot with
    | some (.submitted _ _ item) =>
      match reply with
      | .ok _ => some ((world.withRelay (commitHeld world.relay slot item)).gate slot none)
      | .serviceSpecific => some (world.gate slot none)
      | .transport => some ((world.withRelay (world.relay.abandonQueueLocked slot)).gate slot none)
    | _ => none
  | .register hal slot registration =>
    match world.relay.registering hal slot registration with
    | none => some world
    | some (previous, relay) =>
      some { world with relay, waiting := ⟨hal, slot, registration, previous⟩ :: world.waiting }
  | .registered entry okay =>
    if entry ∈ world.waiting then
      some { world with
        relay := if okay then world.relay
          else world.relay.registrationRejected entry.hal entry.slot entry.registration entry.previous
        waiting := world.waiting.erase entry }
    else none
  | .remove hal slot registration => some (world.withRelay (world.relay.removing hal slot registration).2)

def Step (world : RelayWorld) (label : RelayLabel) (after : RelayWorld) : Prop := world.perform label = some after

end RelayWorld

end VirtualCamera
