import VirtualCamera.Hal.Numbering
import VirtualCamera.Relay.Undisturbed

set_option autoImplicit false

namespace VirtualCamera

open Descriptors Runs

inductive Serving where
  | asked
  | waiting (frame : Submission)
  | answered (status : Status) (retired : Option Fd) (sequence : Nat)
deriving DecidableEq, Repr

structure Recycled where
  slot : Slot
  handle : HalHandle
  sequence : Nat
  fence : Option Fd
deriving DecidableEq, Repr

-- The relay and the HALs that it talks to, one process each. `origin` records which submission a queue holds, and
-- `recycled` what went back.
structure RelayHalWorld where
  relay : RelayWorld := {}
  hals : HalHandle → HalWorld
  dead : Finset HalHandle := ∅
  serving : Slot → Option Serving := fun _ => none
  origin : Slot → Nat → HalHandle × Nat := fun _ _ => (0, 0)
  recycled : List Recycled := []

-- `relay` is a step of the relay that does not speak to a HAL about a frame, `hal` one of a HAL's other callers.
inductive RelayHalLabel where
  | relay (label : RelayLabel)
  | submit (slot : Slot) (dup : Option Fd)
  | serve (slot : Slot) (dup : Option Fd) (handle : Bool) (imported : Option Ahb)
  | wake (slot : Slot) (timedOut : Bool)
  | reply (slot : Slot) (reply : SubmitReply)
  | hal (handle : HalHandle) (event : HalEvent)
  | die (handle : HalHandle)

def HalEvent.submits : HalEvent → Bool
  | .enqueue .. | .wake .. => true
  | _ => false

-- What `queueFrameForConfiguration` asks of `enqueue`, or the code with which it refuses before that.
def queueFrameForConfiguration (slot : Slot) (configurationToken : Int) (item : BufferItem) (dup : Option Fd)
    (handle : Bool) (imported : Option Ahb) : Except Nat HalEvent :=
  if configurationToken ≤ 0 then .error 7
  else if item.fence.isSome && dup.isNone then .error 5
  else
    .ok (.enqueue slot handle imported item.width item.height item.format item.timestamp
      (if item.fence.isSome then dup else none) configurationToken)

namespace Serving

def ofResult (sequence : Nat) : EnqueueResult → Serving
  | .waiting frame => .waiting frame
  | .returned status retired => .answered status retired sequence

-- A synchronous call that fails has not begun, has ended, or has lost the process that it was for.
def delivers (lost : Bool) : Serving → SubmitReply → Bool
  | .answered .ok retired _, .ok given => retired == given
  | .answered (.serviceSpecific _) _ _, .serviceSpecific => true
  | .waiting _, .transport => lost
  | .asked, .transport | .answered .., .transport => true
  | _, _ => false

end Serving

namespace RelayHalWorld

def boot (provider : Bool) (outcome : HalHandle → Nat → Bool) : RelayHalWorld :=
  { hals := fun handle => .boot provider (outcome handle) }

def withRelay (world : RelayHalWorld) (relay : RelayWorld) : RelayHalWorld := { world with relay }

def setHal (world : RelayHalWorld) (handle : HalHandle) (hal : HalWorld) : RelayHalWorld :=
  { world with hals := Function.update world.hals handle hal }

def setServing (world : RelayHalWorld) (slot : Slot) (serving : Option Serving) : RelayHalWorld :=
  { world with serving := Function.update world.serving slot serving }

def runs (world : RelayHalWorld) (handle : HalHandle) (event : HalEvent) : Option RelayHalWorld :=
  if handle ∉ world.dead ∧ (world.hals handle).Allowed event then
    some (world.setHal handle ((world.hals handle).perform event))
  else none

def serve (world : RelayHalWorld) (slot : Slot) (handle : HalHandle) (event : HalEvent) : Option RelayHalWorld :=
  (world.runs handle event).bind fun after =>
    (event.asks (world.hals handle)).map fun asked =>
      after.setServing slot (some (.ofResult ((after.hals handle).hal.latest slot).sequence asked.2))

def submitted (world : RelayHalWorld) (slot : Slot) : Option (RelayQueue × HalHandle × BufferItem) :=
  match world.relay.relay.slots slot, world.relay.gates slot with
  | some queue, some (.submitted _ handle item) => some (queue, handle, item)
  | _, _ => none

def commit (world : RelayHalWorld) (slot : Slot) (queue : RelayQueue) (handle : HalHandle) (retired : Option Fd)
    (sequence : Nat) : RelayHalWorld :=
  let old := world.origin slot queue.generation
  { world with
    origin :=
      Function.update world.origin slot (Function.update (world.origin slot) queue.generation (handle, sequence))
    recycled :=
      if queue.held.isSome then { slot, handle := old.1, sequence := old.2, fence := retired } :: world.recycled
      else world.recycled }

def committed (world : RelayHalWorld) (slot : Slot) (queue : RelayQueue) (handle : HalHandle) :
    Serving → SubmitReply → RelayHalWorld
  | .answered _ _ sequence, .ok retired => world.commit slot queue handle retired sequence
  | _, _ => world

def perform (world : RelayHalWorld) : RelayHalLabel → Option RelayHalWorld
  | .relay label =>
    if label.submits then none else (world.relay.perform label).map world.withRelay
  | .submit slot dup =>
    (world.relay.perform (.submit slot dup)).map fun relay =>
      if ((world.withRelay relay).submitted slot).isSome then (world.withRelay relay).setServing slot (some .asked)
      else world.withRelay relay
  | .serve slot dup handle imported =>
    match world.submitted slot, world.serving slot with
    | some (queue, hal, item), some .asked =>
      match queueFrameForConfiguration slot queue.configurationToken item dup handle imported with
      | .ok event => world.serve slot hal event
      | .error code => some (world.setServing slot (some (.answered (.serviceSpecific code) none 0)))
    | _, _ => none
  | .wake slot timedOut =>
    match world.submitted slot, world.serving slot with
    | some (_, hal, _), some (.waiting frame) => world.serve slot hal (.wake slot frame timedOut)
    | _, _ => none
  | .reply slot reply =>
    match world.submitted slot, world.serving slot with
    | some (queue, hal, _), some serving =>
      if serving.delivers (decide (hal ∈ world.dead)) reply then
        (world.relay.perform (.reply slot reply)).map fun relay =>
          ((world.withRelay relay).setServing slot none).committed slot queue hal serving reply
      else none
    | _, _ => none
  | .hal handle event => if event.submits then none else world.runs handle event
  | .die handle => some { world with dead := insert handle world.dead }

def Step (world : RelayHalWorld) (label : RelayHalLabel) (after : RelayHalWorld) : Prop :=
  world.perform label = some after

end RelayHalWorld

end VirtualCamera
