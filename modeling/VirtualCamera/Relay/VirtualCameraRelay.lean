import VirtualCamera.Hal.StableHal

set_option autoImplicit false

namespace VirtualCamera

open Descriptors

-- Connections are numbered from one; a `uintptr_t` does not run out of them.
abbrev Epoch := Nat

abbrev HalHandle := Nat

structure ConfigurationState where
  token : Int := 0
  closed : Bool := false
deriving DecidableEq, Repr

-- What the listener reads of an acquired item. An invalid `mFence` is none.
structure BufferItem where
  buffer : Option Ahb := none
  width : Int := 0
  height : Int := 0
  format : Int := 0
  timestamp : Int := 0
  fence : Option Fd := none
deriving DecidableEq, Repr

structure RelayQueue where
  slot : Slot
  connection : Epoch
  generation : Nat
  configurationToken : Int
  held : Option BufferItem := none
deriving DecidableEq, Repr

structure Relay where
  hal : Option HalHandle := none
  halVersion : Int := 0
  callback : Option Epoch := none
  connectionEpoch : Epoch := 0
  nextConnectionEpoch : Epoch := 0
  connectionReady : Bool := false
  registrations : Slot → Int := fun _ => 0
  configurations : Slot → ConfigurationState := fun _ => {}
  slots : Slot → Option RelayQueue := fun _ => none
  queueGenerations : Slot → Nat := fun _ => 0

namespace Relay

def isCurrentConnection (relay : Relay) (epoch : Epoch) : Bool :=
  epoch != 0 && relay.hal.isSome && relay.connectionEpoch == epoch

-- The old queue is abandoned before its held buffer is dropped, so that nothing is recycled.
def abandonQueueLocked (relay : Relay) (slot : Slot) : Relay :=
  { relay with slots := Function.update relay.slots slot none }

def releaseQueue (relay : Relay) (slot : Int) (expected : Epoch) (configurationToken : Int) : Relay :=
  match validSlot slot with
  | none => relay
  | some slot =>
    match relay.slots slot with
    | none => relay
    | some queue =>
      if expected ≠ 0 ∧ queue.connection ≠ expected then relay
      else if configurationToken ≠ 0 ∧ queue.configurationToken ≠ configurationToken then relay
      else relay.abandonQueueLocked slot

def disconnected (relay : Relay) : Relay :=
  { relay with hal := none, callback := none, halVersion := 0, connectionEpoch := 0, connectionReady := false }

-- The part of `onHalDiedCb` under `gLock`; the queues are released afterwards, one by one.
def onHalDied (relay : Relay) (dead : Epoch) : Bool × Relay :=
  if dead = 0 ∨ dead ≠ relay.connectionEpoch ∨ relay.hal = none then (false, relay)
  else (true, relay.disconnected)

def admitEvent (relay : Relay) (connection : Epoch) (slot token : Int) (closed : Bool) (registration : Int) :
    Bool × Relay :=
  match validSlot slot with
  | none => (false, relay)
  | some slot =>
    if token ≤ 0 ∨ relay.hal = none ∨ relay.connectionEpoch ≠ connection then (false, relay)
    else if 6 ≤ relay.halVersion ∧ (registration ≤ 0 ∨ relay.registrations slot ≠ registration) then (false, relay)
    else
      let state := relay.configurations slot
      if token < state.token ∨ (token = state.token ∧ (closed = false ∨ state.closed = true)) then (false, relay)
      else (true, { relay with configurations := Function.update relay.configurations slot { token, closed } })

def connect (relay : Relay) (hal : HalHandle) (version : Int) : Epoch × Relay :=
  let epoch := relay.nextConnectionEpoch + 1
  (epoch,
    { relay with
      nextConnectionEpoch := epoch
      hal := some hal
      callback := some epoch
      connectionEpoch := epoch
      halVersion := version
      connectionReady := false
      configurations := fun _ => {}
      registrations := fun _ => 0 })

def connectFailed (relay : Relay) (epoch : Epoch) : Relay :=
  if relay.connectionEpoch = epoch then relay.disconnected else relay

def connected (relay : Relay) (epoch : Epoch) (hal : HalHandle) : Bool × Relay :=
  if relay.connectionEpoch ≠ epoch ∨ relay.hal ≠ some hal then (false, relay)
  else (true, { relay with connectionReady := true })

def creationEpoch (relay : Relay) (slot : Slot) (callbackEpoch : Epoch) (callbackConfiguration : Int) :
    Option Epoch :=
  if relay.hal = none ∨ relay.connectionEpoch = 0 ∨
      (callbackEpoch ≠ 0 ∧ callbackEpoch ≠ relay.connectionEpoch) then none
  else if 4 ≤ relay.halVersion ∧ (callbackConfiguration ≤ 0 ∨
      (relay.configurations slot).token ≠ callbackConfiguration ∨ (relay.configurations slot).closed = true) then none
  else some relay.connectionEpoch

def newQueue (relay : Relay) (slot : Slot) (epoch : Epoch) (configurationToken : Int) : RelayQueue × Relay :=
  let generation := relay.queueGenerations slot + 1
  ({ slot, connection := epoch, generation, configurationToken },
    { relay with queueGenerations := Function.update relay.queueGenerations slot generation })

def installable (relay : Relay) (queue : RelayQueue) : Bool :=
  relay.hal.isSome && relay.connectionEpoch == queue.connection &&
    (decide (relay.halVersion < 4) ||
      (relay.configurations queue.slot).token == queue.configurationToken &&
        !(relay.configurations queue.slot).closed)

def setQueue (relay : Relay) (queue : RelayQueue) : Relay :=
  { relay with slots := Function.update relay.slots queue.slot (some queue) }

def registering (relay : Relay) (hal : HalHandle) (slot : Slot) (registration : Int) : Option (Int × Relay) :=
  if relay.hal ≠ some hal then none
  else
    some (relay.registrations slot,
      { relay with registrations := Function.update relay.registrations slot registration })

def registrationRejected (relay : Relay) (hal : HalHandle) (slot : Slot) (registration previous : Int) : Relay :=
  if relay.hal = some hal ∧ relay.registrations slot = registration then
    { relay with registrations := Function.update relay.registrations slot previous }
  else relay

def removing (relay : Relay) (hal : HalHandle) (slot : Int) (registration : Int) : Bool × Relay :=
  match validSlot slot with
  | none => (false, relay)
  | some slot =>
    if relay.hal ≠ some hal ∨ relay.registrations slot ≠ registration then (false, relay)
    else
      (true,
        { relay with
          registrations := Function.update relay.registrations slot 0
          configurations :=
            Function.update relay.configurations slot { relay.configurations slot with closed := true } })

def readiness (relay : Relay) (hal : HalHandle) (connection : Epoch) : Bool :=
  relay.hal == some hal && relay.connectionEpoch == connection

end Relay

end VirtualCamera
