import Mathlib.Algebra.GroupWithZero.Nat
import VirtualCamera.Core.ProducerCapabilities
import VirtualCamera.Core.ReadFenceSet

set_option autoImplicit false

namespace VirtualCamera

open Descriptors

def kMaxVirtualCameras : Nat := 4

abbrev Slot := Fin kMaxVirtualCameras

instance : NeZero kMaxVirtualCameras := ⟨by decide⟩

-- The check also yields the index, so an unchecked slot cannot reach the arrays.
def validSlot (slot : Int) : Option Slot :=
  if h : 0 ≤ slot ∧ slot < kMaxVirtualCameras then some ⟨slot.toNat, by omega⟩ else none

@[simp] theorem validSlot_coe (slot : Slot) : validSlot (slot : Nat) = some slot := by
  have inside := slot.isLt
  simp only [validSlot]
  rw [dif_pos ⟨by omega, by omega⟩]
  simp

theorem validSlot_eq_some {slot : Int} {index : Slot} (valid : validSlot slot = some index) :
    slot = (index : Nat) := by
  simp only [validSlot] at valid
  split at valid
  next inside =>
    cases valid
    simp [inside.1]
  next => cases valid

-- The identity of a binder object, which is all the HAL compares.
abbrev Binder := Nat

-- An `AHardwareBuffer` address. A freed address may come back for a later buffer.
abbrev Ahb := Nat

def int64Max : Int := 9223372036854775807

inductive Status where
  | ok
  | serviceSpecific (code : Nat)
deriving DecidableEq, Repr

structure Frame where
  ahb : Option Ahb := none
  timestampNs : Int := 0
  sequence : Nat := 0
  configurationToken : Int := 0
  acquireFence : Option Fd := none
  readFences : List Fd := []
  inflight : Nat := 0
  retiring : Bool := false
deriving DecidableEq, Repr

-- The entries of the per-slot arrays other than `mLatest`.
structure SlotControl where
  sessionOwner : Int := 0
  configuration : Int := 0
  ownerClosed : Bool := false
  capabilities : Option ProducerCapabilities := none
  ready : Bool := false
  sourceWidth : Int := 0
  sourceHeight : Int := 0
deriving DecidableEq, Repr

inductive HalMessage where
  | streamsConfiguredForProducer (slot : Slot) (registration token width height fps : Int)
  | streamsConfiguredForConfiguration (slot : Slot) (token width height fps : Int)
  | cameraClosedForProducer (slot : Slot) (registration token : Int)
  | cameraClosedForConfiguration (slot : Slot) (token : Int)
deriving DecidableEq, Repr

structure StableHal where
  provider : Bool := true
  callback : Option Binder := none
  callbackVersion : Int := 0
  latest : Slot → Frame := fun _ => {}
  framesReceived : Nat := 0
  nextIdentity : Int := 0
  slots : Slot → SlotControl := fun _ => {}
  kernel : Kernel := {}
  bufferRefs : Ahb → Int := fun _ => 0

-- The arguments of a frame submission that the HAL keeps past the import of its buffer.
structure Submission where
  ahb : Ahb
  width : Int
  height : Int
  format : Int
  timestampNs : Int
  acquireFence : Option Fd
  configurationToken : Int
deriving DecidableEq, Repr

inductive EnqueueResult where
  | returned (status : Status) (retiredReadFence : Option Fd)
  | waiting (submission : Submission)
deriving DecidableEq, Repr

structure Acquired where
  ahb : Ahb
  timestampNs : Int
  sequence : Nat
  acquireFence : Option Fd
deriving DecidableEq, Repr

namespace StableHal

def setFrame (hal : StableHal) (slot : Slot) (frame : Frame) : StableHal :=
  { hal with latest := Function.update hal.latest slot frame }

def setControl (hal : StableHal) (slot : Slot) (control : SlotControl) : StableHal :=
  { hal with slots := Function.update hal.slots slot control }

def acquireBuffer (hal : StableHal) (ahb : Ahb) : StableHal :=
  { hal with bufferRefs := Function.update hal.bufferRefs ahb (hal.bufferRefs ahb + 1) }

def releaseBuffer (hal : StableHal) (ahb : Ahb) : StableHal :=
  { hal with bufferRefs := Function.update hal.bufferRefs ahb (hal.bufferRefs ahb - 1) }

def releaseIfHeld (hal : StableHal) : Option Ahb → StableHal
  | none => hal
  | some ahb => hal.releaseBuffer ahb

def closeFd (hal : StableHal) : Option Fd → StableHal
  | none => hal
  | some fd => { hal with kernel := hal.kernel.close fd }

def reapRetiringLocked (hal : StableHal) (slot : Slot) : Bool × StableHal :=
  let cur := hal.latest slot
  if !cur.retiring then (true, hal)
  else
    let (ready, fences, kernel) := retiredFrameReady hal.kernel cur.inflight cur.readFences
    let hal := { hal with kernel }
    if !ready then (false, hal.setFrame slot { cur with readFences := fences })
    else (true, ((hal.releaseIfHeld cur.ahb).closeFd cur.acquireFence).setFrame slot {})

def dropLatestLocked (hal : StableHal) (slot : Slot) : StableHal :=
  ((hal.setFrame slot { hal.latest slot with retiring := true }).reapRetiringLocked slot).2

def capabilities (hal : StableHal) (slot : Int) : Option ProducerCapabilities :=
  (validSlot slot).bind fun slot => (hal.slots slot).capabilities

def registrationCurrent (hal : StableHal) (slot registration : Int) : Bool :=
  (hal.capabilities slot).any fun caps => caps.registration == registration

def hasFrame (hal : StableHal) (slot : Int) : Bool :=
  (validSlot slot).any fun slot => (hal.latest slot).ahb.isSome && !(hal.latest slot).retiring

def isFrameCurrent (hal : StableHal) (slot : Int) (buffer : Ahb) (sequence : Nat)
    (configurationToken : Int) : Bool :=
  (validSlot slot).any fun slot =>
    let frame := hal.latest slot
    !frame.retiring && frame.ahb == some buffer && frame.sequence == sequence &&
      frame.configurationToken == configurationToken &&
      (configurationToken == 0 || (hal.slots slot).configuration == configurationToken)

def retireOwner (hal : StableHal) (slot : Slot) : StableHal :=
  if hal.nextIdentity < int64Max then
    { hal.setControl slot { hal.slots slot with sessionOwner := hal.nextIdentity + 1 } with
      nextIdentity := hal.nextIdentity + 1 }
  else hal

def revokeSlot (hal : StableHal) (slot : Slot) : StableHal :=
  ((hal.setControl slot
    { hal.slots slot with
      configuration := 0, ownerClosed := true, ready := false, capabilities := none }).dropLatestLocked
    slot).retireOwner slot

-- `version` is the callback's answer to `getInterfaceVersion`, which may fail.
def setCallback (hal : StableHal) (callback : Option Binder) (version : Option Int) :
    Status × List (Slot × Bool) × StableHal :=
  let ver := if callback.isSome then version.getD 1 else 0
  if callback.isSome && decide (ver < 6) then (.serviceSpecific 7, [], hal)
  else
    let replaced := hal.callback.isSome && hal.callback != callback
    let hal := if replaced then (List.finRange kMaxVirtualCameras).foldl revokeSlot hal else hal
    (.ok,
      if replaced && hal.provider then (List.finRange kMaxVirtualCameras).map fun slot => (slot, false)
      else [],
      { hal with callback, callbackVersion := ver })

def registerProducer (hal : StableHal) (slot : Int) (descriptor : ProducerCapabilities)
    (owner : Option Binder) : Status × List (Slot × Bool) × StableHal :=
  match validSlot slot with
  | none => (.serviceSpecific 8, [], hal)
  | some slot =>
    if !descriptor.valid || owner.isNone then (.serviceSpecific 8, [], hal)
    else if hal.callback.isNone || hal.callback != owner || (hal.slots slot).capabilities.isSome then
      (.serviceSpecific 8, [], hal)
    else
      (.ok, if hal.provider then [(slot, true)] else [],
        hal.setControl slot
          { hal.slots slot with
            capabilities := some descriptor, ready := false, configuration := 0 })

def removeProducer (hal : StableHal) (slot registration : Int) (owner : Option Binder) :
    Status × List (Slot × Bool) × StableHal :=
  match validSlot slot with
  | none => (.serviceSpecific 8, [], hal)
  | some slot =>
    if owner.isNone then (.serviceSpecific 8, [], hal)
    else if hal.callback.isNone || hal.callback != owner ||
        !(hal.slots slot).capabilities.any (·.registration == registration) then
      (.serviceSpecific 8, [], hal)
    else (.ok, if hal.provider then [(slot, false)] else [], hal.revokeSlot slot)

def setConfigurationReady (hal : StableHal) (slot token : Int) (ready : Bool) : Status × StableHal :=
  match validSlot slot with
  | none => (.serviceSpecific 8, hal)
  | some slot =>
    let control := hal.slots slot
    if token ≤ 0 ∨ control.configuration ≠ token ∨ control.capabilities.isNone ∨ control.ownerClosed then
      (.serviceSpecific 8, hal)
    else
      let hal := hal.setControl slot { control with ready }
      if ready then (.ok, hal)
      else (.ok, (hal.setControl slot { control with ready, configuration := 0 }).dropLatestLocked slot)

def setCameraPresent (hal : StableHal) (slot : Int) (present : Bool) : Status × StableHal :=
  match validSlot slot with
  | none => (.serviceSpecific 3, hal)
  | some slot =>
    if hal.provider then (.serviceSpecific 8, hal)
    else if present then (.ok, hal)
    else
      let control := hal.slots slot
      let closed := hal.setControl slot
        { control with configuration := 0, ready := false, ownerClosed := true }
      let owned := if 0 < control.sessionOwner then closed.retireOwner slot else closed
      (.ok, owned.dropLatestLocked slot)

def admitted (hal : StableHal) (slot : Slot) (frame : Submission) : Bool :=
  let control := hal.slots slot
  if 0 < frame.configurationToken then
    control.configuration == frame.configurationToken &&
      (control.capabilities.isNone ||
        (control.ready && frame.width == control.sourceWidth && frame.height == control.sourceHeight &&
          frame.format == 1))
  else control.sessionOwner == 0 && !hal.provider && control.capabilities.isNone

-- Every rejection after the import gives the imported buffer and the fence back.
def reject (hal : StableHal) (frame : Submission) (code : Nat) : EnqueueResult × StableHal :=
  (.returned (.serviceSpecific code) none, (hal.releaseBuffer frame.ahb).closeFd frame.acquireFence)

def swapFrame (hal : StableHal) (slot : Slot) (frame : Submission) : StableHal :=
  let old := hal.latest slot
  let hal := { hal with framesReceived := hal.framesReceived + 1 }
  ((hal.setFrame slot
    { ahb := some frame.ahb
      timestampNs := frame.timestampNs
      acquireFence := frame.acquireFence
      sequence := hal.framesReceived
      configurationToken := frame.configurationToken }).releaseIfHeld old.ahb).closeFd old.acquireFence

-- `enqueue` from the admission check after the wait to its end.
def enqueueCommit (hal : StableHal) (slot : Slot) (frame : Submission) : EnqueueResult × StableHal :=
  if !hal.admitted slot frame then hal.reject frame 7
  else
    let (reaped, hal) := hal.reapRetiringLocked slot
    if !reaped then hal.reject frame 4
    else
      let cur := hal.latest slot
      let (merged, fences, kernel) := consolidateReadFences hal.kernel cur.readFences
      let hal := { hal with kernel }
      if !merged then (hal.setFrame slot { cur with readFences := fences }).reject frame 6
      else
        (.returned .ok fences.getLast?,
          (hal.setFrame slot { cur with readFences := [] }).swapFrame slot frame)

-- `enqueue` up to its wait for readers; `imported` is the result of the handle import.
def enqueue (hal : StableHal) (slot : Slot) (handle : Bool) (imported : Option Ahb)
    (width height format timestampNs : Int) (acquireFence : Option Fd) (configurationToken : Int) :
    EnqueueResult × StableHal :=
  if !handle then (.returned (.serviceSpecific 1) none, hal.closeFd acquireFence)
  else
    match imported with
    | none => (.returned (.serviceSpecific 2) none, hal.closeFd acquireFence)
    | some ahb =>
      let frame : Submission :=
        { ahb, width, height, format, timestampNs, acquireFence, configurationToken }
      let hal := hal.acquireBuffer ahb
      if !hal.admitted slot frame then hal.reject frame 7
      else
        let (reaped, hal) := hal.reapRetiringLocked slot
        if !reaped then hal.reject frame 4
        else if (hal.latest slot).ahb.isSome && decide (0 < (hal.latest slot).inflight) then
          (.waiting frame, hal)
        else hal.enqueueCommit slot frame

-- The waiting thread holds the lock again, after a notification, spuriously or on its timeout.
def enqueueWake (hal : StableHal) (slot : Slot) (frame : Submission) (timedOut : Bool) :
    EnqueueResult × StableHal :=
  if (hal.latest slot).inflight == 0 then hal.enqueueCommit slot frame
  else if timedOut then hal.reject frame 4
  else (.waiting frame, hal)

def kMaxPendingReads : Nat := 16

-- `wantsFence` and `wantsSequence` are the non-null output pointers.
def acquireLatest (hal : StableHal) (slot : Int) (wantsFence wantsSequence : Bool)
    (afterSequence : Nat) (configurationToken : Int) : Option Acquired × StableHal :=
  match validSlot slot with
  | none => (none, hal)
  | some slot =>
    let cur := hal.latest slot
    if cur.configurationToken ≠ configurationToken ∨
        (0 < configurationToken ∧ (hal.slots slot).configuration ≠ configurationToken) then (none, hal)
    else
      match cur.ahb with
      | none => (none, hal)
      | some ahb =>
        if cur.retiring then (none, hal)
        else if wantsSequence && decide (cur.sequence ≤ afterSequence) then (none, hal)
        else
          let (_, fences, kernel) := consolidateReadFences hal.kernel cur.readFences
          let cur := { cur with readFences := fences }
          let hal := { hal with kernel }.setFrame slot cur
          if kMaxPendingReads ≤ fences.length + cur.inflight then (none, hal)
          else if cur.acquireFence.isSome && !wantsFence then (none, hal)
          else
            let (copied, fence, kernel) := duplicateAcquireFence hal.kernel cur.acquireFence
            let hal := { hal with kernel }
            if !copied then (none, hal)
            else
              (some { ahb, timestampNs := cur.timestampNs, sequence := cur.sequence, acquireFence := fence },
                (hal.acquireBuffer ahb).setFrame slot { cur with inflight := cur.inflight + 1 })

def closeAll (hal : StableHal) (fences : List Fd) : StableHal :=
  fences.foldl (fun hal fd => hal.closeFd (some fd)) hal

def releaseFrame (hal : StableHal) (slot : Int) (ahb : Ahb) (readFences : List Fd) : StableHal :=
  match (validSlot slot).filter fun slot => (hal.latest slot).ahb == some ahb with
  | none => (hal.closeAll readFences).releaseBuffer ahb
  | some slot =>
    let cur := hal.latest slot
    let (_, fences, kernel) := consolidateReadFences hal.kernel (cur.readFences ++ readFences)
    -- The natural subtraction is the source's decrement guarded by `inflight > 0`.
    let hal := { hal with kernel }.setFrame slot
      { cur with readFences := fences, inflight := cur.inflight - 1 }
    (hal.reapRetiringLocked slot).2.releaseBuffer ahb

def allocateSessionIdentity (hal : StableHal) : Int × StableHal :=
  if hal.nextIdentity = int64Max then (0, hal)
  else (hal.nextIdentity + 1, { hal with nextIdentity := hal.nextIdentity + 1 })

def notifyStreamsConfigured (hal : StableHal) (slot owner width height fps : Int) :
    Int × Option (Binder × HalMessage) × StableHal :=
  match validSlot slot with
  | none => (0, none, hal)
  | some slot =>
    let control := hal.slots slot
    if owner ≤ 0 ∨ owner < control.sessionOwner ∨
        (owner = control.sessionOwner ∧ control.ownerClosed) ∨ hal.nextIdentity = int64Max then
      (0, none, hal)
    else
      let token := hal.nextIdentity + 1
      let hal := ({ hal with nextIdentity := token }.setControl slot
        { control with
          sessionOwner := owner
          ownerClosed := false
          configuration := token
          ready := control.capabilities.isNone
          sourceWidth := width
          sourceHeight := height }).dropLatestLocked slot
      (token,
        hal.callback.map fun cb =>
          (cb,
            match control.capabilities with
            | some caps =>
              if caps.registration ≠ 0 then
                .streamsConfiguredForProducer slot caps.registration token width height fps
              else .streamsConfiguredForConfiguration slot token width height fps
            | none => .streamsConfiguredForConfiguration slot token width height fps),
        hal)

def notifyCameraClosed (hal : StableHal) (slot owner configurationToken : Int) :
    Option (Binder × HalMessage) × StableHal :=
  match validSlot slot with
  | none => (none, hal)
  | some slot =>
    let control := hal.slots slot
    if owner ≤ 0 ∨ configurationToken ≤ 0 ∨ control.sessionOwner ≠ owner ∨
        control.configuration ≠ configurationToken then (none, hal)
    else
      let hal := (hal.setControl slot
        { control with configuration := 0, ready := false, ownerClosed := true }).dropLatestLocked slot
      (hal.callback.map fun cb =>
          (cb,
            match control.capabilities with
            | some caps =>
              if caps.registration ≠ 0 then
                .cameraClosedForProducer slot caps.registration configurationToken
              else .cameraClosedForConfiguration slot configurationToken
            | none => .cameraClosedForConfiguration slot configurationToken),
        hal)

end StableHal

end VirtualCamera
