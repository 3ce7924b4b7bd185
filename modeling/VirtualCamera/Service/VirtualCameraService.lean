import Mathlib.Data.Finset.Basic
import VirtualCamera.Service.LifecycleSlot
import VirtualCamera.Shared.Notices

set_option autoImplicit false

namespace VirtualCamera

open Descriptors

-- A camera object is known by its id; ids are given out once, and an `int` does not run out of them.
abbrev CameraId := Int

-- A `VirtualCamera` of the service. Its config is kept as what `descriptor` packs of it.
structure CameraState where
  uid : Int
  callback : Binder
  descriptor : List Int
  connection : Epoch := 0
  configuration : Int := 0
  isOpen : Bool := false
  isCapturing : Bool := false
deriving DecidableEq, Repr

-- The calls of `IVirtualCameraCallback`. The StreamConfig has the two tokens; the Surface is that of the event.
inductive ProducerCall where
  | onCameraOpened
  | onStreamsConfigured (connection : Epoch) (configuration width height fps : Int)
  | onCaptureStarted (frameRate : Int)
  | onCaptureStopped
  | onCameraClosed
deriving DecidableEq, Repr

structure LifecycleEvent where
  slot : Slot
  connection : Epoch
  configuration : Int
  registration : Int
  closed : Bool
  width : Int := 0
  height : Int := 0
  fps : Int := 0
deriving DecidableEq, Repr

structure OwnedEvent where
  owner : CameraId
  event : Nat
  hal : LifecycleEvent
deriving DecidableEq, Repr

inductive LifecycleTask where
  | register (camera : CameraId)
  | recover (camera : CameraId) (round : Nat)
  | configure (event : OwnedEvent)
  | close (event : OwnedEvent)
  | release (connection : Epoch)
  | remove (camera : CameraId)
deriving DecidableEq, Repr

abbrev HalListener := Nat

-- What is left of a `removeCamera` or of a `notifyHalAvailability`: each step is one block under `mLock` or one call
-- out of the service.
inductive Removal where
  | finding (camera : CameraId)
  | beginning (camera : CameraId) (slot : Slot)
  | queueing (camera : CameraId) (slot : Slot)
  | dropping (camera : CameraId)
  | dropped (camera : CameraId) (becameUnavailable : Bool)
  | notifying
  | pushing (notice : Notices.Notice Bool HalListener)
  | forgetting (listener : HalListener)
deriving DecidableEq, Repr

inductive Running where
  | registering (camera : CameraId)
  | askingHal (camera : CameraId)
  | removing (removal : Removal)
  | recovering (camera : CameraId)
  | creating (event : OwnedEvent)
  | surfaced (event : OwnedEvent)
  | connecting (event : OwnedEvent)
  | configuring (event : OwnedEvent)
  | opening (event : OwnedEvent)
  | handing (event : OwnedEvent)
  | starting (event : OwnedEvent)
  | checking (event : OwnedEvent)
  | stopping (event : OwnedEvent)
  | closing (event : OwnedEvent)
  | closed (event : OwnedEvent)
  | releasing (connection : Epoch)
  | removingProducer (camera : CameraId)
  | releasingSurface (camera : CameraId)
  | closingCamera (camera : CameraId)
  | finishing (camera : CameraId)
deriving DecidableEq, Repr

structure Executor where
  queue : List LifecycleTask := []
  running : Option Running := none
deriving DecidableEq, Repr

-- What the slots ask of `VirtualCameraNative`: a registration is noted when it starts, the others when they are
-- done.
inductive NativeCall where
  | registerProducer (camera : CameraId)
  | removeProducer (camera : CameraId)
  | releaseSurface
deriving DecidableEq, Repr

-- The fields of the service. The camera objects outlive their registration; `SparseArray` keeps its keys in
-- order, so the set of them says it all. What the producers, the listeners and the native side saw is kept in
-- its order.
structure VirtualCameraService where
  nextCameraId : CameraId := 1000
  objects : CameraId → Option CameraState := fun _ => none
  cameras : Finset CameraId := ∅
  slotByCameraId : CameraId → Option Slot := fun _ => none
  slots : Slot → LifecycleSlot CameraId := fun _ => {}
  lifecycle : Slot → Executor := fun _ => {}
  recoveryRound : Nat := 0
  recovery : List (Nat × Nat) := []
  halListener : Option HalListener := none
  told : List (CameraId × ProducerCall) := []
  received : List (Notices.Notice Bool HalListener) := []
  reads : Nat := 0
  natives : List (Slot × NativeCall) := []

namespace VirtualCameraService

def setObject (service : VirtualCameraService) (camera : CameraId) (change : CameraState → CameraState) :
    VirtualCameraService :=
  { service with objects := Function.update service.objects camera ((service.objects camera).map change) }

def setSlot (service : VirtualCameraService) (slot : Slot) (state : LifecycleSlot CameraId) :
    VirtualCameraService :=
  { service with slots := Function.update service.slots slot state }

def tell (service : VirtualCameraService) (camera : CameraId) (call : ProducerCall) : VirtualCameraService :=
  { service with told := service.told ++ [(camera, call)] }

def execute (service : VirtualCameraService) (slot : Slot) (task : LifecycleTask) : VirtualCameraService :=
  let executor := service.lifecycle slot
  { service with
    lifecycle := Function.update service.lifecycle slot { executor with queue := executor.queue ++ [task] } }

def run (service : VirtualCameraService) (slot : Slot) (running : Option Running) : VirtualCameraService :=
  { service with
    lifecycle := Function.update service.lifecycle slot { service.lifecycle slot with running } }

def onOpened (service : VirtualCameraService) (camera : CameraId) : VirtualCameraService :=
  (service.setObject camera fun state => { state with isOpen := true }).tell camera .onCameraOpened

def onCaptureStarted (service : VirtualCameraService) (camera : CameraId) (frameRate : Int) :
    VirtualCameraService :=
  (service.setObject camera fun state => { state with isCapturing := true }).tell camera
    (.onCaptureStarted frameRate)

def onCaptureStopped (service : VirtualCameraService) (camera : CameraId) : VirtualCameraService :=
  (service.setObject camera fun state => { state with isCapturing := false }).tell camera .onCaptureStopped

def onClosed (service : VirtualCameraService) (camera : CameraId) : VirtualCameraService :=
  (service.setObject camera fun state => { state with isOpen := false, isCapturing := false }).tell camera
    .onCameraClosed

def close (service : VirtualCameraService) (camera : CameraId) : VirtualCameraService :=
  if (service.objects camera).any CameraState.isOpen then service.onClosed camera else service

def allocateSlotLocked (service : VirtualCameraService) (owner : CameraId) (max : Int) :
    Option Slot × VirtualCameraService :=
  match (List.finRange kMaxVirtualCameras).find? fun (slot : Slot) =>
      decide ((slot.val : Int) < max) && ((service.slots slot).reserve owner).1 with
  | none => (none, service)
  | some slot => (some slot, service.setSlot slot ((service.slots slot).reserve owner).2)

def place (service : VirtualCameraService) (camera : CameraId) (max : Int) : Option Slot × VirtualCameraService :=
  let (slot, service) :=
    { service with cameras := insert camera service.cameras }.allocateSlotLocked camera max
  (slot,
    match slot with
    | none => service
    | some slot => { service with slotByCameraId := Function.update service.slotByCameraId camera (some slot) })

inductive Placing (service : VirtualCameraService) (camera : CameraId) (max : Int) :
    Option Slot × VirtualCameraService → Prop where
  | placed (slot : Slot) (free : (service.slots slot).owner = none) (supported : (slot.val : Int) < max) :
      Placing service camera max
        (some slot,
          { service with
            cameras := insert camera service.cameras
            slots := Function.update service.slots slot { service.slots slot with owner := some camera }
            slotByCameraId := Function.update service.slotByCameraId camera (some slot) })
  | full (taken : ∀ slot : Slot, (slot.val : Int) < max → (service.slots slot).owner ≠ none) :
      Placing service camera max (none, { service with cameras := insert camera service.cameras })

theorem place_placing (service : VirtualCameraService) (camera : CameraId) (max : Int) :
    Placing service camera max (service.place camera max) := by
  unfold place allocateSlotLocked
  generalize search : (List.finRange kMaxVirtualCameras).find? _ = found
  cases found with
  | none =>
    refine .full fun slot supported free => ?_
    have missed := List.find?_eq_none.mp search slot (List.mem_finRange slot)
    simp [supported, LifecycleSlot.reserve, free] at missed
  | some slot =>
    have chosen := List.find?_some search
    simp only [Bool.and_eq_true, decide_eq_true_eq, LifecycleSlot.reserve] at chosen
    have free : (service.slots slot).owner = none := by
      by_contra taken
      simp [taken] at chosen
    have result : Placing service camera max (some slot, _) := .placed slot free chosen.1
    simpa only [setSlot, LifecycleSlot.reserve, free, ne_eq, not_true_eq_false, if_false] using result

def beginRemoval (service : VirtualCameraService) (camera : CameraId) (slot : Slot) :
    Bool × VirtualCameraService :=
  let (begun, state) := (service.slots slot).beginClose camera
  if camera ∈ service.cameras ∧ begun = true then
    (true,
      { service.setSlot slot state with
        cameras := service.cameras.erase camera
        slotByCameraId := Function.update service.slotByCameraId camera none })
  else (false, service)

-- The part of `onHalStreamsConfigured` and `onHalCameraClosed` under `mLock`.
def record (service : VirtualCameraService) (hal : LifecycleEvent) : Option OwnedEvent × VirtualCameraService :=
  match (service.slots hal.slot).current with
  | none => (none, service)
  | some owner =>
    if owner ≠ hal.registration then (none, service)
    else
      let (event, state) :=
        (service.slots hal.slot).nextConfigurationEvent owner hal.connection hal.configuration hal.closed
      (if event = 0 then none else some { owner, event, hal }, service.setSlot hal.slot state)

def isCurrentEvent (service : VirtualCameraService) (slot : Slot) (event : OwnedEvent) : Bool :=
  (service.slots slot).isCurrentEvent event.owner event.event

def available (service : VirtualCameraService) : Bool := service.cameras.Nonempty

def notice (service : VirtualCameraService) (listener : HalListener) : Notices.Notice Bool HalListener :=
  { listener, value := service.available, stamp := service.reads }

def forget (service : VirtualCameraService) (listener : HalListener) : VirtualCameraService :=
  if service.halListener = some listener then { service with halListener := none } else service

-- The next step of `removeCamera` and `notifyHalAvailability`. The answer says whether the listener was reached.
def remove (service : VirtualCameraService) (answer : Bool) : Removal → VirtualCameraService × Option Removal
  | .finding camera =>
    (service,
      if camera ∈ service.cameras then
        match service.slotByCameraId camera with
        | some slot => some (.beginning camera slot)
        | none => some (.dropping camera)
      else none)
  | .beginning camera slot =>
    match service.beginRemoval camera slot with
    | (true, service) => (service, some (.queueing camera slot))
    | (false, service) => (service, none)
  | .queueing camera slot => (service.execute slot (.remove camera), some .notifying)
  | .dropping camera =>
    if camera ∈ service.cameras then
      let cameras := service.cameras.erase camera
      ({ service with cameras }, some (.dropped camera (cameras = ∅)))
    else (service, some (.dropped camera false))
  | .dropped camera becameUnavailable =>
    (service.close camera, if becameUnavailable then some .notifying else none)
  | .notifying =>
    match service.halListener with
    | none => (service, none)
    | some listener => ({ service with reads := service.reads + 1 }, some (.pushing (service.notice listener)))
  | .pushing notice =>
    if answer then ({ service with received := service.received ++ [notice] }, none)
    else (service, some (.forgetting notice.listener))
  | .forgetting listener => (service.forget listener, none)

inductive Removing (service : VirtualCameraService) : VirtualCameraService → Prop where
  | begun (camera : CameraId) (slot : Slot) : Removing service (service.beginRemoval camera slot).2
  | queued (camera : CameraId) (slot : Slot) : Removing service (service.execute slot (.remove camera))
  | closed (camera : CameraId) : Removing service (service.close camera)
  | noted (cameras : Finset CameraId) (halListener : Option HalListener)
      (received : List (Notices.Notice Bool HalListener)) (reads : Nat) :
      Removing service { service with cameras, halListener, received, reads }

theorem remove_removing (service : VirtualCameraService) (answer : Bool) (removal : Removal) :
    service.Removing (service.remove answer removal).1 := by
  cases removal with
  | finding camera => exact .noted _ _ _ _
  | beginning camera slot =>
    have begun : service.Removing (service.beginRemoval camera slot).2 := .begun camera slot
    generalize result : service.beginRemoval camera slot = begins at begun
    obtain ⟨success, after⟩ := begins
    simp only [remove, result]
    cases success <;> exact begun
  | queueing camera slot => exact .queued camera slot
  | dropping camera =>
    simp only [remove]
    split <;> exact .noted _ _ _ _
  | dropped camera becameUnavailable => exact .closed camera
  | notifying =>
    simp only [remove]
    split <;> exact .noted _ _ _ _
  | pushing notice => cases answer <;> exact .noted _ _ _ _
  | forgetting listener =>
    simp only [remove, forget]
    split <;> exact .noted _ _ _ _

def recoverHal (service : VirtualCameraService) : VirtualCameraService :=
  let round := service.recoveryRound + 1
  { service with recoveryRound := round, recovery := service.recovery ++ [(round, 0)] }

def start (service : VirtualCameraService) (slot : Slot) : LifecycleTask → Option Running
  | .register camera => if (service.slots slot).owns camera then some (.registering camera) else none
  | .recover camera round =>
    if service.recoveryRound = round ∧ (service.slots slot).owns camera = true then some (.recovering camera)
    else none
  | .configure event => if service.isCurrentEvent slot event then some (.creating event) else none
  | .close event => if service.isCurrentEvent slot event then some (.checking event) else none
  | .release connection => some (.releasing connection)
  | .remove camera => some (.removingProducer camera)

def native (service : VirtualCameraService) (slot : Slot) (call : NativeCall) : VirtualCameraService :=
  { service with natives := service.natives ++ [(slot, call)] }

def starting (service : VirtualCameraService) (slot : Slot) : Option Running → VirtualCameraService
  | some (.registering camera) | some (.recovering camera) => service.native slot (.registerProducer camera)
  | _ => service

-- The next step of the task that the thread of the slot runs. The answer is that of the call which it waits for.
def advance (service : VirtualCameraService) (slot : Slot) (answer : Bool) :
    Running → VirtualCameraService × Option Running
  | .registering camera => (service, if answer then none else some (.askingHal camera))
  | .askingHal camera =>
    if answer then (service, some (.removing (.finding camera))) else (service.recoverHal, none)
  | .removing removal => (service.remove answer removal).map id (Option.map .removing)
  | .recovering _ => (service, none)
  | .creating event => (service, if answer then some (.surfaced event) else none)
  | .surfaced event => (service, if service.isCurrentEvent slot event then some (.connecting event) else none)
  | .connecting event =>
    (service.setObject event.owner fun state => { state with connection := event.hal.connection },
      some (.configuring event))
  | .configuring event =>
    (service.setObject event.owner fun state => { state with configuration := event.hal.configuration },
      some (.opening event))
  | .opening event => (service.onOpened event.owner, some (.handing event))
  | .handing event =>
    (service.tell event.owner
      (.onStreamsConfigured event.hal.connection event.hal.configuration event.hal.width event.hal.height event.hal.fps),
      some (.starting event))
  | .starting event => (service.onCaptureStarted event.owner event.hal.fps, none)
  | .checking event => (service, if answer then some (.stopping event) else none)
  | .stopping event => (service.onCaptureStopped event.owner, some (.closing event))
  | .closing event => (service.onClosed event.owner, some (.closed event))
  | .closed _ => (service, none)
  | .releasing _ => (service, none)
  | .removingProducer camera => (service.native slot (.removeProducer camera), some (.releasingSurface camera))
  | .releasingSurface camera => (service.native slot .releaseSurface, some (.closingCamera camera))
  | .closingCamera camera => (service.close camera, some (.finishing camera))
  | .finishing camera => (service.setSlot slot ((service.slots slot).finishClose camera).2, none)

def turn (service : VirtualCameraService) (slot : Slot) (answer : Bool) : Option VirtualCameraService :=
  match (service.lifecycle slot).running, (service.lifecycle slot).queue with
  | some running, _ =>
    let (service, running) := service.advance slot answer running
    some (service.run slot running)
  | none, task :: queue =>
    let running := service.start slot task
    let service := service.starting slot running
    some { service with lifecycle := Function.update service.lifecycle slot { queue, running } }
  | none, [] => none

end VirtualCameraService

end VirtualCamera
