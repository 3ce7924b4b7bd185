import Mathlib.Data.Finset.Max
import VirtualCamera.Hal.Attribution
import VirtualCamera.Relay.RelayWorld
import VirtualCamera.Service.ProducerTokens

set_option autoImplicit false

namespace VirtualCamera

open Descriptors Runs

structure Announcement where
  hal : HalHandle
  connection : Epoch
  message : HalMessage
deriving DecidableEq, Repr

structure Readiness where
  uid : Int
  callback : Binder
  connection : Epoch
  token : Int
  ready : Bool
deriving DecidableEq, Repr

-- What the search of `setProducerReady` found. `whole` records whether the two tokens belonged together when the
-- second was read.
structure Matched where
  camera : CameraId
  slot : Slot
  whole : Bool
deriving DecidableEq, Repr

inductive Readying where
  | scanning (passed : Option CameraId)
  | comparing (camera : CameraId)
  | seating (camera : CameraId) (whole : Bool)
  | matched (found : Matched)
  | asking (found : Matched) (connection : Epoch)
  | sending (found : Matched) (connection : Epoch) (hal : HalHandle)
deriving DecidableEq, Repr

-- The service, the relay in its process, and the HALs. The last four fields record which HAL a connection was made
-- to, what the HALs said, and whom the service gave which id.
structure PlatformWorld where
  service : ServiceWorld := {}
  relay : RelayWorld := {}
  hals : HalHandle → HalWorld
  dead : Finset HalHandle := ∅
  flight : List Announcement := []
  readying : Nat → Option (Readiness × Readying) := fun _ => none
  connections : Epoch → Option HalHandle := fun _ => none
  announced : List Announcement := []
  registered : List (CameraId × Int × Binder) := []

-- An answer is the HAL that `hal` returned, or the one that the call reached.
inductive PlatformLabel where
  | service (move : ServiceMove)
  | relay (label : RelayLabel)
  | link (version : Option Int)
  | hal (handle : HalHandle) (event : HalEvent)
  | die (handle : HalHandle)
  | deliver (thread : Nat) (announcement : Announcement)
  | setProducerReady (thread : Nat) (call : Readiness)
  | proceed (thread : Nat) (answer : Option HalHandle)

namespace HalMessage

def event (connection : Epoch) : HalMessage → LifecycleEvent
  | .streamsConfiguredForProducer slot registration token width height fps =>
    { slot, connection, configuration := token, registration, closed := false, width, height, fps }
  | .streamsConfiguredForConfiguration slot token width height fps =>
    { slot, connection, configuration := token, registration := 0, closed := false, width, height, fps }
  | .cameraClosedForProducer slot registration token =>
    { slot, connection, configuration := token, registration, closed := true }
  | .cameraClosedForConfiguration slot token =>
    { slot, connection, configuration := token, registration := 0, closed := true }

end HalMessage

namespace ServiceMove

def hears : ServiceMove → Bool
  | .halEvent .. => true
  | _ => false

def registers (service : VirtualCameraService) : ServiceMove → List (CameraId × Int × Binder)
  | .registerCamera _ callback uid _ _ => [(service.nextCameraId, uid, callback)]
  | _ => []

end ServiceMove

namespace RelayLabel

def admits : RelayLabel → Bool
  | .admitEvent .. => true
  | _ => false

def connects (epoch : Epoch) (connections : Epoch → Option HalHandle) : RelayLabel → Epoch → Option HalHandle
  | .connect hal _ => Function.update connections epoch (some hal)
  | _ => connections

end RelayLabel

def Relay.admission (relay : Relay) (event : LifecycleEvent) : Bool × Relay :=
  relay.admitEvent event.connection event.slot event.configuration event.closed event.registration

def HalEvent.links : HalEvent → Bool
  | .control (.setCallback ..) => true
  | _ => false

def VirtualCameraService.nextCamera (service : VirtualCameraService) (passed : Option CameraId) : Option CameraId :=
  let rest := service.cameras.filter fun camera => ∀ last ∈ passed, last < camera
  if left : rest.Nonempty then some (rest.min' left) else none

namespace PlatformWorld

def boot (provider : Bool) (outcome : HalHandle → Nat → Bool) : PlatformWorld :=
  { hals := fun handle => .boot provider (outcome handle) }

def withService (world : PlatformWorld) (service : ServiceWorld) : PlatformWorld := { world with service }

def setReadying (world : PlatformWorld) (thread : Nat) (readying : Option (Readiness × Readying)) : PlatformWorld :=
  { world with readying := Function.update world.readying thread readying }

def runs (world : PlatformWorld) (handle : HalHandle) (event : HalEvent) : PlatformWorld :=
  let said := ((event.sends (world.hals handle).hal).map fun (binder, message) => ⟨handle, binder, message⟩).toList
  { world with
    hals := Function.update world.hals handle ((world.hals handle).perform event)
    flight := said ++ world.flight
    announced := said ++ world.announced }

def deliver (world : PlatformWorld) (thread : Nat) (announcement : Announcement) : Option PlatformWorld :=
  let event := announcement.message.event announcement.connection
  let (admitted, relay) := world.relay.relay.admission event
  let world := { world with relay := world.relay.withRelay relay, flight := world.flight.erase announcement }
  if admitted then (world.service.perform (.halEvent thread event)).map world.withService else some world

-- The next step of a `setProducerReady` up to its call of the HAL. `mLock` keeps the registrations as they are during
-- the search, and the tokens of the cameras are written without it.
def advance (world : PlatformWorld) (call : Readiness) (answer : Option HalHandle) : Readying → Option Readying
  | .scanning passed =>
    (world.service.service.nextCamera passed).map fun camera =>
      if (world.service.service.objects camera).any (fun state =>
          state.uid == call.uid && state.callback == call.callback && state.connection == call.connection) = true ∧
        call.connection ≠ 0 then .comparing camera
      else .scanning (some camera)
  | .comparing camera =>
    if (world.service.service.objects camera).any (·.configuration == call.token) = true ∧ 0 < call.token then
      some (.seating camera ((world.service.service.objects camera).any (·.connection == call.connection) &&
        !world.service.service.midway camera))
    else some (.scanning (some camera))
  | .seating camera whole =>
    match world.service.service.slotByCameraId camera with
    | some slot =>
      if (world.service.service.slots slot).owns camera then some (.matched { camera, slot, whole })
      else some (.scanning (some camera))
    | none => some (.scanning (some camera))
  | .matched found => (world.service.service.objects found.camera).map fun state => .asking found state.connection
  | .asking found connection =>
    answer.bind fun hal =>
      if world.relay.relay.readiness hal connection then some (.sending found connection hal) else none
  | .sending .. => none

def proceed (world : PlatformWorld) (thread : Nat) (answer : Option HalHandle) (call : Readiness) :
    Readying → PlatformWorld
  | .sending found _ hal =>
    if answer = some hal ∧ hal ∉ world.dead then
      (world.setReadying thread none).runs hal (.control (.setConfigurationReady found.slot call.token call.ready))
    else world.setReadying thread none
  | stage => world.setReadying thread ((world.advance call answer stage).map (call, ·))

def perform (world : PlatformWorld) : PlatformLabel → Option PlatformWorld
  | .service move =>
    if move.hears then none
    else
      (world.service.perform move).map fun service =>
        { world with service, registered := move.registers world.service.service ++ world.registered }
  | .relay label =>
    if label.admits then none
    else
      (world.relay.perform label).map fun relay =>
        { world with relay, connections := label.connects relay.relay.connectionEpoch world.connections }
  | .link version =>
    match world.relay.connecting with
    | some (.linking epoch hal) =>
      if hal ∉ world.dead then some (world.runs hal (.control (.setCallback (some epoch) version))) else none
    | _ => none
  | .hal handle event =>
    if event.links = false ∧ handle ∉ world.dead ∧ (world.hals handle).Allowed event then
      some (world.runs handle event)
    else none
  | .die handle => some { world with dead := insert handle world.dead }
  | .deliver thread announcement =>
    if announcement ∈ world.flight then world.deliver thread announcement else none
  | .setProducerReady thread call =>
    if world.readying thread = none then some (world.setReadying thread (some (call, .scanning none))) else none
  | .proceed thread answer =>
    (world.readying thread).map fun (call, stage) => world.proceed thread answer call stage

def Step (world : PlatformWorld) (label : PlatformLabel) (after : PlatformWorld) : Prop :=
  world.perform label = some after

end PlatformWorld

end VirtualCamera
