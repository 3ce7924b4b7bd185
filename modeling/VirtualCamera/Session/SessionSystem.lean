import VirtualCamera.Hal.Evolution
import VirtualCamera.Hal.HalWorld
import VirtualCamera.Session.Operations
import VirtualCamera.Shared.Interleaving

set_option autoImplicit false

namespace VirtualCamera

open Interaction Interaction.Process Interleaving Runs

structure Flags where
  closed : Bool := false
  flushing : Bool := false
  cancelEpoch : Nat := 0
deriving DecidableEq, Repr

-- What the sessions share: the HAL with its other callers, the devices that the provider has handed
-- out, and each session's atomics. `sent` are the HAL's callbacks to the platform so far.
structure Shared where
  world : HalWorld := {}
  devices : List (Slot × ProducerCapabilities) := []
  flags : Nat → Flags := fun _ => {}
  sent : List (Binder × HalMessage) := []

namespace Shared

def hal (shared : Shared) : StableHal := shared.world.hal

def withHal (shared : Shared) (hal : StableHal) : Shared :=
  { shared with world := { shared.world with hal } }

def setFlags (shared : Shared) (id : Nat) (flags : Flags) : Shared :=
  { shared with flags := Function.update shared.flags id flags }

@[simp] theorem withHal_hal (shared : Shared) (hal : StableHal) : (shared.withHal hal).hal = hal := rfl

@[simp] theorem withHal_flags (shared : Shared) (hal : StableHal) : (shared.withHal hal).flags = shared.flags := rfl

@[simp] theorem setFlags_hal (shared : Shared) (id : Nat) (flags : Flags) :
    (shared.setFlags id flags).hal = shared.hal := rfl

@[simp] theorem setFlags_self (shared : Shared) (id : Nat) (flags : Flags) :
    (shared.setFlags id flags).flags id = flags := Function.update_self _ _ _

end Shared

def HalCall.sends (hal : StableHal) : HalCall → List (Binder × HalMessage)
  | .notifyStreamsConfigured slot owner width height fps =>
    (hal.notifyStreamsConfigured slot owner width height fps).2.1.toList
  | .notifyCameraClosed slot owner token => (hal.notifyCameraClosed slot owner token).1.toList
  | _ => []

-- Each reply that the shared state settles. The singleton is up as long as there are sessions.
def respond (id : Nat) (shared : Shared) (choice : (call : Call) → call.Reply) :
    (call : Call) → call.Reply × Shared
  | .loadClosed => ((shared.flags id).closed, shared)
  | .exchangeClosed =>
    ((shared.flags id).closed, shared.setFlags id { shared.flags id with closed := true })
  | .storeClosed => ((), shared.setFlags id { shared.flags id with closed := true })
  | .loadCancelEpoch => ((shared.flags id).cancelEpoch, shared)
  | .bumpCancelEpoch =>
    ((), shared.setFlags id { shared.flags id with cancelEpoch := (shared.flags id).cancelEpoch + 1 })
  | .loadFlushing => ((shared.flags id).flushing, shared)
  | .storeFlushing flushing => ((), shared.setFlags id { shared.flags id with flushing })
  | .stableHal => (true, shared)
  | .hal call =>
    let (reply, hal) := call.answer shared.hal
    (reply, { shared.withHal hal with sent := shared.sent ++ call.sends shared.hal })
  | call => (choice call, shared)

-- What a new session is made from. A device carries the descriptor that the provider found.
structure SessionOptions where
  slot : Slot
  capabilities : Option ProducerCapabilities := none
  forceCpuYuv : Bool := false
  profileDeadlineFrames : Int := 1
  profileClearOutput : Bool := false
deriving DecidableEq, Repr

inductive FrameworkCall where
  | configureStreams (requested : List Stream)
  | processCaptureRequest (requests : List CaptureRequest) (cachesToRemove : List BufferCache)
  | flush
  | close

inductive FrameworkReply where
  | status (status : CameraStatus)
  | configured (status : CameraStatus) (halStreams : List HalStream)
  | captured (outcome : VirtualCameraSession.Outcome) (processed : Nat)
deriving DecidableEq, Repr

def HalEvent.ofSession : HalEvent → Bool
  | .control .allocateSessionIdentity => true
  | .control (.notifyStreamsConfigured ..) => true
  | .control (.notifyCameraClosed ..) => true
  | .acquire .. | .release .. => true
  | _ => false

inductive SharedChange where
  | hal (event : HalEvent)
  | getCameraDeviceInterface (slot : Slot)

namespace SessionSystem

open VirtualCameraSession

def initial (options : SessionOptions) : VirtualCameraSession :=
  .initial (options.slot : Nat) options.capabilities options.forceCpuYuv options.profileDeadlineFrames
    options.profileClearOutput

def create : Action VirtualCameraSession FrameworkReply := do
  construct
  pure (.status .ok)

-- What `close` and `flush` do before they ask for `mRequestLock`.
def request : FrameworkCall → Program Environment Bool
  | .close => .call .exchangeClosed fun wasClosed => .call .bumpCancelEpoch fun _ => .ret wasClosed
  | .flush => .call (.storeFlushing true) fun _ => .call .bumpCancelEpoch fun _ => .ret false
  | _ => .ret false

def closeLocked (wasClosed : Bool) : Action VirtualCameraSession CameraStatus :=
  if wasClosed then pure .ok
  else do
    notifyClosed
    ask .storeClosed
    pure .ok

def flushLocked : Action VirtualCameraSession CameraStatus := do
  modify fun session => { session with nextFrameNs := 0 }
  ask (.storeFlushing false)
  pure .ok

def serve (call : FrameworkCall) (wasClosed : Bool) : Action VirtualCameraSession FrameworkReply :=
  match call with
  | .configureStreams requested => do
    let (status, halStreams) ← VirtualCameraSession.configureStreams requested
    pure (.configured status halStreams)
  | .processCaptureRequest requests cachesToRemove => do
    let (outcome, processed) ← VirtualCameraSession.processCaptureRequest requests cachesToRemove
    pure (.captured outcome processed)
  | .flush => do
    let status ← flushLocked
    pure (.status status)
  | .close => do
    let status ← closeLocked wasClosed
    pure (.status status)

def admits (shared : Shared) (options : SessionOptions) : Bool :=
  options.capabilities.all fun descriptor => decide ((options.slot, descriptor) ∈ shared.devices)

def change (shared : Shared) : SharedChange → Option Shared
  | .hal event =>
    if event.ofSession = false ∧ shared.world.Allowed event then
      some { shared with world := shared.world.perform event }
    else none
  | .getCameraDeviceInterface slot =>
    (shared.hal.capabilities (slot : Nat)).map fun descriptor =>
      { shared with devices := (slot, descriptor) :: shared.devices }

def sessions : System Environment SessionOptions VirtualCameraSession Shared FrameworkCall Bool FrameworkReply
    ((call : Call) → call.Reply) SharedChange where
  admits
  initial
  create := create
  request
  serve := serve
  respond
  change

abbrev SessionActivity := Activity Environment SessionOptions VirtualCameraSession FrameworkCall Bool FrameworkReply

abbrev SessionWorld := World Environment SessionOptions VirtualCameraSession Shared FrameworkCall Bool FrameworkReply

abbrev SessionLabel := Label SessionOptions FrameworkCall ((call : Call) → call.Reply) SharedChange

def boot (provider : Bool) (outcome : Nat → Bool) : SessionWorld :=
  { shared := { world := .boot provider outcome } }

-- Nobody in between, an operation is the one of the sequential model.
theorem close_eq (session : VirtualCameraSession) :
    close session = ((request .close).bind fun wasClosed => closeLocked wasClosed session) := by
  refine congrArg (Program.call _) (funext fun wasClosed => ?_)
  cases wasClosed <;> rfl

theorem flush_eq (session : VirtualCameraSession) :
    flush session = ((request .flush).bind fun _ => flushLocked session) := rfl

def Call.entering : Call → Bool
  | .exchangeClosed | .bumpCancelEpoch | .storeFlushing true => true
  | _ => false

theorem request_entering {call : FrameworkCall} {events : List (Event Environment)} {asked : Call}
    {next : asked.Reply → Program Environment Bool}
    (reaches : (request call).Reaches events (.call asked next)) : Call.entering asked = true := by
  cases call with
  | close =>
    rcases reaches with _ | ⟨_, _, _, _, _, _ | ⟨_, _, _, _, _, later⟩⟩
    · rfl
    · rfl
    · cases later
  | flush =>
    rcases reaches with _ | ⟨_, _, _, _, _, _ | ⟨_, _, _, _, _, later⟩⟩
    · rfl
    · rfl
    · cases later
  | configureStreams requested => cases reaches
  | processCaptureRequest requests cachesToRemove => cases reaches

theorem Call.entering_plain {call : Call} (enters : Call.entering call = true) : call.plain = true := by
  cases call <;> first | rfl | simp [Call.entering] at enters

theorem request_plain {call : FrameworkCall} {events : List (Event Environment)} {asked : Call}
    {next : asked.Reply → Program Environment Bool}
    (reaches : (request call).Reaches events (.call asked next)) : asked.plain = true :=
  Call.entering_plain (request_entering reaches)

theorem respond_same (id : Nat) (shared : Shared) (choice : (call : Call) → call.Reply) (call : Call)
    (silent : ∀ asked, call ≠ .hal asked) :
    (respond id shared choice call).2.world = shared.world ∧
      (respond id shared choice call).2.devices = shared.devices ∧
      (respond id shared choice call).2.sent = shared.sent := by
  cases call with
  | hal asked => exact absurd rfl (silent asked)
  | _ => exact ⟨rfl, rfl, rfl⟩

end SessionSystem

def HalCall.control : HalCall → Option ControlOp
  | .allocateSessionIdentity => some .allocateSessionIdentity
  | .notifyStreamsConfigured slot owner width height fps =>
    some (.notifyStreamsConfigured slot owner width height fps)
  | .notifyCameraClosed slot owner token => some (.notifyCameraClosed slot owner token)
  | _ => none

theorem HalCall.evolves (hal : StableHal) (call : HalCall) :
    (∃ op, call.control = some op ∧ (call.answer hal).2 = op.run hal) ∨
      call.control = none ∧ StableHal.Quiet hal (call.answer hal).2 := by
  have same : StableHal.Quiet hal hal := .of_same rfl rfl fun _ => ⟨⟨rfl, rfl, rfl, rfl⟩, rfl⟩
  cases call with
  | registrationCurrent slot registration => exact .inr ⟨rfl, same⟩
  | allocateSessionIdentity => exact .inl ⟨_, rfl, rfl⟩
  | notifyStreamsConfigured slot owner width height fps => exact .inl ⟨_, rfl, rfl⟩
  | notifyCameraClosed slot owner token => exact .inl ⟨_, rfl, rfl⟩
  | acquireLatest slot afterSequence token =>
    exact .inr ⟨rfl, (StableHal.acquireLatest_read hal slot true true afterSequence token).quiet⟩
  | isFrameCurrent slot buffer sequence token => exact .inr ⟨rfl, same⟩
  | releaseFrame slot buffer fences => exact .inr ⟨rfl, StableHal.releaseFrame_quiet hal slot buffer fences⟩

end VirtualCamera
