import VirtualCamera.Session.Capture
import VirtualCamera.Shared.Runs

set_option autoImplicit false

namespace VirtualCamera

open Descriptors Interaction Interaction.Process Runs

inductive SessionOp where
  | construct
  | configureStreams (requested : List Stream)
  | updateTargetFps (settings : CameraMetadata)
  | processCaptureRequest (requests : List CaptureRequest) (cachesToRemove : List BufferCache)
  | flush
  | close

namespace SessionOp

def settings : SessionOp → List CameraMetadata
  | .updateTargetFps settings => [settings]
  | .processCaptureRequest requests _ => requests.map (·.settings)
  | _ => []

def perform : SessionOp → Action VirtualCameraSession Unit
  | .construct => VirtualCameraSession.construct
  | .configureStreams requested => do
    let _ ← VirtualCameraSession.configureStreams requested
  | .updateTargetFps settings => do
    let _ ← VirtualCameraSession.updateTargetFps settings
  | .processCaptureRequest requests cachesToRemove => do
    let _ ← VirtualCameraSession.processCaptureRequest requests cachesToRemove
  | .flush => do
    let _ ← VirtualCameraSession.flush
  | .close => do
    let _ ← VirtualCameraSession.close

def Performs (before : VirtualCameraSession) (op : SessionOp) (after : VirtualCameraSession) : Prop :=
  ∃ events, (op.perform before).Execution events ((), after)

def succeed (session : VirtualCameraSession) (op : SessionOp) : VirtualCameraSession :=
  ((op.perform session).replay Call.succeed).2.2

theorem performs_succeed (session : VirtualCameraSession) (op : SessionOp) :
    op.Performs session (op.succeed session) :=
  ⟨_, Program.replay_execution Call.succeed (op.perform session)⟩

theorem run_succeed (session : VirtualCameraSession) (ops : List SessionOp) :
    Run Performs session ops (ops.foldl succeed session) := by
  induction ops using List.reverseRecOn with
  | nil => exact .refl
  | append_singleton ops op ih =>
    rw [List.foldl_append]
    exact .snoc ih (performs_succeed _ op)

end SessionOp

inductive CaptureStage where
  | refusing
  | evict (cachesToRemove : List BufferCache)
  | reserve (buffers : List StreamBuffer)
  | importAll (buffers : List StreamBuffer)
  | awaitDestinations (cancelEpoch : Nat) (fences : List (Option Fd))
  | closeFences (fences : List (Option Fd))
  | fail (request : CaptureRequest) (pending : List (Option Fd))
  | source (request : CaptureRequest) (cancelEpoch : Nat) (timestamp : Int) (pending : List (Option Fd))

def discard {A : Type} (action : Action VirtualCameraSession A) : Action VirtualCameraSession Unit := do
  let _ ← action

namespace CaptureStage

open VirtualCameraSession

def perform : CaptureStage → Action VirtualCameraSession Unit
  | .refusing => discard VirtualCameraSession.refusing
  | .evict cachesToRemove => removeBuffersFromCache cachesToRemove
  | .reserve buffers => discard (reserveFences buffers)
  | .importAll buffers => discard (importBuffers buffers)
  | .awaitDestinations cancelEpoch fences => discard (waitDestinations cancelEpoch fences)
  | .closeFences fences => closeFds fences
  | .fail request pending => discard (failUntouched request pending)
  | .source request cancelEpoch timestamp pending => discard (captureSource request cancelEpoch timestamp pending)

end CaptureStage

def previewStream : Stream := { id := 0, width := 640, height := 480, format := 0x23 }

def rangeBlob (low high : Int) : MetadataBlob :=
  { structureValid := true, entries := [.aeTargetFpsRange [low, high]] }

def rangeSettings (low high : Int) : CameraMetadata := some (rangeBlob low high)

def previewRequest (settings : CameraMetadata) : CaptureRequest :=
  { frameNumber := 1
    settings
    outputBuffers := [{ streamId := 0, bufferId := 1, buffer := { fds := [some 3] } }] }

def previewSession : VirtualCameraSession :=
  { sessionIdentity := 1
    outputs := [previewStream.output]
    sourceMode :=
      { id := 4, width := 640, height := 480, minFps := 15, maxFps := 60
        formats := [1, 0x22, 0x23, 0x21], downscale := true }
    configurationToken := 1
    streams := fun id => if id = 0 then some previewStream else none }

end VirtualCamera
