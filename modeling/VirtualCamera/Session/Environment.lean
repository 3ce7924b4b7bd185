import VirtualCamera.Core.HandleImporterCompat
import VirtualCamera.Core.MetadataBuilder
import VirtualCamera.Hal.StableHal
import VirtualCamera.Shared.Interaction

set_option autoImplicit false

namespace VirtualCamera

open Descriptors Interaction

-- An imported `buffer_handle_t`.
abbrev Handle := Nat

inductive CameraStatus where
  | ok
  | illegalArgument
  | internalError
deriving DecidableEq, Repr

inductive BufferStatus where
  | ok
  | error
deriving DecidableEq, Repr

inductive ErrorCode where
  | errorRequest
  | errorBuffer
deriving DecidableEq, Repr

-- A descriptor entry whose `get()` is negative is `none`.
structure NativeHandle where
  fds : List (Option Fd) := []
  ints : List Int := []
deriving DecidableEq, Repr

structure StreamBuffer where
  streamId : Int
  bufferId : Nat
  buffer : NativeHandle := {}
  status : BufferStatus := .ok
  acquireFence : NativeHandle := {}
  releaseFence : NativeHandle := {}
deriving DecidableEq, Repr

structure CaptureRequest where
  frameNumber : Int
  settings : CameraMetadata := none
  fmqSettingsSize : Int := 0
  inputStreamId : Int := -1
  outputBuffers : List StreamBuffer := []
deriving DecidableEq, Repr

structure BufferCache where
  streamId : Int
  bufferId : Nat
deriving DecidableEq, Repr

inductive NotifyMsg where
  | shutter (frameNumber timestamp readoutTimestamp : Int)
  | error (frameNumber errorStreamId : Int) (errorCode : ErrorCode)
deriving DecidableEq, Repr

structure CaptureResult where
  frameNumber : Int
  fmqResultSize : Int := 0
  result : CameraMetadata := none
  outputBuffers : List StreamBuffer := []
  inputStreamId : Int := -1
  partialResult : Int := 0
deriving DecidableEq, Repr

inductive HalCall where
  | registrationCurrent (slot registration : Int)
  | allocateSessionIdentity
  | notifyStreamsConfigured (slot owner width height fps : Int)
  | notifyCameraClosed (slot owner configurationToken : Int)
  | acquireLatest (slot : Int) (afterSequence : Nat) (configurationToken : Int)
  | isFrameCurrent (slot : Int) (buffer : Ahb) (sequence : Nat) (configurationToken : Int)
  | releaseFrame (slot : Int) (buffer : Ahb) (readFences : List Fd)

abbrev HalCall.Reply : HalCall → Type
  | .registrationCurrent .. => Bool
  | .allocateSessionIdentity => Int
  | .notifyStreamsConfigured .. => Int
  | .notifyCameraClosed .. => Unit
  | .acquireLatest .. => Option Acquired
  | .isFrameCurrent .. => Bool
  | .releaseFrame .. => Unit

def HalCall.answer (hal : StableHal) : (call : HalCall) → call.Reply × StableHal
  | .registrationCurrent slot registration => (hal.registrationCurrent slot registration, hal)
  | .allocateSessionIdentity => hal.allocateSessionIdentity
  | .notifyStreamsConfigured slot owner width height fps =>
    let (token, _, hal) := hal.notifyStreamsConfigured slot owner width height fps
    (token, hal)
  | .notifyCameraClosed slot owner token => ((), (hal.notifyCameraClosed slot owner token).2)
  | .acquireLatest slot afterSequence token => hal.acquireLatest slot true true afterSequence token
  | .isFrameCurrent slot buffer sequence token => (hal.isFrameCurrent slot buffer sequence token, hal)
  | .releaseFrame slot buffer fences => ((), hal.releaseFrame slot buffer fences)

-- The EGL and GL steps of the compositor whose outcome it reads or whose effect is on a target.
inductive GlCall where
  | ensureInit
  | makeCurrent
  | dropContext
  | nativeFence
  | ensureYuvTargets (width height : Int)
  | importSync (fd : Fd)
  | waitSync
  | imageFromAhb (buffer : Ahb)
  | imageFromHandle (handle : Handle) (width height stride format : Int)
  | framebufferComplete
  | clear
  | drawTarget (handle : Handle)
  | drawPacked
  | noError
  | createSync
  | dupNativeFence
  | finish
  | copyPlanes (target : YCbCrBuffer) (width height : Int)

abbrev GlCall.Reply : GlCall → Type
  | .dropContext | .clear | .drawTarget _ | .drawPacked | .finish => Unit
  | .dupNativeFence => Option Fd
  | _ => Bool

inductive Call where
  | loadClosed
  | exchangeClosed
  | storeClosed
  | loadCancelEpoch
  | bumpCancelEpoch
  | loadFlushing
  | storeFlushing (flushing : Bool)
  | steadyClock
  | waitFor (nanos : Int)
  | deadline (budget : Int)
  | poll
  | dup (fd : Fd)
  | closeFd (fd : Fd)
  | syncWait (fd : Fd) (timeoutMs : Int)
  | importBuffer (buffer : NativeHandle)
  | freeBuffer (handle : Handle)
  | lock (handle : Handle) (capacity : Int)
  | lockYCbCr (handle : Handle) (width height : Int)
  | unlock (handle : Handle)
  | stableHal
  | hal (call : HalCall)
  -- `mOutputRenderAttempts++`, with the position of the output it is for.
  | renderAttempt (output : Nat)
  | encodeToBlob (source : Ahb) (width height quality : Int) (capacity : Int)
  | fillFromAHardwareBuffer (handle : Handle) (width height : Int) (source : Ahb)
  | gl (call : GlCall)
  | notify (messages : List NotifyMsg)
  | processCaptureResult (results : List CaptureResult)

-- A deadline answers how many more looks at the clock will find it ahead.
abbrev Call.Reply : Call → Type
  | .loadClosed | .exchangeClosed | .loadFlushing | .stableHal => Bool
  | .syncWait .. | .fillFromAHardwareBuffer .. | .lock .. => Bool
  | .loadCancelEpoch | .deadline _ | .encodeToBlob .. => Nat
  | .steadyClock => Int
  | .dup _ => Option Fd
  | .importBuffer _ => Option Handle
  | .lockYCbCr .. => YCbCrBuffer
  | .hal call => call.Reply
  | .gl call => call.Reply
  | _ => Unit

abbrev Environment : Signature where
  Request := Call
  Reply := Call.Reply

abbrev Action (σ A : Type) := Process Environment σ A

variable {σ : Type}

def HalCall.succeed : (call : HalCall) → call.Reply
  | .registrationCurrent .. | .isFrameCurrent .. => true
  | .allocateSessionIdentity | .notifyStreamsConfigured .. => (1 : Int)
  | .acquireLatest .. => some { ahb := 7, timestampNs := 9, sequence := 1, acquireFence := none }
  | .notifyCameraClosed .. | .releaseFrame .. => ()

def GlCall.succeed : (call : GlCall) → call.Reply
  | .dropContext | .clear | .drawTarget _ | .drawPacked | .finish => ()
  | .dupNativeFence => some 40
  | .ensureInit | .makeCurrent | .nativeFence | .ensureYuvTargets .. | .importSync _ | .waitSync => true
  | .imageFromAhb _ | .imageFromHandle .. | .framebufferComplete | .noError | .createSync => true
  | .copyPlanes .. => true

def Call.succeed : (call : Call) → call.Reply
  | .loadClosed | .exchangeClosed | .loadFlushing => false
  | .stableHal | .syncWait .. | .fillFromAHardwareBuffer .. | .lock .. => true
  | .loadCancelEpoch => (0 : Nat)
  | .deadline _ => (3 : Nat)
  | .encodeToBlob .. => (1000 : Nat)
  | .steadyClock => (5 : Int)
  | .dup fd => some (fd + 1)
  | .importBuffer _ => some (2 : Nat)
  | .lockYCbCr .. => { y := some 1, cb := some 2, cr := some 3 }
  | .hal call => call.succeed
  | .gl call => call.succeed
  | .storeClosed | .bumpCancelEpoch | .storeFlushing _ | .waitFor _ | .poll | .closeFd _ => ()
  | .freeBuffer _ | .unlock _ | .renderAttempt _ | .notify _ | .processCaptureResult _ => ()

def ask (call : Call) : Action σ call.Reply := Process.perform (S := Environment) call

def askHal (call : HalCall) : Action σ call.Reply := ask (.hal call)

def askGl (call : GlCall) : Action σ call.Reply := ask (.gl call)

-- Calls on the session's own flags and clock, which do not bear on a capture.
def Call.plain : Call → Bool
  | .loadClosed | .exchangeClosed | .storeClosed | .loadCancelEpoch | .bumpCancelEpoch => true
  | .loadFlushing | .storeFlushing _ | .steadyClock | .waitFor _ | .deadline _ | .poll => true
  | .closeFd _ | .stableHal => true
  | _ => false

def Call.caching : Call → Bool
  | .importBuffer _ | .freeBuffer _ => true
  | _ => false

def Call.steady : Call → Bool
  | .exchangeClosed | .storeClosed | .bumpCancelEpoch | .storeFlushing _ => false
  | call => call.plain

section Rules

variable {M : Type} {monitor : Monitor Environment M} {seen : M} {quiet : Call → Bool}

theorem wp_ask (call : Call) (state : σ) (post : call.Reply → σ → M → Prop) :
    (ask call).wp monitor state seen post ↔ ∀ reply : call.Reply,
      monitor.permits seen ⟨call, reply⟩ ∧ post reply state (monitor.observe seen ⟨call, reply⟩) :=
  Iff.rfl

theorem wp_ask_quiet (ignores : monitor.Ignores seen quiet) (call : Call)
    (silent : quiet call = true) (state : σ) (post : call.Reply → σ → M → Prop) :
    (ask call).wp monitor state seen post ↔ ∀ reply, post reply state seen :=
  Process.wp_quiet state seen ignores call silent post

theorem unheard_ask (ignores : monitor.Ignores seen quiet) (call : Call)
    (silent : quiet call = true) : Process.Unheard monitor seen (ask call : Action σ call.Reply) :=
  Process.unheard_perform ignores call silent

end Rules

end VirtualCamera
