import VirtualCamera.Session.CallbackProtocol
import VirtualCamera.Session.Renegotiation

set_option autoImplicit false

namespace VirtualCamera

open Descriptors Interaction Interaction.Process

namespace VirtualCameraSession

inductive Stage where
  | unreserved
  | unimported
  | trap
  | untouched (pending : List (Option Fd)) (source : Option Acquired)
  | ready (timestamp frameDurationNs : Int) (source : Acquired)

inductive Sourced where
  | missing
  | unready (source : Acquired)
  | ready (frameDurationNs : Int) (source : Acquired)

def pinSource (cancelEpoch polls : Nat) (frameDurationNs : Int) (source : Acquired) :
    Action VirtualCameraSession Sourced := do
  if ← cancelled cancelEpoch then pure (.unready source)
  else
    modify fun session => { session with lastSourceSequence := source.sequence }
    if ← sourceReady cancelEpoch source polls then pure (.ready frameDurationNs source)
    else pure (.unready source)

def awaitSource (cancelEpoch : Nat) : Action VirtualCameraSession Sourced := do
  let session ← get
  let frameDurationNs := frameDuration session.targetFps
  let hal ← ask .stableHal
  if !hal || session.configurationToken ≤ 0 then pure .missing
  else
    let polls ← startDeadline frameDurationNs
    match ← pollSource cancelEpoch polls with
    | (none, _) => pure .missing
    | (some source, polls) => pinSource cancelEpoch polls frameDurationNs source

def Sourced.stage (timestamp : Int) (pending : List (Option Fd)) : Sourced → Stage
  | .missing => .untouched pending none
  | .unready source => .untouched pending (some source)
  | .ready frameDurationNs source => .ready timestamp frameDurationNs source

def readyTargets (cancelEpoch : Nat) (fences : List (Option Fd)) : Action VirtualCameraSession Stage := do
  match ← waitDestinations cancelEpoch fences with
  | some pending => pure (.untouched pending none)
  | none =>
    let pending := fences.map fun _ => none
    match ← paceFrame cancelEpoch with
    | none => pure .trap
    | some timestamp =>
      if ← cancelled cancelEpoch then pure (.untouched pending none)
      else
        let sourced ← awaitSource cancelEpoch
        pure (sourced.stage timestamp pending)

def abandon (fences : List (Option Fd)) : Action VirtualCameraSession Stage := do
  let _ ← close
  closeFds fences
  pure .unreserved

def prepare (request : CaptureRequest) (cancelEpoch : Nat) (fences : List (Option Fd)) :
    Action VirtualCameraSession Stage := do
  if !(← importBuffers request.outputBuffers) then
    closeFds fences
    pure .unimported
  else readyTargets cancelEpoch fences

def prologue (request : CaptureRequest) (cancelEpoch : Nat) : Action VirtualCameraSession Stage := do
  let (kept, fences) ← reserveFences request.outputBuffers
  if !kept then abandon fences
  else prepare request cancelEpoch fences

def releaseUnready : Option Acquired → Action VirtualCameraSession Unit
  | none => pure ()
  | some source => releaseSource source source.acquireFence.toList

def conclude (request : CaptureRequest) (cancelEpoch : Nat) : Stage → Action VirtualCameraSession Outcome
  | .unreserved => pure (.status .internalError)
  | .unimported => pure (.status .illegalArgument)
  | .trap => pure .trap
  | .untouched pending source => do
    let outcome ← failUntouched request pending
    releaseUnready source
    pure outcome
  | .ready timestamp frameDurationNs source => do
    closeFds [source.acquireFence]
    let (buffers, fences) ← processOutputs cancelEpoch source 0 request.outputBuffers
    let outcome ← deliver request timestamp frameDurationNs source.timestampNs buffers
    releaseSource source fences
    pure outcome

theorem captureFrom_eq (request : CaptureRequest) (cancelEpoch : Nat) (timestamp frameDurationNs : Int)
    (pending : List (Option Fd)) (source : Acquired) (polls : Nat) :
    captureFrom request cancelEpoch timestamp frameDurationNs pending source polls =
      pinSource cancelEpoch polls frameDurationNs source >>= fun sourced =>
        conclude request cancelEpoch (sourced.stage timestamp pending) := by
  simp only [captureFrom, pinSource, bind_assoc]
  refine bind_congr fun stopped => ?_
  cases stopped
  case true => simp [conclude, Sourced.stage, releaseUnready]
  case false =>
    simp only [Bool.false_eq_true, if_false, bind_assoc]
    refine bind_congr fun _ => bind_congr fun ready => ?_
    cases ready <;> simp [conclude, Sourced.stage, releaseUnready]

theorem captureSource_eq (request : CaptureRequest) (cancelEpoch : Nat) (timestamp : Int)
    (pending : List (Option Fd)) :
    captureSource request cancelEpoch timestamp pending =
      awaitSource cancelEpoch >>= fun sourced => conclude request cancelEpoch (sourced.stage timestamp pending) := by
  simp only [captureSource, awaitSource, bind_assoc]
  refine bind_congr fun session => bind_congr fun hal => ?_
  split
  · simp [conclude, Sourced.stage, releaseUnready]
  · simp only [bind_assoc]
    refine bind_congr fun polls => bind_congr fun polled => ?_
    obtain ⟨source, left⟩ := polled
    cases source with
    | none => simp [conclude, Sourced.stage, releaseUnready]
    | some source => exact captureFrom_eq request cancelEpoch timestamp _ pending source left

theorem processSingleRequest_eq (request : CaptureRequest) (cancelEpoch : Nat) :
    processSingleRequest request cancelEpoch = prologue request cancelEpoch >>= conclude request cancelEpoch := by
  simp only [processSingleRequest, prologue, bind_assoc]
  refine bind_congr fun reserved => ?_
  obtain ⟨kept, fences⟩ := reserved
  cases kept
  case false => simp [abandon, conclude]
  case true =>
    simp only [Bool.not_true, Bool.false_eq_true, if_false, prepare, bind_assoc]
    refine bind_congr fun imported => ?_
    cases imported
    case false => simp [conclude]
    case true =>
      simp only [Bool.not_true, Bool.false_eq_true, if_false, captureReserved, readyTargets, bind_assoc]
      refine bind_congr fun waited => ?_
      cases waited with
      | some pending => simp [conclude, releaseUnready]
      | none =>
        simp only [bind_assoc]
        refine bind_congr fun paced => ?_
        cases paced with
        | none => simp [conclude]
        | some timestamp =>
          simp only [bind_assoc]
          refine bind_congr fun stopped => ?_
          cases stopped
          case true => simp [conclude, releaseUnready]
          case false => simp [captureSource_eq]

end VirtualCameraSession

end VirtualCamera
