import VirtualCamera.Session.GpuCompositor
import VirtualCamera.Session.VirtualCameraSession

set_option autoImplicit false

namespace VirtualCamera

open Descriptors Interaction

namespace VirtualCameraSession

-- What a capture leaves behind: a status, or the trap of an integer division by zero.
inductive Outcome where
  | status (status : CameraStatus)
  | trap
deriving DecidableEq, Repr

def closeFds : List (Option Fd) → Action VirtualCameraSession Unit
  | [] => pure ()
  | none :: rest => closeFds rest
  | some fd :: rest => do
    ask (.closeFd fd)
    closeFds rest

-- The destination fences, duplicated before anything else; a failed dup gives up the rest.
def reserveFences : List StreamBuffer → Action VirtualCameraSession (Bool × List (Option Fd))
  | [] => pure (true, [])
  | buffer :: rest =>
    match buffer.acquireFence.fds.head? with
    | none => do
      let (kept, fences) ← reserveFences rest
      pure (kept, none :: fences)
    | some original => do
      match ← original.elim (pure none) fun fd => ask (.dup fd) with
      | none => pure (false, [])
      | some fd => do
        let (kept, fences) ← reserveFences rest
        pure (kept, some fd :: fences)

def importBuffer (buffer : StreamBuffer) : Action VirtualCameraSession (Option Handle) := do
  let session ← get
  match session.cached (buffer.streamId, buffer.bufferId) with
  | some handle => pure (some handle)
  | none =>
    if buffer.buffer.fds.isEmpty then pure none
    else
      match ← ask (.importBuffer buffer.buffer) with
      | none => pure none
      | some handle => do
        modify fun session =>
          { session with
            bufferCache := ((buffer.streamId, buffer.bufferId), handle) :: session.bufferCache }
        pure (some handle)

def importBuffers : List StreamBuffer → Action VirtualCameraSession Bool
  | [] => pure true
  | buffer :: rest => do
    match ← importBuffer buffer with
    | none => pure false
    | some _ => importBuffers rest

def removeBuffersFromCache : List BufferCache → Action VirtualCameraSession Unit
  | [] => pure ()
  | cache :: rest => do
    let session ← get
    match session.cached (cache.streamId, cache.bufferId) with
    | none => removeBuffersFromCache rest
    | some handle => do
      ask (.freeBuffer handle)
      modify fun session =>
        { session with
          bufferCache := session.bufferCache.filter fun entry =>
            entry.1 != (cache.streamId, cache.bufferId) }
      removeBuffersFromCache rest

def destinationSignalled : Option Fd → Action VirtualCameraSession Bool
  | none => pure true
  | some fd => ask (.syncWait fd 100)

-- `none` once every destination is writable; otherwise the fences still pending, in order.
def waitDestinations (cancelEpoch : Nat) :
    List (Option Fd) → Action VirtualCameraSession (Option (List (Option Fd)))
  | [] => pure none
  | fence :: rest => do
    if ← cancelled cancelEpoch then pure (some (fence :: rest))
    else
      let signalled ← destinationSignalled fence
      if !signalled then pure (some (fence :: rest))
      else
        closeFds [fence]
        let pending ← waitDestinations cancelEpoch rest
        pure (pending.map fun pending => none :: pending)

def waitUntil (now next : Int) : Action VirtualCameraSession Unit :=
  if now < next then ask (.waitFor (next - now)) else pure ()

-- `none` is the trap; a cancelled wait returns the source's zero.
def paceFrame (cancelEpoch : Nat) : Action VirtualCameraSession (Option Int) := do
  let session ← get
  if session.targetFps = 0 then pure none
  else
    let interval := frameDuration session.targetFps
    let now ← ask .steadyClock
    let next := if session.nextFrameNs = 0 ∨ session.nextFrameNs + interval < now then now
      else session.nextFrameNs
    modify fun session => { session with nextFrameNs := next }
    waitUntil now next
    if ← cancelled cancelEpoch then pure (some 0)
    else
      modify fun session => { session with nextFrameNs := next + interval }
      pure (some next)

def startupBudget : Int := 200000000

def startDeadline (frameDurationNs : Int) : Action VirtualCameraSession Nat := do
  let session ← get
  let budget := frameDurationNs * session.profileDeadlineFrames
  modify fun session => { session with startupWaitPending := false }
  ask (.deadline (if session.startupWaitPending then max budget startupBudget else budget))

def pollSource (cancelEpoch : Nat) : Nat → Action VirtualCameraSession (Option Acquired × Nat)
  | 0 => do
    if ← cancelled cancelEpoch then pure (none, 0)
    else
      let session ← get
      let source ← askHal (.acquireLatest session.slot session.lastSourceSequence
        session.configurationToken)
      pure (source, 0)
  | polls + 1 => do
    if ← cancelled cancelEpoch then pure (none, polls + 1)
    else
      let session ← get
      match ← askHal (.acquireLatest session.slot session.lastSourceSequence
        session.configurationToken) with
      | some source => pure (some source, polls + 1)
      | none => do
        ask .poll
        pollSource cancelEpoch polls

def frameCurrent (source : Acquired) : Action VirtualCameraSession Bool := do
  let session ← get
  askHal (.isFrameCurrent session.slot source.ahb source.sequence session.configurationToken)

def sourceWanted (cancelEpoch : Nat) (source : Acquired) : Action VirtualCameraSession Bool := do
  if ← cancelled cancelEpoch then pure false
  else frameCurrent source

def waitSourceFence (cancelEpoch : Nat) (source : Acquired) (fence : Fd) :
    Nat → Action VirtualCameraSession Bool
  | 0 => do
    if ← ask (.syncWait fence 0) then pure true
    else
      let _ ← sourceWanted cancelEpoch source
      pure false
  | polls + 1 => do
    if ← ask (.syncWait fence 0) then pure true
    else if !(← sourceWanted cancelEpoch source) then pure false
    else
      ask .poll
      waitSourceFence cancelEpoch source fence polls

def encodeJpeg (source : Ahb) (stream : Stream) (handle : Handle) : Action VirtualCameraSession Bool := do
  let session ← get
  let capacity := if 0 < stream.bufferSize then stream.bufferSize else MetadataBuilder.kJpegMaxSize
  if ← ask (.lock handle capacity) then
    let written ← ask (.encodeToBlob source stream.width stream.height session.jpegQuality capacity)
    ask (.unlock handle)
    pure (decide (0 < written))
  else pure false

def convertYcbcr (source : Ahb) (stream : Stream) (handle : Handle) : Action VirtualCameraSession Bool := do
  let session ← get
  if stream.format != 0x23 || session.forceCpuYuv then pure false
  else
    let target ← ask (.lockYCbCr handle stream.width stream.height)
    if target.y.isNone then pure false
    else
      let filled ← GpuCompositor.compositeToYcbcr source none target stream.width stream.height
      ask (.unlock handle)
      pure filled

def renderOutput (source : Ahb) (stream : Stream) (handle : Handle) :
    Action VirtualCameraSession (Bool × Option Fd) := do
  if stream.format = blobFormat then
    let filled ← encodeJpeg source stream handle
    pure (filled, none)
  else if ← convertYcbcr source stream handle then pure (true, none)
  else
    let session ← get
    let (filled, fence) ← GpuCompositor.composite source none handle stream.width stream.height
      stream.width stream.format session.profileClearOutput
    if filled then pure (true, fence)
    else if ← acquireFenceReady none fun _ => pure false then
      let filled ← ask (.fillFromAHardwareBuffer handle stream.width stream.height source)
      pure (filled, fence)
    else pure (false, fence)

def resultBuffer (buffer : StreamBuffer) (filled : Bool) (fence : Option Fd) : StreamBuffer :=
  { streamId := buffer.streamId
    bufferId := buffer.bufferId
    status := if filled then .ok else .error
    releaseFence := { fds := (fence.map some).toList } }

-- The result buffer and the read fence that the output adds to the source's release.
def processOutput (cancelEpoch : Nat) (source : Acquired) (output : Nat) (buffer : StreamBuffer) :
    Action VirtualCameraSession (StreamBuffer × List Fd) := do
  let handle ← importBuffer buffer
  let session ← get
  match handle, session.streams buffer.streamId with
  | some handle, some stream => do
    if !(← sourceWanted cancelEpoch source) then pure (resultBuffer buffer false none, [])
    else
      ask (.renderAttempt output)
      match ← renderOutput source.ahb stream handle with
      | (filled, none) => pure (resultBuffer buffer filled none, [])
      | (filled, some done) => do
        let released ← ask (.dup done)
        pure (resultBuffer buffer filled released, [done])
  | _, _ => pure (resultBuffer buffer false none, [])

def processOutputs (cancelEpoch : Nat) (source : Acquired) :
    Nat → List StreamBuffer → Action VirtualCameraSession (List StreamBuffer × List Fd)
  | _, [] => pure ([], [])
  | output, buffer :: rest => do
    let (result, fences) ← processOutput cancelEpoch source output buffer
    let (results, later) ← processOutputs cancelEpoch source (output + 1) rest
    pure (result :: results, fences ++ later)

def untouchedBuffer (buffer : StreamBuffer) (pending : Option Fd) : StreamBuffer :=
  { streamId := buffer.streamId
    bufferId := buffer.bufferId
    status := .error
    releaseFence := { fds := (pending.map some).toList } }

def untouchedResult (request : CaptureRequest) (pending : List (Option Fd)) : CaptureResult :=
  { frameNumber := request.frameNumber
    outputBuffers := List.zipWith untouchedBuffer request.outputBuffers pending }

def failUntouched (request : CaptureRequest) (pending : List (Option Fd)) :
    Action VirtualCameraSession Outcome := do
  ask (.notify [.error request.frameNumber (-1) .errorRequest])
  ask (.processCaptureResult [untouchedResult request pending])
  pure (.status .ok)

def notifications (frameNumber timestamp : Int) (buffers : List StreamBuffer) : List NotifyMsg :=
  if buffers.any (·.status == .ok) then
    .shutter frameNumber timestamp timestamp ::
      (buffers.filter (·.status == .error)).map fun buffer =>
        .error frameNumber buffer.streamId .errorBuffer
  else [.error frameNumber (-1) .errorRequest]

def captureResult (frameNumber timestamp frameDurationNs producerTs width height : Int)
    (buffers : List StreamBuffer) : CaptureResult :=
  { frameNumber
    outputBuffers := buffers
    partialResult := if buffers.any (·.status == .ok) then 1 else 0
    result :=
      if buffers.any (·.status == .ok) then
        MetadataBuilder.buildResultMetadata timestamp frameDurationNs producerTs width height
      else none }

def deliver (request : CaptureRequest) (timestamp frameDurationNs producerTs : Int)
    (buffers : List StreamBuffer) : Action VirtualCameraSession Outcome := do
  ask (.notify (notifications request.frameNumber timestamp buffers))
  let session ← get
  ask (.processCaptureResult [captureResult request.frameNumber timestamp frameDurationNs producerTs
    session.sourceMode.width session.sourceMode.height buffers])
  pure (.status .ok)

-- The destructor of `CaptureSource`: it runs after the callbacks and gives the reservation back.
def releaseSource (source : Acquired) (fences : List Fd) : Action VirtualCameraSession Unit := do
  let session ← get
  askHal (.releaseFrame session.slot source.ahb fences)

def sourceSignalled (cancelEpoch : Nat) (source : Acquired) (polls : Nat) :
    Action VirtualCameraSession Bool :=
  match source.acquireFence with
  | none => pure true
  | some fence => waitSourceFence cancelEpoch source fence polls

def sourceReady (cancelEpoch : Nat) (source : Acquired) (polls : Nat) :
    Action VirtualCameraSession Bool := do
  let signalled ← sourceSignalled cancelEpoch source polls
  if !signalled then pure false
  else sourceWanted cancelEpoch source

def captureFrom (request : CaptureRequest) (cancelEpoch : Nat) (timestamp frameDurationNs : Int)
    (pending : List (Option Fd)) (source : Acquired) (polls : Nat) :
    Action VirtualCameraSession Outcome := do
  if ← cancelled cancelEpoch then
    let outcome ← failUntouched request pending
    releaseSource source source.acquireFence.toList
    pure outcome
  else
    modify fun session => { session with lastSourceSequence := source.sequence }
    if ← sourceReady cancelEpoch source polls then
      closeFds [source.acquireFence]
      let (buffers, fences) ← processOutputs cancelEpoch source 0 request.outputBuffers
      let outcome ← deliver request timestamp frameDurationNs source.timestampNs buffers
      releaseSource source fences
      pure outcome
    else
      let outcome ← failUntouched request pending
      releaseSource source source.acquireFence.toList
      pure outcome

def captureSource (request : CaptureRequest) (cancelEpoch : Nat) (timestamp : Int)
    (pending : List (Option Fd)) : Action VirtualCameraSession Outcome := do
  let session ← get
  let frameDurationNs := frameDuration session.targetFps
  let hal ← ask .stableHal
  if !hal || session.configurationToken ≤ 0 then failUntouched request pending
  else
    let polls ← startDeadline frameDurationNs
    match ← pollSource cancelEpoch polls with
    | (none, _) => failUntouched request pending
    | (some source, polls) =>
      captureFrom request cancelEpoch timestamp frameDurationNs pending source polls

def captureReserved (request : CaptureRequest) (cancelEpoch : Nat) (fences : List (Option Fd)) :
    Action VirtualCameraSession Outcome := do
  match ← waitDestinations cancelEpoch fences with
  | some pending => failUntouched request pending
  | none =>
    -- Every slot of `pendingFences` is empty from here on.
    let pending := fences.map fun _ => none
    match ← paceFrame cancelEpoch with
    | none => pure .trap
    | some timestamp =>
      if ← cancelled cancelEpoch then failUntouched request pending
      else captureSource request cancelEpoch timestamp pending

def processSingleRequest (request : CaptureRequest) (cancelEpoch : Nat) :
    Action VirtualCameraSession Outcome := do
  let (kept, fences) ← reserveFences request.outputBuffers
  if !kept then
    let _ ← close
    closeFds fences
    pure (.status .internalError)
  else if !(← importBuffers request.outputBuffers) then
    closeFds fences
    pure (.status .illegalArgument)
  else captureReserved request cancelEpoch fences

def validBuffer (session : VirtualCameraSession) (buffer : StreamBuffer) : Bool :=
  buffer.acquireFence.ints.isEmpty && decide (buffer.acquireFence.fds.length ≤ 1) &&
    buffer.acquireFence.fds.all (·.isSome) && (session.streams buffer.streamId).isSome &&
    (!buffer.buffer.fds.isEmpty || (session.cached (buffer.streamId, buffer.bufferId)).isSome)

def validRequest (session : VirtualCameraSession) (request : CaptureRequest) : Bool :=
  !request.outputBuffers.isEmpty && request.inputStreamId == -1 &&
    !(request.settings.isNone && request.fmqSettingsSize == 0 && !session.haveSettings) &&
    request.outputBuffers.all session.validBuffer

-- The loop of `processCaptureRequest`; the count is `*numRequestsProcessed`.
def processRequests (cancelEpoch : Nat) :
    List CaptureRequest → Action VirtualCameraSession (Outcome × Nat)
  | [] => pure (.status .ok, 0)
  | request :: rest => do
    let session ← get
    if !session.validRequest request then pure (.status .illegalArgument, 0)
    else if !(← updateTargetFps request.settings) then pure (.status .illegalArgument, 0)
    else
      match ← processSingleRequest request cancelEpoch with
      | .status .ok => do
        let (outcome, processed) ← processRequests cancelEpoch rest
        pure (outcome, processed + 1)
      | outcome => pure (outcome, 0)

def refusing : Action VirtualCameraSession Bool := do
  if ← ask .loadClosed then pure true
  else ask .loadFlushing

def processCaptureRequest (requests : List CaptureRequest) (cachesToRemove : List BufferCache) :
    Action VirtualCameraSession (Outcome × Nat) := do
  if ← refusing then pure (.status .internalError, 0)
  else
    removeBuffersFromCache cachesToRemove
    let cancelEpoch ← ask .loadCancelEpoch
    processRequests cancelEpoch requests

end VirtualCameraSession

end VirtualCamera
