import VirtualCamera.Session.Environment

set_option autoImplicit false

namespace VirtualCamera

open Descriptors Interaction

structure Stream where
  id : Int
  input : Bool := false
  width : Int
  height : Int
  format : Int
  dataSpace : Int := 0
  rotation : Int := 0
  bufferSize : Int := 0
  useCase : Int := 0
deriving DecidableEq, Repr

structure HalStream where
  id : Int
  overrideFormat : Int
  producerUsage : Int
  consumerUsage : Int
  maxBuffers : Int
  overrideDataSpace : Int
  supportOffline : Bool
deriving DecidableEq, Repr

abbrev BufferKey := Int × Nat

structure VirtualCameraSession where
  slot : Int := 0
  enforceCapabilities : Bool := false
  capabilities : ProducerCapabilities := .diagnostic
  sessionIdentity : Int := 0
  forceCpuYuv : Bool := false
  profileDeadlineFrames : Int := 1
  profileClearOutput : Bool := false
  outputs : List Output := []
  sourceMode : ProducerMode := {}
  targetFps : Int := 30
  nextFrameNs : Int := 0
  jpegQuality : Int := 90
  haveSettings : Bool := false
  startupWaitPending : Bool := true
  lastSourceSequence : Nat := 0
  configurationToken : Int := 0
  streams : Int → Option Stream := fun _ => none
  bufferCache : List (BufferKey × Handle) := []

def Stream.desc (stream : Stream) : StreamDesc :=
  { format := stream.format
    width := stream.width
    height := stream.height
    useCase := stream.useCase
    input := stream.input
    rotation := stream.rotation }

def Stream.output (stream : Stream) : Output :=
  { format := stream.format, width := stream.width, height := stream.height }

def kImplDefined : Int := 0x22

def kRGBA8888 : Int := 0x1

-- IMPLEMENTATION_DEFINED leaves the choice to the HAL, which takes the source's own format.
def resolvedFormat (stream : Stream) : Int :=
  if stream.format = kImplDefined then kRGBA8888 else stream.format

def halStream (stream : Stream) : HalStream :=
  let format := resolvedFormat stream
  { id := stream.id
    overrideFormat := format
    producerUsage := if format = kRGBA8888 then 0x20000 + 0x200 else 0x20000 + 0x30
    consumerUsage := 0
    maxBuffers := if format = blobFormat then 2 else 4
    overrideDataSpace := stream.dataSpace
    supportOffline := false }

namespace VirtualCameraSession

variable (session : VirtualCameraSession)

def cached (key : BufferKey) : Option Handle :=
  (session.bufferCache.find? fun entry => entry.1 == key).map (·.2)

def initial (slot : Int) (capabilities : Option ProducerCapabilities) (forceCpuYuv : Bool)
    (profileDeadlineFrames : Int) (profileClearOutput : Bool) : VirtualCameraSession :=
  { slot
    enforceCapabilities := capabilities.isSome
    capabilities := capabilities.getD .diagnostic
    forceCpuYuv
    profileDeadlineFrames
    profileClearOutput }

def construct : Action VirtualCameraSession Unit := do
  if ← ask .stableHal then
    let identity ← askHal .allocateSessionIdentity
    modify fun session => { session with sessionIdentity := identity }
  else pure ()

def cancelled (cancelEpoch : Nat) : Action VirtualCameraSession Bool := do
  if ← ask .loadClosed then pure true
  else
    let epoch ← ask .loadCancelEpoch
    pure (epoch != cancelEpoch)

def notifyClosed : Action VirtualCameraSession Unit := do
  if ← ask .stableHal then
    let session ← get
    askHal (.notifyCameraClosed session.slot session.sessionIdentity session.configurationToken)
  else pure ()

def close : Action VirtualCameraSession CameraStatus := do
  let wasClosed ← ask .exchangeClosed
  ask .bumpCancelEpoch
  if wasClosed then pure .ok
  else
    notifyClosed
    ask .storeClosed
    pure .ok

def flush : Action VirtualCameraSession CameraStatus := do
  ask (.storeFlushing true)
  ask .bumpCancelEpoch
  modify fun session => { session with nextFrameNs := 0 }
  ask (.storeFlushing false)
  pure .ok

def freeAll : List (BufferKey × Handle) → Action VirtualCameraSession Unit
  | [] => pure ()
  | (_, handle) :: rest => do
    ask (.freeBuffer handle)
    freeAll rest

-- The destructor of the session.
def destroy : Action VirtualCameraSession Unit := do
  let _ ← close
  let session ← get
  freeAll session.bufferCache
  modify fun session => { session with bufferCache := [] }

def clearStreams : Action VirtualCameraSession Unit := do
  let session ← get
  modify fun session =>
    { session with
      streams := fun _ => none, haveSettings := false, startupWaitPending := true, bufferCache := [] }
  freeAll session.bufferCache

def registrationCurrent (hal : Bool) : Action VirtualCameraSession Bool := do
  let session ← get
  if !session.enforceCapabilities then pure true
  else if !hal then pure false
  else askHal (.registrationCurrent session.slot session.capabilities.registration)

def enforcedHal : Action VirtualCameraSession Bool := do
  let session ← get
  if session.enforceCapabilities then ask .stableHal
  else pure true

def storeStreams (requested : List Stream) (session : VirtualCameraSession) : VirtualCameraSession :=
  { session with
    streams := requested.foldl (fun streams stream =>
      Function.update streams stream.id (some { stream with format := resolvedFormat stream }))
      session.streams }

def selectSource (mode : ProducerMode) (session : VirtualCameraSession) : VirtualCameraSession :=
  { session with
    sourceMode := mode, targetFps := clamp 30 mode.minFps mode.maxFps, nextFrameNs := 0 }

def publishStreams (requested : List Stream) :
    Action VirtualCameraSession (CameraStatus × List HalStream) := do
  modify (storeStreams requested)
  let session ← get
  if requested.isEmpty then pure (.ok, [])
  else if ← ask .stableHal then
    let token ← askHal (.notifyStreamsConfigured session.slot session.sessionIdentity
      session.sourceMode.width session.sourceMode.height session.targetFps)
    modify fun session => { session with configurationToken := token }
    pure (if token ≤ 0 then .internalError else .ok, requested.map halStream)
  else pure (.ok, requested.map halStream)

def configureStreams (requested : List Stream) :
    Action VirtualCameraSession (CameraStatus × List HalStream) := do
  if ← ask .loadClosed then pure (.internalError, [])
  else
    let session ← get
    if (requested.any fun stream => decide (stream.id < 0)) || !(requested.map (·.id)).Nodup then
      pure (.illegalArgument, [])
    else if !MetadataBuilder.isStreamCombinationSupported (requested.map Stream.desc)
        (some session.capabilities) then
      pure (.illegalArgument, [])
    else
      clearStreams
      modify fun session => { session with outputs := requested.map Stream.output }
      match session.capabilities.selectAny (requested.map Stream.output) with
      | none => pure (.illegalArgument, [])
      | some mode =>
        modify (selectSource mode)
        if ← registrationCurrent (← enforcedHal) then publishStreams requested
        else pure (.internalError, [])

def constructDefaultRequestSettings : CameraMetadata :=
  MetadataBuilder.buildDefaultRequestSettings (some session.capabilities)

-- The mode and rate that a settings blob asks for; `none` when the request is refused for it.
def requestedRate (blob : MetadataBlob) : Option (ProducerMode × Int) :=
  match blob.fpsRange with
  | none => some (session.sourceMode, session.targetFps)
  | some [low, high] =>
    (session.capabilities.select session.outputs low high).map fun mode => (mode, min high mode.maxFps)
  | some _ => none

def acceptSettings (blob : MetadataBlob) (session : VirtualCameraSession) : VirtualCameraSession :=
  { session with
    jpegQuality :=
      match blob.quality with
      | some (quality :: _) => quality
      | _ => session.jpegQuality
    haveSettings := true }

def renegotiate (mode : ProducerMode) (fps token : Int) (session : VirtualCameraSession) :
    VirtualCameraSession :=
  { session with
    configurationToken := token
    sourceMode := mode
    targetFps := fps
    nextFrameNs := 0
    startupWaitPending := true }

def updateTargetFps (settings : CameraMetadata) : Action VirtualCameraSession Bool := do
  let hal ← ask .stableHal
  if !(← registrationCurrent hal) then pure false
  else
    match settings with
    | none => pure true
    | some blob =>
      if !blob.structureValid then pure false
      else
        let session ← get
        match session.requestedRate blob with
        | none => pure false
        | some (mode, fps) =>
          if fps != session.targetFps || mode.id != session.sourceMode.id then
            if !hal then pure false
            else
              let token ← askHal (.notifyStreamsConfigured session.slot session.sessionIdentity
                mode.width mode.height fps)
              if token ≤ 0 then pure false
              else
                modify (renegotiate mode fps token)
                modify (acceptSettings blob)
                pure true
          else
            modify (acceptSettings blob)
            pure true

end VirtualCameraSession

end VirtualCamera
