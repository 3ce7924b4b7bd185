import VirtualCamera.Session.Capture

set_option autoImplicit false

namespace VirtualCamera

open Descriptors Interaction Interaction.Process

def Call.preparing : Call → Bool
  | .dup _ | .syncWait .. | .hal (.notifyCameraClosed ..) => true
  | call => call.plain

def Call.waiting : Call → Bool
  | .dup _ | .syncWait .. => true
  | call => call.steady

theorem Call.waiting_of_steady (call : Call) (steady : call.steady = true) : call.waiting = true := by
  cases call <;> first | rfl | cases steady

theorem Call.preparing_of_waiting (call : Call) (waiting : call.waiting = true) :
    call.preparing = true := by
  cases call <;> first | rfl | cases waiting

def Call.copying : Call → Bool
  | .dup _ => true
  | _ => false

theorem Call.waiting_of_copying (call : Call) (copying : call.copying = true) : call.waiting = true := by
  cases call <;> first | rfl | cases copying

def Call.ending : Call → Bool
  | .exchangeClosed | .bumpCancelEpoch | .stableHal | .hal (.notifyCameraClosed ..) | .storeClosed => true
  | _ => false

theorem Call.preparing_of_ending (call : Call) (ending : call.ending = true) : call.preparing = true := by
  cases call with
  | hal call => cases call <;> first | rfl | cases ending
  | _ => first | rfl | cases ending

def Call.sourcing : Call → Bool
  | .syncWait .. | .hal _ => true
  | call => call.plain

def Call.reading : Call → Bool
  | .hal (.acquireLatest ..) | .hal (.isFrameCurrent ..) | .hal (.releaseFrame ..) | .syncWait .. => true
  | call => call.steady

theorem Call.reading_of_steady (call : Call) (steady : call.steady = true) : call.reading = true := by
  cases call <;> first | rfl | cases steady

def Call.awaiting : Call → Bool
  | .hal (.isFrameCurrent ..) | .syncWait _ 0 => true
  | call => call.steady

theorem Call.awaiting_of_steady (call : Call) (steady : call.steady = true) : call.awaiting = true := by
  cases call <;> first | rfl | cases steady

def Call.seeking : Call → Bool
  | .hal (.acquireLatest ..) | .hal (.isFrameCurrent ..) | .syncWait _ 0 => true
  | call => call.steady

theorem Call.seeking_of_steady (call : Call) (steady : call.steady = true) : call.seeking = true := by
  cases call <;> first | rfl | cases steady

theorem Call.seeking_of_awaiting (call : Call) (awaiting : call.awaiting = true) : call.seeking = true := by
  unfold seeking
  split
  next => rfl
  next => rfl
  next => rfl
  next => simpa [Call.awaiting] using awaiting

theorem Call.reading_of_seeking (call : Call) (seeking : call.seeking = true) : call.reading = true := by
  cases call with
  | hal call => cases call <;> first | rfl | cases seeking
  | _ => first | rfl | exact seeking

theorem Call.reading_of_awaiting (call : Call) (awaiting : call.awaiting = true) : call.reading = true :=
  call.reading_of_seeking (call.seeking_of_awaiting awaiting)

theorem Call.sourcing_of_reading (call : Call) (reading : call.reading = true) :
    call.sourcing = true := by
  cases call <;> first | rfl | cases reading

def Call.rendering : Call → Bool
  | .lock .. | .lockYCbCr .. | .unlock _ | .encodeToBlob .. | .fillFromAHardwareBuffer .. => true
  | .gl _ | .dup _ | .syncWait .. | .closeFd _ => true
  | _ => false

def Call.target : Call → Option Handle
  | .lock handle _ | .lockYCbCr handle .. | .unlock handle | .fillFromAHardwareBuffer handle .. => some handle
  | .gl (.imageFromHandle handle ..) | .gl (.drawTarget handle) => some handle
  | _ => none

def Call.renderingOn (handle : Handle) (call : Call) : Bool :=
  call.rendering && call.target.all fun target => target == handle

theorem Call.rendering_of_on (handle : Handle) (call : Call) (rendering : call.renderingOn handle = true) :
    call.rendering = true :=
  (Bool.and_eq_true_iff.mp rendering).1

theorem Call.renderingOn_target {handle : Handle} {call : Call} (rendering : call.rendering = true)
    (target : call.target = some handle) : call.renderingOn handle = true := by
  simp [renderingOn, rendering, target]

def Call.attempting : Call → Bool
  | .renderAttempt _ => true
  | _ => false

variable {M σ : Type} {monitor : Monitor Environment M} {seen : M}

namespace GpuCompositor

variable {handle : Handle} (quiet : monitor.Ignores seen (Call.renderingOn handle))

include quiet

theorem waitForSourceFence_unheard (fence : Option Fd) :
    Unheard monitor seen (waitForSourceFence fence : Action σ Bool) := by
  cases fence with
  | none => exact unheard_pure true
  | some fd =>
    refine unheard_bind (unheard_bind (unheard_ask quiet (.gl .nativeFence) rfl) fun native => ?_)
      fun waited => unheard_ite (unheard_pure true) (unheard_ask quiet (.syncWait fd 100) rfl)
    refine unheard_ite (unheard_pure false) (unheard_bind (unheard_ask quiet (.dup fd) rfl) fun copy => ?_)
    cases copy with
    | none => exact unheard_pure false
    | some copy =>
      refine unheard_bind (unheard_ask quiet (.gl (.importSync copy)) rfl) fun imported => ?_
      refine unheard_ite (unheard_ask quiet (.gl .waitSync) rfl) ?_
      exact unheard_bind (unheard_ask quiet (.closeFd copy) rfl) fun _ => unheard_pure false

theorem drawPlanes_unheard : Unheard monitor seen (drawPlanes : Action σ Bool) := by
  have complete : ∀ ok : Bool, Unheard monitor seen (passComplete ok : Action σ Bool) := fun _ =>
    unheard_ite (unheard_ask quiet (.gl .framebufferComplete) rfl) (unheard_pure false)
  have draw : ∀ ok : Bool, Unheard monitor seen (drawPass ok : Action σ Unit) := fun _ =>
    unheard_ite (unheard_ask quiet (.gl .drawPacked) rfl) (unheard_pure ())
  refine unheard_bind (complete true) fun first => unheard_bind (draw first) fun _ => ?_
  refine unheard_bind (complete first) fun second => unheard_bind (draw second) fun _ => ?_
  refine unheard_bind (unheard_ask quiet (.gl .finish) rfl) fun _ => ?_
  exact unheard_ite (unheard_ask quiet (.gl .noError) rfl) (unheard_pure false)

theorem compositeToYcbcr_unheard (source : Ahb) (sourceFence : Option Fd) (target : YCbCrBuffer)
    (width height : Int) :
    Unheard monitor seen (compositeToYcbcr source sourceFence target width height : Action σ Bool) := by
  have sample : Unheard monitor seen
      (samplePlanes source sourceFence target width height : Action σ Bool) := by
    refine unheard_bind (unheard_ask quiet (.gl (.ensureYuvTargets ..)) rfl) fun _ => ?_
    refine unheard_ite (unheard_pure false) (unheard_bind (waitForSourceFence_unheard quiet sourceFence) fun _ => ?_)
    refine unheard_ite (unheard_pure false) (unheard_bind (unheard_ask quiet (.gl (.imageFromAhb source)) rfl) fun _ => ?_)
    refine unheard_ite (unheard_pure false) (unheard_bind (drawPlanes_unheard quiet) fun _ => ?_)
    exact unheard_ite (unheard_pure false) (unheard_ask quiet (.gl (.copyPlanes ..)) rfl)
  refine unheard_ite (unheard_pure false) (unheard_bind (unheard_ask quiet (.gl .ensureInit) rfl) fun _ => ?_)
  refine unheard_ite (unheard_pure false) (unheard_bind (unheard_ask quiet (.gl .makeCurrent) rfl) fun _ => ?_)
  refine unheard_ite (unheard_pure false) (unheard_bind sample fun copied => ?_)
  exact unheard_bind (unheard_ask quiet (.gl .dropContext) rfl) fun _ => unheard_pure copied

theorem drawTarget_unheard (clearBeforeOverwrite : Bool) :
    Unheard monitor seen (drawTarget handle clearBeforeOverwrite : Action σ (Bool × Option Fd)) := by
  have clear : Unheard monitor seen (clearTarget clearBeforeOverwrite : Action σ Unit) :=
    unheard_ite (unheard_ask quiet (.gl .clear) rfl) (unheard_pure ())
  have fence : ∀ drawn : Bool, Unheard monitor seen (completionFence drawn : Action σ (Option Fd)) := by
    intro drawn
    refine unheard_ite (unheard_pure none) (unheard_bind (unheard_ask quiet (.gl .nativeFence) rfl) fun _ => ?_)
    refine unheard_ite (unheard_pure none) (unheard_bind (unheard_ask quiet (.gl .createSync) rfl) fun _ => ?_)
    exact unheard_ite (unheard_pure none) (unheard_ask quiet (.gl .dupNativeFence) rfl)
  refine unheard_bind clear fun _ => ?_
  refine unheard_bind (unheard_ask quiet (.gl (.drawTarget handle)) (Call.renderingOn_target rfl rfl)) fun _ => ?_
  refine unheard_bind (unheard_ask quiet (.gl .noError) rfl) fun drawn => ?_
  refine unheard_bind (fence drawn) fun completion => ?_
  cases completion with
  | some _ => exact unheard_pure _
  | none => exact unheard_bind (unheard_ask quiet (.gl .finish) rfl) fun _ => unheard_pure _

theorem composite_unheard (source : Ahb) (sourceFence : Option Fd)
    (width height stride format : Int) (clearBeforeOverwrite : Bool) :
    Unheard monitor seen (composite source sourceFence handle width height stride format
      clearBeforeOverwrite : Action σ (Bool × Option Fd)) := by
  have current : Unheard monitor seen (compositeCurrent source sourceFence handle width height stride
      format clearBeforeOverwrite : Action σ (Bool × Option Fd)) := by
    refine unheard_bind (waitForSourceFence_unheard quiet sourceFence) fun _ => ?_
    refine unheard_ite (unheard_pure _) (unheard_bind (unheard_ask quiet (.gl (.imageFromAhb source)) rfl) fun _ => ?_)
    refine unheard_ite (unheard_pure _) (unheard_bind (unheard_ask quiet (.gl (.imageFromHandle ..)) (Call.renderingOn_target rfl rfl)) fun _ => ?_)
    refine unheard_ite (unheard_pure _) (unheard_bind (unheard_ask quiet (.gl .framebufferComplete) rfl) fun _ => ?_)
    exact unheard_ite (unheard_pure _) (drawTarget_unheard quiet clearBeforeOverwrite)
  refine unheard_ite (unheard_pure _) (unheard_bind (unheard_ask quiet (.gl .ensureInit) rfl) fun _ => ?_)
  refine unheard_ite (unheard_pure _) (unheard_bind (unheard_ask quiet (.gl .makeCurrent) rfl) fun _ => ?_)
  refine unheard_ite (unheard_pure _) (unheard_bind current fun outcome => ?_)
  exact unheard_bind (unheard_ask quiet (.gl .dropContext) rfl) fun _ => unheard_pure outcome

end GpuCompositor

namespace VirtualCameraSession

-- What a capture leaves as it was: all but its cache, its pacing and the submission it used.
def core (session : VirtualCameraSession) : VirtualCameraSession :=
  { session with
    bufferCache := [], nextFrameNs := 0, startupWaitPending := false, lastSourceSequence := 0 }

-- What a capture leaves as it was once its frame is paced.
def frame (session : VirtualCameraSession) : VirtualCameraSession :=
  { session with bufferCache := [], startupWaitPending := false, lastSourceSequence := 0 }

theorem core_of_frame {before after : VirtualCameraSession} (same : after.frame = before.frame) :
    after.core = before.core :=
  calc
    after.core = after.frame.core := rfl
    _ = before.frame.core := congrArg core same
    _ = before.core := rfl

section Steady

variable (steady : monitor.Ignores seen Call.steady)

include steady

theorem cancelled_unheard (cancelEpoch : Nat) : Unheard monitor seen (cancelled cancelEpoch) := by
  refine unheard_bind (unheard_ask steady .loadClosed rfl) fun _ => unheard_ite (unheard_pure true) ?_
  exact unheard_bind (unheard_ask steady .loadCancelEpoch rfl) fun epoch => unheard_pure _

theorem closeFds_unheard (fences : List (Option Fd)) : Unheard monitor seen (closeFds fences) := by
  induction fences with
  | nil => exact unheard_pure ()
  | cons fence rest ih =>
    cases fence with
    | none => exact ih
    | some fd => exact unheard_bind (unheard_ask steady (.closeFd fd) rfl) fun _ => ih

theorem refusing_unheard : Unheard monitor seen refusing := by
  refine unheard_bind (unheard_ask steady .loadClosed rfl) fun _ => ?_
  exact unheard_ite (unheard_pure true) (unheard_ask steady .loadFlushing rfl)

end Steady

section Caching

variable (caching : monitor.Ignores seen Call.caching)

include caching

theorem importBuffer_wp (session : VirtualCameraSession) (buffer : StreamBuffer)
    (post : Option Handle → VirtualCameraSession → M → Prop)
    (next : ∀ handle cache, post handle { session with bufferCache := cache } seen) :
    (importBuffer buffer).wp monitor session seen post := by
  simp only [importBuffer, wp_bind, wp_get]
  cases session.cached (buffer.streamId, buffer.bufferId) with
  | some handle => exact next (some handle) session.bufferCache
  | none =>
    rw [wp_ite]
    refine ⟨fun _ => next none session.bufferCache, fun _ => ?_⟩
    rw [wp_bind, wp_ask_quiet caching (.importBuffer buffer.buffer) rfl]
    intro imported
    cases imported with
    | none => exact next none session.bufferCache
    | some handle => exact next (some handle) _

theorem importBuffers_wp (session : VirtualCameraSession) (buffers : List StreamBuffer)
    (post : Bool → VirtualCameraSession → M → Prop)
    (next : ∀ imported cache, post imported { session with bufferCache := cache } seen) :
    (importBuffers buffers).wp monitor session seen post := by
  induction buffers generalizing session with
  | nil => exact next true session.bufferCache
  | cons buffer rest ih =>
    simp only [importBuffers, wp_bind]
    apply importBuffer_wp caching
    intro handle cache
    cases handle with
    | none => exact next false cache
    | some handle => exact ih { session with bufferCache := cache } next

theorem removeBuffersFromCache_wp (session : VirtualCameraSession) (caches : List BufferCache)
    (post : Unit → VirtualCameraSession → M → Prop)
    (next : ∀ cache, post () { session with bufferCache := cache } seen) :
    (removeBuffersFromCache caches).wp monitor session seen post := by
  induction caches generalizing session with
  | nil => exact next session.bufferCache
  | cons cache rest ih =>
    simp only [removeBuffersFromCache, wp_bind, wp_get]
    cases session.cached (cache.streamId, cache.bufferId) with
    | none => exact ih session next
    | some handle =>
      simp only [wp_bind, wp_modify]
      rw [wp_ask_quiet caching (.freeBuffer handle) rfl]
      exact fun _ => ih _ next

end Caching

section Steady

variable (steady : monitor.Ignores seen Call.steady)

include steady

theorem paceFrame_wp (session : VirtualCameraSession) (cancelEpoch : Nat)
    (post : Option Int → VirtualCameraSession → M → Prop)
    (trapped : session.targetFps = 0 → post none session seen)
    (next : session.targetFps ≠ 0 →
      ∀ slot ns, post (some slot) { session with nextFrameNs := ns } seen) :
    (paceFrame cancelEpoch).wp monitor session seen post := by
  simp only [paceFrame, wp_bind, wp_get]
  rw [wp_ite]
  refine ⟨trapped, fun rated => ?_⟩
  simp only [wp_bind, wp_modify]
  rw [wp_ask_quiet steady .steadyClock rfl]
  intro now
  have wait : Unheard monitor seen (waitUntil now
      (if session.nextFrameNs = 0 ∨ session.nextFrameNs + frameDuration session.targetFps < now then now
        else session.nextFrameNs)) :=
    unheard_ite (unheard_ask steady (.waitFor _) rfl) (unheard_pure ())
  refine wait _ _ fun _ => cancelled_unheard steady cancelEpoch _ _ fun stopped => ?_
  cases stopped
  case true => exact next rated 0 _
  case false => exact next rated _ _

theorem startDeadline_wp (session : VirtualCameraSession) (frameDurationNs : Int)
    (post : Nat → VirtualCameraSession → M → Prop)
    (next : ∀ polls, post polls { session with startupWaitPending := false } seen) :
    (startDeadline frameDurationNs).wp monitor session seen post := by
  simp only [startDeadline, wp_bind, wp_get, wp_modify]
  rw [wp_ask_quiet steady (.deadline _) rfl]
  exact next

end Steady

theorem reserveFences_wp (quiet : monitor.Ignores seen Call.copying) (session : VirtualCameraSession)
    (buffers : List StreamBuffer)
    (post : Bool × List (Option Fd) → VirtualCameraSession → M → Prop)
    (next : ∀ kept fences, (kept = true → fences.length = buffers.length) →
      post (kept, fences) session seen) :
    (reserveFences buffers).wp monitor session seen post := by
  induction buffers generalizing post with
  | nil => exact next true [] fun _ => rfl
  | cons buffer rest ih =>
    simp only [reserveFences]
    cases buffer.acquireFence.fds.head? with
    | none =>
      rw [wp_bind]
      exact ih _ fun kept fences sized => next kept (none :: fences) (by simpa using sized)
    | some original =>
      have copy : Unheard monitor seen
          (original.elim (pure none) fun fd => ask (.dup fd) : Action VirtualCameraSession (Option Fd)) := by
        cases original with
        | none => exact unheard_pure none
        | some fd => exact unheard_ask quiet (.dup fd) rfl
      rw [wp_bind]
      refine copy _ _ fun fence => ?_
      cases fence with
      | none => exact next false [] nofun
      | some fd =>
        simp only [wp_bind]
        exact ih _ fun kept fences sized => next kept (some fd :: fences) (by simpa using sized)

section Waiting

variable (quiet : monitor.Ignores seen Call.waiting)

include quiet

theorem waitDestinations_wp (session : VirtualCameraSession) (cancelEpoch : Nat)
    (fences : List (Option Fd)) (post : Option (List (Option Fd)) → VirtualCameraSession → M → Prop)
    (ready : post none session seen)
    (failed : ∀ pending, pending.length = fences.length → post (some pending) session seen) :
    (waitDestinations cancelEpoch fences).wp monitor session seen post := by
  have steady := quiet.mono Call.waiting_of_steady
  induction fences generalizing post with
  | nil => exact ready
  | cons fence rest ih =>
    simp only [waitDestinations, wp_bind]
    refine cancelled_unheard steady cancelEpoch _ _ fun stopped => ?_
    cases stopped
    case true => exact failed _ rfl
    case false =>
      have wait : Unheard monitor seen (destinationSignalled fence) := by
        cases fence with
        | none => exact unheard_pure true
        | some fd => exact unheard_ask quiet (.syncWait fd 100) rfl
      simp only [Bool.false_eq_true, if_false, wp_bind]
      refine wait _ _ fun signalled => ?_
      cases signalled
      case false => exact failed _ rfl
      case true =>
        simp only [Bool.not_true, Bool.false_eq_true, if_false, wp_bind]
        refine closeFds_unheard steady [fence] _ _ fun _ => ih _ ready fun pending sized => ?_
        exact failed (none :: pending) (by simp [sized])

end Waiting

theorem close_unheard (quiet : monitor.Ignores seen Call.ending) : Unheard monitor seen close := by
  have notify : Unheard monitor seen notifyClosed := by
    refine unheard_bind (unheard_ask quiet .stableHal rfl) fun _ => unheard_ite ?_ (unheard_pure ())
    exact unheard_bind unheard_get fun _ => unheard_ask quiet (.hal (.notifyCameraClosed ..)) rfl
  refine unheard_bind (unheard_ask quiet .exchangeClosed rfl) fun _ => ?_
  refine unheard_bind (unheard_ask quiet .bumpCancelEpoch rfl) fun _ => ?_
  refine unheard_ite (unheard_pure CameraStatus.ok) (unheard_bind notify fun _ => ?_)
  exact unheard_bind (unheard_ask quiet .storeClosed rfl) fun _ => unheard_pure CameraStatus.ok

section Awaiting

variable (quiet : monitor.Ignores seen Call.awaiting)

include quiet

theorem sourceWanted_unheard (cancelEpoch : Nat) (source : Acquired) :
    Unheard monitor seen (sourceWanted cancelEpoch source) := by
  have steady := quiet.mono Call.awaiting_of_steady
  refine unheard_bind (cancelled_unheard steady cancelEpoch) fun _ => unheard_ite (unheard_pure false) ?_
  exact unheard_bind unheard_get fun _ => unheard_ask quiet (.hal (.isFrameCurrent ..)) rfl

theorem waitSourceFence_unheard (cancelEpoch : Nat) (source : Acquired) (fence : Fd) (polls : Nat) :
    Unheard monitor seen (waitSourceFence cancelEpoch source fence polls) := by
  induction polls with
  | zero =>
    refine unheard_bind (unheard_ask quiet (.syncWait fence 0) rfl) fun _ => ?_
    refine unheard_ite (unheard_pure true) ?_
    exact unheard_bind (sourceWanted_unheard quiet cancelEpoch source) fun _ => unheard_pure false
  | succ polls ih =>
    refine unheard_bind (unheard_ask quiet (.syncWait fence 0) rfl) fun _ => ?_
    refine unheard_ite (unheard_pure true) ?_
    refine unheard_bind (sourceWanted_unheard quiet cancelEpoch source) fun _ => ?_
    exact unheard_ite (unheard_pure false) (unheard_bind (unheard_ask quiet .poll rfl) fun _ => ih)

theorem sourceReady_unheard (cancelEpoch : Nat) (source : Acquired) (polls : Nat) :
    Unheard monitor seen (sourceReady cancelEpoch source polls) := by
  have wait : Unheard monitor seen (sourceSignalled cancelEpoch source polls) := by
    unfold sourceSignalled
    cases source.acquireFence with
    | none => exact unheard_pure true
    | some fence => exact waitSourceFence_unheard quiet cancelEpoch source fence polls
  refine unheard_bind wait fun _ => ?_
  exact unheard_ite (unheard_pure false) (sourceWanted_unheard quiet cancelEpoch source)

end Awaiting

section Seeking

variable (quiet : monitor.Ignores seen Call.seeking)

include quiet

theorem pollSource_unheard (cancelEpoch polls : Nat) :
    Unheard monitor seen (pollSource cancelEpoch polls) := by
  have steady := quiet.mono Call.seeking_of_steady
  induction polls with
  | zero =>
    refine unheard_bind (cancelled_unheard steady cancelEpoch) fun _ => unheard_ite (unheard_pure _) ?_
    refine unheard_bind unheard_get fun _ => ?_
    exact unheard_bind (unheard_ask quiet (.hal (.acquireLatest ..)) rfl) fun _ => unheard_pure _
  | succ polls ih =>
    refine unheard_bind (cancelled_unheard steady cancelEpoch) fun _ => unheard_ite (unheard_pure _) ?_
    refine unheard_bind unheard_get fun _ => ?_
    refine unheard_bind (unheard_ask quiet (.hal (.acquireLatest ..)) rfl) fun source => ?_
    cases source with
    | some _ => exact unheard_pure _
    | none => exact unheard_bind (unheard_ask quiet .poll rfl) fun _ => ih

end Seeking

theorem releaseSource_unheard (quiet : monitor.Ignores seen Call.reading) (source : Acquired) (fences : List Fd) :
    Unheard monitor seen (releaseSource source fences) :=
  unheard_bind unheard_get fun _ => unheard_ask quiet (.hal (.releaseFrame ..)) rfl

section Rendering

variable {handle : Handle} (quiet : monitor.Ignores seen (Call.renderingOn handle))

include quiet

theorem encodeJpeg_unheard (source : Ahb) (stream : Stream) :
    Unheard monitor seen (encodeJpeg source stream handle) := by
  refine unheard_bind unheard_get fun _ => unheard_bind (unheard_ask quiet (.lock ..) (Call.renderingOn_target rfl rfl)) fun _ => ?_
  refine unheard_ite ?_ (unheard_pure false)
  refine unheard_bind (unheard_ask quiet (.encodeToBlob ..) rfl) fun _ => ?_
  exact unheard_bind (unheard_ask quiet (.unlock handle) (Call.renderingOn_target rfl rfl)) fun _ => unheard_pure _

theorem convertYcbcr_unheard (source : Ahb) (stream : Stream) :
    Unheard monitor seen (convertYcbcr source stream handle) := by
  refine unheard_bind unheard_get fun _ => unheard_ite (unheard_pure false) ?_
  refine unheard_bind (unheard_ask quiet (.lockYCbCr ..) (Call.renderingOn_target rfl rfl)) fun target => ?_
  refine unheard_ite (unheard_pure false) ?_
  refine unheard_bind (GpuCompositor.compositeToYcbcr_unheard quiet _ _ _ _ _) fun _ => ?_
  exact unheard_bind (unheard_ask quiet (.unlock handle) (Call.renderingOn_target rfl rfl)) fun _ => unheard_pure _

theorem renderOutput_unheard (source : Ahb) (stream : Stream) :
    Unheard monitor seen (renderOutput source stream handle) := by
  refine unheard_ite (unheard_bind (encodeJpeg_unheard quiet source stream) fun _ => unheard_pure _) ?_
  refine unheard_bind (convertYcbcr_unheard quiet source stream) fun _ => ?_
  refine unheard_ite (unheard_pure _) (unheard_bind unheard_get fun _ => ?_)
  refine unheard_bind (GpuCompositor.composite_unheard quiet _ _ _ _ _ _ _) fun _ => ?_
  refine unheard_ite (unheard_pure _) (unheard_bind (unheard_pure true) fun _ => ?_)
  refine unheard_ite ?_ (unheard_pure _)
  exact unheard_bind (unheard_ask quiet (.fillFromAHardwareBuffer ..) (Call.renderingOn_target rfl rfl)) fun _ => unheard_pure _

end Rendering

end VirtualCameraSession

end VirtualCamera
