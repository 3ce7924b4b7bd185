import VirtualCamera.Session.Negotiation
import VirtualCamera.Session.SessionSystem

set_option autoImplicit false

namespace VirtualCamera

open Interaction Interaction.Process

-- Every call but those that change or check who may use the slot, or that close or cancel.
def Call.capturing : Call → Bool
  | .hal (.acquireLatest ..) | .hal (.isFrameCurrent ..) | .hal (.releaseFrame ..) => true
  | .hal _ | .exchangeClosed | .storeClosed | .bumpCancelEpoch | .storeFlushing _ => false
  | _ => true

def Call.composing : Call → Bool
  | .notify _ | .processCaptureResult _ => false
  | call => call.capturing

theorem Call.capturing_of_composing (call : Call) (composing : call.composing = true) : call.capturing = true := by
  cases call <;> first | rfl | cases composing | exact composing

def Call.housekeeping : Call → Bool
  | .dup _ | .syncWait .. | .importBuffer _ | .freeBuffer _ => true
  | call => call.plain

theorem Call.housekeeping_of_caching (call : Call) (caching : call.caching = true) : call.housekeeping = true := by
  cases call <;> first | rfl | cases caching

theorem Call.housekeeping_of_waiting (call : Call) (waiting : call.waiting = true) :
    call.housekeeping = true := by
  cases call <;> first | rfl | cases waiting

theorem Call.composing_of_reading (call : Call) (reading : call.reading = true) : call.composing = true := by
  cases call with
  | hal call => cases call <;> first | rfl | cases reading
  | _ => first | rfl | cases reading

theorem Call.composing_of_caching (call : Call) (caching : call.caching = true) : call.composing = true := by
  cases call <;> first | rfl | cases caching

theorem Call.composing_of_rendering (call : Call) (rendering : call.rendering = true) :
    call.composing = true := by
  cases call <;> first | rfl | cases rendering

theorem Call.capturing_of_reading (call : Call) (reading : call.reading = true) : call.capturing = true :=
  call.capturing_of_composing (call.composing_of_reading reading)

def Call.answering : Call → Bool
  | .notify _ | .processCaptureResult _ => true
  | call => call.reading

theorem Call.answering_of_reading (call : Call) (reading : call.reading = true) : call.answering = true := by
  cases call <;> first | rfl | exact reading

theorem Call.capturing_of_answering (call : Call) (answering : call.answering = true) : call.capturing = true := by
  cases call <;> first | rfl | exact Call.capturing_of_reading _ answering

namespace VirtualCameraSession

-- The session's dealings with the HAL: who it is, what it enforces, and what it last used and was told.
def account (session : VirtualCameraSession) : VirtualCameraSession :=
  { slot := session.slot
    enforceCapabilities := session.enforceCapabilities
    capabilities := session.capabilities
    sessionIdentity := session.sessionIdentity
    lastSourceSequence := session.lastSourceSequence
    configurationToken := session.configurationToken }

-- A relation between a session and what an onlooker has seen of its calls that holds between any two of them, apart
-- from a capture's use of its source.
structure Bookkeeping {M : Type} (monitor : Monitor Environment M) (holds : VirtualCameraSession → M → Prop)
    (checked : M → Prop) : Prop where
  quiet {session : VirtualCameraSession} {seen : M} (held : holds session seen) :
    monitor.Ignores seen Call.housekeeping
  account {before after : VirtualCameraSession} {seen : M} (held : holds before seen)
    (same : after.account = before.account) : holds after seen
  closes : ∀ session seen, holds session seen →
    let event : Event Environment :=
      ⟨.hal (.notifyCameraClosed session.slot session.sessionIdentity session.configurationToken), ()⟩
    monitor.permits seen event ∧ holds session (monitor.observe seen event)
  checks : ∀ session seen (current : Bool), holds session seen → session.enforceCapabilities = true →
    let event : Event Environment :=
      ⟨.hal (.registrationCurrent session.slot session.capabilities.registration), current⟩
    monitor.permits seen event ∧ holds session (monitor.observe seen event) ∧
      (current = true → checked (monitor.observe seen event))
  -- `configureStreams` stores every reply, `updateTargetFps` only a token.
  configures : ∀ session seen width height fps (token : Int), holds session seen →
    (session.enforceCapabilities = true → checked seen) →
    let event : Event Environment :=
      ⟨.hal (.notifyStreamsConfigured session.slot session.sessionIdentity width height fps), token⟩
    monitor.permits seen event ∧ holds { session with configurationToken := token } (monitor.observe seen event) ∧
      (token ≤ 0 → holds session (monitor.observe seen event))
  fails : ∀ request pending, Maintains monitor holds (failUntouched request pending)
  captures : ∀ request cancelEpoch timestamp pending,
    Maintains monitor holds (captureSource request cancelEpoch timestamp pending)

section

variable {M : Type} {monitor : Monitor Environment M} {holds : VirtualCameraSession → M → Prop}
  {checked : M → Prop} (books : Bookkeeping monitor holds checked)

include books

section

variable {session : VirtualCameraSession} {seen : M} (held : holds session seen)

include held

theorem Bookkeeping.waiting : monitor.Ignores seen Call.waiting :=
  (books.quiet held).mono Call.housekeeping_of_waiting

theorem Bookkeeping.steady : monitor.Ignores seen Call.steady :=
  (books.waiting held).mono Call.waiting_of_steady

theorem Bookkeeping.caching : monitor.Ignores seen Call.caching :=
  (books.quiet held).mono Call.housekeeping_of_caching

end

theorem Bookkeeping.ask (call : Call) (silent : call.housekeeping = true) :
    Maintains monitor holds (VirtualCamera.ask call : Action VirtualCameraSession call.Reply) :=
  fun session _ held => unheard_ask (books.quiet held) call silent session _ fun _ => held

theorem notifyClosed_maintains : Maintains monitor holds notifyClosed := by
  refine maintains_bind (books.ask .stableHal rfl) fun hal => maintains_ite ?_ (maintains_pure ())
  exact maintains_get_bind fun session seen held _ => books.closes session seen held

theorem closeLocked_maintains (wasClosed : Bool) :
    Maintains monitor holds (SessionSystem.closeLocked wasClosed) := by
  refine maintains_ite (maintains_pure _) (maintains_bind (notifyClosed_maintains books) fun _ => ?_)
  exact maintains_bind (books.ask .storeClosed rfl) fun _ => maintains_pure _

theorem close_maintains : Maintains monitor holds close := by
  refine maintains_bind (books.ask .exchangeClosed rfl) fun wasClosed => ?_
  refine maintains_bind (books.ask .bumpCancelEpoch rfl) fun _ => maintains_ite (maintains_pure _) ?_
  refine maintains_bind (notifyClosed_maintains books) fun _ => ?_
  exact maintains_bind (books.ask .storeClosed rfl) fun _ => maintains_pure _

theorem flushLocked_maintains : Maintains monitor holds SessionSystem.flushLocked := by
  refine maintains_bind (maintains_modify fun session seen held => books.account held rfl) fun _ => ?_
  exact maintains_bind (books.ask (.storeFlushing false) rfl) fun _ => maintains_pure _

theorem registrationCurrent_checked (hal : Bool) (session : VirtualCameraSession) (seen : M)
    (held : holds session seen) :
    (registrationCurrent hal).wp monitor session seen fun current final later => final = session ∧
      holds session later ∧ (current = true → session.enforceCapabilities = true → checked later) := by
  simp only [registrationCurrent, wp_bind, wp_get]
  rw [wp_ite]
  refine ⟨fun free => ?_, fun enforced => ?_⟩
  · refine ⟨rfl, held, fun _ enforces => ?_⟩
    simp [enforces] at free
  · rw [wp_ite]
    refine ⟨fun _ => ⟨rfl, held, by simp⟩, fun _ current => ?_⟩
    have enforces : session.enforceCapabilities = true := by simpa using enforced
    obtain ⟨permitted, kept, known⟩ := books.checks session seen current held enforces
    exact ⟨permitted, rfl, kept, fun passed _ => known passed⟩

theorem updateTargetFps_maintains (settings : CameraMetadata) :
    Maintains monitor holds (updateTargetFps settings) := by
  intro session seen held
  simp only [updateTargetFps, wp_bind]
  refine unheard_ask (books.quiet held) .stableHal rfl _ _ fun hal => ?_
  refine (registrationCurrent_checked books hal session seen held).mono ?_
  rintro current final later ⟨rfl, held, known⟩
  cases current
  case false => exact held
  case true =>
    simp only [Bool.not_true, Bool.false_eq_true, if_false]
    cases settings with
    | none => exact held
    | some blob =>
      rw [wp_ite]
      refine ⟨fun _ => held, fun _ => ?_⟩
      simp only [wp_bind, wp_get]
      cases final.requestedRate blob with
      | none => exact held
      | some pair =>
        obtain ⟨mode, fps⟩ := pair
        simp only [wp_ite]
        refine ⟨fun _ => ⟨fun _ => held, fun _ => ?_⟩, fun _ => books.account held rfl⟩
        rw [wp_bind, askHal, wp_ask]
        intro token
        obtain ⟨permitted, stored, refused⟩ := books.configures final later mode.width mode.height fps token held
          (known rfl)
        refine ⟨permitted, ?_⟩
        rw [wp_ite]
        exact ⟨fun none => refused none, fun _ => books.account stored rfl⟩

theorem clearStreams_maintains : Maintains monitor holds clearStreams := by
  refine maintains_get_bind fun session seen held => ?_
  rw [wp_bind, wp_modify]
  exact freeAll_unheard (books.caching held) _ _ _ fun _ => books.account held rfl

theorem publishStreams_maintains (requested : List Stream) (session : VirtualCameraSession) (seen : M)
    (held : holds session seen) (known : session.enforceCapabilities = true → checked seen) :
    (publishStreams requested).wp monitor session seen fun _ final later => holds final later := by
  simp only [publishStreams, wp_bind, wp_modify, wp_get]
  have stored : holds (storeStreams requested session) seen := books.account held rfl
  rw [wp_ite]
  refine ⟨fun _ => stored, fun _ => ?_⟩
  rw [wp_bind]
  refine unheard_ask (books.steady held) .stableHal rfl _ _ fun hal => ?_
  cases hal
  case false => exact stored
  case true =>
    simp only [if_true]
    rw [wp_bind, askHal, wp_ask]
    intro token
    obtain ⟨permitted, updated, _⟩ := books.configures _ seen _ _ _ token stored known
    exact ⟨permitted, updated⟩

theorem configureStreams_maintains (requested : List Stream) :
    Maintains monitor holds (configureStreams requested) := by
  refine maintains_bind (books.ask .loadClosed rfl) fun closed => maintains_ite (maintains_pure _) ?_
  refine maintains_bind maintains_get fun session => maintains_ite (maintains_pure _) ?_
  refine maintains_ite (maintains_pure _) (maintains_bind (clearStreams_maintains books) fun _ => ?_)
  refine maintains_bind (maintains_modify fun state seen held => books.account held rfl) fun _ => ?_
  cases session.capabilities.selectAny (requested.map Stream.output) with
  | none => exact maintains_pure _
  | some mode =>
    refine maintains_bind (maintains_modify fun state seen held => books.account held rfl) fun _ => ?_
    refine maintains_bind (maintains_bind maintains_get fun _ =>
      maintains_ite (books.ask .stableHal rfl) (maintains_pure true)) fun hal => ?_
    intro state seen held
    rw [wp_bind]
    refine (registrationCurrent_checked books hal state seen held).mono ?_
    rintro current final later ⟨rfl, kept, known⟩
    cases current
    case false => exact kept
    case true => exact publishStreams_maintains books requested final later kept (known rfl)

theorem processSingleRequest_maintains (request : CaptureRequest) (cancelEpoch : Nat) :
    Maintains monitor holds (processSingleRequest request cancelEpoch) := by
  intro session seen held
  simp only [processSingleRequest, wp_bind]
  apply reserveFences_wp ((books.waiting held).mono Call.waiting_of_copying)
  intro kept fences sized
  cases kept
  case false =>
    simp only [Bool.not_false, if_true, wp_bind]
    refine (close_maintains books session seen held).mono ?_
    intro status final later kept
    exact closeFds_unheard (books.steady kept) fences _ _ fun _ => kept
  case true =>
    simp only [Bool.not_true, Bool.false_eq_true, if_false, wp_bind]
    apply importBuffers_wp (books.caching held)
    intro imported cache
    have imports : holds { session with bufferCache := cache } seen := books.account held rfl
    cases imported
    case false =>
      simp only [Bool.not_false, if_true, wp_bind]
      exact closeFds_unheard (books.steady held) fences _ _ fun _ => imports
    case true =>
      simp only [Bool.not_true, Bool.false_eq_true, if_false, captureReserved, wp_bind]
      apply waitDestinations_wp (books.waiting held)
      · simp only [wp_bind]
        apply paceFrame_wp (books.steady held)
        · exact fun _ => imports
        · intro _ slot ns
          simp only [wp_bind]
          refine cancelled_unheard (books.steady held) cancelEpoch _ _ fun stopped => ?_
          have paced : holds { session with bufferCache := cache, nextFrameNs := ns } seen :=
            books.account imports rfl
          cases stopped
          case true => exact books.fails request _ _ seen paced
          case false => exact books.captures request cancelEpoch slot _ _ seen paced
      · exact fun pending _ => books.fails request pending _ seen imports

theorem processRequests_maintains (cancelEpoch : Nat) (requests : List CaptureRequest) :
    Maintains monitor holds (processRequests cancelEpoch requests) := by
  induction requests with
  | nil => exact maintains_pure _
  | cons request rest ih =>
    refine maintains_bind maintains_get fun session => maintains_ite (maintains_pure _) ?_
    refine maintains_bind (updateTargetFps_maintains books request.settings) fun accepted => ?_
    refine maintains_ite (maintains_pure _) ?_
    refine maintains_bind (processSingleRequest_maintains books request cancelEpoch) fun outcome => ?_
    split
    · exact maintains_bind ih fun _ => maintains_pure _
    · exact maintains_pure _

theorem processCaptureRequest_maintains (requests : List CaptureRequest) (cachesToRemove : List BufferCache) :
    Maintains monitor holds (processCaptureRequest requests cachesToRemove) := by
  refine maintains_bind (fun session seen held =>
    refusing_unheard (books.steady held) session _ fun _ => held) fun refused => ?_
  refine maintains_ite (maintains_pure _) (maintains_bind (fun session seen held => ?_) fun _ => ?_)
  · apply removeBuffersFromCache_wp (books.caching held)
    exact fun cache => books.account held rfl
  · refine maintains_bind (books.ask .loadCancelEpoch rfl) fun epoch => ?_
    exact processRequests_maintains books epoch requests

theorem serve_maintains (call : FrameworkCall) (wasClosed : Bool) :
    Maintains monitor holds (SessionSystem.serve call wasClosed) := by
  cases call with
  | configureStreams requested =>
    exact maintains_bind (configureStreams_maintains books requested) fun _ => maintains_pure _
  | processCaptureRequest requests cachesToRemove =>
    exact maintains_bind (processCaptureRequest_maintains books requests cachesToRemove) fun _ => maintains_pure _
  | flush => exact maintains_bind (flushLocked_maintains books) fun _ => maintains_pure _
  | close => exact maintains_bind (closeLocked_maintains books wasClosed) fun _ => maintains_pure _

end

section Composing

variable {M : Type} {monitor : Monitor Environment M} {holds : VirtualCameraSession → M → Prop}
  (quiet : ∀ seen, monitor.Ignores seen Call.composing)
  (frame : ∀ (before after : VirtualCameraSession) (seen : M), holds before seen →
    after.frame = before.frame → holds after seen)

include quiet frame

theorem processOutput_maintains (cancelEpoch : Nat) (source : Acquired) (output : Nat) (buffer : StreamBuffer) :
    Maintains monitor holds (processOutput cancelEpoch source output buffer) := by
  have reading := fun seen => (quiet seen).mono Call.composing_of_reading
  have rendering := fun seen => (quiet seen).mono Call.composing_of_rendering
  have asks : ∀ call : Call, call.composing = true →
      Maintains monitor holds (ask call : Action VirtualCameraSession call.Reply) := fun call silent =>
    maintains_of_unheard fun seen => unheard_ask (quiet seen) call silent
  refine maintains_bind (fun session seen held => ?_) fun handle => maintains_bind maintains_get fun session => ?_
  · apply importBuffer_wp ((quiet seen).mono Call.composing_of_caching)
    exact fun handle cache => frame _ _ _ held rfl
  · split
    next stream _ =>
      refine maintains_bind (maintains_of_unheard fun seen =>
        sourceWanted_unheard ((reading seen).mono Call.reading_of_awaiting) cancelEpoch source) fun wanted => ?_
      refine maintains_ite (maintains_pure _) (maintains_bind (asks (.renderAttempt output) rfl)
        fun _ => ?_)
      refine maintains_bind (maintains_of_unheard fun seen =>
        renderOutput_unheard ((rendering seen).mono (Call.rendering_of_on _)) source.ahb stream) fun made => ?_
      split
      · exact maintains_pure _
      · exact maintains_bind (asks (.dup _) rfl) fun _ => maintains_pure _
    next => exact maintains_pure _

theorem processOutputs_maintains (cancelEpoch : Nat) (source : Acquired) (output : Nat)
    (buffers : List StreamBuffer) : Maintains monitor holds (processOutputs cancelEpoch source output buffers) := by
  induction buffers generalizing output with
  | nil => exact maintains_pure _
  | cons buffer rest ih =>
    refine maintains_bind (processOutput_maintains quiet frame cancelEpoch source output buffer) fun _ => ?_
    exact maintains_bind (ih (output + 1)) fun _ => maintains_pure _

end Composing

section Answering

variable {M : Type} {monitor : Monitor Environment M} {holds : VirtualCameraSession → M → Prop}
  (quiet : ∀ seen, monitor.Ignores seen Call.answering)

include quiet

theorem failUntouched_answers (request : CaptureRequest) (pending : List (Option Descriptors.Fd)) :
    Maintains monitor holds (failUntouched request pending) := by
  refine maintains_bind (maintains_of_unheard fun seen => unheard_ask (quiet seen) (.notify _) rfl) fun _ => ?_
  exact maintains_bind (maintains_of_unheard fun seen => unheard_ask (quiet seen) (.processCaptureResult _) rfl)
    fun _ => maintains_pure _

theorem deliver_answers (request : CaptureRequest) (timestamp frameDurationNs producerTs : Int)
    (buffers : List StreamBuffer) :
    Maintains monitor holds (deliver request timestamp frameDurationNs producerTs buffers) := by
  refine maintains_bind (maintains_of_unheard fun seen => unheard_ask (quiet seen) (.notify _) rfl) fun _ => ?_
  refine maintains_bind maintains_get fun session => ?_
  exact maintains_bind (maintains_of_unheard fun seen => unheard_ask (quiet seen) (.processCaptureResult _) rfl)
    fun _ => maintains_pure _

variable (renders : ∀ (cancelEpoch : Nat) (source : Acquired) (output : Nat) (buffers : List StreamBuffer),
    Maintains monitor holds (processOutputs cancelEpoch source output buffers))
  (used : ∀ (session : VirtualCameraSession) (sequence : Nat) (seen : M), holds session seen →
    holds { session with lastSourceSequence := sequence } seen)

include renders used

theorem captureFrom_answers (request : CaptureRequest) (cancelEpoch : Nat) (timestamp frameDurationNs : Int)
    (pending : List (Option Descriptors.Fd)) (source : Acquired) (polls : Nat) :
    Maintains monitor holds (captureFrom request cancelEpoch timestamp frameDurationNs pending source polls) := by
  have reading := fun seen => (quiet seen).mono Call.answering_of_reading
  have steady := fun seen => (reading seen).mono Call.reading_of_steady
  have released : ∀ (fences : List Descriptors.Fd) (outcome : Outcome), Maintains monitor holds (do
      releaseSource source fences
      pure outcome : Action VirtualCameraSession Outcome) := fun fences outcome =>
    maintains_bind (maintains_of_unheard fun seen => releaseSource_unheard (reading seen) source fences)
      fun _ => maintains_pure _
  refine maintains_bind (maintains_of_unheard fun seen => cancelled_unheard (steady seen) cancelEpoch) fun stopped => ?_
  refine maintains_ite (maintains_bind (failUntouched_answers quiet request pending) fun outcome =>
    released _ outcome) ?_
  refine maintains_bind (maintains_modify fun session seen held => used session _ seen held) fun _ => ?_
  refine maintains_bind (maintains_of_unheard fun seen =>
    sourceReady_unheard ((reading seen).mono Call.reading_of_awaiting) cancelEpoch source polls) fun ready =>
      maintains_ite ?_ ?_
  · refine maintains_bind (maintains_of_unheard fun seen =>
      closeFds_unheard (steady seen) [source.acquireFence]) fun _ => ?_
    refine maintains_bind (renders cancelEpoch source 0 request.outputBuffers) fun made => ?_
    exact maintains_bind (deliver_answers quiet request timestamp frameDurationNs _ _) fun outcome =>
      released _ outcome
  · exact maintains_bind (failUntouched_answers quiet request pending) fun outcome => released _ outcome

theorem captureSource_answers (started : ∀ (session : VirtualCameraSession) (seen : M), holds session seen →
      holds { session with startupWaitPending := false } seen)
    (request : CaptureRequest) (cancelEpoch : Nat) (timestamp : Int) (pending : List (Option Descriptors.Fd)) :
    Maintains monitor holds (captureSource request cancelEpoch timestamp pending) := by
  have reading := fun seen => (quiet seen).mono Call.answering_of_reading
  refine maintains_bind maintains_get fun session => ?_
  refine maintains_bind (maintains_of_unheard fun seen => unheard_ask (reading seen) .stableHal rfl) fun hal => ?_
  refine maintains_ite (failUntouched_answers quiet request pending) (maintains_bind (fun session seen held => ?_)
    fun polls => ?_)
  · apply startDeadline_wp ((reading seen).mono Call.reading_of_steady)
    exact fun polls => started _ _ held
  · refine maintains_bind (maintains_of_unheard fun seen =>
      pollSource_unheard ((reading seen).mono Call.reading_of_seeking) cancelEpoch polls) fun found => ?_
    split
    · exact failUntouched_answers quiet request pending
    · exact captureFrom_answers quiet renders used request cancelEpoch timestamp _ pending _ _

end Answering

section Deaf

variable {M : Type} {monitor : Monitor Environment M} {holds : VirtualCameraSession → M → Prop}
  (quiet : ∀ seen, monitor.Ignores seen Call.capturing)

include quiet

theorem failUntouched_maintains (request : CaptureRequest) (pending : List (Option Descriptors.Fd)) :
    Maintains monitor holds (failUntouched request pending) :=
  failUntouched_answers (fun seen => (quiet seen).mono Call.capturing_of_answering) request pending

theorem captureSource_maintains (frame : ∀ (before after : VirtualCameraSession) (seen : M), holds before seen →
      after.frame = before.frame → holds after seen)
    (request : CaptureRequest) (cancelEpoch : Nat) (timestamp : Int) (pending : List (Option Descriptors.Fd)) :
    Maintains monitor holds (captureSource request cancelEpoch timestamp pending) := by
  have composing := fun seen => (quiet seen).mono Call.capturing_of_composing
  exact captureSource_answers (fun seen => (quiet seen).mono Call.capturing_of_answering)
    (processOutputs_maintains composing frame) (fun _ _ _ held => frame _ _ _ held rfl)
    (fun _ _ held => frame _ _ _ held rfl) request cancelEpoch timestamp pending

end Deaf

end VirtualCameraSession

end VirtualCamera
