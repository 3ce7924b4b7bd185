import Mathlib.Data.List.Forall2
import VirtualCamera.Session.Negotiation
import VirtualCamera.Session.Operations

set_option autoImplicit false

namespace VirtualCamera

open Descriptors Interaction Interaction.Process

inductive Callback where
  | notify (messages : List NotifyMsg)
  | captureResult (results : List CaptureResult)
deriving DecidableEq, Repr

def Call.callback : Call → Option Callback
  | .notify messages => some (.notify messages)
  | .processCaptureResult results => some (.captureResult results)
  | _ => none

def callbacks (events : List (Event Environment)) : List Callback :=
  events.filterMap fun event => event.1.callback

def callbackLog : Monitor Environment (List Callback) where
  observe log event := log ++ event.1.callback.toList

theorem callbackLog_follow (log : List Callback) (events : List (Event Environment)) :
    callbackLog.follow log events = log ++ callbacks events :=
  Monitor.follow_collect (fun event : Event Environment => event.1.callback) log events

theorem callbackLog_ignores (log : List Callback) (quiet : Call → Bool)
    (silent : ∀ call, quiet call = true → call.callback = none) : callbackLog.Ignores log quiet := by
  intro call reply inside
  exact ⟨trivial, by simp [callbackLog, silent call inside]⟩

section Silent

variable (log : List Callback)

theorem callbackLog_steady : callbackLog.Ignores log Call.steady :=
  callbackLog_ignores log _ fun call inside => by cases call <;> first | rfl | cases inside

theorem callbackLog_caching : callbackLog.Ignores log Call.caching :=
  callbackLog_ignores log _ fun call inside => by cases call <;> first | rfl | cases inside

theorem callbackLog_preparing : callbackLog.Ignores log Call.preparing :=
  callbackLog_ignores log _ fun call inside => by cases call <;> first | rfl | cases inside

theorem callbackLog_waiting : callbackLog.Ignores log Call.waiting :=
  (callbackLog_preparing log).mono Call.preparing_of_waiting

theorem callbackLog_sourcing : callbackLog.Ignores log Call.sourcing :=
  callbackLog_ignores log _ fun call inside => by cases call <;> first | rfl | cases inside

theorem callbackLog_reading : callbackLog.Ignores log Call.reading :=
  (callbackLog_sourcing log).mono Call.sourcing_of_reading

theorem callbackLog_seeking : callbackLog.Ignores log Call.seeking :=
  (callbackLog_reading log).mono Call.reading_of_seeking

theorem callbackLog_rendering : callbackLog.Ignores log Call.rendering :=
  callbackLog_ignores log _ fun call inside => by cases call <;> first | rfl | cases inside

theorem callbackLog_negotiating : callbackLog.Ignores log Call.negotiating :=
  callbackLog_ignores log _ fun call inside => by cases call <;> first | rfl | cases inside

theorem callbackLog_attempt : callbackLog.Ignores log Call.attempting :=
  callbackLog_ignores log _ fun call inside => by cases call <;> first | rfl | cases inside

end Silent

def StreamBuffer.key (buffer : StreamBuffer) : Int × Nat := (buffer.streamId, buffer.bufferId)

structure Succeeded (request : CaptureRequest) (messages : List NotifyMsg) (result : CaptureResult) :
    Prop where
  filled : ∃ buffer ∈ result.outputBuffers, buffer.status = .ok
  messages : ∃ timestamp, messages = .shutter request.frameNumber timestamp timestamp ::
    (result.outputBuffers.filter (·.status == .error)).map fun buffer =>
      .error request.frameNumber buffer.streamId .errorBuffer
  metadata : result.result.isSome
  partialResult : result.partialResult = 1

structure Failed (request : CaptureRequest) (messages : List NotifyMsg) (result : CaptureResult) :
    Prop where
  untouched : ∀ buffer ∈ result.outputBuffers, buffer.status = .error
  messages : messages = [.error request.frameNumber (-1) .errorRequest]
  metadata : result.result = none
  partialResult : result.partialResult = 0

structure Delivered (request : CaptureRequest) (messages : List NotifyMsg) (result : CaptureResult) :
    Prop where
  frameNumber : result.frameNumber = request.frameNumber
  buffers : result.outputBuffers.map StreamBuffer.key = request.outputBuffers.map StreamBuffer.key
  shape : Succeeded request messages result ∨ Failed request messages result

def delivery (pair : List NotifyMsg × CaptureResult) : List Callback :=
  [.notify pair.1, .captureResult [pair.2]]

def Completed (request : CaptureRequest) (log : List Callback)
    (outcome : VirtualCameraSession.Outcome) (later : List Callback) : Prop :=
  outcome = .status .ok ∧ ∃ messages result, Delivered request messages result ∧
    later = log ++ delivery (messages, result)

def Answered (request : CaptureRequest) (log : List Callback)
    (outcome : VirtualCameraSession.Outcome) (later : List Callback) : Prop :=
  Completed request log outcome later ∨ (outcome ≠ .status .ok ∧ later = log)

namespace VirtualCameraSession

variable (session : VirtualCameraSession) (request : CaptureRequest) (log : List Callback)

theorem untouchedResult_delivered (pending : List (Option Fd))
    (sized : pending.length = request.outputBuffers.length) :
    Delivered request [.error request.frameNumber (-1) .errorRequest] (untouchedResult request pending) where
  frameNumber := rfl
  buffers := by
    simp only [untouchedResult]
    apply List.ext_getElem
    · simp [sized]
    · intro index inside bound
      simp [untouchedBuffer, StreamBuffer.key]
  shape := by
    refine .inr ⟨?_, rfl, rfl, rfl⟩
    intro buffer member
    obtain ⟨index, bound, rfl⟩ := List.mem_iff_getElem.mp member
    simp [untouchedResult, untouchedBuffer]

theorem captureResult_delivered (timestamp frameDurationNs producerTs width height : Int)
    (buffers : List StreamBuffer)
    (keys : buffers.map StreamBuffer.key = request.outputBuffers.map StreamBuffer.key) :
    Delivered request (notifications request.frameNumber timestamp buffers)
      (captureResult request.frameNumber timestamp frameDurationNs producerTs width height buffers) where
  frameNumber := rfl
  buffers := keys
  shape := by
    by_cases filled : buffers.any (·.status == .ok) = true
    · refine .inl ⟨?_, ⟨timestamp, ?_⟩, ?_, ?_⟩
      · simpa [captureResult] using filled
      · rw [notifications, if_pos filled]
        rfl
      · simp [captureResult, filled, MetadataBuilder.buildResultMetadata]
      · simp [captureResult, filled]
    · refine .inr ⟨?_, ?_, ?_, ?_⟩
      · intro buffer member
        cases status : buffer.status with
        | error => rfl
        | ok => exact absurd (List.any_eq_true.mpr ⟨buffer, member, by simp [status]⟩) filled
      · rw [notifications, if_neg filled]
      · simp [captureResult, filled]
      · simp [captureResult, filled]

theorem failUntouched_completes (pending : List (Option Fd))
    (sized : pending.length = request.outputBuffers.length) :
    (failUntouched request pending).wp callbackLog session log fun outcome final later =>
      Completed request log outcome later ∧ final = session := by
  rw [failUntouched, wp_bind, wp_ask]
  refine fun _ => ⟨trivial, ?_⟩
  rw [wp_bind, wp_ask]
  refine fun _ => ⟨trivial, ⟨rfl, _, _, untouchedResult_delivered request pending sized, ?_⟩, rfl⟩
  simp [callbackLog, Call.callback, delivery]

theorem deliver_completes (timestamp frameDurationNs producerTs : Int) (buffers : List StreamBuffer)
    (keys : buffers.map StreamBuffer.key = request.outputBuffers.map StreamBuffer.key) :
    (deliver request timestamp frameDurationNs producerTs buffers).wp callbackLog session log
      fun outcome final later => Completed request log outcome later ∧ final = session := by
  rw [deliver, wp_bind, wp_ask]
  refine fun _ => ⟨trivial, ?_⟩
  rw [wp_bind, wp_get, wp_bind, wp_ask]
  refine fun _ => ⟨trivial, ⟨rfl, _, _, captureResult_delivered request timestamp frameDurationNs producerTs
    session.sourceMode.width session.sourceMode.height buffers keys, ?_⟩, rfl⟩
  simp [callbackLog, Call.callback, delivery]

theorem processOutput_silent (cancelEpoch : Nat) (source : Acquired) (output : Nat)
    (buffer : StreamBuffer) :
    (processOutput cancelEpoch source output buffer).wp callbackLog session log
      fun made final later => made.1.key = buffer.key ∧ final.core = session.core ∧ later = log := by
  simp only [processOutput, wp_bind, wp_get]
  apply importBuffer_wp (callbackLog_caching log)
  intro handle cache
  have missing : (pure (resultBuffer buffer false none, []) :
      Action VirtualCameraSession (StreamBuffer × List Fd)).wp callbackLog
      { session with bufferCache := cache } log
      fun made final later => made.1.key = buffer.key ∧ final.core = session.core ∧ later = log :=
    ⟨rfl, rfl, rfl⟩
  cases handle with
  | none => exact missing
  | some handle =>
    cases session.streams buffer.streamId with
    | none => exact missing
    | some stream =>
      simp only [wp_bind]
      refine sourceWanted_unheard ((callbackLog_seeking log).mono Call.seeking_of_awaiting) cancelEpoch source _ _ fun wanted => ?_
      cases wanted
      case false => exact missing
      case true =>
        simp only [Bool.not_true, Bool.false_eq_true, if_false, wp_bind]
        refine unheard_ask (callbackLog_attempt log) (.renderAttempt output) rfl _ _ fun _ => ?_
        refine renderOutput_unheard ((callbackLog_rendering log).mono (Call.rendering_of_on handle)) source.ahb stream _ _ fun made => ?_
        obtain ⟨filled, fence⟩ := made
        cases fence with
        | none => exact ⟨rfl, rfl, rfl⟩
        | some done =>
          simp only [wp_bind]
          refine unheard_ask (callbackLog_rendering log) (.dup done) rfl _ _ fun released => ?_
          exact ⟨rfl, rfl, rfl⟩

theorem processOutputs_silent (cancelEpoch : Nat) (source : Acquired) (output : Nat)
    (buffers : List StreamBuffer) :
    (processOutputs cancelEpoch source output buffers).wp callbackLog session log
      fun made final later => made.1.map StreamBuffer.key = buffers.map StreamBuffer.key ∧
        final.core = session.core ∧ later = log := by
  induction buffers generalizing session output with
  | nil => exact ⟨rfl, rfl, rfl⟩
  | cons buffer rest ih =>
    simp only [processOutputs, wp_bind]
    refine (processOutput_silent session log cancelEpoch source output buffer).mono ?_
    rintro ⟨made, fences⟩ middle later ⟨key, kept, rfl⟩
    refine (ih middle (output + 1)).mono ?_
    rintro ⟨results, more⟩ final later ⟨keys, keptLater, rfl⟩
    exact ⟨by simp [key, keys], keptLater.trans kept, rfl⟩

theorem releaseSource_completed (source : Acquired) (fences : List Fd) (outcome : Outcome)
    (later : List Callback) (completed : Completed request log outcome later) (before : VirtualCameraSession)
    (kept : session.core = before.core) :
    (do
      releaseSource source fences
      pure outcome : Action VirtualCameraSession Outcome).wp callbackLog session later
      fun outcome final later => Completed request log outcome later ∧ final.core = before.core := by
  rw [wp_bind]
  exact releaseSource_unheard (callbackLog_reading later) source fences _ _ fun _ => ⟨completed, kept⟩

theorem captureFrom_completes (cancelEpoch : Nat) (timestamp frameDurationNs : Int)
    (pending : List (Option Fd)) (sized : pending.length = request.outputBuffers.length)
    (source : Acquired) (polls : Nat) :
    (captureFrom request cancelEpoch timestamp frameDurationNs pending source polls).wp callbackLog
      session log fun outcome final later =>
        Completed request log outcome later ∧ final.core = session.core := by
  have failed : ∀ (state : VirtualCameraSession) (fences : List Fd), state.core = session.core →
      (do
        let outcome ← failUntouched request pending
        releaseSource source fences
        pure outcome : Action VirtualCameraSession Outcome).wp callbackLog state log
        fun outcome final later => Completed request log outcome later ∧ final.core = session.core := by
    intro state fences kept
    rw [wp_bind]
    refine (failUntouched_completes state request log pending sized).mono ?_
    rintro outcome final later ⟨completed, rfl⟩
    exact releaseSource_completed final request log source fences outcome later completed session kept
  simp only [captureFrom, wp_bind]
  refine cancelled_unheard (callbackLog_steady log) cancelEpoch _ _ fun stopped => ?_
  cases stopped
  case true => exact failed session source.acquireFence.toList rfl
  case false =>
    simp only [Bool.false_eq_true, if_false, wp_bind, wp_modify]
    refine sourceReady_unheard ((callbackLog_seeking log).mono Call.seeking_of_awaiting) cancelEpoch source polls _ _ fun ready => ?_
    cases ready
    case false => exact failed _ _ rfl
    case true =>
      simp only [if_true, wp_bind]
      refine closeFds_unheard (callbackLog_steady log) [source.acquireFence] _ _ fun _ => ?_
      refine (processOutputs_silent _ log cancelEpoch source 0 request.outputBuffers).mono ?_
      rintro ⟨buffers, fences⟩ middle later ⟨keys, kept, rfl⟩
      refine (deliver_completes middle request later timestamp frameDurationNs source.timestampNs buffers
        keys).mono ?_
      rintro outcome final after ⟨completed, rfl⟩
      exact releaseSource_completed final request later source fences outcome after completed session kept

theorem captureSource_completes (cancelEpoch : Nat) (timestamp : Int) (pending : List (Option Fd))
    (sized : pending.length = request.outputBuffers.length) :
    (captureSource request cancelEpoch timestamp pending).wp callbackLog session log
      fun outcome final later => Completed request log outcome later ∧ final.core = session.core := by
  have failed : ∀ state : VirtualCameraSession, state.core = session.core →
      (failUntouched request pending).wp callbackLog state log
        fun outcome final later => Completed request log outcome later ∧ final.core = session.core := by
    intro state kept
    refine (failUntouched_completes state request log pending sized).mono ?_
    rintro outcome final later ⟨completed, rfl⟩
    exact ⟨completed, kept⟩
  simp only [captureSource, wp_bind, wp_get]
  refine unheard_ask (callbackLog_steady log) .stableHal rfl _ _ fun hal => ?_
  rw [wp_ite]
  refine ⟨fun _ => failed session rfl, fun _ => ?_⟩
  rw [wp_bind]
  apply startDeadline_wp (callbackLog_steady log)
  intro polls
  rw [wp_bind]
  refine pollSource_unheard (callbackLog_seeking log) cancelEpoch polls _ _ fun found => ?_
  obtain ⟨source, left⟩ := found
  cases source with
  | none => exact failed _ rfl
  | some source =>
    exact (captureFrom_completes _ request log cancelEpoch timestamp _ pending sized source left)

theorem processSingleRequest_answers (cancelEpoch : Nat) :
    (processSingleRequest request cancelEpoch).wp callbackLog session log fun outcome final later =>
      Answered request log outcome later ∧ final.core = session.core ∧
        (outcome = .trap → session.targetFps = 0) := by
  have answers : ∀ outcome (final : VirtualCameraSession) later,
      Completed request log outcome later ∧ final.core = session.core →
      Answered request log outcome later ∧ final.core = session.core ∧
        (outcome = .trap → session.targetFps = 0) := by
    rintro outcome final later ⟨completed, kept⟩
    exact ⟨.inl completed, kept, fun trapped => by cases completed.1.symm.trans trapped⟩
  simp only [processSingleRequest, wp_bind]
  apply reserveFences_wp ((callbackLog_waiting log).mono Call.waiting_of_copying)
  intro kept fences sized
  cases kept
  case false =>
    simp only [Bool.not_false, if_true, wp_bind]
    refine close_unheard ((callbackLog_preparing log).mono Call.preparing_of_ending) _ _ fun _ => ?_
    exact closeFds_unheard (callbackLog_steady log) fences _ _ fun _ => ⟨.inr ⟨by simp, rfl⟩, rfl, by simp⟩
  case true =>
    simp only [Bool.not_true, Bool.false_eq_true, if_false, wp_bind]
    apply importBuffers_wp (callbackLog_caching log)
    intro imported cache
    cases imported
    case false =>
      simp only [Bool.not_false, if_true, wp_bind]
      exact closeFds_unheard (callbackLog_steady log) fences _ _ fun _ => ⟨.inr ⟨by simp, rfl⟩, rfl, by simp⟩
    case true =>
      simp only [Bool.not_true, Bool.false_eq_true, if_false, captureReserved, wp_bind]
      have failed : ∀ (state : VirtualCameraSession) (pending : List (Option Fd)),
          state.core = session.core → pending.length = fences.length →
          (failUntouched request pending).wp callbackLog state log fun outcome final later =>
            Answered request log outcome later ∧ final.core = session.core ∧
              (outcome = .trap → session.targetFps = 0) := by
        intro state pending same short
        refine (failUntouched_completes state request log pending (short.trans (sized rfl))).mono ?_
        rintro outcome final later ⟨completed, rfl⟩
        exact answers _ _ _ ⟨completed, same⟩
      apply waitDestinations_wp (callbackLog_waiting log)
      · simp only [wp_bind]
        apply paceFrame_wp (callbackLog_steady log)
        · exact fun zero => ⟨.inr ⟨by simp, rfl⟩, rfl, fun _ => zero⟩
        · intro _ slot ns
          simp only [wp_bind]
          refine cancelled_unheard (callbackLog_steady log) cancelEpoch _ _ fun stopped => ?_
          cases stopped
          case true => exact failed _ _ rfl (by simp)
          case false =>
            exact (captureSource_completes _ request log cancelEpoch slot _ (by simp [sized])).mono answers
      · exact fun pending short => failed _ pending rfl short

structure Batch (requests : List CaptureRequest) (log : List Callback) (outcome : Outcome)
    (processed : Nat) (later : List Callback) : Prop where
  bounded : processed ≤ requests.length
  complete : outcome = .status .ok → processed = requests.length
  delivered : ∃ deliveries, later = log ++ deliveries.flatMap delivery ∧
    List.Forall₂ (fun request pair => Delivered request pair.1 pair.2) (requests.take processed) deliveries

theorem Batch.stopped (requests : List CaptureRequest) (outcome : Outcome)
    (failed : outcome ≠ .status .ok) : Batch requests log outcome 0 log where
  bounded := Nat.zero_le _
  complete ok := absurd ok failed
  delivered := ⟨[], by simp, by simp⟩

theorem Batch.cons {rest : List CaptureRequest} {outcome : Outcome} {processed : Nat}
    {middle later : List Callback} (completed : Completed request log (.status .ok) middle)
    (batch : Batch rest middle outcome processed later) :
    Batch (request :: rest) log outcome (processed + 1) later where
  bounded := Nat.succ_le_succ batch.bounded
  complete ok := congrArg (· + 1) (batch.complete ok)
  delivered := by
    obtain ⟨_, messages, result, shape, rfl⟩ := completed
    obtain ⟨deliveries, rfl, matched⟩ := batch.delivered
    exact ⟨(messages, result) :: deliveries, by simp, .cons shape matched⟩

theorem processRequests_batch (cancelEpoch : Nat) (requests : List CaptureRequest) :
    (processRequests cancelEpoch requests).wp callbackLog session log fun out _ later =>
      Batch requests log out.1 out.2 later := by
  induction requests generalizing session log with
  | nil => exact ⟨le_rfl, fun _ => rfl, [], by simp, by simp⟩
  | cons request rest ih =>
    have refused : ∀ outcome : Outcome, outcome ≠ .status .ok →
        Batch (request :: rest) log outcome 0 log := fun outcome failed =>
      Batch.stopped log (request :: rest) outcome failed
    simp only [processRequests, wp_bind, wp_get]
    rw [wp_ite]
    refine ⟨fun _ => refused _ (by simp), fun _ => ?_⟩
    have single : ∀ (state : VirtualCameraSession) (next : Outcome → Action VirtualCameraSession (Outcome × Nat)),
        (next (.status .ok) = do
          let answer ← processRequests cancelEpoch rest
          pure (answer.1, answer.2 + 1)) →
        next .trap = pure (.trap, 0) →
        next (.status .illegalArgument) = pure (.status .illegalArgument, 0) →
        next (.status .internalError) = pure (.status .internalError, 0) →
        (processSingleRequest request cancelEpoch >>= next).wp callbackLog state log fun out _ later =>
          Batch (request :: rest) log out.1 out.2 later := by
      intro state next continues traps refuses fails
      rw [wp_bind]
      refine (processSingleRequest_answers state request log cancelEpoch).mono ?_
      rintro outcome final later ⟨completed | ⟨failed, rfl⟩, _, _⟩
      · obtain rfl := completed.1
        rw [continues, wp_bind]
        refine (ih final later).mono ?_
        exact fun out _ after batch => batch.cons request log completed
      · cases outcome with
        | trap =>
          rw [traps]
          exact refused _ failed
        | status status =>
          cases status with
          | ok => exact absurd rfl failed
          | illegalArgument =>
            rw [refuses]
            exact refused _ failed
          | internalError =>
            rw [fails]
            exact refused _ failed
    rw [wp_bind]
    apply updateTargetFps_wp session (callbackLog_negotiating log)
    · exact refused _ (by simp)
    · exact fun _ => single session _ rfl rfl rfl rfl
    · exact fun blob mode fps _ _ _ _ _ => single _ _ rfl rfl rfl rfl
    · exact fun blob mode fps token _ _ _ _ => single _ _ rfl rfl rfl rfl

theorem processCaptureRequest_batch (requests : List CaptureRequest) (cachesToRemove : List BufferCache) :
    (processCaptureRequest requests cachesToRemove).wp callbackLog session log fun out _ later =>
      Batch requests log out.1 out.2 later := by
  rw [processCaptureRequest, wp_bind]
  refine refusing_unheard (callbackLog_steady log) _ _ fun refused => ?_
  cases refused
  case true => exact Batch.stopped log requests _ nofun
  case false =>
    simp only [Bool.false_eq_true, if_false, wp_bind]
    apply removeBuffersFromCache_wp (callbackLog_caching log)
    intro cache
    refine unheard_ask (callbackLog_steady log) .loadCancelEpoch rfl _ _ fun epoch => ?_
    exact processRequests_batch _ log epoch requests

theorem captureCallbacks (requests : List CaptureRequest) (cachesToRemove : List BufferCache)
    (events : List (Event Environment)) (outcome : Outcome) (processed : Nat)
    (final : VirtualCameraSession)
    (execution : (processCaptureRequest requests cachesToRemove session).Execution events
      ((outcome, processed), final)) :
    processed ≤ requests.length ∧
      (outcome = .status .ok → processed = requests.length) ∧
      ∃ deliveries, callbacks events = deliveries.flatMap delivery ∧
        List.Forall₂ (fun request pair => Delivered request pair.1 pair.2)
          (requests.take processed) deliveries := by
  have batch := ((processCaptureRequest_batch session [] requests cachesToRemove).execution execution).2
  obtain ⟨deliveries, heard, matched⟩ := batch.delivered
  rw [callbackLog_follow] at heard
  exact ⟨batch.bounded, batch.complete, deliveries, by simpa using heard, matched⟩

theorem captureCallbacks_filled :
    ∃ deliveries,
      callbacks ((processCaptureRequest [previewRequest (rangeSettings 30 30)] []
        previewSession).replay Call.succeed).1 = deliveries.flatMap delivery ∧
      List.Forall₂ (fun request pair => Delivered request pair.1 pair.2)
        [previewRequest (rangeSettings 30 30)] deliveries := by
  have execution := Program.replay_execution Call.succeed
    (processCaptureRequest [previewRequest (rangeSettings 30 30)] [] previewSession)
  have once : ((processCaptureRequest [previewRequest (rangeSettings 30 30)] []
      previewSession).replay Call.succeed).2.1.2 = 1 := by decide +kernel
  generalize (processCaptureRequest [previewRequest (rangeSettings 30 30)] []
    previewSession).replay Call.succeed = run at execution once ⊢
  obtain ⟨events, ⟨outcome, processed⟩, final⟩ := run
  obtain rfl : processed = 1 := once
  exact (captureCallbacks previewSession _ [] events outcome 1 final execution).2.2

section Kept

structure Kept (holds : VirtualCameraSession → Prop) (permitted : CameraMetadata → Prop) : Prop where
  core {before after : VirtualCameraSession} (held : holds before) (same : after.core = before.core) :
    holds after
  update (state : VirtualCameraSession) (settings : CameraMetadata) (log : List Callback)
    (allowed : permitted settings) (held : holds state) :
    (updateTargetFps settings).wp callbackLog state log fun _ final later => later = log ∧ holds final

variable {holds : VirtualCameraSession → Prop} {permitted : CameraMetadata → Prop}

theorem processRequests_keeps (kept : Kept holds permitted) (cancelEpoch : Nat)
    (requests : List CaptureRequest) (allowed : ∀ request ∈ requests, permitted request.settings)
    (held : holds session) :
    (processRequests cancelEpoch requests).wp callbackLog session log fun out final _ =>
      holds final ∧ (out.1 = .trap → ∃ state, holds state ∧ state.targetFps = 0) := by
  induction requests generalizing session log with
  | nil => exact ⟨held, by simp⟩
  | cons request rest ih =>
    simp only [processRequests, wp_bind, wp_get]
    rw [wp_ite]
    refine ⟨fun _ => ⟨held, by simp⟩, fun _ => ?_⟩
    rw [wp_bind]
    refine (kept.update session request.settings log (allowed request List.mem_cons_self) held).mono ?_
    rintro accepted state later ⟨rfl, updated⟩
    cases accepted
    case false => exact ⟨updated, by simp⟩
    case true =>
      simp only [Bool.not_true, Bool.false_eq_true, if_false, wp_bind]
      refine (processSingleRequest_answers state request later cancelEpoch).mono ?_
      rintro outcome final after ⟨_, same, trapped⟩
      have next := kept.core updated same
      cases outcome with
      | trap => exact ⟨next, fun _ => ⟨state, updated, trapped rfl⟩⟩
      | status status =>
        cases status with
        | ok =>
          simp only [wp_bind]
          exact ih final after (fun other member => allowed other (List.mem_cons_of_mem _ member)) next
        | illegalArgument => exact ⟨next, by simp⟩
        | internalError => exact ⟨next, by simp⟩

theorem processCaptureRequest_keeps (kept : Kept holds permitted) (requests : List CaptureRequest)
    (cachesToRemove : List BufferCache) (allowed : ∀ request ∈ requests, permitted request.settings)
    (held : holds session) :
    (processCaptureRequest requests cachesToRemove).wp callbackLog session log fun out final _ =>
      holds final ∧ (out.1 = .trap → ∃ state, holds state ∧ state.targetFps = 0) := by
  rw [processCaptureRequest, wp_bind]
  refine refusing_unheard (callbackLog_steady log) _ _ fun refused => ?_
  cases refused
  case true => exact ⟨held, nofun⟩
  case false =>
    simp only [Bool.false_eq_true, if_false, wp_bind]
    apply removeBuffersFromCache_wp (callbackLog_caching log)
    intro cache
    refine unheard_ask (callbackLog_steady log) .loadCancelEpoch rfl _ _ fun epoch => ?_
    exact processRequests_keeps _ log kept epoch requests allowed (kept.core held rfl)

theorem perform_keeps (kept : Kept holds permitted) (op : SessionOp)
    (allowed : ∀ settings ∈ op.settings, permitted settings) (held : holds session)
    (identified : ∀ identity, holds { session with sessionIdentity := identity })
    (configured : ∀ requested mode after, op = .configureStreams requested →
      session.capabilities.selectAny (requested.map Stream.output) = some mode →
      Configured session requested mode after → holds after) :
    op.perform.wp callbackLog session [] fun _ final _ => holds final := by
  have quiet := callbackLog_preparing []
  cases op with
  | construct =>
    simp only [SessionOp.perform, construct, wp_bind]
    refine unheard_ask quiet .stableHal rfl _ _ fun hal => ?_
    cases hal
    case false => exact held
    case true =>
      simp only [if_true, wp_bind]
      exact unheard_ask (callbackLog_sourcing []) (.hal .allocateSessionIdentity) rfl _ _ identified
  | configureStreams requested =>
    simp only [SessionOp.perform, wp_bind]
    apply configureStreams_wp session (callbackLog_negotiating []) (callbackLog_caching [])
    · exact fun _ _ _ => held
    · exact fun mode _ after selected settled => configured requested mode after rfl selected settled
  | updateTargetFps settings =>
    simp only [SessionOp.perform, wp_bind]
    exact (kept.update session settings [] (allowed settings (by simp [SessionOp.settings])) held).mono
      fun _ _ _ updated => updated.2
  | processCaptureRequest requests cachesToRemove =>
    simp only [SessionOp.perform, wp_bind]
    refine (processCaptureRequest_keeps session [] kept requests cachesToRemove (fun request member => ?_) held).mono
      fun _ _ _ captured => captured.1
    exact allowed request.settings (List.mem_map_of_mem member)
  | flush =>
    simp only [SessionOp.perform, flush, wp_bind, wp_modify]
    refine unheard_ask quiet (.storeFlushing true) rfl _ _ fun _ => ?_
    refine unheard_ask quiet .bumpCancelEpoch rfl _ _ fun _ => ?_
    exact unheard_ask quiet (.storeFlushing false) rfl _ _ fun _ => kept.core held rfl
  | close =>
    simp only [SessionOp.perform, wp_bind]
    exact close_unheard (quiet.mono Call.preparing_of_ending) _ _ fun _ => held

end Kept

end VirtualCameraSession

end VirtualCamera
