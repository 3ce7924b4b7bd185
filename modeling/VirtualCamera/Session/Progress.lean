import VirtualCamera.Session.Footprint

set_option autoImplicit false

namespace VirtualCamera

open Descriptors Interaction Interaction.Process VirtualCameraSession

def Call.touches : Call → Bool
  | .renderAttempt _ | .lock .. | .lockYCbCr .. | .encodeToBlob .. | .fillFromAHardwareBuffer .. => true
  | .gl _ => true
  | _ => false

def Call.aloof : Call → Bool
  | .notify _ | .processCaptureResult _ | .storeFlushing _ => false
  | call => !call.touches

theorem Call.aloof_of_waiting (call : Call) (waiting : call.waiting = true) : call.aloof = true := by
  cases call <;> first | rfl | cases waiting

theorem Call.aloof_of_reading (call : Call) (reading : call.reading = true) : call.aloof = true := by
  cases call <;> first | rfl | cases reading

theorem Call.aloof_of_ending (call : Call) (ending : call.ending = true) : call.aloof = true := by
  cases call <;> first | rfl | cases ending

theorem Call.aloof_of_caching (call : Call) (caching : call.caching = true) : call.aloof = true := by
  cases call <;> first | rfl | cases caching

theorem Call.aloof_of_negotiating (call : Call) (negotiating : call.negotiating = true) : call.aloof = true := by
  cases call <;> first | rfl | cases negotiating

-- Where a batch stands: what its flushing check found, the cancel epoch it goes by, what its current
-- request has seen of the session, and how many requests are completed.
structure Progress where
  checked : Option Bool := none
  epoch : Option Nat := none
  looking : Bool := false
  live : Bool := false
  completed : Nat := 0
deriving DecidableEq, Repr

namespace Progress

def observe (progress : Progress) : Event Environment → Progress
  | ⟨.loadFlushing, flushing⟩ => { progress with checked := progress.checked.or (some (flushing : Bool)) }
  | ⟨.loadClosed, closed⟩ => { progress with looking := progress.epoch.isSome && !(closed : Bool) }
  | ⟨.loadCancelEpoch, epoch⟩ =>
    match progress.epoch with
    | none => { progress with epoch := some (epoch : Nat) }
    | some started => { progress with live := progress.live || progress.looking && (epoch : Nat) == started }
  | ⟨.processCaptureResult _, _⟩ =>
    { progress with looking := false, live := false, completed := progress.completed + 1 }
  | _ => progress

def Untouched (request : CaptureRequest) : Event Environment → Prop
  | ⟨.notify messages, _⟩ => messages = [.error request.frameNumber (-1) .errorRequest]
  | ⟨.processCaptureResult results, _⟩ =>
    ∃ pending, pending.length = request.outputBuffers.length ∧ results = [untouchedResult request pending]
  | ⟨call, _⟩ => call.touches = false

-- A request touches its destinations, or says anything but that it failed, only after it has
-- found the session open and the batch's epoch still the current one.
def permits (requests : List CaptureRequest) (progress : Progress) : Event Environment → Prop
  | ⟨.storeFlushing _, _⟩ => False
  | ⟨.loadCancelEpoch, _⟩ => progress.epoch = none → progress.checked = some false
  | ⟨.notify messages, reply⟩ =>
    progress.epoch.isSome = true ∧ ∃ request, requests[progress.completed]? = some request ∧
      (progress.live = true ∨ Untouched request ⟨.notify messages, reply⟩)
  | ⟨.processCaptureResult results, reply⟩ =>
    progress.epoch.isSome = true ∧ ∃ request, requests[progress.completed]? = some request ∧
      (progress.live = true ∨ Untouched request ⟨.processCaptureResult results, reply⟩)
  | ⟨call, _⟩ => call.touches = true → progress.live = true

def monitor (requests : List CaptureRequest) : Monitor Environment Progress :=
  { observe, permits := permits requests }

variable {requests : List CaptureRequest} {epoch completed : Nat}

structure Going (epoch completed : Nat) (progress : Progress) : Prop where
  epoch : progress.epoch = some epoch
  completed : progress.completed = completed

structure Live (epoch completed : Nat) (progress : Progress) : Prop extends Going epoch completed progress where
  live : progress.live = true

theorem keeps_going : (monitor requests).Keeps (Going epoch completed) Call.aloof := by
  intro progress call reply aloof going
  cases call with
  | loadClosed | loadFlushing => exact ⟨nofun, going.epoch, going.completed⟩
  | loadCancelEpoch =>
    refine ⟨fun none => ?_, ?_⟩
    · simp [going.epoch] at none
    · simp only [monitor, observe, going.epoch]
      exact ⟨rfl, going.completed⟩
  | notify | processCaptureResult | storeFlushing => cases aloof
  | renderAttempt | lock | lockYCbCr | encodeToBlob | fillFromAHardwareBuffer | gl => cases aloof
  | _ => exact ⟨nofun, going⟩

theorem keeps_live : (monitor requests).Keeps (Live epoch completed) Call.composing := by
  intro progress call reply composing current
  cases call with
  | loadClosed => exact ⟨nofun, ⟨current.epoch, current.completed⟩, current.live⟩
  | loadCancelEpoch =>
    refine ⟨fun none => ?_, ?_⟩
    · simp [current.epoch] at none
    · simp only [monitor, observe, current.epoch]
      exact ⟨⟨rfl, current.completed⟩, by simp [current.live]⟩
  | notify | processCaptureResult | storeFlushing => cases composing
  | loadFlushing => exact ⟨nofun, ⟨current.epoch, current.completed⟩, current.live⟩
  | _ => exact ⟨fun _ => current.live, current⟩

section Stages

variable {session : VirtualCameraSession} {progress : Progress}

theorem Going.within {A : Type} (going : Going epoch completed progress) {process : Action VirtualCameraSession A}
    {limited : A → VirtualCameraSession → Prop}
    (footprint : process.wp (only Call.aloof) session () fun value final _ => limited value final) :
    process.wp (monitor requests) session progress fun value final later =>
      limited value final ∧ Going epoch completed later :=
  footprint.within keeps_going going

variable (going : Going epoch completed progress)

include going

-- The only way to find a capture wanted is to find it open, in the epoch of its batch.
theorem cancelled_looks : (cancelled epoch).wp (monitor requests) session progress fun stopped final later =>
    final = session ∧ Going epoch completed later ∧ (stopped = false → later.live = true) := by
  rw [cancelled, wp_bind, wp_ask]
  intro closed
  refine ⟨nofun, ?_⟩
  cases closed
  case true => exact ⟨rfl, ⟨going.epoch, going.completed⟩, nofun⟩
  case false =>
    simp only [Bool.false_eq_true, if_false]
    rw [wp_bind, wp_ask]
    intro current
    refine ⟨fun none => ?_, rfl, ?_, fun wanted => ?_⟩
    · simp [monitor, observe, going.epoch] at none
    · simp only [monitor, observe, going.epoch]
      exact ⟨rfl, going.completed⟩
    · obtain rfl : current = epoch := by simpa using wanted
      simp [monitor, observe, going.epoch]

theorem sourceWanted_looks (source : Acquired) :
    (sourceWanted epoch source).wp (monitor requests) session progress fun wanted final later =>
      final = session ∧ Going epoch completed later ∧ (wanted = true → later.live = true) := by
  rw [sourceWanted, wp_bind]
  refine (cancelled_looks going).mono ?_
  rintro stopped final later ⟨rfl, going, live⟩
  cases stopped
  case true => exact ⟨rfl, going, nofun⟩
  case false =>
    have asked : (frameCurrent source).wp (only Call.aloof) final () fun _ after _ => after = final :=
      fun _ => ⟨rfl, rfl⟩
    have kept : (frameCurrent source).wp (monitor requests) final later fun _ _ later => Live epoch completed later :=
      fun _ => ⟨nofun, going, live rfl⟩
    refine ((going.within asked).and kept).mono ?_
    exact fun _ _ _ both => ⟨both.1.1, both.1.2, fun _ => both.2.live⟩

theorem sourceReady_looks (source : Acquired) (polls : Nat) :
    (sourceReady epoch source polls).wp (monitor requests) session progress fun ready final later =>
      final = session ∧ Going epoch completed later ∧ (ready = true → later.live = true) := by
  have reading := (only_ignores Call.aloof ()).mono Call.aloof_of_reading
  have wait : (sourceSignalled epoch source polls).wp (only Call.aloof) session () fun _ final _ =>
    final = session := by
    unfold sourceSignalled
    cases source.acquireFence with
    | none => exact rfl
    | some fence => exact waitSourceFence_unheard (reading.mono Call.reading_of_awaiting) epoch source fence polls _ _ fun _ => rfl
  rw [sourceReady, wp_bind]
  refine (going.within wait).mono ?_
  rintro signalled final later ⟨rfl, going⟩
  cases signalled
  case false => exact ⟨rfl, going, nofun⟩
  case true => exact sourceWanted_looks going source

variable {request : CaptureRequest} (present : requests[completed]? = some request)

include present

theorem failUntouched_progress (pending : List (Option Fd)) (sized : pending.length = request.outputBuffers.length) :
    (failUntouched request pending).wp (monitor requests) session progress fun outcome _ later =>
      outcome = .status .ok ∧ Going epoch (completed + 1) later := by
  obtain ⟨started, done⟩ := going
  have named : requests[progress.completed]? = some request := done ▸ present
  have begun : progress.epoch.isSome = true := by simp [started]
  rw [failUntouched, wp_bind, wp_ask]
  refine fun _ => ⟨⟨begun, request, named, .inr rfl⟩, ?_⟩
  rw [wp_bind, wp_ask]
  refine fun _ => ⟨⟨begun, request, named, .inr ⟨pending, sized, rfl⟩⟩, rfl, started, ?_⟩
  exact congrArg (· + 1) done

theorem deliver_progress (live : progress.live = true) (timestamp frameDurationNs producerTs : Int)
    (buffers : List StreamBuffer) :
    (deliver request timestamp frameDurationNs producerTs buffers).wp (monitor requests) session progress
      fun outcome _ later => outcome = .status .ok ∧ Going epoch (completed + 1) later := by
  obtain ⟨started, done⟩ := going
  have named : requests[progress.completed]? = some request := done ▸ present
  have begun : progress.epoch.isSome = true := by simp [started]
  rw [deliver, wp_bind, wp_ask]
  refine fun _ => ⟨⟨begun, request, named, .inl live⟩, ?_⟩
  rw [wp_bind, wp_get, wp_bind, wp_ask]
  refine fun _ => ⟨⟨begun, request, named, .inl live⟩, rfl, started, ?_⟩
  exact congrArg (· + 1) done

omit present in
theorem releaseSource_progress (source : Acquired) (fences : List Fd) (outcome : Outcome) :
    (do
      releaseSource source fences
      pure outcome : Action VirtualCameraSession Outcome).wp (monitor requests) session progress
      fun out _ later => out = outcome ∧ Going epoch completed later := by
  rw [wp_bind]
  exact fun _ => ⟨nofun, rfl, going⟩

theorem captureFrom_progress (timestamp frameDurationNs : Int) (pending : List (Option Fd))
    (sized : pending.length = request.outputBuffers.length) (source : Acquired) (polls : Nat) :
    (captureFrom request epoch timestamp frameDurationNs pending source polls).wp (monitor requests) session progress
      fun outcome _ later => outcome = .status .ok ∧ Going epoch (completed + 1) later := by
  have failed : ∀ (state : VirtualCameraSession) (middle : Progress) (fences : List Fd),
    Going epoch completed middle →
      (do
        let outcome ← failUntouched request pending
        releaseSource source fences
        pure outcome : Action VirtualCameraSession Outcome).wp (monitor requests) state middle
        fun outcome _ later => outcome = .status .ok ∧ Going epoch (completed + 1) later := by
    intro state middle fences going
    rw [wp_bind]
    refine (failUntouched_progress going present pending sized).mono ?_
    rintro outcome final later ⟨rfl, next⟩
    exact releaseSource_progress next source fences (.status .ok)
  rw [captureFrom, wp_bind]
  refine (cancelled_looks going).mono ?_
  rintro stopped final later ⟨rfl, going, _⟩
  cases stopped
  case true => exact failed final later source.acquireFence.toList going
  case false =>
    simp only [Bool.false_eq_true, if_false, wp_bind, wp_modify]
    refine (sourceReady_looks going source polls).mono ?_
    rintro ready middle after ⟨rfl, going, live⟩
    cases ready
    case false => exact failed _ after source.acquireFence.toList going
    case true =>
      simp only [if_true, wp_bind]
      have composing := only_ignores Call.composing
      have closed := fun state : VirtualCameraSession => closeFds_unheard
        (((composing ()).mono Call.composing_of_reading).mono Call.reading_of_steady) [source.acquireFence] state
        (fun _ _ _ => True) fun _ => trivial
      have outputs : Maintains (only Call.composing) (fun _ _ => True)
          (processOutputs epoch source 0 request.outputBuffers) :=
        processOutputs_maintains composing (fun _ _ _ _ _ => trivial) epoch source 0 request.outputBuffers
      refine ((closed _).within keeps_live ⟨going, live rfl⟩).mono ?_
      rintro _ state after ⟨_, current⟩
      refine ((outputs state () trivial).within keeps_live current).mono ?_
      rintro ⟨buffers, fences⟩ made after ⟨_, current⟩
      refine (deliver_progress current.toGoing present current.live timestamp frameDurationNs source.timestampNs
        buffers).mono ?_
      rintro outcome final later ⟨rfl, next⟩
      exact releaseSource_progress next source fences (.status .ok)

theorem captureSource_progress (timestamp : Int) (pending : List (Option Fd))
    (sized : pending.length = request.outputBuffers.length) :
    (captureSource request epoch timestamp pending).wp (monitor requests) session progress
      fun outcome _ later => outcome = .status .ok ∧ Going epoch (completed + 1) later := by
  have reading := (only_ignores Call.aloof ()).mono Call.aloof_of_reading
  have steady := reading.mono Call.reading_of_steady
  simp only [captureSource, wp_bind, wp_get]
  rw [wp_ask]
  refine fun hal => ⟨(fun same => by cases same), ?_⟩
  rw [wp_ite]
  refine ⟨fun _ => failUntouched_progress going present pending sized, fun _ => ?_⟩
  rw [wp_bind]
  have started : (startDeadline (frameDuration session.targetFps)).wp (only Call.aloof) session () fun _ _ _ => True :=
    startDeadline_wp steady session _ _ fun _ => trivial
  refine (going.within started).mono ?_
  rintro polls state later ⟨_, going⟩
  rw [wp_bind]
  have polled : (pollSource epoch polls).wp (only Call.aloof) state () fun _ _ _ => True :=
    pollSource_unheard (reading.mono Call.reading_of_seeking) epoch polls _ _ fun _ => trivial
  refine (going.within polled).mono ?_
  rintro ⟨source, left⟩ state later ⟨_, going⟩
  cases source with
  | none => exact failUntouched_progress going present pending sized
  | some source => exact captureFrom_progress going present timestamp _ pending sized source left

theorem processSingleRequest_progress :
    (processSingleRequest request epoch).wp (monitor requests) session progress fun outcome _ later =>
      Going epoch (if outcome = .status .ok then completed + 1 else completed) later := by
  have quiet := only_ignores Call.aloof ()
  have waiting := quiet.mono Call.aloof_of_waiting
  have steady := waiting.mono Call.waiting_of_steady
  have failed : ∀ (state : VirtualCameraSession) (middle : Progress) (pending : List (Option Fd)),
      Going epoch completed middle → pending.length = request.outputBuffers.length →
      (failUntouched request pending).wp (monitor requests) state middle fun outcome _ later =>
        Going epoch (if outcome = .status .ok then completed + 1 else completed) later := by
    intro state middle pending going sized
    refine (failUntouched_progress going present pending sized).mono ?_
    rintro outcome final later ⟨rfl, next⟩
    exact next
  have reserved : (reserveFences request.outputBuffers).wp (only Call.aloof) session () fun out _ _ =>
      out.1 = true → out.2.length = request.outputBuffers.length :=
    reserveFences_wp (waiting.mono Call.waiting_of_copying) session request.outputBuffers _ fun kept fences sized => sized
  have closes : ∀ (fences : List (Option Fd)) (state : VirtualCameraSession),
      (closeFds fences).wp (only Call.aloof) state () fun _ _ _ => True := fun fences state =>
    closeFds_unheard steady fences _ _ fun _ => trivial
  simp only [processSingleRequest, wp_bind]
  refine (going.within reserved).mono ?_
  rintro ⟨kept, fences⟩ state later ⟨sized, going⟩
  cases kept
  case false =>
    simp only [Bool.not_false, if_true, wp_bind]
    have closed : close.wp (only Call.aloof) state () fun _ _ _ => True :=
      close_unheard (quiet.mono Call.aloof_of_ending) _ _ fun _ => trivial
    refine (going.within closed).mono ?_
    rintro _ final after ⟨_, going⟩
    exact (going.within (closes fences final)).mono fun _ _ _ both => both.2
  case true =>
    simp only [Bool.not_true, Bool.false_eq_true, if_false, wp_bind]
    have imports : (importBuffers request.outputBuffers).wp (only Call.aloof) state () fun _ _ _ => True :=
      importBuffers_wp (quiet.mono Call.aloof_of_caching) state request.outputBuffers _ fun _ _ => trivial
    refine (going.within imports).mono ?_
    rintro imported state later ⟨_, going⟩
    cases imported
    case false =>
      simp only [Bool.not_false, if_true, wp_bind]
      exact (going.within (closes fences state)).mono fun _ _ _ both => both.2
    case true =>
      simp only [Bool.not_true, Bool.false_eq_true, if_false, captureReserved, wp_bind]
      have waits : (waitDestinations epoch fences).wp (only Call.aloof) state () fun out _ _ =>
          ∀ pending, out = some pending → pending.length = fences.length :=
        waitDestinations_wp waiting state epoch fences _ (by simp) fun pending same other shape => by
          cases shape
          exact same
      refine (going.within waits).mono ?_
      rintro found state later ⟨lengths, going⟩
      cases found with
      | some pending => exact failed state later pending going ((lengths pending rfl).trans (sized rfl))
      | none =>
        simp only [wp_bind]
        have paced : (paceFrame epoch).wp (only Call.aloof) state () fun _ _ _ => True :=
          paceFrame_wp steady state epoch _ (fun _ => trivial) fun _ _ _ => trivial
        refine (going.within paced).mono ?_
        rintro slot state later ⟨_, going⟩
        cases slot with
        | none => exact going
        | some timestamp =>
          simp only [wp_bind]
          refine (cancelled_looks going).mono ?_
          rintro stopped final later ⟨rfl, going, _⟩
          have untouched : (fences.map fun _ => (none : Option Fd)).length = request.outputBuffers.length := by
            rw [List.length_map, sized rfl]
          cases stopped
          case true => exact failed final later _ going untouched
          case false =>
            refine (captureSource_progress going present timestamp _ untouched).mono ?_
            rintro outcome final later ⟨rfl, next⟩
            exact next

omit present in
theorem processRequests_progress (rest : List CaptureRequest) (left : requests.drop completed = rest) :
    (processRequests epoch rest).wp (monitor requests) session progress fun out _ later =>
      Going epoch (completed + out.2) later := by
  induction rest generalizing session progress completed with
  | nil => exact going
  | cons request rest ih =>
    have present : requests[completed]? = some request := by
      rw [← List.head?_drop, left, List.head?_cons]
    simp only [processRequests, wp_bind, wp_get]
    rw [wp_ite]
    refine ⟨fun _ => going, fun _ => ?_⟩
    rw [wp_bind]
    have updated : (updateTargetFps request.settings).wp (only Call.aloof) session () fun _ _ _ => True :=
      updateTargetFps_wp session ((only_ignores Call.aloof ()).mono Call.aloof_of_negotiating) request.settings _
        trivial (fun _ => trivial) (fun _ _ _ _ _ _ _ _ => trivial) fun _ _ _ _ _ _ _ _ => trivial
    refine (going.within updated).mono ?_
    rintro accepted state later ⟨_, going⟩
    rw [wp_ite]
    refine ⟨fun _ => going, fun _ => ?_⟩
    rw [wp_bind]
    refine (processSingleRequest_progress going present).mono fun outcome final after next => ?_
    split
    · rw [if_pos rfl] at next
      rw [wp_bind]
      have drop : requests.drop (completed + 1) = rest := by
        rw [← List.tail_drop, left, List.tail_cons]
      refine (ih next drop).mono fun out _ _ going => ?_
      rwa [Nat.add_right_comm, Nat.add_assoc] at going
    next other =>
      rw [if_neg other] at next
      exact next

end Stages

theorem removeBuffersFromCache_progress (caches : List BufferCache) (session : VirtualCameraSession)
    (progress : Progress) : (removeBuffersFromCache caches).wp (monitor requests) session progress fun _ _ later =>
      later = progress := by
  induction caches generalizing session with
  | nil => exact rfl
  | cons cache rest ih =>
    simp only [removeBuffersFromCache, wp_bind, wp_get]
    cases session.cached (cache.streamId, cache.bufferId) with
    | none => exact ih session
    | some handle => exact fun _ => ⟨nofun, ih _⟩

theorem processCaptureRequest_progress (cachesToRemove : List BufferCache) (session : VirtualCameraSession) :
    (processCaptureRequest requests cachesToRemove).wp (monitor requests) session {} fun out _ later =>
      later.completed = out.2 := by
  simp only [processCaptureRequest, refusing, wp_bind]
  rw [wp_ask]
  intro closed
  refine ⟨(fun same => by cases same), ?_⟩
  cases closed
  case true => exact rfl
  case false =>
    simp only [Bool.false_eq_true, if_false]
    rw [wp_ask]
    intro flushing
    refine ⟨(fun same => by cases same), ?_⟩
    cases flushing
    case true => exact rfl
    case false =>
      simp only [Bool.false_eq_true, if_false, wp_bind]
      refine (removeBuffersFromCache_progress cachesToRemove session _).mono ?_
      rintro _ state later rfl
      rw [wp_ask]
      refine fun epoch => ⟨fun _ => rfl, ?_⟩
      have going : Going epoch 0 (observe { checked := some false } ⟨.loadCancelEpoch, epoch⟩) := ⟨rfl, rfl⟩
      refine (processRequests_progress going requests rfl).mono fun out _ _ later => ?_
      rw [later.completed, Nat.zero_add]

end Progress

end VirtualCamera
