import VirtualCamera.Session.Footprint

set_option autoImplicit false

namespace VirtualCamera

open Descriptors Interaction Interaction.Process SessionSystem VirtualCameraSession

-- What an operation knows of the session's end: whether anything told it that the session is open,
-- and how far its own close has come.
structure Closing where
  shut : Bool := true
  absent : Bool := false
  told : Bool := false
  stored : Bool := false
deriving DecidableEq, Repr

namespace Closing

def observe (closing : Closing) : Event Environment → Closing
  | ⟨.loadClosed, closed⟩ => { closing with shut := closing.shut && (closed : Bool) }
  | ⟨.exchangeClosed, _⟩ => { closing with shut := true }
  | ⟨.stableHal, hal⟩ => { closing with absent := closing.absent || !(hal : Bool) }
  | ⟨.hal (.notifyStreamsConfigured ..), _⟩ => { closing with told := false }
  | ⟨.hal (.notifyCameraClosed ..), _⟩ => { closing with told := true }
  | ⟨.storeClosed, _⟩ => { closing with stored := true }
  | _ => closing

def permits (closing : Closing) : Event Environment → Prop
  | ⟨.notify _, _⟩ | ⟨.processCaptureResult _, _⟩ | ⟨.hal (.notifyStreamsConfigured ..), _⟩ =>
    closing.shut = false
  | ⟨.storeClosed, _⟩ => closing.shut = true ∧ (closing.told = true ∨ closing.absent = true)
  | _ => True

def monitor : Monitor Environment Closing := { observe, permits }

theorem keeps_open : monitor.Keeps (fun closing => closing.shut = false) Call.ordinary := by
  intro closing call reply ordinary opened
  cases call with
  | exchangeClosed | storeClosed => cases ordinary
  | loadClosed => exact ⟨trivial, by simp [monitor, observe, opened]⟩
  | hal call => cases call <;> exact ⟨by first | exact opened | trivial, opened⟩
  | notify messages => exact ⟨opened, opened⟩
  | processCaptureResult results => exact ⟨opened, opened⟩
  | _ => exact ⟨trivial, opened⟩

theorem keeps_steady : monitor.Keeps (fun _ => True) Call.steady := by
  intro closing call reply steady _
  cases call <;> first | exact ⟨trivial, trivial⟩ | cases steady

abbrev Ends {A : Type} (process : Action VirtualCameraSession A) (session : VirtualCameraSession)
    (closing : Closing) :
    Prop := process.wp monitor session closing fun _ _ _ => True

theorem closeFds_ends (fences : List (Option Fd)) (session : VirtualCameraSession) (closing : Closing) :
    Ends (closeFds fences) session closing := by
  have footprint : (closeFds fences).wp (only Call.steady) session () fun _ _ _ => True :=
    closeFds_unheard (only_ignores Call.steady ()) fences _ _ fun _ => trivial
  exact (footprint.within keeps_steady trivial).mono fun _ _ _ _ => trivial

-- The session's end is known from here on, so the HAL is told before the flag is stored again.
theorem notifyClosed_tells (session : VirtualCameraSession) (closing : Closing) (shut : closing.shut = true) :
    (do
      notifyClosed
      ask .storeClosed : Action VirtualCameraSession Unit).wp monitor session closing
      fun _ _ final => final.stored = true := by
  simp only [notifyClosed, wp_bind]
  intro hal
  refine ⟨trivial, ?_⟩
  cases hal
  case false => exact fun _ => ⟨⟨shut, .inr (Bool.or_true _)⟩, rfl⟩
  case true =>
    intro _
    refine ⟨trivial, fun _ => ⟨⟨?_, .inl rfl⟩, rfl⟩⟩
    exact shut

theorem close_ends (session : VirtualCameraSession) (closing : Closing) : Ends close session closing := by
  simp only [Ends, close, wp_bind]
  intro wasClosed
  refine ⟨trivial, fun _ => ⟨trivial, ?_⟩⟩
  cases wasClosed
  case true => trivial
  case false =>
    have told := notifyClosed_tells session (monitor.observe (monitor.observe closing ⟨.exchangeClosed, false⟩)
      ⟨.bumpCancelEpoch, ()⟩) rfl
    simp only [Bool.false_eq_true, if_false, wp_bind] at told ⊢
    exact told.mono fun _ _ _ rest => rest.mono fun _ _ _ _ => trivial

theorem closeLocked_stores (wasClosed : Bool) (session : VirtualCameraSession) :
    (closeLocked wasClosed).wp monitor session {} fun _ _ final => wasClosed = false → final.stored = true := by
  cases wasClosed
  case true => exact nofun
  case false =>
    have told := notifyClosed_tells session {} rfl
    simp only [closeLocked, Bool.false_eq_true, if_false, wp_bind] at told ⊢
    exact told.mono fun _ _ _ rest => rest.mono fun _ _ _ stored _ => stored

section Open

variable {session : VirtualCameraSession} {closing : Closing} (opened : closing.shut = false)

include opened

theorem within_open {A : Type} {process : Action VirtualCameraSession A} {allowed : Call → Bool}
    {limited : A → VirtualCameraSession → Prop}
    (footprint : process.wp (only allowed) session () fun value final _ => limited value final)
    (ordinary : ∀ call, allowed call = true → call.ordinary = true) :
    process.wp monitor session closing fun value final later => limited value final ∧ later.shut = false :=
  footprint.within (keeps_open.mono ordinary) opened

-- A capture that cannot reserve its fences closes the session, and is the last of its batch.
theorem processSingleRequest_closes (request : CaptureRequest) (cancelEpoch : Nat) :
    (processSingleRequest request cancelEpoch).wp monitor session closing fun outcome _ later =>
      outcome = .status .ok → later.shut = false := by
  have waiting : ∀ call, Call.waiting call = true → call.ordinary = true := fun call silent =>
    call.ordinary_of_capturing (call.capturing_of_waiting silent)
  have ignores := only_ignores Call.waiting ()
  have reserved : (reserveFences request.outputBuffers).wp (only Call.waiting) session () fun _ _ _ => True :=
    reserveFences_wp (ignores.mono Call.waiting_of_copying) session request.outputBuffers _ fun _ _ _ => trivial
  simp only [processSingleRequest, wp_bind]
  refine (within_open opened reserved waiting).mono ?_
  rintro ⟨kept, fences⟩ state later ⟨_, opened⟩
  cases kept
  case false =>
    simp only [Bool.not_false, if_true, wp_bind]
    refine (close_ends state later).mono fun _ final ended _ => ?_
    exact (closeFds_ends fences final ended).mono fun _ _ _ _ => nofun
  case true =>
    simp only [Bool.not_true, Bool.false_eq_true, if_false]
    have captured : (do
        if !(← importBuffers request.outputBuffers) then
          closeFds fences
          pure (.status .illegalArgument)
        else captureReserved request cancelEpoch fences : Action VirtualCameraSession Outcome).wp
        (only Call.capturing) state () fun _ _ _ => True := by
      have quiet := only_ignores Call.capturing ()
      have patient := quiet.mono Call.capturing_of_waiting
      have steady := patient.mono Call.waiting_of_steady
      have failed : ∀ pending state, (failUntouched request pending).wp (only Call.capturing) state ()
          fun _ _ _ => True := fun pending state =>
        (failUntouched_footprint state request pending).mono fun _ _ _ _ => trivial
      rw [wp_bind]
      apply importBuffers_wp (quiet.mono fun call caching =>
        call.capturing_of_composing (call.composing_of_caching caching))
      intro imported cache
      cases imported
      case false =>
        simp only [Bool.not_false, if_true, wp_bind]
        exact closeFds_unheard steady fences _ _ fun _ => trivial
      case true =>
        simp only [Bool.not_true, Bool.false_eq_true, if_false, captureReserved, wp_bind]
        apply waitDestinations_wp patient
        · simp only [wp_bind]
          apply paceFrame_wp steady
          · exact fun _ => trivial
          · intro _ slot ns
            simp only [wp_bind]
            refine cancelled_unheard steady cancelEpoch _ _ fun stopped => ?_
            cases stopped
            case true => exact failed _ _
            case false =>
              exact (captureSource_footprint _ request cancelEpoch slot _).mono fun _ _ _ _ => trivial
        · exact fun pending _ => failed pending _
    exact (within_open opened captured Call.ordinary_of_capturing).mono fun _ _ _ kept _ => kept.2

theorem processRequests_closes (cancelEpoch : Nat) (requests : List CaptureRequest) :
    Ends (processRequests cancelEpoch requests) session closing := by
  induction requests generalizing session closing with
  | nil => trivial
  | cons request rest ih =>
    simp only [Ends, processRequests, wp_bind, wp_get]
    rw [wp_ite]
    refine ⟨fun _ => trivial, fun _ => ?_⟩
    rw [wp_bind]
    refine (within_open opened (updateTargetFps_footprint session request.settings)
      Call.ordinary_of_negotiating).mono ?_
    rintro accepted state later ⟨_, opened⟩
    rw [wp_ite]
    refine ⟨fun _ => trivial, fun _ => ?_⟩
    rw [wp_bind]
    refine (processSingleRequest_closes opened request cancelEpoch).mono fun outcome final after kept => ?_
    split
    · rw [wp_bind]
      exact (ih (kept rfl)).mono fun _ _ _ _ => trivial
    · trivial

end Open

theorem configureStreams_ends (requested : List Stream) (session : VirtualCameraSession) (closing : Closing) :
    Ends (configureStreams requested) session closing := by
  have footprint := configureStreams_footprint session requested
  rw [configureStreams, wp_bind, wp_ask] at footprint
  rw [Ends, configureStreams, wp_bind, wp_ask]
  intro closed
  refine ⟨trivial, ?_⟩
  cases closed
  case true => trivial
  case false =>
    have opened : (monitor.observe closing ⟨.loadClosed, false⟩).shut = false := Bool.and_false _
    exact (within_open opened (footprint false).2 Call.ordinary_of_configuring).mono fun _ _ _ _ => trivial

theorem processCaptureRequest_ends (requests : List CaptureRequest) (cachesToRemove : List BufferCache)
    (session : VirtualCameraSession) (closing : Closing) :
    Ends (processCaptureRequest requests cachesToRemove) session closing := by
  simp only [Ends, processCaptureRequest, refusing, wp_bind]
  rw [wp_ask]
  intro closed
  refine ⟨trivial, ?_⟩
  cases closed
  case true => trivial
  case false =>
    have opened : (monitor.observe closing ⟨.loadClosed, false⟩).shut = false := Bool.and_false _
    simp only [Bool.false_eq_true, if_false]
    rw [wp_ask]
    intro flushing
    refine ⟨trivial, ?_⟩
    cases flushing
    case true => trivial
    case false =>
      simp only [Bool.false_eq_true, if_false, wp_bind]
      have removed : (removeBuffersFromCache cachesToRemove).wp (only Call.caching) session () fun _ _ _ => True :=
        removeBuffersFromCache_wp (only_ignores Call.caching ()) session cachesToRemove _ fun _ => trivial
      refine (within_open opened removed fun call silent =>
        call.ordinary_of_capturing (call.capturing_of_composing (call.composing_of_caching silent))).mono ?_
      rintro _ state later ⟨_, opened⟩
      rw [wp_ask]
      exact fun epoch => ⟨trivial, processRequests_closes opened epoch requests⟩

theorem serve_closes (call : FrameworkCall) (wasClosed : Bool) (session : VirtualCameraSession) :
    (serve call wasClosed).wp monitor session {} fun _ _ final =>
      call = .close → wasClosed = false → final.stored = true := by
  cases call with
  | configureStreams requested =>
    simp only [serve, wp_bind]
    exact (configureStreams_ends requested session {}).mono fun _ _ _ _ => by simp
  | processCaptureRequest requests cachesToRemove =>
    simp only [serve, wp_bind]
    exact (processCaptureRequest_ends requests cachesToRemove session {}).mono fun _ _ _ _ => by simp
  | flush => exact fun _ => ⟨trivial, fun same => by cases same⟩
  | close =>
    simp only [serve, wp_bind]
    exact (closeLocked_stores wasClosed session).mono fun _ _ _ stored _ first => stored first

theorem create_ends (session : VirtualCameraSession) : Ends create session {} := by
  simp only [Ends, create, construct, wp_bind]
  intro hal
  refine ⟨trivial, ?_⟩
  cases hal
  case false => trivial
  case true => exact fun _ => ⟨trivial, trivial⟩

end Closing

end VirtualCamera
