import Mathlib.Data.List.ReduceOption
import VirtualCamera.Session.Footprint
import VirtualCamera.Session.LocalSteps
import VirtualCamera.Session.Prologue

set_option autoImplicit false

namespace VirtualCamera

open Descriptors Interaction Interaction.Process SessionSystem

def Call.onTarget : Call → Bool
  | .renderAttempt _ | .lock .. | .lockYCbCr .. | .unlock _ => true
  | .encodeToBlob .. | .fillFromAHardwareBuffer .. | .gl _ => true
  | _ => false

def duplication : Event Environment → Option (Fd × Option Fd)
  | ⟨.dup fd, copy⟩ => some (fd, copy)
  | _ => none

-- A destination fence that has signalled; only these are waited for with the 100 ms of `sync_wait`.
def signalledFd : Event Environment → Option Fd
  | ⟨.syncWait fd timeoutMs, signalled⟩ => if timeoutMs = 100 ∧ (signalled : Bool) = true then some fd else none
  | _ => none

def closedFd : Event Environment → Option Fd
  | ⟨.closeFd fd, _⟩ => some fd
  | _ => none

def copies (events : List (Event Environment)) : List Fd := (events.filterMap duplication).filterMap (·.2)

def signalledFds (events : List (Event Environment)) : List Fd := events.filterMap signalledFd

def closedFds (events : List (Event Environment)) : List Fd := events.filterMap closedFd

structure CaptureLog where
  duplications : List (Fd × Option Fd) := []
  signalled : List Fd := []
  callbacks : List Callback := []
  attempted : Bool := false

def captureLog : Monitor Environment CaptureLog where
  observe log event :=
    { duplications := log.duplications ++ (duplication event).toList
      signalled := log.signalled ++ (signalledFd event).toList
      callbacks := log.callbacks ++ event.1.callback.toList
      attempted := log.attempted || event.1.attempting }
  permits log event := event.1.onTarget = true → log.attempted = true ∨ event.1.attempting = true

theorem captureLog_follow (log : CaptureLog) (events : List (Event Environment)) :
    captureLog.follow log events =
      { duplications := log.duplications ++ events.filterMap duplication
        signalled := log.signalled ++ signalledFds events
        callbacks := log.callbacks ++ callbacks events
        attempted := log.attempted || events.any (·.1.attempting) } := by
  induction events generalizing log with
  | nil => simp [signalledFds, callbacks]
  | cons event events ih =>
    rw [Monitor.follow_cons, ih]
    simp only [captureLog, signalledFds, callbacks, List.append_assoc, List.any_cons, Bool.or_assoc]
    cases copied : duplication event <;> cases signalled : signalledFd event <;> cases heard : event.1.callback <;>
      simp [copied, signalled, heard]

theorem captureLog_untouched (log : CaptureLog) (events : List (Event Environment))
    (accepts : captureLog.Accepts log events) (idle : (captureLog.follow log events).attempted = false) :
    ∀ event ∈ events, event.1.onTarget = false := by
  induction events generalizing log with
  | nil => simp
  | cons event events ih =>
    refine List.forall_mem_cons.mpr ⟨?_, ih _ accepts.2 idle⟩
    simp only [captureLog_follow, List.any_cons, Bool.or_eq_false_iff] at idle
    rw [← Bool.not_eq_true]
    intro touches
    rcases accepts.1 touches with earlier | now
    · rw [idle.1] at earlier
      cases earlier
    · rw [idle.2.1] at now
      cases now

def Call.unlogged : Call → Bool
  | .dup _ | .notify _ | .processCaptureResult _ => false
  | .syncWait _ timeoutMs => timeoutMs != 100
  | call => !call.onTarget

theorem captureLog_ignores (log : CaptureLog) : captureLog.Ignores log Call.unlogged := by
  intro call reply quiet
  cases call with
  | syncWait fd timeoutMs =>
    have other : timeoutMs ≠ 100 := bne_iff_ne.mp quiet
    exact ⟨(fun same => by cases same), by simp [captureLog, duplication, signalledFd, Call.callback, Call.attempting, other]⟩
  | _ => first
    | contradiction
    | exact ⟨(fun same => by cases same), by simp [captureLog, duplication, signalledFd, Call.callback, Call.attempting]⟩

theorem Call.unlogged_of_seeking (call : Call) (seeking : call.seeking = true) : call.unlogged = true := by
  cases call with
  | syncWait fd timeoutMs =>
    refine bne_iff_ne.mpr fun same => ?_
    subst same
    cases seeking
  | _ => first | rfl | cases seeking

theorem Call.unlogged_of_ending (call : Call) (ending : call.ending = true) : call.unlogged = true := by
  cases call <;> first | rfl | cases ending

theorem captureLog_seeking (log : CaptureLog) : captureLog.Ignores log Call.seeking :=
  (captureLog_ignores log).mono Call.unlogged_of_seeking

theorem captureLog_steady (log : CaptureLog) : captureLog.Ignores log Call.steady :=
  (captureLog_seeking log).mono Call.seeking_of_steady

theorem captureLog_caching (log : CaptureLog) : captureLog.Ignores log Call.caching :=
  (captureLog_ignores log).mono fun call inside => by cases call <;> first | rfl | cases inside

theorem forall₂_compose {α β γ : Type} {R : α → β → Prop} {S : β → γ → Prop} {T : α → γ → Prop} {first : List α}
    {second : List β} {third : List γ} (left : List.Forall₂ R first second) (right : List.Forall₂ S second third)
    (compose : ∀ a b c, R a b → S b c → T a c) : List.Forall₂ T first third := by
  induction left generalizing third with
  | nil =>
    cases right
    exact .nil
  | cons here _ ih =>
    cases right with
    | cons next rest => exact .cons (compose _ _ _ here next) (ih rest)

def Owed (log : CaptureLog) (buffer : StreamBuffer) (pending : Option Fd) : Prop :=
  ∀ original, buffer.acquireFence.fds.head? = some original → ∃ fd copy, original = some fd ∧
    (fd, some copy) ∈ log.duplications ∧ (pending = some copy ∨ copy ∈ log.signalled)

structure Awaited (buffers : List StreamBuffer) (log : CaptureLog) (pending : List (Option Fd)) : Prop where
  duplicated : ∀ duplication ∈ log.duplications, duplication.2.isSome
  accounted : log.duplications.filterMap (·.2) = log.signalled ++ pending.reduceOption
  owed : List.Forall₂ (Owed log) buffers pending

theorem Owed.mono {log later : CaptureLog} {buffer : StreamBuffer} {pending : Option Fd}
    (owed : Owed log buffer pending)
    (duplications : ∀ duplication ∈ log.duplications, duplication ∈ later.duplications)
    (signalled : ∀ fd ∈ log.signalled, fd ∈ later.signalled) : Owed later buffer pending := by
  intro original fence
  obtain ⟨fd, copy, same, made, settled⟩ := owed original fence
  exact ⟨fd, copy, same, duplications _ made, settled.imp_right (signalled copy)⟩

theorem Awaited.waited {buffers : List StreamBuffer} {log : CaptureLog} {fences pending : List (Option Fd)}
    {waited : List Fd} (reserved : Awaited buffers log fences)
    (sums : fences.reduceOption = waited ++ pending.reduceOption)
    (left : List.Forall₂ (fun fence pending => ∀ copy, fence = some copy → pending = some copy ∨ copy ∈ waited)
      fences pending) : Awaited buffers { log with signalled := log.signalled ++ waited } pending where
  duplicated := reserved.duplicated
  accounted := by rw [reserved.accounted, sums, List.append_assoc]
  owed := by
    refine forall₂_compose reserved.owed left fun buffer fence pending owed kept original found => ?_
    obtain ⟨fd, copy, same, made, handed | signalled⟩ := owed original found
    · exact ⟨fd, copy, same, made, (kept copy handed).imp_right (List.mem_append_right _)⟩
    · exact ⟨fd, copy, same, made, .inr (List.mem_append_left _ signalled)⟩

namespace VirtualCameraSession

variable (session : VirtualCameraSession) (log : CaptureLog)

theorem reserveFences_logged (buffers : List StreamBuffer) :
    (reserveFences buffers).wp captureLog session log fun out final later => final = session ∧
      ∃ made, later = { log with duplications := log.duplications ++ made } ∧
        made.filterMap (·.2) = out.2.reduceOption ∧ (out.1 = true →
          (∀ duplication ∈ made, duplication.2.isSome) ∧
            List.Forall₂ (Owed { duplications := made }) buffers out.2) := by
  induction buffers generalizing log with
  | nil => exact ⟨rfl, [], by simp, rfl, fun _ => ⟨by simp, .nil⟩⟩
  | cons buffer rest ih =>
    simp only [reserveFences]
    cases fence : buffer.acquireFence.fds.head? with
    | none =>
      rw [wp_bind]
      refine (ih log).mono ?_
      rintro ⟨kept, fences⟩ final later ⟨rfl, made, rfl, sums, reserved⟩
      refine ⟨rfl, made, rfl, by simpa using sums, fun all => ?_⟩
      obtain ⟨some, owed⟩ := reserved all
      exact ⟨some, .cons (fun original found => by rw [fence] at found; cases found) owed⟩
    | some original =>
      cases original with
      | none => exact ⟨rfl, [], by simp, rfl, by simp⟩
      | some fd =>
        simp only [Option.elim_some, wp_bind]
        rw [wp_ask]
        refine fun copy => ⟨(fun same => by cases same), ?_⟩
        cases copy with
        | none => exact ⟨rfl, [(fd, none)], by simp [captureLog, duplication, signalledFd, Call.callback, Call.attempting], rfl, by simp⟩
        | some copy =>
          simp only [wp_bind]
          refine (ih _).mono ?_
          rintro ⟨kept, fences⟩ final later ⟨rfl, made, rfl, sums, reserved⟩
          refine ⟨rfl, (fd, some copy) :: made, ?_, ?_, fun all => ?_⟩
          · simp [captureLog, duplication, signalledFd, Call.callback, Call.attempting]
          · simpa using sums
          · obtain ⟨some, owed⟩ := reserved all
            refine ⟨List.forall_mem_cons.mpr ⟨rfl, some⟩, .cons ?_ ?_⟩
            · intro original found
              rw [fence] at found
              cases found
              exact ⟨fd, copy, rfl, List.mem_cons_self, .inl rfl⟩
            · exact owed.imp fun buffer pending held =>
                held.mono (fun _ member => List.mem_cons_of_mem _ member) fun _ member => member

theorem waitDestinations_logged (cancelEpoch : Nat) (fences : List (Option Fd)) :
    (waitDestinations cancelEpoch fences).wp captureLog session log fun out final later => final = session ∧
      ∃ waited, later = { log with signalled := log.signalled ++ waited } ∧
        fences.reduceOption = waited ++ (out.getD (fences.map fun _ => none)).reduceOption ∧
        List.Forall₂ (fun fence pending => ∀ copy, fence = some copy → pending = some copy ∨ copy ∈ waited) fences
          (out.getD (fences.map fun _ => none)) := by
  have stopped : ∀ fences : List (Option Fd), List.Forall₂ (fun fence pending =>
      ∀ copy, fence = some copy → pending = some copy ∨ copy ∈ ([] : List Fd)) fences fences := fun fences =>
    List.forall₂_same.mpr fun fence _ copy same => .inl same
  induction fences generalizing log with
  | nil => exact ⟨rfl, [], by simp, rfl, .nil⟩
  | cons fence rest ih =>
    simp only [waitDestinations, wp_bind]
    refine cancelled_unheard (captureLog_steady log) cancelEpoch _ _ fun cancelled => ?_
    cases cancelled
    case true => exact ⟨rfl, [], by simp, rfl, stopped _⟩
    case false =>
      simp only [Bool.false_eq_true, if_false, wp_bind]
      cases fence with
      | none =>
        simp only [destinationSignalled, wp_pure, Bool.not_true, Bool.false_eq_true, if_false, closeFds, wp_bind]
        refine (ih log).mono ?_
        rintro out final later ⟨rfl, waited, rfl, sums, pending⟩
        refine ⟨rfl, waited, rfl, ?_, ?_⟩
        · cases out <;> simpa using sums
        · cases out <;> exact .cons (by simp) (by simpa using pending)
      | some fd =>
        simp only [destinationSignalled]
        rw [wp_ask]
        refine fun signalled => ⟨(fun same => by cases same), ?_⟩
        cases signalled
        case false =>
          refine ⟨rfl, [], ?_, rfl, stopped _⟩
          simp [captureLog, duplication, signalledFd, Call.callback, Call.attempting]
        case true =>
          simp only [Bool.not_true, Bool.false_eq_true, if_false, wp_bind]
          refine closeFds_unheard (captureLog_steady _) [some fd] _ _ fun _ => (ih _).mono ?_
          rintro out final later ⟨rfl, waited, rfl, sums, pending⟩
          have further := pending.imp fun _ _ held copy same =>
            (held copy same).imp_right (List.mem_cons_of_mem fd)
          refine ⟨rfl, fd :: waited, ?_, ?_, ?_⟩
          · simp [captureLog, duplication, signalledFd, Call.callback, Call.attempting]
          · cases out <;> simpa using sums
          · cases out <;> exact .cons (fun copy same => .inr (by simp [Option.some.inj same])) (by simpa using further)

theorem awaitSource_wp {M : Type} {monitor : Monitor Environment M} {seen : M}
    (quiet : monitor.Ignores seen Call.seeking) (cancelEpoch : Nat)
    (post : Sourced → VirtualCameraSession → M → Prop) (next : ∀ sourced final, post sourced final seen) :
    (awaitSource cancelEpoch).wp monitor session seen post := by
  have steady := quiet.mono Call.seeking_of_steady
  simp only [awaitSource, wp_bind, wp_get]
  refine unheard_ask steady .stableHal rfl _ _ fun hal => ?_
  rw [wp_ite]
  refine ⟨fun _ => next _ _, fun _ => ?_⟩
  rw [wp_bind]
  apply startDeadline_wp steady
  intro polls
  rw [wp_bind]
  refine pollSource_unheard quiet cancelEpoch polls _ _ fun found => ?_
  obtain ⟨source, left⟩ := found
  cases source with
  | none => exact next _ _
  | some source =>
    simp only [pinSource, wp_bind]
    refine cancelled_unheard steady cancelEpoch _ _ fun stopped => ?_
    cases stopped
    case true => exact next _ _
    case false =>
      simp only [Bool.false_eq_true, if_false, wp_bind, wp_modify]
      refine sourceReady_unheard (quiet.mono Call.seeking_of_awaiting) cancelEpoch source left _ _ fun ready => ?_
      cases ready <;> exact next _ _

def Stage.Logged (buffers : List StreamBuffer) (log : CaptureLog) : Stage → Prop
  | .untouched pending _ => Awaited buffers log pending
  | .ready .. => Awaited buffers log (buffers.map fun _ => none)
  | .unreserved => True
  | .unimported | .trap => ∀ duplication ∈ log.duplications, duplication.2.isSome

theorem readyTargets_logged (cancelEpoch : Nat) (buffers : List StreamBuffer) (fences : List (Option Fd))
    (reserved : Awaited buffers log fences) :
    (readyTargets cancelEpoch fences).wp captureLog session log fun stage _ later => stage ≠ .unreserved ∧
      later.callbacks = log.callbacks ∧ later.attempted = log.attempted ∧ stage.Logged buffers later := by
  simp only [readyTargets, wp_bind]
  refine (waitDestinations_logged session log cancelEpoch fences).mono ?_
  rintro out middle later ⟨rfl, waited, rfl, sums, pending⟩
  have settled := reserved.waited sums pending
  cases out with
  | some pending => exact ⟨nofun, rfl, rfl, settled⟩
  | none =>
    have none_of : (fences.map fun _ => none : List (Option Fd)) = buffers.map fun _ => none := by
      rw [List.map_const', List.map_const', reserved.owed.length_eq]
    simp only [Option.getD_none] at settled
    simp only [wp_bind]
    apply paceFrame_wp (captureLog_steady _)
    · exact fun _ => ⟨nofun, rfl, rfl, reserved.duplicated⟩
    · intro _ timestamp next
      simp only [wp_bind]
      refine cancelled_unheard (captureLog_steady _) cancelEpoch _ _ fun stopped => ?_
      cases stopped
      case true => exact ⟨nofun, rfl, rfl, settled⟩
      case false =>
        simp only [Bool.false_eq_true, if_false, wp_bind]
        refine awaitSource_wp _ (captureLog_seeking _) cancelEpoch _ fun sourced final => ?_
        cases sourced with
        | missing | unready => exact ⟨nofun, rfl, rfl, settled⟩
        | ready => exact ⟨nofun, rfl, rfl, none_of ▸ settled⟩

theorem prepare_logged (request : CaptureRequest) (cancelEpoch : Nat) (fences : List (Option Fd))
    (reserved : Awaited request.outputBuffers log fences) :
    (prepare request cancelEpoch fences).wp captureLog session log fun stage _ later => stage ≠ .unreserved ∧
      later.callbacks = log.callbacks ∧ later.attempted = log.attempted ∧
        stage.Logged request.outputBuffers later := by
  simp only [prepare, wp_bind]
  apply importBuffers_wp (captureLog_caching log)
  intro imported cache
  cases imported
  case false =>
    simp only [Bool.not_false, if_true, wp_bind]
    exact closeFds_unheard (captureLog_steady log) fences _ _ fun _ => ⟨nofun, rfl, rfl, reserved.duplicated⟩
  case true =>
    simp only [Bool.not_true, Bool.false_eq_true, if_false]
    exact readyTargets_logged _ log cancelEpoch request.outputBuffers fences reserved

theorem prologue_logged (request : CaptureRequest) (cancelEpoch : Nat) :
    (prologue request cancelEpoch).wp captureLog session {} fun stage _ later =>
      (stage ≠ .unreserved → ∀ duplication ∈ later.duplications, duplication.2.isSome) ∧
        later.callbacks = [] ∧ later.attempted = false ∧ stage.Logged request.outputBuffers later := by
  simp only [prologue, wp_bind]
  refine (reserveFences_logged session {} request.outputBuffers).mono ?_
  rintro ⟨kept, fences⟩ middle later ⟨rfl, made, rfl, sums, reserved⟩
  cases kept
  case false =>
    simp only [Bool.not_false, if_true, abandon, wp_bind]
    refine close_unheard ((captureLog_ignores _).mono Call.unlogged_of_ending) _ _ fun _ => ?_
    exact closeFds_unheard (captureLog_steady _) fences _ _ fun _ => ⟨by simp, rfl, rfl, trivial⟩
  case true =>
    obtain ⟨whole, owed⟩ := reserved rfl
    refine (prepare_logged _ _ request cancelEpoch fences ⟨whole, sums, owed⟩).mono ?_
    rintro stage final later ⟨reached, silent, idle, logged⟩
    refine ⟨fun _ => ?_, silent, idle, logged⟩
    cases stage with
    | unreserved => exact absurd rfl reached
    | unimported | trap => exact logged
    | untouched | ready => exact logged.duplicated

theorem captureLog_attempted : captureLog.Keeps (fun log => log.attempted = true) fun _ => true :=
  fun _ _ _ _ attempted => ⟨fun _ => .inl attempted, by simp [captureLog, attempted]⟩

theorem processOutput_logged (cancelEpoch : Nat) (source : Acquired) (output : Nat) (buffer : StreamBuffer) :
    (processOutput cancelEpoch source output buffer).wp captureLog session log fun made _ later =>
      later.attempted = true ∨ later = log ∧ made.1 = resultBuffer buffer false none := by
  simp only [processOutput, wp_bind, wp_get]
  apply importBuffer_wp (captureLog_caching log)
  intro handle cache
  have missing : (pure (resultBuffer buffer false none, []) : Action VirtualCameraSession (StreamBuffer × List Fd)).wp
      captureLog { session with bufferCache := cache } log fun made _ later =>
        later.attempted = true ∨ later = log ∧ made.1 = resultBuffer buffer false none := .inr ⟨rfl, rfl⟩
  cases handle with
  | none => exact missing
  | some handle =>
    cases session.streams buffer.streamId with
    | none => exact missing
    | some stream =>
      simp only [wp_bind]
      refine sourceWanted_unheard ((captureLog_seeking log).mono Call.seeking_of_awaiting) cancelEpoch source _ _ fun wanted => ?_
      cases wanted
      case false => exact missing
      case true =>
        simp only [Bool.not_true, Bool.false_eq_true, if_false, wp_bind]
        rw [wp_ask]
        refine fun _ => ⟨fun _ => .inr rfl, ?_⟩
        have footprint : ∀ state, (renderOutput source.ahb stream handle).wp (only Call.rendering) state ()
            fun _ _ _ => True := fun state =>
          renderOutput_unheard ((only_ignores Call.rendering ()).mono (Call.rendering_of_on handle)) source.ahb stream _ _
            fun _ => trivial
        have attempted : (captureLog.observe log ⟨.renderAttempt output, ()⟩).attempted = true := Bool.or_true _
        refine ((footprint _).within (captureLog_attempted.mono fun _ _ => rfl) attempted).mono ?_
        rintro ⟨filled, fence⟩ state later ⟨_, attempted⟩
        cases fence with
        | none => exact .inl attempted
        | some done =>
          simp only [wp_bind]
          rw [wp_ask]
          exact fun _ => ⟨(fun same => by cases same), .inl (captureLog_attempted later (.dup done) _ rfl attempted).2⟩

theorem processOutputs_logged (cancelEpoch : Nat) (source : Acquired) (output : Nat) (buffers : List StreamBuffer) :
    (processOutputs cancelEpoch source output buffers).wp captureLog session log fun made _ later =>
      later.attempted = true ∨ later = log ∧ made.1 = buffers.map fun buffer => resultBuffer buffer false none := by
  induction buffers generalizing session log output with
  | nil => exact .inr ⟨rfl, rfl⟩
  | cons buffer rest ih =>
    simp only [processOutputs, wp_bind]
    refine (processOutput_logged session log cancelEpoch source output buffer).mono ?_
    rintro ⟨made, fences⟩ middle later (attempted | ⟨rfl, rfl⟩)
    · have footprint : (processOutputs cancelEpoch source (output + 1) rest).wp (only Call.composing) middle ()
          fun _ _ _ => True :=
        processOutputs_maintains (only_ignores Call.composing) (fun _ _ _ _ _ => trivial) cancelEpoch source
          (output + 1) rest middle () trivial
      refine (footprint.within (captureLog_attempted.mono fun _ _ => rfl) attempted).mono ?_
      exact fun _ _ _ both => .inl both.2
    · refine (ih middle later (output + 1)).mono ?_
      rintro ⟨results, more⟩ final after (attempted | ⟨rfl, rfl⟩)
      · exact .inl attempted
      · exact .inr ⟨rfl, rfl⟩

def failure (request : CaptureRequest) (result : CaptureResult) : List Callback :=
  [.notify [.error request.frameNumber (-1) .errorRequest], .captureResult [result]]

theorem releaseSource_logged (source : Acquired) (fences : List Fd) :
    Unheard captureLog log (releaseSource source fences) :=
  unheard_bind unheard_get fun _ => unheard_ask (captureLog_ignores log) (.hal (.releaseFrame ..)) rfl

theorem failUntouched_logged (request : CaptureRequest) (pending : List (Option Fd)) :
    (failUntouched request pending).wp captureLog session log fun outcome _ later => outcome = .status .ok ∧
      later = { log with callbacks := log.callbacks ++ failure request (untouchedResult request pending) } := by
  rw [failUntouched, wp_bind, wp_ask]
  refine fun _ => ⟨(fun same => by cases same), ?_⟩
  rw [wp_bind, wp_ask]
  refine fun _ => ⟨(fun same => by cases same), rfl, ?_⟩
  simp [captureLog, duplication, signalledFd, Call.callback, Call.attempting, failure]

theorem concludeUntouched_logged (request : CaptureRequest) (cancelEpoch : Nat) (pending : List (Option Fd))
    (source : Option Acquired) :
    (conclude request cancelEpoch (.untouched pending source)).wp captureLog session log fun outcome _ later =>
      outcome = .status .ok ∧
        later = { log with callbacks := log.callbacks ++ failure request (untouchedResult request pending) } := by
  simp only [conclude, wp_bind]
  refine (failUntouched_logged session log request pending).mono ?_
  rintro outcome final later ⟨rfl, rfl⟩
  cases source with
  | none => exact ⟨rfl, rfl⟩
  | some source => exact releaseSource_logged _ source _ _ _ fun _ => ⟨rfl, rfl⟩

theorem concludeReady_logged (request : CaptureRequest) (cancelEpoch : Nat) (timestamp frameDurationNs : Int)
    (source : Acquired) :
    (conclude request cancelEpoch (.ready timestamp frameDurationNs source)).wp captureLog session log
      fun _ _ later => later.attempted = true ∨ ∃ result : CaptureResult,
        later = { log with callbacks := log.callbacks ++ failure request result } ∧
        result.frameNumber = request.frameNumber ∧
        result.outputBuffers = request.outputBuffers.map fun buffer => resultBuffer buffer false none := by
  simp only [conclude, wp_bind]
  refine closeFds_unheard (captureLog_steady log) _ _ _ fun _ => ?_
  refine (processOutputs_logged session log cancelEpoch source 0 request.outputBuffers).mono ?_
  rintro ⟨buffers, fences⟩ middle later (attempted | ⟨rfl, rfl⟩)
  · rw [deliver, wp_bind, wp_ask]
    refine fun _ => ⟨(fun same => by cases same), ?_⟩
    rw [wp_bind, wp_get, wp_bind, wp_ask]
    refine fun _ => ⟨(fun same => by cases same), ?_⟩
    rw [wp_pure]
    exact releaseSource_logged _ source fences _ _ fun _ => .inl (by simp [captureLog, attempted])
  · have silent : (request.outputBuffers.map fun buffer => resultBuffer buffer false none).any
        (·.status == .ok) = false := by simp [resultBuffer]
    rw [deliver, wp_bind, wp_ask]
    refine fun _ => ⟨(fun same => by cases same), ?_⟩
    rw [wp_bind, wp_get, wp_bind, wp_ask]
    refine fun _ => ⟨(fun same => by cases same), ?_⟩
    rw [wp_pure]
    refine releaseSource_logged _ source fences _ _ fun _ =>
      .inr ⟨captureResult request.frameNumber timestamp frameDurationNs source.timestampNs middle.sourceMode.width
        middle.sourceMode.height _, ?_, rfl, rfl⟩
    simp [captureLog, duplication, signalledFd, Call.callback, Call.attempting, failure, notifications, silent]

theorem closeFds_closes (fences : List (Option Fd)) (closed : List Fd) :
    (closeFds fences).wp (Monitor.collect closedFd) session closed fun _ _ later =>
      later = closed ++ fences.reduceOption := by
  induction fences generalizing closed with
  | nil => simp [closeFds]
  | cons fence rest ih =>
    cases fence with
    | none => simpa [closeFds] using ih closed
    | some fd =>
      rw [closeFds, wp_bind, wp_ask]
      refine fun _ => ⟨trivial, (ih _).mono ?_⟩
      rintro _ _ _ rfl
      simp [Monitor.collect, closedFd]

theorem prologue_unreserved (request : CaptureRequest) (cancelEpoch : Nat) (events : List (Event Environment))
    (final : VirtualCameraSession)
    (execution : (prologue request cancelEpoch session).Execution events (.unreserved, final)) :
    closedFds events = copies events ∧ ∃ reply, ⟨.exchangeClosed, reply⟩ ∈ events := by
  obtain ⟨early, ⟨⟨kept, fences⟩, middle⟩, late, rfl, reserving, rest⟩ := execution.of_bind
  obtain ⟨_, _, made, logged, sums, reserved⟩ :=
    (reserveFences_logged session {} request.outputBuffers).execution reserving
  cases kept
  case true =>
    obtain ⟨whole, owed⟩ := reserved rfl
    have reached := ((prepare_logged middle { duplications := made } request cancelEpoch fences
      ⟨whole, sums, owed⟩).execution rest).2.1
    exact absurd rfl reached
  case false =>
    have first : closedFds early = [] := by
      have unheard : (reserveFences request.outputBuffers).wp (Monitor.collect closedFd) session []
          fun _ _ later => later = [] :=
        reserveFences_wp (Monitor.collect_ignores [] _ fun call _ copying => by
          cases call <;> first | rfl | cases copying) session _ _ fun _ _ _ => rfl
      have followed := (unheard.execution reserving).2
      rwa [Monitor.follow_collect, List.nil_append] at followed
    have copied : copies early = fences.reduceOption := by
      rw [captureLog_follow] at logged
      rw [← sums]
      exact congrArg (fun log : CaptureLog => log.duplications.filterMap (·.2)) logged
    have second : closedFds late = fences.reduceOption := by
      have closes : (abandon fences).wp (Monitor.collect closedFd) middle [] fun _ _ later =>
          later = fences.reduceOption := by
        simp only [abandon, wp_bind]
        refine close_unheard (Monitor.collect_ignores [] _ fun call _ ending => by
          cases call <;> first | rfl | cases ending) _ _ fun _ => ?_
        exact closeFds_closes _ fences []
      have followed := (closes.execution rest).2
      rwa [Monitor.follow_collect, List.nil_append] at followed
    have third : copies late = [] := by
      have silent : (abandon fences).wp captureLog middle {} fun _ _ later => later = {} := by
        simp only [abandon, wp_bind]
        refine close_unheard ((captureLog_ignores {}).mono Call.unlogged_of_ending) _ _ fun _ => ?_
        exact closeFds_unheard (captureLog_steady {}) fences _ _ fun _ => rfl
      have followed := (silent.execution rest).2
      rw [captureLog_follow] at followed
      exact congrArg (fun log : CaptureLog => log.duplications.filterMap (·.2)) followed
    refine ⟨?_, ?_⟩
    · simp only [closedFds, copies, List.filterMap_append] at first second third copied ⊢
      rw [first, second, third, copied, List.nil_append, List.append_nil]
    · cases rest with
      | call _ _ wasClosed => exact ⟨wasClosed, by simp⟩

end VirtualCameraSession

structure HandedBack (events : List (Event Environment)) (buffer returned : StreamBuffer) : Prop where
  key : returned.key = buffer.key
  status : returned.status = .error
  fence : ∀ original, buffer.acquireFence.fds.head? = some original → ∃ fd copy, original = some fd ∧
    ⟨.dup fd, some copy⟩ ∈ events ∧ (returned.releaseFence.fds = [some copy] ∨ copy ∈ signalledFds events)

structure UntouchedFailure (request : CaptureRequest) (events : List (Event Environment)) : Prop where
  untouched : ∀ event ∈ events, event.1.onTarget = false
  handedBack : ∃ result, callbacks events = VirtualCameraSession.failure request result ∧
    result.frameNumber = request.frameNumber ∧
    List.Forall₂ (HandedBack events) request.outputBuffers result.outputBuffers ∧
    copies events = signalledFds events ++ result.outputBuffers.flatMap (·.releaseFence.fds.reduceOption)

structure Refused (events : List (Event Environment)) : Prop where
  untouched : ∀ event ∈ events, event.1.onTarget = false
  silent : callbacks events = []

theorem mem_duplications (events : List (Event Environment)) (fd : Fd) (copy : Option Fd) :
    (fd, copy) ∈ events.filterMap duplication ↔ ⟨.dup fd, copy⟩ ∈ events := by
  rw [List.mem_filterMap]
  constructor
  · rintro ⟨⟨call, reply⟩, member, found⟩
    cases call <;> cases found
    exact member
  · exact fun member => ⟨_, member, rfl⟩

namespace CaptureLog

variable {request : CaptureRequest} {events : List (Event Environment)} {log : CaptureLog}

theorem handedBack_of_owed {buffers : List StreamBuffer} {pending : List (Option Fd)}
    (owed : List.Forall₂ (Owed log) buffers pending)
    (duplicated : ∀ fd copy, (fd, some copy) ∈ log.duplications → ⟨.dup fd, some copy⟩ ∈ events)
    (signalled : ∀ fd ∈ log.signalled, fd ∈ signalledFds events) :
    List.Forall₂ (HandedBack events) buffers
      (List.zipWith VirtualCameraSession.untouchedBuffer buffers pending) := by
  induction owed with
  | nil => exact .nil
  | cons first _ ih =>
    refine .cons ⟨rfl, rfl, fun original fence => ?_⟩ ih
    obtain ⟨fd, copy, same, made, rfl | seen⟩ := first original fence
    · exact ⟨fd, copy, same, duplicated fd copy made, .inl rfl⟩
    · exact ⟨fd, copy, same, duplicated fd copy made, .inr (signalled copy seen)⟩

theorem released_of_owed {buffers : List StreamBuffer} {pending : List (Option Fd)}
    (owed : List.Forall₂ (Owed log) buffers pending) :
    (List.zipWith VirtualCameraSession.untouchedBuffer buffers pending).flatMap
      (·.releaseFence.fds.reduceOption) = pending.reduceOption := by
  induction owed with
  | nil => rfl
  | @cons buffer fence _ _ _ _ ih =>
    rw [List.zipWith_cons_cons, List.flatMap_cons, ih]
    cases fence <;> simp [VirtualCameraSession.untouchedBuffer]

theorem refused (accepts : captureLog.Accepts {} events) (followed : captureLog.follow {} events = log)
    (silent : log.callbacks = []) (idle : log.attempted = false) : Refused events where
  untouched := captureLog_untouched {} events accepts (followed ▸ idle)
  silent := by
    rw [captureLog_follow] at followed
    rw [← followed] at silent
    exact silent

theorem untouchedFailure {result : CaptureResult} {pending : List (Option Fd)}
    (accepts : captureLog.Accepts {} events) (silent : log.callbacks = []) (idle : log.attempted = false)
    (followed : captureLog.follow {} events =
      { log with callbacks := log.callbacks ++ VirtualCameraSession.failure request result })
    (awaited : Awaited request.outputBuffers log pending) (frame : result.frameNumber = request.frameNumber)
    (buffers : result.outputBuffers =
      List.zipWith VirtualCameraSession.untouchedBuffer request.outputBuffers pending) :
    UntouchedFailure request events := by
  have untouched : ∀ event ∈ events, event.1.onTarget = false :=
    captureLog_untouched {} events accepts (by rw [followed]; exact idle)
  rw [captureLog_follow] at followed
  have duplications := congrArg CaptureLog.duplications followed
  have signalled := congrArg CaptureLog.signalled followed
  have heard := congrArg CaptureLog.callbacks followed
  simp only [List.nil_append, silent] at duplications signalled heard
  refine ⟨untouched, result, heard, frame, ?_, ?_⟩
  · rw [buffers]
    exact handedBack_of_owed awaited.owed (fun fd copy made =>
      (mem_duplications events fd _).mp (duplications ▸ made)) fun fd found => signalled ▸ found
  · rw [copies, duplications, signalled, awaited.accounted, buffers, released_of_owed awaited.owed]

end CaptureLog

theorem Disturbs.closed {id : Nat} {before after : Shared} (disturbs : Disturbs before after)
    (closed : (before.flags id).closed = true) : (after.flags id).closed = true := by
  cases disturbs with
  | responds other choice call same =>
    rw [← same, respond_flags]
    by_cases own : id = other
    · subst own
      rw [Function.update_self]
      exact Flags.after_closed _ call closed
    · rw [Function.update_of_ne own]
      exact closed
  | changes outside allowed =>
    cases outside with
    | getCameraDeviceInterface slot =>
      obtain ⟨descriptor, _, rfl⟩ := Option.map_eq_some_iff.mp allowed
      exact closed
    | hal event =>
      simp only [change] at allowed
      split at allowed
      · obtain rfl := Option.some.inj allowed
        exact closed
      · cases allowed

theorem answer_closed {id : Nat} {before after : Shared} {event : Event Environment}
    (answered : (sharedService id).answers before event after) (closed : (before.flags id).closed = true) :
    (after.flags id).closed = true := by
  obtain ⟨choice, same⟩ := answered
  exact (Disturbs.responds id choice event.1 (congrArg Prod.snd same)).closed closed

theorem served_closed {id : Nat} {shared after : Shared} {A : Type} {program : Program Environment A}
    {answers : List (Answer Environment Shared)} {value : A} {reply : Bool}
    (served : Served (sharedService id) shared program answers value after)
    (exchanged : ⟨.exchangeClosed, reply⟩ ∈ answers.map (·.event)) : (after.flags id).closed = true := by
  obtain ⟨⟨before, event, later⟩, member, same⟩ := List.mem_map.mp exchanged
  obtain rfl : event = ⟨.exchangeClosed, reply⟩ := same
  refine Served.settles (fun shared => (shared.flags id).closed = true) served (fun _ _ disturbed closed => ?_)
    (fun _ _ _ answered closed => answer_closed answered closed) member ?_
  · induction disturbed with
    | refl => exact closed
    | tail _ last ih => exact last.closed ih
  · obtain ⟨choice, answered⟩ := served.answered _ member
    obtain rfl : (respond id before choice .exchangeClosed).2 = later := congrArg Prod.snd answered
    rw [respond_own_flags]
    rfl

namespace VirtualCameraSession

def Stage.Settled (id : Nat) (request : CaptureRequest) (begun events : List (Event Environment)) (outcome : Outcome)
    (after : Shared) : Stage → Prop
  | .unreserved => Refused events ∧ outcome = .status .internalError ∧ (after.flags id).closed = true ∧
      closedFds events = copies events
  | .unimported => Refused events ∧ outcome = .status .illegalArgument
  | .trap => Refused events ∧ outcome = .trap
  | .untouched _ _ => UntouchedFailure request events ∧ outcome = .status .ok
  | .ready .. => (∀ event ∈ begun, event.1.onTarget = false) ∧
      ((∀ event ∈ events, event.1.attempting = false) → UntouchedFailure request events)

variable {request : CaptureRequest} {cancelEpoch : Nat} {session middle final : VirtualCameraSession}
  {begun rest : List (Event Environment)} {outcome : Outcome}

theorem settled_untouched {pending : List (Option Fd)} {source : Option Acquired}
    (first : (prologue request cancelEpoch session).Execution begun (.untouched pending source, middle))
    (second : (conclude request cancelEpoch (.untouched pending source) middle).Execution rest (outcome, final)) :
    UntouchedFailure request (begun ++ rest) ∧ outcome = .status .ok := by
  obtain ⟨accepts, _, silent, idle, awaited⟩ := (prologue_logged session request cancelEpoch).execution first
  obtain ⟨accepted, completed, followed⟩ :=
    (concludeUntouched_logged middle _ request cancelEpoch pending source).execution second
  rw [← Monitor.follow_append] at followed
  refine ⟨CaptureLog.untouchedFailure ?_ silent idle followed awaited rfl rfl, completed⟩
  exact (Monitor.accepts_append _ _ _ _).mpr ⟨accepts, accepted⟩

theorem settled_ready {timestamp frameDurationNs : Int} {source : Acquired}
    (first : (prologue request cancelEpoch session).Execution begun (.ready timestamp frameDurationNs source, middle))
    (second : (conclude request cancelEpoch (.ready timestamp frameDurationNs source) middle).Execution rest
      (outcome, final)) :
    (∀ event ∈ begun, event.1.onTarget = false) ∧
      ((∀ event ∈ begun ++ rest, event.1.attempting = false) → UntouchedFailure request (begun ++ rest)) := by
  obtain ⟨accepts, _, silent, idle, awaited⟩ := (prologue_logged session request cancelEpoch).execution first
  refine ⟨captureLog_untouched {} begun accepts idle, fun none => ?_⟩
  obtain ⟨accepted, attempted | ⟨result, followed, frame, buffers⟩⟩ :=
    (concludeReady_logged middle (captureLog.follow {} begun) request cancelEpoch timestamp frameDurationNs
      source).execution second
  · rw [← Monitor.follow_append, captureLog_follow] at attempted
    obtain ⟨event, member, attempting⟩ := List.any_eq_true.mp attempted
    rw [none event member] at attempting
    cases attempting
  · rw [← Monitor.follow_append] at followed
    refine CaptureLog.untouchedFailure ?_ silent idle followed awaited frame ?_
    · exact (Monitor.accepts_append _ _ _ _).mpr ⟨accepts, accepted⟩
    · rw [buffers, List.zipWith_map_right, List.zipWith_self]
      rfl

theorem settled_refused {stage : Stage} {status : Outcome}
    (first : (prologue request cancelEpoch session).Execution begun (stage, middle))
    (second : (conclude request cancelEpoch stage middle).Execution rest (outcome, final))
    (ends : conclude request cancelEpoch stage = pure status) : Refused (begun ++ rest) ∧ outcome = status := by
  obtain ⟨accepts, _, silent, idle, _⟩ := (prologue_logged session request cancelEpoch).execution first
  rw [ends] at second
  cases second
  rw [List.append_nil]
  exact ⟨CaptureLog.refused accepts rfl silent idle, rfl⟩

theorem processSingleRequest_untouched (id : Nat) (request : CaptureRequest) (cancelEpoch : Nat)
    (session : VirtualCameraSession) (shared : Shared) (answers : List (Answer Environment Shared))
    (outcome : Outcome)
    (final : VirtualCameraSession) (after : Shared)
    (served : Served (sharedService id) shared (processSingleRequest request cancelEpoch session) answers
      (outcome, final) after) :
    ∃ stage begun rest middle halfway, answers = begun ++ rest ∧
      Served (sharedService id) shared (prologue request cancelEpoch session) begun (stage, middle) halfway ∧
      Served (sharedService id) halfway (conclude request cancelEpoch stage middle) rest (outcome, final) after ∧
      ((∃ fd, ⟨.dup fd, none⟩ ∈ begun.map (·.event)) → stage = .unreserved) ∧
      stage.Settled id request (begun.map (·.event)) (answers.map (·.event)) outcome after := by
  rw [processSingleRequest_eq] at served
  obtain ⟨begun, ⟨stage, middle⟩, halfway, rest, rfl, beginning, concluding⟩ := served.of_bind
  have first := beginning.execution
  have second := concluding.execution
  obtain ⟨accepts, reserved, silent, idle, logged⟩ := (prologue_logged session request cancelEpoch).execution first
  refine ⟨stage, begun, rest, middle, halfway, rfl, beginning, concluding, ?_, ?_⟩
  · rintro ⟨fd, failed⟩
    by_contra kept
    have made := reserved kept (fd, none) (by
      rw [captureLog_follow]
      exact (mem_duplications _ fd none).mpr failed)
    cases made
  · rw [List.map_append]
    cases stage with
    | unreserved =>
      obtain ⟨closes, reply, exchanged⟩ := prologue_unreserved session request cancelEpoch _ middle first
      obtain ⟨refused, ended⟩ := settled_refused first second rfl
      have asked : ⟨.exchangeClosed, reply⟩ ∈ (begun ++ rest).map (·.event) := by
        rw [List.map_append]
        exact List.mem_append_left _ exchanged
      have quiet : rest.map (·.event) = [] := by
        generalize rest.map (·.event) = late at second
        cases second
        rfl
      refine ⟨refused, ended, served_closed served asked, ?_⟩
      rw [quiet, List.append_nil]
      exact closes
    | unimported => exact settled_refused first second rfl
    | trap => exact settled_refused first second rfl
    | untouched pending source => exact settled_untouched first second
    | ready timestamp frameDurationNs source => exact settled_ready first second

def fencedRequest : CaptureRequest :=
  { frameNumber := 1
    outputBuffers :=
      [{ streamId := 0, bufferId := 1, buffer := { fds := [some 3] }, acquireFence := { fds := [some 20] } },
        { streamId := 0, bufferId := 2, buffer := { fds := [some 4] }, acquireFence := { fds := [some 30] } }] }

def neverSignalled : (call : Call) → call.Reply
  | .syncWait .. => false
  | call => call.succeed

theorem processSingleRequest_untouched_timeout :
    ∃ answers final after, Served (sharedService 0) previewWorld.2
        (processSingleRequest fencedRequest 0 previewWorld.1) answers (.status .ok, final) after ∧
      UntouchedFailure fencedRequest (answers.map (·.event)) := by
  let capture := (processSingleRequest fencedRequest 0 previewWorld.1).attend
    (fun shared call => respond 0 shared neverSignalled call) previewWorld.2
  have served : Served (sharedService 0) previewWorld.2 (processSingleRequest fencedRequest 0 previewWorld.1)
      capture.1 capture.2.1 capture.2.2 :=
    Served.attend (sharedService 0) (fun _ _ => ⟨neverSignalled, rfl⟩) _ _
  have completed : capture.2.1.1 = .status .ok := by decide +kernel
  have idle : (capture.1.map (·.event)).all (fun event => !event.1.attempting) = true := by decide +kernel
  generalize capture = run at served completed idle
  obtain ⟨answers, ⟨outcome, final⟩, after⟩ := run
  obtain rfl : outcome = .status .ok := completed
  refine ⟨answers, final, after, served, ?_⟩
  obtain ⟨stage, begun, rest, middle, halfway, rfl, _, _, _, settled⟩ :=
    processSingleRequest_untouched 0 fencedRequest 0 _ _ answers _ final after served
  cases stage with
  | untouched => exact settled.1
  | ready => exact settled.2 fun event member => by simpa using List.all_eq_true.mp idle event member
  | unreserved => cases settled.2.1
  | unimported | trap => cases settled.2

end VirtualCameraSession

end VirtualCamera
