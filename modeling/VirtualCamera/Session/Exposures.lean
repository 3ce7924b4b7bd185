import VirtualCamera.Session.Bookkeeping

set_option autoImplicit false

namespace VirtualCamera

open Interaction Interaction.Process Interleaving Runs SessionSystem StableHal VirtualCameraSession

structure Shot where
  token : Int
  sequence : Nat
deriving DecidableEq, Repr

def NotifyMsg.isShutter : NotifyMsg → Bool
  | .shutter .. => true
  | .error .. => false

-- What a session's calls tell of the submissions it uses. `newer` says that each was newer than the one that the
-- session asked to pass, `held` is the one that it holds, and `shown` are those that came with a shutter,
-- newest first.
structure Exposures where
  slot : Int
  tokens : List Int := []
  newer : Bool := true
  held : Option Shot := none
  shown : List Shot := []
deriving DecidableEq, Repr

def Call.drawing : Call → Bool
  | .hal (.acquireLatest ..) | .hal (.releaseFrame ..) => false
  | call => call.composing

theorem Call.drawing_of_rendering (call : Call) (rendering : call.rendering = true) : call.drawing = true := by
  cases call <;> first | rfl | cases rendering

theorem Call.drawing_of_caching (call : Call) (caching : call.caching = true) : call.drawing = true := by
  cases call <;> first | rfl | cases caching

theorem Call.drawing_of_awaiting (call : Call) (awaiting : call.awaiting = true) : call.drawing = true := by
  cases call with
  | hal call => cases call <;> first | rfl | cases awaiting
  | _ => first | rfl | cases awaiting

theorem Call.drawing_of_steady (call : Call) (steady : call.steady = true) : call.drawing = true :=
  call.drawing_of_awaiting (call.awaiting_of_steady steady)

namespace VirtualCameraSession

section Drawing

variable {M : Type} {monitor : Monitor Environment M} {seen : M} (quiet : monitor.Ignores seen Call.drawing)

include quiet

theorem processOutput_draws (cancelEpoch : Nat) (source : Acquired) (output : Nat) (buffer : StreamBuffer)
    (session : VirtualCameraSession) :
    (processOutput cancelEpoch source output buffer).wp monitor session seen fun _ final later =>
      later = seen ∧ ∃ cache, final = { session with bufferCache := cache } := by
  simp only [processOutput, wp_bind]
  apply importBuffer_wp (quiet.mono Call.drawing_of_caching)
  intro handle cache
  rw [wp_get]
  split
  next handle stream _ =>
    rw [wp_bind]
    refine sourceWanted_unheard (quiet.mono Call.drawing_of_awaiting) cancelEpoch source _ _ fun wanted => ?_
    rw [wp_ite]
    refine ⟨fun _ => ⟨rfl, cache, rfl⟩, fun _ => ?_⟩
    rw [wp_bind, wp_ask_quiet quiet (.renderAttempt output) rfl]
    intro _
    rw [wp_bind]
    refine renderOutput_unheard ((quiet.mono Call.drawing_of_rendering).mono (Call.rendering_of_on _)) source.ahb stream
      _ _ fun made => ?_
    obtain ⟨filled, _ | done⟩ := made
    next => exact ⟨rfl, cache, rfl⟩
    next =>
      rw [wp_bind, wp_ask_quiet quiet (.dup done) rfl]
      exact fun _ => ⟨rfl, cache, rfl⟩
  next => exact ⟨rfl, cache, rfl⟩

theorem processOutputs_draws (cancelEpoch : Nat) (source : Acquired) (output : Nat) (buffers : List StreamBuffer)
    (session : VirtualCameraSession) :
    (processOutputs cancelEpoch source output buffers).wp monitor session seen fun _ final later =>
      later = seen ∧ ∃ cache, final = { session with bufferCache := cache } := by
  induction buffers generalizing output session with
  | nil => exact ⟨rfl, session.bufferCache, rfl⟩
  | cons buffer rest ih =>
    simp only [processOutputs, wp_bind]
    refine (processOutput_draws quiet cancelEpoch source output buffer session).mono ?_
    rintro result final later ⟨rfl, cache, rfl⟩
    exact (ih (output + 1) { session with bufferCache := cache }).mono fun _ _ _ kept => kept

end Drawing

end VirtualCameraSession

namespace Exposures

def fresh (options : SessionOptions) : Exposures := { slot := (options.slot : Nat) }

def observe (seen : Exposures) : Event Environment → Exposures
  | ⟨.hal (.notifyStreamsConfigured ..), token⟩ =>
    if 0 < (token : Int) then { seen with tokens := (token : Int) :: seen.tokens } else seen
  | ⟨.hal (.acquireLatest _ afterSequence token), source⟩ =>
    match (source : Option Acquired) with
    | none => { seen with held := none }
    | some source =>
      { seen with
        newer := seen.newer && decide (afterSequence < source.sequence)
        held := some { token, sequence := source.sequence } }
  | ⟨.hal (.releaseFrame ..), _⟩ => { seen with held := none }
  | ⟨.notify messages, _⟩ =>
    if messages.any NotifyMsg.isShutter = true then { seen with shown := seen.held.toList ++ seen.shown } else seen
  | _ => seen

def permits (seen : Exposures) : Event Environment → Prop
  | ⟨.hal (.acquireLatest slot afterSequence token), _⟩ =>
    slot = seen.slot ∧ token ∈ seen.tokens ∧ (seen.newer = true → ∀ shot ∈ seen.shown, shot.sequence ≤ afterSequence)
  | ⟨.notify messages, _⟩ => messages.any NotifyMsg.isShutter = true →
    ∃ shot, seen.held = some shot ∧ shot.token ∈ seen.tokens ∧
      (seen.newer = true → ∀ other ∈ seen.shown, other.sequence < shot.sequence)
  | _ => True

def monitor : Monitor Environment Exposures := { observe, permits }

structure Abreast (session : VirtualCameraSession) (seen : Exposures) : Prop where
  slot : session.slot = seen.slot
  token : 0 < session.configurationToken → session.configurationToken ∈ seen.tokens
  shown : seen.newer = true → ∀ shot ∈ seen.shown, shot.sequence ≤ session.lastSourceSequence

theorem observe_shots (seen : Exposures) (event : Event Environment) {shot : Shot}
    (known : (seen.observe event).held = some shot ∨ shot ∈ (seen.observe event).shown) :
    (seen.held = some shot ∨ shot ∈ seen.shown) ∨ ∃ slot afterSequence token source,
      event = ⟨.hal (.acquireLatest slot afterSequence token), some source⟩ ∧
        shot = { token, sequence := source.sequence } := by
  unfold observe at known
  split at known
  next => exact .inl (by split at known <;> exact known)
  next slot afterSequence token source =>
    cases source with
    | none => exact .inl (.inr (known.resolve_left (by simp)))
    | some source =>
      rcases known with held | shown
      · exact .inr ⟨slot, afterSequence, token, source, rfl, (Option.some.inj held).symm⟩
      · exact .inl (.inr shown)
  next => exact .inl (.inr (known.resolve_left (by simp)))
  next =>
    split at known
    next => exact .inl (by simpa using known)
    next => exact .inl known
  next => exact .inl known

theorem observe_newer (seen : Exposures) (event : Event Environment) (newer : seen.newer = true) :
    (seen.observe event).newer = true ∨ ∃ slot afterSequence token source,
      event = ⟨.hal (.acquireLatest slot afterSequence token), some source⟩ ∧ ¬ afterSequence < source.sequence := by
  unfold observe
  split
  next => exact .inl (by split <;> exact newer)
  next slot afterSequence token source =>
    cases source with
    | none => exact .inl newer
    | some source =>
      by_cases above : afterSequence < source.sequence
      next => exact .inl (Bool.and_eq_true_iff.mpr ⟨newer, decide_eq_true above⟩)
      next => exact .inr ⟨slot, afterSequence, token, source, rfl, above⟩
  next => exact .inl newer
  next => exact .inl (by split <;> exact newer)
  next => exact .inl newer

theorem observe_slot (seen : Exposures) (event : Event Environment) : (seen.observe event).slot = seen.slot := by
  unfold observe
  split
  next =>
    split <;> rfl
  next source =>
    cases source <;> rfl
  next => rfl
  next =>
    split <;> rfl
  next => rfl

structure Ordered (seen : Exposures) : Prop where
  increasing : seen.shown.Pairwise fun later earlier => earlier.sequence < later.sequence
  own : ∀ shot ∈ seen.shown, shot.token ∈ seen.tokens

theorem Ordered.observe {seen : Exposures} {event : Event Environment} (ordered : seen.newer = true → seen.Ordered)
    (permitted : seen.permits event) (newer : (seen.observe event).newer = true) : (seen.observe event).Ordered := by
  unfold Exposures.observe at newer ⊢
  split at newer
  next token =>
    have before : seen.newer = true := by split at newer <;> exact newer
    split
    next =>
      exact ⟨(ordered before).increasing, fun shot member =>
        List.mem_cons_of_mem _ ((ordered before).own shot member)⟩
    next => exact ordered before
  next source =>
    cases source with
    | none => exact ⟨(ordered newer).increasing, (ordered newer).own⟩
    | some source =>
      have before := (Bool.and_eq_true_iff.mp newer).1
      exact ⟨(ordered before).increasing, (ordered before).own⟩
  next => exact ⟨(ordered newer).increasing, (ordered newer).own⟩
  next messages =>
    have before : seen.newer = true := by split at newer <;> exact newer
    split
    next shutters =>
      obtain ⟨shot, held, own, above⟩ := permitted shutters
      rw [held]
      refine ⟨List.pairwise_cons.mpr ⟨above before, (ordered before).increasing⟩, fun other member => ?_⟩
      rcases List.mem_cons.mp member with rfl | earlier
      · exact own
      · exact (ordered before).own other earlier
    next => exact ordered before
  next => exact ordered newer

theorem Ordered.follow {events : List (Event Environment)} {seen : Exposures}
    (ordered : seen.newer = true → seen.Ordered) (accepts : monitor.Accepts seen events)
    (newer : (monitor.follow seen events).newer = true) : (monitor.follow seen events).Ordered := by
  induction events generalizing seen with
  | nil => exact ordered newer
  | cons event events ih => exact ih (fun newer => .observe ordered accepts.1 newer) accepts.2 newer

theorem monitor_housekeeping (seen : Exposures) : monitor.Ignores seen Call.housekeeping := by
  intro call reply silent
  cases call with
  | hal call => cases silent
  | notify messages => cases silent
  | _ => exact ⟨trivial, rfl⟩

theorem monitor_drawing (seen : Exposures) : monitor.Ignores seen Call.drawing := by
  intro call reply silent
  cases call with
  | hal call => cases call <;> first | exact ⟨trivial, rfl⟩ | cases silent
  | notify messages => cases silent
  | _ => exact ⟨trivial, rfl⟩

variable {session after : VirtualCameraSession} {seen : Exposures}

theorem Abreast.congr (abreast : Abreast session seen) (slot : after.slot = session.slot)
    (token : after.configurationToken = session.configurationToken)
    (last : after.lastSourceSequence = session.lastSourceSequence) : Abreast after seen := by
  refine ⟨slot.trans abreast.slot, ?_, ?_⟩
  · rw [token]
    exact abreast.token
  · rw [last]
    exact abreast.shown

theorem Abreast.of_account (abreast : Abreast session seen) (same : after.account = session.account) :
    Abreast after seen := by
  have slot := congrArg VirtualCameraSession.slot same
  have token := congrArg VirtualCameraSession.configurationToken same
  have last := congrArg VirtualCameraSession.lastSourceSequence same
  exact abreast.congr slot token last

theorem Abreast.let_go (abreast : Abreast session seen) (held : Option Shot) : Abreast session { seen with held } :=
  ⟨abreast.slot, abreast.token, abreast.shown⟩

theorem failUntouched_abreast (request : CaptureRequest) (pending : List (Option Descriptors.Fd)) :
    Maintains monitor Abreast (failUntouched request pending) := by
  intro session seen abreast
  simp only [failUntouched, wp_bind]
  rw [wp_ask]
  refine fun _ => ⟨by simp [monitor, permits, NotifyMsg.isShutter], ?_⟩
  have same : monitor.observe seen ⟨.notify [.error request.frameNumber (-1) .errorRequest], ()⟩ = seen := by
    simp [monitor, observe, NotifyMsg.isShutter]
  rw [wp_ask, same]
  exact fun _ => ⟨trivial, abreast⟩

theorem releaseSource_abreast (source : Acquired) (fences : List Descriptors.Fd) :
    Maintains monitor Abreast (releaseSource source fences) :=
  maintains_get_bind fun _ _ abreast _ => ⟨trivial, abreast.let_go none⟩

structure Holding (source : Acquired) (session : VirtualCameraSession) (seen : Exposures) : Prop extends
    Abreast session seen where
  held : seen.held = some { token := session.configurationToken, sequence := source.sequence }
  own : session.configurationToken ∈ seen.tokens
  last : seen.newer = true → ∀ shot ∈ seen.shown, shot.sequence < source.sequence

theorem acquireLatest_holding (abreast : Abreast session seen) (positive : 0 < session.configurationToken)
    (source : Option Acquired) :
    let event : Event Environment :=
      ⟨.hal (.acquireLatest session.slot session.lastSourceSequence session.configurationToken), source⟩
    monitor.permits seen event ∧ Abreast session (monitor.observe seen event) ∧
      ∀ found, source = some found → Holding found session (monitor.observe seen event) := by
  have own := abreast.token positive
  refine ⟨⟨abreast.slot, own, abreast.shown⟩, ?_⟩
  cases source with
  | none => exact ⟨abreast.let_go none, by simp⟩
  | some source =>
    have kept (newer : (seen.newer && decide (session.lastSourceSequence < source.sequence)) = true) :
        ∀ shot ∈ seen.shown, shot.sequence ≤ session.lastSourceSequence :=
      abreast.shown (Bool.and_eq_true_iff.mp newer).1
    have moved : Abreast session
        (monitor.observe seen
          ⟨.hal (.acquireLatest session.slot session.lastSourceSequence session.configurationToken), some source⟩) :=
      ⟨abreast.slot, abreast.token, kept⟩
    refine ⟨moved, fun found same => ?_⟩
    cases same
    refine ⟨moved, rfl, own, fun newer shot member => ?_⟩
    have above := of_decide_eq_true (Bool.and_eq_true_iff.mp newer).2
    exact (kept newer shot member).trans_lt above

theorem pollSource_holding (cancelEpoch polls : Nat) (abreast : Abreast session seen)
    (positive : 0 < session.configurationToken) :
    (pollSource cancelEpoch polls).wp monitor session seen fun found final later =>
      final = session ∧ Abreast session later ∧ ∀ source, found.1 = some source → Holding source session later := by
  induction polls generalizing seen with
  | zero =>
    simp only [pollSource, wp_bind]
    refine cancelled_unheard ((monitor_drawing seen).mono Call.drawing_of_steady) cancelEpoch _ _ fun stopped => ?_
    cases stopped
    case true => exact ⟨rfl, abreast, by simp⟩
    case false =>
      simp only [Bool.false_eq_true, if_false, wp_bind, wp_get, askHal]
      rw [wp_ask]
      intro source
      obtain ⟨permitted, moved, holding⟩ := acquireLatest_holding abreast positive source
      exact ⟨permitted, rfl, moved, holding⟩
  | succ polls ih =>
    simp only [pollSource, wp_bind]
    refine cancelled_unheard ((monitor_drawing seen).mono Call.drawing_of_steady) cancelEpoch _ _ fun stopped => ?_
    cases stopped
    case true => exact ⟨rfl, abreast, by simp⟩
    case false =>
      simp only [Bool.false_eq_true, if_false, wp_bind, wp_get, askHal]
      rw [wp_ask]
      intro source
      obtain ⟨permitted, moved, holding⟩ := acquireLatest_holding abreast positive source
      refine ⟨permitted, ?_⟩
      cases source with
      | some source => exact ⟨rfl, moved, fun found same => holding found same⟩
      | none =>
        rw [wp_bind, wp_ask_quiet (monitor_drawing _) .poll rfl]
        exact fun _ => ih moved

theorem Holding.uses {source : Acquired} (holding : Holding source session seen) :
    Holding source { session with lastSourceSequence := source.sequence } seen where
  slot := holding.slot
  token := holding.token
  shown newer shot member := (holding.last newer shot member).le
  held := holding.held
  own := holding.own
  last := holding.last

theorem Holding.notifies {source : Acquired} (holding : Holding source session seen)
    (used : session.lastSourceSequence = source.sequence) (messages : List NotifyMsg) :
    monitor.permits seen ⟨.notify messages, ()⟩ ∧ Abreast session (monitor.observe seen ⟨.notify messages, ()⟩) := by
  refine ⟨fun _ => ⟨_, holding.held, holding.own, holding.last⟩, ?_⟩
  by_cases shutters : messages.any NotifyMsg.isShutter = true
  next =>
    simp only [monitor, observe, if_pos shutters, holding.held]
    refine ⟨holding.slot, holding.token, fun newer shot member => ?_⟩
    rw [used]
    rcases List.mem_cons.mp member with rfl | earlier
    · exact le_rfl
    · exact (holding.last newer shot earlier).le
  next =>
    simp only [monitor, observe, if_neg shutters]
    exact holding.toAbreast

theorem deliver_abreast (request : CaptureRequest) (timestamp frameDurationNs producerTs : Int)
    (buffers : List StreamBuffer) {source : Acquired} (holding : Holding source session seen)
    (used : session.lastSourceSequence = source.sequence) :
    (deliver request timestamp frameDurationNs producerTs buffers).wp monitor session seen fun _ final later =>
      Abreast final later := by
  simp only [deliver, wp_bind, wp_get]
  rw [wp_ask]
  intro _
  obtain ⟨permitted, abreast⟩ := holding.notifies used (notifications request.frameNumber timestamp buffers)
  refine ⟨permitted, ?_⟩
  rw [wp_ask]
  exact fun _ => ⟨trivial, abreast⟩

theorem captureFrom_abreast (request : CaptureRequest) (cancelEpoch : Nat) (timestamp frameDurationNs : Int)
    (pending : List (Option Descriptors.Fd)) (polls : Nat) {source : Acquired}
    (holding : Holding source session seen) :
    (captureFrom request cancelEpoch timestamp frameDurationNs pending source polls).wp monitor session seen
      fun _ final later => Abreast final later := by
  have fails (fences : List Descriptors.Fd) : Maintains monitor Abreast (do
      let outcome ← failUntouched request pending
      releaseSource source fences
      pure outcome : Action VirtualCameraSession Outcome) :=
    maintains_bind (failUntouched_abreast request pending) fun _ =>
      maintains_bind (releaseSource_abreast source fences) fun _ => maintains_pure _
  have drawing := monitor_drawing seen
  simp only [captureFrom, wp_bind]
  refine cancelled_unheard (drawing.mono Call.drawing_of_steady) cancelEpoch _ _ fun stopped => ?_
  cases stopped
  case true => exact fails source.acquireFence.toList session seen holding.toAbreast
  case false =>
    simp only [Bool.false_eq_true, if_false, wp_bind, wp_modify]
    refine sourceReady_unheard (drawing.mono Call.drawing_of_awaiting) cancelEpoch source polls _ _ fun ready => ?_
    have uses := holding.uses
    cases ready
    case false => exact fails source.acquireFence.toList _ seen uses.toAbreast
    case true =>
      simp only [if_true, wp_bind]
      refine closeFds_unheard (drawing.mono Call.drawing_of_steady) [source.acquireFence] _ _ fun _ => ?_
      refine (processOutputs_draws drawing cancelEpoch source 0 request.outputBuffers _).mono ?_
      rintro made final later ⟨rfl, cache, rfl⟩
      have drawn : Holding source { session with lastSourceSequence := source.sequence, bufferCache :=
        cache } later :=
        ⟨uses.toAbreast.congr rfl rfl rfl, uses.held, uses.own, uses.last⟩
      refine (deliver_abreast request timestamp frameDurationNs source.timestampNs made.1 drawn rfl).mono ?_
      intro outcome final later abreast
      exact maintains_bind (releaseSource_abreast source made.2) (fun _ => maintains_pure outcome) final later abreast

theorem captureSource_abreast (request : CaptureRequest) (cancelEpoch : Nat) (timestamp : Int)
    (pending : List (Option Descriptors.Fd)) :
    Maintains monitor Abreast (captureSource request cancelEpoch timestamp pending) := by
  intro session seen abreast
  have steady := (monitor_drawing seen).mono Call.drawing_of_steady
  simp only [captureSource, wp_bind, wp_get]
  refine unheard_ask steady .stableHal rfl _ _ fun hal => ?_
  rw [wp_ite]
  refine ⟨fun _ => failUntouched_abreast request pending session seen abreast, fun ready => ?_⟩
  have positive : 0 < session.configurationToken := by
    simp only [Bool.or_eq_true, Bool.not_eq_true', decide_eq_true_eq, not_or, not_le] at ready
    exact ready.2
  rw [wp_bind]
  apply startDeadline_wp steady
  intro polls
  have started : Abreast { session with startupWaitPending := false } seen := abreast.congr rfl rfl rfl
  rw [wp_bind]
  refine (pollSource_holding cancelEpoch polls started positive).mono ?_
  rintro ⟨found, left⟩ final later ⟨rfl, kept, holding⟩
  cases found with
  | none => exact failUntouched_abreast request pending _ later kept
  | some source => exact captureFrom_abreast request cancelEpoch timestamp _ pending left (holding source rfl)

theorem bookkeeping : Bookkeeping monitor Abreast fun _ => True := by
  refine ⟨fun _ => monitor_housekeeping _, Abreast.of_account, ?_, ?_, ?_, failUntouched_abreast, captureSource_abreast⟩
  · exact fun session seen abreast => ⟨trivial, abreast⟩
  · exact fun session seen current abreast enforced => ⟨trivial, abreast, fun _ => trivial⟩
  · intro session seen width height fps token abreast _
    by_cases issued : 0 < token
    next =>
      have stored : Abreast { session with configurationToken := token }
          (monitor.observe seen
            ⟨.hal (.notifyStreamsConfigured session.slot session.sessionIdentity width height fps), token⟩) := by
        simp only [monitor, observe, if_pos issued]
        exact ⟨abreast.slot, fun _ => List.mem_cons_self, abreast.shown⟩
      exact ⟨trivial, stored, fun none => absurd none (not_le.mpr issued)⟩
    next =>
      simp only [monitor, observe, if_neg issued]
      exact ⟨trivial, ⟨abreast.slot, fun positive => absurd positive issued, abreast.shown⟩, fun _ => abreast⟩

theorem discipline : sessions.Discipline monitor fresh Abreast := by
  refine ⟨fun shared options admitted => ?_, fun call wasClosed session seen abreast =>
    serve_maintains bookkeeping call wasClosed session seen abreast⟩
  have first : Abreast (sessions.initial options) (fresh options) :=
    ⟨rfl, fun positive => absurd positive (lt_irrefl 0), fun _ => by simp [fresh]⟩
  change create.wp monitor _ _ fun _ final later => Abreast final later
  simp only [create, construct, wp_bind]
  refine unheard_ask ((monitor_drawing _).mono Call.drawing_of_steady) .stableHal rfl _ _ fun hal => ?_
  cases hal
  case false => exact first
  case true =>
    simp only [if_true, wp_bind, askHal, wp_modify]
    exact fun identity => ⟨trivial, first.congr rfl rfl rfl⟩

end Exposures

end VirtualCamera
