import VirtualCamera.Session.Exposures
import VirtualCamera.Session.Footprint

set_option autoImplicit false

namespace VirtualCamera

open Interaction Interaction.Process Interleaving SessionSystem VirtualCameraSession

-- The submission that a capture holds, and what the session knows of it: whether its fence has signalled, whether it
-- was found current after that and before the next output, which outputs were rendered from it, and whether its
-- shutter has been told.
structure Sight where
  slot : Int
  token : Int
  source : Acquired
  signalled : Bool
  current : Bool := false
  rendered : List Nat := []
  told : Bool := false
deriving DecidableEq, Repr

def Call.aside : Call → Bool
  | .hal (.acquireLatest ..) | .renderAttempt _ | .processCaptureResult _ => false
  | _ => true

theorem Call.aside_of_housekeeping (call : Call) (housekeeping : call.housekeeping = true) : call.aside = true := by
  cases call with
  | hal call => cases housekeeping
  | _ => first | rfl | cases housekeeping

namespace Sight

def asks (sight : Sight) (slot : Int) (buffer : Ahb) (sequence : Nat) (token : Int) : Bool :=
  decide (slot = sight.slot ∧ buffer = sight.source.ahb ∧ sequence = sight.source.sequence ∧ token = sight.token)

def observe (seen : Option Sight) : Event Environment → Option Sight
  | ⟨.hal (.acquireLatest slot _ token), source⟩ =>
    (source : Option Acquired).map fun source => { slot, token, source, signalled := source.acquireFence.isNone }
  | ⟨.syncWait fd _, signalled⟩ =>
    seen.map fun sight =>
      { sight with
        signalled := sight.signalled || ((signalled : Bool) && decide (sight.source.acquireFence = some fd)) }
  | ⟨.hal (.isFrameCurrent slot buffer sequence token), current⟩ =>
    seen.map fun sight =>
      { sight with current := sight.signalled && (current : Bool) && sight.asks slot buffer sequence token }
  | ⟨.renderAttempt output, _⟩ =>
    seen.map fun sight => { sight with current := false, rendered := output :: sight.rendered }
  | ⟨.notify messages, _⟩ =>
    seen.map fun sight => { sight with told := sight.told || messages.any NotifyMsg.isShutter }
  | ⟨.hal (.releaseFrame ..), _⟩ => none
  | _ => seen

def permits (seen : Option Sight) : Event Environment → Prop
  | ⟨.renderAttempt _, _⟩ => ∃ sight, seen = some sight ∧ sight.current = true
  | ⟨.processCaptureResult results, _⟩ => ∀ result ∈ results, ∀ (place : Nat) (buffer : StreamBuffer),
    result.outputBuffers[place]? = some buffer → buffer.status = .ok →
      ∃ sight, seen = some sight ∧ place ∈ sight.rendered ∧ sight.told = true
  | _ => True

def monitor : Monitor Environment (Option Sight) := { observe, permits }

theorem monitor_steady (seen : Option Sight) : monitor.Ignores seen Call.steady := by
  intro call reply silent
  cases call with
  | hal call => cases silent
  | _ => first | exact ⟨trivial, rfl⟩ | cases silent

theorem monitor_caching (seen : Option Sight) : monitor.Ignores seen Call.caching := by
  intro call reply silent
  cases call <;> first | exact ⟨trivial, rfl⟩ | cases silent

theorem monitor_aside : monitor.Ignores none Call.aside := by
  intro call reply silent
  cases call with
  | hal call => cases call <;> first | exact ⟨trivial, rfl⟩ | cases silent
  | _ => first | exact ⟨trivial, rfl⟩ | cases silent

theorem monitor_rendering {sight : Sight} (signalled : sight.signalled = true) :
    monitor.Ignores (some sight) Call.rendering := by
  intro call reply silent
  cases call with
  | syncWait fd timeout =>
    refine ⟨trivial, ?_⟩
    simp only [monitor, observe, Option.map_some, signalled, Bool.true_or]
    rw [← signalled]
  | _ => first | exact ⟨trivial, rfl⟩ | cases silent

structure Sees (source : Acquired) (signalled : Bool) (session : VirtualCameraSession) (sight : Sight) : Prop where
  slot : sight.slot = session.slot
  token : sight.token = session.configurationToken
  source : sight.source = source
  signalled : signalled = true → sight.signalled = true

variable {source : Acquired} {signalled : Bool} {session : VirtualCameraSession} {sight : Sight}

theorem sourceWanted_sees (cancelEpoch : Nat) (sees : Sees source signalled session sight) :
    (sourceWanted cancelEpoch source).wp monitor session (some sight) fun wanted final later =>
      final = session ∧ ∃ current, later = some { sight with current } ∧
        (wanted = true → signalled = true → current = true) := by
  simp only [sourceWanted, wp_bind]
  refine cancelled_unheard (monitor_steady _) cancelEpoch _ _ fun stopped => ?_
  cases stopped
  case true => exact ⟨rfl, sight.current, rfl, by simp⟩
  case false =>
    simp only [Bool.false_eq_true, if_false, frameCurrent, wp_bind, wp_get, askHal]
    rw [wp_ask]
    intro current
    refine ⟨trivial, rfl, _, rfl, fun wanted settled => ?_⟩
    have asked : sight.asks session.slot source.ahb source.sequence session.configurationToken = true := by
      simp [asks, sees.slot, sees.token, sees.source]
    simp only [sees.signalled settled, asked, Bool.true_and, Bool.and_true]
    exact wanted

theorem Sees.congr {after : VirtualCameraSession} (sees : Sees source signalled session sight)
    (slot : after.slot = session.slot) (token : after.configurationToken = session.configurationToken) :
    Sees source signalled after sight :=
  ⟨sees.slot.trans slot.symm, sees.token.trans token.symm, sees.source, sees.signalled⟩

theorem Sees.looks (sees : Sees source signalled session sight) (current : Bool) :
    Sees source signalled session { sight with current } := ⟨sees.slot, sees.token, sees.source, sees.signalled⟩

theorem Sees.waits {fence : Descriptors.Fd} (sees : Sees source false session sight)
    (fenced : source.acquireFence = some fence) (timeout : Int) (signalled : Bool) :
    ∃ later, monitor.observe (some sight) ⟨.syncWait fence timeout, signalled⟩ = some later ∧
      Sees source signalled session later := by
  refine ⟨_, rfl, sees.slot, sees.token, sees.source, fun done => ?_⟩
  simp [done, sees.source, fenced]

def Awaited (source : Acquired) (session : VirtualCameraSession) (ready : Bool) (final : VirtualCameraSession)
    (later : Option Sight) : Prop :=
  final = session ∧ ∃ sight, later = some sight ∧ Sees source ready session sight

theorem waitSourceFence_sees {fence : Descriptors.Fd} (cancelEpoch : Nat) (fenced : source.acquireFence = some fence)
    (polls : Nat) (sees : Sees source false session sight) :
    (waitSourceFence cancelEpoch source fence polls).wp monitor session (some sight)
      (Awaited source session) := by
  induction polls generalizing sight with
  | zero =>
    simp only [waitSourceFence, wp_bind]
    rw [wp_ask]
    intro signalled
    obtain ⟨waited, seen, known⟩ := sees.waits fenced 0 signalled
    refine ⟨trivial, ?_⟩
    rw [seen]
    cases signalled
    case true => exact ⟨rfl, waited, rfl, known⟩
    case false =>
      simp only [Bool.false_eq_true, if_false, wp_bind]
      refine (sourceWanted_sees cancelEpoch known).mono ?_
      rintro _ final later ⟨rfl, current, rfl, _⟩
      exact ⟨rfl, _, rfl, known.looks current⟩
  | succ polls ih =>
    simp only [waitSourceFence, wp_bind]
    rw [wp_ask]
    intro signalled
    obtain ⟨waited, seen, known⟩ := sees.waits fenced 0 signalled
    refine ⟨trivial, ?_⟩
    rw [seen]
    cases signalled
    case true => exact ⟨rfl, waited, rfl, known⟩
    case false =>
      simp only [Bool.false_eq_true, if_false, wp_bind]
      refine (sourceWanted_sees cancelEpoch known).mono ?_
      rintro wanted final later ⟨rfl, current, rfl, _⟩
      cases wanted
      case false => exact ⟨rfl, _, rfl, known.looks current⟩
      case true =>
        simp only [Bool.not_true, Bool.false_eq_true, if_false, wp_bind]
        rw [wp_ask_quiet (monitor_steady _) .poll rfl]
        exact fun _ => ih (known.looks current)

theorem sourceReady_sees (cancelEpoch polls : Nat) (sees : Sees source source.acquireFence.isNone session sight) :
    (sourceReady cancelEpoch source polls).wp monitor session (some sight) (Awaited source session) := by
  have signals : (sourceSignalled cancelEpoch source polls).wp monitor session (some sight)
      (Awaited source session) := by
    unfold sourceSignalled
    split
    next unfenced => exact ⟨rfl, sight, rfl, sees.slot, sees.token, sees.source, fun _ =>
      sees.signalled (by simp [unfenced])⟩
    next fence fenced =>
      rw [fenced] at sees
      exact waitSourceFence_sees cancelEpoch fenced polls sees
  simp only [sourceReady, wp_bind]
  refine signals.mono ?_
  rintro signalled final later ⟨rfl, waited, rfl, known⟩
  cases signalled
  case false => exact ⟨rfl, waited, rfl, known⟩
  case true =>
    simp only [Bool.not_true, Bool.false_eq_true, if_false]
    refine (sourceWanted_sees cancelEpoch known).mono ?_
    rintro wanted final later ⟨rfl, current, rfl, _⟩
    exact ⟨rfl, _, rfl, known.slot, known.token, known.source, fun _ => known.signalled rfl⟩

structure Draws (source : Acquired) (session final : VirtualCameraSession) (sight sight' : Sight) : Prop extends
    Sees source true final sight' where
  kept : ∀ output ∈ sight.rendered, output ∈ sight'.rendered
  same : ∃ cache, final = { session with bufferCache := cache }

theorem processOutput_sees (cancelEpoch output : Nat) (buffer : StreamBuffer)
    (sees : Sees source true session sight) :
    (processOutput cancelEpoch source output buffer).wp monitor session (some sight) fun made final later =>
      ∃ sight', later = some sight' ∧ Draws source session final sight sight' ∧
        (made.1.status = .ok → output ∈ sight'.rendered) := by
  simp only [processOutput, wp_bind]
  apply importBuffer_wp (monitor_caching _)
  intro handle cache
  rw [wp_get]
  have moved : Sees source true { session with bufferCache := cache } sight := sees.congr rfl rfl
  have unfilled (known : Sees source true { session with bufferCache := cache } sight) (current : Bool) :
      Draws source session { session with bufferCache := cache } sight { sight with current } :=
    ⟨known.looks current, fun _ member => member, cache, rfl⟩
  split
  next handle stream _ =>
    rw [wp_bind]
    refine (sourceWanted_sees cancelEpoch moved).mono ?_
    rintro wanted final later ⟨rfl, current, rfl, found⟩
    cases wanted
    case false => exact ⟨_, rfl, unfilled moved current, by simp [resultBuffer]⟩
    case true =>
      simp only [Bool.not_true, Bool.false_eq_true, if_false, wp_bind]
      rw [wp_ask]
      refine fun _ => ⟨⟨_, rfl, found rfl rfl⟩, ?_⟩
      have drawn : Draws source session { session with bufferCache := cache } sight
          { sight with current := false, rendered := output :: sight.rendered } :=
        ⟨⟨moved.slot, moved.token, moved.source, moved.signalled⟩, fun _ member => List.mem_cons_of_mem _ member,
          cache, rfl⟩
      have rendering : monitor.Ignores
          (some { sight with current := false, rendered := output :: sight.rendered }) Call.rendering :=
        monitor_rendering (moved.signalled rfl)
      refine renderOutput_unheard (rendering.mono (Call.rendering_of_on _)) source.ahb stream _ _ fun made => ?_
      obtain ⟨filled, _ | done⟩ := made
      next => exact ⟨_, rfl, drawn, fun _ => List.mem_cons_self⟩
      next =>
        rw [wp_bind, wp_ask_quiet rendering (.dup done) rfl]
        exact fun _ => ⟨_, rfl, drawn, fun _ => List.mem_cons_self⟩
  next => exact ⟨_, rfl, unfilled moved sight.current, by simp [resultBuffer]⟩

theorem processOutputs_sees (cancelEpoch output : Nat) (buffers : List StreamBuffer)
    (sees : Sees source true session sight) :
    (processOutputs cancelEpoch source output buffers).wp monitor session (some sight) fun made final later =>
      ∃ sight', later = some sight' ∧ Draws source session final sight sight' ∧
        ∀ (place : Nat) (buffer : StreamBuffer), made.1[place]? = some buffer → buffer.status = .ok →
          output + place ∈ sight'.rendered := by
  induction buffers generalizing session sight output with
  | nil => exact ⟨sight, rfl, ⟨sees, fun _ member => member, session.bufferCache, rfl⟩, by simp⟩
  | cons buffer rest ih =>
    simp only [processOutputs, wp_bind]
    refine (processOutput_sees cancelEpoch output buffer sees).mono ?_
    rintro ⟨made, fences⟩ middle later ⟨first, rfl, drawn, filled⟩
    refine (ih (output + 1) drawn.toSees).mono ?_
    rintro ⟨results, more⟩ final later ⟨last, rfl, rest, others⟩
    obtain ⟨cache, rfl⟩ := drawn.same
    obtain ⟨cache', rfl⟩ := rest.same
    refine ⟨last, rfl, ⟨rest.toSees, fun _ member => rest.kept _ (drawn.kept _ member), cache', rfl⟩, ?_⟩
    intro place answer found ok
    cases place with
    | zero =>
      cases found
      exact rest.kept _ (filled ok)
    | succ place =>
      have := others place answer found ok
      rwa [Nat.add_assoc, Nat.add_comm 1] at this

theorem failUntouched_sees (request : CaptureRequest) (pending : List (Option Descriptors.Fd))
    (session : VirtualCameraSession) (seen : Option Sight) :
    (failUntouched request pending).wp monitor session seen fun _ final later => final = session ∧ later = seen := by
  have silent : monitor.observe seen ⟨.notify [.error request.frameNumber (-1) .errorRequest], ()⟩ = seen := by
    cases seen <;> simp [monitor, observe, NotifyMsg.isShutter]
  simp only [failUntouched, wp_bind]
  rw [wp_ask]
  refine fun _ => ⟨trivial, ?_⟩
  rw [wp_ask, silent]
  refine fun _ => ⟨?_, rfl, rfl⟩
  intro result answered place buffer found ok
  obtain rfl := List.mem_singleton.mp answered
  obtain ⟨inside, rfl⟩ := List.getElem?_eq_some_iff.mp found
  have failed : (untouchedResult request pending).outputBuffers[place].status = .error := by
    simp [untouchedResult, untouchedBuffer]
  rw [failed] at ok
  cases ok

theorem releaseSource_sees (fences : List Descriptors.Fd) (outcome : Outcome) (session : VirtualCameraSession)
    (seen : Option Sight) :
    (do
      releaseSource source fences
      pure outcome : Action VirtualCameraSession Outcome).wp monitor session seen fun _ _ later => later = none := by
  simp only [releaseSource, wp_bind, wp_get, askHal]
  rw [wp_ask]
  exact fun _ => ⟨trivial, rfl⟩

theorem deliver_sees (request : CaptureRequest) (timestamp frameDurationNs producerTs : Int)
    (buffers : List StreamBuffer) (filled : ∀ (place : Nat) (buffer : StreamBuffer), buffers[place]? = some buffer →
      buffer.status = .ok → place ∈ sight.rendered) :
    (deliver request timestamp frameDurationNs producerTs buffers).wp monitor session (some sight)
      fun _ _ _ => True := by
  simp only [deliver, wp_bind, wp_get]
  rw [wp_ask]
  refine fun _ => ⟨trivial, ?_⟩
  rw [wp_ask]
  refine fun _ => ⟨fun result answered place buffer found ok => ?_, trivial⟩
  obtain rfl := List.mem_singleton.mp answered
  have some : buffers.any (·.status == .ok) = true :=
    List.any_eq_true.mpr ⟨buffer, List.mem_of_getElem? found, by simp [ok]⟩
  have shutter : (notifications request.frameNumber timestamp buffers).any NotifyMsg.isShutter = true := by
    rw [notifications, if_pos some]
    rfl
  exact ⟨_, rfl, filled place buffer found ok, (Bool.or_eq_true ..).mpr (.inr shutter)⟩

theorem captureFrom_sees (request : CaptureRequest) (cancelEpoch : Nat) (timestamp frameDurationNs : Int)
    (pending : List (Option Descriptors.Fd)) (polls : Nat)
    (sees : Sees source source.acquireFence.isNone session sight) :
    (captureFrom request cancelEpoch timestamp frameDurationNs pending source polls).wp monitor session (some sight)
      fun _ _ later => later = none := by
  have fails (session : VirtualCameraSession) (seen : Option Sight) (fences : List Descriptors.Fd) : (do
      let outcome ← failUntouched request pending
      releaseSource source fences
      pure outcome : Action VirtualCameraSession Outcome).wp monitor session seen fun _ _ later => later = none := by
    rw [wp_bind]
    refine (failUntouched_sees request pending session seen).mono ?_
    rintro outcome final later ⟨rfl, rfl⟩
    exact releaseSource_sees fences outcome final later
  simp only [captureFrom, wp_bind]
  refine cancelled_unheard (monitor_steady _) cancelEpoch _ _ fun stopped => ?_
  cases stopped
  case true => exact fails session (some sight) source.acquireFence.toList
  case false =>
    simp only [Bool.false_eq_true, if_false, wp_bind, wp_modify]
    have used : Sees source source.acquireFence.isNone { session with lastSourceSequence := source.sequence } sight :=
      sees.congr rfl rfl
    refine (sourceReady_sees cancelEpoch polls used).mono ?_
    rintro ready final later ⟨rfl, waited, rfl, known⟩
    cases ready
    case false => exact fails _ _ source.acquireFence.toList
    case true =>
      simp only [if_true, wp_bind]
      refine closeFds_unheard (monitor_steady _) [source.acquireFence] _ _ fun _ => ?_
      refine (processOutputs_sees cancelEpoch 0 request.outputBuffers known).mono ?_
      rintro made final later ⟨drawn, rfl, _, filled⟩
      refine (deliver_sees request timestamp frameDurationNs source.timestampNs made.1
        (fun place buffer found ok => by simpa using filled place buffer found ok)).mono ?_
      exact fun outcome final later _ => releaseSource_sees made.2 outcome final later

theorem acquireLatest_sees (session : VirtualCameraSession) (found : Option Acquired) :
    let seen : Option Sight := monitor.observe none
      ⟨.hal (.acquireLatest session.slot session.lastSourceSequence session.configurationToken), found⟩
    (found = none → seen = none) ∧ ∀ source, found = some source →
      ∃ sight, seen = some sight ∧ Sees source source.acquireFence.isNone session sight := by
  refine ⟨fun none => by rw [none]; rfl, fun source same => ?_⟩
  rw [same]
  exact ⟨_, rfl, rfl, rfl, rfl, id⟩

theorem pollSource_sees (cancelEpoch polls : Nat) (session : VirtualCameraSession) :
    (pollSource cancelEpoch polls).wp monitor session none fun found final later => final = session ∧
      (found.1 = none → later = none) ∧ ∀ source, found.1 = some source →
        ∃ sight, later = some sight ∧ Sees source source.acquireFence.isNone session sight := by
  induction polls with
  | zero =>
    simp only [pollSource, wp_bind]
    refine cancelled_unheard (monitor_steady _) cancelEpoch _ _ fun stopped => ?_
    cases stopped
    case true => exact ⟨rfl, fun _ => rfl, by simp⟩
    case false =>
      simp only [Bool.false_eq_true, if_false, wp_bind, wp_get, askHal]
      rw [wp_ask]
      exact fun found => ⟨trivial, rfl, acquireLatest_sees session found⟩
  | succ polls ih =>
    simp only [pollSource, wp_bind]
    refine cancelled_unheard (monitor_steady _) cancelEpoch _ _ fun stopped => ?_
    cases stopped
    case true => exact ⟨rfl, fun _ => rfl, by simp⟩
    case false =>
      simp only [Bool.false_eq_true, if_false, wp_bind, wp_get, askHal]
      rw [wp_ask]
      intro found
      refine ⟨trivial, ?_⟩
      have asked := acquireLatest_sees session found
      cases found with
      | some source => exact ⟨rfl, asked⟩
      | none =>
        rw [asked.1 rfl, wp_bind, wp_ask_quiet (monitor_steady _) .poll rfl]
        exact fun _ => ih

def Idle : VirtualCameraSession → Option Sight → Prop := fun _ seen => seen = none

theorem captureSource_idle (request : CaptureRequest) (cancelEpoch : Nat) (timestamp : Int)
    (pending : List (Option Descriptors.Fd)) :
    Maintains monitor Idle (captureSource request cancelEpoch timestamp pending) := by
  rintro session _ rfl
  have fails (session : VirtualCameraSession) :
      (failUntouched request pending).wp monitor session none fun _ final later => Idle final later :=
    (failUntouched_sees request pending session none).mono fun _ _ _ kept => kept.2
  simp only [captureSource, wp_bind, wp_get]
  refine unheard_ask (monitor_steady _) .stableHal rfl _ _ fun hal => ?_
  rw [wp_ite]
  refine ⟨fun _ => fails session, fun ready => ?_⟩
  rw [wp_bind]
  apply startDeadline_wp (monitor_steady _)
  intro polls
  rw [wp_bind]
  refine (pollSource_sees cancelEpoch polls _).mono ?_
  rintro ⟨found, left⟩ final later ⟨rfl, missing, seen⟩
  cases found with
  | none =>
    rw [missing rfl]
    exact fails _
  | some source =>
    obtain ⟨sight, rfl, known⟩ := seen source rfl
    exact captureFrom_sees request cancelEpoch timestamp _ pending left known

theorem bookkeeping : Bookkeeping monitor Idle fun _ => True := by
  refine ⟨?_, fun held _ => held, ?_, ?_, ?_, ?_, captureSource_idle⟩
  · rintro session _ rfl
    exact monitor_aside.mono Call.aside_of_housekeeping
  · rintro session _ rfl
    exact ⟨trivial, rfl⟩
  · rintro session _ current rfl _
    exact ⟨trivial, rfl, fun _ => trivial⟩
  · rintro session _ width height fps token rfl _
    exact ⟨trivial, rfl, fun _ => rfl⟩
  · rintro request pending session _ rfl
    exact (failUntouched_sees request pending session none).mono fun _ _ _ kept => kept.2

theorem discipline : sessions.Discipline monitor (fun _ => none) Idle := by
  refine ⟨fun shared options admitted => ?_, fun call wasClosed session seen idle =>
    serve_maintains bookkeeping call wasClosed session seen idle⟩
  change create.wp monitor _ _ fun _ final later => Idle final later
  simp only [create, construct, wp_bind]
  refine unheard_ask (monitor_steady _) .stableHal rfl _ _ fun hal => ?_
  cases hal
  case false => exact rfl
  case true =>
    simp only [if_true, wp_bind, askHal, wp_modify]
    exact fun identity => ⟨trivial, rfl⟩

end Sight

end VirtualCamera
