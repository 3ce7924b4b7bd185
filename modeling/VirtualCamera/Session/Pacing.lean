import VirtualCamera.Session.Footprint
import VirtualCamera.Session.Operations
import VirtualCamera.Shared.Service

set_option autoImplicit false

namespace VirtualCamera

open Descriptors Interaction Interaction.Process Runs

structure Clock where
  time : Nat := 0
  closed : Bool := false
  cancelEpoch : Nat := 0
deriving DecidableEq, Repr

namespace Clock

structure Passes (before after : Clock) : Prop where
  time : before.time ≤ after.time
  closed : before.closed = true → after.closed = true
  cancelEpoch : before.cancelEpoch ≤ after.cancelEpoch

theorem Passes.refl (clock : Clock) : clock.Passes clock := ⟨le_rfl, id, le_rfl⟩

theorem Passes.trans {before middle after : Clock} (first : before.Passes middle) (later : middle.Passes after) :
    before.Passes after :=
  ⟨first.time.trans later.time, later.closed ∘ first.closed, first.cancelEpoch.trans later.cancelEpoch⟩

def Stale (clock : Clock) (cancelEpoch : Nat) : Prop := clock.closed = true ∨ clock.cancelEpoch ≠ cancelEpoch

theorem Stale.persists {before after : Clock} {cancelEpoch : Nat} (stale : before.Stale cancelEpoch)
    (loaded : cancelEpoch ≤ before.cancelEpoch) (passes : before.Passes after) : after.Stale cancelEpoch := by
  rcases stale with closed | other
  · exact .inl (passes.closed closed)
  · have later := passes.cancelEpoch
    exact .inr (by omega)

end Clock

def Clock.Answers (cancelEpoch : Nat) (before : Clock) (event : Event Environment) (after : Clock) : Prop :=
  before.Passes after ∧
    match event with
    | ⟨.steadyClock, now⟩ => now = (before.time : Int)
    | ⟨.waitFor nanos, _⟩ => (before.time : Int) + nanos ≤ after.time ∨ after.Stale cancelEpoch
    | ⟨.loadClosed, closed⟩ => closed = before.closed
    | ⟨.loadCancelEpoch, epoch⟩ => epoch = before.cancelEpoch
    | _ => True

def clockService (cancelEpoch : Nat) : Service Environment Clock where
  answers := Clock.Answers cancelEpoch
  interferes := Clock.Passes
  idle := .refl

theorem served_passes {A : Type} {cancelEpoch : Nat} {start final : Clock} {program : Program Environment A}
    {answers : List (Answer Environment Clock)} {value : A}
    (served : Served (clockService cancelEpoch) start program answers value final) : start.Passes final :=
  (served.keeps start.Passes (fun _ _ passes held => held.trans passes)
    (fun _ _ _ answered held => held.trans answered.1) (.refl start)).2

namespace VirtualCameraSession

variable {session final : VirtualCameraSession} {start after : Clock} {cancelEpoch : Nat}
  {answers : List (Answer Environment Clock)}

def Current (cancelEpoch : Nat) (answers : List (Answer Environment Clock)) : Prop :=
  answers.getLast?.map (·.event) = some ⟨.loadCancelEpoch, cancelEpoch⟩

theorem current_append (early : List (Answer Environment Clock)) (some : answers ≠ []) :
    Current cancelEpoch (early ++ answers) ↔ Current cancelEpoch answers := by
  rw [Current, List.getLast?_append_of_ne_nil early some, Current]

theorem cancelled_served {stopped : Bool} (loaded : cancelEpoch ≤ start.cancelEpoch)
    (served : Served (clockService cancelEpoch) start (cancelled cancelEpoch session) answers
    (stopped, final) after) :
    final = session ∧ answers ≠ [] ∧ (stopped = false ↔ Current cancelEpoch answers) ∧
      (stopped = false → ¬ start.Stale cancelEpoch) := by
  obtain ⟨first, ⟨closed, state⟩, middle, later, rfl, asked, rest⟩ := Served.of_bind served
  obtain ⟨before, shared, early, ⟨passed, load⟩, between, rfl, rfl⟩ := asked.of_perform
  cases closed with
  | true =>
    obtain ⟨rfl, result, _⟩ := rest.of_ret
    cases result
    exact ⟨rfl, by simp, by simp [Current], nofun⟩
  | false =>
    obtain ⟨second, ⟨epoch, last⟩, halfway, tail, rfl, again, ending⟩ := Served.of_bind rest
    obtain ⟨seen, counted, late, ⟨passing, count⟩, _, rfl, rfl⟩ := again.of_perform
    obtain ⟨rfl, result, _⟩ := ending.of_ret
    cases result
    refine ⟨rfl, by simp, by simp [Current], fun same stale => ?_⟩
    have equal : epoch = cancelEpoch := by simpa using same
    have here := stale.persists loaded early
    rcases here with closed | other
    · exact absurd (load.trans closed) nofun
    · have reached := (passed.trans (between.trans late)).cancelEpoch
      have above := early.cancelEpoch
      have now : seen.cancelEpoch = cancelEpoch := count.symm.trans equal
      omega

theorem waitUntil_served {now next : Int}
    (served : Served (clockService cancelEpoch) start (waitUntil now next session) answers ((), final) after)
    (reached : now ≤ start.time) (loaded : cancelEpoch ≤ start.cancelEpoch) :
    final = session ∧ (next ≤ after.time ∨ after.Stale cancelEpoch) := by
  unfold waitUntil at served
  split at served
  next ahead =>
    obtain ⟨before, shared, early, ⟨passed, waited⟩, late, _, rfl⟩ := served.of_perform
    refine ⟨rfl, waited.imp (fun elapsed => ?_) fun stale => ?_⟩
    · have began := early.time
      have ended := late.time
      have total : (before.time : Int) + (next - now) ≤ shared.time := elapsed
      omega
    · exact stale.persists (loaded.trans (early.trans passed).cancelEpoch) late
  next past =>
    obtain ⟨_, result, passed⟩ := served.of_ret
    cases result
    have ended := passed.time
    exact ⟨rfl, .inl (by omega)⟩

def nextSlot (session : VirtualCameraSession) (now : Int) : Int :=
  if session.nextFrameNs = 0 ∨ session.nextFrameNs + frameDuration session.targetFps < now then now
  else session.nextFrameNs

theorem paceFrame_served {value : Option Int} (rated : session.targetFps ≠ 0)
    (loaded : cancelEpoch ≤ start.cancelEpoch)
    (served : Served (clockService cancelEpoch) start (paceFrame cancelEpoch session) answers (value, final) after) :
    ∃ now : Nat, start.time ≤ now ∧ now ≤ after.time ∧
      ((Current cancelEpoch answers ∧ value = some (session.nextSlot now) ∧ session.nextSlot now ≤ after.time ∧
          final = { session with nextFrameNs := session.nextSlot now + frameDuration session.targetFps }) ∨
        (¬ Current cancelEpoch answers ∧ final = { session with nextFrameNs := session.nextSlot now })) := by
  have whole := Served.of_get_bind served
  rw [if_neg rated] at whole
  obtain ⟨_, ⟨now, state⟩, clocked, _, rfl, asked, rest⟩ := Served.of_bind whole
  obtain ⟨before, shared, early, ⟨passed, clock⟩, late, rfl, rfl⟩ := asked.of_perform
  have time : now = (before.time : Int) := clock
  subst time
  have waiting := Served.of_modify_bind rest
  obtain ⟨waits, ⟨_, state⟩, waited, _, rfl, wait, looking⟩ := Served.of_bind waiting
  have reached : ((before.time : Nat) : Int) ≤ clocked.time := by exact_mod_cast (passed.trans late).time
  have since : start.Passes clocked := early.trans (passed.trans late)
  obtain ⟨rfl, elapsed⟩ := waitUntil_served wait reached (loaded.trans since.cancelEpoch)
  have until_over : start.Passes waited := since.trans (served_passes wait)
  obtain ⟨looks, ⟨stopped, state⟩, looked, last, rfl, look, ending⟩ := Served.of_bind looking
  obtain ⟨rfl, heard, current, fresh⟩ := cancelled_served (loaded.trans until_over.cancelEpoch) look
  refine ⟨before.time, early.time, ?_, ?_⟩
  · have later : looked.Passes after := served_passes ending
    exact (passed.trans (late.trans ((served_passes wait).trans ((served_passes look).trans later)))).time
  cases stopped with
  | true =>
    obtain ⟨rfl, result, _⟩ := Served.of_ret ending
    cases result
    refine .inr ⟨?_, rfl⟩
    rw [List.append_nil, current_append _ (by simp [heard]), current_append _ heard, ← current]
    simp
  | false =>
    obtain ⟨rfl, result, moved⟩ := Served.of_ret (Served.of_modify_bind ending)
    cases result
    have current := current.mp rfl
    refine .inl ⟨?_, rfl, ?_, rfl⟩
    · rwa [List.append_nil, current_append _ (by simp [heard]), current_append _ heard]
    · have later := ((served_passes look).trans moved).time
      have elapsed := elapsed.resolve_right (fresh rfl)
      exact elapsed.trans (by exact_mod_cast later)

end VirtualCameraSession

theorem frameDuration_positive {fps : Int} (rated : 1 ≤ fps) : 1 ≤ frameDuration fps := by
  unfold frameDuration
  exact (Int.le_ediv_iff_mul_le (by omega)).mpr (by unfold nanosPerSecond; omega)

inductive Interlude where
  | construct
  | configureStreams (requested : List Stream)
  | updateTargetFps (settings : CameraMetadata)
  | flush
  | close
  | capture (stage : CaptureStage)

namespace Interlude

open VirtualCameraSession

def perform : Interlude → Action VirtualCameraSession Unit
  | .construct => VirtualCameraSession.construct
  | .configureStreams requested => discard (VirtualCameraSession.configureStreams requested)
  | .updateTargetFps settings => discard (VirtualCameraSession.updateTargetFps settings)
  | .flush => discard VirtualCameraSession.flush
  | .close => discard VirtualCameraSession.close
  | .capture stage => stage.perform

def mayReset : Interlude → Bool
  | .configureStreams _ | .updateTargetFps _ | .flush => true
  | _ => false

def Leaves (interlude : Interlude) (before after : VirtualCameraSession) : Prop :=
  interlude.mayReset = true ∧ after.nextFrameNs = 0 ∨
    after.nextFrameNs = before.nextFrameNs ∧ after.targetFps = before.targetFps

theorem perform_leaves (interlude : Interlude) (session : VirtualCameraSession) :
    interlude.perform.wp (only fun _ => true) session () fun _ final _ => interlude.Leaves session final := by
  have deaf : ∀ quiet, (only fun _ => true).Ignores () quiet := fun quiet =>
    (only_ignores (fun _ => true) ()).mono fun _ _ => rfl
  have same : interlude.Leaves session session := .inr ⟨rfl, rfl⟩
  cases interlude with
  | construct =>
    simp only [perform, VirtualCameraSession.construct, wp_bind]
    refine unheard_ask (deaf Call.steady) .stableHal rfl _ _ fun hal => ?_
    cases hal
    case false => exact same
    case true =>
      simp only [if_true, wp_bind]
      exact unheard_ask (deaf fun _ => true) (.hal .allocateSessionIdentity) rfl _ _ fun _ => .inr ⟨rfl, rfl⟩
  | configureStreams requested =>
    simp only [perform, discard, wp_bind]
    apply configureStreams_wp session (deaf _) (deaf _)
    · exact fun _ _ _ => same
    · exact fun mode out after _ configured => .inl ⟨rfl, configured.nextFrameNs⟩
  | updateTargetFps settings =>
    simp only [perform, discard, wp_bind]
    apply updateTargetFps_wp session (deaf _)
    · exact same
    · exact fun _ => same
    · exact fun blob mode fps _ _ _ _ _ => .inr ⟨rfl, rfl⟩
    · exact fun blob mode fps token _ _ _ _ => .inl ⟨rfl, rfl⟩
  | flush =>
    simp only [perform, discard, VirtualCameraSession.flush, wp_bind, wp_modify]
    refine unheard_ask (deaf fun _ => true) (.storeFlushing true) rfl _ _ fun _ => ?_
    refine unheard_ask (deaf fun _ => true) .bumpCancelEpoch rfl _ _ fun _ => ?_
    exact unheard_ask (deaf fun _ => true) (.storeFlushing false) rfl _ _ fun _ => .inl ⟨rfl, rfl⟩
  | close =>
    simp only [perform, discard, wp_bind]
    exact close_unheard (deaf _) _ _ fun _ => same
  | capture stage =>
    have kept : ∀ after : VirtualCameraSession, after.frame = session.frame →
        (Interlude.capture stage).Leaves session after := by
      intro after kept
      have next : after.frame.nextFrameNs = session.frame.nextFrameNs := congrArg nextFrameNs kept
      have rate : after.frame.targetFps = session.frame.targetFps := congrArg targetFps kept
      exact .inr ⟨next, rate⟩
    cases stage with
    | refusing =>
      simp only [perform, CaptureStage.perform, discard, wp_bind]
      exact refusing_unheard (deaf _) _ _ fun _ => same
    | evict cachesToRemove => exact removeBuffersFromCache_wp (deaf _) session cachesToRemove _ fun cache => kept _ rfl
    | reserve buffers =>
      simp only [perform, CaptureStage.perform, discard, wp_bind]
      exact reserveFences_wp (deaf _) session buffers _ fun _ _ _ => same
    | importAll buffers =>
      simp only [perform, CaptureStage.perform, discard, wp_bind]
      exact importBuffers_wp (deaf _) session buffers _ fun _ cache => kept _ rfl
    | awaitDestinations cancelEpoch fences =>
      simp only [perform, CaptureStage.perform, discard, wp_bind]
      exact waitDestinations_wp (deaf _) session cancelEpoch fences _ same fun _ _ => same
    | closeFences fences => exact closeFds_unheard (deaf _) fences _ _ fun _ => same
    | fail request pending =>
      simp only [perform, CaptureStage.perform, discard, wp_bind]
      have keeps : Maintains (only fun _ => true) (fun after _ => after.frame = session.frame)
          (failUntouched request pending) := failUntouched_maintains (fun _ => deaf _) request pending
      exact (keeps session () rfl).mono fun _ after _ held => kept after held
    | source request cancelEpoch timestamp pending =>
      simp only [perform, CaptureStage.perform, discard, wp_bind]
      have keeps : Maintains (only fun _ => true) (fun after _ => after.frame = session.frame)
          (captureSource request cancelEpoch timestamp pending) :=
        captureSource_maintains (fun _ => deaf _) (fun _ _ _ held same => same.trans held) request cancelEpoch
          timestamp pending
      exact (keeps session () rfl).mono fun _ after _ held => kept after held

end Interlude

structure Delivery where
  started : Nat
  returned : Nat
  interval : Int
  timestamp : Int
deriving DecidableEq, Repr

inductive PaceEvent where
  | delivered (delivery : Delivery)
  | cancelled
  | reset (interlude : Interlude)
  | other (interlude : Interlude)

namespace PaceEvent

def delivery : PaceEvent → Option Delivery
  | .delivered delivery => some delivery
  | _ => none

def resets : PaceEvent → Bool
  | .reset _ => true
  | _ => false

end PaceEvent

def deliveries (events : List PaceEvent) : List Delivery := events.filterMap PaceEvent.delivery

structure PaceState where
  session : VirtualCameraSession
  clock : Clock

-- One operation under `mRequestLock`. A capture loads the epoch of its calls before it makes them.
open VirtualCameraSession in
inductive PaceStep : PaceState → PaceEvent → PaceState → Prop where
  | delivered {before after : PaceState} {answers : List (Answer Environment Clock)} {timestamp : Int}
      (cancelEpoch : Nat)
      (rated : 1 ≤ before.session.targetFps) (loaded : cancelEpoch ≤ before.clock.cancelEpoch)
      (served : Served (clockService cancelEpoch) before.clock (paceFrame cancelEpoch before.session) answers
        (some timestamp, after.session) after.clock)
      (current : Current cancelEpoch answers) :
      PaceStep before
        (.delivered ⟨before.clock.time, after.clock.time, frameDuration before.session.targetFps, timestamp⟩) after
  | cancelled {before after : PaceState} {answers : List (Answer Environment Clock)} {value : Option Int}
      (cancelEpoch : Nat) (rated : 1 ≤ before.session.targetFps) (loaded : cancelEpoch ≤ before.clock.cancelEpoch)
      (served : Served (clockService cancelEpoch) before.clock (paceFrame cancelEpoch before.session) answers
        (value, after.session) after.clock)
      (stale : ¬ Current cancelEpoch answers) : PaceStep before .cancelled after
  | reset {before after : PaceState} {answers : List (Answer Environment Clock)} (cancelEpoch : Nat)
      (interlude : Interlude)
      (served : Served (clockService cancelEpoch) before.clock (interlude.perform before.session) answers
        ((), after.session) after.clock)
      (resetting : interlude.mayReset = true) (fresh : after.session.nextFrameNs = 0) :
      PaceStep before (.reset interlude) after
  | other {before after : PaceState} {answers : List (Answer Environment Clock)} (cancelEpoch : Nat)
      (interlude : Interlude)
      (served : Served (clockService cancelEpoch) before.clock (interlude.perform before.session) answers
        ((), after.session) after.clock)
      (kept : ¬ (interlude.mayReset = true ∧ after.session.nextFrameNs = 0)) :
      PaceStep before (.other interlude) after

def PaceEvent.Effect (before : PaceState) (after : PaceState) : PaceEvent → Prop
  | .delivered delivery => delivery.started = before.clock.time ∧ delivery.returned = after.clock.time ∧
      1 ≤ delivery.interval ∧ delivery.interval = frameDuration before.session.targetFps ∧
      after.session.targetFps = before.session.targetFps ∧ delivery.timestamp ≤ delivery.returned ∧
      after.session.nextFrameNs = delivery.timestamp + delivery.interval ∧
      ∃ now : Nat, delivery.started ≤ now ∧ delivery.timestamp = before.session.nextSlot now
  | .cancelled => after.session.targetFps = before.session.targetFps ∧
      ∃ now : Nat, before.clock.time ≤ now ∧ 1 ≤ frameDuration before.session.targetFps ∧
        after.session.nextFrameNs = before.session.nextSlot now
  | .reset _ => after.session.nextFrameNs = 0
  | .other _ => after.session.nextFrameNs = before.session.nextFrameNs ∧
      after.session.targetFps = before.session.targetFps

namespace PaceStep

theorem passes {before after : PaceState} {event : PaceEvent} (step : PaceStep before event after) :
    before.clock.Passes after.clock := by
  cases step with
  | delivered _ _ _ served => exact served_passes served
  | cancelled _ _ _ served => exact served_passes served
  | reset _ _ served => exact served_passes served
  | other _ _ served => exact served_passes served

theorem effect {before after : PaceState} {event : PaceEvent} (step : PaceStep before event after) :
    event.Effect before after := by
  have leaves : ∀ {cancelEpoch : Nat} {answers : List (Answer Environment Clock)} {interlude : Interlude},
      Served (clockService cancelEpoch) before.clock (interlude.perform before.session) answers
        ((), after.session) after.clock → interlude.Leaves before.session after.session := by
    intro cancelEpoch answers interlude served
    exact ((interlude.perform_leaves before.session).execution served.execution).2
  cases step with
  | delivered cancelEpoch rated loaded served current =>
    obtain ⟨now, began, _, ⟨_, slot, returned, final⟩ | ⟨stale, _⟩⟩ :=
      VirtualCameraSession.paceFrame_served (by omega) loaded served
    · cases slot
      refine ⟨rfl, rfl, frameDuration_positive rated, rfl, ?_, returned, ?_, now, began, rfl⟩
      · rw [final]
      · rw [final]
    · exact absurd current stale
  | cancelled cancelEpoch rated loaded served stale =>
    obtain ⟨now, began, _, ⟨current, _⟩ | ⟨_, final⟩⟩ :=
      VirtualCameraSession.paceFrame_served (by omega) loaded served
    · exact absurd current stale
    · refine ⟨?_, now, began, frameDuration_positive rated, ?_⟩
      · rw [final]
      · rw [final]
  | reset _ _ _ _ fresh => exact fresh
  | other cancelEpoch interlude served kept => exact (leaves served).resolve_left kept

end PaceStep

namespace VirtualCameraSession

theorem nextSlot_bounds (session : VirtualCameraSession) (now : Nat) (natural : 0 ≤ session.nextFrameNs)
    (positive : 1 ≤ frameDuration session.targetFps) :
    session.nextFrameNs ≤ session.nextSlot now ∧ 0 ≤ session.nextSlot now ∧
      now ≤ session.nextSlot now + frameDuration session.targetFps ∧
      (session.nextSlot now = now ∨ session.nextFrameNs ≠ 0 ∧ session.nextSlot now = session.nextFrameNs) := by
  unfold nextSlot
  split <;> omega

end VirtualCameraSession

theorem deliveries_snoc (events : List PaceEvent) (event : PaceEvent) :
    deliveries (events ++ [event]) = deliveries events ++ event.delivery.toList := by
  simp only [deliveries, List.filterMap_append, List.filterMap_cons, List.filterMap_nil]
  cases event.delivery <;> rfl

structure Ordered (past : List PaceEvent) (state : PaceState) : Prop where
  natural : 0 ≤ state.session.nextFrameNs
  sorted : (deliveries past).Pairwise fun earlier later => earlier.timestamp ≤ later.timestamp
  bounded : ∀ delivery ∈ deliveries past,
    delivery.timestamp ≤ delivery.returned ∧ delivery.started ≤ delivery.timestamp + delivery.interval
  elapsed : ∀ delivery ∈ deliveries past, delivery.timestamp ≤ state.clock.time
  before : ∀ delivery ∈ deliveries past,
    state.session.nextFrameNs = 0 ∨ delivery.timestamp ≤ state.session.nextFrameNs

theorem Ordered.silent {past : List PaceEvent} {before after : PaceState} {event : PaceEvent}
    (ordered : Ordered past before) (passes : before.clock.Passes after.clock) (silent : event.delivery = none)
    (natural : 0 ≤ after.session.nextFrameNs)
    (slots : ∀ timestamp : Int, timestamp ≤ before.clock.time →
      before.session.nextFrameNs = 0 ∨ timestamp ≤ before.session.nextFrameNs →
      after.session.nextFrameNs = 0 ∨ timestamp ≤ after.session.nextFrameNs) : Ordered (past ++ [event]) after := by
  have same : deliveries (past ++ [event]) = deliveries past := by simp [deliveries_snoc, silent]
  have time : (before.clock.time : Int) ≤ after.clock.time := by exact_mod_cast passes.time
  constructor
  · exact natural
  · rw [same]
    exact ordered.sorted
  · rw [same]
    exact ordered.bounded
  · rw [same]
    exact fun delivery member => (ordered.elapsed delivery member).trans time
  · rw [same]
    exact fun delivery member => slots _ (ordered.elapsed delivery member) (ordered.before delivery member)

theorem Ordered.step {past : List PaceEvent} {before after : PaceState} {event : PaceEvent}
    (ordered : Ordered past before) (step : PaceStep before event after) : Ordered (past ++ [event]) after := by
  cases event with
  | delivered delivery =>
    obtain ⟨started, returned, positive, interval, rate, inTime, next, now, began, slot⟩ := step.effect
    obtain ⟨later, natural, close, place⟩ := before.session.nextSlot_bounds now ordered.natural (interval ▸ positive)
    rw [← slot] at later natural close place
    rw [← interval] at close
    have time : (before.clock.time : Int) ≤ after.clock.time := by exact_mod_cast step.passes.time
    have ahead : ∀ earlier ∈ deliveries past, earlier.timestamp ≤ delivery.timestamp := by
      intro earlier member
      have elapsed := ordered.elapsed earlier member
      have slots := ordered.before earlier member
      omega
    constructor
    · omega
    · rw [deliveries_snoc, List.pairwise_append]
      refine ⟨ordered.sorted, List.pairwise_singleton _ _, fun earlier member last same => ?_⟩
      cases List.mem_singleton.mp same
      exact ahead earlier member
    · rw [deliveries_snoc]
      refine List.forall_mem_append.mpr ⟨ordered.bounded, List.forall_mem_singleton.mpr ⟨inTime, ?_⟩⟩
      omega
    · rw [deliveries_snoc]
      refine List.forall_mem_append.mpr ⟨fun earlier member => ?_, List.forall_mem_singleton.mpr ?_⟩
      · exact (ordered.elapsed earlier member).trans time
      · omega
    · rw [deliveries_snoc]
      refine List.forall_mem_append.mpr ⟨fun earlier member => .inr ?_, List.forall_mem_singleton.mpr (.inr ?_)⟩
      · have before := ahead earlier member
        omega
      · omega
  | cancelled =>
    obtain ⟨rate, now, began, positive, next⟩ := step.effect
    obtain ⟨later, natural, close, place⟩ := before.session.nextSlot_bounds now ordered.natural positive
    rw [← next] at later natural place
    exact ordered.silent step.passes rfl natural fun timestamp elapsed slots => by omega
  | reset interlude =>
    have fresh : after.session.nextFrameNs = 0 := step.effect
    exact ordered.silent step.passes rfl (by omega) fun _ _ _ => .inl fresh
  | other interlude =>
    obtain ⟨next, _⟩ := step.effect
    refine ordered.silent step.passes rfl ?_ ?_
    · rw [next]
      exact ordered.natural
    · rw [next]
      exact fun _ _ slots => slots

def Delivery.Apart (earlier later : Delivery) : Prop :=
  earlier.interval = later.interval ∧ earlier.timestamp + earlier.interval ≤ later.timestamp

structure Spaced (window : List PaceEvent) (state : PaceState) : Prop where
  natural : 0 ≤ state.session.nextFrameNs
  apart : (deliveries window).Pairwise Delivery.Apart
  paced : ∀ delivery ∈ deliveries window, delivery.interval = frameDuration state.session.targetFps ∧
    0 < state.session.nextFrameNs ∧ delivery.timestamp + delivery.interval ≤ state.session.nextFrameNs

theorem Spaced.silent {window : List PaceEvent} {before after : PaceState} {event : PaceEvent}
    (spaced : Spaced window before) (silent : event.delivery = none)
    (rate : after.session.targetFps = before.session.targetFps)
    (later : before.session.nextFrameNs ≤ after.session.nextFrameNs) : Spaced (window ++ [event]) after := by
  have same : deliveries (window ++ [event]) = deliveries window := by simp [deliveries_snoc, silent]
  have natural := spaced.natural
  constructor
  · omega
  · rw [same]
    exact spaced.apart
  · rw [same, rate]
    intro delivery member
    obtain ⟨interval, positive, slot⟩ := spaced.paced delivery member
    exact ⟨interval, by omega, by omega⟩

theorem Spaced.step {window : List PaceEvent} {before after : PaceState} {event : PaceEvent}
    (spaced : Spaced window before) (step : PaceStep before event after) (kept : event.resets = false) :
    Spaced (window ++ [event]) after := by
  cases event with
  | delivered delivery =>
    obtain ⟨_, _, positive, interval, rate, _, next, now, _, slot⟩ := step.effect
    obtain ⟨later, natural, _, place⟩ := before.session.nextSlot_bounds now spaced.natural (interval ▸ positive)
    rw [← slot] at later natural place
    constructor
    · omega
    · rw [deliveries_snoc, List.pairwise_append]
      refine ⟨spaced.apart, List.pairwise_singleton _ _, fun earlier member last same => ?_⟩
      cases List.mem_singleton.mp same
      obtain ⟨paced, _, ahead⟩ := spaced.paced earlier member
      exact ⟨paced.trans interval.symm, by omega⟩
    · rw [deliveries_snoc, rate]
      refine List.forall_mem_append.mpr ⟨fun earlier member => ?_, List.forall_mem_singleton.mpr ?_⟩
      · obtain ⟨paced, _, ahead⟩ := spaced.paced earlier member
        exact ⟨paced, by omega, by omega⟩
      · exact ⟨interval, by omega, by omega⟩
  | cancelled =>
    obtain ⟨rate, now, _, positive, next⟩ := step.effect
    obtain ⟨later, _⟩ := before.session.nextSlot_bounds now spaced.natural positive
    exact spaced.silent rfl rate (by rw [next]; exact later)
  | reset interlude => cases kept
  | other interlude =>
    obtain ⟨next, rate⟩ := step.effect
    exact spaced.silent rfl rate next.ge

-- A whole number of intervals lies between the first and the last of some deliveries.
theorem apart_span {first last : Delivery} {later : List Delivery} (apart : (first :: later).Pairwise Delivery.Apart)
    (ends : (first :: later).getLast? = some last) :
    first.timestamp + later.length * first.interval ≤ last.timestamp := by
  induction later generalizing first with
  | nil =>
    cases ends
    simp
  | cons second rest ih =>
    rw [List.pairwise_cons] at apart
    obtain ⟨interval, gap⟩ := apart.1 second (by simp)
    have onwards := ih apart.2 (by simpa using ends)
    rw [← interval] at onwards
    push_cast [List.length_cons]
    linarith

structure PacingLaw (events : List PaceEvent) : Prop where
  ordered : (deliveries events).Pairwise fun earlier later => earlier.timestamp ≤ later.timestamp
  inTime : ∀ delivery ∈ deliveries events, delivery.timestamp ≤ delivery.returned
  recent : ∀ delivery ∈ deliveries events, delivery.started - delivery.interval ≤ delivery.timestamp
  apart : ∀ window, window <:+: events → (∀ event ∈ window, event.resets = false) →
    (deliveries window).Pairwise Delivery.Apart
  rate : ∀ window first last, window <:+: events → (∀ event ∈ window, event.resets = false) →
    (deliveries window).head? = some first → (deliveries window).getLast? = some last →
    ((deliveries window).length - 2 : Int) * first.interval ≤ last.returned - first.started

theorem ordered_run {start final : PaceState} {events : List PaceEvent} (fresh : start.session.nextFrameNs = 0)
    (run : Run PaceStep start events final) : Ordered events final :=
  run.invariant Ordered ⟨fresh.ge, .nil, nofun, nofun, nofun⟩
    fun _ _ _ _ _ ordered step => ordered.step step

theorem spaced_run {start final : PaceState} {window : List PaceEvent} (natural : 0 ≤ start.session.nextFrameNs)
    (run : Run PaceStep start window final) (kept : ∀ event ∈ window, event.resets = false) :
    Spaced window final := by
  refine run.invariant (fun past state => (∀ event ∈ past, event.resets = false) → Spaced past state)
    (fun _ => ⟨natural, .nil, nofun⟩) (fun past middle event after _ spaced step quiet => ?_) kept
  obtain ⟨earlier, last⟩ := List.forall_mem_append.mp quiet
  exact (spaced earlier).step step (last event (by simp))

theorem pacing_law (slot : Int) (capabilities : Option ProducerCapabilities) (forceCpuYuv : Bool)
    (profileDeadlineFrames : Int) (profileClearOutput : Bool) (clock : Clock) (events : List PaceEvent)
    (final : PaceState)
    (run : Run PaceStep ⟨.initial slot capabilities forceCpuYuv profileDeadlineFrames profileClearOutput, clock⟩
      events final) : PacingLaw events := by
  have ordered := ordered_run rfl run
  have apart : ∀ window, window <:+: events → (∀ event ∈ window, event.resets = false) →
      (deliveries window).Pairwise Delivery.Apart := by
    rintro window ⟨early, late, rfl⟩ kept
    obtain ⟨last, through, _⟩ := run.split
    obtain ⟨first, opening, rest⟩ := through.split
    exact (spaced_run (ordered_run rfl opening).natural rest kept).apart
  refine ⟨ordered.sorted, fun delivery member => (ordered.bounded delivery member).1, fun delivery member => ?_,
    apart, fun window first last inside kept starts ends => ?_⟩
  · have began := (ordered.bounded delivery member).2
    omega
  · have spaced := apart window inside kept
    have within : ∀ delivery ∈ deliveries window, delivery ∈ deliveries events := fun delivery member =>
      (inside.sublist.filterMap PaceEvent.delivery).subset member
    have began := (ordered.bounded first (within first (List.mem_of_mem_head? starts))).2
    have ended := (ordered.bounded last (within last (List.mem_of_getLast? ends))).1
    obtain ⟨later, shape⟩ := List.head?_eq_some_iff.mp starts
    rw [shape] at spaced ends ⊢
    have span := apart_span spaced ends
    push_cast [List.length_cons]
    linarith

def Clock.respond (clock : Clock) : (call : Call) → call.Reply × Clock
  | .steadyClock => ((clock.time : Int), clock)
  | .waitFor nanos => ((), { clock with time := clock.time + nanos.toNat })
  | .loadClosed => (clock.closed, clock)
  | .loadCancelEpoch => (clock.cancelEpoch, clock)
  | .bumpCancelEpoch => ((), { clock with cancelEpoch := clock.cancelEpoch + 1 })
  | call => (call.succeed, clock)

theorem Clock.respond_answers (cancelEpoch : Nat) (clock : Clock) (call : Call) :
    clock.Answers cancelEpoch ⟨call, (clock.respond call).1⟩ (clock.respond call).2 := by
  cases call with
  | waitFor nanos =>
    refine ⟨⟨Nat.le_add_right _ _, id, le_rfl⟩, .inl ?_⟩
    have long := Int.self_le_toNat nanos
    simp only [respond]
    omega
  | bumpCancelEpoch => exact ⟨⟨le_rfl, id, Nat.le_succ _⟩, trivial⟩
  | steadyClock => exact ⟨.refl _, rfl⟩
  | loadClosed => exact ⟨.refl _, rfl⟩
  | loadCancelEpoch => exact ⟨.refl _, rfl⟩
  | _ => exact ⟨.refl _, trivial⟩

namespace PaceState

def pace (state : PaceState) : List (Answer Environment Clock) × (Option Int × VirtualCameraSession) × Clock :=
  (VirtualCameraSession.paceFrame state.clock.cancelEpoch state.session).attend Clock.respond state.clock

def flush (state : PaceState) : List (Answer Environment Clock) × (Unit × VirtualCameraSession) × Clock :=
  (Interlude.flush.perform state.session).attend Clock.respond state.clock

theorem pace_step (state : PaceState) (timestamp : Int) (rated : 1 ≤ state.session.targetFps)
    (paced : state.pace.2.1.1 = some timestamp)
    (current : VirtualCameraSession.Current state.clock.cancelEpoch state.pace.1) :
    PaceStep state (.delivered ⟨state.clock.time, state.pace.2.2.time, frameDuration state.session.targetFps, timestamp⟩)
      ⟨state.pace.2.1.2, state.pace.2.2⟩ := by
  have served : Served (clockService state.clock.cancelEpoch) state.clock
      (VirtualCameraSession.paceFrame state.clock.cancelEpoch state.session) state.pace.1 state.pace.2.1 state.pace.2.2 :=
    Served.attend _ (Clock.respond_answers state.clock.cancelEpoch) _ _
  have shape : state.pace.2.1 = (some timestamp, state.pace.2.1.2) := Prod.ext paced rfl
  rw [shape] at served
  exact @PaceStep.delivered state ⟨state.pace.2.1.2, state.pace.2.2⟩ _ timestamp _ rated le_rfl served current

theorem flush_step (state : PaceState) (fresh : state.flush.2.1.2.nextFrameNs = 0) :
    PaceStep state (.reset .flush) ⟨state.flush.2.1.2, state.flush.2.2⟩ :=
  .reset 0 .flush (Served.attend (clockService 0) (Clock.respond_answers 0) _ _) rfl fresh

def woken : PaceState := ⟨.initial 0 none false 1 false, { time := 1000 }⟩

def first : PaceState := ⟨woken.pace.2.1.2, woken.pace.2.2⟩

def second : PaceState := ⟨first.pace.2.1.2, first.pace.2.2⟩

def flushed : PaceState := ⟨second.flush.2.1.2, second.flush.2.2⟩

end PaceState

open PaceState in
theorem pacing_law_flushed :
    PacingLaw [.delivered ⟨1000, 1000, 33333334, 1000⟩, .delivered ⟨1000, 33334334, 33333334, 33334334⟩,
      .reset .flush, .delivered ⟨33334334, 33334334, 33333334, 33334334⟩] := by
  have opened := woken.pace_step 1000 (by decide) rfl rfl
  have waited := first.pace_step 33334334 (by decide) rfl rfl
  have cleared := second.flush_step rfl
  have resumed := flushed.pace_step 33334334 (by decide) rfl rfl
  exact pacing_law 0 none false 1 false { time := 1000 } _ _
    ((((Run.single opened).snoc waited).snoc cleared).snoc resumed)

end VirtualCamera
