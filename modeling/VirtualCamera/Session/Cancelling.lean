import VirtualCamera.Session.LocalSteps
import VirtualCamera.Session.Progress

set_option autoImplicit false

namespace VirtualCamera

open Interaction Interaction.Process Interleaving Runs SessionSystem

namespace Progress

def begun (progress : Progress) : Bool := progress.looking || progress.live

def Spares (requests : List CaptureRequest) (progress : Progress) : Event Environment → Prop
  | ⟨.notify messages, reply⟩ =>
    ∃ request, requests[progress.completed]? = some request ∧ Untouched request ⟨.notify messages, reply⟩
  | ⟨.processCaptureResult results, reply⟩ =>
    ∃ request, requests[progress.completed]? = some request ∧ Untouched request ⟨.processCaptureResult results, reply⟩
  | ⟨call, _⟩ => call.touches = false

-- The current request is the one that had begun when the batch stood at `start`.
def Excused (start progress : Progress) : Prop :=
  progress.completed = start.completed ∧ start.begun = true

def discarding (requests : List CaptureRequest) (start : Progress) : Monitor Environment Progress :=
  { observe, permits := fun progress event => Excused start progress ∨ Spares requests progress event }

def Unwanted (flags : Flags) (progress : Progress) : Prop :=
  flags.closed = true ∨ (∃ epoch, progress.epoch = some epoch ∧ epoch < flags.cancelEpoch) ∨
    progress.epoch = none ∧ (progress.checked = some true ∨ progress.checked = none ∧ flags.flushing = true)

structure Interrupted (start : Progress) (flags : Flags) (progress : Progress) : Prop where
  unwanted : Unwanted flags progress
  live : progress.live = true → Excused start progress
  looking : progress.looking = true →
    Excused start progress ∨ ∃ epoch, progress.epoch = some epoch ∧ epoch < flags.cancelEpoch

variable {requests : List CaptureRequest} {start progress : Progress} {flags : Flags}

theorem Interrupted.begins (unwanted : Unwanted flags progress) : Interrupted progress flags progress := by
  refine ⟨unwanted, fun live => ⟨rfl, ?_⟩, fun looking => .inl ⟨rfl, ?_⟩⟩
  · rw [begun, live, Bool.or_true]
  · rw [begun, looking, Bool.true_or]

theorem Unwanted.requested (unwanted : Unwanted flags progress) {call : Call} (entering : Call.entering call = true) :
    Unwanted (flags.after call) progress := by
  rcases unwanted with closed | ⟨epoch, started, older⟩ | ⟨early, found | ⟨unchecked, flushing⟩⟩
  · exact .inl (flags.after_closed call closed)
  · exact .inr (.inl ⟨epoch, started, older.trans_le (flags.after_cancelEpoch call)⟩)
  · exact .inr (.inr ⟨early, .inl found⟩)
  · refine .inr (.inr ⟨early, .inr ⟨unchecked, ?_⟩⟩)
    cases call with
    | storeFlushing now =>
      cases now
      case false => cases entering
      case true => rfl
    | exchangeClosed | bumpCancelEpoch => exact flushing
    | _ => cases entering

theorem Interrupted.requested (interrupted : Interrupted start flags progress) {call : Call}
    (entering : Call.entering call = true) : Interrupted start (flags.after call) progress := by
  refine ⟨interrupted.unwanted.requested entering, interrupted.live, fun looking => ?_⟩
  refine (interrupted.looking looking).imp_right ?_
  rintro ⟨epoch, started, older⟩
  exact ⟨epoch, started, older.trans_le (flags.after_cancelEpoch call)⟩

theorem Interrupted.spares (interrupted : Interrupted start flags progress) (call : Call) (reply : call.Reply)
    (permitted : permits requests progress ⟨call, reply⟩) : (discarding requests start).permits progress ⟨call, reply⟩ := by
  have answered : ∀ event : Event Environment,
      (∃ request, requests[progress.completed]? = some request ∧ (progress.live = true ∨ Untouched request event)) →
      Excused start progress ∨ ∃ request, requests[progress.completed]? = some request ∧ Untouched request event := by
    rintro event ⟨request, present, live | untouched⟩
    · exact .inl (interrupted.live live)
    · exact .inr ⟨request, present, untouched⟩
  have written : ∀ touches : Bool, (touches = true → progress.live = true) → Excused start progress ∨
    touches = false := by
    intro touches live
    cases touches
    case false => exact .inr rfl
    case true => exact .inl (interrupted.live (live rfl))
  cases call with
  | notify messages => exact answered _ permitted.2
  | processCaptureResult results => exact answered _ permitted.2
  | storeFlushing flushing => cases permitted
  | loadCancelEpoch => exact .inr rfl
  | _ => exact written _ permitted

-- The batch's own calls do not make it wanted again, for the atomics answer what they hold.
theorem Interrupted.called {id : Nat} {shared : Shared} (interrupted : Interrupted start (shared.flags id) progress)
    (choice : (call : Call) → call.Reply) (call : Call)
    (permitted : permits requests progress ⟨call, (respond id shared choice call).1⟩) :
    Interrupted start ((shared.flags id).after call) (observe progress ⟨call, (respond id shared choice call).1⟩) := by
  obtain ⟨unwanted, live, looking⟩ := interrupted
  cases call with
  | storeFlushing flushing => cases permitted
  | exchangeClosed | storeClosed => exact ⟨.inl rfl, live, looking⟩
  | bumpCancelEpoch =>
    have entering : Call.entering .bumpCancelEpoch = true := rfl
    have interrupted : Interrupted start (shared.flags id) progress := ⟨unwanted, live, looking⟩
    exact interrupted.requested entering
  | processCaptureResult results => exact ⟨unwanted, nofun, nofun⟩
  | loadClosed =>
    refine ⟨unwanted, live, fun looks => .inr ?_⟩
    obtain ⟨started, opened⟩ := (Bool.and_eq_true _ _).mp looks
    rcases unwanted with closed | older | ⟨early, _⟩
    · simp [respond, closed] at opened
    · exact older
    · simp [early] at started
  | loadFlushing =>
    refine ⟨?_, live, looking⟩
    rcases unwanted with closed | older | ⟨early, found | ⟨unchecked, flushing⟩⟩
    · exact .inl closed
    · exact .inr (.inl older)
    · exact .inr (.inr ⟨early, .inl (by simp [observe, found])⟩)
    · exact .inr (.inr ⟨early, .inl (by simp [observe, unchecked, respond, flushing])⟩)
  | loadCancelEpoch =>
    cases started : progress.epoch with
    | none =>
      have found : progress.checked = some false := permitted started
      simp only [observe, started]
      refine ⟨.inl ?_, live, fun looks => .inl ((looking looks).resolve_right (by simp [started]))⟩
      rcases unwanted with closed | older | ⟨_, stopped⟩
      · exact closed
      · simp [started] at older
      · simp [found] at stopped
    | some epoch =>
      simp only [observe, started]
      refine ⟨?_, fun lives => ?_, ?_⟩
      · rw [Unwanted, started] at unwanted
        exact unwanted
      · simp only [Bool.or_eq_true, Bool.and_eq_true, beq_iff_eq] at lives
        rcases lives with lives | ⟨looks, same⟩
        · exact live lives
        · refine (looking looks).resolve_right ?_
          rintro ⟨older, started', less⟩
          obtain rfl := Option.some.inj (started.symm.trans started')
          exact less.ne same.symm
      · rw [started] at looking
        exact looking
  | _ => exact ⟨unwanted, live, looking⟩

end Progress

namespace SessionSystem

def batch (requests : List CaptureRequest) (activity : SessionActivity) : Progress :=
  (Progress.monitor requests).follow {} activity.current

variable {world after : SessionWorld} {label : SessionLabel} {id : Nat} {before activity : SessionActivity}
  {requests : List CaptureRequest} {caches : List BufferCache}

theorem batch_snoc (bounded : activity.start ≤ activity.trace.length) (event : Event Environment)
    (serving : Option (Option FrameworkCall × Program Environment (FrameworkReply × VirtualCameraSession))) :
    batch requests { activity with serving, trace := activity.trace ++ [event] } =
      (batch requests activity).observe event := by
  rw [batch, Activity.current_snoc _ _ _ bounded, Monitor.follow_append]
  rfl

theorem Regular.batch_obeys (regular : Regular world) (found : world.objects id = some activity)
    {program : Program Environment (FrameworkReply × VirtualCameraSession)}
    (serves : activity.serving = some (some (.processCaptureRequest requests caches), program)) :
    program.Obeys (Progress.monitor requests) (batch requests activity) fun out final =>
      ∀ outcome processed, out.1 = .captured outcome processed → processed = final.completed := by
  obtain ⟨ticket, own, reaches⟩ := (regular.reached id activity found).serving _ _ serves
  have served : (serve (.processCaptureRequest requests caches) ticket).wp (Progress.monitor requests) own {}
      fun reply _ final => ∀ outcome processed, reply = .captured outcome processed →
        processed = final.completed := by
    simp only [serve, wp_bind]
    refine (Progress.processCaptureRequest_progress caches own).mono fun out _ _ completed => ?_
    rintro outcome processed ⟨_, rfl⟩
    exact completed.symm
  exact (served.reaches reaches).2

theorem epochs_step (regular : Regular world) (next : sessions.Step world label after)
    (holds : ∀ id activity, world.objects id = some activity → ∀ requests caches program,
      activity.serving = some (some (.processCaptureRequest requests caches), program) →
      ∀ epoch, (batch requests activity).epoch = some epoch → epoch ≤ (world.shared.flags id).cancelEpoch)
    (id : Nat) (activity : SessionActivity) (found : after.objects id = some activity)
    (requests : List CaptureRequest) (caches : List BufferCache)
    (program : Program Environment (FrameworkReply × VirtualCameraSession))
    (serves : activity.serving = some (some (.processCaptureRequest requests caches), program)) (epoch : Nat)
    (started : (batch requests activity).epoch = some epoch) : epoch ≤ (after.shared.flags id).cancelEpoch := by
  have move := step_local next found
  clear found
  cases move with
  | still label activity found same elsewhere =>
    rw [same]
    exact holds id activity found requests caches program serves epoch started
  | born options absent same => cases serves
  | entered op activity found same =>
    rw [same]
    exact holds id activity found requests caches program serves epoch started
  | requested index choice activity op call rest found asks moved =>
    have flags : after.shared.flags id = (world.shared.flags id).after call := by rw [moved, respond_own_flags]
    rw [flags]
    exact (holds id activity found requests caches program serves epoch started).trans (Flags.after_cancelEpoch _ _)
  | locked index activity op ticket found waits free same =>
    rw [batch, Activity.current, List.drop_length] at started
    cases started
  | called choice activity op call rest found serves' moved =>
    obtain ⟨rfl, rfl⟩ := Prod.mk.inj (Option.some.inj serves)
    have earlier := holds id activity found requests caches _ serves'
    have flags : after.shared.flags id = (world.shared.flags id).after call := by rw [moved, respond_own_flags]
    rw [flags]
    rw [batch_snoc (regular.reached id activity found).bounded] at started
    cases call with
    | loadCancelEpoch =>
      cases present : (batch requests activity).epoch with
      | none =>
        simp only [Progress.observe, present] at started
        exact (Option.some.inj started).ge
      | some old =>
        simp only [Progress.observe, present] at started
        exact earlier epoch (present.trans started)
    | bumpCancelEpoch => exact (earlier epoch started).trans (Nat.le_succ _)
    | _ => exact earlier epoch started
  | left activity op value own found serves' same => cases serves

structure Cut (requests : List CaptureRequest) (caches : List BufferCache) (before : SessionActivity) (flags : Flags)
    (activity : SessionActivity) : Prop where
  serves : ∃ program, activity.serving = some (some (.processCaptureRequest requests caches), program)
  discards : ∃ later, activity.current = before.current ++ later ∧
    (Progress.discarding requests (batch requests before)).Accepts (batch requests before) later
  interrupted : Progress.Interrupted (batch requests before) flags (batch requests activity)

theorem cut_step (regular : Regular world) (next : sessions.Step world label after) (stays : label ≠ .leave id)
    (found : world.objects id = some activity)
    (cut : Cut requests caches before (world.shared.flags id) activity) :
    ∃ activity', after.objects id = some activity' ∧
      Cut requests caches before (after.shared.flags id) activity' := by
  have there : (world.objects id).isSome = true := by simp [found]
  obtain ⟨activity', present⟩ := Option.isSome_iff_exists.mp (System.step_present next there)
  refine ⟨activity', present, ?_⟩
  obtain ⟨⟨program, serves⟩, ⟨later, shape, accepts⟩, interrupted⟩ := cut
  have move := step_local next present
  clear present
  cases move with
  | still label other found' same elsewhere =>
    obtain rfl := Option.some.inj (found.symm.trans found')
    rw [same]
    exact ⟨⟨program, serves⟩, ⟨later, shape, accepts⟩, interrupted⟩
  | born options absent same => simp [absent] at found
  | entered op other found' same =>
    obtain rfl := Option.some.inj (found.symm.trans found')
    rw [same]
    exact ⟨⟨program, serves⟩, ⟨later, shape, accepts⟩, interrupted⟩
  | requested index choice other op call rest found' asks moved =>
    obtain rfl := Option.some.inj (found.symm.trans found')
    have flags : after.shared.flags id = (world.shared.flags id).after call := by rw [moved, respond_own_flags]
    obtain ⟨events, reaches⟩ := (regular.reached id activity found).entering _ _ (List.mem_of_getElem? asks)
    rw [flags]
    exact ⟨⟨program, serves⟩, ⟨later, shape, accepts⟩, interrupted.requested (request_entering reaches)⟩
  | locked index other op ticket found' waits free same =>
    obtain rfl := Option.some.inj (found.symm.trans found')
    simp [free] at serves
  | called choice other op call rest found' serves' moved =>
    obtain rfl := Option.some.inj (found.symm.trans found')
    obtain ⟨rfl, rfl⟩ := Prod.mk.inj (Option.some.inj (serves.symm.trans serves'))
    have bounded := (regular.reached id activity found).bounded
    have permitted := (regular.batch_obeys found serves (respond id world.shared choice call).1).1
    have flags : after.shared.flags id = (world.shared.flags id).after call := by rw [moved, respond_own_flags]
    have stands : batch requests activity = (Progress.discarding requests (batch requests before)).follow
        (batch requests before) later := by
      rw [batch, shape, Monitor.follow_append]
      rfl
    refine ⟨⟨_, rfl⟩, ⟨later ++ [⟨call, (respond id world.shared choice call).1⟩], ?_, ?_⟩, ?_⟩
    · rw [Activity.current_snoc _ _ _ bounded, shape, List.append_assoc]
    · refine (Monitor.accepts_append _ _ _ _).mpr ⟨accepts, ?_, trivial⟩
      rw [← stands]
      exact interrupted.spares call _ permitted
    · rw [batch_snoc bounded, flags]
      exact interrupted.called choice call permitted
  | left other op value own found' serves' same => exact absurd rfl stays

end SessionSystem

end VirtualCamera
