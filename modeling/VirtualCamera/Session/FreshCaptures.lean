import VirtualCamera.Session.Exposures
import VirtualCamera.Session.HalSteps
import VirtualCamera.Session.LocalSteps
import VirtualCamera.Session.Sightings

set_option autoImplicit false

namespace VirtualCamera

open Interaction Interleaving Runs StableHal

def Frame.shot (frame : Frame) : Shot := { token := frame.configurationToken, sequence := frame.sequence }

def Sight.shot (sight : Sight) : Shot := { token := sight.token, sequence := sight.source.sequence }

def Sight.subject (sight : Sight) : Int × Int × Acquired := (sight.slot, sight.token, sight.source)

inductive Sight.Turns (seen : Option Sight) (sight : Sight) : Event Environment → Prop where
  | kept (event : Event Environment) (before : Sight) (known : seen = some before)
      (same : sight.subject = before.subject) (current : sight.current = before.current)
      (rendered : sight.rendered = before.rendered) : Turns seen sight event
  | acquired (event : Event Environment) (unseen : sight.current = false) (untouched : sight.rendered = []) :
      Turns seen sight event
  | looked (slot : Int) (buffer : Ahb) (sequence : Nat) (token : Int) (current : Bool) (before : Sight)
      (known : seen = some before) (same : sight.subject = before.subject)
      (found : sight.current = true →
        before.signalled = true ∧ current = true ∧ before.asks slot buffer sequence token = true)
      (rendered : sight.rendered = before.rendered) :
      Turns seen sight ⟨.hal (.isFrameCurrent slot buffer sequence token), current⟩
  | rendered (output : Nat) (before : Sight) (known : seen = some before) (same : sight.subject = before.subject)
      (unseen : sight.current = false) (added : sight.rendered = output :: before.rendered) :
      Turns seen sight ⟨.renderAttempt output, ()⟩

theorem Sight.turns {seen : Option Sight} {event : Event Environment} {sight : Sight}
    (observed : Sight.observe seen event = some sight) : Sight.Turns seen sight event := by
  obtain ⟨call, reply⟩ := event
  cases call with
  | hal call =>
    cases call with
    | acquireLatest slot afterSequence token =>
      obtain ⟨source, _, rfl⟩ := Option.map_eq_some_iff.mp observed
      exact .acquired _ rfl rfl
    | isFrameCurrent slot buffer sequence token =>
      obtain ⟨before, known, rfl⟩ := Option.map_eq_some_iff.mp observed
      refine .looked slot buffer sequence token reply before known rfl (fun current => ?_) rfl
      obtain ⟨⟨signalled, answered⟩, asked⟩ := (Bool.and_eq_true_iff.mp current).imp_left Bool.and_eq_true_iff.mp
      exact ⟨signalled, answered, asked⟩
    | releaseFrame slot buffer fences => cases observed
    | _ => exact .kept _ sight observed rfl rfl rfl
  | syncWait fd timeout =>
    obtain ⟨before, known, rfl⟩ := Option.map_eq_some_iff.mp observed
    exact .kept _ before known rfl rfl rfl
  | renderAttempt output =>
    obtain ⟨before, known, rfl⟩ := Option.map_eq_some_iff.mp observed
    exact .rendered output before known rfl rfl rfl
  | notify messages =>
    obtain ⟨before, known, rfl⟩ := Option.map_eq_some_iff.mp observed
    exact .kept _ before known rfl rfl rfl
  | _ => exact .kept _ sight observed rfl rfl rfl

theorem HalWorld.accepts_counted {world : HalWorld} {event : HalEvent} {slot : Slot} {frame : Submission}
    (accepts : event.accepts world = some (slot, frame)) :
    (world.perform event).hal.framesReceived = world.hal.framesReceived + 1 := by
  have counted (chosen : Slot) (submitted : Submission) (result : EnqueueResult × StableHal)
      (enqueued : Enqueued world.hal chosen submitted result)
      (accepted : acceptedBy chosen submitted result.1 = some (slot, frame)) :
      result.2.framesReceived = world.hal.framesReceived + 1 := by
    cases enqueued with
    | rejected => cases accepted
    | waiting => cases accepted
    | accepted middle passes control admitted idle single => rw [swap_framesReceived, passes.framesReceived]
  cases event with
  | enqueue chosen handle imported width height format timestampNs acquireFence configurationToken =>
    rw [perform, answer_hal]
    exact counted _ _ _ (enqueue_enqueued world.hal chosen handle imported width height format timestampNs
      acquireFence configurationToken) accepts
  | wake chosen submitted timedOut =>
    rw [perform, answer_hal]
    exact counted _ _ _ (enqueueWake_enqueued world.hal chosen submitted timedOut) accepts
  | _ => cases accepts

namespace SessionSystem

def exposures (activity : SessionActivity) : Exposures := activity.view Exposures.monitor Exposures.fresh

def Takes (world : SessionWorld) (label : SessionLabel) (slot : Slot) (shot : Shot) : Prop :=
  ∃ event frame, label = .outside (.hal event) ∧ event.accepts world.shared.world = some (slot, frame) ∧
    shot.token = frame.configurationToken ∧ shot.sequence = world.shared.hal.framesReceived + 1

def Taken (provider : Bool) (outcome : Nat → Bool) (labels : List SessionLabel) (slot : Slot) (shot : Shot) : Prop :=
  ∃ before label since, Happened sessions.Step (boot provider outcome) labels before label since ∧
    Takes before label slot shot

variable {provider : Bool} {outcome : Nat → Bool} {labels : List SessionLabel} {world after : SessionWorld}
  {label : SessionLabel} {slot : Slot} {shot : Shot} {id : Nat} {activity : SessionActivity}

theorem Taken.snoc (taken : Taken provider outcome labels slot shot) (label : SessionLabel) :
    Taken provider outcome (labels ++ [label]) slot shot := by
  obtain ⟨before, taking, since, happened, takes⟩ := taken
  exact ⟨before, taking, since ++ [label], happened.snoc label, takes⟩

structure Offers (world : SessionWorld) (label : SessionLabel) (shared : Shared) : Prop where
  received : world.shared.hal.framesReceived ≤ shared.hal.framesReceived
  offered : ∀ slot, ¬ (shared.hal.latest slot).Gone →
    (¬ (world.shared.hal.latest slot).Gone ∧ (world.shared.hal.latest slot).Same (shared.hal.latest slot)) ∨
      Takes world label slot (shared.hal.latest slot).shot

theorem Offers.of_passes {shared : Shared} (passes : Passes world.shared.hal shared.hal) :
    Offers world label shared :=
  ⟨passes.framesReceived.ge, fun slot offered => .inl (passes.offered slot offered)⟩

theorem Offers.of_quiet {shared : Shared} (quiet : Quiet world.shared.hal shared.hal) : Offers world label shared :=
  ⟨quiet.framesReceived.ge, fun slot offered => .inl (quiet.offered slot offered)⟩

theorem HalStep.offers {shared : Shared} (step : HalStep world label shared) : Offers world label shared := by
  cases step with
  | silent _ _ same sent =>
    have hal : shared.hal = world.shared.hal := congrArg HalWorld.hal same
    refine ⟨by rw [hal], fun slot offered => .inl ?_⟩
    rw [hal] at offered ⊢
    exact ⟨offered, rfl, rfl, rfl, rfl⟩
  | called id choice activity op call next found serves _ hal sent =>
    have answered : shared.hal = (call.answer world.shared.hal).2 := congrArg HalWorld.hal hal
    rcases call.evolves world.shared.hal with ⟨control, _, runs⟩ | ⟨_, quiet⟩
    · exact .of_passes (answered.trans runs ▸ control.passes world.shared.hal)
    · exact .of_quiet (answered ▸ quiet)
  | outside event foreign allowed _ hal sent =>
    have performed : shared.hal = (world.shared.world.perform event).hal := congrArg HalWorld.hal hal
    rcases world.shared.world.perform_evolves event with ⟨control, rfl, runs⟩ | ⟨_, evolves⟩
    · exact .of_passes (performed.trans runs ▸ control.passes world.shared.hal)
    · rw [← performed] at evolves
      cases evolves with
      | quiet quiet => exact .of_quiet quiet
      | stored slot frame chosen admitted control received latest offered =>
        refine ⟨received ▸ Nat.le_succ _, fun other present => ?_⟩
        by_cases same : other = slot
        next =>
          subst same
          refine .inr ⟨event, frame, rfl, chosen, ?_, ?_⟩
          · rw [latest]
            rfl
          · rw [latest]
            rfl
        next => exact .inl (offered other same present)

theorem Takes.counts (takes : Takes world label slot shot) (next : sessions.Step world label after) :
    shot.sequence = after.shared.hal.framesReceived := by
  obtain ⟨event, frame, rfl, accepts, _, sequence⟩ := takes
  cases next with
  | outside change shared changes =>
    change SessionSystem.change world.shared (.hal event) = some shared at changes
    simp only [SessionSystem.change] at changes
    split at changes
    next =>
      obtain rfl := Option.some.inj changes
      exact sequence.trans (HalWorld.accepts_counted accepts).symm
    next => cases changes

theorem run_received (run : Run sessions.Step (boot provider outcome) labels world) {rest : List SessionLabel}
    (later : Run sessions.Step world rest after) :
    world.shared.hal.framesReceived ≤ after.shared.hal.framesReceived := by
  induction later with
  | refl => exact le_rfl
  | snoc earlier next ih =>
    have regular := regular provider outcome (run.append earlier)
    exact ih.trans (regular.halStep next).offers.received

theorem Taken.unique (run : Run sessions.Step (boot provider outcome) labels world) {other : Slot} {again : Shot}
    (first : Taken provider outcome labels slot shot) (second : Taken provider outcome labels other again)
    (same : shot.sequence = again.sequence) : slot = other ∧ shot.token = again.token := by
  have above {slot other : Slot} {shot again : Shot} {before before' : SessionWorld} {label label' : SessionLabel}
      {since since' : List SessionLabel}
      (happened : Happened sessions.Step (boot provider outcome) labels before label since)
      (takes : Takes before label slot shot)
      (happened' : Happened sessions.Step (boot provider outcome) labels before' label' since')
      (takes' : Takes before' label' other again) (shorter : since'.length < since.length) :
      shot.sequence < again.sequence := by
    obtain ⟨early, rfl, reached⟩ := happened
    obtain ⟨between, _, reached'⟩ := happened'.later shorter
    obtain ⟨middle, first, later⟩ := (show Run _ _ (early ++ (label :: between)) _ from reached').split
    obtain ⟨next, taken, rest⟩ := (show Run _ _ ([label] ++ between) _ from later).split
    obtain rfl := reached.unique System.step_deterministic first
    have counted := takes.counts taken.of_single
    have grown := run_received (reached.snoc taken.of_single) rest
    obtain ⟨_, _, _, _, _, sequence⟩ := takes'
    omega
  obtain ⟨before, label, since, happened, takes⟩ := first
  obtain ⟨before', label', since', happened', takes'⟩ := second
  rcases Nat.lt_trichotomy since.length since'.length with shorter | equal | longer
  · have := above happened' takes' happened takes shorter
    omega
  · obtain ⟨early, split, reached⟩ := happened
    obtain ⟨early', split', reached'⟩ := happened'
    obtain ⟨rfl, rest⟩ := List.append_inj' (split.symm.trans split') (by simp [equal])
    obtain ⟨rfl, rfl⟩ := List.cons.inj rest
    obtain rfl := reached.unique System.step_deterministic reached'
    obtain ⟨event, frame, rfl, accepts, token, _⟩ := takes
    obtain ⟨event', frame', labelled, accepts', token', _⟩ := takes'
    cases labelled
    obtain ⟨rfl, rfl⟩ := Prod.mk.inj (Option.some.inj (accepts.symm.trans accepts'))
    exact ⟨rfl, token.trans token'.symm⟩
  · have := above happened takes happened' takes' longer
    omega

theorem exposures_slot (activity : SessionActivity) : (exposures activity).slot = (activity.birth.slot : Nat) := by
  have kept (events : List (Event Environment)) (seen : Exposures) :
      (Exposures.monitor.follow seen events).slot = seen.slot := by
    induction events generalizing seen with
    | nil => rfl
    | cons event events ih => exact (ih _).trans (seen.observe_slot event)
  exact kept activity.trace _

theorem exposures_tokens (activity : SessionActivity) : (exposures activity).tokens = (ledger activity).tokens := by
  have step (event : Event Environment) (seen : Exposures) (known : Ledger) (same : seen.tokens = known.tokens) :
      (seen.observe event).tokens = (known.observe event).tokens := by
    obtain ⟨call, reply⟩ := event
    cases call with
    | hal call =>
      cases call with
      | notifyStreamsConfigured slot owner width height fps =>
        by_cases issued : 0 < (reply : Int) <;> simp [Exposures.observe, Ledger.observe, issued, same]
      | acquireLatest slot afterSequence token => cases reply <;> exact same
      | _ => exact same
    | notify messages =>
      simp only [Exposures.observe, Ledger.observe]
      split <;> exact same
    | _ => exact same
  have kept (events : List (Event Environment)) (seen : Exposures) (known : Ledger)
      (same : seen.tokens = known.tokens) :
      (Exposures.monitor.follow seen events).tokens = (Ledger.monitor.follow known events).tokens := by
    induction events generalizing seen known with
    | nil => exact same
    | cons event events ih => exact ih _ _ (step event seen known same)
  exact kept activity.trace _ _ rfl

theorem exposing (run : Run sessions.Step (boot provider outcome) labels world)
    (found : world.objects id = some activity) :
    activity.Follows Exposures.monitor Exposures.fresh Exposures.Abreast := by
  refine Exposures.discipline.run run (fun id activity found => ?_) id activity found
  have none : (boot provider outcome).objects id = none := rfl
  simp [none] at found

structure Traced (provider : Bool) (outcome : Nat → Bool) (labels : List SessionLabel) (world : SessionWorld) :
    Prop where
  offered : ∀ slot, ¬ (world.shared.hal.latest slot).Gone →
    Taken provider outcome labels slot (world.shared.hal.latest slot).shot
  newer : ∀ id activity, world.objects id = some activity → (exposures activity).newer = true
  shots : ∀ id activity, world.objects id = some activity → ∀ shot,
    (exposures activity).held = some shot ∨ shot ∈ (exposures activity).shown →
      Taken provider outcome labels activity.birth.slot shot

theorem acquireLatest_traced {slot : Int} {afterSequence : Nat} {token : Int} {source : Acquired} {hal : StableHal}
    (answered : (hal.acquireLatest slot true true afterSequence token).1 = some source) :
    afterSequence < source.sequence ∧ ∃ index : Slot, slot = (index : Nat) ∧ ¬ (hal.latest index).Gone ∧
      (hal.latest index).shot = { token, sequence := source.sequence } := by
  have read := hal.acquireLatest_read slot true true afterSequence token
  generalize hal.acquireLatest slot true true afterSequence token = result at answered read
  cases read with
  | refused => cases answered
  | granted index middle ahb fence kernel valid passes control current permitted present live newer copied =>
    cases answered
    have offered : ¬ (middle.latest index).Gone := by simp [Frame.Gone, present, live]
    obtain ⟨before, _, _, sequence, token⟩ := passes.offered index offered
    refine ⟨newer rfl, index, validSlot_eq_some valid, before, ?_⟩
    rw [Frame.shot, ← sequence, ← token, current]

theorem traced (run : Run sessions.Step (boot provider outcome) labels world) :
    Traced provider outcome labels world := by
  induction run with
  | refl =>
    have latest : ∀ slot, (boot provider outcome).shared.hal.latest slot = {} := fun _ => rfl
    have objects : ∀ id, (boot provider outcome).objects id = none := fun _ => rfl
    refine ⟨fun slot offered => ?_, fun id activity found => ?_, fun id activity found => ?_⟩
    · exact absurd (.inl (by rw [latest])) offered
    · simp [objects] at found
    · simp [objects] at found
  | @snoc past middle after label earlier next holds =>
    have step := (regular provider outcome earlier).halStep next
    have shots : ∀ id activity, after.objects id = some activity → (exposures activity).newer = true ∧ ∀ shot,
        (exposures activity).held = some shot ∨ shot ∈ (exposures activity).shown →
          Taken provider outcome (past ++ [label]) activity.birth.slot shot := by
      intro id activity found
      have moved := step_local next found
      have kept {before moved : SessionActivity} (present : middle.objects id = some before)
          (birth : moved.birth = before.birth) (trace : moved.trace = before.trace) :
          (exposures moved).newer = true ∧ ∀ shot,
            (exposures moved).held = some shot ∨ shot ∈ (exposures moved).shown →
              Taken provider outcome (past ++ [label]) moved.birth.slot shot := by
        have same : exposures moved = exposures before := by simp only [exposures, Activity.view, birth, trace]
        rw [same, birth]
        exact ⟨holds.newer id before present, fun shot known => (holds.shots id before present shot known).snoc label⟩
      cases moved with
      | still label activity present => exact kept present rfl rfl
      | entered op before present => exact kept present rfl rfl
      | requested index choice before op call rest present => exact kept present rfl rfl
      | locked index before op ticket present => exact kept present rfl rfl
      | left before op value own present => exact kept present rfl rfl
      | born options absent =>
        refine ⟨rfl, fun shot known => ?_⟩
        simp [exposures, Activity.view, System.newborn, Exposures.fresh] at known
      | called choice before op call rest present serves moved =>
        have permitted := ((exposing earlier present).busy op _ serves (respond id middle.shared choice call).1).1
        have answered {slot : Int} {afterSequence : Nat} {token : Int} {source : Acquired}
            (asked : (⟨call, (respond id middle.shared choice call).1⟩ : Event Environment) =
              ⟨.hal (.acquireLatest slot afterSequence token), some source⟩) :
            afterSequence < source.sequence ∧
              Taken provider outcome past before.birth.slot { token, sequence := source.sequence } := by
          rw [asked] at permitted
          obtain ⟨rfl, replied⟩ := Sigma.mk.inj asked
          obtain ⟨newer, index, here, offered, same⟩ := acquireLatest_traced (eq_of_heq replied)
          have own : slot = (before.birth.slot : Nat) := permitted.1.trans (exposures_slot before)
          obtain rfl : index = before.birth.slot := Fin.ext (by omega)
          exact ⟨newer, same ▸ holds.offered _ offered⟩
        rw [exposures, Activity.view_snoc]
        constructor
        next =>
          refine ((exposures before).observe_newer _ (holds.newer id before present)).resolve_right ?_
          rintro ⟨slot, afterSequence, token, source, asked, older⟩
          exact older (answered asked).1
        next =>
          intro shot known
          rcases (exposures before).observe_shots _ known with older | ⟨slot, afterSequence, token, source, asked, rfl⟩
          · exact (holds.shots id before present shot older).snoc _
          · exact (answered asked).2.snoc _
    refine ⟨fun slot offered => ?_, fun id activity found => (shots id activity found).1, fun id activity found =>
      (shots id activity found).2⟩
    rcases step.offers.offered slot offered with ⟨before, _, _, sequence, token⟩ | takes
    · have same : (after.shared.hal.latest slot).shot = (middle.shared.hal.latest slot).shot := by
        rw [Frame.shot, Frame.shot, sequence, token]
      rw [same]
      exact (holds.offered slot before).snoc label
    · exact ⟨middle, label, [], .last earlier label, takes⟩

def sighting (activity : SessionActivity) : Option Sight := activity.view Sight.monitor fun _ => none

theorem sightings (run : Run sessions.Step (boot provider outcome) labels world)
    (found : world.objects id = some activity) :
    activity.Follows Sight.monitor (fun _ => none) Sight.Idle := by
  refine Sight.discipline.run run (fun id activity found => ?_) id activity found
  have none : (boot provider outcome).objects id = none := rfl
  simp [none] at found

def Makes (world : SessionWorld) (label : SessionLabel) (id : Nat) (call : Call) : Prop :=
  ∃ choice activity op next, label = .call id choice ∧ world.objects id = some activity ∧
    activity.serving = some (op, .call call next)

-- The session holds the submission with its fence signalled, and it is still the current frame of the slot, under a
-- token that is still the slot's.
def Current (world : SessionWorld) (id : Nat) (sight : Sight) : Prop :=
  (∃ activity seen, world.objects id = some activity ∧ sighting activity = some seen ∧ seen.subject = sight.subject ∧
    seen.signalled = true) ∧
  world.shared.hal.isFrameCurrent sight.slot sight.source.ahb sight.source.sequence sight.token = true

def Looked (provider : Bool) (outcome : Nat → Bool) (labels : List SessionLabel) (id : Nat) (sight : Sight) : Prop :=
  ∃ before label since, Happened sessions.Step (boot provider outcome) labels before label since ∧
    Current before id sight

def Drawn (provider : Bool) (outcome : Nat → Bool) (labels : List SessionLabel) (id : Nat) (sight : Sight)
    (output : Nat) : Prop :=
  ∃ early before label since, labels = early ++ label :: since ∧
    Run sessions.Step (boot provider outcome) early before ∧
    Makes before label id (.renderAttempt output) ∧ Looked provider outcome early id sight

variable {sight other : Sight} {output : Nat}

theorem Looked.snoc (looked : Looked provider outcome labels id sight) (label : SessionLabel) :
    Looked provider outcome (labels ++ [label]) id sight := by
  obtain ⟨before, taken, since, happened, current⟩ := looked
  exact ⟨before, taken, since ++ [label], happened.snoc label, current⟩

theorem Drawn.snoc (drawn : Drawn provider outcome labels id sight output) (label : SessionLabel) :
    Drawn provider outcome (labels ++ [label]) id sight output := by
  obtain ⟨early, before, taken, since, split, reached⟩ := drawn
  exact ⟨early, before, taken, since ++ [label], by simp [split], reached⟩

theorem Looked.congr (looked : Looked provider outcome labels id sight) (same : other.subject = sight.subject) :
    Looked provider outcome labels id other := by
  obtain ⟨before, label, since, happened, known, current⟩ := looked
  obtain ⟨slot, token, source⟩ : other.slot = sight.slot ∧ other.token = sight.token ∧
    other.source = sight.source := by
    simpa [Sight.subject] using same
  refine ⟨before, label, since, happened, ?_, by rw [slot, token, source]; exact current⟩
  rw [same]
  exact known

theorem Drawn.congr (drawn : Drawn provider outcome labels id sight output) (same : other.subject = sight.subject) :
    Drawn provider outcome labels id other output := by
  obtain ⟨early, before, label, since, split, reached, makes, looked⟩ := drawn
  exact ⟨early, before, label, since, split, reached, makes, looked.congr same⟩

structure Watchful (provider : Bool) (outcome : Nat → Bool) (labels : List SessionLabel) (id : Nat)
    (sight : Sight) : Prop where
  looked : sight.current = true → Looked provider outcome labels id sight
  drawn : ∀ output ∈ sight.rendered, Drawn provider outcome labels id sight output

theorem Watchful.snoc (watchful : Watchful provider outcome labels id sight) (label : SessionLabel) :
    Watchful provider outcome (labels ++ [label]) id sight :=
  ⟨fun current => (watchful.looked current).snoc label, fun output member =>
    (watchful.drawn output member).snoc label⟩

theorem Watchful.congr (watchful : Watchful provider outcome labels id sight) (same : other.subject = sight.subject)
    (current : other.current = sight.current) (rendered : other.rendered = sight.rendered) :
    Watchful provider outcome labels id other := by
  refine ⟨fun now => (watchful.looked (current ▸ now)).congr same, fun output member => ?_⟩
  rw [rendered] at member
  exact (watchful.drawn output member).congr same

-- The step lemma is the call: the HAL's own answer is the look, and the monitor asks for one before each rendering.
theorem watchful (run : Run sessions.Step (boot provider outcome) labels world) :
    ∀ id activity sight, world.objects id = some activity → sighting activity = some sight →
      Watchful provider outcome labels id sight := by
  induction run with
  | refl =>
    have objects : ∀ id, (boot provider outcome).objects id = none := fun _ => rfl
    intro id activity sight found
    simp [objects] at found
  | @snoc past middle after label earlier next holds =>
    intro id activity sight found seen
    have moved := step_local next found
    have kept {before moved : SessionActivity} (present : middle.objects id = some before)
        (trace : moved.trace = before.trace) (seen : sighting moved = some sight) :
        Watchful provider outcome (past ++ [label]) id sight := by
      rw [sighting, Activity.view, trace] at seen
      exact (holds id before sight present seen).snoc label
    cases moved with
    | still label activity present => exact kept present rfl seen
    | entered op before present => exact kept present rfl seen
    | requested index choice before op call rest present => exact kept present rfl seen
    | locked index before op ticket present => exact kept present rfl seen
    | left before op value own present => exact kept present rfl seen
    | born options absent => cases seen
    | called choice before op call rest present serves moved =>
      have permitted := ((sightings earlier present).busy op _ serves (respond id middle.shared choice call).1).1
      rw [sighting, Activity.view_snoc] at seen
      generalize event : (⟨call, (respond id middle.shared choice call).1⟩ : Event Environment) = taken at seen permitted
      cases Sight.turns seen with
      | kept _ sight' known same current rendered =>
        exact ((holds id before sight' present known).snoc _).congr same current rendered
      | acquired _ unseen untouched => exact ⟨by simp [unseen], by simp [untouched]⟩
      | looked slot buffer sequence token current sight' known same found rendered =>
        have older := (holds id before sight' present known).snoc (.call id choice)
        refine ⟨fun now => ?_, fun output member => ?_⟩
        · obtain ⟨signalled, rfl, asked⟩ := found now
          obtain ⟨rfl, replied⟩ := Sigma.mk.inj event
          obtain ⟨rfl, rfl, rfl, rfl⟩ := of_decide_eq_true asked
          have current : middle.shared.hal.isFrameCurrent sight'.slot sight'.source.ahb sight'.source.sequence
              sight'.token = true := eq_of_heq replied
          have looked : Looked provider outcome (past ++ [.call id choice]) id sight' :=
            ⟨middle, _, [], .last earlier _, ⟨before, sight', present, known, rfl, signalled⟩, current⟩
          exact looked.congr same
        · rw [rendered] at member
          exact (older.drawn output member).congr same
      | rendered output sight' known same unseen added =>
        have older := holds id before sight' present known
        obtain ⟨rfl, _⟩ := Sigma.mk.inj event
        refine ⟨by simp [unseen], fun other member => ?_⟩
        rw [added] at member
        rcases List.mem_cons.mp member with rfl | drawn
        · obtain ⟨_, known', current⟩ := permitted
          obtain rfl := Option.some.inj (known.symm.trans known')
          have drawn : Drawn provider outcome (past ++ [.call id choice]) id sight' other :=
            ⟨past, middle, _, [], rfl, earlier, ⟨choice, before, op, rest, rfl, present, serves⟩,
              older.looked current⟩
          exact drawn.congr same
        · exact ((older.drawn other drawn).snoc _).congr same

structure Matched (seen : Exposures) (sight : Option Sight) : Prop where
  slot : ∀ found, sight = some found → found.slot = seen.slot
  held : seen.held = sight.map Sight.shot
  told : ∀ found, sight = some found → found.told = true → seen.shown.head? = some found.shot

theorem Matched.map {seen : Exposures} {sight : Option Sight} (matched : Matched seen sight) {update : Sight → Sight}
    (same : ∀ sight, (update sight).subject = sight.subject) (told : ∀ sight, (update sight).told = sight.told) :
    Matched seen (sight.map update) := by
  have shot (sight : Sight) : (update sight).shot = sight.shot :=
    congrArg (fun subject => { token := subject.2.1, sequence := subject.2.2.sequence : Shot }) (same sight)
  refine ⟨fun found updated => ?_, ?_, fun found updated done => ?_⟩
  · obtain ⟨before, known, rfl⟩ := Option.map_eq_some_iff.mp updated
    exact (congrArg Prod.fst (same before)).trans (matched.slot before known)
  · rw [matched.held, Option.map_map]
    exact Option.map_congr fun sight _ => (shot sight).symm
  · obtain ⟨before, known, rfl⟩ := Option.map_eq_some_iff.mp updated
    rw [shot]
    exact matched.told before known (told before ▸ done)

theorem Matched.shutter {seen : Exposures} {sight : Option Sight} (matched : Matched seen sight)
    (messages : List NotifyMsg) :
    Matched (seen.observe ⟨.notify messages, ()⟩) (Sight.observe sight ⟨.notify messages, ()⟩) := by
  have held := matched.held
  by_cases shutters : messages.any NotifyMsg.isShutter = true
  next =>
    simp only [Exposures.observe, if_pos shutters, Sight.observe]
    refine ⟨fun found updated => ?_, ?_, fun found updated _ => ?_⟩
    · obtain ⟨before, known, rfl⟩ := Option.map_eq_some_iff.mp updated
      exact matched.slot before known
    · rw [held, Option.map_map]
      rfl
    · obtain ⟨before, rfl, rfl⟩ := Option.map_eq_some_iff.mp updated
      rw [held]
      rfl
  next =>
    simp only [Exposures.observe, if_neg shutters, Sight.observe]
    exact matched.map (fun _ => rfl) (fun sight => by simp [eq_false_of_ne_true shutters])

theorem Matched.observe {seen : Exposures} {sight : Option Sight} {event : Event Environment}
    (matched : Matched seen sight) (permitted : seen.permits event) :
    Matched (seen.observe event) (Sight.observe sight event) := by
  obtain ⟨call, reply⟩ := event
  cases call with
  | hal call =>
    cases call with
    | notifyStreamsConfigured slot owner width height fps =>
      by_cases issued : 0 < (reply : Int) <;>
        simpa [Exposures.observe, issued, Sight.observe] using ⟨matched.slot, matched.held, matched.told⟩
    | acquireLatest slot afterSequence token =>
      cases reply with
      | none => exact ⟨by simp [Sight.observe], rfl, by simp [Sight.observe]⟩
      | some source =>
        refine ⟨fun found observed => ?_, rfl, by simp [Sight.observe]⟩
        cases observed
        exact permitted.1
    | isFrameCurrent slot buffer sequence token => exact matched.map (fun _ => rfl) (fun _ => rfl)
    | releaseFrame slot buffer fences => exact ⟨by simp [Sight.observe], rfl, by simp [Sight.observe]⟩
    | _ => exact matched
  | syncWait fd timeout => exact matched.map (fun _ => rfl) (fun _ => rfl)
  | renderAttempt output => exact matched.map (fun _ => rfl) (fun _ => rfl)
  | notify messages => exact matched.shutter messages
  | _ => exact matched

theorem matched (run : Run sessions.Step (boot provider outcome) labels world)
    (found : world.objects id = some activity) : Matched (exposures activity) (sighting activity) := by
  have kept (events : List (Event Environment)) (seen : Exposures) (sight : Option Sight)
      (accepts : Exposures.monitor.Accepts seen events) (start : Matched seen sight) :
      Matched (Exposures.monitor.follow seen events) (Sight.monitor.follow sight events) := by
    induction events generalizing seen sight with
    | nil => exact start
    | cons event events ih => exact ih _ _ accepts.2 (start.observe accepts.1)
  exact kept activity.trace _ _ (exposing run found).accepts ⟨by simp, rfl, by simp⟩

def isShutter : Event Environment → Bool
  | ⟨.notify messages, _⟩ => messages.any NotifyMsg.isShutter
  | _ => false

theorem exposures_counted (run : Run sessions.Step (boot provider outcome) labels world)
    (found : world.objects id = some activity) :
    (exposures activity).shown.length = activity.trace.countP isShutter := by
  have step (seen : Exposures) (event : Event Environment) (permitted : seen.permits event) :
      (seen.observe event).shown.length = seen.shown.length + if isShutter event then 1 else 0 := by
    obtain ⟨call, reply⟩ := event
    cases call with
    | hal call =>
      cases call with
      | notifyStreamsConfigured slot owner width height fps =>
        by_cases issued : 0 < (reply : Int) <;> simp [Exposures.observe, issued, isShutter]
      | acquireLatest slot afterSequence token => cases reply <;> rfl
      | _ => rfl
    | notify messages =>
      by_cases shutters : messages.any NotifyMsg.isShutter = true
      next =>
        obtain ⟨shot, held, _⟩ := permitted shutters
        simp [Exposures.observe, isShutter, shutters, held]
      next => simp [Exposures.observe, isShutter, shutters]
    | _ => rfl
  have kept (events : List (Event Environment)) (seen : Exposures) (accepts : Exposures.monitor.Accepts seen events) :
      (Exposures.monitor.follow seen events).shown.length = seen.shown.length + events.countP isShutter := by
    induction events generalizing seen with
    | nil => rfl
    | cons event events ih =>
      rw [Monitor.follow_cons, ih _ accepts.2, List.countP_cons]
      have := step seen event accepts.1
      simp only [Exposures.monitor] at this ⊢
      omega
  exact (kept activity.trace _ (exposing run found).accepts).trans (Nat.zero_add _)

structure FreshCaptures (provider : Bool) (outcome : Nat → Bool) (labels : List SessionLabel) (world : SessionWorld) :
    Prop where
  counted : ∀ id activity, world.objects id = some activity →
    (exposures activity).shown.length = activity.trace.countP isShutter
  increasing : ∀ id activity, world.objects id = some activity →
    (exposures activity).shown.Pairwise fun later earlier => earlier.sequence < later.sequence
  taken : ∀ id activity, world.objects id = some activity → ∀ shot ∈ (exposures activity).shown,
    shot.token ∈ (ledger activity).tokens ∧ Taken provider outcome labels activity.birth.slot shot
  apart : ∀ first second left right, world.objects first = some left → world.objects second = some right →
    ∀ shot ∈ (exposures left).shown, ∀ again ∈ (exposures right).shown, shot.sequence = again.sequence →
      first = second
  filled : ∀ id activity op results next, world.objects id = some activity →
    activity.serving = some (op, .call (.processCaptureResult results) next) → ∀ result ∈ results,
      ∀ (place : Nat) (buffer : StreamBuffer), result.outputBuffers[place]? = some buffer → buffer.status = .ok →
        ∃ sight : Sight, sight.slot = ((activity.birth.slot : Nat) : Int) ∧
          (exposures activity).shown.head? = some sight.shot ∧
          Drawn provider outcome labels id sight place

theorem fresh_captures (provider : Bool) (outcome : Nat → Bool) {labels : List SessionLabel} {world : SessionWorld}
    (run : Run sessions.Step (boot provider outcome) labels world) :
    FreshCaptures provider outcome labels world := by
  have traced := traced run
  have ordered (id : Nat) (activity : SessionActivity) (found : world.objects id = some activity) :
      (exposures activity).Ordered := by
    have fresh : (Exposures.fresh activity.birth).Ordered := ⟨.nil, by simp [Exposures.fresh]⟩
    exact Exposures.Ordered.follow (fun _ => fresh) (exposing run found).accepts (traced.newer id activity found)
  have taken (id : Nat) (activity : SessionActivity) (found : world.objects id = some activity) (shot : Shot)
      (member : shot ∈ (exposures activity).shown) : shot.token ∈ (ledger activity).tokens ∧
        Taken provider outcome labels activity.birth.slot shot := by
    refine ⟨?_, traced.shots id activity found shot (.inr member)⟩
    rw [← exposures_tokens]
    exact (ordered id activity found).own shot member
  refine ⟨fun id activity found => exposures_counted run found, fun id activity found =>
    (ordered id activity found).increasing,
    taken, ?_, ?_⟩
  · intro first second left right found found' shot member again member' same
    obtain ⟨own, came⟩ := taken first left found shot member
    obtain ⟨own', came'⟩ := taken second right found' again member'
    have token := (Taken.unique run came came' same).2
    have known (id : Nat) (activity : SessionActivity) (found : world.objects id = some activity) :
        ledgers world id = some (ledger activity) := by simp [ledgers, found]
    exact (dealt run).apart first second _ _ (known first left found) (known second right found') _ own
      (token ▸ own')
  · intro id activity op results next found serves result answered place buffer here ok
    obtain ⟨sight, seen, rendered, told⟩ := ((sightings run found).busy op _ serves ()).1 result answered place buffer here ok
    have matched := matched run found
    exact ⟨sight, (matched.slot sight seen).trans (exposures_slot activity), matched.told sight seen told,
      (watchful run id activity sight found seen).drawn place rendered⟩

def exposedLabels : List SessionLabel :=
  [ .create 0 { slot := 0 }, .call 0 Call.succeed, .call 0 Call.succeed, .leave 0
  , .enter 0 (.configureStreams [{ previewStream with format := blobFormat }]), .lock 0 0 ] ++
  List.replicate 3 (.call 0 Call.succeed) ++
  [ .leave 0
  , .outside (.hal (.enqueue 0 true (some 7) 640 480 1 5 none 2))
  , .enter 0 (.processCaptureRequest [previewRequest (rangeSettings 30 30)] [])
  , .lock 0 0 ] ++
  List.replicate 30 (.call 0 Call.succeed)

theorem fresh_captures_exposed :
    ∃ world, Run sessions.Step (boot true fun _ => true) exposedLabels world ∧
      (∃ activity, world.objects 0 = some activity ∧ (exposures activity).shown = [{ token := 2, sequence := 1 }]) ∧
      FreshCaptures true (fun _ => true) exposedLabels world := by
  have computed : ((exposedLabels.foldlM sessions.perform (boot true fun _ => true)).any fun world =>
      (world.objects 0).any fun activity =>
        decide ((exposures activity).shown = [{ token := 2, sequence := 1 }])) = true := by
    decide +kernel
  obtain ⟨world, folds, exposed⟩ := (Option.any_eq_true _ _).mp computed
  obtain ⟨activity, found, shown⟩ := (Option.any_eq_true _ _).mp exposed
  have run : Run sessions.Step (boot true fun _ => true) exposedLabels world := System.run_perform folds
  exact ⟨world, run, ⟨activity, found, of_decide_eq_true shown⟩,
    fresh_captures true (fun _ => true) run⟩

end SessionSystem

end VirtualCamera
