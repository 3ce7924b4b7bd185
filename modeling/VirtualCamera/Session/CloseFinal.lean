import VirtualCamera.Session.Cancelling
import VirtualCamera.Session.CloseReturns
import VirtualCamera.Session.SlotAuthority

set_option autoImplicit false

namespace VirtualCamera

open Interaction Interaction.Process Interleaving Runs SessionSystem

namespace SessionSystem

inductive Cancels (world : SessionWorld) (id : Nat) : SessionLabel → Prop where
  | requested (index : Nat) (choice : (call : Call) → call.Reply) (activity : SessionActivity) (op : FrameworkCall)
      (call : Call) (next : call.Reply → Program Environment Bool) (found : world.objects id = some activity)
      (asks : activity.entering[index]? = some (op, .call call next))
      (cancels : call = .exchangeClosed ∨ call = .bumpCancelEpoch) : Cancels world id (.request id index choice)
  | inner (choice : (call : Call) → call.Reply) (activity : SessionActivity) (op : Option FrameworkCall)
      (next : Bool → Program Environment (FrameworkReply × VirtualCameraSession))
      (found : world.objects id = some activity) (serves : activity.serving = some (op, .call .exchangeClosed next)) :
      Cancels world id (.call id choice)

-- A flush advances the epoch before the batch copies it, and the batch does not hear of the flush.
inductive Missed (world : SessionWorld) : SessionLabel → Prop where
  | bumped (id index : Nat) (choice : (call : Call) → call.Reply) (activity : SessionActivity)
      (next : Unit → Program Environment Bool) (requests : List CaptureRequest) (caches : List BufferCache)
      (program : Program Environment (FrameworkReply × VirtualCameraSession))
      (found : world.objects id = some activity)
      (asks : activity.entering[index]? = some (.flush, .call .bumpCancelEpoch next))
      (serves : activity.serving = some (some (.processCaptureRequest requests caches), program))
      (opened : (world.shared.flags id).closed = false) (early : (batch requests activity).epoch = none)
      (unheard : (batch requests activity).checked = some false ∨
        (batch requests activity).checked = none ∧ (world.shared.flags id).flushing = false) :
      Missed world (.request id index choice)

def Orderly (world : SessionWorld) (label : SessionLabel) (after : SessionWorld) : Prop :=
  Patient world label after ∧ ¬ Missed world label

structure CloseFinal (provider : Bool) (outcome : Nat → Bool) (labels : List SessionLabel) (world : SessionWorld) :
    Prop where
  silent : ∀ before label since id activity, Happened sessions.Step (boot provider outcome) labels before label since →
    CloseReturns before id label → world.objects id = some activity → ∀ op call next,
      activity.serving = some (op, .call call next) →
      (∀ messages, call ≠ .notify messages) ∧ ∀ results, call ≠ .processCaptureResult results
  released : ∀ before label since id activity, Happened sessions.Step (boot provider outcome) labels before label since →
    CloseReturns before id label → world.objects id = some activity → ∀ slot,
      (world.shared.hal.slots slot).configuration ∉ (ledger activity).tokens
  cancelled : ∀ before label since id was activity requests caches program,
    Happened sessions.Step (boot provider outcome) labels before label since → Cancels before id label →
    before.objects id = some was → was.serving = some (some (.processCaptureRequest requests caches), program) →
    .leave id ∉ since → world.objects id = some activity →
    ∃ later, activity.current = was.current ++ later ∧
      (Progress.discarding requests (batch requests was)).Accepts (batch requests was) later
  counted : ∀ id activity requests caches outcome processed own, world.objects id = some activity →
    activity.serving = some (some (.processCaptureRequest requests caches), .ret (.captured outcome processed, own)) →
    processed = (batch requests activity).completed

variable {world after : SessionWorld} {label : SessionLabel} {id : Nat} {activity : SessionActivity}

theorem Cancels.cut (cancels : Cancels world id label) (regular : Regular world)
    (next : sessions.Step world label after)
    (heard : ¬ Missed world label) {was : SessionActivity} {requests : List CaptureRequest}
    {caches : List BufferCache}
    {program : Program Environment (FrameworkReply × VirtualCameraSession)} (found : world.objects id = some was)
    (serves : was.serving = some (some (.processCaptureRequest requests caches), program))
    (ending : Ending world.shared.hal (world.shared.flags id) was)
    (epochs : ∀ epoch, (batch requests was).epoch = some epoch → epoch ≤ (world.shared.flags id).cancelEpoch) :
    ∃ activity, after.objects id = some activity ∧ Cut requests caches was (after.shared.flags id) activity := by
  cases cancels with
  | requested index choice other op call rest found' asks cancels =>
    obtain rfl := Option.some.inj (found.symm.trans found')
    have unwanted : Progress.Unwanted ((world.shared.flags id).after call) (batch requests was) := by
      rcases cancels with rfl | rfl
      · exact .inl rfl
      · cases started : (batch requests was).epoch with
        | some epoch => exact .inr (.inl ⟨epoch, started, Nat.lt_succ_of_le (epochs epoch started)⟩)
        | none =>
          cases op with
          | close =>
            rcases ending.entering _ (List.mem_of_getElem? asks) with first | closed
            · cases first
            · exact .inl closed
          | flush =>
            by_contra wanted
            simp only [Progress.Unwanted, Flags.after, started, not_or, true_and] at wanted
            obtain ⟨opened, _, unfound, unheard⟩ := wanted
            refine heard (.bumped id index choice was rest requests caches program found asks serves ?_ started ?_)
            · exact Bool.eq_false_of_not_eq_true opened
            · cases checked : (batch requests was).checked with
              | none =>
                simp only [checked, true_and, Bool.not_eq_true] at unheard
                exact .inr ⟨rfl, unheard⟩
              | some known =>
                cases known
                case false => exact .inl rfl
                case true => exact absurd checked unfound
          | configureStreams | processCaptureRequest =>
            obtain ⟨_, reaches⟩ := (regular.reached id was found).entering _ _ (List.mem_of_getElem? asks)
            cases reaches
    cases next with
    | request _ _ _ other op' call' rest' found' asks' =>
      obtain rfl := Option.some.inj (found.symm.trans found')
      cases asks.symm.trans asks'
      refine ⟨_, (World.put_objects _ _ _ _ _).trans (if_pos rfl), ?_⟩
      refine ⟨⟨program, serves⟩, ⟨[], (List.append_nil _).symm, trivial⟩, ?_⟩
      change Progress.Interrupted _ ((respond id world.shared choice call).2.flags id) _
      rw [respond_own_flags]
      exact .begins unwanted
  | inner choice other op rest found' serves' =>
    obtain rfl := Option.some.inj (found.symm.trans found')
    cases next with
    | call _ _ other op' call' rest' found' serves'' =>
      obtain rfl := Option.some.inj (found.symm.trans found')
      cases serves'.symm.trans serves''
      cases serves.symm.trans serves'
      have bounded := (regular.reached id was found).bounded
      refine ⟨_, (World.put_objects _ _ _ _ _).trans (if_pos rfl), ⟨_, rfl⟩, ?_, ?_⟩
      · rw [Activity.current_snoc _ _ _ bounded]
        exact ⟨_, rfl, .inr rfl, trivial⟩
      · rw [batch_snoc bounded]
        exact .begins (.inl (congrArg Flags.closed (Shared.setFlags_self _ _ _)))

variable {provider : Bool} {outcome : Nat → Bool} {labels : List SessionLabel}

theorem Orderly.patient (run : Run Orderly (boot provider outcome) labels world) :
    Run Patient (boot provider outcome) labels world := run.mono fun _ _ _ orderly => orderly.1

theorem epochs (run : Run sessions.Step (boot provider outcome) labels world) : ∀ id activity,
    world.objects id = some activity → ∀ requests caches program,
    activity.serving = some (some (.processCaptureRequest requests caches), program) →
    ∀ epoch, (batch requests activity).epoch = some epoch → epoch ≤ (world.shared.flags id).cancelEpoch := by
  induction run with
  | refl => exact fun _ _ found => (nomatch found)
  | snoc earlier next ih => exact epochs_step (regular provider outcome earlier) next ih

theorem cancelled_cut (run : Run Orderly (boot provider outcome) labels world)
    (room : world.shared.hal.nextIdentity < int64Max) {before : SessionWorld} {since : List SessionLabel}
    (happened : Happened sessions.Step (boot provider outcome) labels before label since)
    (cancels : Cancels before id label) {was : SessionActivity} {requests : List CaptureRequest}
    {caches : List BufferCache} {program : Program Environment (FrameworkReply × VirtualCameraSession)}
    (found : before.objects id = some was)
    (serves : was.serving = some (some (.processCaptureRequest requests caches), program))
    (stays : .leave id ∉ since) :
    ∃ activity, world.objects id = some activity ∧ Cut requests caches was (world.shared.flags id) activity := by
  induction run generalizing since with
  | refl => exact absurd happened happened_nil
  | snoc earlier next ih =>
    have patient := Orderly.patient earlier
    have earlier' := Patient.run patient
    have regular := regular provider outcome earlier'
    have room' := (regular.halStep next.1.1).nextIdentity_le.trans_lt room
    rcases happened.of_snoc with ⟨_, rfl, reached⟩ | ⟨since', rfl, happened'⟩
    · obtain rfl := reached.unique System.step_deterministic earlier'
      exact cancels.cut regular next.1.1 next.2 found serves (endings patient room' id was found)
        (epochs earlier' id was found requests caches program serves)
    · simp only [List.mem_append, List.mem_singleton, not_or] at stays
      obtain ⟨activity, present, cut⟩ := ih room' happened' stays.1
      exact cut_step regular next.1.1 (Ne.symm stays.2) present cut

theorem close_final (provider : Bool) (outcome : Nat → Bool) {labels : List SessionLabel} {world : SessionWorld}
    (run : Run Orderly (boot provider outcome) labels world) (room : world.shared.hal.nextIdentity < int64Max) :
    CloseFinal provider outcome labels world := by
  have patient := Orderly.patient run
  have regular := regular provider outcome (Patient.run patient)
  have told : ∀ {before : SessionWorld} {label : SessionLabel} {since : List SessionLabel} {id : Nat}
      {activity : SessionActivity}, Happened sessions.Step (boot provider outcome) labels before label since →
      CloseReturns before id label → world.objects id = some activity →
      Told activity ∧ Ending world.shared.hal (world.shared.flags id) activity := by
    intro before label since id activity happened returns found
    obtain ⟨other, found', told⟩ := returned_told patient room happened returns
    obtain rfl := Option.some.inj (found.symm.trans found')
    exact ⟨told, endings patient room id activity found⟩
  refine ⟨?_, ?_, ?_, ?_⟩
  · intro before label since id activity happened returns found op call next serves
    obtain ⟨told, ending⟩ := told happened returns found
    have shut := ending.shut told op _ serves
    refine ⟨?_, ?_⟩
    · rintro messages rfl
      exact Bool.noConfusion (shut.symm.trans (regular.closing_permits found serves ()))
    · rintro results rfl
      exact Bool.noConfusion (shut.symm.trans (regular.closing_permits found serves ()))
  · intro before label since id activity happened returns found
    obtain ⟨told, ending⟩ := told happened returns found
    exact ending.detached told
  · intro before label since id was activity requests caches program happened cancels found serves stays present
    obtain ⟨other, found', cut⟩ := cancelled_cut run room happened cancels found serves stays
    obtain rfl := Option.some.inj (present.symm.trans found')
    exact cut.discards
  · intro id activity requests caches outcome processed own found serves
    exact regular.batch_obeys found serves outcome processed rfl

def prompt (world : SessionWorld) : SessionLabel → Bool
  | .lock id index =>
    match (world.objects id).bind fun activity => activity.entering[index]? with
    | some (.close, .ret true) => false
    | _ => true
  | .request id index _ =>
    match (world.objects id).bind fun activity => activity.entering[index]? with
    | some (.flush, .call .bumpCancelEpoch _) => false
    | _ => true
  | .call id _ =>
    match (world.objects id).bind fun activity => activity.serving with
    | some (_, .call .exchangeClosed _) => false
    | _ => true
  | _ => true

theorem orderly_of_prompt (passes : prompt world label = true) (next : sessions.Step world label after) :
    Orderly world label after := by
  refine ⟨⟨next, fun overtakes => ?_⟩, fun missed => ?_⟩
  · cases overtakes with
    | locked id index activity found waits untold => simp [prompt, found, waits] at passes
    | inner id choice activity op rest found serves closed untold => simp [prompt, found, serves] at passes
  · cases missed with
    | bumped id index choice activity rest requests caches program found asks => simp [prompt, found, asks] at passes

def closeLabels : List SessionLabel :=
  configureLabels ++
  [ .leave 0, .enter 0 .close, .request 0 0 Call.succeed, .request 0 0 Call.succeed, .lock 0 0 ] ++
  List.replicate 3 (.call 0 Call.succeed) ++ [.leave 0]

theorem close_final_closed :
    ∃ world, Run Orderly (boot true fun _ => true) closeLabels world ∧
      (world.shared.hal.slots 0).configuration = 0 ∧ CloseFinal true (fun _ => true) closeLabels world := by
  have computed : ((closeLabels.foldlM (fun world label =>
      if prompt world label then sessions.perform world label else none) (boot true fun _ => true)).any fun world =>
        decide ((world.shared.hal.slots 0).configuration = 0 ∧ world.shared.hal.nextIdentity < int64Max)) = true := by
    decide +kernel
  obtain ⟨world, folds, closed⟩ := (Option.any_eq_true _ _).mp computed
  obtain ⟨token, room⟩ := of_decide_eq_true closed
  have run : Run Orderly (boot true fun _ => true) closeLabels world := by
    refine (Run.of_foldlM folds).mono fun state label after performs => ?_
    by_cases passes : prompt state label = true
    · rw [if_pos passes] at performs
      exact orderly_of_prompt passes (System.perform_step performs)
    · rw [if_neg passes] at performs
      cases performs
  exact ⟨world, run, token, close_final true (fun _ => true) run room⟩

-- A second close finds the session closed, and is through before the first one has the lock.
def overtakenLabels : List SessionLabel :=
  configureLabels ++
  [ .leave 0
  , .enter 0 .close
  , .request 0 0 Call.succeed
  , .request 0 0 Call.succeed
  , .enter 0 .close
  , .request 0 1 Call.succeed
  , .request 0 1 Call.succeed
  , .lock 0 1 ]

def overtakenReturns (world : SessionWorld) (activity : SessionActivity) : Bool :=
  match activity.serving with
  | some (some .close, .ret _) => decide (world.shared.hal.nextIdentity < int64Max ∧
      (world.shared.hal.slots 0).configuration ∈ (ledger activity).tokens)
  | _ => false

theorem overtaken_configured :
    ∃ world after, Run sessions.Step (boot true fun _ => true) overtakenLabels world ∧
      CloseReturns world 0 (.leave 0) ∧ sessions.Step world (.leave 0) after ∧
      after.shared.hal.nextIdentity < int64Max ∧ ∃ activity, after.objects 0 = some activity ∧
        (after.shared.hal.slots 0).configuration ∈ (ledger activity).tokens := by
  have computed : ((overtakenLabels.foldlM sessions.perform (boot true fun _ => true)).any fun world =>
      (world.objects 0).any (overtakenReturns world)) = true := by
    decide +kernel
  obtain ⟨world, folds, returns⟩ := (Option.any_eq_true _ _).mp computed
  obtain ⟨activity, found, serving⟩ := (Option.any_eq_true _ _).mp returns
  rw [overtakenReturns] at serving
  split at serving
  next value serves =>
    obtain ⟨value, own⟩ := value
    obtain ⟨room, configured⟩ := of_decide_eq_true serving
    exact ⟨world, _, System.run_perform folds, .outer activity value own found serves,
      .leave 0 activity (some .close) value own found serves, room, _,
      (World.put_objects _ _ _ _ _).trans (if_pos rfl), configured⟩
  next => cases serving

-- The flush advances the epoch after the batch's flushing check, and before the batch copies it.
def missedLabels : List SessionLabel :=
  [ .create 0 { slot := 0 }, .call 0 Call.succeed, .call 0 Call.succeed, .leave 0
  , .enter 0 (.configureStreams [{ previewStream with format := kRGBA8888 }]), .lock 0 0 ] ++
  List.replicate 3 (.call 0 Call.succeed) ++
  [ .leave 0
  , .outside (.hal (.enqueue 0 true (some 7) 640 480 1 5 none 2))
  , .enter 0 (.processCaptureRequest [previewRequest (rangeSettings 30 30)] [])
  , .lock 0 0
  , .call 0 Call.succeed
  , .call 0 Call.succeed
  , .enter 0 .flush
  , .request 0 0 Call.succeed ]

def missedRest : List SessionLabel := List.replicate 37 (.call 0 Call.succeed)

def shutters (activity : SessionActivity) : Bool :=
  match activity.current.getLast? with
  | some ⟨.notify (.shutter .. :: _), _⟩ => true
  | _ => false

theorem shutters_accepts {requests : List CaptureRequest} {start : Progress}
    {earlier later : List (Event Environment)}
    (fresh : start.begun = false) (shape : activity.current = earlier ++ later)
    (longer : earlier.length < activity.current.length) (answered : shutters activity = true) :
    ¬ (Progress.discarding requests start).Accepts start later := by
  intro accepts
  induction later using List.reverseRecOn with
  | nil => simp [shape] at longer
  | append_singleton later event _ =>
    have last : activity.current.getLast? = some event := by
      rw [shape, ← List.append_assoc, List.getLast?_concat]
    rw [shutters, last] at answered
    have permitted := accepts.permits
    split at answered
    next same =>
      cases Option.some.inj same
      rcases permitted with ⟨_, begun⟩ | ⟨request, _, messages⟩
      · exact Bool.noConfusion (fresh.symm.trans begun)
      · cases messages
    next => cases answered

def missedAnswers (before : SessionWorld) (was : SessionActivity) : Bool :=
  match was.serving, was.entering with
  | some (some (.processCaptureRequest requests _), _), [(.flush, .call .bumpCancelEpoch _)] =>
    !(batch requests was).begun &&
      ((Label.request 0 0 Call.succeed :: missedRest).foldlM sessions.perform before).any fun world =>
        (world.objects 0).any fun activity => shutters activity &&
          decide (world.shared.hal.nextIdentity < int64Max ∧ was.current.length < activity.current.length)
  | _, _ => false

theorem missed_answered :
    ∃ before world was activity requests caches program,
      Run sessions.Step (boot true fun _ => true) missedLabels before ∧
      Run sessions.Step (boot true fun _ => true) (missedLabels ++ .request 0 0 Call.succeed :: missedRest) world ∧
      world.shared.hal.nextIdentity < int64Max ∧ Cancels before 0 (.request 0 0 Call.succeed) ∧
      before.objects 0 = some was ∧ was.serving = some (some (.processCaptureRequest requests caches), program) ∧
      (batch requests was).begun = false ∧ world.objects 0 = some activity ∧
      was.current.length < activity.current.length ∧ shutters activity = true := by
  have computed : ((missedLabels.foldlM sessions.perform (boot true fun _ => true)).any fun before =>
      (before.objects 0).any (missedAnswers before)) = true := by
    decide +kernel
  obtain ⟨before, folds, missed⟩ := (Option.any_eq_true _ _).mp computed
  obtain ⟨was, found, waits⟩ := (Option.any_eq_true _ _).mp missed
  rw [missedAnswers] at waits
  split at waits
  next serves asks =>
    obtain ⟨fresh, finishes⟩ := (Bool.and_eq_true _ _).mp waits
    obtain ⟨world, rest, answers⟩ := (Option.any_eq_true _ _).mp finishes
    obtain ⟨activity, present, answered⟩ := (Option.any_eq_true _ _).mp answers
    obtain ⟨shutter, measured⟩ := (Bool.and_eq_true _ _).mp answered
    obtain ⟨room, longer⟩ := of_decide_eq_true measured
    have reached : Run sessions.Step (boot true fun _ => true) missedLabels before := System.run_perform folds
    have asked := congrArg (fun entering => entering[0]?) asks
    exact ⟨before, world, was, activity, _, _, _, reached, reached.append (System.run_perform rest), room,
      .requested 0 Call.succeed was _ _ _ found asked (.inr rfl), found, serves, by simpa using fresh, present,
      longer, shutter⟩
  next => cases waits

theorem close_not_final :
    (∃ world, Run sessions.Step (boot true fun _ => true) (overtakenLabels ++ [.leave 0]) world ∧
      world.shared.hal.nextIdentity < int64Max ∧ ¬ CloseFinal true (fun _ => true) (overtakenLabels ++ [.leave 0]) world) ∧
    ∃ world, Run sessions.Step (boot true fun _ => true) (missedLabels ++ .request 0 0 Call.succeed :: missedRest) world ∧
      world.shared.hal.nextIdentity < int64Max ∧
      ¬ CloseFinal true (fun _ => true) (missedLabels ++ .request 0 0 Call.succeed :: missedRest) world := by
  constructor
  next =>
    obtain ⟨world, after, run, returns, next, room, activity, found, configured⟩ := overtaken_configured
    refine ⟨after, run.snoc next, room, fun final => ?_⟩
    exact final.released world _ [] 0 activity (.last run _) returns found 0 configured
  next =>
    obtain ⟨before, world, was, activity, requests, caches, program, reached, run, room, cancels, found, serves,
      fresh, present, longer, answered⟩ := missed_answered
    refine ⟨world, run, room, fun final => ?_⟩
    have stays : .leave 0 ∉ missedRest := by simp [missedRest]
    obtain ⟨later, shape, accepts⟩ := final.cancelled before _ missedRest 0 was activity requests caches program
      ⟨missedLabels, rfl, reached⟩ cancels found serves stays present
    exact shutters_accepts fresh shape longer answered accepts

end SessionSystem

end VirtualCamera
