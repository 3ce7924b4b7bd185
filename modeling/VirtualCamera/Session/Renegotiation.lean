import VirtualCamera.Session.Ledger
import VirtualCamera.Shared.Service

set_option autoImplicit false

namespace VirtualCamera

open Interaction Interaction.Process Runs SessionSystem

inductive Disturbs (before after : Shared) : Prop where
  | responds (id : Nat) (choice : (call : Call) → call.Reply) (call : Call)
      (same : (respond id before choice call).2 = after)
  | changes (outside : SharedChange) (allowed : change before outside = some after)

def sharedService (id : Nat) : Service Environment Shared where
  answers before event after := ∃ choice, respond id before choice event.1 = (event.2, after)
  interferes := Relation.ReflTransGen Disturbs
  idle _ := .refl

def Lives (id : Nat) (before : VirtualCameraSession × Shared) (op : SessionOp)
    (after : VirtualCameraSession × Shared) : Prop :=
  ∃ answers, Served (sharedService id) before.2 (op.perform before.1) answers ((), after.1) after.2

def HalMessage.told : HalMessage → Option (Slot × Int × Int × Int × Int)
  | .streamsConfiguredForProducer slot _ token width height fps => some (slot, token, width, height, fps)
  | .streamsConfiguredForConfiguration slot token width height fps => some (slot, token, width, height, fps)
  | _ => none

namespace StableHal

structure Told (hal : StableHal) (slot : Slot) (token width height fps : Int) (message : Option (Binder × HalMessage))
    (after : StableHal) : Prop where
  configuration : (after.slots slot).configuration = token
  sourceWidth : (after.slots slot).sourceWidth = width
  sourceHeight : (after.slots slot).sourceHeight = height
  heard : message.map (fun sent => (sent.1, sent.2.told)) =
    hal.callback.map fun binder => (binder, some (slot, token, width, height, fps))

theorem notifyStreamsConfigured_cases (hal : StableHal) (slot owner width height fps : Int) :
    hal.notifyStreamsConfigured slot owner width height fps = (0, none, hal) ∨
      ∃ (index : Slot) (message : Option (Binder × HalMessage)) (after : StableHal), slot = (index : Nat) ∧
        hal.notifyStreamsConfigured slot owner width height fps = (hal.nextIdentity + 1, message, after) ∧
        after.nextIdentity = hal.nextIdentity + 1 ∧
        Told hal index (hal.nextIdentity + 1) width height fps message after := by
  unfold notifyStreamsConfigured
  split
  next => exact .inl rfl
  next index valid =>
    dsimp only
    split
    next => exact .inl rfl
    next =>
      refine .inr ⟨index, _, _, validSlot_eq_some valid, rfl, ?_, ?_, ?_, ?_, ?_⟩
      · rw [dropLatestLocked_nextIdentity]
        rfl
      · rw [dropLatestLocked_slots, setControl_self]
      · rw [dropLatestLocked_slots, setControl_self]
      · rw [dropLatestLocked_slots, setControl_self]
      · have callback := congrArg Control.callback (dropLatestLocked_control
          (({ hal with nextIdentity := hal.nextIdentity + 1 } : StableHal).setControl index
            { hal.slots index with
              sessionOwner := owner, ownerClosed := false, configuration := hal.nextIdentity + 1
              ready := (hal.slots index).capabilities.isNone, sourceWidth := width, sourceHeight := height }) index)
        simp only [control, setControl] at callback
        simp only [setControl, callback, Option.map_map, Function.comp_def]
        refine congrArg (fun tell => Option.map tell hal.callback) (funext fun binder => ?_)
        cases (hal.slots index).capabilities with
        | none => rfl
        | some descriptor => by_cases registered : descriptor.registration = 0 <;> simp [HalMessage.told, registered]

theorem notifyStreamsConfigured_token (hal : StableHal) (slot owner width height fps : Int)
    (natural : 0 ≤ hal.nextIdentity) :
    (hal.notifyStreamsConfigured slot owner width height fps).1 ≤
      (hal.notifyStreamsConfigured slot owner width height fps).2.2.nextIdentity := by
  rcases hal.notifyStreamsConfigured_cases slot owner width height fps with
    refused | ⟨index, message, issued, _, told, counted, _⟩
  · rw [refused]
    exact natural
  · rw [told]
    exact counted.ge

end StableHal

namespace HalCall

theorem nextIdentity_le (call : HalCall) (hal : StableHal) : hal.nextIdentity ≤ (call.answer hal).2.nextIdentity := by
  rcases call.evolves hal with ⟨op, _, same⟩ | ⟨_, quiet⟩
  · rw [same]
    exact op.nextIdentity_le hal
  · exact (congrArg StableHal.Control.nextIdentity quiet.control).ge

end HalCall

theorem respond_nextIdentity (id : Nat) (shared : Shared) (choice : (call : Call) → call.Reply) (call : Call) :
    shared.hal.nextIdentity ≤ (respond id shared choice call).2.hal.nextIdentity := by
  cases call with
  | hal asked => exact asked.nextIdentity_le shared.hal
  | _ => exact le_rfl

theorem Disturbs.nextIdentity {before after : Shared} (disturbs : Disturbs before after) :
    before.hal.nextIdentity ≤ after.hal.nextIdentity := by
  cases disturbs with
  | responds id choice call same =>
    rw [← same]
    exact respond_nextIdentity id before choice call
  | changes outside allowed =>
    cases outside with
    | getCameraDeviceInterface slot =>
      obtain ⟨descriptor, _, rfl⟩ := Option.map_eq_some_iff.mp allowed
      exact le_rfl
    | hal event =>
      simp only [change] at allowed
      split at allowed
      next =>
        obtain rfl := Option.some.inj allowed
        rcases before.world.perform_evolves event with ⟨op, _, same⟩ | ⟨_, quiet | ⟨_, _, _, _, control⟩⟩
        · exact (op.nextIdentity_le before.world.hal).trans (congrArg StableHal.nextIdentity same).ge
        · exact (congrArg StableHal.Control.nextIdentity quiet.control).ge
        · exact (congrArg StableHal.Control.nextIdentity control).ge
      next => cases allowed

theorem disturbed_nextIdentity {before after : Shared} (disturbed : Relation.ReflTransGen Disturbs before after) :
    before.hal.nextIdentity ≤ after.hal.nextIdentity := by
  induction disturbed with
  | refl => exact le_rfl
  | tail _ last ih => exact ih.trans last.nextIdentity

def newest : Monitor Environment Int where
  observe seen
    | ⟨.hal (.notifyStreamsConfigured ..), token⟩ => max seen (token : Int)
    | _ => seen

theorem newest_capturing (seen : Int) : newest.Ignores seen Call.capturing := by
  intro call reply silent
  cases call with
  | hal call => cases call <;> first | exact ⟨trivial, rfl⟩ | cases silent
  | _ => exact ⟨trivial, rfl⟩

theorem newest_housekeeping (seen : Int) : newest.Ignores seen Call.housekeeping := by
  intro call reply silent
  cases call with
  | hal call => cases silent
  | _ => exact ⟨trivial, rfl⟩

namespace VirtualCameraSession

def TokenKnown (session : VirtualCameraSession) (seen : Int) : Prop := session.configurationToken ≤ seen ∧ 0 ≤ seen

theorem TokenKnown.of_core (before after : VirtualCameraSession) (seen : Int) (held : before.TokenKnown seen)
    (same : after.core = before.core) : after.TokenKnown seen := by
  have token := congrArg VirtualCameraSession.configurationToken same
  exact ⟨(show after.configurationToken = before.configurationToken from token).trans_le held.1, held.2⟩

theorem tokenKnown_books : Bookkeeping newest TokenKnown fun _ => True := by
  refine ⟨fun _ => newest_housekeeping _, fun held same => ?_, ?_, ?_, ?_, ?_, ?_⟩
  · have token := congrArg VirtualCameraSession.configurationToken same
    exact ⟨(show _ = _ from token).trans_le held.1, held.2⟩
  · exact fun session seen held => ⟨trivial, held⟩
  · exact fun session seen current held _ => ⟨trivial, held, fun _ => trivial⟩
  · intro session seen width height fps token held _
    have above : seen ≤ max seen token := le_max_left _ _
    exact ⟨trivial, ⟨le_max_right _ _, held.2.trans above⟩, fun _ => ⟨held.1.trans above, held.2.trans above⟩⟩
  · exact fun request pending => failUntouched_maintains newest_capturing request pending
  · exact fun request cancelEpoch timestamp pending =>
      captureSource_maintains newest_capturing (fun _ _ seen held same => TokenKnown.of_core _ _ seen held (core_of_frame same))
        request cancelEpoch timestamp pending

theorem perform_tokenKnown (op : SessionOp) : Maintains newest TokenKnown op.perform := by
  have books := tokenKnown_books
  have discard : ∀ {A : Type} {action : Action VirtualCameraSession A}, Maintains newest TokenKnown action →
      Maintains newest TokenKnown (action >>= fun _ => pure ()) := fun kept =>
    maintains_bind kept fun _ => maintains_pure ()
  cases op with
  | construct =>
    refine maintains_bind (books.ask .stableHal rfl) fun hal => maintains_ite ?_ (maintains_pure ())
    refine maintains_bind (maintains_of_unheard fun seen => ?_) fun identity => maintains_modify fun _ _ held => held
    intro state post next identity
    exact ⟨trivial, next identity⟩
  | configureStreams requested => exact discard (configureStreams_maintains books requested)
  | updateTargetFps settings => exact discard (updateTargetFps_maintains books settings)
  | processCaptureRequest requests cachesToRemove =>
    exact discard (processCaptureRequest_maintains books requests cachesToRemove)
  | flush =>
    refine discard (maintains_bind (books.ask (.storeFlushing true) rfl) fun _ => ?_)
    refine maintains_bind (books.ask .bumpCancelEpoch rfl) fun _ => ?_
    refine maintains_bind (maintains_modify fun _ _ held => held) fun _ => ?_
    exact maintains_bind (books.ask (.storeFlushing false) rfl) fun _ => maintains_pure _
  | close => exact discard (close_maintains books)

theorem answered_nextIdentity {id : Nat} {before after : Shared} {event : Event Environment} {seen : Int}
    (answered : (sharedService id).answers before event after) (related : 0 ≤ seen ∧ seen ≤ before.hal.nextIdentity) :
    0 ≤ newest.observe seen event ∧ newest.observe seen event ≤ after.hal.nextIdentity := by
  obtain ⟨choice, answered⟩ := answered
  have grows := respond_nextIdentity id before choice event.1
  rw [answered] at grows
  have same : 0 ≤ seen ∧ seen ≤ after.hal.nextIdentity := ⟨related.1, related.2.trans grows⟩
  obtain ⟨call, reply⟩ := event
  cases call with
  | hal asked =>
    cases asked with
    | notifyStreamsConfigured slot owner width height fps =>
      refine ⟨related.1.trans (le_max_left _ _), max_le same.2 ?_⟩
      cases answered
      exact StableHal.notifyStreamsConfigured_token before.hal slot owner width height fps (related.1.trans related.2)
    | _ => exact same
  | _ => exact same

theorem lives_tokenKnown {id : Nat} {before after : VirtualCameraSession × Shared} {op : SessionOp}
    (lives : Lives id before op after) (natural : 0 ≤ before.2.hal.nextIdentity)
    (known : before.1.TokenKnown before.2.hal.nextIdentity) :
    0 ≤ after.2.hal.nextIdentity ∧ after.1.TokenKnown after.2.hal.nextIdentity := by
  obtain ⟨answers, served⟩ := lives
  have kept := perform_tokenKnown op before.1 before.2.hal.nextIdentity known
  have final := (kept.execution served.execution).2
  have related := Served.tracks newest (fun seen shared => 0 ≤ seen ∧ seen ≤ shared.hal.nextIdentity) served
    (fun seen _ _ between related => ⟨related.1, related.2.trans (disturbed_nextIdentity between)⟩)
    (fun _ _ _ _ answered related => answered_nextIdentity answered related) ⟨natural, le_rfl⟩
  exact ⟨related.1.trans related.2, final.1.trans related.2, related.1.trans related.2⟩

theorem history_tokenKnown {id : Nat} {before after : VirtualCameraSession × Shared} {ops : List SessionOp}
    (history : Run (Lives id) before ops after) (natural : 0 ≤ before.2.hal.nextIdentity)
    (known : before.1.TokenKnown before.2.hal.nextIdentity) :
    0 ≤ after.2.hal.nextIdentity ∧ after.1.TokenKnown after.2.hal.nextIdentity := by
  refine history.always (fun world => 0 ≤ world.2.hal.nextIdentity ∧ world.1.TokenKnown world.2.hal.nextIdentity)
    (fun _ => True) ⟨natural, known⟩ (fun _ _ => trivial) ?_
  exact fun _ _ _ _ held lives => lives_tokenKnown lives held.1 held.2

section Negotiation

def notifies : Event Environment → Bool
  | ⟨.hal (.notifyStreamsConfigured ..), _⟩ => true
  | _ => false

def configurations : Monitor Environment (List (Event Environment)) where
  observe log event := if notifies event then log ++ [event] else log
  permits _ event :=
    match event.1 with
    | .stableHal | .hal (.registrationCurrent ..) | .hal (.notifyStreamsConfigured ..) => True
    | _ => False

def asks (session : VirtualCameraSession) (mode : ProducerMode) (fps token : Int) : Event Environment :=
  ⟨.hal (.notifyStreamsConfigured session.slot session.sessionIdentity mode.width mode.height fps), token⟩

structure Settled (mode : ProducerMode) (fps token : Int) (after : VirtualCameraSession) : Prop where
  sourceMode : after.sourceMode = mode
  targetFps : after.targetFps = fps
  configurationToken : after.configurationToken = token

variable (session : VirtualCameraSession)

theorem registrationCurrent_configurations (hal : Bool) (log : List (Event Environment))
    (post : Bool → VirtualCameraSession → List (Event Environment) → Prop)
    (next : ∀ current, post current session log) :
    (registrationCurrent hal).wp configurations session log post := by
  simp only [registrationCurrent, wp_bind, wp_get]
  rw [wp_ite]
  refine ⟨fun _ => next true, fun _ => ?_⟩
  rw [wp_ite]
  exact ⟨fun _ => next false, fun _ current => ⟨trivial, next current⟩⟩

theorem updateTargetFps_configurations (settings : CameraMetadata) :
    (updateTargetFps settings).wp configurations session [] fun accepted final log =>
      (accepted = false ∧ final = session ∧ (log = [] ∨ ∃ mode fps token, token ≤ 0 ∧ log = [session.asks mode fps token])) ∨
      (accepted = true ∧ log = [] ∧ final.sourceMode = session.sourceMode ∧ final.targetFps = session.targetFps ∧
        final.configurationToken = session.configurationToken) ∨
      (accepted = true ∧ ∃ mode fps token, 0 < token ∧ log = [session.asks mode fps token] ∧
        Settled mode fps token final) := by
  simp only [updateTargetFps, wp_bind]
  refine (wp_ask .stableHal session _).mpr fun hal => ⟨trivial, ?_⟩
  refine registrationCurrent_configurations session hal _ _ fun current => ?_
  cases current
  case false => exact .inl ⟨rfl, rfl, .inl rfl⟩
  case true =>
    simp only [Bool.not_true, Bool.false_eq_true, if_false]
    cases settings with
    | none => exact .inr (.inl ⟨rfl, rfl, rfl, rfl, rfl⟩)
    | some blob =>
      simp only [wp_ite]
      refine ⟨fun _ => .inl ⟨rfl, rfl, .inl rfl⟩, fun _ => ?_⟩
      simp only [wp_bind, wp_get]
      cases rate : session.requestedRate blob with
      | none => exact .inl ⟨rfl, rfl, .inl rfl⟩
      | some pair =>
        obtain ⟨mode, fps⟩ := pair
        simp only [wp_ite]
        refine ⟨fun _ => ⟨fun _ => .inl ⟨rfl, rfl, .inl rfl⟩, fun _ => ?_⟩, fun _ => ?_⟩
        · rw [wp_bind]
          refine (wp_ask (.hal (.notifyStreamsConfigured ..)) session _).mpr fun token => ⟨trivial, ?_⟩
          rw [wp_ite]
          refine ⟨fun none => .inl ⟨rfl, rfl, .inr ⟨mode, fps, token, none, rfl⟩⟩, fun issued => ?_⟩
          exact .inr (.inr ⟨rfl, mode, fps, token, not_le.mp issued, rfl, rfl, rfl, rfl⟩)
        · exact .inr (.inl ⟨rfl, rfl, rfl, rfl, rfl⟩)

theorem configurations_follow (log events : List (Event Environment)) :
    configurations.follow log events = log ++ events.filter notifies := by
  induction events generalizing log with
  | nil => simp
  | cons event events ih =>
    rw [Monitor.follow_cons, ih]
    by_cases notified : notifies event = true <;> simp [configurations, notified]

end Negotiation

end VirtualCameraSession

def Unmoved (answer : Answer Environment Shared) : Prop :=
  answer.after.hal = answer.before.hal ∧ answer.after.sent = answer.before.sent

theorem unmoved_of_silent {id : Nat} {answer : Answer Environment Shared}
    (answered : (sharedService id).answers answer.before answer.event answer.after)
    (permitted : VirtualCameraSession.configurations.permits [] answer.event)
    (silent : VirtualCameraSession.notifies answer.event = false) : Unmoved answer := by
  obtain ⟨before, ⟨call, reply⟩, after⟩ := answer
  obtain ⟨choice, answered⟩ := answered
  obtain rfl : (respond id before choice call).2 = after := congrArg Prod.snd answered
  cases call with
  | hal asked =>
    cases asked with
    | registrationCurrent slot registration => exact ⟨rfl, List.append_nil _⟩
    | notifyStreamsConfigured slot owner width height fps => cases silent
    | _ => cases permitted
  | stableHal => exact ⟨rfl, rfl⟩
  | _ => cases permitted

theorem notified_cases {id : Nat} {session : VirtualCameraSession} {mode : ProducerMode} {fps token : Int}
    {answer : Answer Environment Shared}
    (answered : (sharedService id).answers answer.before answer.event answer.after)
    (asked : answer.event = session.asks mode fps token) (natural : 0 ≤ answer.before.hal.nextIdentity) :
    (token = 0 ∧ Unmoved answer) ∨
      ∃ (slot : Slot) (message : Option (Binder × HalMessage)), session.slot = (slot : Nat) ∧
        token = answer.before.hal.nextIdentity + 1 ∧ answer.after.sent = answer.before.sent ++ message.toList ∧
        StableHal.Told answer.before.hal slot token mode.width mode.height fps message answer.after.hal := by
  obtain ⟨before, event, after⟩ := answer
  obtain ⟨choice, answered⟩ := answered
  dsimp only at asked natural answered ⊢
  subst asked
  have reply : (before.hal.notifyStreamsConfigured session.slot session.sessionIdentity mode.width mode.height fps).1 =
    token := congrArg Prod.fst answered
  obtain rfl := congrArg Prod.snd answered
  rcases before.hal.notifyStreamsConfigured_cases session.slot session.sessionIdentity mode.width mode.height fps with
    refused | ⟨slot, message, issued, named, told, counted, sized⟩
  · refine .inl ⟨by rw [← reply, refused], ?_, ?_⟩
    · exact congrArg (fun out => out.2.2) refused
    · change before.sent ++ (before.hal.notifyStreamsConfigured _ _ _ _ _).2.1.toList = before.sent
      rw [refused]
      exact List.append_nil _
  · rw [told] at reply
    refine .inr ⟨slot, message, named, reply.symm, ?_, ?_⟩
    · change before.sent ++ (before.hal.notifyStreamsConfigured _ _ _ _ _).2.1.toList = _
      rw [told]
    · change StableHal.Told before.hal slot token mode.width mode.height fps message
        (before.hal.notifyStreamsConfigured _ _ _ _ _).2.2
      rw [told, ← reply]
      exact sized

structure Renegotiated (session final : VirtualCameraSession) (answers : List (Answer Environment Shared))
    (mode : ProducerMode) (fps token : Int) : Prop where
  settled : VirtualCameraSession.Settled mode fps token final
  newer : session.configurationToken < token
  told : ∃ early answer late, answers = early ++ answer :: late ∧ answer.event = session.asks mode fps token ∧
    (∃ (slot : Slot) (message : Option (Binder × HalMessage)), session.slot = (slot : Nat) ∧
      answer.after.sent = answer.before.sent ++ message.toList ∧
      StableHal.Told answer.before.hal slot token mode.width mode.height fps message answer.after.hal) ∧
    ∀ other ∈ early ++ late, Unmoved other

namespace VirtualCameraSession

def Reached (id : Nat) (slot : Int) (capabilities : Option ProducerCapabilities) (session : VirtualCameraSession)
    (shared : Shared) : Prop :=
  ∃ forceCpuYuv deadlineFrames clearOutput provider outcome ops,
    Run (Lives id) (initial slot capabilities forceCpuYuv deadlineFrames clearOutput,
      { world := .boot provider outcome }) ops (session, shared)

theorem Reached.known {id : Nat} {slot : Int} {capabilities : Option ProducerCapabilities}
    {session : VirtualCameraSession} {shared : Shared} (reached : Reached id slot capabilities session shared) :
    0 ≤ shared.hal.nextIdentity ∧ session.configurationToken ≤ shared.hal.nextIdentity := by
  obtain ⟨_, _, _, _, _, ops, history⟩ := reached
  obtain ⟨natural, known⟩ := history_tokenKnown history le_rfl ⟨le_rfl, le_rfl⟩
  exact ⟨natural, known.1⟩

variable {id : Nat} {session final : VirtualCameraSession} {shared after : Shared} {settings : CameraMetadata}
  {answers : List (Answer Environment Shared)} {accepted : Bool}

theorem served_bounds (served : Served (sharedService id) shared (updateTargetFps settings session) answers
      (accepted, final) after) (bound : Int) (natural : bound ≤ shared.hal.nextIdentity) :
    ∀ answer ∈ answers, bound ≤ answer.before.hal.nextIdentity := by
  refine (Served.keeps (fun shared => bound ≤ shared.hal.nextIdentity) served ?_ ?_ natural).1
  · exact fun _ _ between held => held.trans (disturbed_nextIdentity between)
  · rintro before event after ⟨choice, answered⟩ held
    have grows := respond_nextIdentity id before choice event.1
    rw [answered] at grows
    exact held.trans grows

theorem single_notified {event : Event Environment}
    (once : (answers.map (·.event)).filter notifies = [event]) :
    ∃ early answer late, answers = early ++ answer :: late ∧ answer.event = event ∧
      ∀ other ∈ early ++ late, notifies other.event = false := by
  rw [List.filter_map] at once
  obtain ⟨answer, alone, same⟩ := List.map_eq_singleton_iff.mp once
  obtain ⟨early, late, split, before, _, none⟩ := List.filter_eq_cons_iff.mp alone
  refine ⟨early, answer, late, split, same, fun other member => ?_⟩
  rw [← Bool.not_eq_true]
  rcases List.mem_append.mp member with first | second
  · exact before other first
  · exact List.filter_eq_nil_iff.mp none other second

theorem updateTargetFps_whole (id : Nat) (slot : Int) (capabilities : Option ProducerCapabilities)
    (session : VirtualCameraSession) (shared : Shared) (reached : Reached id slot capabilities session shared)
    (settings : CameraMetadata) (answers : List (Answer Environment Shared)) (accepted : Bool)
    (final : VirtualCameraSession) (after : Shared)
    (served : Served (sharedService id) shared (updateTargetFps settings session) answers (accepted, final) after) :
    (accepted = false → final = session ∧ ∀ answer ∈ answers, Unmoved answer) ∧
      (accepted = true → final.sourceMode ≠ session.sourceMode ∨ final.targetFps ≠ session.targetFps →
        ∃ mode fps token, Renegotiated session final answers mode fps token) := by
  obtain ⟨natural, known⟩ := reached.known
  have natural' := served_bounds served 0 natural
  have known' := served_bounds served _ known
  obtain ⟨permitted, outcome⟩ := (updateTargetFps_configurations session settings).execution served.execution
  rw [configurations_follow, List.nil_append] at outcome
  have allowed : ∀ answer ∈ answers, configurations.permits [] answer.event := by
    intro answer member
    obtain ⟨early, late, split⟩ := List.append_of_mem (List.mem_map_of_mem (f := (·.event)) member)
    rw [split] at permitted
    exact permitted.permits
  have silent : ∀ answer ∈ answers, notifies answer.event = false → Unmoved answer :=
    fun answer member quiet => unmoved_of_silent (served.answered answer member) (allowed answer member) quiet
  -- The one answer to a configuration, and the answers around it.
  have alone : ∀ mode fps token, (answers.map (·.event)).filter notifies = [session.asks mode fps token] →
      ∃ early answer late, answers = early ++ answer :: late ∧ answer.event = session.asks mode fps token ∧
        answer ∈ answers ∧ ∀ other ∈ early ++ late, Unmoved other := by
    intro mode fps token once
    obtain ⟨early, answer, late, rfl, asked, quiet⟩ := single_notified once
    refine ⟨early, answer, late, rfl, asked, by simp, fun other member => ?_⟩
    exact silent other (by simp only [List.mem_append, List.mem_cons] at member ⊢; tauto) (quiet other member)
  constructor
  · rintro rfl
    rcases outcome with ⟨_, rfl, none | ⟨mode, fps, token, refused, once⟩⟩ | ⟨accepted, _⟩ | ⟨accepted, _⟩
    · refine ⟨rfl, fun answer member => silent answer member ?_⟩
      rw [← Bool.not_eq_true]
      exact List.filter_eq_nil_iff.mp none _ (List.mem_map_of_mem member)
    · obtain ⟨early, answer, late, split, asked, member, others⟩ := alone mode fps token once
      refine ⟨rfl, fun other inside => ?_⟩
      rcases notified_cases (served.answered answer member) asked (natural' answer member) with
        ⟨_, unmoved⟩ | ⟨_, _, _, issued, _⟩
      · rw [split, List.mem_append, List.mem_cons] at inside
        rcases inside with first | rfl | last
        · exact others other (List.mem_append_left _ first)
        · exact unmoved
        · exact others other (List.mem_append_right _ last)
      · have positive := natural' answer member
        omega
    · cases accepted
    · cases accepted
  · rintro rfl changed
    rcases outcome with ⟨refused, _⟩ | ⟨_, _, mode, fps, _⟩ | ⟨_, mode, fps, token, positive, once, settled⟩
    · cases refused
    · rcases changed with differs | differs
      · exact absurd mode differs
      · exact absurd fps differs
    · obtain ⟨early, answer, late, split, asked, member, others⟩ := alone mode fps token once
      rcases notified_cases (served.answered answer member) asked (natural' answer member) with
        ⟨none, _⟩ | ⟨index, message, named, issued, heard, told⟩
      · omega
      · have above := known' answer member
        exact ⟨mode, fps, token, settled, by omega,
          ⟨early, answer, late, split, asked, ⟨index, message, named, heard, told⟩, others⟩⟩

def attendAll (world : VirtualCameraSession × Shared) (op : SessionOp) : VirtualCameraSession × Shared :=
  let attended := (op.perform world.1).attend (fun shared call => respond 0 shared Call.succeed call) world.2
  (attended.2.1.2, attended.2.2)

theorem attended {A : Type} (program : Program Environment A) (shared : Shared) :
    let attended := program.attend (fun shared call => respond 0 shared Call.succeed call) shared
    Served (sharedService 0) shared program attended.1 attended.2.1 attended.2.2 :=
  Served.attend (sharedService 0) (fun _ _ => ⟨Call.succeed, rfl⟩) program shared

theorem run_attended (world : VirtualCameraSession × Shared) (ops : List SessionOp) :
    Run (Lives 0) world ops (ops.foldl attendAll world) := by
  induction ops using List.reverseRecOn with
  | nil => exact .refl
  | append_singleton ops op ih =>
    rw [List.foldl_append]
    exact .snoc ih ⟨_, attended _ _⟩

def previewWorld : VirtualCameraSession × Shared :=
  [.construct, .configureStreams [previewStream]].foldl attendAll
    (initial 0 none false 1 false, { world := .boot true fun _ => true })

theorem updateTargetFps_whole_sixty :
    ∃ answers final after, Served (sharedService 0) previewWorld.2
        (updateTargetFps (rangeSettings 60 60) previewWorld.1) answers (true, final) after ∧
      ∃ mode fps token, Renegotiated previewWorld.1 final answers mode fps token := by
  let renegotiation := (updateTargetFps (rangeSettings 60 60) previewWorld.1).attend
    (fun shared call => respond 0 shared Call.succeed call) previewWorld.2
  have reached : Reached 0 0 none previewWorld.1 previewWorld.2 :=
    ⟨false, 1, false, true, fun _ => true, _, run_attended _ _⟩
  have served := attended (updateTargetFps (rangeSettings 60 60) previewWorld.1) previewWorld.2
  have accepted : renegotiation.2.1.1 = true := by decide +kernel
  have changed : renegotiation.2.1.2.targetFps ≠ previewWorld.1.targetFps := by decide +kernel
  have whole := updateTargetFps_whole 0 0 none _ _ reached _ renegotiation.1 renegotiation.2.1.1 renegotiation.2.1.2
    renegotiation.2.2 served
  refine ⟨renegotiation.1, renegotiation.2.1.2, renegotiation.2.2, ?_, whole.2 accepted (.inr changed)⟩
  rw [← accepted]
  exact served

end VirtualCameraSession

end VirtualCamera
