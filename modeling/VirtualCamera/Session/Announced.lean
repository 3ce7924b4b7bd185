import VirtualCamera.Hal.Announcements
import VirtualCamera.Session.CloseFinal

set_option autoImplicit false

namespace VirtualCamera

open Interaction Interleaving Runs StableHal

structure StableHal.Standing (hal : StableHal) (slot : Slot) (token : Int) (binder : Binder) (message : HalMessage) :
    Prop where
  configuration : (hal.slots slot).configuration = token
  callback : hal.callback = some binder
  farewell : (hal.slots slot).farewell slot = message.ending

section Standing

variable {hal after : StableHal} {slot : Slot} {token : Int} {binder : Binder} {message : HalMessage}

theorem notifyStreamsConfigured_standing (owner width height fps : Int)
    (told : (hal.notifyStreamsConfigured (slot : Nat) owner width height fps).2.1 = some (binder, message)) :
    (hal.notifyStreamsConfigured (slot : Nat) owner width height fps).2.2.Standing slot
      (hal.notifyStreamsConfigured (slot : Nat) owner width height fps).1 binder message := by
  by_cases refused : owner ≤ 0 ∨ owner < (hal.slots slot).sessionOwner ∨
      (owner = (hal.slots slot).sessionOwner ∧ (hal.slots slot).ownerClosed = true) ∨ hal.nextIdentity = int64Max
  · simp [notifyStreamsConfigured, refused] at told
  · simp only [notifyStreamsConfigured, validSlot_coe, if_neg refused] at told ⊢
    obtain ⟨cb, present, same⟩ := Option.map_eq_some_iff.mp told
    obtain ⟨rfl, rfl⟩ := Prod.mk.inj same
    refine ⟨?_, present, ?_⟩
    · rw [dropLatestLocked_slots, setControl_self]
    · rw [dropLatestLocked_slots, setControl_self, SlotControl.farewell]
      cases (hal.slots slot).capabilities with
      | none => rfl
      | some caps => by_cases named : caps.registration = 0 <;> simp [named, HalMessage.ending]

theorem StableHal.Standing.of_same (standing : hal.Standing slot token binder message)
    (configuration : (after.slots slot).configuration = (hal.slots slot).configuration)
    (capabilities : (after.slots slot).capabilities = (hal.slots slot).capabilities)
    (callback : after.callback = hal.callback) : after.Standing slot token binder message := by
  refine ⟨configuration.trans standing.configuration, callback.trans standing.callback, ?_⟩
  rw [← standing.farewell, SlotControl.farewell, SlotControl.farewell, configuration, capabilities]

theorem StableHal.Standing.of_control (standing : hal.Standing slot token binder message)
    (control : after.control = hal.control) : after.Standing slot token binder message := by
  have slots : after.slots = hal.slots := congrArg Control.slots control
  refine standing.of_same ?_ ?_ (congrArg Control.callback control)
  · rw [slots]
  · rw [slots]

end Standing

namespace SessionSystem

def Announces (world : SessionWorld) (label : SessionLabel) (id : Nat) (slot : Slot) (token : Int) (binder : Binder)
    (message : HalMessage) : Prop :=
  ∃ choice activity op owner width height fps next,
    label = .call id choice ∧ world.objects id = some activity ∧
      activity.serving = some (op, .call (.hal (.notifyStreamsConfigured (slot : Nat) owner width height fps)) next) ∧
      token = (world.shared.hal.notifyStreamsConfigured (slot : Nat) owner width height fps).1 ∧
      (world.shared.hal.notifyStreamsConfigured (slot : Nat) owner width height fps).2.1 = some (binder, message)

def Supersedes (world : SessionWorld) (label : SessionLabel) (slot : Slot) : Prop :=
  (∃ id owner token, Obtains world label id slot owner token) ∨
    ∃ op : ControlOp, label = .outside (.hal (.control op)) ∧
      (op.revokes world.shared.hal slot = true ∨ op.withdraws world.shared.hal slot = true)

def Forgets (world : SessionWorld) (label : SessionLabel) : Prop :=
  ∃ (op : ControlOp) (slot : Slot), label = .outside (.hal (.control op)) ∧ op.forgets world.shared.hal slot = true

def Forthright (world : SessionWorld) (label : SessionLabel) (after : SessionWorld) : Prop :=
  Patient world label after ∧ ¬ Forgets world label

def EveryClosed (provider : Bool) (outcome : Nat → Bool) (labels : List SessionLabel) (world : SessionWorld) : Prop :=
  ∀ before label since id slot token binder message,
    Happened sessions.Step (boot provider outcome) labels before label since →
    Announces before label id slot token binder message →
    (∃ closing returning since', Happened sessions.Step (boot provider outcome) labels closing returning since' ∧
      CloseReturns closing id returning) →
    (binder, message.ending) ∈ world.shared.sent ∨
      ∃ later overriding since', Happened sessions.Step (boot provider outcome) labels later overriding since' ∧
        since'.length < since.length ∧ Supersedes later overriding slot

variable {world after : SessionWorld} {label : SessionLabel} {id : Nat} {activity : SessionActivity} {slot : Slot}
  {token : Int} {binder : Binder} {message : HalMessage}

theorem HalStep.sent {shared : Shared} (step : HalStep world label shared) {entry : Binder × HalMessage}
    (sent : entry ∈ world.shared.sent) : entry ∈ shared.sent := by
  cases step with
  | silent _ _ _ same => rwa [same]
  | called _ _ _ _ _ _ _ _ _ _ grown =>
    rw [grown]
    exact List.mem_append_left _ sent
  | outside _ _ _ _ _ same => rwa [same]

theorem HalStep.standing {shared : Shared} (step : HalStep world label shared)
    (natural : 0 ≤ world.shared.hal.nextIdentity)
    (issued : token ≠ 0) (kept : ¬ Forgets world label)
    (standing : world.shared.hal.Standing slot token binder message) :
    shared.hal.Standing slot token binder message ∨ (binder, message.ending) ∈ shared.sent ∨
      Supersedes world label slot := by
  have present : world.shared.hal.callback.isSome = true := by simp [standing.callback]
  have configured : (world.shared.hal.slots slot).configuration ≠ 0 := by rwa [standing.configuration]
  cases step with
  | silent _ _ same sent =>
    have hal : shared.hal = world.shared.hal := congrArg HalWorld.hal same
    exact .inl (by rwa [hal])
  | called id choice activity op call next found serves _ hal sent =>
    have answered : shared.hal = (call.answer world.shared.hal).2 := congrArg HalWorld.hal hal
    rw [answered]
    rcases call.evolves world.shared.hal with ⟨control, chosen, runs⟩ | ⟨_, quiet⟩
    · rw [runs]
      cases control.configuration world.shared.hal slot natural present configured with
      | standing configuration capabilities callback => exact .inl (standing.of_same configuration capabilities callback)
      | closed owner shape told =>
        have asked : call = .notifyCameraClosed (slot : Nat) owner (world.shared.hal.slots slot).configuration := by
          cases call <;> cases chosen <;> cases shape
          rfl
        refine .inr (.inl ?_)
        rw [sent, asked]
        refine List.mem_append_right _ ?_
        rw [HalCall.sends, told, standing.callback, standing.farewell]
        simp
      | superseded owner width height fps shape issued =>
        have asked : call = .notifyStreamsConfigured (slot : Nat) owner width height fps := by
          cases call <;> cases chosen <;> cases shape
          rfl
        subst asked
        exact .inr (.inr (.inl ⟨id, owner, _, choice, activity, op, width, height, fps, next, rfl, found, serves, rfl,
          issued⟩))
      | revoked revokes => cases call <;> cases chosen <;> cases revokes
      | withdrawn withdraws => cases call <;> cases chosen <;> cases withdraws
      | forgotten forgets => cases call <;> cases chosen <;> cases forgets
    · exact .inl (standing.of_control quiet.control)
  | outside event foreign allowed _ hal sent =>
    have performed : shared.hal = (world.shared.world.perform event).hal := congrArg HalWorld.hal hal
    rw [performed]
    rcases world.shared.world.perform_evolves event with ⟨control, rfl, runs⟩ | ⟨_, quiet | ⟨_, _, _, _, same⟩⟩
    · rw [runs]
      cases control.configuration world.shared.hal slot natural present configured with
      | standing configuration capabilities callback => exact .inl (standing.of_same configuration capabilities callback)
      | closed owner shape told =>
        subst shape
        cases foreign
      | superseded owner width height fps shape issued =>
        subst shape
        cases foreign
      | revoked revokes => exact .inr (.inr (.inr ⟨control, rfl, .inl revokes⟩))
      | withdrawn withdraws => exact .inr (.inr (.inr ⟨control, rfl, .inr withdraws⟩))
      | forgotten forgets => exact absurd ⟨control, slot, rfl, forgets⟩ kept
    · exact .inl (standing.of_control quiet.control)
    · exact .inl (standing.of_control same)

theorem Forthright.patient {provider : Bool} {outcome : Nat → Bool} {labels : List SessionLabel}
    (run : Run Forthright (boot provider outcome) labels world) : Run Patient (boot provider outcome) labels world :=
  run.mono fun _ _ _ forthright => forthright.1

theorem observe_token {ledger : Ledger} (event : Event Environment) (known : token ∈ ledger.tokens) :
    token ∈ (ledger.observe event).tokens := by
  unfold Ledger.observe
  split
  · exact known
  · exact known
  · split
    · exact List.mem_cons_of_mem _ known
    · exact known
  · exact known

theorem token_step (next : sessions.Step world label after) (found : world.objects id = some activity)
    (known : token ∈ (ledger activity).tokens) :
    ∃ activity', after.objects id = some activity' ∧ token ∈ (ledger activity').tokens := by
  have there : (world.objects id).isSome = true := by simp [found]
  obtain ⟨activity', present⟩ := Option.isSome_iff_exists.mp (System.step_present next there)
  refine ⟨activity', present, ?_⟩
  have move := step_local next present
  clear present
  cases move with
  | still label other found' | entered op other found' | requested index choice other op call rest found'
  | locked index other op ticket found' | left other op value own found' =>
    obtain rfl := Option.some.inj (found.symm.trans found')
    exact known
  | born options absent => simp [absent] at found
  | called choice other op call rest found' serves moved =>
    obtain rfl := Option.some.inj (found.symm.trans found')
    rw [ledger, Activity.view_snoc]
    exact observe_token _ known

theorem Announces.obtains (announces : Announces world label id slot token binder message)
    (natural : 0 ≤ world.shared.hal.nextIdentity) : ∃ owner, Obtains world label id slot owner token := by
  obtain ⟨choice, activity, op, owner, width, height, fps, rest, rfl, found, serves, rfl, told⟩ := announces
  refine ⟨owner, choice, activity, op, width, height, fps, rest, rfl, found, serves, rfl, ?_⟩
  by_cases refused : owner ≤ 0 ∨ owner < (world.shared.hal.slots slot).sessionOwner ∨
      (owner = (world.shared.hal.slots slot).sessionOwner ∧ (world.shared.hal.slots slot).ownerClosed = true) ∨
        world.shared.hal.nextIdentity = int64Max
  · simp [notifyStreamsConfigured, refused] at told
  · simp only [notifyStreamsConfigured, validSlot_coe, if_neg refused]
    exact Int.lt_add_one_of_le natural

theorem Announces.issued (announces : Announces world label id slot token binder message)
    (next : sessions.Step world label after) (natural : 0 ≤ world.shared.hal.nextIdentity) :
    after.shared.hal.Standing slot token binder message ∧
      ∃ activity, after.objects id = some activity ∧ token ∈ (ledger activity).tokens := by
  obtain ⟨_, _, _, _, _, _, _, _, _, _, _, _, positive⟩ := announces.obtains natural
  obtain ⟨choice, activity, op, owner, width, height, fps, rest, rfl, found, serves, rfl, told⟩ := announces
  have standing := notifyStreamsConfigured_standing owner width height fps told
  cases next with
  | call _ _ other op' call rest' found' serves' =>
    obtain rfl := Option.some.inj (found.symm.trans found')
    cases serves.symm.trans serves'
    refine ⟨standing, _, (World.put_objects _ _ _ _ _).trans (if_pos rfl), ?_⟩
    rw [ledger, Activity.view_snoc]
    have answer : (sessions.respond id world.shared choice
        (.hal (.notifyStreamsConfigured (slot : Nat) owner width height fps))).1 =
        (world.shared.hal.notifyStreamsConfigured (slot : Nat) owner width height fps).1 := rfl
    rw [answer]
    simp only [Ledger.monitor, Ledger.observe, if_pos positive]
    exact List.mem_cons_self

variable {provider : Bool} {outcome : Nat → Bool} {labels : List SessionLabel}

theorem announcement (run : Run Forthright (boot provider outcome) labels world)
    (room : world.shared.hal.nextIdentity < int64Max) {before : SessionWorld} {since : List SessionLabel}
    (happened : Happened sessions.Step (boot provider outcome) labels before label since)
    (announces : Announces before label id slot token binder message) :
    (∃ activity, world.objects id = some activity ∧ token ∈ (ledger activity).tokens) ∧
      (world.shared.hal.Standing slot token binder message ∨ (binder, message.ending) ∈ world.shared.sent ∨
        ∃ later overriding since', Happened sessions.Step (boot provider outcome) labels later overriding since' ∧
          since'.length < since.length ∧ Supersedes later overriding slot) := by
  induction run generalizing since with
  | refl => exact absurd happened happened_nil
  | @snoc past middle final label' earlier next ih =>
    have earlier' := Patient.run (Forthright.patient earlier)
    have step := (regular provider outcome earlier').halStep next.1.1
    have room' := step.nextIdentity_le.trans_lt room
    have natural := (authority earlier' room').natural
    rcases happened.of_snoc with ⟨_, rfl, reached⟩ | ⟨since', rfl, happened'⟩
    · obtain rfl := reached.unique System.step_deterministic earlier'
      obtain ⟨standing, known⟩ := announces.issued next.1.1 natural
      exact ⟨known, .inl standing⟩
    · obtain ⟨⟨activity, found, known⟩, stands⟩ := ih room' happened'
      refine ⟨token_step next.1.1 found known, ?_⟩
      rcases stands with standing | sent | ⟨later, overriding, rest, overrides, shorter, supersedes⟩
      · have issued : token ≠ 0 := by
          have tokens := (authority earlier' room').tokens id (ledger activity) (by simp [ledgers, found]) _ known
          omega
        refine (step.standing natural issued next.2 standing).imp_right (Or.imp_right fun supersedes => ?_)
        exact ⟨middle, label', [], .last earlier' label', by simp, supersedes⟩
      · exact .inr (.inl (step.sent sent))
      · exact .inr (.inr ⟨later, overriding, _, overrides.snoc label', by simpa using shorter, supersedes⟩)

theorem every_closed (provider : Bool) (outcome : Nat → Bool) {labels : List SessionLabel} {world : SessionWorld}
    (run : Run Forthright (boot provider outcome) labels world) (room : world.shared.hal.nextIdentity < int64Max) :
    EveryClosed provider outcome labels world := by
  rintro before label since id slot token binder message happened announces ⟨closing, returning, since', closed, returns⟩
  have patient := Forthright.patient run
  obtain ⟨⟨activity, found, known⟩, stands⟩ := announcement run room happened announces
  obtain ⟨other, found', told⟩ := returned_told patient room closed returns
  obtain rfl := Option.some.inj (found.symm.trans found')
  have detached := (endings patient room id activity found).detached told slot
  refine stands.resolve_left fun standing => detached ?_
  rwa [standing.configuration]

theorem Obtains.grows {owner : Int} (obtains : Obtains world label id slot owner token)
    (next : sessions.Step world label after) (room : world.shared.hal.nextIdentity < int64Max) :
    after.shared.hal.nextIdentity = world.shared.hal.nextIdentity + 1 := by
  obtain ⟨choice, activity, op, width, height, fps, rest, rfl, found, serves, rfl, positive⟩ := obtains
  cases next with
  | call _ _ other op' call rest' found' serves' =>
    obtain rfl := Option.some.inj (found.symm.trans found')
    cases serves.symm.trans serves'
    rcases notifyStreamsConfigured_answer world.shared.hal slot owner width height fps room with
      ⟨none, _⟩ | ⟨_, issued⟩
    · exact absurd positive none.not_gt
    · exact issued.next

theorem not_every_closed_of {early since : List SessionLabel} {choice : (call : Call) → call.Reply}
    {before : SessionWorld} (reached : Run sessions.Step (boot provider outcome) early before)
    (run : Run sessions.Step (boot provider outcome) (early ++ .call id choice :: since) world)
    (room : world.shared.hal.nextIdentity < int64Max)
    (announces : Announces before (.call id choice) id slot token binder message)
    (closed : ∃ closing returning since',
      Happened sessions.Step (boot provider outcome) (early ++ .call id choice :: since) closing returning since' ∧
        CloseReturns closing id returning)
    (silent : (binder, message.ending) ∉ world.shared.sent)
    (single : world.shared.hal.nextIdentity = before.shared.hal.nextIdentity + 1)
    (outside : ∀ (op : ControlOp) hal, .outside (.hal (.control op)) ∈ since →
      op.revokes hal slot = false ∧ op.withdraws hal slot = false) :
    ¬ EveryClosed provider outcome (early ++ .call id choice :: since) world := by
  intro every
  rcases every before _ since id slot token binder message ⟨early, rfl, reached⟩ announces closed with
    sent | ⟨later, overriding, since', happened, shorter, supersedes⟩
  · exact silent sent
  · obtain ⟨between, rfl, reaches⟩ := happened.later shorter
    obtain ⟨next, taken, rest⟩ := happened.rest run System.step_deterministic
    rcases supersedes with ⟨other, owner, token', obtains⟩ | ⟨op, rfl, overrides⟩
    · obtain ⟨before', early', late⟩ := reaches.split
      obtain rfl := reached.unique System.step_deterministic early'
      rw [← List.singleton_append] at late
      obtain ⟨middle, first, more⟩ := late.split
      have started := regular provider outcome reached
      have grown := run_nextIdentity (regular provider outcome (reached.append first)) more
      have left := run_nextIdentity (regular provider outcome (reaches.snoc taken)) rest
      have step := ((regular provider outcome reaches).halStep taken).nextIdentity_le
      have once := (started.halStep first.of_single).nextIdentity_le
      obtain ⟨asker, asked⟩ := announces.obtains (authority reached (by omega)).natural
      have issued := asked.grows first.of_single (by omega)
      have again := obtains.grows taken (by omega)
      omega
    · obtain ⟨kept, stays⟩ := outside op later.shared.hal (by simp)
      simp [kept, stays] at overrides

-- Whether the step is one that `Forthright` allows; it is safe to be too strict.
def candid (world : SessionWorld) (label : SessionLabel) : Bool :=
  prompt world label && match label with
    | .outside (.hal (.control op)) => (List.finRange kMaxVirtualCameras).all fun slot =>
        !op.forgets world.shared.hal slot
    | _ => true

theorem forthright_of_candid (passes : candid world label = true) (next : sessions.Step world label after) :
    Forthright world label after := by
  obtain ⟨prompts, remembers⟩ := (Bool.and_eq_true _ _).mp passes
  refine ⟨(orderly_of_prompt prompts next).1, ?_⟩
  rintro ⟨op, slot, rfl, forgets⟩
  simpa [forgets] using List.all_eq_true.mp remembers slot (List.mem_finRange slot)

theorem every_closed_announced :
    ∃ world, Run Forthright (boot true fun _ => true) closeLabels world ∧
      world.shared.sent = [(3, .streamsConfiguredForProducer 0 1 2 640 480 30), (3, .cameraClosedForProducer 0 1 2)] ∧
      EveryClosed true (fun _ => true) closeLabels world := by
  have computed : ((closeLabels.foldlM (fun world label =>
      if candid world label then sessions.perform world label else none) (boot true fun _ => true)).any fun world =>
        decide (world.shared.sent = [(3, .streamsConfiguredForProducer 0 1 2 640 480 30),
          (3, .cameraClosedForProducer 0 1 2)] ∧ world.shared.hal.nextIdentity < int64Max)) = true := by
    decide +kernel
  obtain ⟨world, folds, heard⟩ := (Option.any_eq_true _ _).mp computed
  obtain ⟨sent, room⟩ := of_decide_eq_true heard
  have run : Run Forthright (boot true fun _ => true) closeLabels world := by
    refine (Run.of_foldlM folds).mono fun state label after performs => ?_
    by_cases passes : candid state label = true
    · rw [if_pos passes] at performs
      exact forthright_of_candid passes (System.perform_step performs)
    · rw [if_neg passes] at performs
      cases performs
  exact ⟨world, run, sent, every_closed true (fun _ => true) run room⟩

def rejectedRest : List SessionLabel :=
  [ .leave 0
  , .outside (.hal (.control (.setConfigurationReady 0 2 false)))
  , .enter 0 .close
  , .request 0 0 Call.succeed
  , .request 0 0 Call.succeed
  , .lock 0 0 ] ++ List.replicate 3 (.call 0 Call.succeed)

def overtakenRest : List SessionLabel :=
  [ .leave 0
  , .enter 0 .close
  , .request 0 0 Call.succeed
  , .request 0 0 Call.succeed
  , .enter 0 .close
  , .request 0 1 Call.succeed
  , .request 0 1 Call.succeed
  , .lock 0 1 ]

def announcement640 : HalMessage := .streamsConfiguredForProducer 0 1 2 640 480 30

def unheard (rest : List SessionLabel) : Bool :=
  (configureLabels.dropLast.foldlM sessions.perform (boot true fun _ => true)).any fun before =>
    ((before.objects 0).any fun activity => match activity.serving with
      | some (_, .call (.hal (.notifyStreamsConfigured slot owner width height fps)) _) =>
        decide (slot = 0 ∧ (before.shared.hal.notifyStreamsConfigured 0 owner width height fps).1 = 2 ∧
          (before.shared.hal.notifyStreamsConfigured 0 owner width height fps).2.1 = some (3, announcement640))
      | _ => false) &&
    ((Label.call 0 Call.succeed :: rest).foldlM sessions.perform before).any fun closing =>
      ((closing.objects 0).any fun activity => match activity.serving with
        | some (some .close, .ret _) => true
        | _ => false) &&
      decide (closing.shared.sent = [(3, announcement640)] ∧ before.shared.hal.nextIdentity = 1 ∧
        closing.shared.hal.nextIdentity = 2)

theorem unheard_unclosed (rest : List SessionLabel) (computed : unheard rest = true)
    (outside : ∀ (op : ControlOp) hal, .outside (.hal (.control op)) ∈ rest →
      op.revokes hal 0 = false ∧ op.withdraws hal 0 = false) :
    ∃ world, Run sessions.Step (boot true fun _ => true) (configureLabels ++ rest ++ [.leave 0]) world ∧
      world.shared.hal.nextIdentity < int64Max ∧
      ¬ EveryClosed true (fun _ => true) (configureLabels ++ rest ++ [.leave 0]) world := by
  obtain ⟨before, folds, found⟩ := (Option.any_eq_true _ _).mp computed
  obtain ⟨asks, finishes⟩ := (Bool.and_eq_true _ _).mp found
  obtain ⟨activity, present, serving⟩ := (Option.any_eq_true _ _).mp asks
  obtain ⟨closing, rests, ends⟩ := (Option.any_eq_true _ _).mp finishes
  obtain ⟨returns, measured⟩ := (Bool.and_eq_true _ _).mp ends
  obtain ⟨sent, identity, last⟩ := of_decide_eq_true measured
  obtain ⟨session, present', serving'⟩ := (Option.any_eq_true _ _).mp returns
  have reached : Run sessions.Step (boot true fun _ => true) configureLabels.dropLast before :=
    System.run_perform folds
  have whole : configureLabels = configureLabels.dropLast ++ [.call 0 Call.succeed] := rfl
  have shape : configureLabels ++ rest = configureLabels.dropLast ++ .call 0 Call.succeed :: rest := by
    rw [whole, List.append_assoc]
    rfl
  split at serving'
  next value serves =>
    obtain ⟨value, own⟩ := value
    have early : Run sessions.Step (boot true fun _ => true) (configureLabels ++ rest) closing := by
      rw [shape]
      exact reached.append (System.run_perform rests)
    have run := early.snoc (System.Step.leave 0 session (some .close) value own present' serves)
    refine ⟨_, run, ?_, ?_⟩
    · change closing.shared.hal.nextIdentity < int64Max
      rw [last]
      decide
    · split at serving
      next asked =>
        obtain ⟨rfl, token, told⟩ := of_decide_eq_true serving
        have announces : Announces before (.call 0 Call.succeed) 0 0 2 3 announcement640 :=
          ⟨_, activity, _, _, _, _, _, _, rfl, present, asked, token.symm, told⟩
        have closed : CloseReturns closing 0 (.leave 0) := .outer session value own present' serves
        rw [shape, List.append_assoc, List.cons_append] at run ⊢
        refine not_every_closed_of reached run ?_ announces ⟨closing, _, [], ⟨configureLabels ++ rest, ?_, early⟩, closed⟩
          ?_ ?_ ?_
        · change closing.shared.hal.nextIdentity < int64Max
          rw [last]
          decide
        · rw [shape, List.append_assoc, List.cons_append]
        · change _ ∉ closing.shared.sent
          rw [sent]
          decide
        · change closing.shared.hal.nextIdentity = _
          rw [last, identity]
          rfl
        · intro op hal member
          refine outside op hal ?_
          simpa using member
      next => cases serving
  next => cases serving'

theorem close_unheard :
    (∃ world, Run sessions.Step (boot true fun _ => true) (configureLabels ++ rejectedRest ++ [.leave 0]) world ∧
      world.shared.hal.nextIdentity < int64Max ∧
      ¬ EveryClosed true (fun _ => true) (configureLabels ++ rejectedRest ++ [.leave 0]) world) ∧
    ∃ world, Run sessions.Step (boot true fun _ => true) (configureLabels ++ overtakenRest ++ [.leave 0]) world ∧
      world.shared.hal.nextIdentity < int64Max ∧
      ¬ EveryClosed true (fun _ => true) (configureLabels ++ overtakenRest ++ [.leave 0]) world := by
  constructor
  next =>
    refine unheard_unclosed rejectedRest (by decide +kernel) fun op hal member => ?_
    obtain rfl : op = .setConfigurationReady 0 2 false := by simpa [rejectedRest] using member
    exact ⟨rfl, rfl⟩
  next =>
    refine unheard_unclosed overtakenRest (by decide +kernel) fun op hal member => ?_
    simp [overtakenRest] at member

end SessionSystem

end VirtualCamera
