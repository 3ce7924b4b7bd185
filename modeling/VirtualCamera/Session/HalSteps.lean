import VirtualCamera.Session.Authority

set_option autoImplicit false

namespace VirtualCamera

open Interaction Interleaving Runs StableHal

namespace SessionSystem

inductive HalStep (world : SessionWorld) : SessionLabel → Shared → Prop where
  | silent (label : SessionLabel) (shared : Shared) (same : shared.world = world.shared.world)
      (sent : shared.sent = world.shared.sent) : HalStep world label shared
  | called (id : Nat) (choice : (call : Call) → call.Reply) (activity : SessionActivity)
      (op : Option FrameworkCall) (call : HalCall)
      (next : call.Reply → Program Environment (FrameworkReply × VirtualCameraSession))
      (found : world.objects id = some activity)
      (serves : activity.serving = some (op, .call (.hal call) next)) (shared : Shared)
      (hal : shared.world = { world.shared.world with hal := (call.answer world.shared.hal).2 })
      (sent : shared.sent = world.shared.sent ++ call.sends world.shared.hal) :
      HalStep world (.call id choice) shared
  | outside (event : HalEvent) (foreign : event.ofSession = false) (allowed : world.shared.world.Allowed event)
      (shared : Shared) (hal : shared.world = world.shared.world.perform event)
      (sent : shared.sent = world.shared.sent) : HalStep world (.outside (.hal event)) shared

variable {world after : SessionWorld} {label : SessionLabel}

theorem Regular.halStep (regular : Regular world) (next : sessions.Step world label after) :
    HalStep world label after.shared := by
  cases next with
  | create id options absent admitted => exact .silent _ _ rfl rfl
  | enter id op activity found => exact .silent _ _ rfl rfl
  | request id index choice activity op request next found asks =>
    obtain ⟨events, reaches⟩ := (regular.reached id activity found).entering _ _ (List.mem_of_getElem? asks)
    have plain := request_plain reaches
    have silent : ∀ asked, request ≠ .hal asked := by
      rintro asked rfl
      cases plain
    have same := respond_same id world.shared choice request silent
    exact .silent _ _ same.1 same.2.2
  | lock id index activity op ticket found waits free => exact .silent _ _ rfl rfl
  | call id choice activity op request next found serves =>
    by_cases asks : ∃ asked, request = .hal asked
    · obtain ⟨asked, rfl⟩ := asks
      exact .called id choice activity op asked next found serves _ rfl rfl
    · have same := respond_same id world.shared choice request fun asked same => asks ⟨asked, same⟩
      exact .silent _ _ same.1 same.2.2
  | leave id activity op value own found serves => exact .silent _ _ rfl rfl
  | outside change shared changes =>
    cases change with
    | hal event =>
      change SessionSystem.change world.shared (.hal event) = some shared at changes
      simp only [SessionSystem.change] at changes
      split at changes
      next allowed =>
        obtain rfl := Option.some.inj changes
        exact .outside event allowed.1 allowed.2 _ rfl rfl
      next => cases changes
    | getCameraDeviceInterface slot =>
      obtain ⟨descriptor, _, rfl⟩ := Option.map_eq_some_iff.mp changes
      exact .silent _ _ rfl rfl

theorem HalStep.control {shared : Shared} (step : HalStep world label shared) :
    (∃ op : ControlOp, shared.hal = op.run world.shared.hal ∧
        (op.publishes = true → label = .outside (.hal (.control op)))) ∨
      shared.hal.control = world.shared.hal.control := by
  cases step with
  | silent _ _ same sent => exact .inr (congrArg (fun world => world.hal.control) same)
  | called id choice activity op call next found serves _ hal sent =>
    have answered : shared.hal = (call.answer world.shared.hal).2 := congrArg HalWorld.hal hal
    rw [answered]
    rcases call.evolves world.shared.hal with ⟨op, chosen, runs⟩ | ⟨_, quiet⟩
    · refine .inl ⟨op, runs, fun publishes => ?_⟩
      cases call <;> cases chosen <;> cases publishes
    · exact .inr quiet.control
  | outside event foreign allowed _ hal sent =>
    have performed : shared.hal = (world.shared.world.perform event).hal := congrArg HalWorld.hal hal
    rw [performed]
    rcases world.shared.world.perform_evolves event with ⟨op, rfl, runs⟩ | ⟨_, quiet | ⟨_, _, _, _, control⟩⟩
    · exact .inl ⟨op, runs, fun _ => rfl⟩
    · exact .inr quiet.control
    · exact .inr control

theorem HalStep.nextIdentity_le {shared : Shared} (step : HalStep world label shared) :
    world.shared.hal.nextIdentity ≤ shared.hal.nextIdentity := by
  rcases step.control with ⟨op, runs, _⟩ | control
  · rw [runs]
    exact op.nextIdentity_le world.shared.hal
  · exact (congrArg Control.nextIdentity control).ge

theorem ledger_slot (activity : SessionActivity) : (ledger activity).slot = (activity.birth.slot : Nat) :=
  (Ledger.follow_birth _ activity.trace).1

variable {provider : Bool} {outcome : Nat → Bool} {labels : List SessionLabel}

theorem run_nextIdentity (start : Regular world) {rest : List SessionLabel}
    (run : Run sessions.Step world rest after) :
    Regular after ∧ world.shared.hal.nextIdentity ≤ after.shared.hal.nextIdentity := by
  induction run with
  | refl => exact ⟨start, le_rfl⟩
  | snoc _ next ih =>
    have regular : Regular _ := ⟨Ledger.discipline.step next ih.1.follows, System.step_reached next ih.1.reached⟩
    exact ⟨regular, ih.2.trans (ih.1.halStep next).nextIdentity_le⟩

theorem boot_dealt (provider : Bool) (outcome : Nat → Bool) :
    Dealt (boot provider outcome).shared.hal (ledgers (boot provider outcome)) where
  natural := le_rfl
  tokens _ _ found := nomatch found
  apart _ _ _ _ found := nomatch found

theorem dealt (run : Run sessions.Step (boot provider outcome) labels world) :
    Dealt world.shared.hal (ledgers world) := by
  induction run with
  | refl => exact boot_dealt provider outcome
  | snoc earlier next holds => exact holds.move ((regular provider outcome earlier).move next)

theorem boot_authority (provider : Bool) (outcome : Nat → Bool) :
    Authority (boot provider outcome).shared.hal (ledgers (boot provider outcome)) := by
  have dealt := boot_dealt provider outcome
  have none : ledgers (boot provider outcome) = fun _ => none := rfl
  have slots : ∀ slot, (boot provider outcome).shared.hal.slots slot = {} := fun _ => rfl
  have next : (boot provider outcome).shared.hal.nextIdentity = 0 := rfl
  rw [none] at dealt ⊢
  generalize (boot provider outcome).shared.hal = hal at dealt slots next
  refine ⟨dealt, fun slot => ?_, fun _ _ found => (nomatch found), fun _ _ _ _ found => (nomatch found),
    fun slot configured => ?_, fun _ _ found => (nomatch found), fun _ _ found => (nomatch found)⟩
  · rw [slots, next]
    exact ⟨le_rfl, le_rfl⟩
  · rw [slots] at configured
    exact absurd rfl configured

theorem authority (run : Run sessions.Step (boot provider outcome) labels world)
    (room : world.shared.hal.nextIdentity < int64Max) : Authority world.shared.hal (ledgers world) := by
  induction run with
  | refl => exact boot_authority provider outcome
  | @snoc past middle after label earlier next holds =>
    have now := regular provider outcome earlier
    have authority := holds ((now.halStep next).nextIdentity_le.trans_lt room)
    have move := now.move next
    generalize after.shared.hal = hal, ledgers after = moved at move room ⊢
    cases move with
    | silent => exact authority
    | born id options absent => exact authority.born options absent
    | called id ledger call found permitted =>
      obtain ⟨activity, present, rfl⟩ := Option.map_eq_some_iff.mp found
      exact authority.called found ⟨_, ledger_slot activity⟩ permitted room
    | outside world same event foreign =>
      rw [← same] at authority
      exact HalEvent.foreign_move world foreign authority room

end SessionSystem

end VirtualCamera
