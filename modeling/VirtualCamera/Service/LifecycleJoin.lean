import VirtualCamera.Service.LifecycleSlot

set_option autoImplicit false

namespace VirtualCamera

open Descriptors Joins Runs

namespace RelayWorld

structure Joined (epoch : Epoch) (slot : Slot) (registration : Int) (start : RelayWorld) (labels : List RelayLabel)
    (final : RelayWorld) : Prop where
  greatest : IsGreatest (delivered (start.relay.stage slot) (lifecycleEvent epoch slot registration) labels)
    (final.relay.stage slot)
  -- From a connection's first state on, nothing but the events counts.
  first : start.relay.configurations slot = {} →
    (∃ label ∈ labels, lifecycleEvent epoch slot registration label ≠ none) →
    IsGreatest { added | ∃ label ∈ labels, lifecycleEvent epoch slot registration label = some added }
      (final.relay.stage slot)
  admitted : ∀ token closed, (final.relay.admitEvent epoch slot token closed registration).1 = true ↔
    0 < token ∧ ∀ other ∈ delivered (start.relay.stage slot) (lifecycleEvent epoch slot registration) labels,
      other < stage token closed
  unopened : ∀ token,
    stage token true ∈ delivered (start.relay.stage slot) (lifecycleEvent epoch slot registration) labels →
      final.relay.configurations slot ≠ { token, closed := false }

theorem lifecycleEvent_token {epoch : Epoch} {slot : Slot} {registration : Int} {label : RelayLabel} {added : Stage}
    (event : lifecycleEvent epoch slot registration label = some added) :
    ∃ token closed, 0 < token ∧ stage token closed = added := by
  cases label
  case admitEvent connection place token closed registered =>
    simp only [lifecycleEvent] at event
    split at event <;> cases event
    next own => exact ⟨token, closed, own.2.2.2, rfl⟩
  all_goals cases event

theorem joined_run {past labels : List RelayLabel} {start final : RelayWorld} {epoch : Epoch} {slot : Slot}
    {registration : Int} (reached : Run Step {} past start) (within : Within epoch slot registration start)
    (run : Run (StepWithin epoch slot registration) start labels final) :
    Joined epoch slot registration start labels final := by
  have traced := run.invariant (fun labels state => Within epoch slot registration state ∧ Sound state ∧
      Run (fun world label after => Sound world ∧ StepWithin epoch slot registration world label after) start labels
        state)
    ⟨within, sound_run reached, .refl⟩ fun _ middle label after _ earlier next =>
      ⟨next.2.2, sound_step middle label after earlier.2.1 next.1, earlier.2.2.snoc ⟨earlier.2.1, next⟩⟩
  obtain ⟨still, -, sound⟩ := traced
  have joining := stage_joining epoch slot registration
  have greatest := joining.greatest sound
  constructor
  case greatest => exact greatest
  case first =>
    intro fresh delivers
    refine joining.greatest_of_fresh sound (fun label _ added event => ?_) delivers
    obtain ⟨token, closed, issued, rfl⟩ := lifecycleEvent_token event
    rw [Relay.stage, fresh, stage_lt_iff]
    exact .inl issued
  case admitted =>
    intro token closed
    rw [← joining.lt_iff sound]
    by_cases issued : 0 < token
    next =>
      rw [final.relay.admitEvent_of_current epoch slot token closed registration still.alive still.current still.registered
        still.positive issued]
      split
      next raises => exact iff_of_true rfl ⟨issued, raises⟩
      next stays => exact iff_of_false (by simp) fun raises => stays raises.2
    next =>
      refine iff_of_false (fun admitted => ?_) fun raises => issued raises.1
      rcases final.relay.admitEvent_cases epoch slot token closed registration with same | ⟨_, _, positive, _⟩
      · simp [same] at admitted
      · exact issued positive
  case unopened =>
    intro token closed opened
    have above := greatest.2 closed
    rw [Relay.stage, opened, ← not_lt, stage_lt_iff] at above
    simp at above

end RelayWorld

namespace LifecycleSlot

variable {T : Type} [DecidableEq T]

def configurationEvent (owner : T) : LifecycleCall T × Nat → Option (ℕ ×ₗ Stage)
  | (.nextConfigurationEvent camera connection token closed, _) =>
    if camera = owner ∧ connection ≠ 0 ∧ 0 < token then some (stageOf connection token closed) else none
  | _ => none

-- The steps while the owner keeps the slot. Only tests call `nextEvent`, which moves the connection by itself.
def StepOwned (owner : T) (slot : LifecycleSlot T) (label : LifecycleCall T × Nat) (after : LifecycleSlot T) : Prop :=
  Step slot label after ∧ slot.owns owner = true ∧ after.owns owner = true ∧
    ∀ camera connection, label.1 ≠ .nextEvent camera connection

structure Joined (owner : T) (start : LifecycleSlot T) (labels : List (LifecycleCall T × Nat))
    (final : LifecycleSlot T) : Prop where
  greatest : IsGreatest (delivered start.stage (configurationEvent owner) labels) final.stage
  -- A slot that has seen no connection yet.
  first : start.connection = 0 → (∃ label ∈ labels, configurationEvent owner label ≠ none) →
    IsGreatest { added | ∃ label ∈ labels, configurationEvent owner label = some added } final.stage
  admitted : ∀ connection token closed, (final.nextConfigurationEvent owner connection token closed).1 ≠ 0 ↔
    connection ≠ 0 ∧ 0 < token ∧
      ∀ other ∈ delivered start.stage (configurationEvent owner) labels, other < stageOf connection token closed
  unopened : ∀ connection token,
    stageOf connection token true ∈ delivered start.stage (configurationEvent owner) labels →
      ¬ (final.connection = connection ∧ final.configuration = token ∧ final.configurationClosed = false)
  current : ∀ event ∈ issued labels, final.isCurrentEvent owner event = true ↔ (issued labels).getLast? = some event

variable {slot after : LifecycleSlot T} {owner : T}

theorem stage_passes (label : LifecycleCall T × Nat) (next : StepOwned owner slot label after)
    (other : configurationEvent owner label = none) :
    after.stage = slot.stage ∧ after.event = slot.event ∧ label.2 = 0 := by
  obtain ⟨step, owns, still, tokened⟩ := next
  obtain ⟨owned, opened⟩ := owns_iff.mp owns
  obtain ⟨call, event⟩ := label
  cases call with
  | reserve camera =>
    have taken : slot.owner ≠ none := by simp [owned]
    simp only [Step, perform, reserve, if_pos taken] at step
    cases step
    exact ⟨rfl, rfl, rfl⟩
  | beginClose camera =>
    simp only [Step, perform, beginClose] at step
    split at step <;> cases step
    next => simp [owns_iff] at still
    next => exact ⟨rfl, rfl, rfl⟩
  | finishClose camera =>
    simp only [Step, perform, finishClose, opened, or_true, if_true] at step
    cases step
    exact ⟨rfl, rfl, rfl⟩
  | nextEvent camera connection => exact absurd rfl (tokened camera connection)
  | nextConfigurationEvent camera connection token closed =>
    simp only [Step, perform, nextConfigurationEvent_eq] at step
    split at step <;> cases step
    next admitted =>
      have same : camera = owner := by
        have owned' := (owns_iff.mp admitted.1).1
        rw [owned] at owned'
        exact (Option.some.inj owned').symm
      simp only [configurationEvent, if_pos (And.intro same (And.intro admitted.2.1 admitted.2.2.1))] at other
      cases other
    next => exact ⟨rfl, rfl, rfl⟩

theorem stage_joins (label : LifecycleCall T × Nat) (next : StepOwned owner slot label after) (added : ℕ ×ₗ Stage)
    (event : configurationEvent owner label = some added) :
    after.stage = max slot.stage added ∧ after.event = slot.event + (if slot.stage < added then 1 else 0) ∧
      label.2 = (if slot.stage < added then slot.event + 1 else 0) := by
  obtain ⟨step, owns, _, _⟩ := next
  obtain ⟨call, returned⟩ := label
  cases call with
  | nextConfigurationEvent camera connection token closed =>
    simp only [configurationEvent] at event
    split at event <;> cases event
    next own =>
      obtain ⟨rfl, connected, positive⟩ := own
      simp only [Step, perform, nextConfigurationEvent_eq] at step
      by_cases raises : slot.stage < stageOf connection token closed
      next =>
        rw [if_pos ⟨owns, connected, positive, raises⟩] at step
        cases step
        rw [max_eq_right raises.le, if_pos raises, if_pos raises]
        exact ⟨rfl, rfl, rfl⟩
      next =>
        rw [if_neg fun all => raises all.2.2.2] at step
        cases step
        rw [max_eq_left (not_lt.mp raises), if_neg raises, if_neg raises]
        exact ⟨rfl, rfl, rfl⟩
  | _ => cases event

theorem stage_joining (owner : T) :
    Joining (StepOwned owner) LifecycleSlot.stage (configurationEvent owner) where
  passes _ label _ next other := (stage_passes label next other).1
  joins _ label _ added next event := (stage_joins label next added event).1

theorem event_owned (label : LifecycleCall T × Nat) (next : StepOwned owner slot label after) :
    (label.2 = 0 ∧ after.event = slot.event) ∨ (label.2 ≠ 0 ∧ after.event = label.2) := by
  cases event : configurationEvent owner label with
  | none =>
    obtain ⟨_, same, returned⟩ := stage_passes label next event
    exact .inl ⟨returned, same⟩
  | some added =>
    obtain ⟨_, counted, returned⟩ := stage_joins label next added event
    by_cases raises : slot.stage < added
    next =>
      rw [returned, counted, if_pos raises, if_pos raises]
      exact .inr ⟨Nat.succ_ne_zero _, rfl⟩
    next => exact .inl ⟨by rw [returned, if_neg raises], by rw [counted, if_neg raises]; rfl⟩

theorem last_owned {start final : LifecycleSlot T} {labels : List (LifecycleCall T × Nat)}
    (run : Run (StepOwned owner) start labels final) (event : Nat) (last : (issued labels).getLast? = some event) :
    event ≠ 0 ∧ final.event = event := by
  induction run with
  | refl => cases last
  | @snoc labels middle after label run next ih =>
    by_cases returned : label.2 = 0
    next =>
      have same : issued (labels ++ [label]) = issued labels := by simp [issued, returned]
      obtain ⟨positive, counted⟩ := ih (same ▸ last)
      refine ⟨positive, ?_⟩
      rcases event_owned label next with ⟨_, kept⟩ | ⟨counts, _⟩
      · exact kept.trans counted
      · exact absurd returned counts
    next =>
      have added : issued (labels ++ [label]) = issued labels ++ [label.2] := by simp [issued, returned]
      rw [added, List.getLast?_concat] at last
      cases last
      exact (event_owned label next).resolve_left fun none => returned none.1

theorem joined_run {start final : LifecycleSlot T} {labels : List (LifecycleCall T × Nat)}
    (owns : start.owns owner = true) (run : Run (StepOwned owner) start labels final) :
    Joined owner start labels final := by
  have joining := stage_joining owner
  have greatest := joining.greatest run
  have still : final.owns owner = true :=
    run.invariant (fun _ slot => slot.owns owner = true) owns fun _ _ _ _ _ _ next => next.2.2.1
  constructor
  case greatest => exact greatest
  case first =>
    intro fresh delivers
    refine joining.greatest_of_fresh run (fun label _ added event => ?_) delivers
    obtain ⟨call, returned⟩ := label
    cases call with
    | nextConfigurationEvent camera connection token closed =>
      simp only [configurationEvent] at event
      split at event <;> cases event
      next own =>
        rw [stage, stageOf, fresh, Prod.Lex.toLex_lt_toLex]
        exact .inl (Nat.pos_of_ne_zero own.2.1)
    | _ => cases event
  case admitted =>
    intro connection token closed
    rw [← joining.lt_iff run, nextConfigurationEvent_eq]
    split
    next admitted => exact iff_of_true (Nat.succ_ne_zero _) admitted.2
    next refused => exact iff_of_false (fun nonzero => nonzero rfl) fun admitted => refused ⟨still, admitted⟩
  case unopened =>
    rintro connection token closed ⟨rfl, rfl, opened⟩
    have above := greatest.2 closed
    rw [stage, stageOf, ← not_lt, Prod.Lex.toLex_lt_toLex, opened, stage_lt_iff] at above
    simp at above
  case current =>
    intro event member
    constructor
    next => exact (issued_of_run (run.mono fun _ _ _ next => next.1)).latest owner event member
    next =>
      intro last
      obtain ⟨positive, counted⟩ := last_owned run event last
      simp [isCurrentEvent, still, positive, counted]

end LifecycleSlot

structure LifecycleJoin : Prop where
  relay : ∀ past start labels final epoch slot registration, Run RelayWorld.Step {} past start →
    RelayWorld.Within epoch slot registration start →
    Run (RelayWorld.StepWithin epoch slot registration) start labels final →
    RelayWorld.Joined epoch slot registration start labels final
  slot : ∀ (T : Type) [DecidableEq T] (owner : T) start labels final, start.owns owner = true →
    Run (LifecycleSlot.StepOwned owner) start labels final → LifecycleSlot.Joined owner start labels final
  events : ∀ (T : Type) [DecidableEq T] (start final : LifecycleSlot T) labels,
    Run LifecycleSlot.Step start labels final → LifecycleSlot.Issued start labels final

theorem lifecycle_join : LifecycleJoin where
  relay _ _ _ _ _ _ _ reached within run := RelayWorld.joined_run reached within run
  slot _ _ _ _ _ _ owns run := LifecycleSlot.joined_run owns run
  events _ _ _ _ _ run := LifecycleSlot.issued_of_run run

-- A close overtakes its configure, and the configure before it comes last; the slot then sees a new connection.
def overtaken : List RelayLabel := [.admitEvent 1 0 5 true 1000, .admitEvent 1 0 5 false 1000,
    .admitEvent 1 0 4 false 1000]

theorem lifecycle_join_overtaken :
    (∃ start final, RelayWorld.Joined 1 0 1000 start overtaken final ∧
      final.relay.configurations 0 = { token := 5, closed := true }) ∧
    ∃ labels, ∃ final : LifecycleSlot Nat, LifecycleSlot.Joined 1000 { owner := some 1000 } labels final ∧
      LifecycleSlot.issued labels = [1, 2] ∧ final.isCurrentEvent 1000 2 = true := by
  constructor
  next =>
    let within (world : RelayWorld) : Bool :=
      decide (world.relay.hal.isSome = true ∧ world.relay.connectionEpoch = 1 ∧ world.relay.registrations 0 = 1000)
    let next (world : RelayWorld) (label : RelayLabel) : Option RelayWorld :=
      (world.perform label).filter fun after => within world && within after
    have holds (world : RelayWorld) (checked : within world = true) : RelayWorld.Within 1 0 1000 world :=
      have ⟨alive, current, registered⟩ := of_decide_eq_true checked
      ⟨alive, current, registered, by decide⟩
    have computed : ([.ask, .connect 7 6, .connected, .register 7 0 1000].foldlM RelayWorld.perform {}).any
        (fun start => within start && (overtaken.foldlM next start).any fun final =>
          final.relay.configurations 0 == { token := 5, closed := true }) = true := by
      decide +kernel
    obtain ⟨start, reached, checked⟩ := Run.of_any computed
    obtain ⟨inside, joins⟩ := (Bool.and_eq_true _ _).mp checked
    obtain ⟨final, run, ended⟩ := Run.of_any joins
    refine ⟨start, final, lifecycle_join.relay _ start _ final 1 0 1000 reached (holds start inside)
      (run.mono fun world label after found => ?_), beq_iff_eq.mp ended⟩
    obtain ⟨step, kept⟩ := Option.filter_eq_some_iff.mp found
    obtain ⟨before, still⟩ := (Bool.and_eq_true _ _).mp kept
    exact ⟨step, holds world before, holds after still⟩
  next =>
    have closes : LifecycleSlot.StepOwned 1000 { owner := some 1000 } (.nextConfigurationEvent 1000 1 5 true, 1)
        { owner := some 1000, connection := 1, event := 1, configuration := 5, configurationClosed := true } :=
      ⟨rfl, rfl, rfl, nofun⟩
    have refused : LifecycleSlot.StepOwned 1000
        { owner := some 1000, connection := 1, event := 1, configuration := 5, configurationClosed := true }
        (.nextConfigurationEvent 1000 1 5 false, 0)
        { owner := some 1000, connection := 1, event := 1, configuration := 5, configurationClosed := true } :=
      ⟨rfl, rfl, rfl, nofun⟩
    have renewed : LifecycleSlot.StepOwned 1000
        { owner := some 1000, connection := 1, event := 1, configuration := 5, configurationClosed := true }
        (.nextConfigurationEvent 1000 2 1 false, 2)
        { owner := some 1000, connection := 2, event := 2, configuration := 1 } :=
      ⟨rfl, rfl, rfl, nofun⟩
    exact ⟨_, _, lifecycle_join.slot Nat 1000 _ _ _ rfl (((Run.single closes).snoc refused).snoc renewed), rfl, rfl⟩

end VirtualCamera
