import VirtualCamera.Session.HalSteps

set_option autoImplicit false

namespace VirtualCamera

open Interaction Interleaving Runs StableHal

namespace SessionSystem

-- With the step, session `id` has a token that it asked for in the name of `owner`.
def Obtains (world : SessionWorld) (label : SessionLabel) (id : Nat) (slot : Slot) (owner token : Int) : Prop :=
  ∃ choice activity op width height fps next,
    label = .call id choice ∧ world.objects id = some activity ∧
      activity.serving = some (op, .call (.hal (.notifyStreamsConfigured (slot : Nat) owner width height fps)) next) ∧
      token = (world.shared.hal.notifyStreamsConfigured (slot : Nat) owner width height fps).1 ∧ 0 < token

-- The slot took the descriptor from a producer, and `since` came after it.
def Registered (provider : Bool) (outcome : Nat → Bool) (labels : List SessionLabel) (slot : Slot)
    (descriptor : ProducerCapabilities) (since : List SessionLabel) : Prop :=
  ∃ before binder,
    Happened sessions.Step (boot provider outcome) labels before
      (.outside (.hal (.control (.registerProducer (slot : Nat) descriptor (some binder))))) since ∧
    (before.shared.hal.registerProducer (slot : Nat) descriptor (some binder)).1 = .ok

def NotReused (provider : Bool) (outcome : Nat → Bool) (labels : List SessionLabel) (slot : Slot) : Prop :=
  ∀ first second since since', Registered provider outcome labels slot first since →
    Registered provider outcome labels slot second since' → first.registration = second.registration →
    since = since'

structure SlotAuthority (provider : Bool) (outcome : Nat → Bool) (labels : List SessionLabel)
    (world : SessionWorld) : Prop where
  distinct : ∀ first second left right, world.objects first = some left → world.objects second = some right →
    0 < (ledger left).identity → (ledger left).identity = (ledger right).identity → first = second
  own : ∀ label id slot owner token, Obtains world label id slot owner token →
    ∃ activity, world.objects id = some activity ∧ activity.birth.slot = slot ∧ (ledger activity).identity = owner
  outranked : ∀ early rest middle slot owner, labels = early ++ rest →
    Run sessions.Step (boot provider outcome) early middle → middle.shared.hal.Outranked slot owner →
    ∀ label id token, ¬ Obtains world label id slot owner token
  revoked : ∀ before op since slot owner,
    Happened sessions.Step (boot provider outcome) labels before (.outside (.hal (.control op))) since →
    op.revokes before.shared.hal slot = true → owner ≤ before.shared.hal.nextIdentity →
    ∀ label id token, ¬ Obtains world label id slot owner token
  current : ∀ slot, (world.shared.hal.slots slot).configuration ≠ 0 →
    (world.shared.hal.slots slot).ownerClosed = false ∧
      ∃ id activity, world.objects id = some activity ∧ activity.birth.slot = slot ∧
        (ledger activity).identity = (world.shared.hal.slots slot).sessionOwner ∧
        (ledger activity).tokens.head? = some (world.shared.hal.slots slot).configuration
  enforced : ∀ slot, NotReused provider outcome labels slot →
    ∀ label id owner token activity descriptor, Obtains world label id slot owner token →
      world.objects id = some activity → activity.birth.capabilities = some descriptor →
      (world.shared.hal.slots slot).capabilities = some descriptor ∧
        ∃ since, Registered provider outcome labels slot descriptor since ∧
          .outside (.getCameraDeviceInterface slot) ∈ since

variable {world after : SessionWorld} {label : SessionLabel} {labels : List SessionLabel} {provider : Bool}
  {outcome : Nat → Bool} {slot : Slot} {owner token : Int} {id : Nat}

theorem HalStep.outranked {shared : Shared} (step : HalStep world label shared)
    (room : shared.hal.nextIdentity < int64Max) (outranked : world.shared.hal.Outranked slot owner)
    (bounded : owner ≤ world.shared.hal.nextIdentity) : shared.hal.Outranked slot owner := by
  rcases step.control with ⟨op, runs, _⟩ | control
  · rw [runs] at room ⊢
    exact outranked.move bounded (op.owns world.shared.hal slot room)
  · have slots : shared.hal.slots = world.shared.hal.slots := congrArg Control.slots control
    rwa [Outranked, slots]

theorem outranked_run (start : Regular world) {rest : List SessionLabel} (run : Run sessions.Step world rest after)
    (room : after.shared.hal.nextIdentity < int64Max) (outranked : world.shared.hal.Outranked slot owner)
    (bounded : owner ≤ world.shared.hal.nextIdentity) : after.shared.hal.Outranked slot owner := by
  induction run with
  | refl => exact outranked
  | snoc earlier next ih =>
    obtain ⟨regular, grows⟩ := run_nextIdentity start earlier
    have step := regular.halStep next
    exact step.outranked room (ih (step.nextIdentity_le.trans_lt room)) (bounded.trans grows)

theorem outranked_bounded {hal : StableHal} {ledgers : Nat → Option Ledger} (authority : Authority hal ledgers)
    (outranked : hal.Outranked slot owner) : owner ≤ hal.nextIdentity := by
  have upper := (authority.owners slot).2
  rcases outranked with older | ⟨same, _⟩ <;> omega

theorem Obtains.not_outranked (obtains : Obtains world label id slot owner token)
    (room : world.shared.hal.nextIdentity < int64Max) : ¬ world.shared.hal.Outranked slot owner := by
  obtain ⟨_, _, _, width, height, fps, _, _, _, _, rfl, positive⟩ := obtains
  rcases notifyStreamsConfigured_answer world.shared.hal slot owner width height fps room with
    ⟨none, _⟩ | ⟨_, issued⟩
  · exact absurd positive none.not_gt
  · exact issued.ranked

theorem Obtains.permitted (obtains : Obtains world label id slot owner token) (regular : Regular world) :
    ∃ activity, world.objects id = some activity ∧ (ledger activity).slot = (slot : Nat) ∧
      (ledger activity).identity = owner ∧
      ((ledger activity).registration.isSome = true → (ledger activity).checked = true) := by
  obtain ⟨_, activity, op, _, _, _, _, rfl, found, serves, _⟩ := obtains
  obtain ⟨here, named, checks⟩ := ((regular.follows id activity found).busy op _ serves (0 : Int)).1
  exact ⟨activity, found, here.symm, named.symm, checks⟩

theorem ledger_registration (activity : SessionActivity) :
    (ledger activity).registration = activity.birth.capabilities.map (·.registration) :=
  (Ledger.follow_birth _ activity.trace).2

variable {descriptor : ProducerCapabilities}

theorem Registered.snoc {since : List SessionLabel}
    (registered : Registered provider outcome labels slot descriptor since)
    (label : SessionLabel) : Registered provider outcome (labels ++ [label]) slot descriptor (since ++ [label]) := by
  obtain ⟨before, binder, happened, okay⟩ := registered
  exact ⟨before, binder, happened.snoc label, okay⟩

theorem HalStep.descriptor_held {shared : Shared} (step : HalStep world label shared)
    (held : (shared.hal.slots slot).capabilities = some descriptor) :
    (world.shared.hal.slots slot).capabilities = some descriptor ∨
      ∃ binder, label = .outside (.hal (.control (.registerProducer (slot : Nat) descriptor (some binder)))) ∧
        (world.shared.hal.registerProducer (slot : Nat) descriptor (some binder)).1 = .ok := by
  rcases step.control with ⟨op, runs, labelled⟩ | control
  · rw [runs] at held
    cases op.descriptors world.shared.hal with
    | kept callback capabilities published => exact .inl ((capabilities slot).symm.trans held)
    | registered chosen added binder shape okay owner callback vacant held' others published =>
      subst shape
      by_cases same : slot = chosen
      · subst same
        obtain rfl : added = descriptor := Option.some.inj (held'.symm.trans held)
        exact .inr ⟨binder, labelled rfl, okay⟩
      · rw [others slot same] at held
        exact .inl held
    | removed chosen gone binder shape okay owner callback held' cleared others published =>
      by_cases same : slot = chosen
      · subst same
        simp [cleared] at held
      · rw [others slot same] at held
        exact .inl held
    | replaced callback version shape okay present differs cleared published => simp [cleared slot] at held
  · have slots : shared.hal.slots = world.shared.hal.slots := congrArg Control.slots control
    rw [slots] at held
    exact .inl held

structure Provenance (provider : Bool) (outcome : Nat → Bool) (labels : List SessionLabel)
    (world : SessionWorld) : Prop where
  held : ∀ slot descriptor, (world.shared.hal.slots slot).capabilities = some descriptor →
    ∃ since, Registered provider outcome labels slot descriptor since
  devices : ∀ slot descriptor, (slot, descriptor) ∈ world.shared.devices →
    ∃ since, Registered provider outcome labels slot descriptor since ∧
      .outside (.getCameraDeviceInterface slot) ∈ since
  births : ∀ id activity, world.objects id = some activity → ∀ descriptor,
    activity.birth.capabilities = some descriptor → (activity.birth.slot, descriptor) ∈ world.shared.devices

theorem devices_step (next : sessions.Step world label after) {entry : Slot × ProducerCapabilities}
    (handed : entry ∈ after.shared.devices) :
    entry ∈ world.shared.devices ∨ label = .outside (.getCameraDeviceInterface entry.1) ∧
      (world.shared.hal.slots entry.1).capabilities = some entry.2 := by
  have answered : ∀ id choice call, entry ∈ (respond id world.shared choice call).2.devices →
      entry ∈ world.shared.devices := by
    intro id choice call handed
    cases call <;> exact handed
  cases next with
  | create | enter | lock | leave => exact .inl handed
  | request id index choice => exact .inl (answered _ _ _ handed)
  | call id choice => exact .inl (answered _ _ _ handed)
  | outside change shared changes =>
    cases change with
    | hal event =>
      change SessionSystem.change world.shared (.hal event) = some shared at changes
      simp only [SessionSystem.change] at changes
      split at changes
      next =>
        obtain rfl := Option.some.inj changes
        exact .inl handed
      next => cases changes
    | getCameraDeviceInterface slot =>
      obtain ⟨descriptor, found, rfl⟩ := Option.map_eq_some_iff.mp changes
      rcases List.mem_cons.mp handed with rfl | handed
      · rw [StableHal.capabilities, validSlot_coe] at found
        exact .inr ⟨rfl, found⟩
      · exact .inl handed

theorem devices_kept (next : sessions.Step world label after) {entry : Slot × ProducerCapabilities}
    (handed : entry ∈ world.shared.devices) : entry ∈ after.shared.devices := by
  cases next with
  | create | enter | lock | leave => exact handed
  | request id index choice activity op request => cases request <;> exact handed
  | call id choice activity op request => cases request <;> exact handed
  | outside change shared changes =>
    cases change with
    | hal event =>
      change SessionSystem.change world.shared (.hal event) = some shared at changes
      simp only [SessionSystem.change] at changes
      split at changes
      next =>
        obtain rfl := Option.some.inj changes
        exact handed
      next => cases changes
    | getCameraDeviceInterface slot =>
      obtain ⟨descriptor, found, rfl⟩ := Option.map_eq_some_iff.mp changes
      exact List.mem_cons_of_mem _ handed

theorem births_step (next : sessions.Step world label after) {activity : SessionActivity}
    (found : after.objects id = some activity) :
    (∃ before, world.objects id = some before ∧ activity.birth = before.birth) ∨
      SessionSystem.admits world.shared activity.birth = true := by
  cases next with
  | create other options absent admitted =>
    rw [World.put_objects] at found
    split at found
    next =>
      cases found
      exact .inr admitted
    next => exact .inl ⟨activity, found, rfl⟩
  | enter other op moved present | request other index choice moved op request next present asks
  | lock other index moved op ticket present waits free | call other choice moved op request next present serves
  | leave other moved op value own present serves =>
    rw [World.put_objects] at found
    split at found
    next same =>
      cases found
      exact .inl ⟨moved, same ▸ present, rfl⟩
    next => exact .inl ⟨activity, found, rfl⟩
  | outside change shared changes => exact .inl ⟨activity, found, rfl⟩

theorem provenance (run : Run sessions.Step (boot provider outcome) labels world) :
    Provenance provider outcome labels world := by
  induction run with
  | refl =>
    have slots : ∀ slot, (boot provider outcome).shared.hal.slots slot = {} := fun _ => rfl
    have devices : (boot provider outcome).shared.devices = [] := rfl
    have objects : ∀ id, (boot provider outcome).objects id = none := fun _ => rfl
    refine ⟨fun slot descriptor held => ?_, fun slot descriptor handed => ?_, fun id activity found => ?_⟩
    · simp [slots] at held
    · simp [devices] at handed
    · simp [objects] at found
  | @snoc past middle after label earlier next holds =>
    have step := (regular provider outcome earlier).halStep next
    refine ⟨fun slot descriptor held => ?_, fun slot descriptor handed => ?_,
      fun id activity found descriptor given => ?_⟩
    · rcases step.descriptor_held held with before | ⟨binder, rfl, okay⟩
      · obtain ⟨since, registered⟩ := holds.held slot descriptor before
        exact ⟨since ++ [label], registered.snoc label⟩
      · exact ⟨[], middle, binder, .last earlier _, okay⟩
    · rcases devices_step next handed with before | ⟨rfl, held⟩
      · obtain ⟨since, registered, handed⟩ := holds.devices slot descriptor before
        exact ⟨since ++ [label], registered.snoc label, List.mem_append_left _ handed⟩
      · obtain ⟨since, registered⟩ := holds.held slot descriptor held
        exact ⟨_, registered.snoc _, by simp⟩
    · refine devices_kept next ?_
      rcases births_step next found with ⟨before, present, same⟩ | admitted
      · rw [same] at given ⊢
        exact holds.births id before present descriptor given
      · simp only [SessionSystem.admits, given, Option.all_some, decide_eq_true_eq] at admitted
        exact admitted

theorem Registered.unique {other : ProducerCapabilities} {since : List SessionLabel}
    (registered : Registered provider outcome labels slot descriptor since)
    (again : Registered provider outcome labels slot other since) : descriptor = other := by
  obtain ⟨_, _, ⟨early, split, _⟩, _⟩ := registered
  obtain ⟨_, _, ⟨early', split', _⟩, _⟩ := again
  have same := (List.append_inj' (split.symm.trans split') rfl).2
  simp only [List.cons.injEq, Label.outside.injEq, SharedChange.hal.injEq, HalEvent.control.injEq,
    ControlOp.registerProducer.injEq, and_true] at same
  exact same.2.1

theorem session_authority (provider : Bool) (outcome : Nat → Bool) {labels : List SessionLabel} {world : SessionWorld}
    (run : Run sessions.Step (boot provider outcome) labels world)
    (room : world.shared.hal.nextIdentity < int64Max) : SlotAuthority provider outcome labels world := by
  have regular := regular provider outcome run
  have authority' := authority run room
  have known : ∀ id activity, world.objects id = some activity → ledgers world id = some (ledger activity) :=
    fun id activity found => by simp [ledgers, found]
  refine ⟨?_, ?_, ?_, ?_, ?_, ?_⟩
  · intro first second left right found found' positive same
    exact authority'.distinct first second _ _ (known first left found) (known second right found') positive same
  · intro label id slot owner token obtains
    obtain ⟨activity, found, named, identity, _⟩ := obtains.permitted regular
    rw [ledger_slot] at named
    exact ⟨activity, found, Fin.ext (by omega), identity⟩
  · intro early rest middle slot owner split reached outranked label id token obtains
    rw [split] at run
    obtain ⟨middle', reached', later⟩ := run.split
    obtain rfl := reached.unique System.step_deterministic reached'
    have grows := (run_nextIdentity (SessionSystem.regular provider outcome reached) later).2
    exact obtains.not_outranked room (outranked_run (SessionSystem.regular provider outcome reached) later room outranked
      (outranked_bounded (authority reached (grows.trans_lt room)) outranked))
  · intro before op since slot owner happened revokes earlier label id token obtains
    obtain ⟨next, taken, later⟩ := happened.rest run System.step_deterministic
    have reached : Run sessions.Step (boot provider outcome) _ before := happened.choose_spec.2
    have regular := SessionSystem.regular provider outcome (reached.snoc taken)
    have grows := (run_nextIdentity regular later).2
    have retired : Retired before.shared.hal next.shared.hal slot := by
      cases taken with
      | outside change shared changes =>
        change SessionSystem.change before.shared (.hal (.control op)) = some shared at changes
        simp only [SessionSystem.change] at changes
        split at changes
        next =>
          obtain rfl := Option.some.inj changes
          exact ControlOp.revokes_retired revokes (grows.trans_lt room)
        next => cases changes
    refine obtains.not_outranked room (outranked_run regular later room (.inl ?_) ?_)
    · exact earlier.trans_lt retired.fresh
    · exact earlier.trans (retired.fresh.le.trans retired.bounded)
  · intro slot configured
    obtain ⟨opened, positive, id, kept, present, named, owner, head⟩ := authority'.current slot configured
    obtain ⟨activity, found, rfl⟩ := Option.map_eq_some_iff.mp present
    rw [ledger_slot] at named
    exact ⟨opened, id, activity, found, Fin.ext (by omega), owner, head⟩
  · intro slot single label id owner token activity descriptor obtains found given
    obtain ⟨activity', found', named, identity, checks⟩ := obtains.permitted regular
    obtain rfl := Option.some.inj (found.symm.trans found')
    have registration := ledger_registration activity
    rw [given, Option.map_some] at registration
    have provenance := provenance run
    obtain ⟨since, registered, handed⟩ := provenance.devices _ _ (provenance.births id activity found descriptor given)
    have here : activity.birth.slot = slot := by
      rw [ledger_slot] at named
      exact Fin.ext (by omega)
    rw [here] at registered handed
    have current := authority'.checked id _ (known id activity found) (checks (by simp [registration])) slot named
    rcases current with older | ⟨held, holds, same⟩
    · rw [identity] at older
      exact absurd (.inl older) (obtains.not_outranked room)
    · obtain ⟨since', registered'⟩ := provenance.held slot held holds
      rw [registration] at same
      obtain rfl := single descriptor held since since' registered registered' (Option.some.inj same)
      rw [holds, registered'.unique registered]
      exact ⟨rfl, since, registered, handed⟩

def configureLabels : List SessionLabel :=
  [ .outside (.hal (.control (.setCallback (some 3) (some 6))))
  , .outside (.hal (.control (.registerProducer 0 .diagnostic (some 3))))
  , .outside (.getCameraDeviceInterface 0)
  , .create 0 { slot := 0, capabilities := some .diagnostic }
  , .call 0 Call.succeed
  , .call 0 Call.succeed
  , .leave 0
  , .enter 0 (.configureStreams [previewStream])
  , .lock 0 0 ] ++ List.replicate 5 (.call 0 Call.succeed)

theorem session_authority_configured :
    ∃ world, Run sessions.Step (boot true fun _ => true) configureLabels world ∧
      (world.shared.hal.slots 0).configuration = 2 ∧
      SlotAuthority true (fun _ => true) configureLabels world := by
  have computed : ((configureLabels.foldlM sessions.perform (boot true fun _ => true)).any fun world =>
      decide ((world.shared.hal.slots 0).configuration = 2 ∧ world.shared.hal.nextIdentity < int64Max)) = true := by
    decide +kernel
  obtain ⟨world, folds, configured⟩ := (Option.any_eq_true _ _).mp computed
  obtain ⟨token, room⟩ := of_decide_eq_true configured
  have run : Run sessions.Step (boot true fun _ => true) configureLabels world := System.run_perform folds
  exact ⟨world, run, token, session_authority true (fun _ => true) run room⟩

end SessionSystem

end VirtualCamera
