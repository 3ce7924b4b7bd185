import Mathlib.Data.List.Chain
import VirtualCamera.Hal.DescriptorMoves

set_option autoImplicit false

namespace VirtualCamera

open Runs StableHal

def kFirstVirtualCameraNumber : Nat := 100

def deviceIdForSlot (slot : Slot) : String :=
  "device@1.0/virtual_renderer/" ++ toString (kFirstVirtualCameraNumber + slot)

structure VirtualCameraProvider where
  slotPresent : Slot → Bool := fun _ => false
  callback : Option Binder := none

namespace VirtualCameraProvider

def getCameraIdList (provider : VirtualCameraProvider) : List String :=
  ((List.finRange kMaxVirtualCameras).filter provider.slotPresent).map deviceIdForSlot

-- A null callback is an argument error, not a clear.
def setCallback (provider : VirtualCameraProvider) : Option Binder → VirtualCameraProvider
  | none => provider
  | some callback => { provider with callback := some callback }

theorem deviceIdForSlot_injective : ∀ left right : Slot,
    deviceIdForSlot left = deviceIdForSlot right → left = right := by decide

theorem mem_getCameraIdList (provider : VirtualCameraProvider) (slot : Slot) :
    deviceIdForSlot slot ∈ provider.getCameraIdList ↔ provider.slotPresent slot = true := by
  simp only [getCameraIdList, List.mem_map, List.mem_filter, List.mem_finRange, true_and]
  constructor
  next =>
    rintro ⟨other, present, same⟩
    rwa [← deviceIdForSlot_injective other slot same]
  next => exact fun present => ⟨slot, present, rfl⟩

end VirtualCameraProvider

-- The rest of a publication: the calls to come, and the change that the one under way has yet to tell.
structure Publication where
  queue : List (Slot × Bool) := []
  changed : Option (Slot × Bool) := none
deriving DecidableEq, Repr

-- The HAL with its provider. `publication` is that of the thread that holds `mPresenceLock`, and
-- `sent` are the status changes so far.
structure PresenceWorld where
  world : HalWorld
  provider : VirtualCameraProvider := {}
  publication : Option Publication := none
  sent : List (Slot × Bool) := []

-- The publishing thread takes the lock and runs its critical section, then exchanges the presence of
-- one slot after another and tells each change. Calls that fail before they ask for the lock
-- change nothing and are no events.
inductive PresenceEvent where
  | publish (op : ControlOp)
  | exchange
  | tell
  | unlock
  | other (event : HalEvent)
  | setProviderCallback (callback : Option Binder)

namespace PresenceWorld

variable {start state after : PresenceWorld} {past : List PresenceEvent} {event : PresenceEvent}

def boot (outcome : Nat → Bool) : PresenceWorld := { world := .boot true outcome }

def exchange (state : PresenceWorld) (slot : Slot) (present : Bool) (rest : List (Slot × Bool)) :
    PresenceWorld :=
  { state with
    provider := { state.provider with slotPresent := Function.update state.provider.slotPresent slot present }
    publication := some
      { queue := rest
        changed := if state.provider.slotPresent slot = present then none else some (slot, present) } }

def perform (state : PresenceWorld) : PresenceEvent → Option PresenceWorld
  | .publish op =>
    if op.publishes = true ∧ state.publication = none then
      some { state with
        world := state.world.perform (.control op)
        publication := some { queue := op.published state.world.hal } }
    else none
  | .exchange =>
    match state.publication with
    | some ⟨(slot, present) :: rest, none⟩ => some (state.exchange slot present rest)
    | _ => none
  | .tell =>
    match state.publication with
    | some ⟨rest, some change⟩ =>
      some { state with
        publication := some { queue := rest }
        sent := if state.provider.callback.isSome then state.sent ++ [change] else state.sent }
    | _ => none
  | .unlock =>
    match state.publication with
    | some ⟨[], none⟩ => some { state with publication := none }
    | _ => none
  | .other event =>
    if event.publishes = false ∧ state.world.Allowed event then
      some { state with world := state.world.perform event }
    else none
  | .setProviderCallback callback => some { state with provider := state.provider.setCallback callback }

def Step (state : PresenceWorld) (event : PresenceEvent) (after : PresenceWorld) : Prop :=
  state.perform event = some after

def statuses (state : PresenceWorld) (slot : Slot) : List Bool :=
  (state.sent.filter fun change => decide (change.1 = slot)).map Prod.snd

def queue (state : PresenceWorld) : List (Slot × Bool) := (state.publication.map Publication.queue).getD []

def changed (state : PresenceWorld) : Option (Slot × Bool) := state.publication.bind Publication.changed

def settled (shown : Slot → Bool) : List (Slot × Bool) → Slot → Bool
  | [] => shown
  | (slot, present) :: rest => settled (Function.update shown slot present) rest

theorem settled_hidden (shown : Slot → Bool) (slots : List Slot) (slot : Slot) (member : slot ∈ slots) :
    settled shown (slots.map fun slot => (slot, false)) slot = false := by
  have hidden : ∀ (slots : List Slot) (shown : Slot → Bool), slot ∈ slots ∨ shown slot = false →
      settled shown (slots.map fun slot => (slot, false)) slot = false := by
    intro slots
    induction slots with
    | nil => exact fun shown member => member.resolve_left List.not_mem_nil
    | cons first slots ih =>
      intro shown member
      refine ih (Function.update shown first false) ?_
      by_cases same : slot = first
      · subst same
        exact .inr (Function.update_self _ _ _)
      · rw [Function.update_of_ne same]
        exact member.imp_left fun member => (List.mem_cons.mp member).resolve_left same
  exact hidden slots shown (.inl member)

def told (state : PresenceWorld) (slot : Slot) : Bool :=
  if state.changed.any fun change => decide (change.1 = slot) then !state.provider.slotPresent slot
  else state.provider.slotPresent slot

def Registered (start : PresenceWorld) (past : List PresenceEvent) (state : PresenceWorld) (slot : Slot)
    (descriptor : ProducerCapabilities) : Prop :=
  ∃ binder before since, state.world.hal.callback = some binder ∧
    Happened Step start past before (.publish (.registerProducer (slot : Nat) descriptor (some binder))) since ∧
    (before.world.hal.registerProducer (slot : Nat) descriptor (some binder)).1 = .ok

structure Published (start : PresenceWorld) (past : List PresenceEvent) (state : PresenceWorld) : Prop where
  provider : state.world.hal.provider = true
  settles : ∀ slot, settled state.provider.slotPresent state.queue slot =
    (state.world.hal.slots slot).capabilities.isSome
  registered : ∀ slot descriptor, (state.world.hal.slots slot).capabilities = some descriptor →
    Registered start past state slot descriptor
  shown : ∀ change, state.changed = some change → state.provider.slotPresent change.1 = change.2
  alternates : ∀ slot, (state.statuses slot).IsChain (· ≠ ·)
  last : ∀ slot, ∀ status ∈ (state.statuses slot).getLast?,
    state.provider.callback.isSome = true ∧ status = state.told slot

theorem Registered.snoc {slot : Slot} {descriptor : ProducerCapabilities}
    (registered : Registered start past state slot descriptor)
    (callback : after.world.hal.callback = state.world.hal.callback) (event : PresenceEvent) :
    Registered start (past ++ [event]) after slot descriptor := by
  obtain ⟨binder, before, since, owner, happened, okay⟩ := registered
  exact ⟨binder, before, since ++ [event], callback.trans owner, happened.snoc event, okay⟩

theorem Published.keep (published : Published start past state) (event : PresenceEvent)
    (bystander : Bystander state.world.hal after.world.hal)
    (settles : ∀ slot, settled after.provider.slotPresent after.queue slot =
      settled state.provider.slotPresent state.queue slot)
    (shown : ∀ change, after.changed = some change → after.provider.slotPresent change.1 = change.2)
    (alternates : ∀ slot, (after.statuses slot).IsChain (· ≠ ·))
    (last : ∀ slot, ∀ status ∈ (after.statuses slot).getLast?,
      after.provider.callback.isSome = true ∧ status = after.told slot) :
    Published start (past ++ [event]) after := by
  refine ⟨bystander.provider.trans published.provider, fun slot => ?_, fun slot descriptor held => ?_, shown,
    alternates, last⟩
  · rw [settles, bystander.capabilities]
    exact published.settles slot
  · rw [bystander.capabilities] at held
    exact (published.registered slot descriptor held).snoc bystander.callback event

theorem Published.exchange (published : Published start past state) {slot : Slot} {present : Bool}
    {rest : List (Slot × Bool)} (holds : state.publication = some ⟨(slot, present) :: rest, none⟩) :
    Published start (past ++ [.exchange]) (state.exchange slot present rest) := by
  have quiet : ∀ other, state.told other = state.provider.slotPresent other := by
    intro other
    simp [told, changed, holds]
  refine published.keep .exchange (.refl _) (fun other => ?_) (fun change pending => ?_) published.alternates
    fun other status member => ?_
  · simp [PresenceWorld.exchange, queue, holds, settled]
  · simp only [PresenceWorld.exchange, changed, Option.bind_some] at pending ⊢
    split at pending
    next => cases pending
    next =>
      cases pending
      exact Function.update_self _ _ _
  · obtain ⟨listens, same⟩ := published.last other status member
    refine ⟨listens, same.trans ((quiet other).trans ?_)⟩
    simp only [told, PresenceWorld.exchange, changed, Option.bind_some]
    by_cases moved : other = slot
    · subst moved
      by_cases unchanged : state.provider.slotPresent other = present
      · simp [unchanged]
      · simp [Bool.eq_not_iff.mpr unchanged]
    · split
      next => simp [Function.update_of_ne moved]
      next => simp [Function.update_of_ne moved, Ne.symm moved]

theorem statuses_append (sent : List (Slot × Bool)) (slot other : Slot) (present : Bool) :
    (((sent ++ [(slot, present)]).filter fun change => decide (change.1 = other)).map Prod.snd) =
      ((sent.filter fun change => decide (change.1 = other)).map Prod.snd) ++
        if slot = other then [present] else [] := by
  by_cases same : slot = other <;> simp [same]

theorem Published.tell (published : Published start past state) {rest : List (Slot × Bool)}
    {change : Slot × Bool} (holds : state.publication = some ⟨rest, some change⟩) :
    Published start (past ++ [.tell])
      { state with
        publication := some { queue := rest }
        sent := if state.provider.callback.isSome then state.sent ++ [change] else state.sent } := by
  obtain ⟨slot, present⟩ := change
  have shown : state.provider.slotPresent slot = present := published.shown (slot, present) (by simp [changed, holds])
  have earlier : ∀ other, state.told other =
      if slot = other then !state.provider.slotPresent other else state.provider.slotPresent other := by
    intro other
    simp [told, changed, holds]
  by_cases listens : state.provider.callback.isSome = true
  · rw [if_pos listens]
    have grown := fun other => statuses_append state.sent slot other present
    refine published.keep .tell (.refl _) (fun other => by simp [queue, holds]) (fun change pending => ?_)
      (fun other => ?_) fun other status member => ⟨listens, ?_⟩
    · simp [changed] at pending
    · simp only [statuses, grown]
      split
      next same =>
        subst same
        refine (published.alternates slot).append (List.isChain_singleton present) ?_
        intro status member next first
        obtain rfl : present = next := by simpa using first
        have told := (published.last slot status member).2
        rw [told, earlier slot, if_pos rfl, shown]
        simp
      next =>
        rw [List.append_nil]
        exact published.alternates other
    · simp only [statuses, grown] at member
      split at member
      next same =>
        subst same
        obtain rfl : present = status := by simpa using member
        simp [told, changed, shown]
      next differs =>
        rw [List.append_nil] at member
        have same := (published.last other status member).2
        rw [same, earlier other, if_neg differs]
        simp [told, changed]
  · rw [if_neg listens]
    refine published.keep .tell (.refl _) (fun other => by simp [queue, holds]) (fun change pending => ?_)
      published.alternates fun other status member => absurd (published.last other status member).1 listens
    simp [changed] at pending

theorem Published.publish (published : Published start past state) (run : Run Step start past state)
    (op : ControlOp) (free : state.publication = none) :
    Published start (past ++ [.publish op])
      { state with
        world := state.world.perform (.control op)
        publication := some { queue := op.published state.world.hal } } := by
  have settles : ∀ slot, state.provider.slotPresent slot = (state.world.hal.slots slot).capabilities.isSome := by
    intro slot
    simpa [queue, free, settled] using published.settles slot
  have last : ∀ slot, ∀ status ∈ (state.statuses slot).getLast?,
      state.provider.callback.isSome = true ∧ status = state.provider.slotPresent slot := by
    intro slot status member
    simpa [told, changed, free] using published.last slot status member
  have standing := op.run_provider state.world.hal
  refine ⟨standing.trans published.provider, fun slot => ?_, fun slot descriptor held => ?_, ?_,
    published.alternates, last⟩
  · change settled state.provider.slotPresent (op.published state.world.hal) slot =
      ((op.run state.world.hal).slots slot).capabilities.isSome
    cases op.descriptors state.world.hal with
    | kept callback capabilities publishes =>
      rw [publishes, capabilities]
      exact settles slot
    | registered chosen descriptor binder shape okay owner callback vacant held others publishes =>
      rw [publishes, published.provider, if_pos rfl]
      by_cases same : slot = chosen
      · subst same
        simp [settled, held]
      · simp [settled, Function.update_of_ne same, others slot same, settles slot]
    | removed chosen descriptor binder shape okay owner callback held cleared others publishes =>
      rw [publishes, published.provider, if_pos rfl]
      by_cases same : slot = chosen
      · subst same
        simp [settled, cleared]
      · simp [settled, Function.update_of_ne same, others slot same, settles slot]
    | replaced callback version shape okay present differs cleared publishes =>
      rw [publishes, published.provider, if_pos rfl, cleared slot]
      exact settled_hidden _ _ slot (List.mem_finRange slot)
  · change ((op.run state.world.hal).slots slot).capabilities = some descriptor at held
    have earlier : (op.run state.world.hal).callback = state.world.hal.callback →
        (state.world.hal.slots slot).capabilities = some descriptor →
        Registered start (past ++ [.publish op]) { state with
          world := state.world.perform (.control op)
          publication := some { queue := op.published state.world.hal } } slot descriptor :=
      fun callback before => (published.registered slot descriptor before).snoc callback _
    cases op.descriptors state.world.hal with
    | kept callback capabilities publishes =>
      rw [capabilities] at held
      refine earlier (callback.resolve_right fun absent => ?_) held
      obtain ⟨binder, _, _, owner, _⟩ := published.registered slot descriptor held
      simp [absent] at owner
    | registered chosen added binder shape okay owner callback vacant held' others publishes =>
      by_cases same : slot = chosen
      · subst same
        obtain rfl : added = descriptor := Option.some.inj (held'.symm.trans held)
        exact ⟨binder, state, [], callback, shape ▸ .last run _, okay⟩
      · rw [others slot same] at held
        exact earlier (callback.trans owner.symm) held
    | removed chosen gone binder shape okay owner callback held' cleared others publishes =>
      by_cases same : slot = chosen
      · subst same
        simp [cleared] at held
      · rw [others slot same] at held
        exact earlier (callback.trans owner.symm) held
    | replaced callback version shape okay present differs cleared publishes => simp [cleared] at held
  · intro change pending
    simp [changed] at pending

theorem Published.step (published : Published start past state) (run : Run Step start past state)
    (next : Step state event after) : Published start (past ++ [event]) after := by
  cases event with
  | publish op =>
    simp only [Step, perform] at next
    split at next
    next allowed =>
      cases next
      exact published.publish run op allowed.2
    next => cases next
  | exchange =>
    simp only [Step, perform] at next
    split at next
    next holds =>
      cases next
      exact published.exchange holds
    next => cases next
  | tell =>
    simp only [Step, perform] at next
    split at next
    next holds =>
      cases next
      exact published.tell holds
    next => cases next
  | unlock =>
    simp only [Step, perform] at next
    split at next
    next holds =>
      cases next
      refine published.keep .unlock (.refl _) (fun slot => ?_) (fun change pending => ?_) published.alternates
        fun slot status member => ?_
      · simp [queue, holds]
      · simp [changed] at pending
      · simpa [told, changed, holds] using published.last slot status member
    next => cases next
  | other event =>
    simp only [Step, perform] at next
    split at next
    next allowed =>
      cases next
      exact published.keep _ (HalEvent.bystander state.world event allowed.1) (fun _ => rfl) published.shown
        published.alternates published.last
    next => cases next
  | setProviderCallback callback =>
    simp only [Step, perform, Option.some.injEq] at next
    subst next
    cases callback with
    | none =>
      exact published.keep _ (.refl _) (fun _ => rfl) published.shown published.alternates published.last
    | some callback =>
      exact published.keep _ (.refl _) (fun _ => rfl) published.shown published.alternates
        fun slot status member => ⟨rfl, (published.last slot status member).2⟩

theorem published (outcome : Nat → Bool) (events : List PresenceEvent) (state : PresenceWorld)
    (run : Run Step (boot outcome) events state) : Published (boot outcome) events state := by
  refine run.invariant (Published (boot outcome)) ?_ fun past middle event after earlier published next =>
    published.step earlier next
  refine ⟨rfl, fun slot => rfl, ?_, ?_, fun slot => .nil, ?_⟩
  · intro slot descriptor held
    cases held
  · intro change pending
    cases pending
  · intro slot status member
    cases member

inductive Clears (slot : Slot) (descriptor : ProducerCapabilities) (before : PresenceWorld) :
    PresenceEvent → Prop where
  | removed (callback : Binder) (current : before.world.hal.callback = some callback)
      (okay : (before.world.hal.removeProducer (slot : Nat) descriptor.registration (some callback)).1 = .ok) :
      Clears slot descriptor before (.publish (.removeProducer (slot : Nat) descriptor.registration (some callback)))
  | replaced (callback : Option Binder) (version : Option Int) (present : before.world.hal.callback.isSome = true)
      (differs : callback ≠ before.world.hal.callback)
      (okay : (before.world.hal.setCallback callback version).1 = .ok) :
      Clears slot descriptor before (.publish (.setCallback callback version))

structure Agreement (start : PresenceWorld) (past : List PresenceEvent) (state : PresenceWorld) : Prop where
  present : state.publication = none → ∀ slot, deviceIdForSlot slot ∈ state.provider.getCameraIdList ↔
    (state.world.hal.slots slot).capabilities.isSome = true
  registered : ∀ slot descriptor, (state.world.hal.slots slot).capabilities = some descriptor →
    Registered start past state slot descriptor
  cleared : ∀ slot descriptor, (state.world.hal.slots slot).capabilities = some descriptor →
    ∀ event after, Step state event after → (after.world.hal.slots slot).capabilities = some descriptor ∨
      Clears slot descriptor state event ∧ (after.world.hal.slots slot).capabilities = none
  kept : ∀ slot descriptor, (state.world.hal.slots slot).capabilities = some descriptor →
    ∀ rest final, Run Step state rest final → (final.world.hal.slots slot).capabilities = some descriptor ∨
      ∃ before event since, Happened Step state rest before event since ∧
        (before.world.hal.slots slot).capabilities = some descriptor ∧ Clears slot descriptor before event
  alternates : ∀ slot, (state.statuses slot).IsChain (· ≠ ·)

theorem capabilities_step {slot : Slot} {descriptor : ProducerCapabilities}
    (held : (state.world.hal.slots slot).capabilities = some descriptor) (next : Step state event after) :
    (after.world.hal.slots slot).capabilities = some descriptor ∨
      Clears slot descriptor state event ∧ (after.world.hal.slots slot).capabilities = none := by
  cases event with
  | publish op =>
    simp only [Step, perform] at next
    split at next
    next allowed =>
      cases next
      change ((op.run state.world.hal).slots slot).capabilities = some descriptor ∨
        _ ∧ ((op.run state.world.hal).slots slot).capabilities = none
      cases op.descriptors state.world.hal with
      | kept callback capabilities publishes => exact .inl ((capabilities slot).trans held)
      | registered chosen added binder shape okay owner callback vacant held' others publishes =>
        have differs : slot ≠ chosen := by
          rintro rfl
          simp [vacant] at held
        rw [others slot differs]
        exact .inl held
      | removed chosen gone binder shape okay owner callback held' cleared others publishes =>
        by_cases same : slot = chosen
        · subst same
          obtain rfl : gone = descriptor := Option.some.inj (held'.symm.trans held)
          exact .inr ⟨shape ▸ .removed binder owner okay, cleared⟩
        · rw [others slot same]
          exact .inl held
      | replaced callback version shape okay present differs cleared publishes =>
        exact .inr ⟨shape ▸ .replaced callback version present differs okay, cleared slot⟩
    next => cases next
  | other event =>
    simp only [Step, perform] at next
    split at next
    next allowed =>
      cases next
      exact .inl (((HalEvent.bystander state.world event allowed.1).capabilities slot).trans held)
    next => cases next
  | exchange | tell | unlock =>
    simp only [Step, perform] at next
    split at next
    next =>
      cases next
      exact .inl held
    next => cases next
  | setProviderCallback callback =>
    simp only [Step, perform, Option.some.injEq] at next
    subst next
    exact .inl held

theorem capabilities_run {slot : Slot} {descriptor : ProducerCapabilities}
    (held : (state.world.hal.slots slot).capabilities = some descriptor) {rest : List PresenceEvent}
    {final : PresenceWorld} (run : Run Step state rest final) :
    (final.world.hal.slots slot).capabilities = some descriptor ∨
      ∃ before event since, Happened Step state rest before event since ∧
        (before.world.hal.slots slot).capabilities = some descriptor ∧ Clears slot descriptor before event := by
  refine run.invariant (fun rest final => (final.world.hal.slots slot).capabilities = some descriptor ∨
    ∃ before event since, Happened Step state rest before event since ∧
      (before.world.hal.slots slot).capabilities = some descriptor ∧ Clears slot descriptor before event)
    (.inl held) ?_
  rintro past middle event after earlier (still | ⟨before, clearing, since, happened, was, clears⟩) next
  · rcases capabilities_step still next with kept | ⟨clears, _⟩
    · exact .inl kept
    · exact .inr ⟨middle, event, [], .last earlier event, still, clears⟩
  · exact .inr ⟨before, clearing, since ++ [event], happened.snoc event, was, clears⟩

theorem presence_agreement (outcome : Nat → Bool) (events : List PresenceEvent) (state : PresenceWorld)
    (run : Run Step (boot outcome) events state) : Agreement (boot outcome) events state := by
  have now := published outcome events state run
  refine ⟨fun free slot => ?_, now.registered, fun slot descriptor held event after next => ?_,
    fun slot descriptor held rest final later => ?_, now.alternates⟩
  · rw [VirtualCameraProvider.mem_getCameraIdList, ← now.settles slot]
    simp [queue, free, settled]
  · exact capabilities_step held next
  · exact capabilities_run held later

def producerEvents : List PresenceEvent :=
  [ .setProviderCallback (some 9)
  , .publish (.setCallback (some 3) (some 6))
  , .unlock
  , .publish (.registerProducer 0 .diagnostic (some 3))
  , .exchange
  , .tell
  , .unlock
  , .publish (.removeProducer 0 ProducerCapabilities.diagnostic.registration (some 3))
  , .exchange
  , .tell
  , .unlock ]

theorem presence_agreement_producer :
    ∃ state, Run Step (boot fun _ => true) producerEvents state ∧ state.statuses 0 = [true, false] ∧
      Agreement (boot fun _ => true) producerEvents state := by
  have computed : ((producerEvents.foldlM perform (boot fun _ => true)).any fun state =>
      decide (state.statuses 0 = [true, false])) = true := by decide +kernel
  obtain ⟨state, folds, told⟩ := (Option.any_eq_true _ _).mp computed
  have run : Run Step (boot fun _ => true) producerEvents state := .of_foldlM folds
  exact ⟨state, run, of_decide_eq_true told, presence_agreement (fun _ => true) producerEvents state run⟩

end PresenceWorld

end VirtualCamera
