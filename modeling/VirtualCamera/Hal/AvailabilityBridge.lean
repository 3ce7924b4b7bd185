import VirtualCamera.Hal.Presence

set_option autoImplicit false

namespace VirtualCamera

open Runs StableHal

-- The bridge's thread waits with `mLock` released, or holds it until it has connected.
inductive BridgeLoop where
  | waiting
  | retrying
  | connecting (listener : Nat)
deriving DecidableEq, Repr

def BridgeLoop.listener : BridgeLoop → Option Nat
  | .connecting listener => some listener
  | .waiting | .retrying => none

-- Each attempt to connect makes a listener of its own; `connected` is `mListener`, with its manager.
structure AvailabilityBridge where
  loop : BridgeLoop := .waiting
  connected : Option Nat := none
  listeners : Nat := 0

-- A call of `setProducerPresent`; a nested one runs in the bridge's thread, inside `setHalListener`.
structure PresenceCall where
  present : Bool
  nested : Bool := false
deriving DecidableEq, Repr

-- The provider of the platform relay build with its bridge and the managers. The calls of `setProducerPresent` under
-- way stand before the exchange, before the callback is copied or before the status goes out.
structure BridgeWorld where
  bridge : AvailabilityBridge := {}
  provider : VirtualCameraProvider := {}
  asked : List PresenceCall := []
  changed : List PresenceCall := []
  telling : List (Binder × PresenceCall) := []
  -- The status changes of slot 0 that reached the camera service, and whether it lists the slot as it comes.
  sent : List Bool := []
  listed : Bool := false
  pushed : Nat → Option Bool := fun _ => none
  -- The listeners whose manager died, and those whose manager's death is still to be told.
  dead : Finset Nat := ∅
  linked : Finset Nat := ∅

inductive BridgeEvent where
  | wake
  | connect
  | push (listener : Nat) (nested available : Bool)
  | registered (ok unlinked : Bool)
  | die (listener : Nat)
  | onManagerDied (listener : Nat)
  | exchange (place : Nat)
  | copyCallback (place : Nat)
  | tell (place : Nat) (delivered : Bool)
  | setProviderCallback (callback : Option Binder)
deriving DecidableEq, Repr

def VirtualCameraProvider.withPresent (provider : VirtualCameraProvider) (slot : Slot) (present : Bool) :
    VirtualCameraProvider :=
  { provider with slotPresent := Function.update provider.slotPresent slot present }

namespace BridgeWorld

def shown (state : BridgeWorld) : Bool := state.provider.slotPresent 0

def nested (state : BridgeWorld) : Bool :=
  (state.asked ++ state.changed ++ state.telling.map Prod.snd).any PresenceCall.nested

-- `connectLocked` up to `setHalListener`.
def connect (state : BridgeWorld) : BridgeWorld :=
  let listener := state.bridge.listeners
  { state with
    bridge := { state.bridge with loop := .connecting listener, listeners := listener + 1 }
    linked := insert listener state.linked }

def push (state : BridgeWorld) (listener : Nat) (nested available : Bool) : BridgeWorld :=
  { state with
    pushed := Function.update state.pushed listener (some available)
    asked := state.asked ++ [⟨available, nested⟩] }

-- The rest of `connectLocked`.
def registered (state : BridgeWorld) (listener : Nat) (unlinked : Bool) : Bool → BridgeWorld
  | true => { state with bridge := { state.bridge with loop := .waiting, connected := some listener } }
  | false =>
    { state with
      bridge := { state.bridge with loop := .retrying }
      linked := if unlinked then state.linked.erase listener else state.linked }

def onManagerDied (state : BridgeWorld) (listener : Nat) : BridgeWorld :=
  { state with
    bridge := { state.bridge with connected := none }
    linked := state.linked.erase listener
    asked := state.asked ++ [⟨false, false⟩] }

def exchange (state : BridgeWorld) (place : Nat) (call : PresenceCall) : BridgeWorld :=
  { state with
    asked := state.asked.eraseIdx place
    provider := state.provider.withPresent 0 call.present
    changed := if state.shown = call.present then state.changed else state.changed ++ [call] }

def copyCallback (state : BridgeWorld) (place : Nat) (call : PresenceCall) : BridgeWorld :=
  { state with
    changed := state.changed.eraseIdx place
    telling := match state.provider.callback with
      | some callback => state.telling ++ [(callback, call)]
      | none => state.telling }

def tell (state : BridgeWorld) (place : Nat) (delivered : Bool) (call : PresenceCall) : BridgeWorld :=
  { state with
    telling := state.telling.eraseIdx place
    sent := if delivered then state.sent ++ [call.present] else state.sent }

def setProviderCallback (state : BridgeWorld) : Option Binder → BridgeWorld
  | none => state
  | some callback =>
    { state with provider := state.provider.setCallback (some callback), listed := state.shown }

-- A wait ends by a notification, by its timeout or for no reason. A manager that lives drops the
-- link it is asked to drop.
def perform (state : BridgeWorld) : BridgeEvent → Option BridgeWorld
  | .wake =>
    if state.bridge.loop = .waiting ∧ state.bridge.connected = none then
      some { state with bridge := { state.bridge with loop := .retrying } }
    else none
  | .connect => if state.bridge.loop = .retrying then some state.connect else none
  | .push listener nested available =>
    if listener < state.bridge.listeners ∧ listener ∉ state.dead ∧
        (nested = true → state.bridge.loop = .connecting listener) then
      some (state.push listener nested available)
    else none
  | .registered ok unlinked =>
    match state.bridge.loop with
    | .connecting listener =>
      if state.nested = false ∧ (ok = true ∨ unlinked = true ∨ listener ∈ state.dead) then
        some (state.registered listener unlinked ok)
      else none
    | _ => none
  | .die listener =>
    if listener < state.bridge.listeners then some { state with dead := insert listener state.dead } else none
  | .onManagerDied listener =>
    if state.bridge.loop = .waiting ∧ listener ∈ state.linked ∧ listener ∈ state.dead then
      some (state.onManagerDied listener)
    else none
  | .exchange place => state.asked[place]?.map (state.exchange place)
  | .copyCallback place => state.changed[place]?.map (state.copyCallback place)
  | .tell place delivered => state.telling[place]?.map fun call => state.tell place delivered call.2
  | .setProviderCallback callback => some (state.setProviderCallback callback)

def Step (state : BridgeWorld) (event : BridgeEvent) (after : BridgeWorld) : Prop :=
  state.perform event = some after

def available (state : BridgeWorld) : Bool := (state.bridge.connected.bind state.pushed).getD false

structure Finished (state : BridgeWorld) : Prop where
  asked : state.asked = []
  changed : state.changed = []
  telling : state.telling = []
  loop : state.bridge.loop.listener = none

structure Agrees (state : BridgeWorld) : Prop where
  shown : state.shown = state.available
  told : ∀ status ∈ state.sent.getLast?, status = state.shown
  untold : state.sent = [] → state.provider.callback.isSome = true → state.listed = state.shown

def Converged (state : BridgeWorld) : Prop := state.Finished → state.Agrees

def source (state : BridgeWorld) : Option Nat := state.bridge.loop.listener.or state.bridge.connected

-- Nobody pushes through a listener that was given up, no registration fails with a producer announced,
-- and at each stage the oldest call goes first.
def InOrder (state : BridgeWorld) : BridgeEvent → Prop
  | .push listener _ _ => state.source = some listener
  | .registered ok _ => ok = true ∨ state.source.bind state.pushed ≠ some true
  | .exchange place | .copyCallback place => place = 0
  | .tell place delivered => place = 0 ∧ delivered = true
  | .wake | .connect | .die _ | .onManagerDied _ | .setProviderCallback _ => True

instance (state : BridgeWorld) : (event : BridgeEvent) → Decidable (state.InOrder event)
  | .push listener _ _ => inferInstanceAs (Decidable (state.source = some listener))
  | .registered ok _ => inferInstanceAs (Decidable (ok = true ∨ state.source.bind state.pushed ≠ some true))
  | .exchange place | .copyCallback place => inferInstanceAs (Decidable (place = 0))
  | .tell place delivered => inferInstanceAs (Decidable (place = 0 ∧ delivered = true))
  | .wake | .connect | .die _ | .onManagerDied _ | .setProviderCallback _ => inferInstanceAs (Decidable True)

def ordered (state : BridgeWorld) (event : BridgeEvent) : Option BridgeWorld :=
  if state.InOrder event then state.perform event else none

def OrderedStep (state : BridgeWorld) (event : BridgeEvent) (after : BridgeWorld) : Prop :=
  state.ordered event = some after

variable {state after : BridgeWorld} {event : BridgeEvent}

def expected (state : BridgeWorld) : Bool := (state.source.bind state.pushed).getD false

def known (state : BridgeWorld) : Bool :=
  if state.provider.callback.isSome then state.sent.getLastD state.listed else state.shown

def untold (state : BridgeWorld) : List Bool :=
  (state.telling.map Prod.snd ++ state.changed).map PresenceCall.present

structure Settles (state : BridgeWorld) : Prop where
  shows : (state.asked.map PresenceCall.present).getLastD state.shown = state.expected
  tells : state.untold.getLastD state.known = state.shown
  silent : state.provider.callback = none → state.sent = [] ∧ state.telling = []
  unheard : ∀ listener, state.bridge.listeners ≤ listener → state.pushed listener = none
  apart : state.bridge.loop ≠ .waiting → state.bridge.connected = none

theorem settles_boot : Settles {} :=
  ⟨rfl, rfl, fun _ => ⟨rfl, rfl⟩, fun _ _ => rfl, fun _ => rfl⟩

theorem expected_eq {listener : Option Nat} (source : state.source = listener) :
    state.expected = (listener.bind state.pushed).getD false := by
  rw [expected, source]

theorem Settles.ask (settles : state.Settles) (calls : List PresenceCall)
    (asked : after.asked = state.asked ++ calls) (changed : after.changed = state.changed)
    (telling : after.telling = state.telling) (provider : after.provider = state.provider)
    (sent : after.sent = state.sent) (listed : after.listed = state.listed)
    (expected : (calls.map PresenceCall.present).getLastD state.expected = after.expected)
    (unheard : ∀ listener, after.bridge.listeners ≤ listener → after.pushed listener = none)
    (apart : after.bridge.loop ≠ .waiting → after.bridge.connected = none) : after.Settles := by
  have shown : after.shown = state.shown := by rw [BridgeWorld.shown, provider, BridgeWorld.shown]
  refine ⟨?_, ?_, ?_, unheard, apart⟩
  · rw [← expected, ← settles.shows, asked, shown, List.map_append]
    cases calls using List.reverseRecOn with
    | nil => simp
    | append_singleton calls call _ => simp
  · have known : after.known = state.known := by
      rw [BridgeWorld.known, BridgeWorld.known, provider, sent, listed, shown]
    have untold : after.untold = state.untold := by rw [BridgeWorld.untold, telling, changed, BridgeWorld.untold]
    rw [known, untold, shown]
    exact settles.tells
  · rw [provider, sent, telling]
    exact settles.silent

theorem Settles.wake (settles : state.Settles) (waiting : state.bridge.loop = .waiting)
    (lost : state.bridge.connected = none) :
    Settles { state with bridge := { state.bridge with loop := .retrying } } := by
  refine settles.ask [] (List.append_nil _).symm rfl rfl rfl rfl rfl ?_ settles.unheard fun _ => lost
  have source : state.source = none := by rw [source, waiting, lost]; rfl
  rw [expected_eq source]
  exact (congrArg (fun source => (source.bind state.pushed).getD false) lost).symm

theorem Settles.connect (settles : state.Settles) (retrying : state.bridge.loop = .retrying) :
    state.connect.Settles := by
  have lost : state.bridge.connected = none := settles.apart (by rw [retrying]; nofun)
  refine settles.ask [] (List.append_nil _).symm rfl rfl rfl rfl rfl ?_
    (fun listener made => settles.unheard listener (Nat.le_of_succ_le made)) fun _ => lost
  have source : state.source = none := by rw [source, retrying, lost]; rfl
  have fresh : state.pushed state.bridge.listeners = none := settles.unheard _ le_rfl
  rw [expected_eq source]
  exact (congrArg (Option.getD · false) fresh).symm

theorem Settles.push (settles : state.Settles) {listener : Nat} (nested available : Bool)
    (made : listener < state.bridge.listeners)
    (counts : state.source = some listener) :
    (state.push listener nested available).Settles := by
  refine settles.ask [⟨available, nested⟩] rfl rfl rfl rfl rfl rfl ?_ (fun other unmade => ?_) settles.apart
  · have source : (state.push listener nested available).source = some listener := counts
    rw [expected_eq source]
    simp [BridgeWorld.push]
  · have differs : other ≠ listener := (made.trans_le unmade).ne'
    exact (Function.update_of_ne differs _ _).trans (settles.unheard other unmade)

theorem Settles.registered (settles : state.Settles) {listener : Nat} (ok unlinked : Bool)
    (connecting : state.bridge.loop = .connecting listener)
    (quiet : ok = true ∨ state.source.bind state.pushed ≠ some true) :
    (state.registered listener unlinked ok).Settles := by
  have source : state.source = some listener := by rw [BridgeWorld.source, connecting]; rfl
  cases ok with
  | true =>
    refine settles.ask [] (List.append_nil _).symm rfl rfl rfl rfl rfl ?_ settles.unheard
      fun busy => absurd rfl busy
    exact expected_eq source
  | false =>
    have lost : state.bridge.connected = none := settles.apart (by rw [connecting]; nofun)
    refine settles.ask [] (List.append_nil _).symm rfl rfl rfl rfl rfl ?_ settles.unheard fun _ => lost
    have gone : (state.registered listener unlinked false).source = none := lost
    have hidden : (state.pushed listener).getD false = false := by
      have silent : state.pushed listener ≠ some true := by
        simpa [source] using quiet.resolve_left Bool.false_ne_true
      match pushed : state.pushed listener with
      | none | some false => rfl
      | some true => exact absurd pushed silent
    rw [expected_eq gone]
    exact (expected_eq source).trans hidden

theorem Settles.onManagerDied (settles : state.Settles) (listener : Nat)
    (waiting : state.bridge.loop = .waiting) : (state.onManagerDied listener).Settles := by
  have gone : (state.onManagerDied listener).source = none := by
    simp [source, BridgeWorld.onManagerDied, waiting, BridgeLoop.listener]
  refine settles.ask [⟨false, false⟩] rfl rfl rfl rfl rfl rfl ?_ settles.unheard fun _ => rfl
  rw [expected_eq gone]
  rfl

theorem shown_exchange (state : BridgeWorld) (place : Nat) (call : PresenceCall) :
    (state.exchange place call).shown = call.present := by
  simp [shown, exchange, VirtualCameraProvider.withPresent]

theorem Settles.exchange (settles : state.Settles) {call : PresenceCall} {rest : List PresenceCall}
    (oldest : state.asked = call :: rest) : (state.exchange 0 call).Settles := by
  have shown := state.shown_exchange 0 call
  refine ⟨?_, ?_, settles.silent, settles.unheard, settles.apart⟩
  · have shows := settles.shows
    rw [oldest, List.map_cons, List.getLastD_cons] at shows
    have asked : (state.exchange 0 call).asked = rest := by simp [BridgeWorld.exchange, oldest]
    rw [shown, asked]
    exact shows
  · rw [shown]
    have known : (state.exchange 0 call).known =
        if state.provider.callback.isSome then state.sent.getLastD state.listed else call.present := by
      rw [BridgeWorld.known, shown]
      rfl
    by_cases same : state.shown = call.present
    next =>
      have untold : (state.exchange 0 call).untold = state.untold := by
        simp [BridgeWorld.untold, BridgeWorld.exchange, same]
      rw [untold, known, ← same]
      exact settles.tells
    next =>
      have untold : (state.exchange 0 call).untold = state.untold ++ [call.present] := by
        simp [BridgeWorld.untold, BridgeWorld.exchange, same]
      rw [untold, List.getLastD_concat]

theorem getLastD_settled {values : List Bool} {initial last : Bool} (settled : values.getLastD initial = last) :
    values.getLastD last = last := by
  cases values with
  | nil => rfl
  | cons first rest => exact settled

theorem Settles.copyCallback (settles : state.Settles) {call : PresenceCall} {rest : List PresenceCall}
    (oldest : state.changed = call :: rest) : (state.copyCallback 0 call).Settles := by
  match listens : state.provider.callback with
  | some callback =>
    refine ⟨settles.shows, ?_, fun deaf => ?_, settles.unheard, settles.apart⟩
    · have untold : (state.copyCallback 0 call).untold = state.untold := by
        simp [BridgeWorld.untold, BridgeWorld.copyCallback, listens, oldest]
      rw [untold]
      exact settles.tells
    · cases listens.symm.trans deaf
  | none =>
    obtain ⟨unsent, idle⟩ := settles.silent listens
    refine ⟨settles.shows, ?_, fun _ => ⟨unsent, ?_⟩, settles.unheard, settles.apart⟩
    · have known : state.known = state.shown := by simp [BridgeWorld.known, listens]
      have untold : state.untold = call.present :: (state.copyCallback 0 call).untold := by
        simp [BridgeWorld.untold, BridgeWorld.copyCallback, listens, idle, oldest]
      have tells := settles.tells
      rw [untold, List.getLastD_cons] at tells
      exact (congrArg _ known).trans (getLastD_settled tells)
    · simp [BridgeWorld.copyCallback, listens, idle]

theorem Settles.tell (settles : state.Settles) {callback : Binder} {call : PresenceCall}
    {rest : List (Binder × PresenceCall)} (oldest : state.telling = (callback, call) :: rest) :
    (state.tell 0 true call).Settles := by
  have listens : state.provider.callback.isSome = true := by
    by_contra deaf
    have idle := (settles.silent (by simpa using deaf)).2
    cases oldest.symm.trans idle
  refine ⟨settles.shows, ?_, fun deaf => ?_, settles.unheard, settles.apart⟩
  · have untold : state.untold = call.present :: (state.tell 0 true call).untold := by
      simp [BridgeWorld.untold, BridgeWorld.tell, oldest]
    have known : (state.tell 0 true call).known = call.present := by
      simp [BridgeWorld.known, BridgeWorld.tell, listens]
    have tells := settles.tells
    rw [untold, List.getLastD_cons] at tells
    rw [known]
    exact tells
  · have deaf : state.provider.callback = none := deaf
    simp [deaf] at listens

theorem Settles.setProviderCallback (settles : state.Settles) (callback : Option Binder) :
    (state.setProviderCallback callback).Settles := by
  cases callback with
  | none => exact settles
  | some callback =>
    refine ⟨settles.shows, ?_, nofun, settles.unheard, settles.apart⟩
    have known : (state.setProviderCallback (some callback)).known = state.sent.getLastD state.shown := rfl
    have tells := settles.tells
    rw [known]
    change state.untold.getLastD (state.sent.getLastD state.shown) = state.shown
    cases heard : state.provider.callback with
    | none =>
      rw [(settles.silent heard).1]
      exact getLastD_settled tells
    | some earlier =>
      have before : state.known = state.sent.getLastD state.listed := by simp [BridgeWorld.known, heard]
      rw [before] at tells
      cases shape : state.untold with
      | nil =>
        rw [shape, List.getLastD_nil] at tells
        rw [List.getLastD_nil]
        exact getLastD_settled tells
      | cons first rest =>
        rw [shape] at tells
        exact tells

theorem OrderedStep.settles (settles : state.Settles) (next : state.OrderedStep event after) : after.Settles := by
  obtain ⟨ordered, next⟩ := Option.ite_none_right_eq_some.mp next
  cases event with
  | wake =>
    obtain ⟨⟨waiting, lost⟩, next⟩ := Option.ite_none_right_eq_some.mp next
    cases next
    exact settles.wake waiting lost
  | connect =>
    obtain ⟨retrying, next⟩ := Option.ite_none_right_eq_some.mp next
    cases next
    exact settles.connect retrying
  | push listener nested available =>
    obtain ⟨⟨made, _⟩, next⟩ := Option.ite_none_right_eq_some.mp next
    cases next
    exact settles.push nested available made ordered
  | registered ok unlinked =>
    simp only [perform] at next
    split at next
    next listener connecting =>
      obtain ⟨_, next⟩ := Option.ite_none_right_eq_some.mp next
      cases next
      exact settles.registered ok unlinked connecting ordered
    next => cases next
  | die listener =>
    obtain ⟨_, next⟩ := Option.ite_none_right_eq_some.mp next
    cases next
    exact ⟨settles.shows, settles.tells, settles.silent, settles.unheard, settles.apart⟩
  | onManagerDied listener =>
    obtain ⟨⟨waiting, _⟩, next⟩ := Option.ite_none_right_eq_some.mp next
    cases next
    exact settles.onManagerDied listener waiting
  | exchange place =>
    obtain ⟨call, picked, rfl⟩ := Option.map_eq_some_iff.mp next
    obtain rfl : place = 0 := ordered
    obtain ⟨rest, oldest⟩ := List.head?_eq_some_iff.mp (List.head?_eq_getElem?.trans picked)
    exact settles.exchange oldest
  | copyCallback place =>
    obtain ⟨call, picked, rfl⟩ := Option.map_eq_some_iff.mp next
    obtain rfl : place = 0 := ordered
    obtain ⟨rest, oldest⟩ := List.head?_eq_some_iff.mp (List.head?_eq_getElem?.trans picked)
    exact settles.copyCallback oldest
  | tell place delivered =>
    obtain ⟨⟨callback, call⟩, picked, rfl⟩ := Option.map_eq_some_iff.mp next
    obtain ⟨rfl, rfl⟩ : place = 0 ∧ delivered = true := ordered
    obtain ⟨rest, oldest⟩ := List.head?_eq_some_iff.mp (List.head?_eq_getElem?.trans picked)
    exact settles.tell oldest
  | setProviderCallback callback =>
    cases next
    exact settles.setProviderCallback callback

theorem Settles.converged (settles : state.Settles) : state.Converged := by
  intro finished
  have untold : state.untold = [] := by simp [BridgeWorld.untold, finished.telling, finished.changed]
  have tells := settles.tells
  rw [untold, List.getLastD_nil] at tells
  constructor
  case shown =>
    have shows := settles.shows
    rw [finished.asked, List.map_nil, List.getLastD_nil] at shows
    have source : state.source = state.bridge.connected := by
      rw [BridgeWorld.source, finished.loop, Option.none_or]
    exact shows.trans (expected_eq source)
  case told =>
    intro status member
    have listens : state.provider.callback.isSome = true := by
      by_contra deaf
      simp [(settles.silent (by simpa using deaf)).1] at member
    rw [known, if_pos listens, List.getLastD_eq_getLast?, member] at tells
    exact tells
  case untold =>
    intro unsent listens
    rw [known, if_pos listens, unsent] at tells
    exact tells

theorem presence_converges (events : List BridgeEvent) (state : BridgeWorld)
    (run : Run OrderedStep {} events state) : state.Converged := by
  have settles : state.Settles :=
    run.invariant (fun _ state => state.Settles) settles_boot fun _ _ _ _ _ settles next => next.settles settles
  exact settles.converged

def told (statuses : List Bool) (shown : Bool) (state : BridgeWorld) : Bool :=
  state.asked = [] ∧ state.changed = [] ∧ state.telling = [] ∧ state.bridge.loop.listener = none ∧
    state.sent = statuses ∧ state.shown = shown

theorem finished_of_told {statuses : List Bool} {shown : Bool} (reached : state.told statuses shown = true) :
    state.Finished ∧ state.sent = statuses ∧ state.shown = shown := by
  obtain ⟨asked, changed, telling, loop, sent, seen⟩ := of_decide_eq_true reached
  exact ⟨⟨asked, changed, telling, loop⟩, sent, seen⟩

def connecting (listener : Nat) : List BridgeEvent :=
  [.wake, .connect, .push listener true false, .exchange 0, .registered true true]

def reconnecting : List BridgeEvent :=
  .setProviderCallback (some 9) :: connecting 0 ++
  [.push 0 false true, .exchange 0, .copyCallback 0, .tell 0 true, .die 0, .onManagerDied 0, .exchange 0,
    .copyCallback 0, .tell 0 true] ++ connecting 1

theorem presence_converges_reconnected : ∃ state, Run OrderedStep {} reconnecting state ∧
    state.sent = [true, false] ∧ state.Agrees := by
  have computed : (reconnecting.foldlM ordered {}).any (told [true, false] false) = true := by decide +kernel
  obtain ⟨state, run, reached⟩ := Run.of_any computed
  obtain ⟨finished, sent, _⟩ := finished_of_told reached
  exact ⟨state, run, sent, presence_converges reconnecting state run finished⟩

def overtaken : List BridgeEvent :=
  .setProviderCallback (some 9) :: connecting 0 ++
  [.push 0 false true, .push 0 false false, .exchange 0, .exchange 0, .copyCallback 0, .copyCallback 0,
    .tell 1 true, .tell 0 true]

theorem status_overtaken : ∃ state, Run Step {} overtaken state ∧ ¬ state.Converged := by
  have computed : (overtaken.foldlM perform {}).any (told [false, true] false) = true := by decide +kernel
  obtain ⟨state, run, reached⟩ := Run.of_any computed
  obtain ⟨finished, sent, hidden⟩ := finished_of_told reached
  refine ⟨state, run, fun converged => ?_⟩
  have last := (converged finished).told true (by rw [sent]; rfl)
  exact Bool.noConfusion (last.trans hidden)

end BridgeWorld

end VirtualCamera
