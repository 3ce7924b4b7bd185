import VirtualCamera.Relay.RelayInvariants

set_option autoImplicit false

namespace VirtualCamera

open Descriptors Runs

namespace RelayWorld

structure Unaffected (relay after : Relay) : Prop where
  hal : after.hal = relay.hal
  halVersion : after.halVersion = relay.halVersion
  callback : after.callback = relay.callback
  connectionEpoch : after.connectionEpoch = relay.connectionEpoch
  connectionReady : after.connectionReady = relay.connectionReady
  registrations : after.registrations = relay.registrations
  configurations : after.configurations = relay.configurations
  queues : ∀ slot queue, queue.connection = relay.connectionEpoch →
    (after.slots slot = some queue ↔ relay.slots slot = some queue)

theorem Unaffected.refl (relay : Relay) : Unaffected relay relay :=
  ⟨rfl, rfl, rfl, rfl, rfl, rfl, rfl, fun _ _ _ => Iff.rfl⟩

theorem update_unaffected (relay : Relay) (slot : Slot) (queue : Option RelayQueue)
    (removed : ∀ old, relay.slots slot = some old → old.connection ≠ relay.connectionEpoch)
    (added : ∀ fresh, queue = some fresh → fresh.connection ≠ relay.connectionEpoch) :
    Unaffected relay { relay with slots := Function.update relay.slots slot queue } := by
  refine ⟨rfl, rfl, rfl, rfl, rfl, rfl, rfl, fun other current same => ?_⟩
  by_cases here : other = slot
  next =>
    subst here
    simp only [Function.update_self]
    exact iff_of_false (fun found => added current found same) fun found => removed current found same
  next => simp only [Function.update_of_ne here]

theorem abandoned_unaffected (relay : Relay) (slot : Slot)
    (removed : ∀ old, relay.slots slot = some old → old.connection ≠ relay.connectionEpoch) :
    Unaffected relay (relay.abandonQueueLocked slot) :=
  update_unaffected relay slot none removed nofun

variable {world after : RelayWorld}

theorem replaced_stale (sound : Sound world) (slot : Slot) (queue old : RelayQueue)
    (fresh : world.relay.Fresh slot queue) (stale : queue.connection ≠ world.relay.connectionEpoch)
    (installed : world.relay.slots slot = some old) : old.connection ≠ world.relay.connectionEpoch := by
  have earlier := (fresh.newest old installed).1
  have connected := (sound.installed slot old installed).connected
  have latest := fresh.installed.latest
  simp only [Epoch] at *
  omega

theorem stale_step (sound : Sound world) (label : RelayLabel) (next : Step world label after)
    (stale : world.Stale label) : Unaffected world.relay after.relay := by
  cases step_moves world label after next with
  | noted _ _ _ _ _ _ kept _ =>
    obtain ⟨ready, registrations, configurations⟩ := kept stale
    exact ⟨rfl, rfl, rfl, rfl, ready, registrations, configurations, fun _ _ _ => Iff.rfl⟩
  | lost _ _ current => exact absurd current stale.2
  | connected hal version supported named =>
    subst named
    exact absurd rfl stale.1
  | released slot queue free installed matching =>
    refine abandoned_unaffected _ slot fun old here => ?_
    cases installed.symm.trans here
    exact matching stale.1 ▸ stale.2
  | created slot epoch token free checked =>
    obtain ⟨rfl, _, _, current, _⟩ := world.relay.creationEpoch_spec slot _ epoch token checked
    exact absurd (current stale.1) stale.2
  | listening | advanced | idle => exact .refl _
  | cleared slot queue named held =>
    subst named
    have fresh := (sound.working slot _ held).creating queue rfl
    have other : queue.connection ≠ world.relay.connectionEpoch := by
      simpa [carried, held, GateWork.creating] using stale.2
    exact abandoned_unaffected _ slot fun old => replaced_stale sound slot queue old fresh other
  | installed slot queue named held installable =>
    subst named
    have other : queue.connection ≠ world.relay.connectionEpoch := by
      simpa [carried, held, GateWork.creating] using stale.2
    simp [Relay.installable, Ne.symm other] at installable
  | committed slot queue item reply named installed =>
    subst named
    have own : queue.connection ≠ world.relay.connectionEpoch := by simpa [carried, installed] using stale.2
    obtain rfl := (sound.installed slot queue installed).home
    refine update_unaffected _ queue.slot _ (fun old here => ?_) fun fresh found => ?_
    · cases installed.symm.trans here
      exact own
    · cases found
      exact own
  | dropped slot reply named =>
    subst named
    exact abandoned_unaffected _ slot fun queue installed => by simpa [carried, installed] using stale.2

theorem admit_other_registration (sound : Sound world) (connection : Epoch) (slot token : Int) (closed : Bool)
    (registration : Int) (other : ∀ found, validSlot slot = some found →
    world.relay.registrations found ≠ registration) :
    world.relay.admitEvent connection slot token closed registration = (false, world.relay) := by
  rcases world.relay.admitEvent_cases connection slot token closed registration with
    same | ⟨found, valid, _, current, matching, _⟩
  · exact same
  · by_cases alive : world.relay.hal.isSome = true
    next => exact absurd (matching (sound.connected.version alive)) (other found valid)
    next =>
      have none : world.relay.hal = none := by simpa using alive
      simp [Relay.admitEvent, valid, none]

structure InstalledUnder (before : RelayWorld) (slot : Slot) (queue : RelayQueue) : Prop where
  created : before.gates slot = some (.cleared { queue with held := none })
  alive : before.relay.hal.isSome = true
  current : queue.connection ≠ 0 ∧ before.relay.connectionEpoch = queue.connection
  configuration : before.relay.configurations slot = { token := queue.configurationToken, closed := false }
  placed : ∀ after, Step before (.install slot) after →
    after.relay.slots slot = some { queue with held := none }

theorem installed_under (sound : Sound world) (slot : Slot) (queue : RelayQueue)
    (held : world.gates slot = some (.cleared queue)) (installable : world.relay.installable queue = true) :
    InstalledUnder world slot queue := by
  have fresh := (sound.working slot _ held).creating queue rfl
  have unheld : { queue with held := none } = queue := by rw [← fresh.unheld]
  obtain rfl := fresh.installed.home
  have checks := installable
  simp only [Relay.installable, Bool.and_eq_true, Bool.or_eq_true, decide_eq_true_eq, beq_iff_eq,
    Bool.not_eq_true'] at checks
  obtain ⟨⟨alive, current⟩, state⟩ := checks
  have version := sound.connected.version alive
  obtain ⟨token, opened⟩ := state.resolve_left (by omega)
  refine ⟨unheld ▸ held, alive, ⟨fresh.installed.connected, current⟩, ?_, fun after next => ?_⟩
  · rw [← token, ← opened]
  · simp only [Step, perform, held, installable, if_true] at next
    cases next
    simp [gate, withRelay, unheld]

theorem update_some {α : Type} {f : Slot → Option α} {here slot : Slot} {value : Option α} {found : α}
    (same : Function.update f here value slot = some found) :
    (slot = here ∧ value = some found) ∨ f slot = some found := by
  by_cases equal : slot = here
  next =>
    subst equal
    exact .inl ⟨rfl, by rwa [Function.update_self] at same⟩
  next => exact .inr (by rwa [Function.update_of_ne equal] at same)

theorem slots_step (sound : Sound world) (label : RelayLabel) (next : Step world label after) (slot : Slot)
    (queue : RelayQueue) (found : after.relay.slots slot = some queue) :
    (∃ old, world.relay.slots slot = some old ∧ { old with held := queue.held } = queue) ∨
      (label = .install slot ∧ world.gates slot = some (.cleared queue) ∧ world.relay.installable queue = true) := by
  have kept (same : world.relay.slots slot = some queue) :
      ∃ old, world.relay.slots slot = some old ∧ { old with held := queue.held } = queue := ⟨queue, same, rfl⟩
  cases step_moves world label after next with
  | installed other fresh named held installable =>
    obtain rfl := ((sound.working other _ held).creating fresh rfl).installed.home
    rcases update_some found with ⟨rfl, placed⟩ | before
    · cases placed
      exact .inr ⟨named, held, installable⟩
    · exact .inl (kept before)
  | committed other old item reply named installed =>
    obtain rfl := (sound.installed other old installed).home
    rcases update_some found with ⟨rfl, placed⟩ | before
    · cases placed
      exact .inl ⟨old, installed, rfl⟩
    · exact .inl (kept before)
  | released | cleared | dropped =>
    rcases update_some found with ⟨_, placed⟩ | before
    · cases placed
    · exact .inl (kept before)
  | _ => exact .inl (kept found)

theorem installed_run {past : List RelayLabel} (run : Run Step {} past world) :
    ∀ slot queue, world.relay.slots slot = some queue →
      ∃ before since, Happened Step {} past before (.install slot) since ∧ InstalledUnder before slot queue := by
  refine run.invariant (fun past world => ∀ slot queue, world.relay.slots slot = some queue →
    ∃ before since, Happened Step {} past before (.install slot) since ∧ InstalledUnder before slot queue)
    nofun fun past middle label after reached holds next slot queue found => ?_
  have sound := sound_run reached
  rcases slots_step sound label next slot queue found with ⟨old, installed, same⟩ | ⟨rfl, held, installable⟩
  · obtain ⟨before, since, happened, under⟩ := holds slot old installed
    refine ⟨before, _, happened.snoc label, ?_⟩
    rw [← same]
    exact ⟨under.created, under.alive, under.current, under.configuration, under.placed⟩
  · exact ⟨middle, [], .last reached _, installed_under sound slot queue held installable⟩

def Made (world : RelayWorld) (slot : Slot) (generation : Nat) : Prop :=
  generation ≤ world.relay.queueGenerations slot ∧
    ∀ work queue, world.gates slot = some work → work.creating = some queue → queue.generation ≠ generation

def Absent (world : RelayWorld) (slot : Slot) (generation : Nat) : Prop :=
  ∀ queue, world.relay.slots slot = some queue → queue.generation ≠ generation

theorem made_of_installed (sound : Sound world) (slot : Slot) (queue : RelayQueue)
    (installed : world.relay.slots slot = some queue) : Made world slot queue.generation := by
  refine ⟨(sound.installed slot queue installed).counted, fun work fresh held creating same => ?_⟩
  have newest := ((sound.working slot work held).creating fresh creating).newest queue installed
  omega

theorem creating_step (label : RelayLabel) (next : Step world label after) (slot : Slot) (work : GateWork)
    (queue : RelayQueue) (held : after.gates slot = some work) (creating : work.creating = some queue) :
    (∃ earlier, world.gates slot = some earlier ∧ earlier.creating = some queue) ∨
      queue.generation = world.relay.queueGenerations slot + 1 := by
  have kept (before : world.gates slot = some work) :
      ∃ earlier, world.gates slot = some earlier ∧ earlier.creating = some queue := ⟨work, before, creating⟩
  cases step_moves world label after next with
  | created other epoch token free checked =>
    rcases update_some held with ⟨rfl, made⟩ | before
    · cases made
      cases creating
      exact .inr rfl
    · exact .inl (kept before)
  | advanced other earlier later before same listener uncleared =>
    rcases update_some held with ⟨rfl, made⟩ | elsewhere
    · cases made
      exact .inl ⟨earlier, before, same ▸ creating⟩
    · exact .inl (kept elsewhere)
  | cleared other fresh named before =>
    rcases update_some held with ⟨rfl, made⟩ | elsewhere
    · cases made
      exact .inl ⟨_, before, creating⟩
    · exact .inl (kept elsewhere)
  | listening | installed | committed | dropped | idle =>
    rcases update_some held with ⟨_, made⟩ | before
    · cases made <;> cases creating
    · exact .inl (kept before)
  | noted | lost | connected | released => exact .inl (kept held)

theorem generations_step (label : RelayLabel) (next : Step world label after) (slot : Slot) :
    world.relay.queueGenerations slot ≤ after.relay.queueGenerations slot := by
  cases step_moves world label after next with
  | created other epoch token => exact (Relay.Grows.newQueue _ other epoch token).counted slot
  | _ => exact le_rfl

theorem made_step (label : RelayLabel) (next : Step world label after) (slot : Slot) (generation : Nat)
    (made : Made world slot generation) : Made after slot generation := by
  refine ⟨made.1.trans (generations_step label next slot), fun work queue held creating => ?_⟩
  rcases creating_step label next slot work queue held creating with ⟨earlier, before, same⟩ | counted
  · exact made.2 earlier queue before same
  · have issued := made.1
    omega

theorem absent_step (sound : Sound world) (label : RelayLabel) (next : Step world label after) (slot : Slot)
    (generation : Nat) (made : Made world slot generation) (absent : Absent world slot generation) :
    Absent after slot generation := by
  intro queue found
  rcases slots_step sound label next slot queue found with ⟨old, installed, same⟩ | ⟨_, held, _⟩
  · rw [← same]
    exact absent old installed
  · exact made.2 _ queue held rfl

theorem gone_run {past labels : List RelayLabel} {final : RelayWorld} (reached : Run Step {} past world) (slot : Slot)
    (generation : Nat) (made : Made world slot generation) (absent : Absent world slot generation)
    (run : Run Step world labels final) : Made final slot generation ∧ Absent final slot generation :=
  run.invariant (fun _ state => Made state slot generation ∧ Absent state slot generation) ⟨made, absent⟩
    fun _ _ label _ sofar gone next =>
      ⟨made_step label next slot generation gone.1,
        absent_step (sound_run (reached.append sofar)) label next slot generation gone.1 gone.2⟩

theorem made_run {labels : List RelayLabel} {final : RelayWorld} (slot : Slot) (generation : Nat)
    (made : Made world slot generation) (run : Run Step world labels final) : Made final slot generation :=
  run.invariant (fun _ state => Made state slot generation) made
    fun _ _ label _ _ made next => made_step label next slot generation made

structure ConnectionEpochs (past : List RelayLabel) (world : RelayWorld) : Prop where
  stale : ∀ label after, Step world label after → world.carried label ≠ 0 →
    world.carried label ≠ world.relay.connectionEpoch → Unaffected world.relay after.relay
  registration : ∀ connection slot token closed registration after,
    Step world (.admitEvent connection slot token closed registration) after →
    (∀ found, validSlot slot = some found → world.relay.registrations found ≠ registration) → after = world
  installed : ∀ slot queue, world.relay.slots slot = some queue →
    ∃ before since, Happened Step {} past before (.install slot) since ∧ InstalledUnder before slot queue
  listener : ∀ slot work generation, world.gates slot = some work → work.listener = some generation →
    ∃ queue, world.relay.slots slot = some queue ∧ queue.generation = generation
  uninstalled : ∀ slot generation after, Absent world slot generation →
    Step world (.frameAvailable slot generation) after → after = world
  gone : ∀ slot queue labels middle later final, world.relay.slots slot = some queue →
    Run Step world labels middle → Absent middle slot queue.generation → Run Step middle later final →
      Absent final slot queue.generation ∧
        ∀ work, final.gates slot = some work → work.listener ≠ some queue.generation

theorem connection_epochs (past : List RelayLabel) (world : RelayWorld) (run : Run Step {} past world) :
    ConnectionEpochs past world := by
  have sound := sound_run run
  constructor
  case stale =>
    intro label after next carries stale
    exact stale_step sound label next ⟨carries, stale⟩
  case registration =>
    intro connection slot token closed registration after next other
    cases next
    rw [admit_other_registration sound connection slot token closed registration other]
    rfl
  case installed => exact installed_run run
  case listener =>
    intro slot work generation held listener
    exact (sound.working slot work held).listening generation listener
  case uninstalled =>
    intro slot generation after absent next
    simp only [Step, perform] at next
    split at next <;> cases next
    next free =>
      cases installed : world.relay.slots slot with
      | none => exact gate_self world slot none free
      | some queue =>
        have other : (queue.generation == generation) = false := beq_eq_false_iff_ne.mpr (absent queue installed)
        simp only [Option.any_some, other, Bool.false_eq_true, if_false]
        exact gate_self world slot none free
  case gone =>
    intro slot queue labels middle later final installed first absent second
    have made := made_run slot queue.generation (made_of_installed sound slot queue installed) first
    have gone := gone_run (run.append first) slot queue.generation made absent second
    refine ⟨gone.2, fun work held listener => ?_⟩
    have reached := (run.append first).append second
    obtain ⟨other, found, same⟩ := ((sound_run reached).working slot work held).listening _ listener
    exact gone.2 other found same

def restartLabels : List RelayLabel :=
  [ .ask, .connect 7 6, .connected
  , .register 7 0 1000, .registered ⟨7, 0, 1000, 0⟩ true
  , .admitEvent 1 0 5 false 1000
  , .create 0 640 480 1 5, .confirm 0, .clear 0, .install 0
  , .halDied 1
  , .ask, .connect 8 6, .connected
  , .register 8 0 1000, .registered ⟨8, 0, 1000, 0⟩ true
  , .admitEvent 2 0 5 false 1000 ]

theorem connection_epochs_restart :
    ∃ world, Run Step {} restartLabels world ∧ ConnectionEpochs restartLabels world ∧
      world.relay.connectionEpoch = 2 ∧ (world.relay.slots 0).map RelayQueue.connection = some 1 := by
  have computed : (restartLabels.foldlM perform {}).any (fun world =>
      decide (world.relay.connectionEpoch = 2 ∧
        (world.relay.slots 0).map RelayQueue.connection = some 1)) = true := by
    decide +kernel
  obtain ⟨world, run, reached⟩ := Run.of_any computed
  exact ⟨world, run, connection_epochs restartLabels world run, of_decide_eq_true reached⟩

end RelayWorld

end VirtualCamera
