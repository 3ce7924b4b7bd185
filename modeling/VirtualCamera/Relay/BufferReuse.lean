import VirtualCamera.Relay.RelayHalWorld

set_option autoImplicit false

namespace VirtualCamera

open Descriptors Runs

namespace RelayHalWorld

def Keeps (world : RelayHalWorld) (slot : Slot) (handle : HalHandle) (sequence : Nat) : Prop :=
  match world.serving slot with
  | some (.answered .ok retired next) => (world.hals handle).Settled slot sequence retired ∧ sequence < next
  | _ => (world.hals handle).Kept slot sequence

def Newest (world : RelayHalWorld) (slot : Slot) (handle : HalHandle) (sequence : Nat) : Prop :=
  ∀ entry ∈ world.recycled, entry.slot = slot → entry.handle = handle → entry.sequence < sequence

structure Holding (world : RelayHalWorld) (slot : Slot) (queue : RelayQueue) : Prop where
  bound : world.relay.relay.Bound queue (world.origin slot queue.generation).1
  keeps : world.Keeps slot (world.origin slot queue.generation).1 (world.origin slot queue.generation).2
  newest : world.Newest slot (world.origin slot queue.generation).1 (world.origin slot queue.generation).2

structure Speaking (world : RelayHalWorld) (slot : Slot) (queue : RelayQueue) (handle : HalHandle) : Prop where
  bound : world.relay.relay.Bound queue handle
  same : queue.held.isSome = true → (world.origin slot queue.generation).1 = handle
  answered : ∀ retired sequence, world.serving slot = some (.answered .ok retired sequence) →
    (world.hals handle).Kept slot sequence ∧ world.Newest slot handle sequence

structure Sound (world : RelayHalWorld) : Prop where
  relay : world.relay.Sound
  hals : ∀ handle, (world.hals handle).Sound ∧ (world.hals handle).Numbered
  idle : ∀ slot, world.submitted slot = none → world.serving slot = none
  holding : ∀ slot queue, world.relay.relay.slots slot = some queue → queue.held.isSome = true →
    world.Holding slot queue
  speaking : ∀ slot queue work handle, world.relay.relay.slots slot = some queue →
    world.relay.gates slot = some work →
    work.handle = some handle → world.Speaking slot queue handle
  settled : ∀ entry ∈ world.recycled, (world.hals entry.handle).Settled entry.slot entry.sequence entry.fence
  once : world.recycled.Pairwise fun later earlier =>
    later.slot = earlier.slot → later.handle = earlier.handle → earlier.sequence < later.sequence

variable {world after : RelayHalWorld} {slot : Slot} {queue : RelayQueue} {handle : HalHandle} {item : BufferItem}

theorem submitted_eq (found : world.submitted slot = some (queue, handle, item)) :
    world.relay.relay.slots slot = some queue ∧
      ∃ generation, world.relay.gates slot = some (.submitted generation handle item) := by
  unfold submitted at found
  split at found
  next queue' generation handle' item' installed held =>
    cases found
    exact ⟨installed, generation, held⟩
  next => cases found

theorem unsubmitted (free : ∀ generation handle item, world.relay.gates slot ≠ some
    (.submitted generation handle item)) :
    world.submitted slot = none := by
  unfold submitted
  split
  next queue generation handle item _ held => exact absurd held (free generation handle item)
  next => rfl

theorem boot_sound (provider : Bool) (outcome : HalHandle → Nat → Bool) : (boot provider outcome).Sound where
  relay := RelayWorld.initial_sound
  hals handle := by
    refine ⟨HalWorld.boot_sound provider (outcome handle), fun slot => ?_, fun keeper member => ?_⟩
    · exact Nat.zero_le _
    · cases member
  idle _ _ := rfl
  holding _ _ found := by cases found
  speaking _ _ _ _ found := by cases found
  settled _ member := by cases member
  once := .nil

structure Elsewhere (world after : RelayHalWorld) (slot : Slot) : Prop where
  bound : ∀ queue handle, world.relay.relay.slots slot = some queue → world.relay.relay.Bound queue handle →
    after.relay.relay.Bound queue handle
  origin : after.origin slot = world.origin slot
  serving : after.serving slot = world.serving slot
  recycled : ∀ entry ∈ after.recycled, entry.slot = slot → entry ∈ world.recycled
  kept : ∀ handle sequence, (world.hals handle).Kept slot sequence → (after.hals handle).Kept slot sequence
  settled : ∀ handle sequence fence, (world.hals handle).Settled slot sequence fence →
    (after.hals handle).Settled slot sequence fence

theorem Newest.elsewhere {sequence : Nat} (newest : world.Newest slot handle sequence)
    (elsewhere : Elsewhere world after slot) : after.Newest slot handle sequence :=
  fun entry member here => newest entry (elsewhere.recycled entry member here) here

theorem Keeps.elsewhere {sequence : Nat} (keeps : world.Keeps slot handle sequence)
    (elsewhere : Elsewhere world after slot) : after.Keeps slot handle sequence := by
  unfold Keeps at *
  rw [elsewhere.serving]
  split at keeps
  next retired next same => exact ⟨elsewhere.settled handle sequence retired keeps.1, keeps.2⟩
  next other => exact elsewhere.kept handle sequence keeps

theorem Holding.elsewhere (holding : world.Holding slot queue) (installed : world.relay.relay.slots slot = some queue)
    (elsewhere : Elsewhere world after slot) : after.Holding slot queue := by
  obtain ⟨bound, keeps, newest⟩ := holding
  rw [← elsewhere.origin] at bound keeps newest
  exact ⟨elsewhere.bound queue _ installed bound, keeps.elsewhere elsewhere, newest.elsewhere elsewhere⟩

theorem Speaking.elsewhere (speaking : world.Speaking slot queue handle)
    (installed : world.relay.relay.slots slot = some queue) (elsewhere : Elsewhere world after slot) :
    after.Speaking slot queue handle := by
  obtain ⟨bound, same, answered⟩ := speaking
  refine ⟨elsewhere.bound queue handle installed bound, elsewhere.origin ▸ same, fun retired sequence done => ?_⟩
  obtain ⟨kept, newest⟩ := answered retired sequence (elsewhere.serving ▸ done)
  exact ⟨elsewhere.kept handle sequence kept, newest.elsewhere elsewhere⟩

theorem Sound.of_hals (sound : world.Sound) (relay : after.relay = world.relay)
    (recycled : after.recycled = world.recycled)
    (elsewhere : ∀ slot, Elsewhere world after slot)
    (hals : ∀ handle, (after.hals handle).Sound ∧ (after.hals handle).Numbered) : after.Sound where
  relay := relay ▸ sound.relay
  hals := hals
  idle slot free := by
    rw [(elsewhere slot).serving]
    refine sound.idle slot ?_
    simpa [submitted, relay] using free
  holding slot queue found held :=
    have installed : world.relay.relay.slots slot = some queue := relay ▸ found
    (sound.holding slot queue installed held).elsewhere installed (elsewhere slot)
  speaking slot queue work handle found held stands :=
    have installed : world.relay.relay.slots slot = some queue := relay ▸ found
    (sound.speaking slot queue work handle installed (relay ▸ held) stands).elsewhere installed (elsewhere slot)
  settled entry member := (elsewhere entry.slot).settled _ _ _ (sound.settled entry (recycled ▸ member))
  once := recycled ▸ sound.once

theorem Sound.at_slot (sound : world.Sound) (slot : Slot) (relay : after.relay.Sound)
    (hals : ∀ handle, (after.hals handle).Sound ∧ (after.hals handle).Numbered)
    (slots : ∀ other, other ≠ slot → after.relay.relay.slots other = world.relay.relay.slots other)
    (gates : ∀ other, other ≠ slot → after.relay.gates other = world.relay.gates other)
    (elsewhere : ∀ other, other ≠ slot → Elsewhere world after other)
    (idle : after.submitted slot = none → after.serving slot = none)
    (holding : ∀ queue, after.relay.relay.slots slot = some queue → queue.held.isSome = true →
    after.Holding slot queue)
    (speaking : ∀ queue work handle, after.relay.relay.slots slot = some queue → after.relay.gates slot = some work →
      work.handle = some handle → after.Speaking slot queue handle)
    (settled : ∀ entry ∈ after.recycled, (after.hals entry.handle).Settled entry.slot entry.sequence entry.fence)
    (once : after.recycled.Pairwise fun later earlier =>
      later.slot = earlier.slot → later.handle = earlier.handle → earlier.sequence < later.sequence) : after.Sound where
  relay := relay
  hals := hals
  idle other free := by
    by_cases same : other = slot
    next => exact same ▸ idle (same ▸ free)
    next =>
      rw [(elsewhere other same).serving]
      refine sound.idle other ?_
      simpa [submitted, slots other same, gates other same] using free
  holding other queue found held := by
    by_cases same : other = slot
    next =>
      subst same
      exact holding queue found held
    next =>
      have installed := (slots other same).symm.trans found
      exact (sound.holding other queue installed held).elsewhere installed (elsewhere other same)
  speaking other queue work handle found held stands := by
    by_cases same : other = slot
    next =>
      subst same
      exact speaking queue work handle found held stands
    next =>
      have installed := (slots other same).symm.trans found
      have before := (gates other same).symm.trans held
      exact (sound.speaking other queue work handle installed before stands).elsewhere installed (elsewhere other same)
  settled := settled
  once := once

-- A connection that the queue has outlived does not come back.
theorem bound_moves {before later : Relay} (bound : before.Bound queue handle)
    (installed : before.Installed slot queue)
    (moved : (later.hal = before.hal ∧ later.connectionEpoch = before.connectionEpoch) ∨
      later.connectionEpoch = 0 ∨ before.nextConnectionEpoch < later.connectionEpoch) : later.Bound queue handle := by
  intro current
  have connected := installed.connected
  have known := installed.known
  rcases moved with ⟨hal, epoch⟩ | lost | newer
  · exact hal.trans (bound (epoch.symm.trans current))
  · exact absurd (current.symm.trans lost) connected
  · exact absurd (current ▸ newer) (not_lt_of_ge known)

theorem Sound.relayed {relay : RelayWorld} {label : RelayLabel} (sound : world.Sound) (other : label.submits = false)
    (next : RelayWorld.Step world.relay label relay) : (world.withRelay relay).Sound := by
  have undisturbed := RelayWorld.undisturbed_step sound.relay other next
  have elsewhere (slot : Slot) : Elsewhere world (world.withRelay relay) slot := {
    bound := fun queue _ installed bound =>
      bound_moves bound (sound.relay.installed slot queue installed) undisturbed.connection
    origin := rfl
    serving := rfl
    recycled := fun _ member _ => member
    kept := fun _ _ kept => kept
    settled := fun _ _ _ settled => settled }
  have idle (slot : Slot) (free : (world.withRelay relay).submitted slot = none) :
      world.serving slot = none := by
    refine sound.idle slot (Option.eq_none_iff_forall_not_mem.mpr fun found asked => ?_)
    obtain ⟨queue, handle, item⟩ := found
    obtain ⟨installed, generation, held⟩ := submitted_eq asked
    obtain ⟨gates, slots⟩ := undisturbed.busy slot generation handle item held
    simp [submitted, withRelay, gates, slots, installed, held] at free
  refine ⟨RelayWorld.sound_step _ label relay sound.relay next, sound.hals, idle, ?_, ?_, sound.settled, sound.once⟩
  · intro slot queue found held
    rcases undisturbed.queues slot queue found with installed | unheld
    · exact (sound.holding slot queue installed held).elsewhere installed (elsewhere slot)
    · rw [unheld] at held
      cases held
  · intro slot queue work handle found held stands
    obtain ⟨slots, origin⟩ := undisturbed.handles slot work handle held stands
    have installed : world.relay.relay.slots slot = some queue := slots.symm.trans found
    have known := sound.relay.installed slot queue installed
    have spoken (work : GateWork) (held : world.relay.gates slot = some work) (stands : work.handle = some handle) :
        (world.withRelay relay).Speaking slot queue handle :=
      (sound.speaking slot queue work handle installed held stands).elsewhere installed (elsewhere slot)
    rcases origin with before | ⟨before, there, same, _⟩ | ⟨old, generation, there, rfl, current, hal⟩
    · exact spoken work before stands
    · exact spoken before there same
    · obtain rfl : old = queue := Option.some.inj (there.symm.trans installed)
      refine ⟨bound_moves (fun _ => hal) known undisturbed.connection, fun holds => ?_,
        fun retired sequence done => ?_⟩
      · exact Option.some.inj (((sound.holding slot old installed holds).bound current).symm.trans hal)
      · have free := idle slot (unsubmitted (by simp [held]))
        exact absurd (free.symm.trans done) (by simp)

theorem keeps_unanswered {sequence : Nat}
    (unanswered : ∀ retired next, world.serving slot ≠ some (.answered .ok retired next)) :
    world.Keeps slot handle sequence ↔ (world.hals handle).Kept slot sequence := by
  unfold Keeps
  split
  next retired next same => exact absurd same (unanswered retired next)
  next => rfl

theorem keeps_answered {sequence next : Nat} {retired : Option Fd}
    (answered : world.serving slot = some (.answered .ok retired next)) :
    world.Keeps slot handle sequence ↔ (world.hals handle).Settled slot sequence retired ∧ sequence < next := by
  simp [Keeps, answered]

structure Own (world after : RelayHalWorld) (slot : Slot) : Prop where
  connection : after.relay.relay.hal = world.relay.relay.hal ∧
    after.relay.relay.connectionEpoch = world.relay.relay.connectionEpoch
  slots : ∀ other, other ≠ slot → after.relay.relay.slots other = world.relay.relay.slots other
  gates : ∀ other, other ≠ slot → after.relay.gates other = world.relay.gates other
  serving : ∀ other, other ≠ slot → after.serving other = world.serving other

theorem Own.bound (own : Own world after slot) (bound : world.relay.relay.Bound queue handle) :
    after.relay.relay.Bound queue handle := by
  intro current
  rw [own.connection.1]
  exact bound (own.connection.2 ▸ current)

theorem Sound.unanswered (sound : world.Sound) (slot : Slot) (own : Own world after slot) (relay : after.relay.Sound)
    (hals : ∀ handle, (after.hals handle).Sound ∧ (after.hals handle).Numbered)
    (kept : ∀ slot handle sequence, (world.hals handle).Kept slot sequence → (after.hals handle).Kept slot sequence)
    (settled : ∀ slot handle sequence fence, (world.hals handle).Settled slot sequence fence →
      (after.hals handle).Settled slot sequence fence)
    (origin : after.origin = world.origin) (recycled : after.recycled = world.recycled)
    (slots : ∀ queue, after.relay.relay.slots slot = some queue → world.relay.relay.slots slot = some queue ∧
      ∀ retired next, world.serving slot ≠ some (.answered .ok retired next))
    (gates : ∀ work handle, after.relay.gates slot = some work → work.handle = some handle →
      ∃ before, world.relay.gates slot = some before ∧ before.handle = some handle)
    (idle : after.submitted slot = none → after.serving slot = none)
    (unanswered : ∀ retired next, after.serving slot ≠ some (.answered .ok retired next)) : after.Sound := by
  refine sound.at_slot slot relay hals own.slots own.gates (fun other differ => ?_) idle ?_ ?_ ?_ (recycled ▸ sound.once)
  · exact {
      bound := fun _ _ _ => own.bound
      origin := congrFun origin other
      serving := own.serving other differ
      recycled := fun _ member _ => recycled ▸ member
      kept := kept other
      settled := settled other }
  · intro queue found held
    obtain ⟨installed, open_⟩ := slots queue found
    obtain ⟨bound, keeps, newest⟩ := sound.holding slot queue installed held
    rw [← origin] at bound keeps newest
    refine ⟨own.bound bound, (keeps_unanswered unanswered).mpr ?_, fun entry member =>
      newest entry (recycled ▸ member)⟩
    exact kept slot _ _ ((keeps_unanswered open_).mp keeps)
  · intro queue work handle found held stands
    obtain ⟨before, there, same⟩ := gates work handle held stands
    obtain ⟨bound, same, _⟩ := sound.speaking slot queue before handle (slots queue found).1 there same
    exact ⟨own.bound bound, origin ▸ same, fun retired sequence done => absurd done (unanswered retired sequence)⟩
  · exact fun entry member => settled _ _ _ _ (sound.settled entry (recycled ▸ member))

theorem Sound.submits {relay : RelayWorld} {dup : Option Fd} (sound : world.Sound)
    (next : RelayWorld.Step world.relay (.submit slot dup) relay) :
    (if ((world.withRelay relay).submitted slot).isSome then (world.withRelay relay).setServing slot (some .asked)
      else world.withRelay relay).Sound := by
  have relays := RelayWorld.sound_step _ _ relay sound.relay next
  simp only [RelayWorld.Step, RelayWorld.perform] at next
  split at next <;> cases next
  next generation handle item held =>
  generalize working :
    (if RelayWorld.submits item dup then some (GateWork.submitted generation handle item) else none) = work at *
  have free : world.serving slot = none := sound.idle slot (unsubmitted (by simp [held]))
  have gates (next : GateWork) (hal : HalHandle) (found : (world.relay.gate slot work).gates slot = some next)
      (stands : next.handle = some hal) : ∃ before, world.relay.gates slot = some before ∧
      before.handle = some hal := by
    refine ⟨_, held, ?_⟩
    simp only [RelayWorld.gate, Function.update_self] at found
    subst found
    split at working <;> cases working
    exact stands
  split
  next asked =>
    refine sound.unanswered slot ?_ relays sound.hals (fun _ _ _ kept => kept) (fun _ _ _ _ settled => settled) rfl rfl
      (fun queue found => ⟨found, by simp [free]⟩) gates (fun missing => ?_) (by simp [setServing])
    · exact ⟨⟨rfl, rfl⟩, fun _ _ => rfl, fun _ differ => Function.update_of_ne differ _ _,
        fun _ differ => Function.update_of_ne differ _ _⟩
    · have unasked : (world.withRelay (world.relay.gate slot work)).submitted slot = none := missing
      rw [unasked] at asked
      cases asked
  next =>
    refine sound.unanswered slot ?_ relays sound.hals (fun _ _ _ kept => kept) (fun _ _ _ _ settled => settled) rfl rfl
      (fun queue found => ⟨found, by simp [free]⟩) gates (fun _ => free) (by simp [withRelay, free])
    exact ⟨⟨rfl, rfl⟩, fun _ _ => rfl, fun _ differ => Function.update_of_ne differ _ _, fun _ _ => rfl⟩

theorem runs_spec {event : HalEvent} (sound : world.Sound) (ran : world.runs handle event = some after) :
    ∃ hals, after = { world with hals } ∧ hals handle = (world.hals handle).perform event ∧
      (∀ other, (hals other).Sound ∧ (hals other).Numbered) ∧
      (∀ slot other sequence fence, (world.hals other).Settled slot sequence fence →
        (hals other).Settled slot sequence fence) ∧
      ∀ slot other sequence, (∀ fence, event.asks (world.hals handle) ≠ some (slot, .returned .ok fence)) →
        (world.hals other).Kept slot sequence → (hals other).Kept slot sequence := by
  unfold runs at ran
  split at ran <;> cases ran
  next allowed =>
  refine ⟨_, rfl, Function.update_self .., fun other => ?_, fun slot other sequence fence settled => ?_,
    fun slot other sequence unstored kept => ?_⟩
  all_goals
    by_cases same : other = handle
  case pos =>
    subst same
    rw [Function.update_self]
    exact ⟨(sound.hals other).1.step ⟨allowed.2, rfl⟩, (sound.hals other).2.perform event⟩
  case neg => exact (Function.update_of_ne same _ world.hals) ▸ sound.hals other
  case pos =>
    subst same
    rw [Function.update_self]
    exact settled.perform event
  case neg => exact (Function.update_of_ne same _ world.hals) ▸ settled
  case pos =>
    subst same
    rw [Function.update_self]
    exact kept.perform event unstored
  case neg => exact (Function.update_of_ne same _ world.hals) ▸ kept

theorem Sound.serves {event : HalEvent} (sound : world.Sound)
    (asking : world.submitted slot = some (queue, handle, item))
    (unanswered : ∀ retired next, world.serving slot ≠ some (.answered .ok retired next))
    (asks : ∀ asked, event.asks (world.hals handle) = some asked → asked.1 = slot)
    (served : world.serve slot handle event = some after) : after.Sound := by
  obtain ⟨middle, ran, answered⟩ := Option.bind_eq_some_iff.mp served
  obtain ⟨⟨here, result⟩, asked, rfl⟩ := Option.map_eq_some_iff.mp answered
  obtain rfl : here = slot := asks _ asked
  obtain ⟨stage, rfl, performed, hals, settled, kept⟩ := runs_spec sound ran
  obtain ⟨installed, generation, held⟩ := submitted_eq asking
  have own : Own world (({ world with hals := stage } : RelayHalWorld).setServing here (some (.ofResult ((stage handle).hal.latest here).sequence
      result))) here :=
    ⟨⟨rfl, rfl⟩, fun _ _ => rfl, fun _ _ => rfl, fun _ differ => Function.update_of_ne differ _ _⟩
  by_cases stored : ∃ fence, result = .returned .ok fence
  next =>
    obtain ⟨fence, rfl⟩ := stored
    have speaking := sound.speaking here queue _ handle installed held rfl
    obtain ⟨has, newer⟩ := (sound.hals handle).2.keeps asked
    rw [← performed] at has newer
    refine sound.at_slot here sound.relay hals own.slots own.gates (fun other differ => ?_) (fun missing => ?_) ?_ ?_
      (fun entry member => settled _ _ _ _ (sound.settled entry member)) sound.once
    · exact {
        bound := fun _ _ _ => own.bound
        origin := rfl
        serving := own.serving other differ
        recycled := fun _ member _ => member
        kept := fun hal sequence => kept other hal sequence fun fence same =>
          differ (Prod.mk.inj (Option.some.inj (asked.symm.trans same))).1.symm
        settled := settled other }
    · exact absurd (asking.symm.trans missing) (by simp)
    · intro found there holds
      obtain rfl : queue = found := Option.some.inj (installed.symm.trans there)
      obtain ⟨bound, keeps, newest⟩ := sound.holding here queue installed holds
      refine ⟨own.bound bound, ?_, newest⟩
      have had := (keeps_unanswered unanswered).mp keeps
      have same := speaking.same holds
      have settles : (stage (world.origin here queue.generation).1).Settled here (world.origin here queue.generation).2
          fence := by
        rw [same] at had ⊢
        exact performed ▸ had.settles asked
      exact (keeps_answered (Function.update_self ..)).mpr ⟨settles, lt_of_le_of_lt (same ▸ had).counted newer⟩
    · intro found work hal there held' stands
      obtain ⟨bound, same, _⟩ := sound.speaking here found work hal there held' stands
      refine ⟨own.bound bound, same, fun retired sequence done => ?_⟩
      obtain rfl : hal = handle := by
        obtain rfl : _ = work := Option.some.inj (held.symm.trans held')
        exact (Option.some.inj stands).symm
      have numbered := (Function.update_self ..).symm.trans done
      cases numbered
      refine ⟨has, fun entry member _ there => ?_⟩
      subst there
      exact lt_of_le_of_lt (sound.settled entry member).counted newer
  next =>
    have refused (other : Slot) (fence : Option Fd) : event.asks (world.hals handle) ≠ some (other, .returned .ok fence) := by
      intro same
      rw [asked] at same
      exact stored ⟨fence, (Prod.mk.inj (Option.some.inj same)).2⟩
    refine sound.unanswered here own sound.relay hals (fun slot other sequence => kept slot other sequence (refused slot))
      settled rfl rfl (fun queue found => ⟨found, unanswered⟩) (fun work handle found stands => ⟨work, found, stands⟩) ?_ ?_
    · exact fun missing => absurd (asking.symm.trans missing) (by simp)
    · intro retired next same
      simp only [setServing, Function.update_self] at same
      cases result with
      | waiting frame => cases same
      | returned status fence =>
        cases same
        exact stored ⟨retired, rfl⟩

theorem Sound.commits {retired : Option Fd} {sequence : Nat} (sound : world.Sound)
    (asking : world.submitted slot = some (queue, handle, item))
    (answered : world.serving slot = some (.answered .ok retired sequence))
    (relays : ((world.relay.withRelay (RelayWorld.commitHeld world.relay.relay slot item)).gate slot none).Sound) :
    (((world.withRelay ((world.relay.withRelay (RelayWorld.commitHeld world.relay.relay slot item)).gate slot
      none)).setServing slot none).commit slot queue handle retired sequence).Sound := by
  obtain ⟨installed, generation, held⟩ := submitted_eq asking
  have home := (sound.relay.installed slot queue installed).home
  have speaking := sound.speaking slot queue _ handle installed held rfl
  obtain ⟨kept, newest⟩ := speaking.answered retired sequence answered
  have committed : RelayWorld.commitHeld world.relay.relay slot item =
      world.relay.relay.setQueue { queue with held := some item } := by simp [RelayWorld.commitHeld, installed]
  rw [committed] at relays ⊢
  obtain rfl := home
  have other (entry : Recycled) (member : entry ∈ ((world.commit queue.slot queue handle retired sequence).recycled)) :
      entry ∈ world.recycled ∨ (queue.held.isSome = true ∧
        entry = ⟨queue.slot, (world.origin queue.slot queue.generation).1,
          (world.origin queue.slot queue.generation).2, retired⟩) := by
    simp only [commit] at member
    split at member
    next holds => exact (List.mem_cons.mp member).symm.imp id fun same => ⟨holds, same⟩
    next => exact .inl member
  have given (holds : queue.held.isSome = true) := sound.holding queue.slot queue installed holds
  refine sound.at_slot queue.slot relays sound.hals (fun _ differ => Function.update_of_ne differ _ _)
    (fun _ differ => Function.update_of_ne differ _ _) (fun elsewhere differ => ?_) (fun _ => Function.update_self ..)
    ?_ ?_ ?_ ?_
  · exact {
      bound := fun _ _ _ bound => bound
      origin := Function.update_of_ne differ _ _
      serving := Function.update_of_ne differ _ _
      recycled := fun entry member here => (other entry member).resolve_right fun ⟨_, same⟩ =>
        differ (here.symm.trans (congrArg Recycled.slot same))
      kept := fun _ _ kept => kept
      settled := fun _ _ _ settled => settled }
  · intro found there holds
    have installing : (world.relay.relay.setQueue { queue with held := some item }).slots queue.slot = some found := there
    obtain rfl : { queue with held := some item } = found := by simpa using installing
    have origin : (world.commit queue.slot queue handle retired sequence).origin queue.slot queue.generation =
        (handle, sequence) := by simp [commit]
    refine ⟨?_, ?_, fun entry member here hal => ?_⟩
    · exact (congrArg (fun pair => world.relay.relay.Bound queue pair.1) origin).mpr speaking.bound
    · refine (keeps_unanswered fun _ _ same => ?_).mpr ?_
      · cases (Function.update_self ..).symm.trans same
      · exact (congrArg (fun pair => (world.hals pair.1).Kept queue.slot pair.2) origin).mpr kept
    · refine (congrArg (fun pair => entry.sequence < pair.2) origin).mpr ?_
      rcases other entry member with older | ⟨holds, rfl⟩
      · exact newest entry older here (hal.trans (congrArg Prod.fst origin))
      · exact ((keeps_answered answered).mp (given holds).keeps).2
  · intro _ _ _ _ there
    cases (Function.update_self ..).symm.trans there
  · intro entry member
    rcases other entry member with older | ⟨holds, rfl⟩
    · exact sound.settled entry older
    · exact ((keeps_answered answered).mp (given holds).keeps).1
  · change (world.commit queue.slot queue handle retired sequence).recycled.Pairwise _
    simp only [commit]
    split
    next holds =>
      refine List.pairwise_cons.mpr ⟨fun earlier member slot hal => ?_, sound.once⟩
      exact (given holds).newest earlier member slot.symm hal.symm
    next => exact sound.once

theorem delivers_ok {serving : Serving} {lost : Bool} {given : Option Fd}
    (delivers : serving.delivers lost (.ok given) = true) :
    ∃ sequence, serving = .answered .ok given sequence := by
  cases serving with
  | answered status retired sequence =>
    cases status with
    | ok =>
      obtain rfl : retired = given := by simpa [Serving.delivers] using delivers
      exact ⟨sequence, rfl⟩
    | serviceSpecific code => cases delivers
  | asked | waiting frame => cases delivers

theorem delivers_serviceSpecific {serving : Serving} {lost : Bool}
    (delivers : serving.delivers lost .serviceSpecific = true) :
    ∃ code retired sequence, serving = .answered (.serviceSpecific code) retired sequence := by
  cases serving with
  | answered status retired sequence =>
    cases status with
    | ok => cases delivers
    | serviceSpecific code => exact ⟨code, retired, sequence, rfl⟩
  | asked | waiting frame => cases delivers

theorem Sound.replies {relay : RelayWorld} {reply : SubmitReply} {serving : Serving} (sound : world.Sound)
    (asking : world.submitted slot = some (queue, handle, item)) (found : world.serving slot = some serving)
    (delivers : serving.delivers (decide (handle ∈ world.dead)) reply = true)
    (next : RelayWorld.Step world.relay (.reply slot reply) relay) :
    (((world.withRelay relay).setServing slot none).committed slot queue handle serving reply).Sound := by
  have relays := RelayWorld.sound_step _ _ relay sound.relay next
  obtain ⟨installed, generation, held⟩ := submitted_eq asking
  simp only [RelayWorld.Step, RelayWorld.perform, held] at next
  cases reply with
  | ok given =>
    cases next
    obtain ⟨sequence, rfl⟩ := delivers_ok delivers
    exact sound.commits asking found relays
  | serviceSpecific =>
    cases next
    obtain ⟨code, retired, sequence, rfl⟩ := delivers_serviceSpecific delivers
    refine sound.unanswered slot ?_ relays sound.hals (fun _ _ _ kept => kept) (fun _ _ _ _ settled => settled) rfl rfl
      (fun _ there => ⟨there, by simp [found]⟩) (fun _ _ there => ?_) (fun _ => Function.update_self ..) ?_
    · exact ⟨⟨rfl, rfl⟩, fun _ _ => rfl, fun _ differ => Function.update_of_ne differ _ _,
        fun _ differ => Function.update_of_ne differ _ _⟩
    · cases (Function.update_self ..).symm.trans there
    · exact fun _ _ same => by cases (Function.update_self ..).symm.trans same
  | transport =>
    cases next
    have refused (serving : Serving) (world : RelayHalWorld) :
        world.committed slot queue handle serving .transport = world := by cases serving <;> rfl
    rw [refused]
    refine sound.unanswered slot ?_ relays sound.hals (fun _ _ _ kept => kept) (fun _ _ _ _ settled => settled) rfl rfl
      (fun _ there => ?_) (fun _ _ there => ?_) (fun _ => Function.update_self ..) ?_
    · exact ⟨⟨rfl, rfl⟩, fun _ differ => Function.update_of_ne differ _ _, fun _ differ =>
        Function.update_of_ne differ _ _,
        fun _ differ => Function.update_of_ne differ _ _⟩
    · cases (Function.update_self ..).symm.trans there
    · cases (Function.update_self ..).symm.trans there
    · exact fun _ _ same => by cases (Function.update_self ..).symm.trans same

theorem asks_submits {hal : HalWorld} {event : HalEvent} (other : event.submits = false) : event.asks hal = none := by
  cases event with
  | enqueue | wake => cases other
  | _ => rfl

theorem queueFrame_asks {hal : HalWorld} {event : HalEvent} {token : Int} {dup : Option Fd} {imports : Bool}
    {imported : Option Ahb} (called : queueFrameForConfiguration slot token item dup imports imported = .ok event)
    (asked : Slot × EnqueueResult) (asks : event.asks hal = some asked) : asked.1 = slot := by
  unfold queueFrameForConfiguration at called
  split at called
  next => cases called
  next =>
    split at called <;> cases called
    obtain rfl := Option.some.inj asks
    rfl

theorem sound_step {label : RelayHalLabel} (sound : world.Sound) (next : Step world label after) : after.Sound := by
  cases label with
  | relay label =>
    simp only [Step, perform] at next
    split at next
    next => cases next
    next other =>
      obtain ⟨relay, moved, rfl⟩ := Option.map_eq_some_iff.mp next
      exact sound.relayed (by simpa using other) moved
  | submit slot dup =>
    simp only [Step, perform] at next
    obtain ⟨relay, moved, rfl⟩ := Option.map_eq_some_iff.mp next
    exact sound.submits moved
  | serve slot dup imports imported =>
    simp only [Step, perform] at next
    split at next
    next queue handle item asking asked =>
      split at next
      next event called =>
        exact sound.serves asking (by simp [asked]) (queueFrame_asks called) next
      next code refused =>
        cases next
        refine sound.unanswered slot ?_ sound.relay sound.hals (fun _ _ _ kept => kept) (fun _ _ _ _ settled => settled)
          rfl rfl (fun _ found => ⟨found, by simp [asked]⟩) (fun work _ found stands => ⟨work, found, stands⟩) ?_ ?_
        · exact ⟨⟨rfl, rfl⟩, fun _ _ => rfl, fun _ _ => rfl, fun _ differ => Function.update_of_ne differ _ _⟩
        · exact fun missing => absurd (asking.symm.trans missing) (by simp)
        · exact fun _ _ same => by cases (Function.update_self ..).symm.trans same
    next => cases next
  | wake slot timedOut =>
    simp only [Step, perform] at next
    split at next
    next queue handle item frame asking waits =>
      refine sound.serves asking (by simp [waits]) (fun asked asks => ?_) next
      obtain rfl := Option.some.inj asks
      rfl
    next => cases next
  | reply slot reply =>
    simp only [Step, perform] at next
    split at next
    next queue handle item serving asking found =>
      split at next
      next delivers =>
        obtain ⟨relay, moved, rfl⟩ := Option.map_eq_some_iff.mp next
        exact sound.replies asking found delivers moved
      next => cases next
    next => cases next
  | hal handle event =>
    simp only [Step, perform] at next
    split at next
    next => cases next
    next other =>
      have unasked (hal : HalWorld) : event.asks hal = none := asks_submits (by simpa using other)
      obtain ⟨hals, rfl, _, sounds, settled, kept⟩ := runs_spec sound next
      refine sound.of_hals rfl rfl (fun slot => ?_) sounds
      exact {
        bound := fun _ _ _ bound => bound
        origin := rfl
        serving := rfl
        recycled := fun _ member _ => member
        kept := fun hal sequence => kept slot hal sequence fun fence same => by cases (unasked _).symm.trans same
        settled := fun hal sequence fence => settled slot hal sequence fence }
  | die handle =>
    cases next
    exact sound.of_hals rfl rfl (fun _ => ⟨fun _ _ _ bound => bound, rfl, rfl, fun _ member _ => member,
      fun _ _ kept => kept, fun _ _ _ settled => settled⟩) sound.hals

structure BufferReuse (world : RelayHalWorld) : Prop where
  unread : ∀ entry ∈ world.recycled, ∀ reservation ∈ (world.hals entry.handle).readers,
    ¬ (reservation.slot = entry.slot ∧ reservation.sequence = entry.sequence)
  awaited : ∀ entry ∈ world.recycled, ∀ contributed ∈ (world.hals entry.handle).contributed,
    contributed.slot = entry.slot → contributed.sequence = entry.sequence →
      (world.hals entry.handle).hal.kernel.Covered entry.fence.toList contributed.fd
  replaced : ∀ entry ∈ world.recycled, ((world.hals entry.handle).hal.latest entry.slot).sequence ≠ entry.sequence
  once : world.recycled.Pairwise fun later earlier =>
    later.slot = earlier.slot → later.handle = earlier.handle → earlier.sequence < later.sequence

theorem buffer_reuse (provider : Bool) (outcome : HalHandle → Nat → Bool) (labels : List RelayHalLabel)
    (world : RelayHalWorld) (run : Run Step (boot provider outcome) labels world) : world.BufferReuse := by
  have sound : world.Sound := run.invariant (fun _ => Sound) (boot_sound provider outcome)
    fun _ _ _ _ _ before next => sound_step before next
  have free (entry : Recycled) (member : entry ∈ world.recycled) :=
    (sound.settled entry member).free (sound.hals entry.handle).1
  refine ⟨fun entry member => (free entry member).1, fun entry member contributed given slot number => ?_,
    fun entry member => (sound.settled entry member).replaced, sound.once⟩
  rcases (free entry member).2 contributed given slot number with ready | ⟨fd, returned, points⟩
  · exact .inl ready
  · exact .inr ⟨fd, Option.mem_toList.mpr returned, points⟩

def reuseLabels : List RelayHalLabel :=
  [ .relay .ask, .relay (.connect 7 6), .relay .connected
  , .relay (.register 7 0 1000), .relay (.registered ⟨7, 0, 1000, 0⟩ true)
  , .hal 7 (.control (.notifyStreamsConfigured 0 1 640 480 30)), .relay (.admitEvent 1 0 1 false 1000)
  , .relay (.create 0 640 480 1 1), .relay (.confirm 0), .relay (.clear 0), .relay (.install 0)
  , .relay (.frameAvailable 0 1), .relay (.snapshot 0)
  , .relay (.acquire 0 (some ⟨some 5, 640, 480, 1, 9, none⟩))
  , .submit 0 none, .serve 0 none true (some 5), .reply 0 (.ok none)
  , .hal 7 (.acquire 0 true true 0 1)
  , .relay (.frameAvailable 0 1), .relay (.snapshot 0)
  , .relay (.acquire 0 (some ⟨some 6, 640, 480, 1, 10, none⟩))
  , .submit 0 none, .serve 0 none true (some 6)
  , .hal 7 (.create [8]), .hal 7 (.release ⟨0, 5, 1⟩ [0])
  , .wake 0 false, .reply 0 (.ok (some 0)) ]

theorem buffer_reuse_waiting :
    ∃ world, Run Step (boot true fun _ _ => true) reuseLabels world ∧ world.BufferReuse ∧
      world.recycled = [⟨0, 7, 1, some 0⟩] := by
  have computed : (reuseLabels.foldlM perform (boot true fun _ _ => true)).any (fun world =>
      decide (world.recycled = [⟨0, 7, 1, some 0⟩])) = true := by
    decide +kernel
  obtain ⟨world, run, reached⟩ := Run.of_any computed
  exact ⟨world, run, buffer_reuse true _ reuseLabels world run, of_decide_eq_true reached⟩

end RelayHalWorld

end VirtualCamera
