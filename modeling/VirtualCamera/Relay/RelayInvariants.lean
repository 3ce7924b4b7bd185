import VirtualCamera.Relay.RelayMoves

set_option autoImplicit false

namespace VirtualCamera

open Descriptors Runs

namespace Relay

structure Connected (relay : Relay) : Prop where
  issued : relay.connectionEpoch ≤ relay.nextConnectionEpoch
  alive : relay.hal.isSome = true ↔ relay.connectionEpoch ≠ 0
  version : relay.hal.isSome = true → 6 ≤ relay.halVersion

structure Installed (relay : Relay) (slot : Slot) (queue : RelayQueue) : Prop where
  home : queue.slot = slot
  connected : queue.connection ≠ 0
  known : queue.connection ≤ relay.nextConnectionEpoch
  latest : relay.connectionEpoch = 0 ∨ queue.connection ≤ relay.connectionEpoch
  counted : queue.generation ≤ relay.queueGenerations slot

structure Fresh (relay : Relay) (slot : Slot) (queue : RelayQueue) : Prop where
  installed : relay.Installed slot queue
  unheld : queue.held = none
  token : 0 < queue.configurationToken
  newest : ∀ old, relay.slots slot = some old →
    old.connection ≤ queue.connection ∧ old.generation < queue.generation

structure Fits (relay : Relay) (slot : Slot) (work : GateWork) : Prop where
  creating : ∀ queue, work.creating = some queue → relay.Fresh slot queue
  cleared : ∀ queue, work = .cleared queue → relay.slots slot = none
  listening : ∀ generation, work.listener = some generation →
    ∃ queue, relay.slots slot = some queue ∧ queue.generation = generation

structure Grows (relay after : Relay) : Prop where
  issued : relay.nextConnectionEpoch ≤ after.nextConnectionEpoch
  epoch : after.connectionEpoch = 0 ∨ after.connectionEpoch = relay.connectionEpoch ∨
    relay.nextConnectionEpoch ≤ after.connectionEpoch
  counted : ∀ slot, relay.queueGenerations slot ≤ after.queueGenerations slot

variable {relay after : Relay} {slot : Slot} {queue : RelayQueue} {work : GateWork}

theorem Grows.of_same (next : after.nextConnectionEpoch = relay.nextConnectionEpoch)
    (epoch : after.connectionEpoch = relay.connectionEpoch)
    (generations : after.queueGenerations = relay.queueGenerations) : Grows relay after where
  issued := next.ge
  epoch := .inr (.inl epoch)
  counted slot := (congrFun generations slot).ge

theorem Grows.disconnected (relay : Relay) : Grows relay relay.disconnected where
  issued := le_rfl
  epoch := .inl rfl
  counted _ := le_rfl

theorem Grows.connect (relay : Relay) (hal : HalHandle) (version : Int) :
    Grows relay (relay.connect hal version).2 where
  issued := Nat.le_succ _
  epoch := .inr (.inr (Nat.le_succ _))
  counted _ := le_rfl

theorem Grows.newQueue (relay : Relay) (slot : Slot) (epoch : Epoch) (token : Int) :
    Grows relay (relay.newQueue slot epoch token).2 where
  issued := le_rfl
  epoch := .inr (.inl rfl)
  counted other := by
    by_cases same : other = slot
    next =>
      subst same
      simp [Relay.newQueue]
    next => simp [Relay.newQueue, same]

theorem Installed.grows (installed : relay.Installed slot queue) (grows : Grows relay after) :
    after.Installed slot queue where
  home := installed.home
  connected := installed.connected
  known := installed.known.trans grows.issued
  latest := by
    rcases grows.epoch with none | same | later
    · exact .inl none
    · rw [same]
      exact installed.latest
    · exact .inr (installed.known.trans later)
  counted := installed.counted.trans (grows.counted slot)

theorem Fresh.grows (fresh : relay.Fresh slot queue) (grows : Grows relay after)
    (slots : ∀ old, after.slots slot = some old → relay.slots slot = some old) : after.Fresh slot queue where
  installed := fresh.installed.grows grows
  unheld := fresh.unheld
  token := fresh.token
  newest old found := fresh.newest old (slots old found)

theorem Fits.grows (fits : relay.Fits slot work) (grows : Grows relay after)
    (slots : after.slots slot = relay.slots slot) : after.Fits slot work where
  creating queue made := (fits.creating queue made).grows grows fun _ found => slots ▸ found
  cleared queue made := slots ▸ fits.cleared queue made
  listening generation found := slots ▸ fits.listening generation found

theorem Connected.of_same (connected : relay.Connected) (next : after.nextConnectionEpoch = relay.nextConnectionEpoch)
    (epoch : after.connectionEpoch = relay.connectionEpoch) (hal : after.hal = relay.hal)
    (version : after.halVersion = relay.halVersion) : after.Connected where
  issued := by rw [next, epoch]; exact connected.issued
  alive := by rw [hal, epoch]; exact connected.alive
  version := by rw [hal, version]; exact connected.version

theorem disconnected_connected (relay : Relay) : relay.disconnected.Connected where
  issued := Nat.zero_le _
  alive := by simp [disconnected]
  version := by simp [disconnected]

theorem connect_connected (relay : Relay) (hal : HalHandle) (version : Int) (supported : 6 ≤ version) :
    (relay.connect hal version).2.Connected where
  issued := le_rfl
  alive := by simp [connect]
  version _ := supported

theorem newQueue_fresh (relay : Relay) (slot : Slot) (callbackEpoch epoch : Epoch) (token : Int)
    (connected : relay.Connected) (installed : ∀ old, relay.slots slot = some old → relay.Installed slot old)
    (checked : relay.creationEpoch slot callbackEpoch token = some epoch) :
    (relay.newQueue slot epoch token).2.Fresh slot (relay.newQueue slot epoch token).1 := by
  obtain ⟨rfl, some, alive, _, positive⟩ := relay.creationEpoch_spec slot callbackEpoch epoch token checked
  have version := connected.version alive
  constructor
  case unheld => rfl
  case token => exact positive (by omega)
  case installed =>
    exact {
      home := rfl
      connected := some
      known := connected.issued
      latest := .inr le_rfl
      counted := by simp [Relay.newQueue] }
  case newest =>
    intro old found
    have before := installed old found
    exact ⟨before.latest.resolve_left some, Nat.lt_succ_of_le before.counted⟩

end Relay

namespace RelayWorld

structure Sound (world : RelayWorld) : Prop where
  connected : world.relay.Connected
  installed : ∀ slot queue, world.relay.slots slot = some queue → world.relay.Installed slot queue
  working : ∀ slot work, world.gates slot = some work → world.relay.Fits slot work

theorem initial_sound : Sound {} where
  connected := ⟨le_rfl, by simp, by simp⟩
  installed := nofun
  working := nofun

theorem Sound.of_grows {world after : RelayWorld} (sound : Sound world) (grows : Relay.Grows world.relay after.relay)
    (connected : after.relay.Connected)
    (slots : ∀ slot queue, after.relay.slots slot = some queue →
      world.relay.slots slot = some queue ∨ after.relay.Installed slot queue)
    (gates : ∀ slot work, after.gates slot = some work →
      (world.gates slot = some work ∧ after.relay.slots slot = world.relay.slots slot) ∨
        after.relay.Fits slot work) : Sound after where
  connected := connected
  installed slot queue found :=
    (slots slot queue found).elim (fun kept => (sound.installed slot queue kept).grows grows) id
  working slot work found :=
    (gates slot work found).elim (fun kept => (sound.working slot work kept.1).grows grows kept.2) id

theorem Sound.at_slot {world after : RelayWorld} (sound : Sound world) (slot : Slot)
    (grows : Relay.Grows world.relay after.relay) (connected : after.relay.Connected)
    (slots : ∀ other, other ≠ slot → after.relay.slots other = world.relay.slots other)
    (gates : ∀ other, other ≠ slot → after.gates other = world.gates other)
    (installed : ∀ queue, after.relay.slots slot = some queue →
      world.relay.slots slot = some queue ∨ after.relay.Installed slot queue)
    (working : ∀ work, after.gates slot = some work → after.relay.Fits slot work) : Sound after := by
  refine sound.of_grows grows connected (fun other queue found => ?_) (fun other work found => ?_)
  · by_cases same : other = slot
    next =>
      subst same
      exact installed queue found
    next => exact .inl (slots other same ▸ found)
  · by_cases same : other = slot
    next =>
      subst same
      exact .inr (working work found)
    next => exact .inl ⟨gates other same ▸ found, slots other same⟩

theorem sound_step (world : RelayWorld) (label : RelayLabel) (after : RelayWorld) (sound : Sound world)
    (next : Step world label after) : Sound after := by
  have elsewhere {α : Type} (slot : Slot) (f : Slot → α) (value : α) (other : Slot) (differ : other ≠ slot) :
      Function.update f slot value other = f other := Function.update_of_ne differ value f
  cases step_moves world label after next with
  | noted =>
    exact sound.of_grows (.of_same rfl rfl rfl) (sound.connected.of_same rfl rfl rfl rfl)
      (fun _ _ found => .inl found) (fun _ _ found => .inl ⟨found, rfl⟩)
  | lost =>
    exact sound.of_grows (.disconnected _) world.relay.disconnected_connected
      (fun _ _ found => .inl found) (fun _ _ found => .inl ⟨found, rfl⟩)
  | connected hal version supported =>
    exact sound.of_grows (.connect _ hal version) (world.relay.connect_connected hal version supported)
      (fun _ _ found => .inl found) (fun _ _ found => .inl ⟨found, rfl⟩)
  | released slot queue free =>
    refine sound.at_slot slot (.of_same rfl rfl rfl) (sound.connected.of_same rfl rfl rfl rfl)
      (elsewhere slot _ _) (fun _ _ => rfl) (fun queue found => ?_) (fun work found => ?_)
    · simp [withRelay] at found
    · simp [withRelay, free] at found
  | created slot epoch token free checked =>
    refine sound.at_slot slot (.newQueue _ slot epoch token) (sound.connected.of_same rfl rfl rfl rfl)
      (fun _ _ => rfl) (elsewhere slot _ _) (fun queue found => .inl found) (fun work found => ?_)
    obtain rfl : GateWork.checked _ = work := by simpa [gate] using found
    have fresh := world.relay.newQueue_fresh slot _ epoch token sound.connected (sound.installed slot) checked
    refine ⟨fun queue made => ?_, by simp, (fun _ same => by cases same)⟩
    cases made
    exact fresh
  | listening slot queue free installed =>
    refine sound.at_slot slot (.of_same rfl rfl rfl) sound.connected
      (fun _ _ => rfl) (elsewhere slot _ _) (fun queue found => .inl found) (fun work found => ?_)
    obtain rfl : GateWork.listening _ = work := by simpa [gate] using found
    refine ⟨(fun _ same => by cases same), by simp, fun generation listener => ?_⟩
    cases listener
    exact ⟨queue, installed, rfl⟩
  | advanced slot work later held creating listener uncleared =>
    refine sound.at_slot slot (.of_same rfl rfl rfl) sound.connected
      (fun _ _ => rfl) (elsewhere slot _ _) (fun queue found => .inl found) (fun other found => ?_)
    obtain rfl : later = other := by simpa [gate] using found
    have fits := sound.working slot work held
    exact ⟨creating ▸ fits.creating, fun queue made => absurd made (uncleared queue), listener ▸ fits.listening⟩
  | cleared slot queue named held =>
    refine sound.at_slot slot (.of_same rfl rfl rfl) (sound.connected.of_same rfl rfl rfl rfl)
      (elsewhere slot _ _) (elsewhere slot _ _) (fun queue found => ?_) (fun work found => ?_)
    · simp [withRelay, gate] at found
    · obtain rfl : GateWork.cleared _ = work := by simpa [gate] using found
      have fresh := (sound.working slot _ held).creating queue rfl
      refine ⟨fun other made => ?_, fun _ _ => by simp [withRelay, gate], (fun _ same => by cases same)⟩
      cases made
      exact fresh.grows (.of_same rfl rfl rfl) (by simp [withRelay, gate])
  | installed slot queue named held installable =>
    have fresh := (sound.working slot _ held).creating queue rfl
    obtain rfl := fresh.installed.home
    refine sound.at_slot queue.slot (.of_same rfl rfl rfl) (sound.connected.of_same rfl rfl rfl rfl)
      (elsewhere _ _ _) (elsewhere _ _ _) (fun other found => .inr ?_) (fun work found => ?_)
    · obtain rfl : queue = other := by simpa [withRelay, gate] using found
      exact fresh.installed.grows (.of_same rfl rfl rfl)
    · simp [gate] at found
  | committed slot queue item reply named installed =>
    have before := sound.installed slot queue installed
    obtain rfl := before.home
    refine sound.at_slot queue.slot (.of_same rfl rfl rfl) (sound.connected.of_same rfl rfl rfl rfl)
      (elsewhere _ _ _) (elsewhere _ _ _) (fun other found => .inr ?_) (fun work found => ?_)
    · obtain rfl : { queue with held := some item } = other := by simpa [withRelay, gate] using found
      exact ⟨rfl, before.connected, before.known, before.latest, before.counted⟩
    · simp [gate] at found
  | dropped slot =>
    refine sound.at_slot slot (.of_same rfl rfl rfl) (sound.connected.of_same rfl rfl rfl rfl)
      (elsewhere slot _ _) (elsewhere slot _ _) (fun queue found => ?_) (fun work found => ?_)
    · simp [withRelay, gate] at found
    · simp [gate] at found
  | idle slot =>
    refine sound.at_slot slot (.of_same rfl rfl rfl) sound.connected
      (fun _ _ => rfl) (elsewhere slot _ _) (fun queue found => .inl found) (fun work found => ?_)
    simp [gate] at found

theorem sound_run {world : RelayWorld} {past : List RelayLabel} (run : Run Step {} past world) : Sound world :=
  run.invariant (fun _ world => Sound world) initial_sound
    fun _ _ label after _ sound next => sound_step _ label after sound next

end RelayWorld

end VirtualCamera
