import VirtualCamera.Shared.Runs
import VirtualCamera.V2.SetupHal
import VirtualCamera.V2.SetupWriters

set_option autoImplicit false

namespace VirtualCamera

open Runs

namespace SetupWorld

variable {world after : SetupWorld} {number : Nat}

theorem Sound.step (sound : world.Sound) {label : SetupLabel} (next : world.Step label after) : after.Sound := by
  unfold Step at next
  cases label with
  | start serverFd listening =>
    simp only [perform] at next
    split at next
    · rename_i halted
      cases next
      obtain ⟨hal, heard⟩ := sound.hal.start halted serverFd listening
      exact sound.heard heard hal
    · cases next
  | stop =>
    simp only [perform] at next
    split at next
    · rename_i halted
      cases next
      obtain ⟨hal, heard⟩ := sound.hal.stop halted
      exact sound.heard heard hal
    · cases next
  | stopping =>
    obtain ⟨stage, here, taken⟩ := Option.bind_eq_some_iff.mp next
    obtain ⟨source, goes, rfl⟩ := Option.map_eq_some_iff.mp taken
    cases stage with
    | deactivating =>
      cases goes
      obtain ⟨hal, heard⟩ := sound.hal.deactivate here
      exact sound.heard heard hal
    | closing =>
      obtain ⟨hal, heard⟩ := sound.hal.closeServer here goes
      exact sound.heard heard hal
    | joining =>
      obtain ⟨hal, heard⟩ := sound.hal.join here goes
      exact sound.heard heard hal
    | releasing =>
      cases goes
      obtain ⟨hal, heard⟩ := sound.hal.releasePool sound.connections here
      exact sound.heard heard hal
  | accept clientFd =>
    obtain ⟨hal, heard⟩ := sound.hal.accept next
    exact sound.heard heard hal
  | thread answer =>
    obtain ⟨thread, here, taken⟩ := Option.bind_eq_some_iff.mp next
    obtain ⟨hal, heard⟩ := sound.hal.acceptLoop sound.connections here taken
    exact sound.heard heard hal
  | initializePool number width height format bufferCount outcomes =>
    simp only [perform] at next
    split at next
    · rename_i idle
      cases next
      exact sound.initializePool idle width height format bufferCount outcomes
    · cases next
  | writer number failed =>
    obtain ⟨stage, calls, taken⟩ := Option.bind_eq_some_iff.mp next
    exact sound.connectToHal calls taken
  | shutdown number =>
    simp only [perform] at next
    split at next
    · rename_i idle
      cases next
      exact sound.shutdown idle
    · cases next

structure SamePool (world : SetupWorld) (number : Nat) : Prop where
  config : world.source.pool.config = (world.writers number).pool.config
  count : world.source.pool.bufferCount = (world.writers number).pool.bufferCount
  ring : ∃ address, world.source.pool.controlRing = some address ∧
    world.objects (.mapping address) = (world.writers number).object number 0 ∧
    (world.writers number).pool.controlRing.isSome = true
  buffers : ∀ index < (world.writers number).pool.bufferCount.toInt.toNat,
    ∃ pointer, world.source.pool.buffers index = some pointer ∧
      world.objects (.buffer pointer) = (world.writers number).object number (index + 1) ∧
      ((world.writers number).pool.buffers index).isSome = true

structure PoolSetup (world : SetupWorld) : Prop where
  paired : ∀ number client, (world.writers number).socket = some client → world.serving = some client →
    world.SamePool number
  apart : ∀ number client, world.serving = some client → (world.writers number).socket.isSome = true →
    (world.writers number).socket ≠ some client →
    ∀ resource ∈ world.source.pool.owned, ∀ part, world.objects resource ≠ (world.writers number).object number part
  acknowledged : ∀ number, (world.writers number).initialized = true →
    ∃ client ∈ world.served, (world.writers number).socket = some client
  interface : world.serving.isSome = true →
    world.source.halRing.isSome = true ∧ world.source.halRing = world.source.pool.controlRing
  flag : world.source.stopping = none →
    (world.source.active = true ↔ world.serving.isSome = true ∨ world.overtaken = true)
  stale : world.source.stopping = none → world.overtaken = true → world.serving = none
  idle : world.serving = none → (∀ thread ∈ world.source.thread, thread.filling = false) →
    world.source.pool.owned = []
  kept : world.source.pool.acquired.Perm (world.source.pool.freed ++ world.source.pool.owned) ∧
    world.source.taken.Perm (world.source.returned ++ world.source.descriptors)
  stopped : world.source.thread = none → world.source.stopping = none →
    world.source.pool.acquired.Perm world.source.pool.freed ∧ world.source.taken.Perm world.source.returned

theorem boot_flag : FlagSound {} where
  active no := by cases no
  overtaken no := by cases no
  serving no := by cases no
  idle _ := ⟨by decide, fun no => by cases no⟩
  waits _ _ := rfl
  joining no := by cases no
  releasing no := by cases no
  late _ no := by cases no

theorem boot_hal : HalSound {} := by
  have bare : SharedBufferPool.Bare {} := ⟨fun _ => rfl, rfl, by decide, rfl⟩
  constructor
  case thread => exact ⟨fun _ => bare, fun client no => by cases no⟩
  case flag => exact boot_flag
  case balanced =>
    rw [SharedBufferPool.Balanced, bare.owned]
    exact .refl _
  case accounted => exact fun _ => rfl
  case backlog => exact ⟨.nil, fun _ no => absurd no List.not_mem_nil⟩

theorem boot_writer (number : Nat) : WriterSound {} number where
  ready no := by rcases no with no | no <;> cases no
  connected client no := by cases no
  initialized no := by cases no
  sent stage client no := by cases no
  opening stage no := by cases no
  past client low := absurd low (Nat.not_lt_zero client)

theorem boot_sound : Sound {} where
  hal := boot_hal
  connections client low := absurd low (Nat.not_lt_zero client)
  writers := boot_writer
  apart left low := absurd low (Nat.not_lt_zero left)

theorem run_sound {labels : List SetupLabel} (run : Run Step {} labels world) : world.Sound :=
  run.invariant (fun _ world => world.Sound) boot_sound fun _ _ _ _ _ sound next => sound.step next

theorem owned_object {pool : SharedBufferPool} {objects : PoolResource → SharedObject} {offer : Offer}
    (holds : pool.Holds objects offer) (small : offer.count ≤ MAX_BUFFERS) {resource : PoolResource}
    (owned : resource ∈ pool.owned) :
    (objects resource).writer = offer.writer ∧ (objects resource).pool = offer.pool := by
  rw [SharedBufferPool.owned_eq, List.mem_append, List.mem_append] at owned
  rcases owned with (buffer | mapping) | descriptor
  · rw [holds.filled.heldBuffers small] at buffer
    obtain ⟨pointer, member, rfl⟩ := List.mem_map.mp buffer
    obtain ⟨place, low, here⟩ := List.mem_filterMap.mp member
    obtain ⟨held, found, same⟩ := holds.filled.buffers place (List.mem_range.mp low)
    rw [here] at found
    cases found
    rw [same]
    exact ⟨rfl, rfl⟩
  · obtain ⟨address, member, rfl⟩ := List.mem_map.mp mapping
    obtain ⟨found, here, same⟩ := holds.filled.ring
    rw [here] at member
    obtain rfl : address = found := by simpa using member
    rw [same]
    exact ⟨rfl, rfl⟩
  · rw [SharedBufferPool.descriptors, if_pos holds.filled.fd.1, List.mem_singleton] at descriptor
    rw [descriptor, holds.filled.fd.2]
    exact ⟨rfl, rfl⟩

theorem Sound.rests (sound : world.Sound) (settled : ∀ thread ∈ world.source.thread, thread.filling = false) :
    world.Rests := by
  have before := sound.hal.thread
  cases here : world.source.thread with
  | none =>
    rw [here] at before
    exact before
  | some thread =>
    rw [here] at before
    have still := settled thread (by rw [here]; rfl)
    cases thread with
    | handling client clientFd stage =>
      obtain ⟨-, -, fits⟩ := before
      cases stage with
      | attaching => cases still
      | receiving => cases still
      | _ => exact fits.1
    | _ => exact before

theorem Sound.serves (sound : world.Sound) {client : Nat} (serving : world.serving = some client) : world.Rests := by
  refine sound.rests fun thread here => ?_
  have before := sound.hal.thread
  rw [Option.mem_def.mp here] at before
  cases thread with
  | handling client clientFd stage =>
    obtain ⟨-, -, fits⟩ := before
    cases stage with
    | attaching =>
      rw [fits.1.1] at serving
      cases serving
    | receiving =>
      rw [fits.1.1] at serving
      cases serving
    | _ => rfl
  | _ => rfl

theorem Sound.paired (sound : world.Sound) {client : Nat} (here : (world.writers number).socket = some client)
    (serving : world.serving = some client) : world.SamePool number := by
  obtain ⟨known, holds, -⟩ := (sound.serves serving).holds client serving
  have writer := sound.writers number
  obtain ⟨-, offer, -⟩ := writer.connected client here
  have ready := writer.ready (.inr (by rw [here]; rfl))
  rw [offer] at holds
  obtain ⟨address, mapped, ring⟩ := holds.filled.ring
  refine ⟨holds.filled.config, holds.count.trans ready.count.symm, ⟨address, mapped, ring, ready.ring.1⟩,
    fun index low => ?_⟩
  rw [ready.count] at low
  obtain ⟨pointer, held, same⟩ := holds.filled.buffers index low
  exact ⟨pointer, held, same, ready.buffers index low⟩

theorem Sound.separate (sound : world.Sound) {client : Nat} (serving : world.serving = some client)
    (connected : (world.writers number).socket.isSome = true)
    (elsewhere : (world.writers number).socket ≠ some client)
    {resource : PoolResource} (owned : resource ∈ world.source.pool.owned) (part : Nat) :
    world.objects resource ≠ (world.writers number).object number part := by
  intro same
  obtain ⟨known, holds, -⟩ := (sound.serves serving).holds client serving
  obtain ⟨writer, pool⟩ := owned_object holds (sound.connections client known).valid.small owned
  rw [same] at writer pool
  obtain ⟨other, here⟩ := Option.isSome_iff_exists.mp connected
  obtain ⟨found, offer, -⟩ := (sound.writers number).connected other here
  have rings : (world.connections other).offer.ring = (world.connections client).offer.ring := by
    rw [offer, Offer.ring, Offer.ring, ← writer, ← pool]
    rfl
  rw [sound.apart other found client known rings] at here
  exact elsewhere here

theorem Sound.served (sound : world.Sound) (ready : (world.writers number).initialized = true) :
    ∃ client ∈ world.served, (world.writers number).socket = some client := by
  obtain ⟨quiet, connected⟩ := (sound.writers number).initialized ready
  obtain ⟨client, here⟩ := Option.isSome_iff_exists.mp connected
  exact ⟨client, (((sound.writers number).connected client here).2.2 quiet).2, here⟩

theorem Sound.mapped (sound : world.Sound) (serving : world.serving.isSome = true) :
    world.source.halRing.isSome = true ∧ world.source.halRing = world.source.pool.controlRing := by
  obtain ⟨client, here⟩ := Option.isSome_iff_exists.mp serving
  obtain ⟨-, holds, same⟩ := (sound.serves here).holds client here
  obtain ⟨address, mapped, -⟩ := holds.filled.ring
  exact ⟨by rw [same, mapped]; rfl, same⟩

theorem Accounted.perm {source : VirtualCameraFrameSourceV2} (books : Accounted source) :
    source.taken.Perm (source.returned ++ source.descriptors) :=
  List.perm_iff_count.mpr fun fd => by rw [List.count_append, books fd]

theorem Sound.stopped (sound : world.Sound) (idle : world.source.thread = none)
    (free : world.source.stopping = none) :
    world.source.pool.acquired.Perm world.source.pool.freed ∧ world.source.taken.Perm world.source.returned := by
  obtain ⟨closed, serving⟩ := sound.hal.flag.idle idle
  have unserved : world.serving = none := by
    by_contra serves
    have releasing := serving (Option.isSome_iff_ne_none.mpr serves)
    rw [free] at releasing
    cases releasing
  have settled : ∀ thread ∈ world.source.thread, thread.filling = false := by
    rw [idle]
    exact fun _ no => by cases no
  have nothing := ((sound.rests settled).bare unserved).owned
  have balanced := sound.hal.balanced
  have books := sound.hal.accounted.perm
  rw [SharedBufferPool.Balanced, nothing, List.append_nil] at balanced
  rw [descriptors_none idle closed, List.append_nil] at books
  exact ⟨balanced, books⟩

theorem pool_setup (labels : List SetupLabel) (world : SetupWorld) (run : Run Step {} labels world) :
    world.PoolSetup := by
  have sound := run_sound run
  have flag := sound.hal.flag
  have calm (free : world.source.stopping = none) : ¬ world.Halting := by
    unfold Halting
    rw [free]
    simp
  constructor
  case paired => exact fun number client => sound.paired
  case apart =>
    intro number client serving connected elsewhere resource owned part
    exact sound.separate serving connected elsewhere owned part
  case acknowledged => exact fun number => sound.served
  case interface => exact sound.mapped
  case flag =>
    refine fun free => ⟨flag.active, fun either => either.elim (fun serving => ?_) fun overtaken => ?_⟩
    · exact (flag.serving serving).resolve_right (calm free)
    · exact (flag.overtaken overtaken).1
  case stale =>
    intro free overtaken
    by_contra serves
    exact calm free ((flag.overtaken overtaken).2 (Option.isSome_iff_ne_none.mpr serves))
  case idle => exact fun free settled => ((sound.rests settled).bare free).owned
  case kept => exact ⟨sound.hal.balanced, sound.hal.accounted.perm⟩
  case stopped => exact sound.stopped

def setupLabels : List SetupLabel :=
  [.start 3 true, .thread .done,
    .initializePool 0 640 480 1 1 { region := 3, mapping := some 0x100, buffer := fun _ => some 0x500 },
    .writer 0 false, .accept 5, .writer 0 false, .thread .done, .writer 0 false, .thread (.descriptor 6),
    .thread .done, .thread (.attached 7 (some 0x1000)), .writer 0 false, .thread (.buffer 0x2000), .writer 0 false,
    .thread .done, .thread .done, .writer 0 false]

theorem pool_setup_served : ∃ world, Run Step {} setupLabels world ∧
    ((world.writers 0).initialized = true ∧ world.serving = some 0 ∧ world.SamePool 0) ∧ world.PoolSetup := by
  have computed : (setupLabels.foldlM perform {}).any (fun world => (world.writers 0).initialized &&
      (world.serving == some 0) && ((world.writers 0).socket == some 0)) = true := by decide +kernel
  obtain ⟨world, run, checked⟩ := Run.of_any computed
  simp only [Bool.and_eq_true, beq_iff_eq] at checked
  have setup := pool_setup setupLabels world run
  exact ⟨world, run, ⟨checked.1.1, checked.1.2, setup.paired 0 0 checked.2 checked.1.2⟩, setup⟩

-- A connection whose last buffer comes while `stop` waits for the thread.
def overtakenLabels : List SetupLabel :=
  setupLabels.take 14 ++ [.stop, .stopping, .thread .done, .thread .done, .thread .done, .thread .done, .stopping,
    .stopping, .stopping]

-- The flag outlives the pool, and the interface the mapping.
example : (overtakenLabels.foldlM perform {}).any (fun world => world.source.active && world.serving.isNone &&
    world.source.stopping.isNone && world.source.pool.controlRing.isNone && world.source.halRing.isSome) = true := by
  decide +kernel

end SetupWorld

end VirtualCamera
