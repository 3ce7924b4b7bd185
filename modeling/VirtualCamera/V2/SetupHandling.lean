import VirtualCamera.V2.SetupInvariants

set_option autoImplicit false

namespace VirtualCamera

namespace SetupWorld

variable {world after : SetupWorld} {client : Nat}

theorem Rests.kept (rests : world.Rests) (pool : after.source.pool = world.source.pool)
    (ring : after.source.halRing = world.source.halRing) (objects : after.objects = world.objects)
    (serving : after.serving = world.serving) (heard : world.Heard after) : after.Rests where
  bare free := by
    rw [serving] at free
    rw [pool]
    exact rests.bare free
  holds client here := by
    rw [serving] at here
    rw [pool, ring, objects, heard.next, heard.offer]
    exact rests.holds client here

theorem FlagSound.moved (sound : world.FlagSound) (active : after.source.active = world.source.active)
    (running : after.source.running = world.source.running) (stopping : after.source.stopping = world.source.stopping)
    (serverFd : after.source.serverFd = world.source.serverFd) (serving : after.serving = world.serving)
    (overtaken : after.overtaken = world.overtaken) (before : world.source.thread.isSome = true)
    (later : after.source.thread.isSome = true) : after.FlagSound := by
  have started : world.source.thread ≠ none := Option.isSome_iff_ne_none.mp before
  have goes : after.source.thread ≠ none := Option.isSome_iff_ne_none.mp later
  constructor <;> simp only [Halting, active, running, stopping, serverFd, serving, overtaken]
  · exact sound.active
  · exact sound.overtaken
  · exact sound.serving
  · exact fun ended => absurd ended goes
  · exact fun idle stopped => absurd (sound.waits idle stopped) started
  · exact sound.joining
  · exact fun releasing => absurd (sound.releasing releasing) started
  · exact sound.late

theorem heard_same (writers : after.writers = world.writers) (next : after.nextConnection = world.nextConnection)
    (connections : after.connections = world.connections) (served : after.served = world.served) :
    world.Heard after where
  writers
  next
  offer client := by rw [connections]
  sent client := by rw [connections]
  served client member := by rwa [served]
  acknowledged client yes := .inl (by rwa [connections] at yes)

theorem consume_of_ne {other : Nat} (ne : other ≠ client) :
    (world.consume client).connections other = world.connections other := Function.update_of_ne ne _ _

theorem consume_received : ((world.consume client).connections client).received =
    (world.connections client).received + 1 := by
  simp [consume, setConnection]

theorem heard_consume (source : VirtualCameraFrameSourceV2) (objects : PoolResource → SharedObject) :
    world.Heard { world.consume client with source, objects } := by
  have same : ∀ other, ((world.consume client).connections other).offer = (world.connections other).offer ∧
      ((world.consume client).connections other).sent = (world.connections other).sent ∧
      ((world.consume client).connections other).acknowledged = (world.connections other).acknowledged := by
    intro other
    by_cases ne : other = client
    · subst ne
      simp [consume, setConnection]
    · rw [consume_of_ne ne]
      exact ⟨rfl, rfl, rfl⟩
  exact ⟨rfl, rfl, fun other => (same other).1, fun other => (same other).2.1, fun _ member => member,
    fun other yes => .inl ((same other).2.2 ▸ yes)⟩

theorem BacklogSound.consume (sound : world.BacklogSound) (out : client ∉ world.backlog)
    (source : VirtualCameraFrameSourceV2) (objects : PoolResource → SharedObject) :
    BacklogSound { world.consume client with source, objects } where
  nodup := sound.nodup
  fresh other member := by
    have ne : other ≠ client := fun same => out (same ▸ member)
    have kept : (world.consume client).connections other = world.connections other := consume_of_ne ne
    obtain ⟨known, received⟩ := sound.fresh other member
    exact ⟨known, (congrArg Connection.received kept).trans received⟩

theorem front_script (sound : world.ConnectionSound client) {message : SetupMessage}
    (front : world.front client = some message) :
    (world.connections client).offer.script[(world.connections client).received]? = some message := by
  obtain ⟨rest, shape⟩ := sound.sent
  rw [← shape, List.getElem?_append_left (List.getElem?_eq_some_iff.mp front).1]
  exact front

variable {clientFd : Int32}

theorem descriptors_some {source : VirtualCameraFrameSourceV2} {thread : Accepting}
    (here : source.thread = some thread) : source.descriptors = source.server ++ thread.descriptors := by
  rw [VirtualCameraFrameSourceV2.descriptors, here]
  simp

theorem Accounted.thread {source moved : VirtualCameraFrameSourceV2} {before later : Accepting}
    (books : Accounted source) (here : source.thread = some before) (there : moved.thread = some later)
    (server : moved.serverFd = source.serverFd)
    (change : ∀ fd, moved.taken.count fd + source.returned.count fd + before.descriptors.count fd =
      source.taken.count fd + moved.returned.count fd + later.descriptors.count fd) : Accounted moved := by
  intro fd
  have earlier := books fd
  have moves := change fd
  have same : moved.server = source.server := by rw [VirtualCameraFrameSourceV2.server, server]; rfl
  rw [descriptors_some here, List.count_append] at earlier
  rw [descriptors_some there, List.count_append, same]
  omega

theorem HalSound.turned (sound : world.HalSound) {before : Accepting} (here : world.source.thread = some before)
    (thread : Accepting) (fits : (world.thread thread).ThreadSound (some thread))
    (same : thread.descriptors = before.descriptors) :
    (world.thread thread).HalSound ∧ world.Heard (world.thread thread) := by
  refine ⟨⟨fits, ?_, sound.balanced, ?_, ⟨sound.backlog.nodup, sound.backlog.fresh⟩⟩, heard_same rfl rfl rfl rfl⟩
  · exact sound.flag.moved rfl rfl rfl rfl rfl rfl (by rw [here]; rfl) rfl
  · refine sound.accounted.thread here rfl rfl fun fd => ?_
    rw [same]
    rfl

theorem Rests.thread (rests : world.Rests) (thread : Accepting) : (world.thread thread).Rests :=
  ⟨rests.bare, rests.holds⟩

theorem HalSound.receiveHeader (sound : world.HalSound) (connection : world.ConnectionSound client)
    (here : world.source.thread = some (.handling client clientFd .header))
    (next : world.receiveHeader client clientFd = some after) : after.HalSound ∧ world.Heard after := by
  have stage := sound.thread
  rw [here] at stage
  obtain ⟨known, out, rests, received⟩ := stage
  unfold SetupWorld.receiveHeader at next
  split at next
  case h_2 => cases next
  rename_i header front
  have script := front_script connection front
  rw [received] at script
  obtain rfl : SetupHeader.ofConfig (world.connections client).offer.config = header := by
    simpa [Offer.script] using script
  rw [if_pos connection.valid.accepted] at next
  cases next
  have heard : world.Heard ((world.consume client).thread
      (.handling client clientFd (.ring (.ofConfig (world.connections client).offer.config)))) := heard_consume _ _
  refine ⟨⟨⟨known, out, ?_, ?_, ?_⟩, ?_, sound.balanced, ?_, sound.backlog.consume out _ _⟩, heard⟩
  · exact rests.kept rfl rfl rfl rfl heard
  · exact consume_received.trans (by rw [received])
  · exact congrArg (fun offer => SetupHeader.ofConfig offer.config) (heard.offer client).symm
  · exact sound.flag.moved rfl rfl rfl rfl rfl rfl (by rw [here]; rfl) rfl
  · exact sound.accounted.thread here rfl rfl fun _ => rfl

theorem Rests.named (rests : world.Rests) {fd : Int32} (fresh : world.source.fresh fd = true) (object : SharedObject)
    (pool : after.source.pool = world.source.pool) (ring : after.source.halRing = world.source.halRing)
    (objects : after.objects = Function.update world.objects (.descriptor fd) object)
    (serving : after.serving = world.serving) (heard : world.Heard after) : after.Rests where
  bare free := by
    rw [serving] at free
    rw [pool]
    exact rests.bare free
  holds client here := by
    rw [serving] at here
    obtain ⟨known, holds, mapped⟩ := rests.holds client here
    have other : fd ≠ world.source.pool.controlRingFd := by
      simp only [VirtualCameraFrameSourceV2.fresh, Bool.and_eq_true, decide_eq_true_eq] at fresh
      exact fresh.2
    rw [pool, ring, objects, heard.next, heard.offer]
    obtain ⟨address, found, same⟩ := holds.filled.ring
    refine ⟨known, ⟨⟨holds.filled.config, ⟨address, found, ?_⟩, ⟨holds.filled.fd.1, ?_⟩, fun place low => ?_,
      holds.filled.beyond⟩, holds.count⟩, mapped⟩
    · rw [Function.update_of_ne (by simp), same]
    · rw [Function.update_of_ne (by simpa using other.symm), holds.filled.fd.2]
    · obtain ⟨pointer, held, same⟩ := holds.filled.buffers place low
      exact ⟨pointer, held, by rw [Function.update_of_ne (by simp), same]⟩

theorem count_two (left right fd : Int32) : [left, right].count fd = [left].count fd + [right].count fd := by
  rw [← List.count_append]
  rfl

theorem HalSound.receiveFdViaSCM (sound : world.HalSound) (connection : world.ConnectionSound client)
    {header : SetupHeader} {ringFd : Int32}
    (here : world.source.thread = some (.handling client clientFd (.ring header)))
    (next : world.receiveFdViaSCM client clientFd header ringFd = some after) :
    after.HalSound ∧ world.Heard after := by
  have stage := sound.thread
  rw [here] at stage
  obtain ⟨known, out, rests, received, made⟩ := stage
  unfold SetupWorld.receiveFdViaSCM at next
  split at next
  case h_2 => cases next
  rename_i object front
  have script := front_script connection front
  rw [received] at script
  obtain rfl : (world.connections client).offer.ring = object := by simpa [Offer.script] using script
  by_cases fresh : world.source.fresh ringFd = true
  case neg =>
    rw [if_neg fresh] at next
    cases next
  rw [if_pos fresh] at next
  cases next
  have heard : world.Heard ((((world.consume client).names (.descriptor ringFd)
      (world.connections client).offer.ring).withSource (world.source.take ringFd)).thread
        (.handling client clientFd (.locking header ringFd))) := heard_consume _ _
  refine ⟨⟨⟨known, out, ?_, ?_, ?_, ?_⟩, ?_, sound.balanced, ?_, sound.backlog.consume out _ _⟩, heard⟩
  · exact rests.named fresh _ rfl rfl rfl rfl heard
  · exact consume_received.trans (by rw [received])
  · rw [made]
    exact congrArg (fun offer => SetupHeader.ofConfig offer.config) (heard.offer client).symm
  · refine Eq.trans ?_ (congrArg Offer.ring (heard.offer client).symm)
    exact Function.update_self _ _ _
  · exact sound.flag.moved rfl rfl rfl rfl rfl rfl (by rw [here]; rfl) rfl
  · refine sound.accounted.thread here rfl rfl fun fd => ?_
    change (world.source.taken ++ [ringFd]).count fd + world.source.returned.count fd + [clientFd].count fd =
      world.source.taken.count fd + world.source.returned.count fd + [clientFd, ringFd].count fd
    rw [List.count_append, count_two]
    omega

theorem Rests.covered (rests : world.Rests)
    (connections : ∀ client < world.nextConnection, world.ConnectionSound client) : world.source.pool.Covered := by
  cases serving : world.serving with
  | none => exact (rests.bare serving).covered
  | some client =>
    obtain ⟨known, holds, -⟩ := rests.holds client serving
    exact holds.covered (connections client known).valid.small

theorem FlagSound.off (sound : world.FlagSound) (active : after.source.active = false)
    (serving : after.serving = none)
    (overtaken : after.overtaken = false) (running : after.source.running = world.source.running)
    (stopping : after.source.stopping = world.source.stopping)
    (serverFd : after.source.serverFd = world.source.serverFd) (before : world.source.thread.isSome = true)
    (later : after.source.thread.isSome = true) : after.FlagSound := by
  have started : world.source.thread ≠ none := Option.isSome_iff_ne_none.mp before
  have goes : after.source.thread ≠ none := Option.isSome_iff_ne_none.mp later
  constructor <;> simp only [Halting, active, running, stopping, serverFd, serving, overtaken]
  · exact fun no => Bool.noConfusion no
  · exact fun no => Bool.noConfusion no
  · exact fun no => Bool.noConfusion no
  · exact fun ended => absurd ended goes
  · exact fun idle stopped => absurd (sound.waits idle stopped) started
  · exact sound.joining
  · exact fun releasing => absurd (sound.releasing releasing) started
  · exact fun _ no => Bool.noConfusion no

theorem HalSound.tearDown (sound : world.HalSound)
    (connections : ∀ client < world.nextConnection, world.ConnectionSound client) {header : SetupHeader}
    {ringFd : Int32} (here : world.source.thread = some (.handling client clientFd (.locking header ringFd))) :
    (world.tearDown client clientFd header ringFd).HalSound ∧
      world.Heard (world.tearDown client clientFd header ringFd) := by
  have stage := sound.thread
  rw [here] at stage
  obtain ⟨known, out, rests, received, made, named⟩ := stage
  have covered := rests.covered connections
  refine ⟨⟨⟨known, out, ⟨rfl, rfl, rfl⟩, covered.bare, received, made, named⟩, ?_,
    covered.balanced_release sound.balanced, ?_, ⟨sound.backlog.nodup, sound.backlog.fresh⟩⟩,
      heard_same rfl rfl rfl rfl⟩
  · exact sound.flag.off rfl rfl rfl rfl rfl rfl (by rw [here]; rfl) rfl
  · exact sound.accounted.thread here rfl rfl fun _ => rfl

theorem HalSound.dropped (sound : world.HalSound) {before : Accepting} (here : world.source.thread = some before)
    (free : world.serving = none) (source : VirtualCameraFrameSourceV2)
    (same : source.active = world.source.active ∧ source.running = world.source.running ∧
      source.stopping = world.source.stopping ∧ source.serverFd = world.source.serverFd)
    (closes : source.thread = some (.closing clientFd)) (bare : source.pool.Bare) (balanced : source.pool.Balanced)
    (books : Accounted source) :
    (world.withSource source).HalSound ∧ world.Heard (world.withSource source) := by
  obtain ⟨active, running, stopping, serverFd⟩ := same
  have rests : (world.withSource source).Rests := by
    refine ⟨fun _ => bare, fun client serving => ?_⟩
    rw [show (world.withSource source).serving = none from free] at serving
    cases serving
  refine ⟨⟨?_, ?_, balanced, books, ⟨sound.backlog.nodup, sound.backlog.fresh⟩⟩, heard_same rfl rfl rfl rfl⟩
  · rw [show (world.withSource source).source.thread = some (.closing clientFd) from closes]
    exact rests
  · exact sound.flag.moved active running stopping serverFd rfl rfl (by rw [here]; rfl)
      (by rw [show (world.withSource source).source.thread = some (.closing clientFd) from closes]; rfl)

theorem HalSound.attach (sound : world.HalSound) (connection : world.ConnectionSound client) {header : SetupHeader}
    {ringFd copy : Int32} {address : Option Nat}
    (here : world.source.thread = some (.handling client clientFd (.attaching header ringFd))) :
    (world.attach client clientFd header ringFd copy address).HalSound ∧
      world.Heard (world.attach client clientFd header ringFd copy address) := by
  have stage := sound.thread
  rw [here] at stage
  obtain ⟨known, out, ⟨free, calm, off⟩, bare, received, made, named⟩ := stage
  obtain ⟨books, fails, attaches⟩ := bare.attach sound.balanced copy address
  have closed : ∀ (pool : SharedBufferPool) (later : Accepting), later.descriptors = [clientFd] →
      Accounted { world.source.close ringFd with pool, thread := some later } := by
    intro pool later held
    refine sound.accounted.thread here rfl rfl fun fd => ?_
    rw [held]
    change world.source.taken.count fd + world.source.returned.count fd + [clientFd, ringFd].count fd =
      world.source.taken.count fd + (world.source.returned ++ [ringFd]).count fd + [clientFd].count fd
    rw [count_two, List.count_append]
    omega
  unfold SetupWorld.attach
  rcases result : world.source.pool.attachControlRing copy address with ⟨attached, pool⟩
  rw [result] at books fails attaches
  cases attached with
  | false =>
    exact sound.dropped here free { world.source.close ringFd with pool, thread := some (.closing clientFd) }
      ⟨rfl, rfl, rfl, rfl⟩ rfl (fails rfl) books (closed pool _ rfl)
  | true =>
    obtain ⟨open_, mapped, rfl, shape⟩ := attaches rfl
    dsimp only at shape books
    have small : ¬ (MAX_BUFFERS < header.bufferCount.toInt ∨ header.bufferCount ≤ 0 ∨ pool.controlRing = none) := by
      have positive := connection.valid.1
      have within := connection.valid.2
      have ring : pool.controlRing = some mapped := by rw [shape]
      rw [made, ring, Int32.le_iff_toInt_le, Int32.toInt_zero]
      simp only [SetupHeader.ofConfig, reduceCtorEq, or_false]
      omega
    simp only [SharedBufferPool.recvBuffersFrom, if_neg small]
    refine ⟨⟨⟨known, out, ⟨free, calm, off⟩, ?_, ?_, Nat.zero_le _, received, made⟩, ?_, books, closed _ _ rfl,
      ⟨sound.backlog.nodup, sound.backlog.fresh⟩⟩, heard_same rfl rfl rfl rfl⟩
    · have ring : Function.update (Function.update world.objects (.descriptor copy)
          (world.objects (.descriptor ringFd))) (.mapping mapped) (world.objects (.descriptor ringFd))
            (.mapping mapped) = (world.connections client).offer.ring := by
        rw [Function.update_self, named]
      have descriptor : Function.update (Function.update world.objects (.descriptor copy)
          (world.objects (.descriptor ringFd))) (.mapping mapped) (world.objects (.descriptor ringFd))
            (.descriptor copy) = (world.connections client).offer.ring := by
        rw [Function.update_of_ne (by simp), Function.update_self, named]
      rw [shape, made]
      exact ⟨rfl, ⟨mapped, rfl, ring⟩, ⟨open_, descriptor⟩, fun place low => absurd low (Nat.not_lt_zero _),
        fun place _ => bare.buffers place⟩
    · rw [shape]
      exact bare.count
    · exact sound.flag.moved rfl rfl rfl rfl rfl rfl (by rw [here]; rfl) rfl

theorem HalSound.receiveBuffer (sound : world.HalSound) (connection : world.ConnectionSound client)
    {header : SetupHeader} {index pointer : Nat}
    (here : world.source.thread = some (.handling client clientFd (.receiving header index)))
    (next : world.receiveBuffer client clientFd header index pointer = some after) :
    after.HalSound ∧ world.Heard after := by
  have stage := sound.thread
  rw [here] at stage
  obtain ⟨known, out, ⟨free, calm, off⟩, filled, empty, within, received, made⟩ := stage
  unfold SetupWorld.receiveBuffer at next
  split at next
  case h_2 => cases next
  rename_i object front
  have script := front_script connection front
  rw [received] at script
  obtain ⟨low, same⟩ := Offer.script_buffer script
  cases same
  by_cases allowed : index < header.bufferCount.toInt.toNat ∧ pointer ∉ world.source.pool.heldBuffers
  case neg =>
    rw [if_neg allowed] at next
    cases next
  rw [if_pos allowed] at next
  cases next
  have small := connection.valid.small
  have fresh : ∀ place, world.source.pool.buffers place ≠ some pointer := by
    intro place here
    by_cases inside : place < MAX_BUFFERS
    · exact allowed.2 (List.mem_filterMap.mpr ⟨place, List.mem_range.mpr inside, here⟩)
    · rw [filled.beyond place (by omega)] at here
      cases here
  have heard : world.Heard ((((world.consume client).names (.buffer pointer)
      ((world.connections client).offer.buffer index)).withSource
        { world.source with pool := world.source.pool.recvEntry index pointer }).thread
          (.handling client clientFd (.receiving header (index + 1)))) := heard_consume _ _
  have offer := heard.offer client
  refine ⟨⟨⟨known, out, ⟨free, calm, off⟩, ?_, empty, ?_, ?_, ?_⟩, ?_, ?_, ?_, sound.backlog.consume out _ _⟩, heard⟩
  · rw [offer]
    exact filled.recvEntry pointer fresh
  · rw [offer]
    exact low
  · exact consume_received.trans (by rw [received]; rfl)
  · rw [offer]
    exact made
  · exact sound.flag.moved rfl rfl rfl rfl rfl rfl (by rw [here]; rfl) rfl
  · exact filled.balanced_recvEntry (by omega) sound.balanced pointer fresh
  · exact sound.accounted.thread here rfl rfl fun _ => rfl

theorem HalSound.failReceive (sound : world.HalSound) (connection : world.ConnectionSound client)
    {header : SetupHeader} {index : Nat}
    (here : world.source.thread = some (.handling client clientFd (.receiving header index))) :
    (world.failReceive clientFd index).HalSound ∧ world.Heard (world.failReceive clientFd index) := by
  have stage := sound.thread
  rw [here] at stage
  obtain ⟨-, -, ⟨free, -, -⟩, filled, empty, within, -, -⟩ := stage
  obtain ⟨bare, books⟩ := filled.dropped (within.trans connection.valid.small) empty sound.balanced
  exact sound.dropped here free _ ⟨rfl, rfl, rfl, rfl⟩ rfl bare books
    (sound.accounted.thread here rfl rfl fun _ => rfl)

theorem HalSound.activate (sound : world.HalSound) {header : SetupHeader} {index : Nat}
    (here : world.source.thread = some (.handling client clientFd (.receiving header index)))
    (done : header.bufferCount.toInt.toNat ≤ index) :
    (world.activate client clientFd header).HalSound ∧ world.Heard (world.activate client clientFd header) := by
  have stage := sound.thread
  rw [here] at stage
  obtain ⟨known, out, -, filled, empty, within, received, made⟩ := stage
  have started : world.source.thread ≠ none := by simp [here]
  obtain rfl : index = (world.connections client).offer.count := by
    rw [made] at done
    exact le_antisymm within done
  have count : header.bufferCount = (world.connections client).offer.config.bufferCount := by
    rw [made]
    rfl
  obtain ⟨held, present, -⟩ := filled.ring
  unfold SetupWorld.activate
  rw [count]
  dsimp only
  split
  case h_1 missing =>
    rw [missing] at present
    cases present
  case h_2 address mapped =>
  have heard : world.Heard { (world.withSource { world.source with
      pool := { world.source.pool with bufferCount := (world.connections client).offer.config.bufferCount }
      halRing := some address, active := true }).thread (.handling client clientFd .acknowledging) with
      served := world.served ++ [client]
      serving := some client
      overtaken := world.source.stopping.any (· ≠ .deactivating) } :=
    ⟨rfl, rfl, fun _ => rfl, fun _ => rfl, fun _ member => List.mem_append_left _ member, fun _ yes => .inl yes⟩
  refine ⟨⟨⟨known, out, ⟨fun none_ => ?_, fun other same => ?_⟩, List.mem_append_right _ (List.mem_singleton_self _)⟩,
    ?_, sound.balanced, sound.accounted.thread here rfl rfl fun _ => rfl,
    ⟨sound.backlog.nodup, sound.backlog.fresh⟩⟩, heard⟩
  · cases none_
  · cases same
    exact ⟨known, filled.finished, mapped.symm⟩
  · constructor
    · exact fun _ => .inl rfl
    · refine fun overtaken => ⟨rfl, fun _ => ?_⟩
      change world.source.stopping = _ ∨ world.source.stopping = _ ∨ world.source.stopping = _
      cases stopping : world.source.stopping with
      | none => simp [stopping] at overtaken
      | some stage => cases stage <;> simp [stopping] at overtaken ⊢
    · exact fun _ => .inl rfl
    · intro ended
      cases ended
    · exact fun idle stopped => absurd (sound.flag.waits idle stopped) started
    · exact sound.flag.joining
    · exact fun releasing => absurd (sound.flag.releasing releasing) started
    · intro halting _
      rcases halting with stopping | stopping | stopping <;>
        (change world.source.stopping = _ at stopping; simp [stopping])

theorem HalSound.acknowledge (sound : world.HalSound)
    (here : world.source.thread = some (.handling client clientFd .acknowledging)) :
    (world.acknowledge client clientFd).HalSound ∧ world.Heard (world.acknowledge client clientFd) := by
  have stage := sound.thread
  rw [here] at stage
  obtain ⟨known, out, rests, served⟩ := stage
  have same : ∀ other, ((world.acknowledge client clientFd).connections other).offer =
      (world.connections other).offer ∧
      ((world.acknowledge client clientFd).connections other).sent = (world.connections other).sent ∧
      ((world.acknowledge client clientFd).connections other).received = (world.connections other).received ∧
      (((world.acknowledge client clientFd).connections other).acknowledged = true →
        (world.connections other).acknowledged = true ∨ other ∈ world.served) := by
    intro other
    by_cases ne : other = client
    · subst ne
      simp [SetupWorld.acknowledge, SetupWorld.thread, setConnection, served]
    · have kept : (world.acknowledge client clientFd).connections other = world.connections other :=
        Function.update_of_ne ne _ _
      rw [kept]
      exact ⟨rfl, rfl, rfl, .inl⟩
  have heard : world.Heard (world.acknowledge client clientFd) :=
    ⟨rfl, rfl, fun other => (same other).1, fun other => (same other).2.1, fun _ member => member,
      fun other => (same other).2.2.2⟩
  refine ⟨⟨rests.kept rfl rfl rfl rfl heard, ?_, sound.balanced, ?_,
    ⟨sound.backlog.nodup, fun other member => ?_⟩⟩, heard⟩
  · exact sound.flag.moved rfl rfl rfl rfl rfl rfl (by rw [here]; rfl) rfl
  · exact sound.accounted.thread here rfl rfl fun _ => rfl
  · rw [(same other).2.2.1]
    exact sound.backlog.fresh other member

theorem HalSound.refused (sound : world.HalSound) {stage : Handling}
    (here : world.source.thread = some (.handling client clientFd stage)) (rests : world.Rests)
    (alone : (Accepting.handling client clientFd stage).descriptors = [clientFd]) :
    (world.thread (.closing clientFd)).HalSound ∧ world.Heard (world.thread (.closing clientFd)) :=
  sound.turned here (.closing clientFd) (rests.thread _) alone.symm

theorem HalSound.handle (sound : world.HalSound)
    (connections : ∀ client < world.nextConnection, world.ConnectionSound client) {stage : Handling}
    {answer : SetupAnswer}
    (here : world.source.thread = some (.handling client clientFd stage))
    (next : world.handle client clientFd stage answer = some after) : after.HalSound ∧ world.Heard after := by
  have thread := sound.thread
  rw [here] at thread
  obtain ⟨known, -, rests⟩ := thread
  have connection := connections client known
  unfold SetupWorld.handle at next
  split at next
  case h_1 => exact sound.receiveHeader connection here next
  case h_2 => exact sound.receiveFdViaSCM connection here next
  case h_3 =>
    cases next
    exact sound.tearDown connections here
  case h_4 =>
    split at next
    · cases next
      exact sound.attach connection here
    · cases next
  case h_5 => exact sound.receiveBuffer connection here next
  case h_6 =>
    split at next
    · cases next
      exact sound.failReceive connection here
    · cases next
  case h_7 =>
    split at next
    · rename_i done
      cases next
      exact sound.activate here done
    · cases next
  case h_8 =>
    cases next
    exact sound.acknowledge here
  case h_9 =>
    cases next
    exact sound.refused here rests.1 rfl
  case h_10 =>
    cases next
    exact sound.refused here rests.1 rfl
  case h_11 =>
    cases next
    exact sound.refused here rests.1 rfl
  case h_12 => cases next

end SetupWorld

end VirtualCamera
