import VirtualCamera.V2.SetupInvariants

set_option autoImplicit false

namespace VirtualCamera

namespace SetupWorld

variable {world after : SetupWorld}

theorem said_setWriter (number : Nat) (writer : VirtualCameraWriterV2) : world.Said (world.setWriter number writer) :=
  ⟨rfl, rfl, rfl, rfl, rfl, le_rfl, fun _ _ => ⟨rfl, rfl⟩⟩

theorem HalSound.writer (sound : world.HalSound) (number : Nat) (writer : VirtualCameraWriterV2) :
    (world.setWriter number writer).HalSound :=
  sound.said (said_setWriter number writer) ⟨sound.backlog.nodup, sound.backlog.fresh⟩ fun _ _ out => out

theorem WriterSound.other {other : Nat} (sound : world.WriterSound other)
    (writers : after.writers other = world.writers other) (said : world.Said after)
    (sent : ∀ client < world.nextConnection, (world.connections client).offer.writer = other →
      (after.connections client).sent = (world.connections client).sent)
    (new : ∀ client, world.nextConnection ≤ client → client < after.nextConnection →
      (after.connections client).offer.writer ≠ other) : after.WriterSound other where
  ready := by rw [writers]; exact sound.ready
  connected client here := by
    rw [writers] at here ⊢
    obtain ⟨known, offer, told⟩ := sound.connected client here
    rw [(said.connections client known).1, said.served]
    exact ⟨lt_of_lt_of_le known said.next, offer, told⟩
  initialized := by rw [writers]; exact sound.initialized
  sent stage client calls here busy := by
    rw [writers] at calls here ⊢
    obtain ⟨known, offer, -⟩ := sound.connected client here
    rw [sent client known (by rw [offer]; rfl)]
    exact sound.sent stage client calls here busy
  opening := by rw [writers]; exact sound.opening
  past client known mine := by
    rw [writers]
    by_cases old : client < world.nextConnection
    · rw [(said.connections client old).1] at mine ⊢
      exact sound.past client old mine
    · exact absurd mine (new client (Nat.le_of_not_lt old) known)

theorem Sound.writer (sound : world.Sound) {number : Nat} (writer : VirtualCameraWriterV2)
    (mine : (world.setWriter number writer).WriterSound number) : (world.setWriter number writer).Sound where
  hal := sound.hal.writer number writer
  connections client known :=
    ⟨(sound.connections client known).valid, (sound.connections client known).sent,
      (sound.connections client known).acknowledged⟩
  writers other := by
    by_cases same : other = number
    · subst same
      exact mine
    · exact (sound.writers other).other (Function.update_of_ne same _ _) (said_setWriter number writer)
        (fun _ _ _ => rfl) fun client old new => absurd new (Nat.not_lt.mpr old)
  apart := sound.apart

theorem setWriter_same (number : Nat) (writer : VirtualCameraWriterV2) :
    (world.setWriter number writer).writers number = writer := Function.update_self _ _ _

theorem Sound.disconnected (sound : world.Sound) {number : Nat} (writer : VirtualCameraWriterV2)
    (free : writer.socket = none) (fresh : writer.initialized = false)
    (pools : (writer.call = none ∧ writer.pools = (world.writers number).pools) ∨
      (writer.call = some .opening ∧ writer.pools = (world.writers number).pools + 1 ∧ writer.Ready)) :
    (world.setWriter number writer).Sound := by
  refine sound.writer writer ?_
  constructor <;> simp only [setWriter_same]
  · rintro (busy | connected)
    · rcases pools with ⟨idle, -⟩ | ⟨-, -, ready⟩
      · rw [idle] at busy
        cases busy
      · exact ready
    · rw [free] at connected
      cases connected
  · intro client here
    rw [free] at here
    cases here
  · intro yes
    rw [fresh] at yes
    cases yes
  · intro stage client _ here
    rw [free] at here
    cases here
  · intro stage calls
    rcases pools with ⟨idle, -⟩ | ⟨opening, -, -⟩
    · rw [idle] at calls
      cases calls
    · rw [opening] at calls
      cases calls
      exact ⟨fun _ => free, fun _ => rfl⟩
  · intro client known mine
    have before := ((sound.writers number).past client known mine).1
    change (world.connections client).offer.pool ≤ _ ∧ (_ → (world.connections client).offer.pool < _)
    rcases pools with ⟨idle, same⟩ | ⟨-, grown, -⟩
    · rw [same, idle]
      exact ⟨before, fun no => by cases no⟩
    · rw [grown]
      exact ⟨by omega, fun _ => by omega⟩

theorem Sound.initializePool (sound : world.Sound) {number : Nat} (idle : (world.writers number).call = none)
    (width height : UInt32) (format bufferCount : Int32) (outcomes : PoolOutcomes) :
    (world.setWriter number
      ((world.writers number).initializePool width height format bufferCount outcomes)).Sound := by
  cases ready : (world.writers number).initialized with
  | true =>
    have same : (world.writers number).initializePool width height format bufferCount outcomes =
        world.writers number := if_pos ready
    have kept : world.setWriter number (world.writers number) = world := by
      simp [setWriter]
    rw [same, kept]
    exact sound
  | false =>
    obtain ⟨socket, fresh, pools⟩ := VirtualCameraWriterV2.initializePool_ready width height format
      bufferCount outcomes idle ready
    refine sound.disconnected _ ?_ fresh pools
    rw [socket]
    cases here : (world.writers number).socket with
    | none => rfl
    | some client =>
      have told := ((sound.writers number).connected client here).2.2 idle
      rw [ready] at told
      cases told.1

theorem Sound.shutdown (sound : world.Sound) {number : Nat} (idle : (world.writers number).call = none) :
    (world.setWriter number (world.writers number).shutdown).Sound :=
  sound.disconnected _ rfl rfl (.inl ⟨idle, rfl⟩)

variable {number : Nat} {stage : WriterStage}

theorem Sound.abandon (sound : world.Sound) (calls : (world.writers number).call = some stage) :
    (world.setWriter number (world.writers number).abandon).Sound := by
  refine sound.disconnected _ rfl ?_ (.inl ⟨rfl, rfl⟩)
  change (world.writers number).initialized = false
  cases ready : (world.writers number).initialized with
  | false => rfl
  | true =>
    have idle := ((sound.writers number).initialized ready).1
    rw [calls] at idle
    cases idle

theorem WriterSound.busy (sound : world.WriterSound number) (calls : (world.writers number).call = some stage) :
    (world.writers number).Ready ∧ (world.writers number).initialized = false := by
  refine ⟨sound.ready (.inl (by rw [calls]; rfl)), ?_⟩
  cases ready : (world.writers number).initialized with
  | false => rfl
  | true =>
    have idle := (sound.initialized ready).1
    rw [calls] at idle
    cases idle

theorem Sound.proceeds (sound : world.Sound) (calls : (world.writers number).call = some stage) {client : Nat}
    (here : (world.writers number).socket = some client) {initialized : Bool} {later : Option WriterStage}
    (goes : later = some .waiting ∧ initialized = false ∨
      later = none ∧ initialized = true ∧ (world.connections client).acknowledged = true) :
    (world.setWriter number { world.writers number with initialized, call := later }).Sound := by
  have before := sound.writers number
  obtain ⟨known, offer, -⟩ := before.connected client here
  have ready := (before.busy calls).1
  refine sound.writer _ ?_
  constructor <;> simp only [setWriter_same]
  · exact fun _ => ⟨ready.size, ready.format, ready.count, ready.valid, ready.ring, ready.buffers⟩
  · intro other same
    rw [here] at same
    cases same
    refine ⟨known, offer, fun idle => ?_⟩
    rcases goes with ⟨rfl, -⟩ | ⟨-, yes, acknowledged⟩
    · cases idle
    · exact ⟨yes, (sound.connections client known).acknowledged acknowledged⟩
  · intro yes
    rcases goes with ⟨-, no⟩ | ⟨idle, -, -⟩
    · rw [no] at yes
      cases yes
    · exact ⟨idle, by rw [here]; rfl⟩
  · intro later other calls _ busy
    rcases goes with ⟨rfl, -⟩ | ⟨rfl, -, -⟩
    · cases calls
      exact absurd rfl busy
    · cases calls
  · intro later calls
    rcases goes with ⟨rfl, -⟩ | ⟨rfl, -, -⟩
    · cases calls
      rw [here]
      constructor <;> intro no <;> cases no
    · cases calls
  · intro other old mine
    obtain ⟨low, -⟩ := before.past other old mine
    refine ⟨low, fun opening => ?_⟩
    rcases goes with ⟨rfl, -⟩ | ⟨rfl, -, -⟩ <;> cases opening

theorem Sound.sends (sound : world.Sound) (calls : (world.writers number).call = some stage) {client : Nat}
    (here : (world.writers number).socket = some client) (busy : stage ≠ .waiting)
    (low : ∀ index, stage = .buffers index → index < (world.writers number).pool.bufferCount.toInt.toNat)
    {message : SetupMessage} (sends : (world.writers number).message number stage = some message) :
    (world.sends number (world.writers number) client message stage).Sound := by
  have before := sound.writers number
  obtain ⟨known, offer, -⟩ := before.connected client here
  obtain ⟨ready, fresh⟩ := before.busy calls
  obtain ⟨script, grows, goes⟩ := ready.message low sends
  have sent := before.sent stage client calls here busy
  have new : ((world.sends number (world.writers number) client message stage).connections client).sent =
      ((world.writers number).offer number).script.take stage.after.position := by
    rw [grows, List.take_add_one, script, ← sent]
    simp [SetupWorld.sends, setWriter, setConnection]
  have others : ∀ other, other ≠ client →
      (world.sends number (world.writers number) client message stage).connections other = world.connections other :=
    fun other ne => Function.update_of_ne ne _ _
  have same : ∀ other, ((world.sends number (world.writers number) client message stage).connections other).offer =
      (world.connections other).offer ∧
      ((world.sends number (world.writers number) client message stage).connections other).received =
        (world.connections other).received ∧
      ((world.sends number (world.writers number) client message stage).connections other).acknowledged =
        (world.connections other).acknowledged := by
    intro other
    by_cases ne : other = client
    · subst ne
      simp [SetupWorld.sends, setWriter, setConnection]
    · rw [others other ne]
      exact ⟨rfl, rfl, rfl⟩
  have said : world.Said (world.sends number (world.writers number) client message stage) :=
    ⟨rfl, rfl, rfl, rfl, rfl, le_rfl, fun other _ => ⟨(same other).1, (same other).2.1⟩⟩
  have mine : (world.sends number (world.writers number) client message stage).writers number =
      { world.writers number with call := some stage.after } := Function.update_self _ _ _
  refine ⟨sound.hal.said said ⟨sound.hal.backlog.nodup, fun other member => ?_⟩ fun _ _ out => out,
    fun other old => ⟨?_, ?_, ?_⟩, fun other => ?_, ?_⟩
  · rw [(same other).2.1]
    exact sound.hal.backlog.fresh other member
  · rw [(same other).1]
    exact (sound.connections other old).valid
  · by_cases ne : other = client
    · subst ne
      rw [new, (same other).1, offer]
      exact List.take_prefix _ _
    · rw [others other ne]
      exact (sound.connections other old).sent
  · rw [(same other).2.2]
    exact (sound.connections other old).acknowledged
  · by_cases number_ : other = number
    · subst number_
      constructor <;> simp only [mine]
      · exact fun _ => ⟨ready.size, ready.format, ready.count, ready.valid, ready.ring, ready.buffers⟩
      · intro found at_
        rw [here] at at_
        cases at_
        exact ⟨known, (same client).1.trans offer, fun no => by cases no⟩
      · intro yes
        rw [fresh] at yes
        cases yes
      · intro later found moved at_ _
        rw [here] at at_
        cases at_
        cases moved
        exact new
      · intro later moved
        cases moved
        rw [here]
        exact ⟨fun no => absurd no goes, fun no => by cases no⟩
      · intro found old own
        rw [(same found).1] at own ⊢
        refine ⟨(before.past found old own).1, fun moved => absurd (Option.some.inj moved) goes⟩
    · refine (sound.writers other).other (Function.update_of_ne number_ _ _) said (fun found old own => ?_)
        fun found old recent => absurd recent (Nat.not_lt.mpr old)
      by_cases ne : found = client
      · subst ne
        rw [offer] at own
        exact absurd own.symm number_
      · rw [others found ne]
  · intro left oldLeft right oldRight rings
    rw [(same left).1, (same right).1] at rings
    exact sound.apart left oldLeft right oldRight rings

theorem Sound.opened (sound : world.Sound) (calls : (world.writers number).call = some .opening) :
    (world.opened number (world.writers number)).Sound := by
  have before := sound.writers number
  obtain ⟨ready, fresh⟩ := before.busy calls
  have others : ∀ other < world.nextConnection,
      (world.opened number (world.writers number)).connections other = world.connections other :=
    fun other old => Function.update_of_ne (Nat.ne_of_lt old) _ _
  have new : (world.opened number (world.writers number)).connections world.nextConnection =
      { offer := (world.writers number).offer number } := Function.update_self _ _ _
  have said : world.Said (world.opened number (world.writers number)) := by
    refine ⟨rfl, rfl, rfl, rfl, rfl, Nat.le_succ _, fun other old => ?_⟩
    rw [others other old]
    exact ⟨rfl, rfl⟩
  have mine : (world.opened number (world.writers number)).writers number =
      { world.writers number with socket := some world.nextConnection, call := some .header } :=
    Function.update_self _ _ _
  have recent : ∀ other, other < world.nextConnection + 1 → other < world.nextConnection ∨
    other = world.nextConnection :=
    fun other known => Nat.lt_succ_iff_lt_or_eq.mp known
  refine ⟨sound.hal.said said ⟨?_, fun other member => ?_⟩ fun other old out member => ?_,
    fun other known => ?_, fun other => ?_, ?_⟩
  · refine List.nodup_append.mpr ⟨sound.hal.backlog.nodup, by simp, fun left waits right last same => ?_⟩
    have old := (sound.hal.backlog.fresh left waits).1
    rw [same, List.mem_singleton.mp last] at old
    exact Nat.lt_irrefl _ old
  · rcases List.mem_append.mp member with waits | last
    · obtain ⟨old, received⟩ := sound.hal.backlog.fresh other waits
      rw [others other old]
      exact ⟨Nat.lt_succ_of_lt old, received⟩
    · obtain rfl := List.mem_singleton.mp last
      rw [new]
      exact ⟨Nat.lt_succ_self _, rfl⟩
  · rcases List.mem_append.mp member with waits | last
    · exact out waits
    · rw [List.mem_singleton.mp last] at old
      exact Nat.lt_irrefl _ old
  · rcases recent other known with old | rfl
    · obtain ⟨valid, sent, acknowledged⟩ := sound.connections other old
      exact ⟨by rw [others other old]; exact valid, by rw [others other old]; exact sent,
        by rw [others other old]; exact acknowledged⟩
    · exact ⟨by rw [new]; exact ready.valid_offer number, by rw [new]; exact List.nil_prefix,
        by rw [new]; exact fun no => by cases no⟩
  · by_cases same : other = number
    · subst same
      constructor <;> simp only [mine]
      · exact fun _ => ⟨ready.size, ready.format, ready.count, ready.valid, ready.ring, ready.buffers⟩
      · intro client here
        cases here
        rw [new]
        exact ⟨Nat.lt_succ_self _, rfl, fun no => by cases no⟩
      · intro yes
        rw [fresh] at yes
        cases yes
      · intro stage client moved here _
        cases here
        cases moved
        rw [new]
        rfl
      · intro stage moved
        cases moved
        constructor <;> intro no <;> cases no
      · intro client known own
        rcases recent client known with old | rfl
        · rw [others client old] at own ⊢
          exact ⟨(before.past client old own).1, fun no => by cases no⟩
        · rw [new]
          exact ⟨le_rfl, fun no => by cases no⟩
    · refine (sound.writers other).other (Function.update_of_ne same _ _) said
        (fun client old _ => by rw [others client old]) fun client old known => ?_
      obtain rfl := (recent client known).resolve_left (Nat.not_lt.mpr old)
      rw [new]
      exact fun same_ => same same_.symm
  · -- A writer that connects has a pool that it has not offered before.
    have first : ∀ client < world.nextConnection,
        (world.connections client).offer.ring ≠ ((world.writers number).offer number).ring := by
      intro client old rings
      have own : (world.connections client).offer.writer = number := congrArg SharedObject.writer rings
      have pool : (world.connections client).offer.pool = (world.writers number).pools :=
        congrArg SharedObject.pool rings
      have earlier := (before.past client old own).2 calls
      omega
    intro left knownLeft right knownRight rings
    rcases recent left knownLeft with oldLeft | rfl <;> rcases recent right knownRight with oldRight | rfl
    · rw [others left oldLeft, others right oldRight] at rings
      exact sound.apart left oldLeft right oldRight rings
    · rw [others left oldLeft, new] at rings
      exact absurd rings (first left oldLeft)
    · rw [others right oldRight, new] at rings
      exact absurd rings.symm (first right oldRight)
    · rfl

theorem Sound.connectToHal (sound : world.Sound) (calls : (world.writers number).call = some stage) {failed : Bool}
    (next : world.connectToHal number (world.writers number) failed stage = some after) : after.Sound := by
  unfold SetupWorld.connectToHal at next
  cases failed with
  | true =>
    cases next
    exact sound.abandon calls
  | false =>
    rw [if_neg Bool.false_ne_true] at next
    split at next
    case h_1 =>
      split at next
      · cases next
        exact sound.opened calls
      · cases next
    case h_2 client here =>
      split at next
      · rename_i acknowledged
        cases next
        exact sound.proceeds calls here (.inr ⟨rfl, rfl, acknowledged⟩)
      · cases next
    case h_3 index client here =>
      split at next
      · cases next
        have fresh := ((sound.writers number).busy calls).2
        have goes := sound.proceeds calls here (.inl ⟨rfl, fresh⟩)
        exact goes
      · rename_i low
        obtain ⟨message, sends, rfl⟩ := Option.map_eq_some_iff.mp next
        refine sound.sends calls here (by simp) (fun place same => ?_) sends
        cases same
        exact Nat.not_le.mp low
    case h_4 client opening waiting buffers here =>
      obtain ⟨message, sends, rfl⟩ := Option.map_eq_some_iff.mp next
      exact sound.sends calls here waiting (fun place same => absurd same (buffers place)) sends
    case h_5 => cases next

end SetupWorld

end VirtualCamera
