import VirtualCamera.V2.SetupWorld

set_option autoImplicit false

namespace VirtualCamera

namespace SetupHeader

def ofConfig (config : BufferPoolConfig) : SetupHeader :=
  { magic := VCM2_MAGIC, version := VCM2_VERSION, width := config.width, height := config.height
    format := config.format, bufferCount := config.bufferCount, usage := config.usage }

end SetupHeader

namespace Offer

def script (offer : Offer) : List SetupMessage :=
  .header (.ofConfig offer.config) :: .ring offer.ring ::
    (List.range offer.count).map fun index => .buffer (offer.buffer index)

def Valid (offer : Offer) : Prop :=
  0 < offer.config.bufferCount.toInt ∧ offer.config.bufferCount.toInt ≤ MAX_BUFFERS

variable {offer : Offer}

theorem Valid.small (valid : offer.Valid) : offer.count ≤ MAX_BUFFERS := by
  have := valid.2
  unfold count
  omega

theorem Valid.accepted (valid : offer.Valid) : (SetupHeader.ofConfig offer.config).accepted = true := by
  have positive : 0 < offer.config.bufferCount := by
    rw [Int32.lt_iff_toInt_lt, Int32.toInt_zero]
    exact valid.1
  simp [SetupHeader.accepted, SetupHeader.ofConfig, positive, valid.2]

theorem script_buffer {index : Nat} {message : SetupMessage} (here : offer.script[2 + index]? = some message) :
    index < offer.count ∧ message = .buffer (offer.buffer index) := by
  have shifted : offer.script[2 + index]? =
      ((List.range offer.count).map fun index => SetupMessage.buffer (offer.buffer index))[index]? := by
    rw [Nat.add_comm]
    rfl
  rw [shifted, List.getElem?_map, Option.map_eq_some_iff] at here
  obtain ⟨place, found, rfl⟩ := here
  obtain ⟨low, rfl⟩ := List.getElem?_eq_some_iff.mp found
  exact ⟨by simpa using low, by simp⟩

theorem script_of_buffer {index : Nat} (low : index < offer.count) :
    offer.script[2 + index]? = some (.buffer (offer.buffer index)) := by
  have shifted : offer.script[2 + index]? =
      ((List.range offer.count).map fun index => SetupMessage.buffer (offer.buffer index))[index]? := by
    rw [Nat.add_comm]
    rfl
  rw [shifted]
  simp [low]

end Offer

namespace WriterStage

def position : WriterStage → Nat
  | .opening => 0
  | .header => 0
  | .ring => 1
  | .buffers index => 2 + index
  | .waiting => 0

end WriterStage

structure VirtualCameraWriterV2.Ready (writer : VirtualCameraWriterV2) : Prop where
  size : writer.pool.config.width = writer.width.toInt32 ∧ writer.pool.config.height = writer.height.toInt32
  format : writer.pool.config.format = writer.format
  count : writer.pool.bufferCount = writer.pool.config.bufferCount
  valid : 0 < writer.pool.config.bufferCount.toInt ∧ writer.pool.config.bufferCount.toInt ≤ MAX_BUFFERS
  ring : writer.pool.controlRing.isSome = true ∧ 0 ≤ writer.pool.controlRingFd
  buffers : ∀ index < writer.pool.config.bufferCount.toInt.toNat, (writer.pool.buffers index).isSome = true

namespace VirtualCameraWriterV2

variable {writer : VirtualCameraWriterV2}

theorem Ready.setupHeader (ready : writer.Ready) : writer.setupHeader = .ofConfig writer.pool.config := by
  simp [VirtualCameraWriterV2.setupHeader, SetupHeader.ofConfig, VCM2_MAGIC, VCM2_VERSION, ready.size.1, ready.size.2,
    ready.format, ready.count]

theorem Ready.valid_offer (ready : writer.Ready) (number : Nat) : (writer.offer number).Valid := ready.valid

theorem Ready.message (ready : writer.Ready) {number : Nat} {stage : WriterStage} {message : SetupMessage}
    (low : ∀ index, stage = .buffers index → index < writer.pool.bufferCount.toInt.toNat)
    (sends : writer.message number stage = some message) :
    (writer.offer number).script[stage.position]? = some message ∧ stage.after.position = stage.position + 1 ∧
      stage.after ≠ .opening := by
  cases stage with
  | opening => cases sends
  | header =>
    cases sends
    rw [ready.setupHeader]
    exact ⟨rfl, rfl, by simp [WriterStage.after]⟩
  | ring =>
    cases sends
    exact ⟨rfl, rfl, by simp [WriterStage.after]⟩
  | buffers index =>
    obtain ⟨pointer, -, rfl⟩ := Option.map_eq_some_iff.mp sends
    have inside : index < (writer.offer number).count := by
      have := low index rfl
      rwa [ready.count] at this
    have grows : (WriterStage.buffers index).after.position = (WriterStage.buffers index).position + 1 := by
      simp only [WriterStage.after, WriterStage.position]
      omega
    exact ⟨Offer.script_of_buffer inside, grows, by simp [WriterStage.after]⟩
  | waiting => cases sends

theorem initializePool_ready (width height : UInt32) (format bufferCount : Int32) (outcomes : PoolOutcomes)
    (idle : writer.call = none) (fresh : writer.initialized = false) :
    let after := writer.initializePool width height format bufferCount outcomes
    after.socket = writer.socket ∧ after.initialized = false ∧
      ((after.call = none ∧ after.pools = writer.pools) ∨
        (after.call = some .opening ∧ after.pools = writer.pools + 1 ∧ after.Ready)) := by
  intro after
  change (writer.initializePool width height format bufferCount outcomes).socket = _ ∧ _
  simp only [after]
  unfold initializePool
  rw [if_neg (by simp [fresh])]
  split
  · rename_i pool made
    obtain ⟨config, count, valid, ring, buffers⟩ := SharedBufferPool.allocate_true made
    refine ⟨rfl, fresh, .inr ⟨rfl, rfl, ?_⟩⟩
    refine ⟨by simp [config], by simp [config], by simp [config, count], ?_, ring, ?_⟩
    · simpa [config] using valid
    · simpa [config] using buffers
  · exact ⟨rfl, fresh, .inl ⟨idle, rfl⟩⟩

end VirtualCameraWriterV2

namespace SetupWorld

structure Rests (world : SetupWorld) : Prop where
  bare : world.serving = none → world.source.pool.Bare
  holds : ∀ client, world.serving = some client → client < world.nextConnection ∧
    world.source.pool.Holds world.objects (world.connections client).offer ∧
    world.source.halRing = world.source.pool.controlRing

def StageSound (world : SetupWorld) (client : Nat) : Handling → Prop
  | .header => world.Rests ∧ (world.connections client).received = 0
  | .ring header => world.Rests ∧ (world.connections client).received = 1 ∧
    header = .ofConfig (world.connections client).offer.config
  | .locking header ringFd => world.Rests ∧ (world.connections client).received = 2 ∧
    header = .ofConfig (world.connections client).offer.config ∧
    world.objects (.descriptor ringFd) = (world.connections client).offer.ring
  | .attaching header ringFd => (world.serving = none ∧ world.overtaken = false ∧ world.source.active = false) ∧
    world.source.pool.Bare ∧ (world.connections client).received = 2 ∧
    header = .ofConfig (world.connections client).offer.config ∧
    world.objects (.descriptor ringFd) = (world.connections client).offer.ring
  | .receiving header index => (world.serving = none ∧ world.overtaken = false ∧ world.source.active = false) ∧
    world.source.pool.Filled world.objects (world.connections client).offer index ∧
    world.source.pool.bufferCount = 0 ∧ index ≤ (world.connections client).offer.count ∧
    (world.connections client).received = 2 + index ∧
    header = .ofConfig (world.connections client).offer.config
  | .acknowledging => world.Rests ∧ client ∈ world.served

def ThreadSound (world : SetupWorld) : Option Accepting → Prop
  | some (.handling client _ stage) => client < world.nextConnection ∧ client ∉ world.backlog ∧
    world.StageSound client stage
  | _ => world.Rests

-- `stop` has cleared `mActive` and has not released the pool yet.
def Halting (world : SetupWorld) : Prop :=
  world.source.stopping = some .closing ∨ world.source.stopping = some .joining ∨
    world.source.stopping = some .releasing

structure FlagSound (world : SetupWorld) : Prop where
  active : world.source.active = true → world.serving.isSome = true ∨ world.overtaken = true
  overtaken : world.overtaken = true → world.source.active = true ∧ (world.serving.isSome = true → world.Halting)
  serving : world.serving.isSome = true → world.source.active = true ∨ world.Halting
  idle : world.source.thread = none → world.source.serverFd < 0 ∧
    (world.serving.isSome = true → world.source.stopping = some .releasing)
  waits : world.source.stopping = none → world.source.running = false → world.source.thread = none
  joining : world.source.stopping = some .joining → world.source.serverFd < 0
  releasing : world.source.stopping = some .releasing → world.source.thread = none
  late : world.Halting → world.source.active = true → world.overtaken = true

def Accounted (source : VirtualCameraFrameSourceV2) : Prop :=
  ∀ fd, source.taken.count fd = source.returned.count fd + source.descriptors.count fd

structure BacklogSound (world : SetupWorld) : Prop where
  nodup : world.backlog.Nodup
  fresh : ∀ client ∈ world.backlog, client < world.nextConnection ∧ (world.connections client).received = 0

structure ConnectionSound (world : SetupWorld) (client : Nat) : Prop where
  valid : (world.connections client).offer.Valid
  sent : (world.connections client).sent <+: (world.connections client).offer.script
  acknowledged : (world.connections client).acknowledged = true → client ∈ world.served

structure HalSound (world : SetupWorld) : Prop where
  thread : world.ThreadSound world.source.thread
  flag : world.FlagSound
  balanced : world.source.pool.Balanced
  accounted : Accounted world.source
  backlog : world.BacklogSound

structure WriterSound (world : SetupWorld) (number : Nat) : Prop where
  ready : (world.writers number).call.isSome = true ∨ (world.writers number).socket.isSome = true →
    (world.writers number).Ready
  connected : ∀ client, (world.writers number).socket = some client → client < world.nextConnection ∧
    (world.connections client).offer = (world.writers number).offer number ∧
    ((world.writers number).call = none → (world.writers number).initialized = true ∧ client ∈ world.served)
  initialized : (world.writers number).initialized = true → (world.writers number).call = none ∧
    (world.writers number).socket.isSome = true
  sent : ∀ stage client, (world.writers number).call = some stage → (world.writers number).socket = some client →
    stage ≠ .waiting →
    (world.connections client).sent = ((world.writers number).offer number).script.take stage.position
  opening : ∀ stage, (world.writers number).call = some stage →
    (stage = .opening ↔ (world.writers number).socket = none)
  past : ∀ client < world.nextConnection, (world.connections client).offer.writer = number →
    (world.connections client).offer.pool ≤ (world.writers number).pools ∧
      ((world.writers number).call = some .opening →
        (world.connections client).offer.pool < (world.writers number).pools)

structure Sound (world : SetupWorld) : Prop where
  hal : world.HalSound
  connections : ∀ client < world.nextConnection, world.ConnectionSound client
  writers : ∀ number, world.WriterSound number
  apart : ∀ left < world.nextConnection, ∀ right < world.nextConnection,
    (world.connections left).offer.ring = (world.connections right).offer.ring → left = right

structure Heard (world after : SetupWorld) : Prop where
  writers : after.writers = world.writers
  next : after.nextConnection = world.nextConnection
  offer : ∀ client, (after.connections client).offer = (world.connections client).offer
  sent : ∀ client, (after.connections client).sent = (world.connections client).sent
  served : ∀ client ∈ world.served, client ∈ after.served
  acknowledged : ∀ client, (after.connections client).acknowledged = true →
    (world.connections client).acknowledged = true ∨ client ∈ after.served

structure Said (world after : SetupWorld) : Prop where
  source : after.source = world.source
  objects : after.objects = world.objects
  served : after.served = world.served
  serving : after.serving = world.serving
  overtaken : after.overtaken = world.overtaken
  next : world.nextConnection ≤ after.nextConnection
  connections : ∀ client < world.nextConnection,
    (after.connections client).offer = (world.connections client).offer ∧
      (after.connections client).received = (world.connections client).received

variable {world after : SetupWorld} {client number : Nat}

theorem WriterSound.heard (sound : world.WriterSound number) (heard : world.Heard after) :
    after.WriterSound number where
  ready := by simpa only [heard.writers] using sound.ready
  connected client here := by
    rw [heard.writers] at here ⊢
    rw [heard.next, heard.offer]
    obtain ⟨known, offer, told⟩ := sound.connected client here
    exact ⟨known, offer, fun idle => ⟨(told idle).1, heard.served _ (told idle).2⟩⟩
  initialized := by simpa only [heard.writers] using sound.initialized
  sent := by simpa only [heard.writers, heard.sent] using sound.sent
  opening := by simpa only [heard.writers] using sound.opening
  past := by simpa only [heard.writers, heard.next, heard.offer] using sound.past

theorem Sound.heard (sound : world.Sound) (heard : world.Heard after) (hal : after.HalSound) : after.Sound where
  hal
  connections client known := by
    rw [heard.next] at known
    have before := sound.connections client known
    refine ⟨by rw [heard.offer]; exact before.valid, by rw [heard.offer, heard.sent]; exact before.sent,
      fun yes => ?_⟩
    exact (heard.acknowledged client yes).elim (fun early => heard.served _ (before.acknowledged early)) id
  writers number := (sound.writers number).heard heard
  apart := by simpa only [heard.next, heard.offer] using sound.apart

theorem Rests.said (rests : world.Rests) (said : world.Said after) : after.Rests where
  bare free := by
    rw [said.serving] at free
    rw [said.source]
    exact rests.bare free
  holds client here := by
    rw [said.serving] at here
    obtain ⟨known, holds, ring⟩ := rests.holds client here
    rw [said.source, said.objects, (said.connections client known).1]
    exact ⟨lt_of_lt_of_le known said.next, holds, ring⟩

theorem StageSound.said {stage : Handling} (sound : world.StageSound client stage) (said : world.Said after)
    (known : client < world.nextConnection) : after.StageSound client stage := by
  obtain ⟨offer, received⟩ := said.connections client known
  cases stage <;> simp only [StageSound, said.source, said.objects, said.served, said.serving, said.overtaken, offer,
    received] at sound ⊢
  case header => exact ⟨sound.1.said said, sound.2⟩
  case ring => exact ⟨sound.1.said said, sound.2⟩
  case locking => exact ⟨sound.1.said said, sound.2⟩
  case attaching => exact sound
  case receiving => exact sound
  case acknowledging => exact ⟨sound.1.said said, sound.2⟩

theorem ThreadSound.said {thread : Option Accepting} (sound : world.ThreadSound thread) (said : world.Said after)
    (waits : ∀ client < world.nextConnection, client ∉ world.backlog → client ∉ after.backlog) :
    after.ThreadSound thread := by
  cases thread with
  | none => exact Rests.said sound said
  | some thread =>
    cases thread with
    | handling client clientFd stage =>
      obtain ⟨known, out, stage⟩ := sound
      exact ⟨lt_of_lt_of_le known said.next, waits _ known out, stage.said said known⟩
    | _ => exact Rests.said sound said

theorem HalSound.said (sound : world.HalSound) (said : world.Said after)
    (backlog : after.BacklogSound)
    (waits : ∀ client < world.nextConnection, client ∉ world.backlog → client ∉ after.backlog) :
    after.HalSound where
  thread := by
    rw [said.source]
    exact sound.thread.said said waits
  flag := by
    have before := sound.flag
    constructor <;> simp only [Halting, said.source, said.serving, said.overtaken]
    · exact before.active
    · exact before.overtaken
    · exact before.serving
    · exact before.idle
    · exact before.waits
    · exact before.joining
    · exact before.releasing
    · exact before.late
  balanced := by simpa only [said.source] using sound.balanced
  accounted := by simpa only [said.source] using sound.accounted
  backlog

end SetupWorld

end VirtualCamera
