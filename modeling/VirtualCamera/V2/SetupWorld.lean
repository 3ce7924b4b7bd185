import VirtualCamera.V2.PoolTransfer

set_option autoImplicit false

namespace VirtualCamera

structure SetupHeader where
  magic : UInt32
  version : UInt32
  width : Int32
  height : Int32
  format : Int32
  bufferCount : Int32
  usage : UInt64
deriving DecidableEq

def VCM2_MAGIC : UInt32 := 0x56434D32

def VCM2_VERSION : UInt32 := 2

namespace SetupHeader

def accepted (header : SetupHeader) : Bool :=
  header.magic = VCM2_MAGIC && header.version = VCM2_VERSION &&
    decide (0 < header.bufferCount) && decide (header.bufferCount.toInt ≤ MAX_BUFFERS)

def config (header : SetupHeader) : BufferPoolConfig :=
  { width := header.width, height := header.height, format := header.format
    bufferCount := header.bufferCount, usage := header.usage }

end SetupHeader

-- What goes over the socket: a descriptor or a buffer is known by what it refers to.
inductive SetupMessage where
  | header (header : SetupHeader)
  | ring (object : SharedObject)
  | buffer (object : SharedObject)
deriving DecidableEq

-- A connection of a writer to the HAL. Its messages stay in the log, and the HAL has taken the first `received`.
structure Connection where
  offer : Offer
  sent : List SetupMessage := []
  received : Nat := 0
  acknowledged : Bool := false

-- Where `handleConnection` is, between two calls of the system. From `attaching` on it has `mLock`.
inductive Handling where
  | header
  | ring (header : SetupHeader)
  | locking (header : SetupHeader) (ringFd : Int32)
  | attaching (header : SetupHeader) (ringFd : Int32)
  | receiving (header : SetupHeader) (index : Nat)
  | acknowledging

inductive Accepting where
  | checking
  | accepting
  | handling (client : Nat) (clientFd : Int32) (stage : Handling)
  | closing (clientFd : Int32)
  | ended

inductive Stopping where
  | deactivating
  | closing
  | joining
  | releasing
deriving DecidableEq

structure VirtualCameraFrameSourceV2 where
  serverFd : Int32 := -1
  running : Bool := false
  active : Bool := false
  thread : Option Accepting := none
  stopping : Option Stopping := none
  pool : SharedBufferPool := {}
  halRing : Option Nat := none
  -- The descriptors outside of the pool that the system gave, and those that were closed.
  taken : List Int32 := []
  returned : List Int32 := []

inductive WriterStage where
  | opening
  | header
  | ring
  | buffers (index : Nat)
  | waiting
deriving DecidableEq

-- The writer with the number of pools that it has allocated. Its `mSocketFd` is known by the connection.
structure VirtualCameraWriterV2 where
  pool : SharedBufferPool := {}
  width : UInt32 := 0
  height : UInt32 := 0
  format : Int32 := 0
  socket : Option Nat := none
  initialized : Bool := false
  call : Option WriterStage := none
  pools : Nat := 0

-- The HAL and any number of writers. `objects` says what the handles of the HAL refer to. The last three fields
-- record which connections have made the HAL active, from which one its pool came, and whether one did so after a
-- `stop` had cleared `mActive`.
structure SetupWorld where
  source : VirtualCameraFrameSourceV2 := {}
  objects : PoolResource → SharedObject := fun _ => ⟨0, 0, 0⟩
  writers : Nat → VirtualCameraWriterV2 := fun _ => {}
  connections : Nat → Connection := fun _ => { offer := ⟨0, 0, {}⟩ }
  nextConnection : Nat := 0
  backlog : List Nat := []
  served : List Nat := []
  serving : Option Nat := none
  overtaken : Bool := false

inductive SetupAnswer where
  | failed
  | done
  | descriptor (fd : Int32)
  | attached (fd : Int32) (address : Option Nat)
  | buffer (pointer : Nat)

inductive SetupLabel where
  | start (serverFd : Int32) (listening : Bool)
  | stop
  | stopping
  | accept (clientFd : Int32)
  | thread (answer : SetupAnswer)
  | initializePool (writer : Nat) (width height : UInt32) (format bufferCount : Int32) (outcomes : PoolOutcomes)
  | writer (writer : Nat) (failed : Bool)
  | shutdown (writer : Nat)

namespace Accepting

def descriptors : Accepting → List Int32
  | .handling _ clientFd (.locking _ ringFd) => [clientFd, ringFd]
  | .handling _ clientFd (.attaching _ ringFd) => [clientFd, ringFd]
  | .handling _ clientFd _ => [clientFd]
  | .closing clientFd => [clientFd]
  | _ => []

def filling : Accepting → Bool
  | .handling _ _ (.attaching ..) => true
  | .handling _ _ (.receiving ..) => true
  | _ => false

end Accepting

namespace VirtualCameraFrameSourceV2

def server (source : VirtualCameraFrameSourceV2) : List Int32 :=
  if 0 ≤ source.serverFd then [source.serverFd] else []

def descriptors (source : VirtualCameraFrameSourceV2) : List Int32 :=
  source.server ++ source.thread.toList.flatMap Accepting.descriptors

def fresh (source : VirtualCameraFrameSourceV2) (fd : Int32) : Bool :=
  decide (0 ≤ fd) && decide (fd ∉ source.descriptors) && decide (fd ≠ source.pool.controlRingFd)

def take (source : VirtualCameraFrameSourceV2) (fd : Int32) : VirtualCameraFrameSourceV2 :=
  { source with taken := source.taken ++ [fd] }

def close (source : VirtualCameraFrameSourceV2) (fd : Int32) : VirtualCameraFrameSourceV2 :=
  { source with returned := source.returned ++ [fd] }

-- `listening` says whether `bind` and `listen` succeeded.
def start (source : VirtualCameraFrameSourceV2) (serverFd : Int32) (listening : Bool) : VirtualCameraFrameSourceV2 :=
  if source.running then source
  else if serverFd < 0 then { source with serverFd }
  else if listening then { source.take serverFd with serverFd, running := true, thread := some .checking }
  else { (source.take serverFd).close serverFd with serverFd := -1 }

def stop (source : VirtualCameraFrameSourceV2) : VirtualCameraFrameSourceV2 :=
  { source with running := false, stopping := some .deactivating }

def proceed (source : VirtualCameraFrameSourceV2) : Stopping → Option VirtualCameraFrameSourceV2
  | .deactivating => some { source with active := false, stopping := some .closing }
  | .closing =>
    some { (if 0 ≤ source.serverFd then { source.close source.serverFd with serverFd := -1 } else source) with
      stopping := some .joining }
  | .joining =>
    match source.thread with
    | none | some .ended => some { source with thread := none, stopping := some .releasing }
    | _ => none
  | .releasing => some { source with pool := source.pool.release, stopping := none }

end VirtualCameraFrameSourceV2

namespace VirtualCameraWriterV2

-- `AHARDWAREBUFFER_USAGE_CPU_WRITE_OFTEN`, `_CPU_READ_OFTEN`, `_GPU_SAMPLED_IMAGE` and `_GPU_COLOR_OUTPUT`.
def usage : UInt64 := 0x30 ||| 0x3 ||| 0x100 ||| 0x200

def initializePool (writer : VirtualCameraWriterV2) (width height : UInt32) (format bufferCount : Int32)
    (outcomes : PoolOutcomes) : VirtualCameraWriterV2 :=
  if writer.initialized then writer
  else
    match writer.pool.allocate outcomes width.toInt32 height.toInt32 format bufferCount usage with
    | (true, pool) =>
      { writer with pool, width, height, format, call := some .opening, pools := writer.pools + 1 }
    | (false, pool) => { writer with pool, width, height, format }

def object (writer : VirtualCameraWriterV2) (number part : Nat) : SharedObject := ⟨number, writer.pools, part⟩

def offer (writer : VirtualCameraWriterV2) (number : Nat) : Offer := ⟨number, writer.pools, writer.pool.config⟩

def setupHeader (writer : VirtualCameraWriterV2) : SetupHeader :=
  { magic := 0x56434D32, version := 2, width := writer.width.toInt32, height := writer.height.toInt32
    format := writer.format, bufferCount := writer.pool.bufferCount, usage := writer.pool.config.usage }

def abandon (writer : VirtualCameraWriterV2) : VirtualCameraWriterV2 :=
  { writer with pool := writer.pool.release, socket := none, call := none }

def shutdown (writer : VirtualCameraWriterV2) : VirtualCameraWriterV2 :=
  { writer with
    pool := writer.pool.release, socket := none, initialized := false, width := 0, height := 0, format := 0 }

def message (writer : VirtualCameraWriterV2) (number : Nat) : WriterStage → Option SetupMessage
  | .header => some (.header writer.setupHeader)
  | .ring => some (.ring (writer.object number 0))
  | .buffers index => (writer.pool.buffers index).map fun _ => .buffer (writer.object number (index + 1))
  | _ => none

end VirtualCameraWriterV2

def WriterStage.after : WriterStage → WriterStage
  | .opening => .header
  | .header => .ring
  | .ring => .buffers 0
  | .buffers index => .buffers (index + 1)
  | .waiting => .waiting

namespace SetupWorld

def withSource (world : SetupWorld) (source : VirtualCameraFrameSourceV2) : SetupWorld := { world with source }

def thread (world : SetupWorld) (thread : Accepting) : SetupWorld :=
  { world with source := { world.source with thread := some thread } }

def setWriter (world : SetupWorld) (number : Nat) (writer : VirtualCameraWriterV2) : SetupWorld :=
  { world with writers := Function.update world.writers number writer }

def setConnection (world : SetupWorld) (client : Nat) (connection : Connection) : SetupWorld :=
  { world with connections := Function.update world.connections client connection }

def front (world : SetupWorld) (client : Nat) : Option SetupMessage :=
  (world.connections client).sent[(world.connections client).received]?

def consume (world : SetupWorld) (client : Nat) : SetupWorld :=
  world.setConnection client
    { world.connections client with received := (world.connections client).received + 1 }

def names (world : SetupWorld) (resource : PoolResource) (object : SharedObject) : SetupWorld :=
  { world with objects := Function.update world.objects resource object }

def receiveHeader (world : SetupWorld) (client : Nat) (clientFd : Int32) : Option SetupWorld :=
  match world.front client with
  | some (.header header) =>
    some ((world.consume client).thread
      (if header.accepted then .handling client clientFd (.ring header) else .closing clientFd))
  | _ => none

def receiveFdViaSCM (world : SetupWorld) (client : Nat) (clientFd : Int32) (header : SetupHeader) (ringFd : Int32) :
    Option SetupWorld :=
  match world.front client with
  | some (.ring object) =>
    if world.source.fresh ringFd then
      some ((((world.consume client).names (.descriptor ringFd) object).withSource (world.source.take ringFd)).thread
        (.handling client clientFd (.locking header ringFd)))
    else none
  | _ => none

def tearDown (world : SetupWorld) (client : Nat) (clientFd : Int32) (header : SetupHeader) (ringFd : Int32) :
    SetupWorld :=
  { world with
    source :=
      { world.source with
        active := false, pool := world.source.pool.release
        thread := some (.handling client clientFd (.attaching header ringFd)) }
    serving := none
    overtaken := false }

-- The ring's descriptor is closed either way, and a failed `recvBuffersFrom` is followed by a release.
def attach (world : SetupWorld) (client : Nat) (clientFd : Int32) (header : SetupHeader) (ringFd copy : Int32)
    (address : Option Nat) : SetupWorld :=
  let object := world.objects (.descriptor ringFd)
  match world.source.pool.attachControlRing copy address with
  | (true, pool) =>
    let world := (world.names (.descriptor copy) object).names (.mapping (address.getD 0)) object
    match pool.recvBuffersFrom header.bufferCount header.config with
    | some pool =>
      (world.withSource { world.source.close ringFd with pool }).thread
        (.handling client clientFd (.receiving header 0))
    | none => (world.withSource { world.source.close ringFd with pool := pool.release }).thread (.closing clientFd)
  | (false, pool) => (world.withSource { world.source.close ringFd with pool }).thread (.closing clientFd)

def receiveBuffer (world : SetupWorld) (client : Nat) (clientFd : Int32) (header : SetupHeader)
    (index pointer : Nat) :
    Option SetupWorld :=
  match world.front client with
  | some (.buffer object) =>
    if index < header.bufferCount.toInt.toNat ∧ pointer ∉ world.source.pool.heldBuffers then
      some ((((world.consume client).names (.buffer pointer) object).withSource
        { world.source with pool := world.source.pool.recvEntry index pointer }).thread
          (.handling client clientFd (.receiving header (index + 1))))
    else none
  | _ => none

def failReceive (world : SetupWorld) (clientFd : Int32) (index : Nat) : SetupWorld :=
  (world.withSource { world.source with pool := (world.source.pool.dropReceived index).release }).thread
    (.closing clientFd)

-- The end of `recvBuffersFrom`, `initialize` of the HAL's interface and the store to `mActive`.
def activate (world : SetupWorld) (client : Nat) (clientFd : Int32) (header : SetupHeader) : SetupWorld :=
  let pool := { world.source.pool with bufferCount := header.bufferCount }
  match pool.controlRing with
  | none =>
    (world.withSource { world.source with pool := pool.release, halRing := none }).thread (.closing clientFd)
  | some address =>
    { (world.withSource { world.source with pool, halRing := some address, active := true }).thread
        (.handling client clientFd .acknowledging) with
      served := world.served ++ [client]
      serving := some client
      overtaken := world.source.stopping.any (· ≠ .deactivating) }

def acknowledge (world : SetupWorld) (client : Nat) (clientFd : Int32) : SetupWorld :=
  (world.setConnection client { world.connections client with acknowledged := true }).thread (.closing clientFd)

-- A failed call ends the connection; the result of sending the acknowledgement is not looked at.
def handle (world : SetupWorld) (client : Nat) (clientFd : Int32) (stage : Handling) (answer : SetupAnswer) :
    Option SetupWorld :=
  match stage, answer with
  | .header, .done => world.receiveHeader client clientFd
  | .ring header, .descriptor ringFd => world.receiveFdViaSCM client clientFd header ringFd
  | .locking header ringFd, .done => some (world.tearDown client clientFd header ringFd)
  | .attaching header ringFd, .attached copy address =>
    if copy < 0 ∨ world.source.fresh copy = true then some (world.attach client clientFd header ringFd copy address)
    else none
  | .receiving header index, .buffer pointer => world.receiveBuffer client clientFd header index pointer
  | .receiving header index, .failed =>
    if index < header.bufferCount.toInt.toNat then some (world.failReceive clientFd index) else none
  | .receiving header index, .done =>
    if header.bufferCount.toInt.toNat ≤ index then some (world.activate client clientFd header) else none
  | .acknowledging, .done => some (world.acknowledge client clientFd)
  | .acknowledging, .failed => some (world.thread (.closing clientFd))
  | .header, .failed => some (world.thread (.closing clientFd))
  | .ring _, .failed => some (world.thread (.closing clientFd))
  | _, _ => none

def acceptLoop (world : SetupWorld) (answer : SetupAnswer) : Accepting → Option SetupWorld
  | .checking => some (world.thread (if world.source.running then .accepting else .ended))
  | .accepting => some (world.thread .checking)
  | .handling client clientFd stage => world.handle client clientFd stage answer
  | .closing clientFd => some ((world.withSource (world.source.close clientFd)).thread .checking)
  | .ended => none

def accept (world : SetupWorld) (clientFd : Int32) : Option SetupWorld :=
  match world.source.thread, world.backlog with
  | some .accepting, client :: rest =>
    if 0 ≤ world.source.serverFd ∧ world.source.fresh clientFd = true then
      some (({ world with backlog := rest }.withSource (world.source.take clientFd)).thread
        (.handling client clientFd .header))
    else none
  | _, _ => none

def opened (world : SetupWorld) (number : Nat) (writer : VirtualCameraWriterV2) : SetupWorld :=
  { (world.setConnection world.nextConnection { offer := writer.offer number }).setWriter number
      { writer with socket := some world.nextConnection, call := some .header } with
    nextConnection := world.nextConnection + 1
    backlog := world.backlog ++ [world.nextConnection] }

def sends (world : SetupWorld) (number : Nat) (writer : VirtualCameraWriterV2) (client : Nat) (message : SetupMessage)
    (stage : WriterStage) : SetupWorld :=
  (world.setConnection client
    { world.connections client with sent := (world.connections client).sent ++ [message] }).setWriter number
      { writer with call := some stage.after }

def connectToHal (world : SetupWorld) (number : Nat) (writer : VirtualCameraWriterV2) (failed : Bool)
    (stage : WriterStage) : Option SetupWorld :=
  if failed then some (world.setWriter number writer.abandon)
  else
    match stage, writer.socket with
    | .opening, _ => if 0 ≤ world.source.serverFd then some (world.opened number writer) else none
    | .waiting, some client =>
      if (world.connections client).acknowledged then
        some (world.setWriter number { writer with initialized := true, call := none })
      else none
    | .buffers index, some client =>
      if writer.pool.bufferCount.toInt.toNat ≤ index then
        some (world.setWriter number { writer with call := some .waiting })
      else (writer.message number (.buffers index)).map fun message =>
        world.sends number writer client message (.buffers index)
    | stage, some client => (writer.message number stage).map fun message =>
        world.sends number writer client message stage
    | _, none => none

def perform (world : SetupWorld) : SetupLabel → Option SetupWorld
  | .start serverFd listening =>
    if world.source.stopping = none then some (world.withSource (world.source.start serverFd listening)) else none
  | .stop => if world.source.stopping = none then some (world.withSource world.source.stop) else none
  | .stopping =>
    world.source.stopping.bind fun stage => (world.source.proceed stage).map fun source =>
      match stage with
      | .deactivating => { world with source, overtaken := false }
      | .releasing => { world with source, serving := none }
      | _ => world.withSource source
  | .accept clientFd => world.accept clientFd
  | .thread answer => world.source.thread.bind (world.acceptLoop answer)
  | .initializePool number width height format bufferCount outcomes =>
    if (world.writers number).call = none then
      some (world.setWriter number ((world.writers number).initializePool width height format bufferCount outcomes))
    else none
  | .writer number failed =>
    (world.writers number).call.bind (world.connectToHal number (world.writers number) failed)
  | .shutdown number =>
    if (world.writers number).call = none then some (world.setWriter number (world.writers number).shutdown) else none

def Step (world : SetupWorld) (label : SetupLabel) (after : SetupWorld) : Prop := world.perform label = some after

end SetupWorld

end VirtualCamera
