import VirtualCamera.V2.ControlRing

set_option autoImplicit false

namespace VirtualCamera

structure ControlRing where
  submit : Ring ControlRing.Slot := { slots := fun _ => {} }
  release : Ring ControlRing.ReleaseSlot := { slots := fun _ => {} }
  bufferState : Nat → UInt8 := fun _ => 0

namespace ControlRing

def clearing : TryWrite ReleaseSlot → Bool
  | .storing _ _ stored => stored = 1
  | _ => false

def cleared : TryWrite ReleaseSlot → Bool
  | .storing _ _ stored => 1 < stored
  | _ => false

def tryWriteRelease (ring : ControlRing) (call : TryWrite ReleaseSlot) :
    ControlRing × CallState (TryWrite ReleaseSlot) Bool :=
  let index := call.value.bufferIndex.toNat
  let bufferState := if clearing call then Function.update ring.bufferState index 0 else ring.bufferState
  match call.step ring.release with
  | (release, progress) => ({ ring with release, bufferState }, progress)

end ControlRing

namespace HalInterface

open ControlRing (ReleaseSlot)

structure AcquiredFrame where
  bufferIndex : Int32 := -1
  buffer : Option Nat := none
  timestampNs : Int64 := 0
deriving DecidableEq

def AcquiredFrame.valid (frame : AcquiredFrame) : Bool := 0 ≤ frame.bufferIndex

-- What the HAL does beside its accesses to the rings: the descriptors it waits on and closes, the array elements it
-- uses and the frames it hands out, each with the fence it was submitted with.
inductive Event where
  | syncWait (fd : Int32)
  | close (fd : Int32)
  | bufferState (index : Nat)
  | buffers (index : Nat)
  | acquired (frame : AcquiredFrame) (fenceFd : Int32)
deriving DecidableEq

inductive Call where
  | draining (timeoutMs : Int) (latest : Option ControlRing.Slot) (read : TryRead ControlRing.Slot)
  | skipping (timeoutMs : Int) (latest : ControlRing.Slot) (write : TryWrite ReleaseSlot)
  | polling (timeoutMs waited : Int) (read : TryRead ControlRing.Slot)
  | next (timeoutMs : Int) (read : TryRead ControlRing.Slot)
  | delivering (slot : ControlRing.Slot)
  | releasing (write : TryWrite ReleaseSlot)

end HalInterface

structure HalInterface where
  bufferCount : Nat
  call : Option HalInterface.Call := none
  -- The valid frames that the caller has not released.
  held : List HalInterface.AcquiredFrame := []
  droppedFrames : UInt32 := 0
  frameCount : UInt32 := 0

namespace HalInterface

open ControlRing (ReleaseSlot)

def getBuffer (hal : HalInterface) (index : Int32) : Option Nat :=
  if index < 0 ∨ (hal.bufferCount : Int) ≤ index.toInt then none else some index.toInt.toNat

def fenceClosed (fd : Int32) : List Event := if 0 ≤ fd then [.close fd] else []

def acquireLatestFrame (hal : HalInterface) (timeoutMs : Int) : HalInterface :=
  { hal with call := some (.draining timeoutMs none .start) }

def acquireNextFrame (hal : HalInterface) (timeoutMs : Int) : HalInterface :=
  { hal with call := some (.next timeoutMs .start) }

def releaseFrame (hal : HalInterface) (frame : AcquiredFrame) : HalInterface :=
  let hal := { hal with held := hal.held.erase frame }
  if frame.valid then { hal with call := some (.releasing (.start { bufferIndex := frame.bufferIndex.toUInt32 })) }
  else hal

-- The wait for the fence, of which the result is dropped, and the frame that is returned.
def deliver (hal : HalInterface) (slot : ControlRing.Slot) : HalInterface × List Event :=
  let frame : AcquiredFrame :=
    { bufferIndex := slot.bufferIndex.toInt32, buffer := hal.getBuffer slot.bufferIndex.toInt32
      timestampNs := slot.timestampNs }
  let fence := if 0 ≤ slot.fenceFd then [.syncWait slot.fenceFd, .close slot.fenceFd] else []
  let held := if frame.valid then hal.held ++ [frame] else hal.held
  ({ hal with call := none, held, frameCount := hal.frameCount + 1 },
    fence ++ (frame.buffer.map Event.buffers).toList ++ [.acquired frame slot.fenceFd])

def step (hal : HalInterface) (ring : ControlRing) : Call → ControlRing × HalInterface × List Event
  | .draining timeoutMs latest read =>
    match read.step true ring.submit with
    | (submit, .running read) =>
      ({ ring with submit }, { hal with call := some (.draining timeoutMs latest read) }, [])
    | (submit, .done (some slot)) =>
      match latest with
      | none => ({ ring with submit }, { hal with call := some (.draining timeoutMs (some slot) .start) }, [])
      | some skipped =>
        ({ ring with submit },
          { hal with call := some (.skipping timeoutMs slot (.start { bufferIndex := skipped.bufferIndex })) },
          fenceClosed skipped.fenceFd)
    | (submit, .done none) =>
      match latest with
      | some slot => ({ ring with submit }, { hal with call := some (.delivering slot) }, [])
      | none =>
        ({ ring with submit },
          { hal with call := if 0 < timeoutMs then some (.polling timeoutMs 0 .start) else none }, [])
  | .skipping timeoutMs latest write =>
    let events := if ControlRing.clearing write then [.bufferState write.value.bufferIndex.toNat] else []
    match ring.tryWriteRelease write with
    | (ring, .running write) => (ring, { hal with call := some (.skipping timeoutMs latest write) }, events)
    | (ring, .done _) =>
      (ring, { hal with call := some (.draining timeoutMs (some latest) .start)
                        droppedFrames := hal.droppedFrames + 1 }, events)
  | .polling timeoutMs waited read =>
    match read.step true ring.submit with
    | (submit, .running read) =>
      ({ ring with submit }, { hal with call := some (.polling timeoutMs waited read) }, [])
    | (submit, .done (some slot)) => ({ ring with submit }, { hal with call := some (.delivering slot) }, [])
    | (submit, .done none) =>
      ({ ring with submit },
        { hal with
          call := if waited + 1 < timeoutMs then some (.polling timeoutMs (waited + 1) .start) else none }, [])
  | .next timeoutMs read =>
    match read.step true ring.submit with
    | (submit, .running read) => ({ ring with submit }, { hal with call := some (.next timeoutMs read) }, [])
    | (submit, .done (some slot)) => ({ ring with submit }, { hal with call := some (.delivering slot) }, [])
    | (submit, .done none) =>
      ({ ring with submit },
        { hal with call := if 0 < timeoutMs then some (.polling timeoutMs 0 .start) else none }, [])
  | .delivering slot => (ring, hal.deliver slot)
  | .releasing write =>
    let events := if ControlRing.clearing write then [.bufferState write.value.bufferIndex.toNat] else []
    match ring.tryWriteRelease write with
    | (ring, .running write) => (ring, { hal with call := some (.releasing write) }, events)
    | (ring, .done _) => (ring, { hal with call := none }, events)

end HalInterface

end VirtualCamera
