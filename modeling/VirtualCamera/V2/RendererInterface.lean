import VirtualCamera.V2.HalInterface

set_option autoImplicit false

namespace VirtualCamera

namespace RendererInterface

open ControlRing (ReleaseSlot)

structure Frame where
  bufferIndex : Int32 := -1
  timestampNs : Int64 := 0
deriving DecidableEq

def Frame.valid (frame : Frame) : Bool := 0 ≤ frame.bufferIndex

inductive Event where
  | created (fd : Int32)
  | signalled (fd : Int32)
  | close (fd : Int32)
  | submitted (frame : Frame) (fenceFd : Int32)
deriving DecidableEq

inductive Call where
  | draining (timestampNs : Int64) (read : TryRead ReleaseSlot)
  | acquiring (timestampNs : Int64) (index : Nat)
  | submitting (frame : Frame) (fenceFd : Int32) (write : TryWrite ControlRing.Slot)
  | refused (frame : Frame) (fenceFd : Int32)

end RendererInterface

structure RendererInterface where
  bufferCount : Nat
  call : Option RendererInterface.Call := none
  -- The frames begun and not submitted: the application draws into their buffers.
  begun : List RendererInterface.Frame := []

namespace RendererInterface

open ControlRing (ReleaseSlot)

-- `timestampNs` is what the clock will read when a buffer is found.
def beginFrame (renderer : RendererInterface) (timestampNs : Int64) : RendererInterface :=
  { renderer with call := some (.draining timestampNs .start) }

-- `fenceFd` is what the sync extension gave, -1 without a fence.
def submitFrame (renderer : RendererInterface) (frame : Frame) (fenceFd : Int32) :
    RendererInterface × List Event :=
  let renderer := { renderer with begun := renderer.begun.erase frame }
  if frame.valid then
    ({ renderer with call := some (.submitting frame fenceFd (.start
        { bufferIndex := frame.bufferIndex.toUInt32, fenceFd, timestampNs := frame.timestampNs, flags := 0 })) },
      if 0 ≤ fenceFd then [.created fenceFd] else [])
  else (renderer, [])

def releaseBuffer (renderer : RendererInterface) (ring : ControlRing) (index : Int32) : ControlRing :=
  if 0 ≤ index ∧ index.toInt < renderer.bufferCount then
    { ring with bufferState := Function.update ring.bufferState index.toInt.toNat 0 }
  else ring

def step (renderer : RendererInterface) (ring : ControlRing) : Call → ControlRing × RendererInterface × List Event
  | .draining timestampNs read =>
    match read.step true ring.release with
    | (release, .running read) =>
      ({ ring with release }, { renderer with call := some (.draining timestampNs read) }, [])
    | (release, .done (some _)) =>
      ({ ring with release }, { renderer with call := some (.draining timestampNs .start) }, [])
    | (release, .done none) =>
      ({ ring with release }, { renderer with call := some (.acquiring timestampNs 0) }, [])
  | .acquiring timestampNs index =>
    if index < renderer.bufferCount then
      if ring.bufferState index = 0 then
        ({ ring with bufferState := Function.update ring.bufferState index 1 },
          { renderer with call := none
                          begun := renderer.begun ++ [{ bufferIndex := Int32.ofNat index, timestampNs }] }, [])
      else (ring, { renderer with call := some (.acquiring timestampNs (index + 1)) }, [])
    else (ring, { renderer with call := none }, [])
  | .submitting frame fenceFd write =>
    match write.step ring.submit with
    | (submit, .running write) =>
      ({ ring with submit }, { renderer with call := some (.submitting frame fenceFd write) }, [])
    | (submit, .done true) => ({ ring with submit }, { renderer with call := none }, [.submitted frame fenceFd])
    | (submit, .done false) => ({ ring with submit }, { renderer with call := some (.refused frame fenceFd) }, [])
  | .refused frame fenceFd =>
    (renderer.releaseBuffer ring frame.bufferIndex, { renderer with call := none },
      if 0 ≤ fenceFd then [.close fenceFd] else [])

end RendererInterface

end VirtualCamera
