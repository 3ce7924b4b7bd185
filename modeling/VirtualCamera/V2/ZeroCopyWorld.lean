import VirtualCamera.Shared.Runs
import VirtualCamera.V2.RendererInterface

set_option autoImplicit false

namespace VirtualCamera

-- The two processes over one control block. Each makes one call at a time; the history keeps what they do beside
-- their accesses to the rings.
structure ZeroCopyWorld where
  ring : ControlRing := {}
  hal : HalInterface
  renderer : RendererInterface
  history : List (RendererInterface.Event ⊕ HalInterface.Event) := []

inductive ZeroCopyMove where
  | beginFrame (timestampNs : Int64)
  | submitFrame (place : Nat) (fenceFd : Int32)
  | renderer
  | acquireLatestFrame (timeoutMs : Int)
  | acquireNextFrame (timeoutMs : Int)
  | releaseFrame (place : Nat)
  | hal
  | signal (fd : Int32)
deriving DecidableEq

namespace ZeroCopyWorld

-- After `allocate` in one process and `recvBuffersFrom` in the other.
def boot (bufferCount : Nat) : ZeroCopyWorld where
  hal := { bufferCount }
  renderer := { bufferCount }

def rendered (world : ZeroCopyWorld) (result : ControlRing × RendererInterface × List RendererInterface.Event) :
    ZeroCopyWorld :=
  { world with ring := result.1, renderer := result.2.1, history := world.history ++ result.2.2.map .inl }

def consumed (world : ZeroCopyWorld) (result : ControlRing × HalInterface × List HalInterface.Event) :
    ZeroCopyWorld :=
  { world with ring := result.1, hal := result.2.1, history := world.history ++ result.2.2.map .inr }

def perform (world : ZeroCopyWorld) : ZeroCopyMove → Option ZeroCopyWorld
  | .beginFrame timestampNs =>
    if world.renderer.call.isSome then none
    else some { world with renderer := world.renderer.beginFrame timestampNs }
  | .submitFrame place fenceFd =>
    if world.renderer.call.isSome then none
    else world.renderer.begun[place]?.map fun frame =>
      world.rendered (world.ring, world.renderer.submitFrame frame fenceFd)
  | .renderer => world.renderer.call.map fun call => world.rendered (world.renderer.step world.ring call)
  | .acquireLatestFrame timeoutMs =>
    if world.hal.call.isSome then none else some { world with hal := world.hal.acquireLatestFrame timeoutMs }
  | .acquireNextFrame timeoutMs =>
    if world.hal.call.isSome then none else some { world with hal := world.hal.acquireNextFrame timeoutMs }
  | .releaseFrame place =>
    if world.hal.call.isSome then none
    else world.hal.held[place]?.map fun frame => { world with hal := world.hal.releaseFrame frame }
  | .hal => world.hal.call.map fun call => world.consumed (world.hal.step world.ring call)
  | .signal fd =>
    if world.history.contains (.inl (.created fd)) then some
      (world.rendered (world.ring, world.renderer, [.signalled fd]))
    else none

def Step (world : ZeroCopyWorld) (move : ZeroCopyMove) (after : ZeroCopyWorld) : Prop :=
  world.perform move = some after

end ZeroCopyWorld

end VirtualCamera
