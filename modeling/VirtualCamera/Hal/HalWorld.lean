import VirtualCamera.Hal.Operations
import VirtualCamera.Hal.Submission
import VirtualCamera.Shared.Runs

set_option autoImplicit false

namespace VirtualCamera

open Descriptors Runs

structure Reservation where
  slot : Slot
  ahb : Ahb
  sequence : Nat
deriving DecidableEq, Repr

structure ReadFence where
  slot : Slot
  sequence : Nat
  fd : Fd
deriving DecidableEq, Repr

-- The HAL with its callers: who is inside `enqueue`, who is reading, and which descriptors are theirs.
-- The last two fields record what the HAL was given and what it gave back.
structure HalWorld where
  hal : StableHal := {}
  waiting : List (Slot × Submission) := []
  readers : List Reservation := []
  callers : Multiset Fd := 0
  contributed : List ReadFence := []
  retired : List ReadFence := []

inductive HalEvent where
  | control (op : ControlOp)
  | enqueue (slot : Slot) (handle : Bool) (imported : Option Ahb) (width height format timestampNs : Int)
      (acquireFence : Option Fd) (configurationToken : Int)
  | wake (slot : Slot) (frame : Submission) (timedOut : Bool)
  | acquire (slot : Int) (wantsFence wantsSequence : Bool) (afterSequence : Nat) (configurationToken : Int)
  | release (reservation : Reservation) (readFences : List Fd)
  -- Device work finishes; a caller opens or closes a descriptor of its own.
  | signal (point : Point)
  | create (points : List Point)
  | close (fd : Fd)

namespace HalWorld

def boot (provider : Bool) (outcome : Nat → Bool) : HalWorld :=
  { hal := { provider, kernel := { outcome } } }

def waitingFences (world : HalWorld) : Multiset Fd :=
  (world.waiting.flatMap fun entry => entry.2.acquireFence.toList : List Fd)

def answer (world : HalWorld) (slot : Slot) : EnqueueResult × StableHal → HalWorld
  | (.waiting frame, hal) => { world with hal, waiting := (slot, frame) :: world.waiting }
  | (.returned _ fence, hal) =>
    { world with
      hal
      callers := (fence.toList : Multiset Fd) + world.callers
      retired :=
        fence.toList.map (fun fd => ⟨slot, (world.hal.latest slot).sequence, fd⟩) ++ world.retired }

def grant (world : HalWorld) (slot : Int) : Option Acquired × StableHal → HalWorld
  | (none, hal) => { world with hal }
  | (some acquired, hal) =>
    { world with
      hal
      readers := (validSlot slot).toList.map (fun slot => ⟨slot, acquired.ahb, acquired.sequence⟩) ++
        world.readers
      callers := (acquired.acquireFence.toList : Multiset Fd) + world.callers }

def perform (world : HalWorld) : HalEvent → HalWorld
  | .control op => { world with hal := op.run world.hal }
  | .enqueue slot handle imported width height format timestampNs acquireFence configurationToken =>
    { world with callers := world.callers - (acquireFence.toList : Multiset Fd) }.answer slot
      (world.hal.enqueue slot handle imported width height format timestampNs acquireFence
        configurationToken)
  | .wake slot frame timedOut =>
    { world with waiting := world.waiting.erase (slot, frame) }.answer slot
      (world.hal.enqueueWake slot frame timedOut)
  | .acquire slot wantsFence wantsSequence afterSequence configurationToken =>
    world.grant slot
      (world.hal.acquireLatest slot wantsFence wantsSequence afterSequence configurationToken)
  | .release reservation readFences =>
    { world with
      hal := world.hal.releaseFrame reservation.slot reservation.ahb readFences
      readers := world.readers.erase reservation
      callers := world.callers - (readFences : Multiset Fd)
      contributed :=
        readFences.map (fun fd => ⟨reservation.slot, reservation.sequence, fd⟩) ++ world.contributed }
  | .signal point => { world with hal := { world.hal with kernel := world.hal.kernel.signal point } }
  | .create points =>
    { world with
      hal := { world.hal with kernel := (world.hal.kernel.create points).2 }
      callers := (world.hal.kernel.create points).1 ::ₘ world.callers }
  | .close fd =>
    { world with hal := { world.hal with kernel := world.hal.kernel.close fd }, callers := world.callers.erase fd }

-- Callers pass and close only what they own, wake only while they wait, and release each
-- reservation once.
def Allowed (world : HalWorld) : HalEvent → Prop
  | .enqueue _ _ _ _ _ _ _ acquireFence _ => (acquireFence.toList : Multiset Fd) ≤ world.callers
  | .wake slot frame _ => (slot, frame) ∈ world.waiting
  | .release reservation readFences =>
    reservation ∈ world.readers ∧ (readFences : Multiset Fd) ≤ world.callers
  | .close fd => fd ∈ world.callers
  | _ => True

instance (world : HalWorld) : (event : HalEvent) → Decidable (world.Allowed event)
  | .enqueue _ _ _ _ _ _ _ acquireFence _ =>
    inferInstanceAs (Decidable ((acquireFence.toList : Multiset Fd) ≤ world.callers))
  | .wake slot frame _ => inferInstanceAs (Decidable ((slot, frame) ∈ world.waiting))
  | .release reservation readFences =>
    inferInstanceAs (Decidable (reservation ∈ world.readers ∧ (readFences : Multiset Fd) ≤ world.callers))
  | .close fd => inferInstanceAs (Decidable (fd ∈ world.callers))
  | .control _ | .acquire .. | .signal _ | .create _ => inferInstanceAs (Decidable True)

def Step (world : HalWorld) (event : HalEvent) (after : HalWorld) : Prop :=
  world.Allowed event ∧ after = world.perform event

def performAll (world : HalWorld) (events : List HalEvent) : HalWorld := events.foldl perform world

def Legal (world : HalWorld) : List HalEvent → Prop
  | [] => True
  | event :: events => world.Allowed event ∧ (world.perform event).Legal events

instance decidableLegal (world : HalWorld) : (events : List HalEvent) → Decidable (world.Legal events)
  | [] => inferInstanceAs (Decidable True)
  | event :: events =>
    have := decidableLegal (world.perform event) events
    inferInstanceAs (Decidable (world.Allowed event ∧ (world.perform event).Legal events))

theorem Legal.run {world : HalWorld} {events : List HalEvent} (legal : world.Legal events) :
    Run Step world events (world.performAll events) := by
  induction events generalizing world with
  | nil => exact .refl
  | cons event events ih => exact (Run.single ⟨legal.1, rfl⟩).append (ih legal.2)

def Covers (world : HalWorld) (fence : ReadFence) : Prop :=
  world.hal.kernel.ready fence.fd = true ∨
    ((world.hal.latest fence.slot).sequence = fence.sequence ∧
      world.hal.kernel.Covered (world.hal.latest fence.slot).readFences fence.fd) ∨
    ∃ keeper ∈ world.retired, keeper.slot = fence.slot ∧ keeper.sequence = fence.sequence ∧
      world.hal.kernel.points fence.fd ⊆ world.hal.kernel.points keeper.fd

structure Sound (world : HalWorld) : Prop where
  owned : world.hal.Owned (world.waitingFences + world.callers)
  counted : ∀ slot, (world.hal.latest slot).inflight =
    world.readers.countP fun reservation => decide (reservation.slot = slot)
  stored : ∀ reservation ∈ world.readers,
    (world.hal.latest reservation.slot).ahb = some reservation.ahb ∧
      (world.hal.latest reservation.slot).sequence = reservation.sequence
  opened : ∀ fence ∈ world.contributed ++ world.retired, fence.fd < world.hal.kernel.next
  covered : ∀ fence ∈ world.contributed, world.Covers fence

end HalWorld

end VirtualCamera
