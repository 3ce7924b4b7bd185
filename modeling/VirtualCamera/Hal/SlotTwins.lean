import VirtualCamera.Core.ReadFenceTwins
import VirtualCamera.Hal.Configurations
import VirtualCamera.Shared.Renaming

set_option autoImplicit false

namespace VirtualCamera

open Descriptors Renaming

-- The numbers that stand for each other in two runs: tokens and identities, and the sequences of frames.
structure Names where
  identities : List (Int × Int)
  sequences : List (Nat × Nat)

structure Names.Ordered (names : Names) : Prop where
  identities : InOrder names.identities
  sequences : InOrder names.sequences
  none : (0, 0) ∈ names.identities
  empty : (0, 0) ∈ names.sequences

section Alike

variable (names : Names) (device : Point → Prop) (left right : Kernel)

structure SlotControl.Alike (control other : SlotControl) : Prop where
  sessionOwner : (control.sessionOwner, other.sessionOwner) ∈ names.identities
  configuration : (control.configuration, other.configuration) ∈ names.identities
  ownerClosed : control.ownerClosed = other.ownerClosed
  capabilities : control.capabilities = other.capabilities
  ready : control.ready = other.ready
  sourceWidth : control.sourceWidth = other.sourceWidth
  sourceHeight : control.sourceHeight = other.sourceHeight

structure Frame.Alike (frame other : Frame) : Prop where
  ahb : frame.ahb = other.ahb
  timestampNs : frame.timestampNs = other.timestampNs
  sequence : (frame.sequence, other.sequence) ∈ names.sequences
  configurationToken : (frame.configurationToken, other.configurationToken) ∈ names.identities
  acquireFence : Option.Rel (Kernel.Alike device left right) frame.acquireFence other.acquireFence
  readFences : List.Forall₂ (Kernel.Alike device left right) frame.readFences other.readFences
  inflight : frame.inflight = other.inflight
  retiring : frame.retiring = other.retiring

structure Submission.Alike (frame other : Submission) : Prop where
  ahb : frame.ahb = other.ahb
  width : frame.width = other.width
  height : frame.height = other.height
  format : frame.format = other.format
  timestampNs : frame.timestampNs = other.timestampNs
  acquireFence : Option.Rel (Kernel.Alike device left right) frame.acquireFence other.acquireFence
  configurationToken : (frame.configurationToken, other.configurationToken) ∈ names.identities

inductive EnqueueResult.Alike : EnqueueResult → EnqueueResult → Prop where
  | returned (status : Status) {fence other : Option Fd}
      (fences : Option.Rel (Kernel.Alike device left right) fence other) :
      Alike (.returned status fence) (.returned status other)
  | waiting {frame other : Submission} (alike : Submission.Alike names device left right frame other) :
      Alike (.waiting frame) (.waiting other)

structure Acquired.Alike (acquired other : Acquired) : Prop where
  ahb : acquired.ahb = other.ahb
  timestampNs : acquired.timestampNs = other.timestampNs
  sequence : (acquired.sequence, other.sequence) ∈ names.sequences
  acquireFence : Option.Rel (Kernel.Alike device left right) acquired.acquireFence other.acquireFence

inductive HalMessage.Alike : HalMessage → HalMessage → Prop where
  | configuredForProducer (slot : Slot) (registration width height fps : Int) {token other : Int}
      (named : (token, other) ∈ names.identities) :
      Alike (.streamsConfiguredForProducer slot registration token width height fps)
        (.streamsConfiguredForProducer slot registration other width height fps)
  | configuredForConfiguration (slot : Slot) (width height fps : Int) {token other : Int}
      (named : (token, other) ∈ names.identities) :
      Alike (.streamsConfiguredForConfiguration slot token width height fps)
        (.streamsConfiguredForConfiguration slot other width height fps)
  | closedForProducer (slot : Slot) (registration : Int) {token other : Int}
      (named : (token, other) ∈ names.identities) :
      Alike (.cameraClosedForProducer slot registration token) (.cameraClosedForProducer slot registration other)
  | closedForConfiguration (slot : Slot) {token other : Int} (named : (token, other) ∈ names.identities) :
      Alike (.cameraClosedForConfiguration slot token) (.cameraClosedForConfiguration slot other)

structure MessageAlike (message other : Binder × HalMessage) : Prop where
  callback : message.1 = other.1
  message : HalMessage.Alike names message.2 other.2

end Alike

structure Names.Within (names later : Names) : Prop where
  identities : names.identities ⊆ later.identities
  sequences : names.sequences ⊆ later.sequences

section Frames

variable {names : Names} {device : Point → Prop} {left right left' right' : Kernel}

theorem fence_imp {fence other : Option Fd} (alike : Option.Rel (Kernel.Alike device left right) fence other)
    (step : ∀ fd fd', Kernel.Alike device left right fd fd' → Kernel.Alike device left' right' fd fd') :
    Option.Rel (Kernel.Alike device left' right') fence other := by
  cases alike with
  | none => exact .none
  | some here => exact .some (step _ _ here)

theorem fence_together {fence other : Option Fd} (alike : Option.Rel (Kernel.Alike device left right) fence other)
    (together : Kernel.Together left right left' right') :
    Option.Rel (Kernel.Alike device left' right') fence other :=
  fence_imp alike fun _ _ here => here.later together.first together.second

theorem Frame.Alike.imp {frame other : Frame} (alike : frame.Alike names device left right other)
    (step : ∀ fd fd', Kernel.Alike device left right fd fd' → Kernel.Alike device left' right' fd fd') :
    frame.Alike names device left' right' other :=
  { alike with
    acquireFence := fence_imp alike.acquireFence step
    readFences := alike.readFences.imp step }

theorem Frame.Alike.together {frame other : Frame} (alike : frame.Alike names device left right other)
    (together : Kernel.Together left right left' right') : frame.Alike names device left' right' other :=
  alike.imp fun _ _ here => here.later together.first together.second

theorem Submission.Alike.together {frame other : Submission} (alike : frame.Alike names device left right other)
    (together : Kernel.Together left right left' right') : frame.Alike names device left' right' other :=
  { alike with acquireFence := fence_together alike.acquireFence together }

theorem Frame.Alike.mono {later : Names} {frame other : Frame} (alike : frame.Alike names device left right other)
    (within : names.Within later) : frame.Alike later device left right other :=
  { alike with
    sequence := within.sequences alike.sequence
    configurationToken := within.identities alike.configurationToken }

theorem Submission.Alike.mono {later : Names} {frame other : Submission}
    (alike : frame.Alike names device left right other) (within : names.Within later) :
    frame.Alike later device left right other :=
  { alike with configurationToken := within.identities alike.configurationToken }

theorem SlotControl.Alike.mono {later : Names} {control other : SlotControl} (alike : control.Alike names other)
    (within : names.Within later) : control.Alike later other :=
  { alike with
    sessionOwner := within.identities alike.sessionOwner
    configuration := within.identities alike.configuration }

theorem Names.Ordered.empty_frame (ordered : names.Ordered) : Frame.Alike names device left right {} {} :=
  ⟨rfl, rfl, ordered.empty, ordered.none, .none, .nil, rfl, rfl⟩

theorem Names.Ordered.pos_iff (ordered : names.Ordered) {identity other : Int}
    (named : (identity, other) ∈ names.identities) :
    0 < identity ↔ 0 < other := ordered.identities.lt_iff ordered.none named

end Frames

namespace StableHal

structure Twins (names : Names) (device : Point → Prop) (slot : Slot) (left right : StableHal) : Prop where
  provider : left.provider = right.provider
  callback : left.callback = right.callback
  control : SlotControl.Alike names (left.slots slot) (right.slots slot)
  frame : Frame.Alike names device left.kernel right.kernel (left.latest slot) (right.latest slot)
  work : Kernel.SameWork device left.kernel right.kernel

structure Together (names : Names) (device : Point → Prop) (slot : Slot)
    (left right left' right' : StableHal) : Prop where
  kernels : Kernel.Together left.kernel right.kernel left'.kernel right'.kernel
  identities : left'.nextIdentity + right.nextIdentity = right'.nextIdentity + left.nextIdentity
  received : left'.framesReceived + right.framesReceived = right'.framesReceived + left.framesReceived
  twins : Twins names device slot left' right'

structure Kept (names : Names) (device : Point → Prop) (slot : Slot)
    (left right left' right' : StableHal) : Prop where
  identities : left'.nextIdentity + right.nextIdentity = right'.nextIdentity + left.nextIdentity
  received : left'.framesReceived + right.framesReceived = right'.framesReceived + left.framesReceived
  twins : Twins names device slot left' right'

variable {names : Names} {device : Point → Prop} {slot : Slot} {final : Nat}
  {left right left' right' left'' right'' : StableHal}

theorem Together.kept (together : Together names device slot left right left' right') :
    Kept names device slot left right left' right' :=
  ⟨together.identities, together.received, together.twins⟩

theorem Twins.signal (twins : Twins names device slot left right) (point : Point) :
    Twins names device slot { left with kernel := left.kernel.signal point }
      { right with kernel := right.kernel.signal point } :=
  { twins with
    frame := twins.frame.imp fun _ _ here => ⟨here.opened, here.points, here.device⟩
    work := fun other here => by
      by_cases same : other = point
      · simp [Kernel.signal, same]
      · simpa [Kernel.signal, Function.update_of_ne same] using twins.work other here }

theorem Together.trans (first : Together names device slot left right left' right')
    (second : Together names device slot left' right' left'' right'') :
    Together names device slot left right left'' right'' where
  kernels := first.kernels.trans second.kernels
  identities := by
    have early := first.identities
    have late := second.identities
    omega
  received := by
    have early := first.received
    have late := second.received
    omega
  twins := second.twins

theorem Twins.mono {later : Names} (twins : Twins names device slot left right) (within : names.Within later) :
    Twins later device slot left right :=
  { twins with control := twins.control.mono within, frame := twins.frame.mono within }

theorem Twins.stay (twins : Twins names device slot left right) :
    Together names device slot left right left right :=
  ⟨.refl _ _, add_comm _ _, add_comm _ _, twins⟩

theorem Twins.setFrame (twins : Twins names device slot left right) {frame other : Frame}
    (alike : Frame.Alike names device left.kernel right.kernel frame other) :
    Together names device slot left right (left.setFrame slot frame) (right.setFrame slot other) where
  kernels := .refl _ _
  identities := add_comm _ _
  received := add_comm _ _
  twins := { twins with frame := by simpa [StableHal.setFrame] using alike }

theorem Twins.setControl (twins : Twins names device slot left right) {control other : SlotControl}
    (alike : SlotControl.Alike names control other) :
    Together names device slot left right (left.setControl slot control) (right.setControl slot other) where
  kernels := .refl _ _
  identities := add_comm _ _
  received := add_comm _ _
  twins := { twins with control := by simpa [StableHal.setControl] using alike }

theorem Twins.onward (twins : Twins names device slot left right) {kernel other : Kernel}
    (kernels : Kernel.Together left.kernel right.kernel kernel other) :
    Together names device slot left right { left with kernel } { right with kernel := other } where
  kernels := kernels
  identities := add_comm _ _
  received := add_comm _ _
  twins := { twins with
    frame := twins.frame.together kernels
    work := twins.work.later kernels.first kernels.second }

theorem Twins.closeFd (twins : Twins names device slot left right) {fence other : Option Fd}
    (alike : Option.Rel (Kernel.Alike device left.kernel right.kernel) fence other) :
    Together names device slot left right (left.closeFd fence) (right.closeFd other) := by
  cases alike with
  | none => exact twins.stay
  | some here => exact twins.onward (Kernel.close_together _ _ _ _)

theorem Twins.releaseBuffer (twins : Twins names device slot left right) (ahb : Ahb) :
    Together names device slot left right (left.releaseBuffer ahb) (right.releaseBuffer ahb) :=
  ⟨.refl _ _, add_comm _ _, add_comm _ _, { twins with }⟩

theorem Twins.acquireBuffer (twins : Twins names device slot left right) (ahb : Ahb) :
    Together names device slot left right (left.acquireBuffer ahb) (right.acquireBuffer ahb) :=
  ⟨.refl _ _, add_comm _ _, add_comm _ _, { twins with }⟩

theorem Twins.releaseIfHeld (twins : Twins names device slot left right) (ahb : Option Ahb) :
    Together names device slot left right (left.releaseIfHeld ahb) (right.releaseIfHeld ahb) := by
  cases ahb with
  | none => exact twins.stay
  | some ahb => exact twins.releaseBuffer ahb

theorem closeFd_calls (hal : StableHal) (fence : Option Fd) :
    (hal.closeFd fence).kernel.calls = hal.kernel.calls := by
  cases fence <;> rfl

theorem reap_calls (hal : StableHal) (slot : Slot) :
    (hal.reapRetiringLocked slot).2.kernel.calls =
      if (hal.latest slot).retiring then (pruneReadFences hal.kernel (hal.latest slot).readFences).2.calls
      else hal.kernel.calls := by
  cases retiring : (hal.latest slot).retiring with
  | false => simp [reapRetiringLocked, retiring]
  | true =>
    simp only [reapRetiringLocked, retiredFrameReady, retiring, Bool.not_true, Bool.false_eq_true, if_false,
      if_true]
    split
    next => rfl
    next => simp only [StableHal.setFrame, closeFd_calls, releaseIfHeld_kernel]

theorem calls_le_reap (hal : StableHal) (slot : Slot) :
    hal.kernel.calls ≤ (hal.reapRetiringLocked slot).2.kernel.calls := by
  rw [reap_calls]
  split
  next => exact (pruneReadFences_later _ _).calls
  next => exact le_rfl

theorem Twins.reap (twins : Twins names device slot left right) (ordered : names.Ordered)
    (agrees : Kernel.Agrees final left.kernel right.kernel)
    (used : (left.reapRetiringLocked slot).2.kernel.calls ≤ final) :
    (left.reapRetiringLocked slot).1 = (right.reapRetiringLocked slot).1 ∧
      Together names device slot left right (left.reapRetiringLocked slot).2
        (right.reapRetiringLocked slot).2 := by
  have frame := twins.frame
  have retires := frame.retiring
  rw [reap_calls] at used
  cases retiring : (left.latest slot).retiring with
  | false =>
    rw [retiring] at retires
    simp only [reapRetiringLocked, retiring, ← retires, Bool.not_false, if_true]
    exact ⟨trivial, twins.stay⟩
  | true =>
    rw [retiring] at retires
    rw [retiring, if_pos rfl] at used
    obtain ⟨kernels, kept⟩ := pruneReadFences_same twins.work frame.readFences agrees used
    simp only [reapRetiringLocked, retiredFrameReady, retiring, ← retires, ← frame.inflight, ← frame.ahb]
    generalize pruneReadFences left.kernel (left.latest slot).readFences = pruned at kernels kept
    generalize pruneReadFences right.kernel (right.latest slot).readFences = pruned' at kernels kept
    obtain ⟨fences, after⟩ := pruned
    obtain ⟨others, after'⟩ := pruned'
    have onward := twins.onward kernels
    have empty : fences.isEmpty = others.isEmpty := by cases kept <;> rfl
    simp only [Bool.not_true, Bool.false_eq_true, if_false, ← empty]
    split
    next =>
      refine ⟨rfl, onward.trans (onward.twins.setFrame ?_)⟩
      exact { frame.together kernels with ahb := rfl, inflight := rfl, retiring := rfl, readFences := kept }
    next =>
      have released := onward.twins.releaseIfHeld (left.latest slot).ahb
      have closed := released.twins.closeFd (fence_together frame.acquireFence (kernels.trans released.kernels))
      exact ⟨rfl, ((onward.trans released).trans closed).trans (closed.twins.setFrame ordered.empty_frame)⟩

theorem Twins.drop (twins : Twins names device slot left right) (ordered : names.Ordered)
    (agrees : Kernel.Agrees final left.kernel right.kernel)
    (used : (left.dropLatestLocked slot).kernel.calls ≤ final) :
    Together names device slot left right (left.dropLatestLocked slot) (right.dropLatestLocked slot) := by
  have alike : Frame.Alike names device left.kernel right.kernel { left.latest slot with retiring := true }
      { right.latest slot with retiring := true } := { twins.frame with retiring := rfl }
  have retiring := twins.setFrame alike
  exact retiring.trans (retiring.twins.reap ordered agrees used).2

theorem retireOwner_kernel (hal : StableHal) (slot : Slot) : (hal.retireOwner slot).kernel = hal.kernel := by
  unfold StableHal.retireOwner
  split <;> rfl

theorem Twins.retireOwner (twins : Twins names device slot left right)
    (named : (left.nextIdentity + 1, right.nextIdentity + 1) ∈ names.identities)
    (room : left.nextIdentity < int64Max) (room' : right.nextIdentity < int64Max) :
    Together names device slot left right (left.retireOwner slot) (right.retireOwner slot) := by
  simp only [StableHal.retireOwner, room, room', if_true]
  have alike : SlotControl.Alike names { left.slots slot with sessionOwner := left.nextIdentity + 1 }
      { right.slots slot with sessionOwner := right.nextIdentity + 1 } :=
    { twins.control with sessionOwner := named }
  have owned := twins.setControl alike
  refine ⟨owned.kernels, ?_, owned.received, { owned.twins with }⟩
  dsimp only
  omega

theorem Twins.revokeSlot (twins : Twins names device slot left right) (ordered : names.Ordered)
    (named : (left.nextIdentity + 1, right.nextIdentity + 1) ∈ names.identities)
    (room : left.nextIdentity < int64Max) (room' : right.nextIdentity < int64Max)
    (agrees : Kernel.Agrees final left.kernel right.kernel) (used : (left.revokeSlot slot).kernel.calls ≤ final) :
    Together names device slot left right (left.revokeSlot slot) (right.revokeSlot slot) := by
  have alike : SlotControl.Alike names
      { left.slots slot with configuration := 0, ownerClosed := true, ready := false, capabilities := none }
      { right.slots slot with configuration := 0, ownerClosed := true, ready := false, capabilities := none } :=
    { twins.control with configuration := ordered.none, ownerClosed := rfl, ready := rfl, capabilities := rfl }
  have cleared := twins.setControl alike
  rw [StableHal.revokeSlot, retireOwner_kernel] at used
  have dropped := cleared.trans (cleared.twins.drop ordered agrees used)
  refine dropped.trans (dropped.twins.retireOwner ?_ ?_ ?_)
  next =>
    rw [dropLatestLocked_nextIdentity, dropLatestLocked_nextIdentity]
    exact named
  next =>
    rw [dropLatestLocked_nextIdentity]
    exact room
  next =>
    rw [dropLatestLocked_nextIdentity]
    exact room'

end StableHal

end VirtualCamera
