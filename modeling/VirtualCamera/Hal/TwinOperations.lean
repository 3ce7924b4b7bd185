import VirtualCamera.Hal.SlotTwins

set_option autoImplicit false

namespace VirtualCamera

open Descriptors Renaming

namespace StableHal

variable {names : Names} {device : Point → Prop} {slot : Slot} {final : Nat} {left right : StableHal}

theorem retireOwner_issues (hal : StableHal) (slot : Slot) (room : hal.nextIdentity < int64Max) :
    (hal.retireOwner slot).nextIdentity = hal.nextIdentity + 1 := by
  rw [retireOwner, if_pos room]

theorem revokeSlot_issues (hal : StableHal) (slot : Slot) (room : hal.nextIdentity < int64Max) :
    (hal.revokeSlot slot).nextIdentity = hal.nextIdentity + 1 := by
  rw [revokeSlot, retireOwner_issues]
  · rw [dropLatestLocked_nextIdentity]
    rfl
  · rw [dropLatestLocked_nextIdentity]
    exact room

theorem setCallback_twins (twins : Twins names device slot left right) (callback : Option Binder)
    (version : Option Int)
    (kept : (left.setCallback callback version).1 = .ok → left.callback = none ∨ left.callback = callback) :
    (left.setCallback callback version).1 = (right.setCallback callback version).1 ∧
      (left.setCallback callback version).2.1 = (right.setCallback callback version).2.1 ∧
      Together names device slot left right (left.setCallback callback version).2.2
        (right.setCallback callback version).2.2 := by
  simp only [setCallback, ← twins.callback] at kept ⊢
  generalize (if callback.isSome = true then version.getD 1 else 0) = ver at kept ⊢
  split
  next => exact ⟨rfl, rfl, twins.stay⟩
  next accepted =>
    rw [if_neg accepted] at kept
    have unreplaced : (left.callback.isSome && left.callback != callback) = false := by
      rcases kept rfl with absent | same
      · simp [absent]
      · simp [same]
    simp only [unreplaced, Bool.false_and, Bool.false_eq_true, if_false]
    exact ⟨trivial, trivial, .refl _ _, add_comm _ _, add_comm _ _, { twins with callback := rfl }⟩

theorem registerProducer_twins (twins : Twins names device slot left right) (ordered : names.Ordered)
    (descriptor : ProducerCapabilities) (owner : Option Binder) {index : Int}
    (here : validSlot index = some slot) :
    (left.registerProducer index descriptor owner).1 = (right.registerProducer index descriptor owner).1 ∧
      (left.registerProducer index descriptor owner).2.1 = (right.registerProducer index descriptor owner).2.1 ∧
      Together names device slot left right (left.registerProducer index descriptor owner).2.2
        (right.registerProducer index descriptor owner).2.2 := by
  simp only [registerProducer, here, ← twins.callback, ← twins.provider, ← twins.control.capabilities]
  split
  next => exact ⟨rfl, rfl, twins.stay⟩
  next =>
    split
    next => exact ⟨rfl, rfl, twins.stay⟩
    next =>
      refine ⟨rfl, rfl, twins.setControl ?_⟩
      exact { twins.control with capabilities := rfl, ready := rfl, configuration := ordered.none }

theorem removeProducer_twins (twins : Twins names device slot left right) (ordered : names.Ordered)
    (registration : Int) (owner : Option Binder) {index : Int} (here : validSlot index = some slot)
    (named : (left.removeProducer index registration owner).2.2.nextIdentity ≠ left.nextIdentity →
      (left.nextIdentity + 1, right.nextIdentity + 1) ∈ names.identities)
    (room : left.nextIdentity < int64Max) (room' : right.nextIdentity < int64Max)
    (agrees : Kernel.Agrees final left.kernel right.kernel)
    (used : (left.removeProducer index registration owner).2.2.kernel.calls ≤ final) :
    (left.removeProducer index registration owner).1 = (right.removeProducer index registration owner).1 ∧
      (left.removeProducer index registration owner).2.1 = (right.removeProducer index registration owner).2.1 ∧
      Together names device slot left right (left.removeProducer index registration owner).2.2
        (right.removeProducer index registration owner).2.2 := by
  simp only [removeProducer, here, ← twins.callback, ← twins.provider, ← twins.control.capabilities]
    at named used ⊢
  split
  next => exact ⟨rfl, rfl, twins.stay⟩
  next claimed =>
    rw [if_neg claimed] at named used
    split
    next => exact ⟨rfl, rfl, twins.stay⟩
    next current =>
      rw [if_neg current] at named used
      refine ⟨rfl, rfl, twins.revokeSlot ordered (named ?_) room room' agrees used⟩
      rw [revokeSlot_issues left slot room]
      omega

theorem setConfigurationReady_twins (twins : Twins names device slot left right) (ordered : names.Ordered)
    {token other : Int} (named : (token, other) ∈ names.identities) (ready : Bool) {index : Int}
    (here : validSlot index = some slot) (agrees : Kernel.Agrees final left.kernel right.kernel)
    (used : (left.setConfigurationReady index token ready).2.kernel.calls ≤ final) :
    (left.setConfigurationReady index token ready).1 = (right.setConfigurationReady index other ready).1 ∧
      Together names device slot left right (left.setConfigurationReady index token ready).2
        (right.setConfigurationReady index other ready).2 := by
  have refused : (other ≤ 0 ∨ (right.slots slot).configuration ≠ other ∨ (right.slots slot).capabilities.isNone ∨
      (right.slots slot).ownerClosed) ↔ (token ≤ 0 ∨ (left.slots slot).configuration ≠ token ∨
        (left.slots slot).capabilities.isNone ∨ (left.slots slot).ownerClosed) := by
    rw [ne_eq, ne_eq, ordered.identities.eq_iff twins.control.configuration named,
      ordered.identities.le_iff named ordered.none, twins.control.capabilities, twins.control.ownerClosed]
  simp only [setConfigurationReady, here, refused] at used ⊢
  split
  next => exact ⟨rfl, twins.stay⟩
  next accepted =>
    rw [if_neg accepted] at used
    have readied : SlotControl.Alike names { left.slots slot with ready } { right.slots slot with ready } :=
      { twins.control with ready := rfl }
    have first := twins.setControl readied
    split
    next => exact ⟨rfl, first⟩
    next waits =>
      rw [if_neg waits] at used
      have cleared : SlotControl.Alike names { left.slots slot with ready, configuration := 0 }
          { right.slots slot with ready, configuration := 0 } :=
        { readied with configuration := ordered.none }
      have second := first.trans (first.twins.setControl cleared)
      exact ⟨rfl, second.trans (second.twins.drop ordered agrees used)⟩

theorem setCameraPresent_twins (twins : Twins names device slot left right) (ordered : names.Ordered)
    (present : Bool) {index : Int} (here : validSlot index = some slot)
    (named : (left.setCameraPresent index present).2.nextIdentity ≠ left.nextIdentity →
      (left.nextIdentity + 1, right.nextIdentity + 1) ∈ names.identities)
    (room : left.nextIdentity < int64Max) (room' : right.nextIdentity < int64Max)
    (agrees : Kernel.Agrees final left.kernel right.kernel)
    (used : (left.setCameraPresent index present).2.kernel.calls ≤ final) :
    (left.setCameraPresent index present).1 = (right.setCameraPresent index present).1 ∧
      Together names device slot left right (left.setCameraPresent index present).2
        (right.setCameraPresent index present).2 := by
  have alike : SlotControl.Alike names
      { left.slots slot with configuration := 0, ready := false, ownerClosed := true }
      { right.slots slot with configuration := 0, ready := false, ownerClosed := true } :=
    { twins.control with configuration := ordered.none, ready := rfl, ownerClosed := rfl }
  have closed := twins.setControl alike
  have owned : 0 < (right.slots slot).sessionOwner ↔ 0 < (left.slots slot).sessionOwner :=
    (ordered.pos_iff twins.control.sessionOwner).symm
  simp only [setCameraPresent, here, ← twins.provider, owned] at named used ⊢
  split
  next => exact ⟨rfl, twins.stay⟩
  next standalone =>
    rw [if_neg standalone] at named used
    split
    next => exact ⟨rfl, twins.stay⟩
    next gone =>
      rw [if_neg gone] at named used
      split
      next held =>
        rw [if_pos held] at named used
        rw [dropLatestLocked_nextIdentity] at named
        have issued : (left.nextIdentity + 1, right.nextIdentity + 1) ∈ names.identities := by
          refine named (ne_of_eq_of_ne (retireOwner_issues _ slot room) ?_)
          change left.nextIdentity + 1 ≠ left.nextIdentity
          omega
        have retired := closed.trans (closed.twins.retireOwner issued room room')
        exact ⟨rfl, retired.trans (retired.twins.drop ordered (agrees.together retired.kernels) used)⟩
      next free =>
        rw [if_neg free] at used
        exact ⟨rfl, closed.trans (closed.twins.drop ordered agrees used)⟩

theorem messages_alike {message other : HalMessage} (alike : HalMessage.Alike names message other)
    {callback : Option Binder} : Option.Rel (MessageAlike names) (callback.map fun cb => (cb, message))
      (callback.map fun cb => (cb, other)) := by
  cases callback with
  | none => exact .none
  | some cb => exact .some ⟨rfl, alike⟩

theorem allocateSessionIdentity_twins (twins : Twins names device slot left right)
    (named : left.allocateSessionIdentity.2.nextIdentity ≠ left.nextIdentity →
      (left.nextIdentity + 1, right.nextIdentity + 1) ∈ names.identities)
    (room : left.nextIdentity < int64Max) (room' : right.nextIdentity < int64Max) :
    (left.allocateSessionIdentity.1, right.allocateSessionIdentity.1) ∈ names.identities ∧
      Together names device slot left right left.allocateSessionIdentity.2 right.allocateSessionIdentity.2 := by
  simp only [allocateSessionIdentity, room.ne, room'.ne, if_false] at named ⊢
  refine ⟨named (by omega), .refl _ _, ?_, add_comm _ _, { twins with }⟩
  dsimp only
  omega

theorem notifyStreamsConfigured_twins (twins : Twins names device slot left right) (ordered : names.Ordered)
    {owner other : Int} (owners : (owner, other) ∈ names.identities) (width height fps : Int) {index : Int}
    (here : validSlot index = some slot)
    (named : (left.notifyStreamsConfigured index owner width height fps).2.2.nextIdentity ≠ left.nextIdentity →
      (left.nextIdentity + 1, right.nextIdentity + 1) ∈ names.identities)
    (room : left.nextIdentity < int64Max) (room' : right.nextIdentity < int64Max)
    (agrees : Kernel.Agrees final left.kernel right.kernel)
    (used : (left.notifyStreamsConfigured index owner width height fps).2.2.kernel.calls ≤ final) :
    ((left.notifyStreamsConfigured index owner width height fps).1,
        (right.notifyStreamsConfigured index other width height fps).1) ∈ names.identities ∧
      Option.Rel (MessageAlike names) (left.notifyStreamsConfigured index owner width height fps).2.1
        (right.notifyStreamsConfigured index other width height fps).2.1 ∧
      Together names device slot left right (left.notifyStreamsConfigured index owner width height fps).2.2
        (right.notifyStreamsConfigured index other width height fps).2.2 := by
  have refused : (other ≤ 0 ∨ other < (right.slots slot).sessionOwner ∨
      (other = (right.slots slot).sessionOwner ∧ (right.slots slot).ownerClosed) ∨ right.nextIdentity = int64Max) ↔
      (owner ≤ 0 ∨ owner < (left.slots slot).sessionOwner ∨
        (owner = (left.slots slot).sessionOwner ∧ (left.slots slot).ownerClosed) ∨
          left.nextIdentity = int64Max) := by
    rw [ordered.identities.le_iff owners ordered.none, ordered.identities.lt_iff owners twins.control.sessionOwner,
      ordered.identities.eq_iff owners twins.control.sessionOwner, twins.control.ownerClosed,
      iff_of_false room.ne room'.ne]
  simp only [notifyStreamsConfigured, here, refused] at named used ⊢
  split
  next => exact ⟨ordered.none, .none, twins.stay⟩
  next accepted =>
    rw [if_neg accepted] at named used
    have issued : (left.nextIdentity + 1, right.nextIdentity + 1) ∈ names.identities := by
      refine named ?_
      rw [dropLatestLocked_nextIdentity]
      change left.nextIdentity + 1 ≠ left.nextIdentity
      omega
    have stepped : Together names device slot left right { left with nextIdentity := left.nextIdentity + 1 }
        { right with nextIdentity := right.nextIdentity + 1 } := by
      refine ⟨.refl _ _, ?_, add_comm _ _, { twins with }⟩
      dsimp only
      omega
    have alike : SlotControl.Alike names
        { left.slots slot with
          sessionOwner := owner
          ownerClosed := false
          configuration := left.nextIdentity + 1
          ready := (left.slots slot).capabilities.isNone
          sourceWidth := width
          sourceHeight := height }
        { right.slots slot with
          sessionOwner := other
          ownerClosed := false
          configuration := right.nextIdentity + 1
          ready := (right.slots slot).capabilities.isNone
          sourceWidth := width
          sourceHeight := height } :=
      { sessionOwner := owners
        configuration := issued
        ownerClosed := rfl
        capabilities := twins.control.capabilities
        ready := congrArg Option.isNone twins.control.capabilities
        sourceWidth := rfl
        sourceHeight := rfl }
    have configured := stepped.trans (stepped.twins.setControl alike)
    have dropped := configured.trans (configured.twins.drop ordered agrees used)
    refine ⟨issued, ?_, dropped⟩
    rw [← dropped.twins.callback, ← twins.control.capabilities]
    refine messages_alike ?_
    cases (left.slots slot).capabilities with
    | none => exact .configuredForConfiguration slot width height fps issued
    | some caps =>
      dsimp only
      split
      next => exact .configuredForProducer slot _ width height fps issued
      next => exact .configuredForConfiguration slot width height fps issued

theorem notifyCameraClosed_twins (twins : Twins names device slot left right) (ordered : names.Ordered)
    {owner other token token' : Int} (owners : (owner, other) ∈ names.identities)
    (tokens : (token, token') ∈ names.identities) {index : Int} (here : validSlot index = some slot)
    (agrees : Kernel.Agrees final left.kernel right.kernel)
    (used : (left.notifyCameraClosed index owner token).2.kernel.calls ≤ final) :
    Option.Rel (MessageAlike names) (left.notifyCameraClosed index owner token).1
        (right.notifyCameraClosed index other token').1 ∧
      Together names device slot left right (left.notifyCameraClosed index owner token).2
        (right.notifyCameraClosed index other token').2 := by
  have refused : (other ≤ 0 ∨ token' ≤ 0 ∨ (right.slots slot).sessionOwner ≠ other ∨
      (right.slots slot).configuration ≠ token') ↔
        (owner ≤ 0 ∨ token ≤ 0 ∨ (left.slots slot).sessionOwner ≠ owner ∨
        (left.slots slot).configuration ≠ token) := by
    refine or_congr ?_ (or_congr ?_ (or_congr ?_ ?_))
    · exact (ordered.identities.le_iff owners ordered.none).symm
    · exact (ordered.identities.le_iff tokens ordered.none).symm
    · exact (not_congr (ordered.identities.eq_iff twins.control.sessionOwner owners)).symm
    · exact (not_congr (ordered.identities.eq_iff twins.control.configuration tokens)).symm
  simp only [notifyCameraClosed, here, refused] at used ⊢
  split
  next => exact ⟨.none, twins.stay⟩
  next accepted =>
    rw [if_neg accepted] at used
    have alike : SlotControl.Alike names
        { left.slots slot with configuration := 0, ready := false, ownerClosed := true }
        { right.slots slot with configuration := 0, ready := false, ownerClosed := true } :=
      { twins.control with configuration := ordered.none, ready := rfl, ownerClosed := rfl }
    have closed := twins.setControl alike
    have dropped := closed.trans (closed.twins.drop ordered agrees used)
    refine ⟨?_, dropped⟩
    rw [← dropped.twins.callback, ← twins.control.capabilities]
    refine messages_alike ?_
    cases (left.slots slot).capabilities with
    | none => exact .closedForConfiguration slot tokens
    | some caps =>
      dsimp only
      split
      next => exact .closedForProducer slot _ tokens
      next => exact .closedForConfiguration slot tokens

theorem admitted_twins (twins : Twins names device slot left right) (ordered : names.Ordered)
    {frame other : Submission}
    (alike : frame.Alike names device left.kernel right.kernel other) :
    left.admitted slot frame = right.admitted slot other := by
  have named := alike.configurationToken
  have configured : ((left.slots slot).configuration == frame.configurationToken) =
      ((right.slots slot).configuration == other.configurationToken) := by
    rw [Bool.eq_iff_iff, beq_iff_eq, beq_iff_eq]
    exact ordered.identities.eq_iff twins.control.configuration named
  have unowned : ((left.slots slot).sessionOwner == 0) = ((right.slots slot).sessionOwner == 0) := by
    rw [Bool.eq_iff_iff, beq_iff_eq, beq_iff_eq]
    exact ordered.identities.eq_iff twins.control.sessionOwner ordered.none
  simp only [admitted, configured, unowned, ordered.pos_iff named, twins.provider, twins.control.capabilities,
    twins.control.ready, twins.control.sourceWidth, twins.control.sourceHeight, alike.width, alike.height,
      alike.format]

theorem reject_twins (twins : Twins names device slot left right) {frame other : Submission}
    (alike : frame.Alike names device left.kernel right.kernel other) (code : Nat) :
    EnqueueResult.Alike names device (left.reject frame code).2.kernel (right.reject other code).2.kernel
        (left.reject frame code).1 (right.reject other code).1 ∧
      Together names device slot left right (left.reject frame code).2 (right.reject other code).2 := by
  have released := twins.releaseBuffer frame.ahb
  have closed := released.trans (released.twins.closeFd alike.acquireFence)
  refine ⟨.returned _ .none, ?_⟩
  simp only [reject, ← alike.ahb]
  exact closed

theorem reject_calls (hal : StableHal) (frame : Submission) (code : Nat) :
    (hal.reject frame code).2.kernel.calls = hal.kernel.calls := closeFd_calls _ _

theorem swapFrame_framesReceived (hal : StableHal) (slot : Slot) (frame : Submission) :
    (hal.swapFrame slot frame).framesReceived = hal.framesReceived + 1 := by
  simp only [swapFrame, closeFd_framesReceived, releaseIfHeld_framesReceived]
  rfl

theorem swapFrame_twins (twins : Twins names device slot left right) {frame other : Submission}
    (alike : frame.Alike names device left.kernel right.kernel other)
    (named : (left.framesReceived + 1, right.framesReceived + 1) ∈ names.sequences) :
    Together names device slot left right (left.swapFrame slot frame) (right.swapFrame slot other) := by
  have counted : Together names device slot left right { left with framesReceived := left.framesReceived + 1 }
      { right with framesReceived := right.framesReceived + 1 } := by
    refine ⟨.refl _ _, add_comm _ _, ?_, { twins with }⟩
    dsimp only
    omega
  have incoming : Frame.Alike names device left.kernel right.kernel
      { ahb := some frame.ahb
        timestampNs := frame.timestampNs
        acquireFence := frame.acquireFence
        sequence := left.framesReceived + 1
        configurationToken := frame.configurationToken }
      { ahb := some other.ahb
        timestampNs := other.timestampNs
        acquireFence := other.acquireFence
        sequence := right.framesReceived + 1
        configurationToken := other.configurationToken } :=
    ⟨congrArg some alike.ahb, alike.timestampNs, named, alike.configurationToken, alike.acquireFence, .nil,
      rfl, rfl⟩
  have stored := counted.trans (counted.twins.setFrame incoming)
  have released := stored.trans (stored.twins.releaseIfHeld (left.latest slot).ahb)
  have old := fence_together twins.frame.acquireFence released.kernels
  simp only [swapFrame, ← twins.frame.ahb]
  exact released.trans (released.twins.closeFd old)

theorem swapFrame_calls (hal : StableHal) (slot : Slot) (frame : Submission) :
    (hal.swapFrame slot frame).kernel.calls = hal.kernel.calls := by
  simp only [swapFrame, closeFd_calls, releaseIfHeld_kernel]
  rfl

theorem reap_calls_le_commit {hal : StableHal} {slot : Slot} {frame : Submission}
    (admitted : hal.admitted slot frame = true) :
    (hal.reapRetiringLocked slot).2.kernel.calls ≤ (hal.enqueueCommit slot frame).2.kernel.calls := by
  have merging := (consolidateReadFences_later (hal.reapRetiringLocked slot).2.kernel
    ((hal.reapRetiringLocked slot).2.latest slot).readFences).calls
  simp only [enqueueCommit, admitted, Bool.not_true, Bool.false_eq_true, if_false]
  split
  next => exact (reject_calls _ _ _).ge
  next =>
    split
    next =>
      rw [reject_calls]
      exact merging
    next =>
      rw [swapFrame_calls]
      exact merging

theorem calls_le_commit (hal : StableHal) (slot : Slot) (frame : Submission) :
    hal.kernel.calls ≤ (hal.enqueueCommit slot frame).2.kernel.calls := by
  cases admitted : hal.admitted slot frame with
  | true => exact (calls_le_reap hal slot).trans (reap_calls_le_commit admitted)
  | false =>
    simp only [enqueueCommit, admitted, Bool.not_false, if_true]
    exact (reject_calls _ _ _).ge

theorem enqueueCommit_twins (twins : Twins names device slot left right) (ordered : names.Ordered)
    {frame other : Submission} (alike : frame.Alike names device left.kernel right.kernel other)
    (named : (left.enqueueCommit slot frame).2.framesReceived ≠ left.framesReceived →
      (left.framesReceived + 1, right.framesReceived + 1) ∈ names.sequences)
    (agrees : Kernel.Agrees final left.kernel right.kernel)
    (used : (left.enqueueCommit slot frame).2.kernel.calls ≤ final) :
    EnqueueResult.Alike names device (left.enqueueCommit slot frame).2.kernel
      (right.enqueueCommit slot other).2.kernel
        (left.enqueueCommit slot frame).1 (right.enqueueCommit slot other).1 ∧
      Together names device slot left right (left.enqueueCommit slot frame).2
        (right.enqueueCommit slot other).2 := by
  cases admitted : left.admitted slot frame with
  | false =>
    simp only [enqueueCommit, ← admitted_twins twins ordered alike, admitted, Bool.not_false, if_true]
    exact reject_twins twins alike 7
  | true =>
    have asked := (reap_calls_le_commit admitted).trans used
    simp only [enqueueCommit, ← admitted_twins twins ordered alike, admitted, Bool.not_true, Bool.false_eq_true,
      if_false] at named used ⊢
    obtain ⟨reaped, moved⟩ := twins.reap ordered agrees asked
    rw [← (reapRetiringLocked_passes left slot).framesReceived,
      ← (reapRetiringLocked_passes right slot).framesReceived]
      at named
    rw [← reaped]
    generalize left.reapRetiringLocked slot = result at moved named used
    generalize right.reapRetiringLocked slot = result' at moved named
    obtain ⟨answer, left'⟩ := result
    obtain ⟨answer', right'⟩ := result'
    have alike' := alike.together moved.kernels
    dsimp only at moved named used ⊢
    split
    next =>
      obtain ⟨results, rejected⟩ := reject_twins moved.twins alike' 4
      exact ⟨results, moved.trans rejected⟩
    next live =>
      rw [if_neg live] at named used
      have consolidating :
          (consolidateReadFences left'.kernel (left'.latest slot).readFences).2.2.calls ≤ final := by
        refine le_trans ?_ used
        split
        next =>
          rw [reject_calls]
          exact le_rfl
        next =>
          rw [swapFrame_calls]
          exact le_rfl
      have stored := moved.twins.frame
      obtain ⟨kernels, merged, kept⟩ := consolidateReadFences_same moved.twins.work stored.readFences
        (agrees.together moved.kernels) consolidating
      rw [← merged]
      generalize consolidateReadFences left'.kernel (left'.latest slot).readFences = result at kernels kept named
      generalize consolidateReadFences right'.kernel (right'.latest slot).readFences = result' at kernels kept
      obtain ⟨merged, fences, kernel⟩ := result
      obtain ⟨merged', others, kernel'⟩ := result'
      have onward := moved.trans (moved.twins.onward kernels)
      have still := stored.together kernels
      have submitted := alike'.together kernels
      dsimp only at named ⊢
      split
      next =>
        have keeping : Frame.Alike names device kernel kernel' { left'.latest slot with readFences := fences }
            { right'.latest slot with readFences := others } := { still with readFences := kept }
        have held := onward.trans (onward.twins.setFrame keeping)
        obtain ⟨results, rejected⟩ := reject_twins held.twins submitted 6
        exact ⟨results, held.trans rejected⟩
      next whole =>
        rw [if_neg whole] at named
        have emptied : Frame.Alike names device kernel kernel' { left'.latest slot with readFences := [] }
            { right'.latest slot with readFences := [] } := { still with readFences := .nil }
        have held := onward.trans (onward.twins.setFrame emptied)
        have swapped := swapFrame_twins held.twins submitted (named ?_)
        · refine ⟨.returned _ ?_, held.trans swapped⟩
          exact last_alike (alikes_together kept swapped.kernels)
        · rw [swapFrame_framesReceived]
          exact Nat.succ_ne_self _

theorem enqueueWake_twins (twins : Twins names device slot left right) (ordered : names.Ordered)
    {frame other : Submission} (alike : frame.Alike names device left.kernel right.kernel other) (timedOut : Bool)
    (named : (left.enqueueWake slot frame timedOut).2.framesReceived ≠ left.framesReceived →
      (left.framesReceived + 1, right.framesReceived + 1) ∈ names.sequences)
    (agrees : Kernel.Agrees final left.kernel right.kernel)
    (used : (left.enqueueWake slot frame timedOut).2.kernel.calls ≤ final) :
    EnqueueResult.Alike names device (left.enqueueWake slot frame timedOut).2.kernel
        (right.enqueueWake slot other timedOut).2.kernel
        (left.enqueueWake slot frame timedOut).1 (right.enqueueWake slot other timedOut).1 ∧
      Together names device slot left right (left.enqueueWake slot frame timedOut).2
        (right.enqueueWake slot other timedOut).2 := by
  simp only [enqueueWake, ← twins.frame.inflight] at named used ⊢
  split
  next idle =>
    rw [if_pos idle] at named used
    exact enqueueCommit_twins twins ordered alike named agrees used
  next =>
    split
    next => exact reject_twins twins alike 4
    next => exact ⟨.waiting alike, twins.stay⟩

theorem enqueue_twins (twins : Twins names device slot left right) (ordered : names.Ordered) (handle : Bool)
    (imported : Option Ahb) (width height format timestampNs : Int) {fence fence' : Option Fd}
    (fences : Option.Rel (Kernel.Alike device left.kernel right.kernel) fence fence') {token other : Int}
    (tokens : (token, other) ∈ names.identities)
    (named : (left.enqueue slot handle imported width height format timestampNs fence token).2.framesReceived ≠
      left.framesReceived → (left.framesReceived + 1, right.framesReceived + 1) ∈ names.sequences)
    (agrees : Kernel.Agrees final left.kernel right.kernel)
    (used : (left.enqueue slot handle imported width height format timestampNs fence token).2.kernel.calls ≤ final) :
    EnqueueResult.Alike names device
        (left.enqueue slot handle imported width height format timestampNs fence token).2.kernel
        (right.enqueue slot handle imported width height format timestampNs fence' other).2.kernel
        (left.enqueue slot handle imported width height format timestampNs fence token).1
        (right.enqueue slot handle imported width height format timestampNs fence' other).1 ∧
      Together names device slot left right
        (left.enqueue slot handle imported width height format timestampNs fence token).2
        (right.enqueue slot handle imported width height format timestampNs fence' other).2 := by
  cases handle with
  | false =>
    simp only [enqueue, Bool.not_false, if_true]
    exact ⟨.returned _ .none, twins.closeFd fences⟩
  | true =>
    cases imported with
    | none =>
      simp only [enqueue, Bool.not_true, Bool.false_eq_true, if_false]
      exact ⟨.returned _ .none, twins.closeFd fences⟩
    | some ahb =>
      have taken := twins.acquireBuffer ahb
      have alike : Submission.Alike names device (left.acquireBuffer ahb).kernel (right.acquireBuffer ahb).kernel
          { ahb, width, height, format, timestampNs, acquireFence := fence, configurationToken := token }
          { ahb, width, height, format, timestampNs, acquireFence := fence', configurationToken := other } :=
        ⟨rfl, rfl, rfl, rfl, rfl, fences, tokens⟩
      have same := admitted_twins taken.twins ordered alike
      simp only [enqueue, Bool.not_true, Bool.false_eq_true, if_false, ← same] at named used ⊢
      split
      next =>
        obtain ⟨results, rejected⟩ := reject_twins taken.twins alike 7
        exact ⟨results, taken.trans rejected⟩
      next admitted =>
        rw [if_neg admitted] at named used
        have asked : ((left.acquireBuffer ahb).reapRetiringLocked slot).2.kernel.calls ≤ final := by
          refine le_trans ?_ used
          split
          next => exact (reject_calls _ _ _).ge
          next =>
            split
            next => exact le_rfl
            next => exact calls_le_commit _ slot _
        obtain ⟨reaped, reaping⟩ := taken.twins.reap ordered agrees asked
        have moved := taken.trans reaping
        have leftCount : _ = left.framesReceived :=
          (reapRetiringLocked_passes (left.acquireBuffer ahb) slot).framesReceived
        have rightCount : _ = right.framesReceived :=
          (reapRetiringLocked_passes (right.acquireBuffer ahb) slot).framesReceived
        rw [← leftCount, ← rightCount] at named
        rw [← reaped]
        generalize (left.acquireBuffer ahb).reapRetiringLocked slot = result at moved named used reaping
        generalize (right.acquireBuffer ahb).reapRetiringLocked slot = result' at moved named reaping
        obtain ⟨answer, left'⟩ := result
        obtain ⟨answer', right'⟩ := result'
        have waiting := alike.together reaping.kernels
        dsimp only at moved named used ⊢
        rw [← moved.twins.frame.ahb, ← moved.twins.frame.inflight]
        split
        next =>
          obtain ⟨results, rejected⟩ := reject_twins moved.twins waiting 4
          exact ⟨results, moved.trans rejected⟩
        next live =>
          rw [if_neg live] at named used
          split
          next => exact ⟨.waiting waiting, moved⟩
          next idle =>
            rw [if_neg idle] at named used
            obtain ⟨results, committed⟩ :=
              enqueueCommit_twins moved.twins ordered waiting named (agrees.together moved.kernels) used
            exact ⟨results, moved.trans committed⟩

theorem setFrame_kernel (hal : StableHal) (slot : Slot) (frame : Frame) :
    (hal.setFrame slot frame).kernel = hal.kernel :=
  rfl

theorem fence_isSome {device : Point → Prop} {left right : Kernel} {fence other : Option Fd}
    (alike : Option.Rel (Kernel.Alike device left right) fence other) : fence.isSome = other.isSome := by
  cases alike <;> rfl

theorem acquireLatest_twins (twins : Twins names device slot left right) (ordered : names.Ordered)
    (wantsFence wantsSequence : Bool) {afterSequence afterSequence' : Nat}
    (sequences : (afterSequence, afterSequence') ∈ names.sequences) {token other : Int}
    (tokens : (token, other) ∈ names.identities) {index : Int} (here : validSlot index = some slot)
    (agrees : Kernel.Agrees final left.kernel right.kernel)
    (used : (left.acquireLatest index wantsFence wantsSequence afterSequence token).2.kernel.calls ≤ final) :
    Option.Rel (Acquired.Alike names device
        (left.acquireLatest index wantsFence wantsSequence afterSequence token).2.kernel
        (right.acquireLatest index wantsFence wantsSequence afterSequence' other).2.kernel)
        (left.acquireLatest index wantsFence wantsSequence afterSequence token).1
        (right.acquireLatest index wantsFence wantsSequence afterSequence' other).1 ∧
      Together names device slot left right
        (left.acquireLatest index wantsFence wantsSequence afterSequence token).2
        (right.acquireLatest index wantsFence wantsSequence afterSequence' other).2 := by
  have stored := twins.frame
  have refused : ((right.latest slot).configurationToken ≠ other ∨
        (0 < other ∧ (right.slots slot).configuration ≠ other)) ↔
      ((left.latest slot).configurationToken ≠ token ∨ (0 < token ∧ (left.slots slot).configuration ≠ token)) := by
    refine or_congr ?_ (and_congr ?_ ?_)
    · exact (not_congr (ordered.identities.eq_iff stored.configurationToken tokens)).symm
    · exact (ordered.pos_iff tokens).symm
    · exact (not_congr (ordered.identities.eq_iff twins.control.configuration tokens)).symm
  have older : (right.latest slot).sequence ≤ afterSequence' ↔ (left.latest slot).sequence ≤ afterSequence :=
    (ordered.sequences.le_iff stored.sequence sequences).symm
  simp only [acquireLatest, here, refused, ← stored.ahb, ← stored.retiring, older] at used ⊢
  split
  next => exact ⟨.none, twins.stay⟩
  next current =>
    rw [if_neg current] at used
    cases present : (left.latest slot).ahb with
    | none => exact ⟨.none, twins.stay⟩
    | some ahb =>
      simp only [present] at used ⊢
      split
      next => exact ⟨.none, twins.stay⟩
      next live =>
        rw [if_neg live] at used
        split
        next => exact ⟨.none, twins.stay⟩
        next newer =>
          rw [if_neg newer] at used
          have asked : (consolidateReadFences left.kernel (left.latest slot).readFences).2.2.calls ≤ final := by
            refine le_trans ?_ used
            split
            next => exact le_rfl
            next =>
              split
              next => exact le_rfl
              next => split <;> exact (duplicateAcquireFence_later _ _).calls
          obtain ⟨kernels, merged, kept⟩ := consolidateReadFences_same twins.work stored.readFences agrees asked
          generalize consolidateReadFences left.kernel (left.latest slot).readFences = result at kernels kept used
          generalize consolidateReadFences right.kernel (right.latest slot).readFences = result' at kernels kept
          obtain ⟨merged, fences, kernel⟩ := result
          obtain ⟨merged', others, kernel'⟩ := result'
          have keeping : Frame.Alike names device kernel kernel'
              { left.latest slot with ahb := some ahb, readFences := fences }
              { right.latest slot with
                ahb := some ahb
                readFences := others
                inflight := (left.latest slot).inflight
                retiring := (left.latest slot).retiring } :=
            { stored.together kernels with ahb := rfl, readFences := kept, inflight := rfl, retiring := rfl }
          have onward := twins.onward kernels
          have held := onward.trans (onward.twins.setFrame keeping)
          dsimp only at used ⊢
          rw [← kept.length_eq, ← stored.inflight, ← fence_isSome stored.acquireFence]
          split
          next => exact ⟨.none, held⟩
          next short =>
            rw [if_neg short] at used
            split
            next => exact ⟨.none, held⟩
            next wanted =>
              rw [if_neg wanted] at used
              have asking : (duplicateAcquireFence kernel (left.latest slot).acquireFence).2.2.calls ≤ final := by
                refine le_trans ?_ used
                split <;> exact le_rfl
              obtain ⟨copying, answer, copies⟩ := duplicateAcquireFence_same keeping.acquireFence
                (agrees.together held.kernels) asking
              have duplicated := held.trans (held.twins.onward copying)
              cases copied : (duplicateAcquireFence kernel (left.latest slot).acquireFence).1 with
              | false =>
                simp only [setFrame_kernel, copied, ← answer, Bool.not_false, if_true]
                exact ⟨.none, duplicated⟩
              | true =>
                simp only [setFrame_kernel, copied, ← answer, Bool.not_true, Bool.false_eq_true, if_false]
                have taken := duplicated.trans (duplicated.twins.acquireBuffer ahb)
                have reading : Frame.Alike names device
                    (duplicateAcquireFence kernel (left.latest slot).acquireFence).2.2
                    (duplicateAcquireFence kernel' (right.latest slot).acquireFence).2.2
                    { left.latest slot with
                      ahb := some ahb
                      readFences := fences
                      inflight := (left.latest slot).inflight + 1 }
                    { right.latest slot with
                      ahb := some ahb
                      readFences := others
                      inflight := (left.latest slot).inflight + 1
                      retiring := (left.latest slot).retiring } :=
                  { keeping.together copying with inflight := rfl }
                refine ⟨.some ⟨rfl, stored.timestampNs, stored.sequence, copies⟩, ?_⟩
                exact taken.trans (taken.twins.setFrame reading)

theorem closeAll_twins (twins : Twins names device slot left right) {fences others : List Fd}
    (alike : List.Forall₂ (Kernel.Alike device left.kernel right.kernel) fences others) :
    Together names device slot left right (left.closeAll fences) (right.closeAll others) := by
  induction fences generalizing left right others with
  | nil =>
    cases alike
    exact twins.stay
  | cons fence rest ih =>
    cases alike with
    | cons here later =>
      have closed := twins.closeFd (.some here)
      exact closed.trans (ih closed.twins (alikes_together later closed.kernels))

theorem releaseFrame_twins (twins : Twins names device slot left right) (ordered : names.Ordered) (ahb : Ahb)
    {fences others : List Fd} (alike : List.Forall₂ (Kernel.Alike device left.kernel right.kernel) fences others)
    {index : Int} (here : validSlot index = some slot) (agrees : Kernel.Agrees final left.kernel right.kernel)
    (used : (left.releaseFrame index ahb fences).kernel.calls ≤ final) :
    Together names device slot left right (left.releaseFrame index ahb fences)
      (right.releaseFrame index ahb others) := by
  have stored := twins.frame
  cases found : ((left.latest slot).ahb == some ahb) with
  | false =>
    simp only [releaseFrame, here, Option.filter, ← stored.ahb, found, Bool.false_eq_true, if_false]
    have closed := closeAll_twins twins alike
    exact closed.trans (closed.twins.releaseBuffer ahb)
  | true =>
    simp only [releaseFrame, here, Option.filter, ← stored.ahb, ← stored.inflight, found, if_true] at used ⊢
    have asked : (consolidateReadFences left.kernel ((left.latest slot).readFences ++ fences)).2.2.calls ≤ final :=
      (calls_le_reap _ slot).trans used
    obtain ⟨kernels, merged, kept⟩ := consolidateReadFences_same twins.work
      (List.rel_append stored.readFences alike) agrees asked
    generalize consolidateReadFences left.kernel ((left.latest slot).readFences ++ fences) = result
      at kernels kept used
    generalize consolidateReadFences right.kernel ((right.latest slot).readFences ++ others) = result'
      at kernels kept
    obtain ⟨merged, fences, kernel⟩ := result
    obtain ⟨merged', others, kernel'⟩ := result'
    have onward := twins.onward kernels
    have returned : Frame.Alike names device kernel kernel'
        { left.latest slot with readFences := fences, inflight := (left.latest slot).inflight - 1 }
        { right.latest slot with
          ahb := (left.latest slot).ahb
          readFences := others
          inflight := (left.latest slot).inflight - 1 } :=
      { stored.together kernels with ahb := rfl, readFences := kept, inflight := rfl }
    have held := onward.trans (onward.twins.setFrame returned)
    have reaped := held.trans (held.twins.reap ordered (agrees.together held.kernels) used).2
    exact reaped.trans (reaped.twins.releaseBuffer ahb)

structure SameAnswers (names : Names) (slot : Slot) (left right : StableHal) : Prop where
  hasFrame : left.hasFrame (slot : Nat) = right.hasFrame (slot : Nat)
  isFrameCurrent : ∀ (buffer : Ahb) (sequence other : Nat) (token token' : Int),
    (sequence, other) ∈ names.sequences → (token, token') ∈ names.identities →
      left.isFrameCurrent (slot : Nat) buffer sequence token =
        right.isFrameCurrent (slot : Nat) buffer other token'
  registrationCurrent : ∀ registration,
    left.registrationCurrent (slot : Nat) registration = right.registrationCurrent (slot : Nat) registration

theorem Twins.answers (twins : Twins names device slot left right) (ordered : names.Ordered) :
    SameAnswers names slot left right where
  hasFrame := by simp only [hasFrame, validSlot_coe, Option.any_some, twins.frame.ahb, twins.frame.retiring]
  isFrameCurrent buffer sequence other token token' sequences tokens := by
    have stored : ((left.latest slot).sequence == sequence) = ((right.latest slot).sequence == other) := by
      rw [Bool.eq_iff_iff, beq_iff_eq, beq_iff_eq]
      exact ordered.sequences.eq_iff twins.frame.sequence sequences
    have tagged : ((left.latest slot).configurationToken == token) =
        ((right.latest slot).configurationToken == token') := by
      rw [Bool.eq_iff_iff, beq_iff_eq, beq_iff_eq]
      exact ordered.identities.eq_iff twins.frame.configurationToken tokens
    have configured : ((left.slots slot).configuration == token) =
        ((right.slots slot).configuration == token') := by
      rw [Bool.eq_iff_iff, beq_iff_eq, beq_iff_eq]
      exact ordered.identities.eq_iff twins.control.configuration tokens
    have untagged : (token == 0) = (token' == 0) := by
      rw [Bool.eq_iff_iff, beq_iff_eq, beq_iff_eq]
      exact ordered.identities.eq_iff tokens ordered.none
    simp only [isFrameCurrent, validSlot_coe, Option.any_some, stored, tagged, configured, untagged,
      twins.frame.ahb, twins.frame.retiring]
  registrationCurrent registration := by
    simp only [registrationCurrent, StableHal.capabilities, validSlot_coe, Option.bind_some,
      twins.control.capabilities]

end StableHal

end VirtualCamera
