import Mathlib.Algebra.BigOperators.Group.Finset.Basic
import Mathlib.Data.Fintype.Basic
import VirtualCamera.Hal.StableHal

set_option autoImplicit false

namespace VirtualCamera

open Descriptors

namespace Frame

def fences (frame : Frame) : Multiset Fd :=
  (frame.acquireFence.toList : Multiset Fd) + (frame.readFences : Multiset Fd)

def Formed (frame : Frame) : Prop := frame.ahb = none → frame = {}

-- The frame is not on offer: there is none, or it only waits for its readers.
def Gone (frame : Frame) : Prop := frame.ahb = none ∨ frame.retiring = true

def Same (before after : Frame) : Prop :=
  after.ahb = before.ahb ∧ after.timestampNs = before.timestampNs ∧ after.sequence = before.sequence ∧
    after.configurationToken = before.configurationToken

def Idle (frame : Frame) : Prop := frame.ahb.isSome = true → frame.inflight = 0

inductive Tidied (kernel : Kernel) (before after : Frame) : Prop where
  | kept (fences : List Fd) (retiring : Bool) (present : before.ahb.isSome = true)
      (latched : before.retiring = true → retiring = true)
      (same : after = { before with readFences := fences, retiring })
      (covered : ∀ fd ∈ before.readFences, kernel.Covered fences fd)
  | reaped (idle : before.inflight = 0) (gone : after = {})
      (signalled : ∀ fd ∈ before.readFences, kernel.ready fd = true)

variable {kernel : Kernel} {before middle after : Frame}

theorem tidied_refl (formed : before.Formed) : Tidied kernel before before := by
  cases present : before.ahb with
  | none =>
    have empty := formed present
    refine .reaped ?_ empty ?_ <;> simp [empty]
  | some ahb => exact .kept before.readFences before.retiring (by simp [present]) id rfl fun _ member => .self member

theorem Tidied.formed (tidied : Tidied kernel before after) : after.Formed := by
  cases tidied with
  | kept fences retiring present latched same covered =>
    intro absent
    rw [same] at absent
    simp [show before.ahb = none from absent] at present
  | reaped idle gone signalled => exact fun _ => gone

theorem Tidied.inflight (tidied : Tidied kernel before after) : after.inflight = before.inflight := by
  cases tidied with
  | kept fences retiring present latched same covered => rw [same]
  | reaped idle gone signalled => rw [gone, idle]

theorem Tidied.identity (tidied : Tidied kernel before after) (reading : 0 < before.inflight) :
    after.ahb = before.ahb ∧ after.sequence = before.sequence := by
  cases tidied with
  | kept fences retiring present latched same covered => simp [same]
  | reaped idle gone signalled => omega

theorem Tidied.trans {early late : Kernel} (first : Tidied early before middle)
    (second : Tidied late middle after)
    (carried : ∀ fences fd, fd ∈ before.readFences → middle.readFences = fences →
      early.Covered fences fd → late.Covered fences fd) : Tidied late before after := by
  cases first with
  | reaped idle gone signalled =>
    have done : ∀ fd ∈ before.readFences, late.ready fd = true := fun fd member =>
      Kernel.covered_nil.mp (carried [] fd member (by rw [gone]) (.inl (signalled fd member)))
    cases second with
    | kept fences retiring present latched same covered => simp [gone] at present
    | reaped _ empty _ => exact .reaped idle empty done
  | kept fences retiring present latched same covered =>
    have still : ∀ fd ∈ before.readFences, late.Covered fences fd := fun fd member =>
      carried fences fd member (by rw [same]) (covered fd member)
    have reads : middle.readFences = fences := by rw [same]
    cases second with
    | kept later retired _ latches again further =>
      rw [reads] at further
      refine .kept later retired present (fun old => latches ?_) ?_ fun fd member =>
        (still fd member).trans further
      · simpa [same] using latched old
      · rw [again, same]
    | reaped idle gone signalled =>
      rw [reads] at signalled
      refine .reaped (by simpa [same] using idle) gone fun fd member => ?_
      exact Kernel.covered_nil.mp ((still fd member).trans fun keeper inside => .inl (signalled keeper inside))

end Frame

namespace StableHal

def held (hal : StableHal) : Multiset Fd := ∑ slot, (hal.latest slot).fences

def heldElsewhere (hal : StableHal) (slot : Slot) : Multiset Fd :=
  ∑ other ∈ Finset.univ.erase slot, (hal.latest other).fences

theorem held_eq (hal : StableHal) (slot : Slot) :
    hal.held = (hal.latest slot).fences + hal.heldElsewhere slot :=
  (Finset.add_sum_erase _ _ (Finset.mem_univ slot)).symm

theorem held_setFrame (hal : StableHal) (slot : Slot) (frame : Frame) :
    (hal.setFrame slot frame).held = frame.fences + hal.heldElsewhere slot := by
  rw [held_eq _ slot]
  congr 1
  · simp [setFrame]
  · refine Finset.sum_congr rfl fun other member => ?_
    simp [setFrame, Function.update_of_ne (Finset.ne_of_mem_erase member)]

structure Owned (hal : StableHal) (others : Multiset Fd) : Prop where
  balanced : hal.kernel.Balanced (hal.held + others)
  formed : ∀ slot, (hal.latest slot).Formed

structure Tidied (others : Multiset Fd) (before after : StableHal) : Prop where
  extends_ : before.kernel.Extends after.kernel
  balanced : after.kernel.Balanced (after.held + others)
  frames : ∀ slot, Frame.Tidied after.kernel (before.latest slot) (after.latest slot)
  framesReceived : after.framesReceived = before.framesReceived

variable {hal before middle after : StableHal} {others : Multiset Fd}

-- Everything that decides on admission and registration, which no pass over a frame touches.
structure Control where
  provider : Bool
  callback : Option Binder
  nextIdentity : Int
  slots : Slot → SlotControl

def control (hal : StableHal) : Control :=
  { provider := hal.provider
    callback := hal.callback
    nextIdentity := hal.nextIdentity
    slots := hal.slots }

@[simp] theorem releaseIfHeld_control (hal : StableHal) (ahb : Option Ahb) :
    (hal.releaseIfHeld ahb).control = hal.control := by
  cases ahb <;> rfl

@[simp] theorem closeFd_control (hal : StableHal) (fd : Option Fd) :
    (hal.closeFd fd).control = hal.control := by
  cases fd <;> rfl

@[simp] theorem setFrame_control (hal : StableHal) (slot : Slot) (frame : Frame) :
    (hal.setFrame slot frame).control = hal.control := rfl

@[simp] theorem kernel_control (hal : StableHal) (kernel : Kernel) :
    StableHal.control { hal with kernel } = hal.control := rfl

theorem admitted_congr (same : after.control = before.control) (slot : Slot) (frame : Submission) :
    after.admitted slot frame = before.admitted slot frame := by
  have slots : after.slots = before.slots := congrArg Control.slots same
  have provider : after.provider = before.provider := congrArg Control.provider same
  rw [admitted, admitted, slots, provider]

@[simp] theorem releaseIfHeld_kernel (hal : StableHal) (ahb : Option Ahb) :
    (hal.releaseIfHeld ahb).kernel = hal.kernel := by
  cases ahb <;> rfl

@[simp] theorem releaseIfHeld_latest (hal : StableHal) (ahb : Option Ahb) :
    (hal.releaseIfHeld ahb).latest = hal.latest := by
  cases ahb <;> rfl

@[simp] theorem releaseIfHeld_framesReceived (hal : StableHal) (ahb : Option Ahb) :
    (hal.releaseIfHeld ahb).framesReceived = hal.framesReceived := by
  cases ahb <;> rfl

@[simp] theorem closeFd_latest (hal : StableHal) (fd : Option Fd) :
    (hal.closeFd fd).latest = hal.latest := by
  cases fd <;> rfl

@[simp] theorem closeFd_framesReceived (hal : StableHal) (fd : Option Fd) :
    (hal.closeFd fd).framesReceived = hal.framesReceived := by
  cases fd <;> rfl

theorem extends_closeFd (hal : StableHal) (fd : Option Fd) :
    hal.kernel.Extends (hal.closeFd fd).kernel := by
  cases fd with
  | none => exact .refl _
  | some fd => exact Kernel.extends_close _ _

theorem balanced_closeFd (hal : StableHal) (fd : Option Fd) (rest : Multiset Fd)
    (balanced : hal.kernel.Balanced ((fd.toList : Multiset Fd) + rest)) :
    (hal.closeFd fd).kernel.Balanced rest := by
  cases fd with
  | none =>
    have plain : hal.kernel.Balanced rest := by simpa using balanced
    exact plain
  | some fd =>
    apply Kernel.Balanced.close
    simpa [Multiset.singleton_add] using balanced

theorem Tidied.owned (tidied : Tidied others before after) : after.Owned others :=
  ⟨tidied.balanced, fun slot => (tidied.frames slot).formed⟩

theorem Owned.opened (owned : hal.Owned others) (slot : Slot) (fd : Fd)
    (member : fd ∈ (hal.latest slot).readFences) : fd < hal.kernel.next := by
  apply owned.balanced.opened
  rw [held_eq hal slot, Frame.fences]
  simp [member]

theorem Owned.same (owned : before.Owned others) (kernel : after.kernel = before.kernel)
    (latest : after.latest = before.latest) (received : after.framesReceived = before.framesReceived) :
    Tidied others before after := by
  have held : after.held = before.held := by rw [StableHal.held, StableHal.held, latest]
  refine ⟨?_, ?_, fun slot => ?_, received⟩
  · rw [kernel]
    exact .refl _
  · rw [kernel, held]
    exact owned.balanced
  · rw [latest]
    exact Frame.tidied_refl (owned.formed slot)

theorem Owned.moved {given : Multiset Fd} (owned : hal.Owned given) (kernel : Kernel)
    (moved : hal.kernel.Extends kernel) (balanced : kernel.Balanced (hal.held + others)) :
    Tidied others hal { hal with kernel } :=
  ⟨moved, balanced, fun slot => Frame.tidied_refl (owned.formed slot), rfl⟩

theorem Owned.closeFd (fd : Option Fd) (owned : hal.Owned ((fd.toList : Multiset Fd) + others)) :
    Tidied others hal (hal.closeFd fd) := by
  have held : (hal.closeFd fd).held = hal.held := by simp [StableHal.held]
  refine ⟨extends_closeFd hal fd, ?_, fun slot => ?_, by simp⟩
  · rw [held]
    exact balanced_closeFd hal fd _ (by simpa only [add_left_comm] using owned.balanced)
  · rw [closeFd_latest]
    exact Frame.tidied_refl (owned.formed slot)

theorem Tidied.trans {given through : Multiset Fd} (owned : before.Owned given)
    (first : Tidied through before middle) (second : Tidied others middle after) :
    Tidied others before after where
  extends_ := first.extends_.trans second.extends_
  balanced := second.balanced
  frames slot := by
    refine (first.frames slot).trans (second.frames slot) fun fences fd member reads covered => ?_
    refine second.extends_.covered ?_ (fun keeper inside => ?_) covered
    · exact lt_of_lt_of_le (owned.opened slot fd member) first.extends_.next
    · exact first.owned.opened slot keeper (by rwa [reads])
  framesReceived := second.framesReceived.trans first.framesReceived

theorem Owned.pass (owned : hal.Owned others) (slot : Slot) (fences : List Fd) (kernel : Kernel) (retiring : Bool)
    (present : (hal.latest slot).ahb.isSome = true)
    (latched : (hal.latest slot).retiring = true → retiring = true)
    (kept : ∀ rest, hal.kernel.Balanced (((hal.latest slot).readFences : Multiset Fd) + rest) →
      FencesKept hal.kernel kernel (hal.latest slot).readFences fences rest) :
    Tidied others hal ({ hal with kernel }.setFrame slot
      { hal.latest slot with readFences := fences, retiring }) := by
  have split : hal.held + others = ((hal.latest slot).readFences : Multiset Fd) +
      (((hal.latest slot).acquireFence.toList : Multiset Fd) + hal.heldElsewhere slot + others) := by
    rw [held_eq hal slot, Frame.fences]
    simp only [add_assoc, add_left_comm]
  have passed := kept _ (split ▸ owned.balanced)
  refine ⟨passed.extends_, ?_, fun other => ?_, rfl⟩
  · rw [held_setFrame, Frame.fences]
    have shape : ((hal.latest slot).acquireFence.toList : Multiset Fd) + (fences : Multiset Fd) +
        StableHal.heldElsewhere { hal with kernel } slot + others = (fences : Multiset Fd) +
        (((hal.latest slot).acquireFence.toList : Multiset Fd) + hal.heldElsewhere slot + others) := by
      simp only [add_assoc, add_left_comm, heldElsewhere]
    rw [shape]
    exact passed.balanced
  · by_cases same : other = slot
    · subst same
      refine .kept fences retiring present latched ?_ passed.covered
      simp [setFrame]
    · simp only [setFrame, Function.update_of_ne same]
      exact Frame.tidied_refl (owned.formed other)

theorem Owned.reap (owned : hal.Owned others) (slot : Slot) (kernel : Kernel)
    (idle : (hal.latest slot).inflight = 0)
    (kept : ∀ rest, hal.kernel.Balanced (((hal.latest slot).readFences : Multiset Fd) + rest) →
      FencesKept hal.kernel kernel (hal.latest slot).readFences [] rest) :
    Tidied others hal ((({ hal with kernel }.releaseIfHeld (hal.latest slot).ahb).closeFd
      (hal.latest slot).acquireFence).setFrame slot {}) := by
  have split : hal.held + others = ((hal.latest slot).readFences : Multiset Fd) +
      (((hal.latest slot).acquireFence.toList : Multiset Fd) + (hal.heldElsewhere slot + others)) := by
    rw [held_eq hal slot, Frame.fences]
    simp only [add_assoc, add_left_comm]
  have passed := kept _ (split ▸ owned.balanced)
  have emptied := passed.balanced
  simp only [Multiset.coe_nil, zero_add] at emptied
  generalize shape : { hal with kernel }.releaseIfHeld (hal.latest slot).ahb = released
  have holding : released.kernel = kernel := by simp [← shape]
  have frames : released.latest = hal.latest := by simp [← shape]
  have closing := extends_closeFd released (hal.latest slot).acquireFence
  rw [holding] at closing
  refine ⟨passed.extends_.trans closing, ?_, fun other => ?_, by simp [setFrame, ← shape]⟩
  · rw [held_setFrame]
    have elsewhere : (released.closeFd (hal.latest slot).acquireFence).heldElsewhere slot =
        hal.heldElsewhere slot := by simp [heldElsewhere, frames]
    rw [elsewhere]
    have empty : Frame.fences {} = 0 := rfl
    rw [empty, zero_add]
    apply balanced_closeFd
    rw [holding]
    exact emptied
  · by_cases chosen : other = slot
    · subst chosen
      refine .reaped idle (by simp [setFrame]) fun fd member => ?_
      have opened := lt_of_lt_of_le (owned.opened other fd member) passed.extends_.next
      exact closing.ready opened (Kernel.covered_nil.mp (passed.covered fd member))
    · simp only [setFrame, closeFd_latest, frames, Function.update_of_ne chosen]
      exact Frame.tidied_refl (owned.formed other)

def reap (hal : StableHal) (slot : Slot) : Bool × StableHal :=
  let cur := hal.latest slot
  let (ready, fences, kernel) := retiredFrameReady hal.kernel cur.inflight cur.readFences
  if !ready then
    (false, { hal with kernel }.setFrame slot { cur with readFences := fences, retiring := true })
  else (true, (({ hal with kernel }.releaseIfHeld cur.ahb).closeFd cur.acquireFence).setFrame slot {})

theorem reapRetiringLocked_eq (hal : StableHal) (slot : Slot) :
    hal.reapRetiringLocked slot =
      if (hal.latest slot).retiring then hal.reap slot else (true, hal) := by
  simp only [reapRetiringLocked, reap]
  cases retiring : (hal.latest slot).retiring with
  | false => rfl
  | true => simp [← retiring]

theorem dropLatestLocked_eq (hal : StableHal) (slot : Slot) :
    hal.dropLatestLocked slot = (hal.reap slot).2 := by
  simp only [dropLatestLocked, reapRetiringLocked, reap, setFrame, Function.update_self,
    Bool.not_true, Bool.false_eq_true, if_false]
  split
  · simp only [Function.update_idem]
  · cases (hal.latest slot).ahb <;> cases (hal.latest slot).acquireFence <;>
      simp [releaseIfHeld, releaseBuffer, closeFd]

theorem reap_tidied (owned : hal.Owned others) (slot : Slot) : Tidied others hal (hal.reap slot).2 := by
  have kept := retiredFrameReady_kept hal.kernel (hal.latest slot).inflight (hal.latest slot).readFences
  have done := retiredFrameReady_iff hal.kernel (hal.latest slot).inflight (hal.latest slot).readFences
  simp only [reap]
  split
  next waiting =>
    refine owned.pass slot _ _ true (Option.isSome_iff_ne_none.mpr fun absent => ?_) (fun _ => rfl) kept
    rw [owned.formed slot absent] at waiting
    cases waiting
  next ready =>
    obtain ⟨idle, drained⟩ := done.mp (by simpa using ready)
    rw [drained] at kept
    exact owned.reap slot _ idle kept

def consolidated (hal : StableHal) (slot : Slot) : StableHal :=
  let (_, fences, kernel) := consolidateReadFences hal.kernel (hal.latest slot).readFences
  { hal with kernel }.setFrame slot { hal.latest slot with readFences := fences }

theorem consolidated_frame (hal : StableHal) (slot : Slot) :
    (hal.consolidated slot).latest slot =
      { hal.latest slot with
        readFences := (consolidateReadFences hal.kernel (hal.latest slot).readFences).2.1 } := by
  simp [consolidated, setFrame]

theorem consolidated_tidied (owned : hal.Owned others) (slot : Slot) :
    Tidied others hal (hal.consolidated slot) := by
  cases present : (hal.latest slot).ahb with
  | none =>
    have empty := owned.formed slot present
    have untouched : (hal.consolidated slot).latest = hal.latest := by
      simp only [consolidated, setFrame, empty]
      exact (congrArg (Function.update hal.latest slot) empty.symm).trans (Function.update_eq_self _ _)
    refine owned.same ?_ untouched rfl
    simp only [consolidated, setFrame, empty]
    rfl
  | some ahb =>
    have kept := consolidateReadFences_kept hal.kernel (hal.latest slot).readFences
    exact owned.pass slot _ _ (hal.latest slot).retiring (by simp [present]) id kept

-- The steps of which every operation is made, up to a submission's swap and the readers' count.
inductive Passes : StableHal → StableHal → Prop where
  | same {before after : StableHal} (kernel : after.kernel = before.kernel)
      (latest : after.latest = before.latest) (received : after.framesReceived = before.framesReceived) :
      Passes before after
  | reap (hal : StableHal) (slot : Slot) : Passes hal (hal.reap slot).2
  | consolidate (hal : StableHal) (slot : Slot) : Passes hal (hal.consolidated slot)
  | trans {before middle after : StableHal} (first : Passes before middle)
      (second : Passes middle after) : Passes before after

theorem Passes.refl (hal : StableHal) : Passes hal hal := .same rfl rfl rfl

inductive Sweeps : StableHal → StableHal → Prop where
  | same {before after : StableHal} (kernel : after.kernel = before.kernel)
      (latest : after.latest = before.latest) (received : after.framesReceived = before.framesReceived)
      (references : after.bufferRefs = before.bufferRefs) : Sweeps before after
  | reap (hal : StableHal) (slot : Slot) : Sweeps hal (hal.reap slot).2
  | consolidate (hal : StableHal) (slot : Slot) : Sweeps hal (hal.consolidated slot)
  | trans {before middle after : StableHal} (first : Sweeps before middle)
      (second : Sweeps middle after) : Sweeps before after

theorem Sweeps.refl (hal : StableHal) : Sweeps hal hal := .same rfl rfl rfl rfl

theorem Sweeps.passes (sweeps : Sweeps before after) : Passes before after := by
  induction sweeps with
  | same kernel latest received _ => exact .same kernel latest received
  | reap hal slot => exact .reap hal slot
  | consolidate hal slot => exact .consolidate hal slot
  | trans _ _ first second => exact first.trans second

theorem Passes.tidied (passes : Passes before after) (owned : before.Owned others) :
    Tidied others before after := by
  induction passes with
  | same kernel latest received => exact owned.same kernel latest received
  | reap hal slot => exact reap_tidied owned slot
  | consolidate hal slot => exact consolidated_tidied owned slot
  | trans _ _ first second => exact (first owned).trans owned (second (first owned).owned)

theorem Passes.idle (passes : Passes before after) (slot : Slot) (idle : (before.latest slot).Idle) :
    (after.latest slot).Idle := by
  induction passes with
  | same _ latest _ => rwa [latest]
  | reap hal chosen =>
    by_cases same : slot = chosen
    · subst same
      simp only [StableHal.reap]
      split
      · simpa [setFrame, Frame.Idle] using idle
      · simp [setFrame, Frame.Idle]
    · simp only [StableHal.reap]
      split <;> simpa [setFrame, Function.update_of_ne same] using idle
  | consolidate hal chosen =>
    by_cases same : slot = chosen
    · subst same
      simpa [consolidated, setFrame, Frame.Idle] using idle
    · simpa [consolidated, setFrame, Function.update_of_ne same] using idle
  | trans _ _ first second => exact second (first idle)

theorem Passes.offered (passes : Passes before after) (slot : Slot)
    (offered : ¬ (after.latest slot).Gone) :
    ¬ (before.latest slot).Gone ∧ (before.latest slot).Same (after.latest slot) := by
  induction passes with
  | same _ latest _ =>
    rw [latest] at offered ⊢
    exact ⟨offered, rfl, rfl, rfl, rfl⟩
  | reap hal chosen =>
    by_cases same : slot = chosen
    · subst same
      refine absurd ?_ offered
      simp only [StableHal.reap]
      split
      · exact .inr (by simp [setFrame])
      · exact .inl (by simp [setFrame])
    · have untouched : (hal.reap chosen).2.latest slot = hal.latest slot := by
        simp only [StableHal.reap]
        split <;> simp [setFrame, Function.update_of_ne same]
      rw [untouched] at offered ⊢
      exact ⟨offered, rfl, rfl, rfl, rfl⟩
  | consolidate hal chosen =>
    by_cases same : slot = chosen
    · subst same
      rw [consolidated_frame] at offered ⊢
      exact ⟨offered, rfl, rfl, rfl, rfl⟩
    · have untouched : (hal.consolidated chosen).latest slot = hal.latest slot := by
        simp [consolidated, setFrame, Function.update_of_ne same]
      rw [untouched] at offered ⊢
      exact ⟨offered, rfl, rfl, rfl, rfl⟩
  | trans _ _ first second =>
    obtain ⟨there, ahb, timestamp, sequence, token⟩ := second offered
    obtain ⟨early, ahb', timestamp', sequence', token'⟩ := first there
    exact ⟨early, ahb.trans ahb', timestamp.trans timestamp', sequence.trans sequence', token.trans token'⟩

theorem Passes.gone (passes : Passes before after) (slot : Slot) (gone : (before.latest slot).Gone) :
    (after.latest slot).Gone := by
  by_contra offered
  exact (passes.offered slot offered).1 gone

theorem Passes.framesReceived (passes : Passes before after) :
    after.framesReceived = before.framesReceived := by
  induction passes with
  | same _ _ received => exact received
  | reap hal slot =>
    simp only [StableHal.reap]
    split <;> simp [setFrame]
  | consolidate hal slot => rfl
  | trans _ _ first second => exact second.trans first

theorem dropLatestLocked_gone (hal : StableHal) (slot : Slot) :
    ((hal.dropLatestLocked slot).latest slot).Gone := by
  simp only [dropLatestLocked_eq, StableHal.reap]
  split
  · exact .inr (by simp [setFrame])
  · exact .inl (by simp [setFrame])

theorem reapRetiringLocked_sweeps (hal : StableHal) (slot : Slot) :
    Sweeps hal (hal.reapRetiringLocked slot).2 := by
  rw [reapRetiringLocked_eq]
  split
  · exact .reap hal slot
  · exact .refl hal

theorem reapRetiringLocked_passes (hal : StableHal) (slot : Slot) :
    Passes hal (hal.reapRetiringLocked slot).2 := (reapRetiringLocked_sweeps hal slot).passes

theorem dropLatestLocked_sweeps (hal : StableHal) (slot : Slot) :
    Sweeps hal (hal.dropLatestLocked slot) := by
  rw [dropLatestLocked_eq]
  exact .reap hal slot

@[simp] theorem reap_control (hal : StableHal) (slot : Slot) :
    (hal.reap slot).2.control = hal.control := by
  simp only [reap]
  split <;> simp

@[simp] theorem reapRetiringLocked_control (hal : StableHal) (slot : Slot) :
    (hal.reapRetiringLocked slot).2.control = hal.control := by
  rw [reapRetiringLocked_eq]
  split <;> simp

@[simp] theorem dropLatestLocked_control (hal : StableHal) (slot : Slot) :
    (hal.dropLatestLocked slot).control = hal.control := by
  simp [dropLatestLocked_eq]

@[simp] theorem consolidated_control (hal : StableHal) (slot : Slot) :
    (hal.consolidated slot).control = hal.control := rfl

end StableHal

end VirtualCamera
