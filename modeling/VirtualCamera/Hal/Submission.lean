import VirtualCamera.Hal.Tidying

set_option autoImplicit false

namespace VirtualCamera

open Descriptors

namespace StableHal

variable {hal : StableHal}

@[simp] theorem releaseBuffer_control (hal : StableHal) (ahb : Ahb) :
    (hal.releaseBuffer ahb).control = hal.control := rfl

@[simp] theorem acquireBuffer_control (hal : StableHal) (ahb : Ahb) :
    (hal.acquireBuffer ahb).control = hal.control := rfl

def swap (hal : StableHal) (slot : Slot) (frame : Submission) : EnqueueResult × StableHal :=
  (.returned .ok (hal.latest slot).readFences.getLast?,
    (hal.setFrame slot { hal.latest slot with readFences := [] }).swapFrame slot frame)

def stored (hal : StableHal) (frame : Submission) : Frame :=
  { ahb := some frame.ahb
    timestampNs := frame.timestampNs
    acquireFence := frame.acquireFence
    sequence := hal.framesReceived + 1
    configurationToken := frame.configurationToken }

theorem swap_latest (hal : StableHal) (slot : Slot) (frame : Submission) :
    (hal.swap slot frame).2.latest = Function.update hal.latest slot (hal.stored frame) := by
  simp [swap, swapFrame, setFrame, stored]

theorem swap_framesReceived (hal : StableHal) (slot : Slot) (frame : Submission) :
    (hal.swap slot frame).2.framesReceived = hal.framesReceived + 1 := by
  simp [swap, swapFrame, setFrame]

theorem swap_kernel (hal : StableHal) (slot : Slot) (frame : Submission) :
    (hal.swap slot frame).2.kernel = (hal.closeFd (hal.latest slot).acquireFence).kernel := by
  simp only [swap, swapFrame, setFrame, Function.update_self]
  cases (hal.latest slot).acquireFence <;> simp [closeFd]

@[simp] theorem swap_control (hal : StableHal) (slot : Slot) (frame : Submission) :
    (hal.swap slot frame).2.control = hal.control := by
  simp only [swap, swapFrame, closeFd_control, releaseIfHeld_control]
  rfl

inductive Enqueued (hal : StableHal) (slot : Slot) (frame : Submission) :
    EnqueueResult × StableHal → Prop where
  | rejected (code : Nat) (middle : StableHal) (passes : Passes hal middle)
      (control : middle.control = hal.control) :
      Enqueued hal slot frame (.returned (.serviceSpecific code) none, middle.closeFd frame.acquireFence)
  | waiting (after : StableHal) (passes : Passes hal after) (control : after.control = hal.control) :
      Enqueued hal slot frame (.waiting frame, after)
  | accepted (middle : StableHal) (passes : Passes hal middle) (control : middle.control = hal.control)
      (admitted : hal.admitted slot frame = true)
      (idle : (middle.latest slot).Idle)
      (single : (middle.latest slot).readFences.length ≤ 1) :
      Enqueued hal slot frame (middle.swap slot frame)

theorem Enqueued.of_reject {middle : StableHal} {slot : Slot} (frame : Submission) (code : Nat)
    (passes : Passes hal middle) (control : middle.control = hal.control) :
    Enqueued hal slot frame (middle.reject frame code) :=
  .rejected code (middle.releaseBuffer frame.ahb) (passes.trans (.same rfl rfl rfl)) control

theorem Enqueued.mono {before : StableHal} {slot : Slot} {frame : Submission}
    {outcome : EnqueueResult × StableHal} (enqueued : Enqueued hal slot frame outcome)
    (passes : Passes before hal) (control : hal.control = before.control) :
    Enqueued before slot frame outcome := by
  cases enqueued with
  | rejected code middle later same => exact .rejected code middle (passes.trans later) (same.trans control)
  | waiting after later same => exact .waiting after (passes.trans later) (same.trans control)
  | accepted middle later same admitted idle single =>
    refine .accepted middle (passes.trans later) (same.trans control) ?_ idle single
    rwa [admitted_congr control] at admitted

theorem enqueueCommit_enqueued (hal : StableHal) (slot : Slot) (frame : Submission)
    (idle : (hal.latest slot).Idle) : Enqueued hal slot frame (hal.enqueueCommit slot frame) := by
  rw [enqueueCommit]
  by_cases admitted : hal.admitted slot frame = true
  · have reaped := reapRetiringLocked_passes hal slot
    simp only [admitted, Bool.not_true, Bool.false_eq_true, if_false]
    split
    next => exact .of_reject frame 4 reaped (by simp)
    next =>
      have both := reaped.trans (.consolidate _ slot)
      split
      next => exact .of_reject frame 6 both (by simp)
      next done =>
        have single := consolidateReadFences_length (hal.reapRetiringLocked slot).2.kernel
          ((hal.reapRetiringLocked slot).2.latest slot).readFences (by simpa using done)
        have accepted : Enqueued hal slot frame
            (((hal.reapRetiringLocked slot).2.consolidated slot).swap slot frame) :=
          .accepted _ both (by simp) admitted (both.idle slot idle) (by rwa [consolidated_frame])
        simp only [swap, consolidated_frame] at accepted
        simp only [consolidated, setFrame, Function.update_idem] at accepted
        exact accepted
  · simp only [admitted, Bool.not_false, if_true]
    exact .of_reject frame 7 (.refl hal) rfl

theorem enqueueWake_enqueued (hal : StableHal) (slot : Slot) (frame : Submission) (timedOut : Bool) :
    Enqueued hal slot frame (hal.enqueueWake slot frame timedOut) := by
  unfold enqueueWake
  split
  next idle => exact enqueueCommit_enqueued hal slot frame fun _ => by simpa using idle
  next =>
    split
    · exact .of_reject frame 4 (.refl hal) rfl
    · exact .waiting hal (.refl hal) rfl

def submission (imported : Option Ahb) (width height format timestampNs : Int)
    (acquireFence : Option Fd) (configurationToken : Int) : Submission :=
  { ahb := imported.getD 0, width, height, format, timestampNs, acquireFence, configurationToken }

theorem enqueue_enqueued (hal : StableHal) (slot : Slot) (handle : Bool) (imported : Option Ahb)
    (width height format timestampNs : Int) (acquireFence : Option Fd) (configurationToken : Int) :
    Enqueued hal slot
      (submission imported width height format timestampNs acquireFence configurationToken)
      (hal.enqueue slot handle imported width height format timestampNs acquireFence configurationToken) := by
  have closing : ∀ code, Enqueued hal slot
      (submission imported width height format timestampNs acquireFence configurationToken)
      (.returned (.serviceSpecific code) none, hal.closeFd acquireFence) :=
    fun code => .rejected code hal (.refl hal) rfl
  unfold enqueue
  split
  · exact closing 1
  · cases imported with
    | none => exact closing 2
    | some ahb =>
      dsimp only
      generalize same : submission (some ahb) width height format timestampNs acquireFence
        configurationToken = frame
      have shape : frame = { ahb, width, height, format, timestampNs, acquireFence, configurationToken } :=
        same.symm
      rw [← shape]
      have taken : Passes hal (hal.acquireBuffer ahb) := .same rfl rfl rfl
      split
      · exact .of_reject frame 7 taken rfl
      · have reaped := taken.trans (reapRetiringLocked_passes _ slot)
        split
        · exact .of_reject frame 4 reaped (by simp)
        · split
          · exact .waiting _ reaped (by simp)
          next busy =>
            refine (enqueueCommit_enqueued _ slot frame fun present => ?_).mono reaped (by simp)
            simpa [present] using busy

theorem enqueueCommit_returns (hal : StableHal) (slot : Slot) (frame waiting : Submission) :
    (hal.enqueueCommit slot frame).1 ≠ .waiting waiting := by
  simp only [enqueueCommit]
  split
  · nofun
  · split
    · nofun
    · split <;> nofun

theorem enqueue_waiting (hal : StableHal) (slot : Slot) (handle : Bool) (imported : Option Ahb)
    (width height format timestampNs : Int) (acquireFence : Option Fd) (configurationToken : Int)
    (frame : Submission) (waits : (hal.enqueue slot handle imported width height format timestampNs
      acquireFence configurationToken).1 = .waiting frame) : hal.admitted slot frame = true := by
  unfold enqueue at waits
  split at waits
  · cases waits
  · cases imported with
    | none => cases waits
    | some ahb =>
      dsimp only at waits
      split at waits
      · cases waits
      next admitted =>
        split at waits
        · cases waits
        · split at waits
          · cases waits
            rw [Bool.not_eq_true', Bool.not_eq_false] at admitted
            exact admitted
          · exact absurd waits (enqueueCommit_returns _ _ _ _)

inductive Read (hal : StableHal) (slot : Int) (wantsSequence : Bool) (afterSequence : Nat)
    (configurationToken : Int) : Option Acquired × StableHal → Prop where
  | refused (middle : StableHal) (kernel : Kernel) (passes : Passes hal middle)
      (control : middle.control = hal.control)
      (moved : kernel = middle.kernel ∨ ∃ fd, middle.kernel.dup fd = (none, kernel)) :
      Read hal slot wantsSequence afterSequence configurationToken (none, { middle with kernel })
  | granted (index : Slot) (middle : StableHal) (ahb : Ahb) (fence : Option Fd) (kernel : Kernel)
      (valid : validSlot slot = some index) (passes : Passes hal middle)
      (control : middle.control = hal.control)
      (token : (middle.latest index).configurationToken = configurationToken)
      (current : 0 < configurationToken → (hal.slots index).configuration = configurationToken)
      (present : (middle.latest index).ahb = some ahb) (live : (middle.latest index).retiring = false)
      (newer : wantsSequence = true → afterSequence < (middle.latest index).sequence)
      (copied : duplicateAcquireFence middle.kernel (middle.latest index).acquireFence =
        (true, fence, kernel)) :
      Read hal slot wantsSequence afterSequence configurationToken
        (some
          { ahb
            timestampNs := (middle.latest index).timestampNs
            sequence := (middle.latest index).sequence
            acquireFence := fence },
          ({ middle with kernel }.acquireBuffer ahb).setFrame index
            { middle.latest index with inflight := (middle.latest index).inflight + 1 })

theorem acquireLatest_read (hal : StableHal) (slot : Int) (wantsFence wantsSequence : Bool)
    (afterSequence : Nat) (configurationToken : Int) :
    Read hal slot wantsSequence afterSequence configurationToken
      (hal.acquireLatest slot wantsFence wantsSequence afterSequence configurationToken) := by
  have refusing : ∀ middle, Passes hal middle → middle.control = hal.control →
      Read hal slot wantsSequence afterSequence configurationToken (none, middle) :=
    fun middle passes control => .refused middle middle.kernel passes control (.inl rfl)
  unfold acquireLatest
  split
  · exact refusing hal (.refl hal) rfl
  next index valid =>
    dsimp only
    split
    · exact refusing hal (.refl hal) rfl
    next fits =>
      split
      · exact refusing hal (.refl hal) rfl
      next ahb present =>
        split
        · exact refusing hal (.refl hal) rfl
        next live =>
          split
          · exact refusing hal (.refl hal) rfl
          next newer =>
            have tidy : Passes hal (hal.consolidated index) := .consolidate hal index
            have frame := consolidated_frame hal index
            split
            · exact refusing _ tidy rfl
            · split
              · exact refusing _ tidy rfl
              · split
                next failed =>
                  refine .refused (hal.consolidated index) _ tidy rfl (.inr ?_)
                  rw [Bool.not_eq_true'] at failed
                  exact duplicateAcquireFence_failed _ _ failed
                next copied =>
                  have granted := @Read.granted hal slot wantsSequence afterSequence configurationToken
                    index (hal.consolidated index) ahb
                    (duplicateAcquireFence (hal.consolidated index).kernel (hal.latest index).acquireFence).2.1
                    (duplicateAcquireFence (hal.consolidated index).kernel (hal.latest index).acquireFence).2.2
                    valid tidy rfl
                  simp only [frame] at granted
                  refine granted ?_ ?_ present ?_ ?_ ?_
                  · by_contra other
                    exact fits (.inl other)
                  · intro positive
                    by_contra other
                    exact fits (.inr ⟨positive, other⟩)
                  · simpa using live
                  · intro wants
                    simpa [wants] using newer
                  · rw [Bool.not_eq_true', Bool.not_eq_false] at copied
                    exact Prod.ext copied rfl

def returned (hal : StableHal) (slot : Slot) (readFences : List Fd) : StableHal :=
  hal.setFrame slot
    { hal.latest slot with
      readFences := (hal.latest slot).readFences ++ readFences
      inflight := (hal.latest slot).inflight - 1 }

theorem releaseFrame_found (hal : StableHal) (slot : Slot) (ahb : Ahb) (readFences : List Fd)
    (found : (hal.latest slot).ahb = some ahb) :
    Passes (hal.returned slot readFences) (hal.releaseFrame slot ahb readFences) ∧
      (hal.releaseFrame slot ahb readFences).control = hal.control := by
  have filtered : (validSlot (slot : Nat)).filter (fun slot => (hal.latest slot).ahb == some ahb) =
      some slot := by simp [Option.filter, found]
  have merged : (hal.returned slot readFences).consolidated slot = { hal with
      kernel := (consolidateReadFences hal.kernel ((hal.latest slot).readFences ++ readFences)).2.2 }.setFrame
      slot { hal.latest slot with
        readFences := (consolidateReadFences hal.kernel ((hal.latest slot).readFences ++ readFences)).2.1
        inflight := (hal.latest slot).inflight - 1 } := by
    simp [consolidated, returned, setFrame]
  simp only [releaseFrame, filtered]
  rw [← merged]
  refine ⟨?_, by simp [returned]⟩
  have tidy := (Passes.consolidate (hal.returned slot readFences) slot).trans
    (reapRetiringLocked_passes _ slot)
  exact tidy.trans (.same rfl rfl rfl)

end StableHal

end VirtualCamera
