import VirtualCamera.V2.HalInterface

set_option autoImplicit false

namespace VirtualCamera

structure UntrustedWorld where
  hal : HalInterface
  -- The slots that the running call has found in the submit ring, and the most that any call has.
  found : Nat := 0
  most : Nat := 0
  history : List HalInterface.Event := []

-- An access comes with what the control block holds at that moment.
inductive UntrustedMove where
  | acquireLatestFrame (timeoutMs : Int)
  | acquireNextFrame (timeoutMs : Int)
  | releaseFrame (place : Nat)
  | hal (ring : ControlRing)

namespace HalInterface

-- An array element outside its array, or a valid frame without a buffer, is not inside.
def Event.inside : Event → Bool
  | .bufferState index | .buffers index => index < MAX_BUFFERS
  | .acquired frame _ => !frame.valid || frame.buffer.isSome
  | .syncWait _ | .close _ => true

def finds (ring : ControlRing) : Call → Bool
  | .draining _ _ (.loaded read) | .polling _ _ (.loaded read) | .next _ (.loaded read) =>
      read < ring.submit.writeIndex
  | _ => false

def indexed (hal : HalInterface) : Call → Bool
  | .skipping _ _ write | .releasing write =>
    !ControlRing.clearing write || write.value.bufferIndex.toNat < MAX_BUFFERS
  | .delivering slot => slot.bufferIndex.toInt32 < 0 ∨ slot.bufferIndex.toInt32.toInt < hal.bufferCount
  | .draining .. | .polling .. | .next .. => true

end HalInterface

namespace UntrustedWorld

def begun (world : UntrustedWorld) (hal : HalInterface) : UntrustedWorld :=
  if world.hal.call.isSome then world else { world with hal, found := 0 }

def perform (world : UntrustedWorld) : UntrustedMove → UntrustedWorld
  | .acquireLatestFrame timeoutMs => world.begun (world.hal.acquireLatestFrame timeoutMs)
  | .acquireNextFrame timeoutMs => world.begun (world.hal.acquireNextFrame timeoutMs)
  | .releaseFrame place => world.begun (world.hal.held[place]?.elim world.hal world.hal.releaseFrame)
  | .hal ring =>
    match world.hal.call with
    | none => world
    | some call =>
      let result := world.hal.step ring call
      let found := world.found + if HalInterface.finds ring call then 1 else 0
      { hal := result.2.1, found, most := max world.most found, history := world.history ++ result.2.2 }

def play (world : UntrustedWorld) (moves : List UntrustedMove) : UntrustedWorld := moves.foldl perform world

structure Safe (bound : Nat) (world : UntrustedWorld) : Prop where
  inside : ∀ event ∈ world.history, event.inside = true
  bounded : world.most ≤ bound

def honest (bound : Nat) (world : UntrustedWorld) : UntrustedMove → Bool
  | .hal ring => world.hal.call.all fun call =>
    world.hal.indexed call && (!HalInterface.finds ring call || world.found < bound)
  | _ => true

def allHonest (bound : Nat) (world : UntrustedWorld) : List UntrustedMove → Bool
  | [] => true
  | move :: moves => world.honest bound move && (world.perform move).allHonest bound moves

end UntrustedWorld

namespace HalInterface

variable (hal : HalInterface) (ring : ControlRing)

theorem getBuffer_inside (small : hal.bufferCount ≤ MAX_BUFFERS) (index : Int32) :
    ∀ buffer ∈ hal.getBuffer index, buffer < MAX_BUFFERS := by
  intro buffer found
  unfold getBuffer at found
  split at found <;> cases found
  next within =>
    rw [Int32.lt_iff_toInt_lt] at within
    simp only [Int32.toInt_zero] at within
    omega

theorem deliver_inside (small : hal.bufferCount ≤ MAX_BUFFERS) (slot : ControlRing.Slot) :
    (∀ event ∈ (hal.deliver slot).2, event.inside = true) ↔ hal.indexed (.delivering slot) = true := by
  have fence : ∀ event ∈ (if 0 ≤ slot.fenceFd then [Event.syncWait slot.fenceFd, .close slot.fenceFd] else []),
      event.inside = true := by
    split <;> simp [Event.inside]
  have buffers : ∀ event ∈ ((hal.getBuffer slot.bufferIndex.toInt32).map Event.buffers).toList,
    event.inside = true := by
    intro event member
    obtain ⟨buffer, found, rfl⟩ := Option.map_eq_some_iff.mp (Option.mem_toList.mp member)
    exact decide_eq_true (hal.getBuffer_inside small _ buffer found)
  simp only [deliver, List.forall_mem_append, and_iff_right fence, and_iff_right buffers,
    List.forall_mem_singleton]
  simp only [Event.inside, AcquiredFrame.valid, indexed, getBuffer]
  grind

theorem fenceClosed_inside (fd : Int32) : ∀ event ∈ fenceClosed fd, event.inside = true := by
  unfold fenceClosed
  split <;> simp [Event.inside]

theorem cleared_inside (write : TryWrite ControlRing.ReleaseSlot) :
    (∀ event ∈ (if ControlRing.clearing write then [Event.bufferState write.value.bufferIndex.toNat] else []),
      event.inside = true) ↔ hal.indexed (.releasing write) = true := by
  cases clears : ControlRing.clearing write <;> simp [Event.inside, indexed, clears]

theorem step_inside (small : hal.bufferCount ≤ MAX_BUFFERS) (call : Call) :
    (∀ event ∈ (hal.step ring call).2.2, event.inside = true) ↔ hal.indexed call = true := by
  cases call with
  | draining timeoutMs latest read =>
    refine iff_of_true ?_ rfl
    simp only [step]
    split
    · simp
    · split
      · simp
      · exact fenceClosed_inside _
    · split <;> simp
  | polling | next =>
    refine iff_of_true ?_ rfl
    simp only [step]
    split <;> simp
  | delivering slot => exact hal.deliver_inside small slot
  | skipping timeoutMs latest write =>
    simp only [step]
    split <;> exact hal.cleared_inside write
  | releasing write =>
    simp only [step]
    split <;> exact hal.cleared_inside write

theorem step_bufferCount (call : Call) : (hal.step ring call).2.1.bufferCount = hal.bufferCount := by
  cases call with
  | draining =>
    simp only [step]
    split
    · rfl
    · split <;> rfl
    · split <;> rfl
  | delivering => rfl
  | polling | next | skipping | releasing =>
    simp only [step]
    split <;> rfl

theorem releaseFrame_bufferCount (frame : AcquiredFrame) :
    (hal.releaseFrame frame).bufferCount = hal.bufferCount := by
  unfold releaseFrame
  split <;> rfl

end HalInterface

namespace UntrustedWorld

variable {world : UntrustedWorld} {bound : Nat}

theorem perform_bufferCount (world : UntrustedWorld) (move : UntrustedMove) :
    (world.perform move).hal.bufferCount = world.hal.bufferCount := by
  cases move with
  | acquireLatestFrame | acquireNextFrame =>
    simp only [perform, begun]
    split <;> rfl
  | releaseFrame place =>
    simp only [perform, begun]
    split
    · rfl
    cases world.hal.held[place]? with
    | none => rfl
    | some frame => exact world.hal.releaseFrame_bufferCount frame
  | hal ring =>
    simp only [perform]
    split
    · rfl
    · exact world.hal.step_bufferCount ring _

theorem begun_safe (world : UntrustedWorld) (hal : HalInterface) : (world.begun hal).Safe bound ↔
    world.Safe bound := by
  unfold begun
  split
  · exact Iff.rfl
  · exact ⟨fun safe => ⟨safe.inside, safe.bounded⟩, fun safe => ⟨safe.inside, safe.bounded⟩⟩

structure Counted (world : UntrustedWorld) : Prop where
  small : world.hal.bufferCount ≤ MAX_BUFFERS
  found : world.found ≤ world.most

theorem Counted.perform (counted : world.Counted) (move : UntrustedMove) : (world.perform move).Counted where
  small := by
    rw [perform_bufferCount]
    exact counted.small
  found := by
    have before := counted.found
    cases move with
    | acquireLatestFrame | acquireNextFrame | releaseFrame =>
      simp only [UntrustedWorld.perform, begun]
      split <;> simp [before]
    | hal ring =>
      simp only [UntrustedWorld.perform]
      split
      · exact before
      · exact le_max_right _ _

theorem Counted.safe (counted : world.Counted) (move : UntrustedMove) :
    (world.perform move).Safe bound ↔ world.Safe bound ∧ world.honest bound move = true := by
  cases move with
  | acquireLatestFrame | acquireNextFrame | releaseFrame => simp [UntrustedWorld.perform, begun_safe, honest]
  | hal ring =>
    simp only [UntrustedWorld.perform, honest]
    cases here : world.hal.call with
    | none => simp
    | some call =>
      have events := world.hal.step_inside ring counted.small call
      have before := counted.found
      simp only [Option.all_some, Bool.and_eq_true, ← events, Bool.or_eq_true, Bool.not_eq_true',
        decide_eq_true_eq]
      constructor
      next =>
        rintro ⟨inside, bounded⟩
        rw [List.forall_mem_append] at inside
        simp only [max_le_iff] at bounded
        refine ⟨⟨inside.1, bounded.1⟩, inside.2, ?_⟩
        cases finds : HalInterface.finds ring call with
        | false => exact .inl rfl
        | true =>
          rw [finds, if_pos rfl] at bounded
          exact .inr bounded.2
      next =>
        rintro ⟨⟨inside, bounded⟩, now, few⟩
        refine ⟨List.forall_mem_append.mpr ⟨inside, now⟩, max_le bounded ?_⟩
        split
        next finds => exact few.resolve_left (by simp [finds])
        next => exact before.trans bounded

theorem Counted.play (counted : world.Counted) (moves : List UntrustedMove) :
    (world.play moves).Safe bound ↔ world.Safe bound ∧ world.allHonest bound moves = true := by
  induction moves generalizing world with
  | nil => simp [UntrustedWorld.play, allHonest]
  | cons move moves ih =>
    simp only [UntrustedWorld.play, List.foldl_cons, allHonest, Bool.and_eq_true]
    rw [← and_assoc, ← counted.safe move]
    exact ih (counted.perform move)

theorem untrusted_ring (bufferCount bound : Nat) (small : bufferCount ≤ MAX_BUFFERS) (moves : List UntrustedMove) :
    (play { hal := { bufferCount } } moves).Safe bound ↔ allHonest bound
      { hal := { bufferCount } } moves = true := by
  have counted : Counted { hal := { bufferCount } } := ⟨small, le_rfl⟩
  rw [counted.play, and_iff_right]
  exact ⟨by simp, Nat.zero_le _⟩

def offering (writeIndex readIndex bufferIndex : UInt32) : ControlRing :=
  { submit := { writeIndex, readIndex, slots := fun _ => { bufferIndex, fenceFd := -1 } } }

def acquireOne : List UntrustedMove :=
  .acquireLatestFrame 0 :: List.replicate 7 (.hal (offering 1 0 0)) ++ List.replicate 3 (.hal (offering 1 1 0))

theorem untrusted_ring_single : (play { hal := { bufferCount := 1 } } acquireOne).Safe 1 ∧
    (play { hal := { bufferCount := 1 } } acquireOne).hal.frameCount = 1 :=
  ⟨(untrusted_ring 1 1 (by decide) acquireOne).mpr (by decide +kernel), by decide +kernel⟩

def skipOne : List UntrustedMove := .acquireLatestFrame 0 :: List.replicate 18 (.hal (offering 2 0 4096))

theorem untrusted_ring_overrun : ¬ ∃ bound, ∀ bufferCount, 1 ≤ bufferCount → bufferCount ≤ MAX_BUFFERS →
    ∀ moves, (play { hal := { bufferCount } } moves).Safe bound := by
  rintro ⟨bound, all⟩
  have stored : .bufferState 4096 ∈ (play { hal := { bufferCount := 1 } } skipOne).history := by decide +kernel
  have inside := (all 1 (by decide) (by decide) skipOne).inside _ stored
  exact absurd inside (by decide)

end UntrustedWorld

end VirtualCamera
