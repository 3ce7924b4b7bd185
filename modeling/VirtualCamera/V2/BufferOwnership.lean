import VirtualCamera.Shared.Custody
import VirtualCamera.V2.ZeroCopyWorld

set_option autoImplicit false

namespace VirtualCamera

open ControlRing (ReleaseSlot)

namespace ControlRing

inductive ReleaseOutcome (ring : ControlRing) (write : TryWrite ReleaseSlot) :
    ControlRing × CallState (TryWrite ReleaseSlot) Bool → Prop where
  | running (release : Ring ReleaseSlot) (next : TryWrite ReleaseSlot) (valid : next.Valid release)
      (same : next.value = write.value) (kept : cleared next = cleared write) (grown : ring.release.Grown release)
      (index : release.writeIndex = ring.release.writeIndex) (queue : release.queue = ring.release.queue) :
      ReleaseOutcome ring write ({ ring with release }, .running next)
  | clears (next : TryWrite ReleaseSlot) (release : Ring ReleaseSlot) (valid : next.Valid release)
      (same : next.value = write.value) (was : cleared write = false) (now : cleared next = true)
      (grown : ring.release.Grown release) (index : release.writeIndex = ring.release.writeIndex)
      (queue : release.queue = ring.release.queue) :
      ReleaseOutcome ring write
        ({ ring with release, bufferState := Function.update ring.bufferState write.value.bufferIndex.toNat 0 },
          .running next)
  | full (unread : RING_SIZE.toNat ≤ ring.release.gap) : ReleaseOutcome ring write (ring, .done false)
  | published (release : Ring ReleaseSlot) (was : cleared write = true) (grown : ring.release.Grown release)
      (index : release.writeIndex = ring.release.writeIndex + 1)
      (queue : release.queue = ring.release.queue ++ [write.value]) :
      ReleaseOutcome ring write ({ ring with release }, .done true)

theorem tryWriteRelease_outcome {ring : ControlRing} {write : TryWrite ReleaseSlot}
    (valid : write.Valid ring.release) :
    ReleaseOutcome ring write (ring.tryWriteRelease write) := by
  have outcome := TryWrite.step_outcome valid
  have bounded := valid
  unfold tryWriteRelease
  generalize result : write.step ring.release = stepped at outcome
  cases outcome with
  | running release next valid same grown index queue =>
    cases write with
    | start value =>
      cases result
      exact .running _ _ valid same rfl grown index queue
    | loaded value write =>
      simp only [TryWrite.step] at result
      split at result <;> cases result
      exact .running _ _ valid same rfl grown index queue
    | storing value write stored =>
      have few : stored ≤ 2 := bounded.2.2.1
      obtain rfl | rfl | rfl : stored = 0 ∨ stored = 1 ∨ stored = 2 := by omega
      · cases result
        exact .running _ _ valid same rfl grown index queue
      · cases result
        exact .clears _ _ valid same rfl rfl grown index queue
      · cases result
  | full unread =>
    cases write with
    | start value => cases result
    | loaded value write => exact .full unread
    | storing value write stored =>
      simp only [TryWrite.step] at result
      split at result <;> simp at result
  | published release room grown index queue =>
    cases write with
    | start value => cases result
    | loaded value write =>
      simp only [TryWrite.step] at result
      split at result <;> cases result
    | storing value write stored =>
      have few : stored ≤ 2 := bounded.2.2.1
      obtain rfl | rfl | rfl : stored = 0 ∨ stored = 1 ∨ stored = 2 := by omega
      · cases result
      · cases result
      · exact .published _ rfl grown index queue

end ControlRing

def slotIndex (slot : ControlRing.Slot) : Nat := slot.bufferIndex.toNat

def frameIndex (bufferIndex : Int32) : Nat := bufferIndex.toUInt32.toNat

namespace HalInterface

-- A buffer is released by the store to `bufferState`, before its entry is published.
def uncleared (write : TryWrite ReleaseSlot) : List Nat :=
  if ControlRing.cleared write then [] else [write.value.bufferIndex.toNat]

namespace Call

def holds : Call → List Nat
  | .draining _ latest _ => latest.toList.map slotIndex
  | .skipping _ latest write => slotIndex latest :: uncleared write
  | .polling .. | .next .. => []
  | .delivering slot => [slotIndex slot]
  | .releasing write => uncleared write

-- A buffer that is free again and whose entry is still to come.
def pending : Call → Nat
  | .skipping _ _ write | .releasing write => if ControlRing.cleared write then 1 else 0
  | _ => 0

def Valid (ring : ControlRing) : Call → Prop
  | .draining _ _ read | .polling _ _ read | .next _ read => read.Valid ring.submit
  | .skipping _ _ write | .releasing write => write.Valid ring.release
  | .delivering _ => True

end Call

def holds (hal : HalInterface) : List Nat :=
  hal.held.map (fun frame => frameIndex frame.bufferIndex) ++ hal.call.elim [] Call.holds

def pending (hal : HalInterface) : Nat := hal.call.elim 0 Call.pending

end HalInterface

namespace RendererInterface

namespace Call

def holds : Call → List Nat
  | .submitting _ _ write => [slotIndex write.value]
  | .refused frame _ => [frameIndex frame.bufferIndex]
  | .draining .. | .acquiring .. => []

def Valid (ring : ControlRing) : Call → Prop
  | .draining _ read => read.Valid ring.release
  | .submitting _ _ write => write.Valid ring.submit
  | .acquiring .. => True
  | .refused .. => False

-- Between the drain that found the release ring empty and the buffer that is taken after it.
def drained : Call → Bool
  | .acquiring .. => true
  | _ => false

end Call

def holds (renderer : RendererInterface) : List Nat :=
  renderer.begun.map (fun frame => frameIndex frame.bufferIndex) ++ renderer.call.elim [] Call.holds

end RendererInterface

namespace ZeroCopyWorld

def submitted (world : ZeroCopyWorld) : List Nat := world.ring.submit.queue.map slotIndex

def owned (world : ZeroCopyWorld) : List Nat := world.renderer.holds ++ (world.submitted ++ world.hal.holds)

def free (world : ZeroCopyWorld) (buffer : Nat) : Prop := world.ring.bufferState buffer = 0

instance (world : ZeroCopyWorld) : DecidablePred world.free := fun _ => inferInstanceAs (Decidable (_ = _))

def allowance (world : ZeroCopyWorld) : Nat := if world.renderer.call.any (·.drained) then 1 else 2

structure Sound (count : Nat) (world : ZeroCopyWorld) : Prop where
  small : count ≤ MAX_BUFFERS
  pools : world.hal.bufferCount = count ∧ world.renderer.bufferCount = count
  submit : world.ring.submit.readIndex ≤ world.ring.submit.writeIndex
  release : world.ring.release.readIndex ≤ world.ring.release.writeIndex
  custody : Custody.Kept (Finset.range count) world.free world.owned
  budget : world.ring.release.gap + world.hal.pending + world.owned.length ≤ count + world.allowance
  rendering : ∀ call ∈ world.renderer.call, call.Valid world.ring
  consuming : ∀ call ∈ world.hal.call, call.Valid world.ring
  begun : ∀ frame ∈ world.renderer.begun, frame.valid = true
  held : ∀ frame ∈ world.hal.held, frame.valid = true

variable {count : Nat} {world : ZeroCopyWorld}

theorem Sound.owned_le (sound : world.Sound count) : world.owned.length ≤ count := by
  simpa using sound.custody.length_le

theorem pending_le (world : ZeroCopyWorld) : world.hal.pending ≤ 1 := by
  unfold HalInterface.pending
  cases world.hal.call with
  | none => exact Nat.zero_le _
  | some call =>
    cases call <;> simp only [Option.elim_some, HalInterface.Call.pending] <;> (try split) <;> omega

theorem submit_le (world : ZeroCopyWorld) : world.ring.submit.gap ≤ world.owned.length := by
  rw [← world.ring.submit.queue_length]
  simp only [owned, submitted, List.length_append, List.length_map]
  omega

section Consumer

variable {hal : HalInterface} (history : List (RendererInterface.Event ⊕ HalInterface.Event))

theorem Sound.recall (sound : world.Sound count) {release : Ring ReleaseSlot}
    (pool : hal.bufferCount = world.hal.bufferCount)
    (held : hal.held = world.hal.held) (holds : hal.call.elim [] (·.holds) = world.hal.call.elim [] (·.holds))
    (pending : hal.pending = world.hal.pending) (grown : world.ring.release.Grown release)
    (index : release.writeIndex = world.ring.release.writeIndex) (queue : release.queue = world.ring.release.queue)
    (valid : ∀ call ∈ hal.call, call.Valid { world.ring with release }) :
    ({ world with ring := { world.ring with release }, hal, history } : ZeroCopyWorld).Sound count := by
  have same : hal.holds = world.hal.holds := by rw [HalInterface.holds, held, holds, HalInterface.holds]
  have gap : release.gap = world.ring.release.gap := by rw [← release.queue_length, queue, Ring.queue_length]
  have owned : ({ world with ring := { world.ring with release }, hal, history } : ZeroCopyWorld).owned =
      world.owned := by
    simp only [ZeroCopyWorld.owned, submitted, same]
  refine { sound with
    pools := ?_, release := ?_, custody := ?_, budget := ?_, rendering := ?_,
    consuming := valid, held := ?_ }
  · exact ⟨pool.trans sound.pools.1, sound.pools.2⟩
  · simp only [grown.read, index]
    exact sound.release
  · rw [owned]
    exact sound.custody
  · rw [owned]
    simp only [gap, pending]
    exact sound.budget
  · intro call here
    have before := sound.rendering call here
    cases call with
    | draining timestampNs read => exact TryRead.Valid.grown before grown
    | _ => exact before
  · rw [held]
    exact sound.held

theorem Sound.take (sound : world.Sound count) {submit : Ring ControlRing.Slot} {slot : ControlRing.Slot}
    (pool : hal.bufferCount = world.hal.bufferCount) (held : hal.held = world.hal.held)
    (holds : (hal.call.elim [] (·.holds)).Perm (slotIndex slot :: world.hal.call.elim [] (·.holds)))
    (pending : hal.pending = world.hal.pending) (shrunk : world.ring.submit.Shrunk submit)
    (ordered : submit.readIndex ≤ submit.writeIndex) (queue : world.ring.submit.queue = slot :: submit.queue)
    (valid : ∀ call ∈ hal.call, call.Valid { world.ring with submit }) :
    ({ world with ring := { world.ring with submit }, hal, history } : ZeroCopyWorld).Sound count := by
  have owned : ({ world with ring := { world.ring with submit }, hal, history } : ZeroCopyWorld).owned.Perm
      world.owned := by
    refine List.Perm.append_left _ ?_
    simp only [submitted, HalInterface.holds, held, queue, List.map_cons, List.cons_append]
    refine ((holds.append_left _).append_left _).trans ?_
    rw [← List.append_assoc]
    exact (List.perm_middle).trans (by rw [List.append_assoc])
  refine { sound with
    pools := ?_, submit := ordered, custody := ?_, budget := ?_, rendering := ?_,
    consuming := valid, held := ?_ }
  · exact ⟨pool.trans sound.pools.1, sound.pools.2⟩
  · exact sound.custody.perm owned.symm
  · rw [owned.length_eq]
    simp only [pending]
    exact sound.budget
  · intro call here
    have before := sound.rendering call here
    cases call with
    | submitting frame fenceFd write => exact TryWrite.Valid.shrunk before shrunk
    | _ => exact before
  · rw [held]
    exact sound.held

theorem Sound.clear (sound : world.Sound count) {release : Ring ReleaseSlot} {buffer : Nat}
    (pool : hal.bufferCount = world.hal.bufferCount) (held : hal.held = world.hal.held)
    (holds : (world.hal.call.elim [] (·.holds)).Perm (buffer :: hal.call.elim [] (·.holds)))
    (pending : hal.pending = world.hal.pending + 1) (grown : world.ring.release.Grown release)
    (index : release.writeIndex = world.ring.release.writeIndex) (queue : release.queue = world.ring.release.queue)
    (valid : ∀ call ∈ hal.call, ∀ state, call.Valid { world.ring with release, bufferState := state }) :
    ({ world with ring := { world.ring with release, bufferState := Function.update world.ring.bufferState buffer 0 }
                  hal, history } : ZeroCopyWorld).Sound count := by
  have gap : release.gap = world.ring.release.gap := by rw [← release.queue_length, queue, Ring.queue_length]
  let after : ZeroCopyWorld :=
    { world with ring := { world.ring with release, bufferState := Function.update world.ring.bufferState buffer 0 }
                 hal, history }
  have owned : world.owned.Perm (buffer :: after.owned) := by
    refine List.Perm.trans (List.Perm.append_left _ ?_) List.perm_middle
    refine List.Perm.trans (List.Perm.append_left _ ?_) List.perm_middle
    rw [HalInterface.holds, HalInterface.holds, held]
    exact (holds.append_left _).trans List.perm_middle
  have length := owned.length_eq
  refine { sound with
    pools := ?_, release := ?_, custody := ?_, budget := ?_, rendering := ?_,
    consuming := ?_, held := ?_ }
  · exact ⟨pool.trans sound.pools.1, sound.pools.2⟩
  · simp only [grown.read, index]
    exact sound.release
  · refine (sound.custody.perm owned).release ?_ ?_
    · exact Function.update_self _ _ _
    · intro other apart
      simp only [free, Function.update_of_ne apart]
  · have before := sound.budget
    rw [length, List.length_cons] at before
    change release.gap + hal.pending + after.owned.length ≤ count + world.allowance
    omega
  · intro call here
    have before := sound.rendering call here
    cases call with
    | draining timestampNs read => exact TryRead.Valid.grown before grown
    | _ => exact before
  · exact fun call here => valid call here _
  · rw [held]
    exact sound.held

theorem Sound.publish (sound : world.Sound count) {release : Ring ReleaseSlot} {entry : ReleaseSlot}
    (pool : hal.bufferCount = world.hal.bufferCount) (held : hal.held = world.hal.held)
    (holds : hal.call.elim [] (·.holds) = world.hal.call.elim [] (·.holds))
    (pending : hal.pending + 1 = world.hal.pending) (grown : world.ring.release.Grown release)
    (early : world.ring.release.writeIndex ≤ release.writeIndex)
    (queue : release.queue = world.ring.release.queue ++ [entry])
    (valid : ∀ call ∈ hal.call, call.Valid { world.ring with release }) :
    ({ world with ring := { world.ring with release }, hal, history } : ZeroCopyWorld).Sound count := by
  have same : hal.holds = world.hal.holds := by rw [HalInterface.holds, held, holds, HalInterface.holds]
  have gap : release.gap = world.ring.release.gap + 1 := by
    rw [← release.queue_length, queue, List.length_append, Ring.queue_length, List.length_singleton]
  have owned : ({ world with ring := { world.ring with release }, hal, history } : ZeroCopyWorld).owned =
      world.owned := by
    simp only [ZeroCopyWorld.owned, submitted, same]
  refine { sound with
    pools := ?_, release := ?_, custody := ?_, budget := ?_, rendering := ?_,
    consuming := valid, held := ?_ }
  · exact ⟨pool.trans sound.pools.1, sound.pools.2⟩
  · simp only [grown.read]
    exact UInt32.le_trans sound.release early
  · rw [owned]
    exact sound.custody
  · have before := sound.budget
    rw [owned]
    simp only [gap]
    exact le_trans (by omega) before
  · intro call here
    have before := sound.rendering call here
    cases call with
    | draining timestampNs read => exact TryRead.Valid.grown before grown
    | _ => exact before
  · rw [held]
    exact sound.held

theorem grown_refl {E : Type} (ring : Ring E) : ring.Grown ring := ⟨rfl, [], (List.append_nil _).symm⟩

theorem shrunk_refl {E : Type} (ring : Ring E) : ring.Shrunk ring := ⟨rfl, rfl, le_rfl⟩

theorem Sound.proceed (sound : world.Sound count) (pool : hal.bufferCount = world.hal.bufferCount)
    (held : hal.held = world.hal.held) (holds : hal.call.elim [] (·.holds) = world.hal.call.elim [] (·.holds))
    (pending : hal.pending = world.hal.pending) (valid : ∀ call ∈ hal.call, call.Valid world.ring) :
    ({ world with hal, history } : ZeroCopyWorld).Sound count :=
  sound.recall history pool held holds pending (grown_refl _) rfl rfl valid

theorem Sound.again (sound : world.Sound count) {call next : HalInterface.Call} (here : world.hal.call = some call)
    (holds : call.holds = []) (pending : call.pending = 0) (nothing : next.holds = []) (nor : next.pending = 0)
    {after : Option HalInterface.Call} (again : after = some next ∨ after = none)
    (valid : next.Valid world.ring) :
    ({ world with hal := { world.hal with call := after }, history } : ZeroCopyWorld).Sound count := by
  have held : world.hal.call.elim [] (·.holds) = [] := by rw [here]; exact holds
  have owed : world.hal.pending = 0 := by rw [HalInterface.pending, here]; exact pending
  refine sound.proceed _ rfl rfl ?_ ?_ ?_
  · rw [held]
    rcases again with rfl | rfl
    · exact nothing
    · rfl
  · rw [owed]
    rcases again with rfl | rfl
    · exact nor
    · rfl
  · rcases again with rfl | rfl
    · rintro _ ⟨⟩
      exact valid
    · rintro _ ⟨⟩

theorem small_index {index : UInt32} (small : index.toNat < MAX_BUFFERS) : (0 : Int32) ≤ index.toInt32 := by
  have listed : index.toNat = 0 ∨ index.toNat = 1 ∨ index.toNat = 2 ∨ index.toNat = 3 := by
    unfold MAX_BUFFERS at small
    omega
  rw [← UInt32.ofNat_toNat (x := index)]
  obtain same | same | same | same := listed <;> rw [same] <;> decide

theorem Sound.owned_small (sound : world.Sound count) {buffer : Nat} (member : buffer ∈ world.owned) :
    buffer < MAX_BUFFERS :=
  (Finset.mem_range.mp (sound.custody.inside buffer member)).trans_le sound.small

theorem Sound.deliver (sound : world.Sound count) {slot : ControlRing.Slot}
    (here : world.hal.call = some (.delivering slot)) :
    ({ world with hal := (world.hal.deliver slot).1, history } : ZeroCopyWorld).Sound count := by
  have member : slotIndex slot ∈ world.owned := by
    simp [owned, HalInterface.holds, here, HalInterface.Call.holds]
  have valid := small_index (sound.owned_small member)
  have same : (world.hal.deliver slot).1.holds = world.hal.holds := by
    simp [HalInterface.holds, HalInterface.deliver, HalInterface.AcquiredFrame.valid, valid, here,
      HalInterface.Call.holds,
      frameIndex, slotIndex]
  have pending : (world.hal.deliver slot).1.pending = world.hal.pending := by
    simp [HalInterface.pending, HalInterface.deliver, here, HalInterface.Call.pending]
  have owned : ({ world with hal := (world.hal.deliver slot).1, history } : ZeroCopyWorld).owned =
      world.owned := by
    simp only [ZeroCopyWorld.owned, submitted, same]
  refine { sound with custody := ?_, budget := ?_, consuming := by simp [HalInterface.deliver], held := ?_ }
  · rw [owned]
    exact sound.custody
  · rw [owned]
    simp only [pending]
    exact sound.budget
  · intro frame member
    simp only [HalInterface.deliver, HalInterface.AcquiredFrame.valid, valid, decide_true, if_true,
      List.mem_append,
      List.mem_singleton] at member
    rcases member with earlier | rfl
    · exact sound.held frame earlier
    · simpa [HalInterface.AcquiredFrame.valid] using valid

theorem Sound.releaseFrame (sound : world.Sound count) (idle : world.hal.call = none)
    {frame : HalInterface.AcquiredFrame} (member : frame ∈ world.hal.held) :
    ({ world with hal := world.hal.releaseFrame frame } : ZeroCopyWorld).Sound count := by
  have valid := sound.held frame member
  have shape : world.hal.releaseFrame frame =
      { world.hal with held := world.hal.held.erase frame
                       call := some (.releasing (.start { bufferIndex := frame.bufferIndex.toUInt32 })) } := by
    simp [HalInterface.releaseFrame, valid]
  rw [shape]
  have holds : world.hal.holds.Perm (HalInterface.holds { world.hal with
      held := world.hal.held.erase frame
      call := some (.releasing (.start { bufferIndex := frame.bufferIndex.toUInt32 })) }) := by
    have moved := (List.perm_cons_erase member).map fun frame => frameIndex frame.bufferIndex
    simp only [HalInterface.holds, idle, Option.elim_none, List.append_nil]
    exact moved.trans (List.perm_append_singleton _ _).symm
  have owned := (holds.append_left world.submitted).append_left world.renderer.holds
  refine { sound with custody := sound.custody.perm owned, budget := ?_, consuming := ?_, held := ?_ }
  · have before := sound.budget
    rw [ZeroCopyWorld.owned, owned.length_eq, HalInterface.pending, idle] at before
    exact before
  · rintro _ ⟨⟩
    trivial
  · exact fun other there => sound.held other (List.mem_of_mem_erase there)

structure Releases (wrap : TryWrite ReleaseSlot → HalInterface.Call) (extra : List Nat) : Prop where
  holds : ∀ write, (wrap write).holds = extra ++ HalInterface.uncleared write
  pending : ∀ write, (wrap write).pending = if ControlRing.cleared write then 1 else 0
  valid : ∀ write ring, (wrap write).Valid ring = write.Valid ring.release

theorem Sound.releases (sound : world.Sound count) {wrap : TryWrite ReleaseSlot → HalInterface.Call}
    {extra : List Nat}
    (releases : Releases wrap extra) {write : TryWrite ReleaseSlot} (here : world.hal.call = some (wrap write))
    {result : ControlRing × CallState (TryWrite ReleaseSlot) Bool}
    (stepped : world.ring.tryWriteRelease write = result)
    (early : world.ring.release.writeIndex ≤ result.1.release.writeIndex)
    (pool : hal.bufferCount = world.hal.bufferCount) (held : hal.held = world.hal.held)
    (shape : match result.2 with
      | .running next => hal.call = some (wrap next)
      | .done _ => hal.call.elim [] (·.holds) = extra ∧ hal.pending = 0 ∧ ∀ call ∈ hal.call, call.Valid result.1) :
    ({ world with ring := result.1, hal, history } : ZeroCopyWorld).Sound count := by
  have valid := sound.consuming _ here
  rw [releases.valid] at valid
  have outcome := ControlRing.tryWriteRelease_outcome valid
  rw [stepped] at outcome
  have before : world.hal.call.elim [] (·.holds) = extra ++ HalInterface.uncleared write := by
    rw [here]
    exact releases.holds write
  have owing : world.hal.pending = if ControlRing.cleared write then 1 else 0 := by
    rw [HalInterface.pending, here]
    exact releases.pending write
  cases outcome with
  | running release next valid same kept grown index queue =>
    refine sound.recall history pool held ?_ ?_ grown index queue ?_
    · rw [before, shape]
      simp only [Option.elim_some, releases.holds, HalInterface.uncleared, kept, same]
    · rw [owing, HalInterface.pending, shape]
      simp only [Option.elim_some, releases.pending, kept]
    · rw [shape]
      rintro _ ⟨⟩
      rw [releases.valid]
      exact valid
  | clears next release valid same was now grown index queue =>
    refine sound.clear history pool held ?_ ?_ grown index queue ?_
    · rw [before, shape]
      simp only [Option.elim_some, releases.holds, HalInterface.uncleared, was, now, if_true,
        Bool.false_eq_true, if_false,
        List.append_nil]
      exact List.perm_append_singleton _ _
    · rw [owing, HalInterface.pending, shape]
      simp only [Option.elim_some, releases.pending, was, now, if_true, Bool.false_eq_true, if_false]
    · rw [shape]
      rintro _ ⟨⟩ state
      rw [releases.valid]
      exact valid
  | full unread =>
    have bounded := sound.budget
    have allowed : world.allowance ≤ 2 := by
      unfold allowance
      split <;> omega
    have small := sound.small
    simp only [MAX_BUFFERS, show RING_SIZE.toNat = 16 from rfl] at small unread
    omega
  | published release was grown index queue =>
    obtain ⟨holds, pending, finished⟩ := shape
    refine sound.publish history pool held ?_ ?_ grown early queue finished
    · rw [before, holds]
      simp [HalInterface.uncleared, was]
    · rw [pending, owing, was]
      rfl

theorem skipping_releases (timeoutMs : Int) (latest : ControlRing.Slot) :
    Releases (HalInterface.Call.skipping timeoutMs latest) [slotIndex latest] :=
  ⟨fun _ => rfl, fun _ => rfl, fun _ _ => rfl⟩

theorem releasing_releases : Releases HalInterface.Call.releasing [] :=
    ⟨fun _ => rfl, fun _ => rfl, fun _ _ => rfl⟩

theorem Sound.consume (sound : world.Sound count) {call : HalInterface.Call} (here : world.hal.call = some call)
    (early : world.ring.release.writeIndex ≤ (world.hal.step world.ring call).1.release.writeIndex) :
    (world.consumed (world.hal.step world.ring call)).Sound count := by
  have valid := sound.consuming call here
  have holds : world.hal.call.elim [] (·.holds) = call.holds := by rw [here]; rfl
  have owing : world.hal.pending = call.pending := by rw [HalInterface.pending, here]; rfl
  cases call with
  | draining timeoutMs latest read =>
    have taken := TryRead.step_taken valid sound.submit
    simp only [HalInterface.step]
    generalize read.step true world.ring.submit = result at taken
    cases taken with
    | running next valid =>
      exact sound.proceed _ rfl rfl (by rw [holds]; rfl) (by rw [owing]; rfl) (by rintro _ ⟨⟩; exact valid)
    | empty queue =>
      cases latest with
      | none =>
        exact sound.again _ here rfl rfl rfl rfl (ite_eq_or_eq _ _ _) trivial
      | some slot =>
        exact sound.proceed _ rfl rfl (by rw [holds]; rfl) (by rw [owing]; rfl) (by rintro _ ⟨⟩; trivial)
    | took submit slot shrunk ordered queue =>
      cases latest with
      | none =>
        exact sound.take _ rfl rfl (by rw [holds]; exact .refl _) (by rw [owing]; rfl) shrunk ordered queue
          (by rintro _ ⟨⟩; trivial)
      | some skipped =>
        exact sound.take _ rfl rfl (by rw [holds]; exact .refl _) (by rw [owing]; rfl) shrunk ordered queue
          (by rintro _ ⟨⟩; trivial)
  | skipping timeoutMs latest write =>
    simp only [HalInterface.step] at early ⊢
    generalize stepped : world.ring.tryWriteRelease write = result at early
    obtain ⟨ring, next | done⟩ := result
    · exact sound.releases _ (skipping_releases timeoutMs latest) here stepped early rfl rfl rfl
    · exact sound.releases _ (skipping_releases timeoutMs latest) here stepped early rfl rfl
        ⟨rfl, rfl, by rintro _ ⟨⟩; trivial⟩
  | polling timeoutMs waited read =>
    have taken := TryRead.step_taken valid sound.submit
    simp only [HalInterface.step]
    generalize read.step true world.ring.submit = result at taken
    cases taken with
    | running next valid =>
      exact sound.proceed _ rfl rfl (by rw [holds]; rfl) (by rw [owing]; rfl) (by rintro _ ⟨⟩; exact valid)
    | empty queue =>
      exact sound.again _ here rfl rfl rfl rfl (ite_eq_or_eq _ _ _) trivial
    | took submit slot shrunk ordered queue =>
      exact sound.take _ rfl rfl (by rw [holds]; exact .refl _) (by rw [owing]; rfl) shrunk ordered queue
        (by rintro _ ⟨⟩; trivial)
  | next timeoutMs read =>
    have taken := TryRead.step_taken valid sound.submit
    simp only [HalInterface.step]
    generalize read.step true world.ring.submit = result at taken
    cases taken with
    | running next valid =>
      exact sound.proceed _ rfl rfl (by rw [holds]; rfl) (by rw [owing]; rfl) (by rintro _ ⟨⟩; exact valid)
    | empty queue =>
      exact sound.again _ here rfl rfl rfl rfl (ite_eq_or_eq _ _ _) trivial
    | took submit slot shrunk ordered queue =>
      exact sound.take _ rfl rfl (by rw [holds]; exact .refl _) (by rw [owing]; rfl) shrunk ordered queue
        (by rintro _ ⟨⟩; trivial)
  | delivering slot => exact sound.deliver _ here
  | releasing write =>
    simp only [HalInterface.step] at early ⊢
    generalize stepped : world.ring.tryWriteRelease write = result at early
    obtain ⟨ring, next | done⟩ := result
    · exact sound.releases _ releasing_releases here stepped early rfl rfl rfl
    · exact sound.releases _ releasing_releases here stepped early rfl rfl ⟨rfl, rfl, by simp⟩

end Consumer

section Producer

variable {renderer : RendererInterface} (history : List (RendererInterface.Event ⊕ HalInterface.Event))

theorem consuming_valid {ring after : ControlRing} {call : HalInterface.Call} (valid : call.Valid ring)
    (submit : ring.submit.Grown after.submit) (release : ring.release.Shrunk after.release) :
    call.Valid after := by
  cases call with
  | draining | polling | next => exact TryRead.Valid.grown valid submit
  | skipping | releasing => exact TryWrite.Valid.shrunk valid release
  | delivering => trivial

theorem Sound.render (sound : world.Sound count) {submit : Ring ControlRing.Slot} {release : Ring ReleaseSlot}
    (pool : renderer.bufferCount = world.renderer.bufferCount)
    (holds : (renderer.holds ++ submit.queue.map slotIndex).Perm (world.renderer.holds ++ world.submitted))
    (begun : ∀ frame ∈ renderer.begun, frame.valid = true) (grown : world.ring.submit.Grown submit)
    (submitOrder : submit.readIndex ≤ submit.writeIndex) (shrunk : world.ring.release.Shrunk release)
    (releaseOrder : release.readIndex ≤ release.writeIndex)
    (budget : release.gap + world.hal.pending + world.owned.length ≤
      count + if renderer.call.any (·.drained) then 1 else 2)
    (valid : ∀ call ∈ renderer.call, call.Valid { world.ring with submit, release }) :
    ({ world with ring := { world.ring with submit, release }, renderer, history } : ZeroCopyWorld).Sound
      count := by
  let after : ZeroCopyWorld := { world with ring := { world.ring with submit, release }, renderer, history }
  have owned : after.owned.Perm world.owned := by
    have moved := holds.append_right world.hal.holds
    rwa [List.append_assoc, List.append_assoc] at moved
  refine { sound with
    pools := ⟨sound.pools.1, pool.trans sound.pools.2⟩, submit := submitOrder, release := releaseOrder
    custody := sound.custody.perm owned.symm, budget := ?_, rendering := valid, consuming := ?_
    begun := begun }
  · change release.gap + world.hal.pending + after.owned.length ≤ _
    rw [owned.length_eq]
    exact budget
  · exact fun call here => consuming_valid (sound.consuming call here) grown shrunk

theorem Sound.claim (sound : world.Sound count) {index : Nat} {timestampNs : Int64}
    (here : world.renderer.call = some (.acquiring timestampNs index)) (inside : index < count)
    (free : world.ring.bufferState index = 0) :
    ({ world with
        ring := { world.ring with bufferState := Function.update world.ring.bufferState index 1 }
        renderer := { world.renderer with call := none
                                          begun := world.renderer.begun ++ [{ bufferIndex := Int32.ofNat index, timestampNs }] }
        history } : ZeroCopyWorld).Sound count := by
  have small : index < MAX_BUFFERS := inside.trans_le sound.small
  have named : frameIndex (Int32.ofNat index) = index ∧ (0 : Int32) ≤ Int32.ofNat index := by
    unfold MAX_BUFFERS at small
    obtain rfl | rfl | rfl | rfl : index = 0 ∨ index = 1 ∨ index = 2 ∨ index = 3 := by omega
    all_goals decide
  let renderer : RendererInterface :=
    { world.renderer with call := none
                          begun := world.renderer.begun ++ [{ bufferIndex := Int32.ofNat index, timestampNs }] }
  let ring : ControlRing := { world.ring with bufferState := Function.update world.ring.bufferState index 1 }
  have holds : renderer.holds = world.renderer.holds ++ [index] := by
    simp [renderer, RendererInterface.holds, here, RendererInterface.Call.holds, named]
  let after : ZeroCopyWorld := { world with ring, renderer, history }
  have owned : (index :: world.owned).Perm after.owned := by
    change (index :: (world.renderer.holds ++ (world.submitted ++ world.hal.holds))).Perm
      (renderer.holds ++ (world.submitted ++ world.hal.holds))
    rw [holds, List.append_assoc]
    exact List.perm_middle.symm
  refine { sound with custody := ?_, budget := ?_, rendering := by simp, consuming := ?_, begun := ?_ }
  · refine (sound.custody.claim (Finset.mem_range.mpr inside) free ?_ ?_).perm owned
    · simp [ZeroCopyWorld.free]
    · intro other apart
      simp only [ZeroCopyWorld.free, Function.update_of_ne apart]
  · have before := sound.budget
    rw [allowance, here] at before
    change world.ring.release.gap + world.hal.pending + after.owned.length ≤ count + 2
    rw [← owned.length_eq, List.length_cons]
    simp only [Option.any_some, RendererInterface.Call.drained, if_true] at before
    omega
  · exact fun call there => consuming_valid (sound.consuming call there) (grown_refl _) (shrunk_refl _)
  · intro frame member
    rcases List.mem_append.mp member with earlier | last
    · exact sound.begun frame earlier
    · cases List.mem_singleton.mp last
      simpa [RendererInterface.Frame.valid] using named.2

theorem Sound.submitFrame (sound : world.Sound count) (idle : world.renderer.call = none)
    {frame : RendererInterface.Frame} (member : frame ∈ world.renderer.begun) (fenceFd : Int32) :
    (world.rendered (world.ring, world.renderer.submitFrame frame fenceFd)).Sound count := by
  have valid := sound.begun frame member
  unfold rendered RendererInterface.submitFrame
  rw [if_pos valid]
  refine sound.render _ rfl ?_ ?_ (grown_refl _) sound.submit (shrunk_refl _) sound.release ?_ ?_
  · have moved := (List.perm_cons_erase member).map fun frame => frameIndex frame.bufferIndex
    refine List.Perm.append_right _ ?_
    simp only [RendererInterface.holds, idle, Option.elim_none, List.append_nil]
    exact (List.perm_append_singleton _ _).trans moved.symm
  · exact fun other there => sound.begun other (List.mem_of_mem_erase there)
  · have before := sound.budget
    rw [allowance, idle] at before
    exact before
  · rintro _ ⟨⟩
    trivial

theorem Sound.produce (sound : world.Sound count) {call : RendererInterface.Call}
    (here : world.renderer.call = some call)
    (early : world.ring.submit.writeIndex ≤ (world.renderer.step world.ring call).1.submit.writeIndex) :
    (world.rendered (world.renderer.step world.ring call)).Sound count := by
  have valid := sound.rendering call here
  have budget := sound.budget
  have holds : world.renderer.holds =
      world.renderer.begun.map (fun frame => frameIndex frame.bufferIndex) ++ call.holds := by
    rw [RendererInterface.holds, here]
    rfl
  cases call with
  | draining timestampNs read =>
    have taken := TryRead.step_taken valid sound.release
    rw [allowance, here] at budget
    simp only [RendererInterface.step]
    generalize read.step true world.ring.release = result at taken
    cases taken with
    | running next valid =>
      exact sound.render _ rfl (by rw [holds]; exact .refl _) sound.begun (grown_refl _) sound.submit
        (shrunk_refl _) sound.release
        budget (by rintro _ ⟨⟩; exact valid)
    | empty queue =>
      refine sound.render _ rfl (by rw [holds]; exact .refl _) sound.begun (grown_refl _) sound.submit
        (shrunk_refl _) sound.release
        ?_ (by rintro _ ⟨⟩; trivial)
      have gap : world.ring.release.gap = 0 := by rw [← Ring.queue_length, queue, List.length_nil]
      have pending := pending_le world
      have owned := sound.owned_le
      change world.ring.release.gap + world.hal.pending + world.owned.length ≤ count + 1
      omega
    | took release entry shrunk ordered queue =>
      refine sound.render _ rfl (by rw [holds]; exact .refl _) sound.begun
        (grown_refl _) sound.submit shrunk ordered
        ?_ (by rintro _ ⟨⟩; trivial)
      have less := shrunk.gap
      exact le_trans (by omega) budget
  | acquiring timestampNs index =>
    rw [allowance, here] at budget
    simp only [RendererInterface.step]
    split
    next inside =>
      split
      next free => exact sound.claim _ here (by rwa [sound.pools.2] at inside) free
      next taken =>
        exact sound.render _ rfl (by rw [holds]; exact .refl _) sound.begun (grown_refl _) sound.submit
          (shrunk_refl _)
          sound.release budget (by rintro _ ⟨⟩; trivial)
    next outside =>
      refine sound.render _ rfl (by rw [holds]; exact .refl _) sound.begun (grown_refl _) sound.submit
        (shrunk_refl _)
        sound.release (le_trans budget ?_) (by simp)
      change count + 1 ≤ count + 2
      omega
  | submitting frame fenceFd write =>
    have outcome := TryWrite.step_outcome valid
    rw [allowance, here] at budget
    simp only [RendererInterface.step] at early ⊢
    generalize write.step world.ring.submit = result at outcome early
    cases outcome with
    | running submit next valid same grown index queue =>
      refine sound.render _ rfl ?_ sound.begun grown ?_ (shrunk_refl _) sound.release budget
        (by rintro _ ⟨⟩; exact valid)
      · rw [holds, queue]
        simp only [RendererInterface.holds, Option.elim_some, RendererInterface.Call.holds, same]
        exact .refl _
      · rw [grown.read, index]
        exact sound.submit
    | full unread =>
      have owned := sound.owned_le
      have bounded := submit_le world
      have small := sound.small
      simp only [MAX_BUFFERS, show RING_SIZE.toNat = 16 from rfl] at small unread
      omega
    | published submit room grown index queue =>
      refine sound.render _ rfl ?_ sound.begun grown ?_ (shrunk_refl _) sound.release budget (by simp)
      · rw [holds, queue]
        simp only [RendererInterface.holds, Option.elim_none, List.append_nil, RendererInterface.Call.holds,
          List.map_append,
          List.map_cons, List.map_nil, submitted, List.append_assoc]
        exact List.perm_append_comm.append_left _
      · rw [grown.read]
        exact UInt32.le_trans sound.submit early
  | refused frame fenceFd => exact valid.elim

end Producer

def early (world : ZeroCopyWorld) (move : ZeroCopyMove) : Option ZeroCopyWorld :=
  (world.perform move).filter fun after =>
    world.ring.submit.writeIndex ≤ after.ring.submit.writeIndex ∧
      world.ring.release.writeIndex ≤ after.ring.release.writeIndex

def EarlyStep (world : ZeroCopyWorld) (move : ZeroCopyMove) (after : ZeroCopyWorld) : Prop :=
  world.early move = some after

theorem boot_owned (count : Nat) : (boot count).owned = [] := by
  simp [boot, owned, submitted, HalInterface.holds, RendererInterface.holds, Ring.queue, Ring.gap]

theorem boot_sound (small : count ≤ MAX_BUFFERS) : (boot count).Sound count where
  small := small
  pools := ⟨rfl, rfl⟩
  submit := UInt32.le_refl _
  release := UInt32.le_refl _
  custody := by
    rw [boot_owned]
    exact ⟨.nil, by simp, fun item _ => iff_of_true rfl (by simp)⟩
  budget := by
    rw [boot_owned]
    simp [boot, Ring.gap, HalInterface.pending]
  rendering := by simp [boot]
  consuming := by simp [boot]
  begun := by simp [boot]
  held := by simp [boot]

theorem Sound.step (sound : world.Sound count) {move : ZeroCopyMove} {after : ZeroCopyWorld}
    (next : world.EarlyStep move after) : after.Sound count := by
  obtain ⟨next, forward⟩ := Option.filter_eq_some_iff.mp next
  obtain ⟨submit, release⟩ := of_decide_eq_true forward
  have budget := sound.budget
  cases move with
  | beginFrame timestampNs =>
    simp only [perform] at next
    split at next <;> cases next
    next idle =>
      have none : world.renderer.call = none := by simpa using idle
      rw [allowance, none] at budget
      refine sound.render _ rfl ?_ sound.begun (grown_refl _) sound.submit (shrunk_refl _) sound.release budget ?_
      · simp [RendererInterface.holds, RendererInterface.beginFrame, none, RendererInterface.Call.holds, submitted]
      · rintro _ ⟨⟩
        trivial
  | submitFrame place fenceFd =>
    simp only [perform] at next
    split at next
    · cases next
    next idle =>
      obtain ⟨frame, there, rfl⟩ := Option.map_eq_some_iff.mp next
      exact sound.submitFrame (by simpa using idle) (List.mem_of_getElem? there) fenceFd
  | renderer =>
    obtain ⟨call, here, rfl⟩ := Option.map_eq_some_iff.mp next
    exact sound.produce here submit
  | acquireLatestFrame timeoutMs | acquireNextFrame timeoutMs =>
    simp only [perform] at next
    split at next <;> cases next
    next idle =>
      have none : world.hal.call = none := by simpa using idle
      refine sound.proceed _ rfl rfl (by rw [none]; rfl)
        (by rw [HalInterface.pending, HalInterface.pending, none]; rfl) ?_
      rintro _ ⟨⟩
      trivial
  | releaseFrame place =>
    simp only [perform] at next
    split at next
    · cases next
    next idle =>
      obtain ⟨frame, there, rfl⟩ := Option.map_eq_some_iff.mp next
      exact sound.releaseFrame (by simpa using idle) (List.mem_of_getElem? there)
  | hal =>
    obtain ⟨call, here, rfl⟩ := Option.map_eq_some_iff.mp next
    exact sound.consume here release
  | signal fd =>
    simp only [perform] at next
    split at next <;> cases next
    exact { sound with }

theorem sound_run (small : count ≤ MAX_BUFFERS) {moves : List ZeroCopyMove}
    (run : Runs.Run EarlyStep (boot count) moves world) : world.Sound count :=
  run.invariant (fun _ world => world.Sound count) (boot_sound small) fun _ _ _ _ _ sound next => sound.step next

def checkingRelease : HalInterface.Call → Bool
  | .skipping _ _ (.loaded ..) | .releasing (.loaded ..) => true
  | _ => false

structure Exclusive (count : Nat) (world : ZeroCopyWorld) : Prop where
  places : ∀ buffer < count, (if world.ring.bufferState buffer = 0 then 1 else 0) +
    world.renderer.holds.count buffer + world.submitted.count buffer + world.hal.holds.count buffer = 1
  handed : ∀ frame ∈ world.hal.held, frameIndex frame.bufferIndex < count ∧
    world.ring.bufferState (frameIndex frame.bufferIndex) ≠ 0 ∧ frameIndex frame.bufferIndex ∉ world.renderer.holds
  released : ∀ call ∈ world.hal.call, checkingRelease call = true → world.ring.release.gap < RING_SIZE.toNat

theorem Sound.exclusive (sound : world.Sound count) : world.Exclusive count where
  places := by
    intro buffer inside
    have single := sound.custody.single (Finset.mem_range.mpr inside)
    rw [owned, List.count_append, List.count_append, ← Nat.add_assoc, ← Nat.add_assoc] at single
    exact single
  handed := by
    intro frame member
    have there : frameIndex frame.bufferIndex ∈ world.hal.holds :=
      List.mem_append_left _ (List.mem_map_of_mem member)
    have here : frameIndex frame.bufferIndex ∈ world.owned :=
      List.mem_append_right _ (List.mem_append_right _ there)
    have inside := sound.custody.inside _ here
    refine ⟨Finset.mem_range.mp inside, fun free => (sound.custody.marked _ inside).mp free here, fun drawn => ?_⟩
    have apart := List.disjoint_of_nodup_append sound.custody.nodup
    exact apart drawn (List.mem_append_right _ there)
  released := by
    intro call _ _
    have bounded := sound.budget
    have allowed : world.allowance ≤ 2 := by
      unfold allowance
      split <;> omega
    have small := sound.small
    simp only [MAX_BUFFERS] at small
    simp only [show RING_SIZE.toNat = 16 from rfl]
    omega

theorem buffer_ownership (count : Nat) (moves : List ZeroCopyMove) (world : ZeroCopyWorld)
    (small : count ≤ MAX_BUFFERS)
    (run : Runs.Run EarlyStep (boot count) moves world) : world.Exclusive count :=
  (sound_run small run).exclusive

def roundTrip : List ZeroCopyMove :=
  [.beginFrame 5] ++ List.replicate 3 .renderer ++ [.submitFrame 0 (-1)] ++ List.replicate 7 .renderer ++
    [.acquireLatestFrame 0] ++ List.replicate 10 .hal ++ [.releaseFrame 0] ++ List.replicate 5 .hal

theorem buffer_ownership_single : ∃ world : ZeroCopyWorld, world.Exclusive 1 ∧ world.hal.frameCount = 1 := by
  have computed : (roundTrip.foldlM early (boot 1)).any
      (fun world => world.hal.frameCount = 1 ∧ world.ring.bufferState 0 = 0) = true := by decide +kernel
  obtain ⟨world, run, reached⟩ := Runs.Run.of_any computed
  exact ⟨world, buffer_ownership 1 roundTrip world (by decide) run, (of_decide_eq_true reached).1⟩

end ZeroCopyWorld

end VirtualCamera
