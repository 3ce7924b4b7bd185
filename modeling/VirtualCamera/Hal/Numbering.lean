import VirtualCamera.Hal.Conservation
import VirtualCamera.Hal.Evolution

set_option autoImplicit false

namespace VirtualCamera

open Descriptors

namespace StableHal

structure Numbers (before after : StableHal) : Prop where
  received : after.framesReceived = before.framesReceived
  latest : ∀ slot, (after.latest slot).sequence = (before.latest slot).sequence ∨ (after.latest slot).sequence = 0

variable {hal before middle after : StableHal}

theorem Numbers.refl (hal : StableHal) : Numbers hal hal := ⟨rfl, fun _ => .inl rfl⟩

theorem Numbers.trans (first : Numbers before middle) (second : Numbers middle after) : Numbers before after := by
  refine ⟨second.received.trans first.received, fun slot => ?_⟩
  rcases second.latest slot with same | gone
  · rw [same]
    exact first.latest slot
  · exact .inr gone

theorem Numbers.of_same (received : after.framesReceived = before.framesReceived)
    (latest : after.latest = before.latest) :
    Numbers before after := ⟨received, fun slot => .inl (by rw [latest])⟩

theorem Numbers.of_update {slot : Slot} {frame : Frame} (received : after.framesReceived = before.framesReceived)
    (latest : after.latest = Function.update before.latest slot frame)
    (sequence : frame.sequence = (before.latest slot).sequence) : Numbers before after := by
  refine ⟨received, fun other => .inl ?_⟩
  rw [latest]
  by_cases same : other = slot
  next =>
    subst same
    rw [Function.update_self, sequence]
  next => rw [Function.update_of_ne same]

theorem closeFd_numbers (hal : StableHal) (fd : Option Fd) : Numbers hal (hal.closeFd fd) :=
  .of_same (by simp) (by simp)

theorem Passes.numbers (passes : Passes before after) : Numbers before after := by
  induction passes with
  | same _ latest received => exact .of_same received latest
  | reap hal slot =>
    refine ⟨Passes.framesReceived (.reap hal slot), fun other => ?_⟩
    simp only [StableHal.reap]
    by_cases same : other = slot
    next =>
      subst same
      split <;> simp [setFrame]
    next =>
      split <;> exact .inl (by simp [setFrame, Function.update_of_ne same])
  | consolidate hal slot => exact .of_update rfl rfl rfl
  | trans _ _ first second => exact first.trans second

theorem Read.numbers {slot : Int} {wantsSequence : Bool} {afterSequence : Nat} {configurationToken : Int}
    {outcome : Option Acquired × StableHal}
    (read : Read hal slot wantsSequence afterSequence configurationToken outcome) : Numbers hal outcome.2 := by
  cases read with
  | refused middle kernel passes control moved => exact passes.numbers.trans (.of_same rfl rfl)
  | granted index middle ahb fence kernel valid passes control token current present live newer copied =>
    exact passes.numbers.trans (.of_update rfl rfl rfl)

theorem closeAll_numbers (hal : StableHal) (fences : List Fd) : Numbers hal (hal.closeAll fences) := by
  induction fences generalizing hal with
  | nil => exact .refl hal
  | cons fence fences ih => exact (closeFd_numbers hal (some fence)).trans (ih _)

theorem releaseFrame_numbers (hal : StableHal) (slot : Int) (ahb : Ahb) (readFences : List Fd) :
    Numbers hal (hal.releaseFrame slot ahb readFences) := by
  cases found : (validSlot slot).filter fun slot => (hal.latest slot).ahb == some ahb with
  | none =>
    simp only [releaseFrame, found]
    exact (closeAll_numbers hal readFences).trans (.of_same rfl rfl)
  | some index =>
    obtain ⟨valid, stored⟩ := Option.filter_eq_some_iff.mp found
    have read := releaseFrame_found hal index ahb readFences (by simpa using stored)
    rw [validSlot_eq_some valid]
    have counted : Numbers hal (hal.returned index readFences) := .of_update rfl rfl rfl
    exact counted.trans read.1.numbers

end StableHal

open StableHal

def HalEvent.asks (world : HalWorld) : HalEvent → Option (Slot × EnqueueResult)
  | .enqueue slot handle imported width height format timestampNs acquireFence configurationToken =>
    some (slot, (world.hal.enqueue slot handle imported width height format timestampNs acquireFence
      configurationToken).1)
  | .wake slot frame timedOut => some (slot, (world.hal.enqueueWake slot frame timedOut).1)
  | _ => none

namespace HalWorld

variable {world after : HalWorld} {event : HalEvent} {slot other : Slot} {sequence : Nat} {fence : Option Fd}

inductive Submitted (world : HalWorld) (slot : Slot) (after : HalWorld) : EnqueueResult → Prop where
  | refused (result : EnqueueResult) (unaccepted : ∀ fence, result ≠ .returned .ok fence)
      (numbers : Numbers world.hal after.hal) (retired : after.retired = world.retired) :
      Submitted world slot after result
  | stored (fence : Option Fd) (received : after.hal.framesReceived = world.hal.framesReceived + 1)
      (latest : (after.hal.latest slot).sequence = world.hal.framesReceived + 1)
      (others : ∀ other, other ≠ slot → (after.hal.latest other).sequence = (world.hal.latest other).sequence ∨
        (after.hal.latest other).sequence = 0)
      (retired : after.retired =
        fence.toList.map (fun fd => ⟨slot, (world.hal.latest slot).sequence, fd⟩) ++ world.retired) :
      Submitted world slot after (.returned .ok fence)

theorem answer_submitted {frame : Submission} {outcome : EnqueueResult × StableHal} (asked : HalWorld)
    (enqueued : Enqueued world.hal slot frame outcome) (hal : asked.hal = world.hal)
    (retired : asked.retired = world.retired) : Submitted world slot (asked.answer slot outcome) outcome.1 := by
  cases enqueued with
  | rejected code middle passes control =>
    exact .refused _ (by simp) (passes.numbers.trans (closeFd_numbers middle _)) retired
  | waiting after passes control => exact .refused _ (by simp) passes.numbers retired
  | accepted middle passes control admitted idle single =>
    have swapped := middle.swap_latest slot frame
    refine .stored (middle.latest slot).readFences.getLast? ?_ ?_ (fun other elsewhere => ?_) ?_
    · exact (middle.swap_framesReceived slot frame).trans (by rw [passes.framesReceived])
    · change ((middle.swap slot frame).2.latest slot).sequence = _
      rw [swapped, Function.update_self, stored, passes.framesReceived]
    · change ((middle.swap slot frame).2.latest other).sequence = _ ∨
        ((middle.swap slot frame).2.latest other).sequence = _
      rw [swapped, Function.update_of_ne elsewhere]
      exact passes.numbers.latest other
    · rw [← hal, ← retired]
      rfl

theorem perform_asked {result : EnqueueResult} (asked : event.asks world = some (slot, result)) :
    Submitted world slot (world.perform event) result := by
  cases event with
  | enqueue chosen handle imported width height format timestampNs acquireFence configurationToken =>
    obtain ⟨rfl, rfl⟩ := Prod.mk.inj (Option.some.inj asked)
    exact answer_submitted _ (enqueue_enqueued world.hal chosen handle imported width height format timestampNs
      acquireFence configurationToken) rfl rfl
  | wake chosen frame timedOut =>
    obtain ⟨rfl, rfl⟩ := Prod.mk.inj (Option.some.inj asked)
    exact answer_submitted _ (enqueueWake_enqueued world.hal chosen frame timedOut) rfl rfl
  | _ => cases asked

theorem perform_numbers (unasked : event.asks world = none) :
    Numbers world.hal (world.perform event).hal ∧ (world.perform event).retired = world.retired := by
  cases event with
  | control op => exact ⟨(op.passes world.hal).numbers, rfl⟩
  | enqueue | wake => cases unasked
  | acquire slot wantsFence wantsSequence afterSequence configurationToken =>
    have read := acquireLatest_read world.hal slot wantsFence wantsSequence afterSequence configurationToken
    simp only [perform]
    generalize world.hal.acquireLatest slot wantsFence wantsSequence afterSequence configurationToken = outcome at read
    obtain ⟨answer, hal⟩ := outcome
    cases answer <;> exact ⟨read.numbers, rfl⟩
  | release reservation readFences => exact ⟨releaseFrame_numbers world.hal _ _ _, rfl⟩
  | signal | create | close => exact ⟨.of_same rfl rfl, rfl⟩

theorem perform_cases (world : HalWorld) (event : HalEvent) :
    (Numbers world.hal (world.perform event).hal ∧ (world.perform event).retired = world.retired ∧
        ∀ slot fence, event.asks world ≠ some (slot, .returned .ok fence)) ∨
      ∃ slot fence, event.asks world = some (slot, .returned .ok fence) ∧
        Submitted world slot (world.perform event) (.returned .ok fence) := by
  cases asked : event.asks world with
  | none => exact .inl ⟨(perform_numbers asked).1, (perform_numbers asked).2, by simp⟩
  | some asked' =>
    obtain ⟨slot, result⟩ := asked'
    have submitted := perform_asked asked
    cases submitted with
    | refused _ unaccepted numbers retired =>
      refine .inl ⟨numbers, retired, fun other fence same => ?_⟩
      exact unaccepted fence (Prod.mk.inj (Option.some.inj same)).2
    | stored fence received latest others retired =>
      exact .inr ⟨slot, fence, rfl, .stored fence received latest others retired⟩

structure Numbered (world : HalWorld) : Prop where
  latest : ∀ slot, (world.hal.latest slot).sequence ≤ world.hal.framesReceived
  retired : ∀ keeper ∈ world.retired, keeper.sequence ≤ world.hal.framesReceived

theorem Numbered.perform (numbered : world.Numbered) (event : HalEvent) : (world.perform event).Numbered := by
  have grown (slot : Slot) : (world.hal.latest slot).sequence ≤ world.hal.framesReceived + 1 :=
    (numbered.latest slot).trans (Nat.le_succ _)
  rcases world.perform_cases event with ⟨numbers, retired, _⟩ | ⟨slot, fence, _, submitted⟩
  · refine ⟨fun slot => ?_, fun keeper member => ?_⟩
    · rw [numbers.received]
      rcases numbers.latest slot with same | gone
      · exact same ▸ numbered.latest slot
      · exact gone ▸ Nat.zero_le _
    · rw [numbers.received]
      exact numbered.retired keeper (retired ▸ member)
  · cases submitted with
    | refused _ unaccepted _ _ => exact absurd rfl (unaccepted fence)
    | stored _ received latest others retired =>
      refine ⟨fun other => ?_, fun keeper member => ?_⟩
      · rw [received]
        by_cases same : other = slot
        next => exact same ▸ latest.le
        next =>
          rcases others other same with kept | gone
          · exact kept ▸ grown other
          · exact gone ▸ Nat.zero_le _
      · rw [received]
        rw [retired] at member
        rcases List.mem_append.mp member with fresh | older
        · obtain ⟨fd, _, rfl⟩ := List.mem_map.mp fresh
          exact grown slot
        · exact (numbered.retired keeper older).trans (Nat.le_succ _)

structure Kept (world : HalWorld) (slot : Slot) (sequence : Nat) : Prop where
  positive : 0 < sequence
  counted : sequence ≤ world.hal.framesReceived
  kept : ∀ keeper ∈ world.retired, ¬ (keeper.slot = slot ∧ keeper.sequence = sequence)

structure Settled (world : HalWorld) (slot : Slot) (sequence : Nat) (fence : Option Fd) : Prop where
  positive : 0 < sequence
  counted : sequence ≤ world.hal.framesReceived
  replaced : (world.hal.latest slot).sequence ≠ sequence
  keepers : ∀ keeper ∈ world.retired, keeper.slot = slot → keeper.sequence = sequence → keeper.fd ∈ fence

theorem Kept.perform (kept : world.Kept slot sequence) (event : HalEvent)
    (elsewhere : ∀ fence, event.asks world ≠ some (slot, .returned .ok fence)) :
    (world.perform event).Kept slot sequence := by
  rcases world.perform_cases event with ⟨numbers, retired, _⟩ | ⟨other, fence, asked, submitted⟩
  · exact ⟨kept.positive, numbers.received ▸ kept.counted, retired ▸ kept.kept⟩
  · have apart : other ≠ slot := fun same => elsewhere fence (same ▸ asked)
    cases submitted with
    | refused _ unaccepted _ _ => exact absurd rfl (unaccepted fence)
    | stored _ received latest others retired =>
      refine ⟨kept.positive, received ▸ kept.counted.trans (Nat.le_succ _), fun keeper member => ?_⟩
      rw [retired] at member
      rcases List.mem_append.mp member with fresh | older
      · obtain ⟨fd, _, rfl⟩ := List.mem_map.mp fresh
        exact fun same => apart same.1
      · exact kept.kept keeper older

theorem Kept.settles (kept : world.Kept slot sequence) (asked : event.asks world = some (slot, .returned .ok fence)) :
    (world.perform event).Settled slot sequence fence := by
  cases perform_asked asked with
  | refused _ unaccepted _ _ => exact absurd rfl (unaccepted fence)
  | stored _ received latest others retired =>
    refine ⟨kept.positive, received ▸ kept.counted.trans (Nat.le_succ _), ?_, fun keeper member here same => ?_⟩
    · have := kept.counted
      omega
    · rw [retired] at member
      rcases List.mem_append.mp member with fresh | older
      · obtain ⟨fd, given, rfl⟩ := List.mem_map.mp fresh
        exact Option.mem_toList.mp given
      · exact absurd ⟨here, same⟩ (kept.kept keeper older)

theorem Numbered.keeps (numbered : world.Numbered) (asked : event.asks world = some (slot, .returned .ok fence)) :
    (world.perform event).Kept slot ((world.perform event).hal.latest slot).sequence ∧
      world.hal.framesReceived < ((world.perform event).hal.latest slot).sequence := by
  cases perform_asked asked with
  | refused _ unaccepted _ _ => exact absurd rfl (unaccepted fence)
  | stored _ received latest others retired =>
    rw [latest]
    refine ⟨⟨Nat.succ_pos _, received.ge, fun keeper member => ?_⟩, Nat.lt_succ_self _⟩
    rw [retired] at member
    rcases List.mem_append.mp member with fresh | older
    · obtain ⟨fd, _, rfl⟩ := List.mem_map.mp fresh
      have := numbered.latest slot
      simp only [not_and]
      omega
    · have := numbered.retired keeper older
      simp only [not_and]
      omega

theorem Settled.perform (settled : world.Settled slot sequence fence) (event : HalEvent) :
    (world.perform event).Settled slot sequence fence := by
  have positive := settled.positive
  have counted := settled.counted
  rcases world.perform_cases event with ⟨numbers, retired, _⟩ | ⟨other, given, _, submitted⟩
  · refine ⟨positive, numbers.received ▸ counted, ?_, retired ▸ settled.keepers⟩
    rcases numbers.latest slot with same | gone
    · exact same ▸ settled.replaced
    · omega
  · cases submitted with
    | refused _ unaccepted _ _ => exact absurd rfl (unaccepted given)
    | stored _ received latest others retired =>
      refine ⟨positive, received ▸ counted.trans (Nat.le_succ _), ?_, fun keeper member here same => ?_⟩
      · by_cases here : slot = other
        next =>
          subst here
          omega
        next =>
          rcases others slot here with same | gone
          · exact same ▸ settled.replaced
          · omega
      · rw [retired] at member
        rcases List.mem_append.mp member with fresh | older
        · obtain ⟨fd, _, rfl⟩ := List.mem_map.mp fresh
          exact absurd (here ▸ same) settled.replaced
        · exact settled.keepers keeper older here same

theorem Settled.free (settled : world.Settled slot sequence fence) (sound : world.Sound) :
    (∀ reservation ∈ world.readers, ¬ (reservation.slot = slot ∧ reservation.sequence = sequence)) ∧
      ∀ contributed ∈ world.contributed, contributed.slot = slot → contributed.sequence = sequence →
        world.hal.kernel.ready contributed.fd = true ∨
          ∃ fd ∈ fence, world.hal.kernel.points contributed.fd ⊆ world.hal.kernel.points fd := by
  refine ⟨fun reservation member same => ?_, fun contributed member here same => ?_⟩
  · obtain ⟨rfl, rfl⟩ := same
    exact settled.replaced (sound.stored reservation member).2
  · rcases sound.covered contributed member with ready | ⟨latest, _⟩ | ⟨keeper, given, there, number, points⟩
    · exact .inl ready
    · rw [here, same] at latest
      exact absurd latest settled.replaced
    · exact .inr ⟨keeper.fd, settled.keepers keeper given (there.trans here) (number.trans same), points⟩

end HalWorld

end VirtualCamera
