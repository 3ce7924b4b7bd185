import Mathlib.Tactic.Abel
import VirtualCamera.Hal.HalWorld

set_option autoImplicit false

namespace VirtualCamera

open Descriptors Runs StableHal

namespace HalWorld

variable {world after : HalWorld}

theorem Sound.reading (sound : world.Sound) (reservation : Reservation)
    (member : reservation ∈ world.readers) : 0 < (world.hal.latest reservation.slot).inflight := by
  rw [sound.counted]
  exact List.countP_pos_iff.mpr ⟨reservation, member, by simp⟩

theorem Sound.carry (sound : world.Sound) (moved : world.hal.kernel.Extends after.hal.kernel)
    (retired : world.retired ⊆ after.retired) (fence : ReadFence) (member : fence ∈ world.contributed)
    (sequence : (after.hal.latest fence.slot).sequence = (world.hal.latest fence.slot).sequence)
    (reads : (world.hal.latest fence.slot).readFences ⊆ (after.hal.latest fence.slot).readFences) :
    after.Covers fence := by
  have opened := sound.opened fence (List.mem_append_left _ member)
  rcases sound.covered fence member with ready | ⟨same, covered⟩ | ⟨keeper, given, place, same, points⟩
  · exact .inl (moved.ready opened ready)
  · have later := moved.covered opened (sound.owned.opened fence.slot) covered
    exact .inr (.inl ⟨sequence.trans same, later.mono reads⟩)
  · have keeperOpened := sound.opened keeper (List.mem_append_right _ given)
    refine .inr (.inr ⟨keeper, retired given, place, same, ?_⟩)
    rwa [moved.points fence.fd opened, moved.points keeper.fd keeperOpened]

theorem Sound.tidy (sound : world.Sound)
    (tidied : StableHal.Tidied (after.waitingFences + after.callers) world.hal after.hal)
    (readers : after.readers = world.readers) (contributed : after.contributed = world.contributed)
    (retired : after.retired = world.retired) : after.Sound where
  owned := tidied.owned
  counted slot := by rw [(tidied.frames slot).inflight, readers, sound.counted slot]
  stored reservation member := by
    rw [readers] at member
    obtain ⟨ahb, sequence⟩ := sound.stored reservation member
    obtain ⟨sameAhb, sameSequence⟩ :=
      (tidied.frames reservation.slot).identity (sound.reading reservation member)
    exact ⟨sameAhb.trans ahb, sameSequence.trans sequence⟩
  opened fence member := by
    rw [contributed, retired] at member
    exact lt_of_lt_of_le (sound.opened fence member) tidied.extends_.next
  covered fence member := by
    rw [contributed] at member
    have opened := sound.opened fence (List.mem_append_left _ member)
    rcases sound.covered fence member with ready | ⟨sequence, covered⟩ | ⟨keeper, given, slot, same, points⟩
    · exact .inl (tidied.extends_.ready opened ready)
    · have later := tidied.extends_.covered opened (sound.owned.opened fence.slot) covered
      rcases tidied.frames fence.slot with
        ⟨fences, retiring, present, latched, same, kept⟩ | ⟨idle, gone, signalled⟩
      · refine .inr (.inl ⟨by simpa [same] using sequence, ?_⟩)
        rw [same]
        exact later.trans kept
      · exact .inl (Kernel.covered_nil.mp (later.trans fun keeper inside => .inl (signalled keeper inside)))
    · refine .inr (.inr ⟨keeper, by rwa [retired], slot, same, ?_⟩)
      have keeperOpened := sound.opened keeper (List.mem_append_right _ given)
      rwa [tidied.extends_.points fence.fd opened, tidied.extends_.points keeper.fd keeperOpened]

theorem Sound.passes (sound : world.Sound) {hal : StableHal} (passes : StableHal.Passes world.hal hal) :
    Sound { world with hal } :=
  sound.tidy (passes.tidied sound.owned) rfl rfl rfl

theorem Sound.swap (sound : world.Sound) (slot : Slot) (frame : Submission)
    (idle : (world.hal.latest slot).Idle) (single : (world.hal.latest slot).readFences.length ≤ 1)
    (hal : after.hal = (world.hal.swap slot frame).2)
    (readers : after.readers = world.readers) (contributed : after.contributed = world.contributed)
    (retired : after.retired = (world.hal.latest slot).readFences.getLast?.toList.map
      (fun fd => ⟨slot, (world.hal.latest slot).sequence, fd⟩) ++ world.retired)
    (fences : (frame.acquireFence.toList : Multiset Fd) + (after.waitingFences + after.callers) =
      ((world.hal.latest slot).readFences.getLast?.toList : Multiset Fd) +
        (world.waitingFences + world.callers)) : after.Sound := by
  have latest := hal ▸ world.hal.swap_latest slot frame
  have closing := extends_closeFd world.hal (world.hal.latest slot).acquireFence
  rw [← world.hal.swap_kernel slot frame, ← hal] at closing
  have alone : (world.hal.latest slot).inflight = 0 := by
    cases present : (world.hal.latest slot).ahb with
    | none => rw [sound.owned.formed slot present]
    | some ahb => exact idle (by simp [present])
  have left : ((world.hal.latest slot).readFences : Multiset Fd) =
      ((world.hal.latest slot).readFences.getLast?.toList : Multiset Fd) := by
    rcases shape : (world.hal.latest slot).readFences with _ | ⟨fd, _ | ⟨other, rest⟩⟩
    · rfl
    · rfl
    · simp [shape] at single
  have untouched : ∀ other, other ≠ slot → after.hal.latest other = world.hal.latest other := by
    intro other differs
    rw [latest, Function.update_of_ne differs]
  refine ⟨⟨?_, fun other => ?_⟩, fun other => ?_, fun reservation member => ?_, fun fence member => ?_,
    fun fence member => ?_⟩
  · have held : after.hal.held =
        (frame.acquireFence.toList : Multiset Fd) + world.hal.heldElsewhere slot := by
      rw [after.hal.held_eq slot]
      congr 1
      · rw [latest, Function.update_self]
        simp [Frame.fences, StableHal.stored]
      · refine Finset.sum_congr rfl fun other member => ?_
        rw [untouched other (Finset.ne_of_mem_erase member)]
    have balanced := sound.owned.balanced
    rw [world.hal.held_eq slot, Frame.fences, left] at balanced
    rw [hal, swap_kernel, ← hal, held]
    apply balanced_closeFd
    have shape : ((world.hal.latest slot).acquireFence.toList : Multiset Fd) +
        ((frame.acquireFence.toList : Multiset Fd) + world.hal.heldElsewhere slot +
          (after.waitingFences + after.callers)) =
        ((world.hal.latest slot).acquireFence.toList : Multiset Fd) + world.hal.heldElsewhere slot +
          ((frame.acquireFence.toList : Multiset Fd) + (after.waitingFences + after.callers)) := by
      abel
    rw [shape, fences]
    have turned : ((world.hal.latest slot).acquireFence.toList : Multiset Fd) +
        ((world.hal.latest slot).readFences.getLast?.toList : Multiset Fd) +
          world.hal.heldElsewhere slot + (world.waitingFences + world.callers) =
        ((world.hal.latest slot).acquireFence.toList : Multiset Fd) + world.hal.heldElsewhere slot +
          (((world.hal.latest slot).readFences.getLast?.toList : Multiset Fd) +
            (world.waitingFences + world.callers)) := by
      abel
    rwa [turned] at balanced
  · by_cases same : other = slot
    · subst same
      rw [latest, Function.update_self]
      intro absent
      cases absent
    · rw [untouched other same]
      exact sound.owned.formed other
  · by_cases same : other = slot
    · subst same
      rw [latest, Function.update_self, readers, ← sound.counted, alone]
      rfl
    · rw [untouched other same, readers, sound.counted]
  · rw [readers] at member
    have elsewhere : reservation.slot ≠ slot := by
      rintro rfl
      have reading := sound.reading reservation member
      omega
    rw [untouched _ elsewhere]
    exact sound.stored reservation member
  · rw [contributed, retired] at member
    refine lt_of_lt_of_le ?_ closing.next
    rcases List.mem_append.mp member with early | late
    · exact sound.opened fence (List.mem_append_left _ early)
    · rcases List.mem_append.mp late with given | early
      · obtain ⟨fd, last, rfl⟩ := List.mem_map.mp given
        refine sound.owned.opened slot fd ?_
        rw [← Multiset.mem_coe, left]
        exact last
      · exact sound.opened fence (List.mem_append_right _ early)
  · rw [contributed] at member
    have wider : world.retired ⊆ after.retired := by
      rw [retired]
      exact List.subset_append_right _ _
    by_cases here : fence.slot = slot
    · subst here
      have opened := sound.opened fence (List.mem_append_left _ member)
      -- What waited with the frame now waits with the descriptor that leaves.
      rcases sound.covered fence member with
        ready | ⟨sequence, ready | ⟨keeper, kept, points⟩⟩ | ⟨keeper, given, place, same, points⟩
      · exact .inl (closing.ready opened ready)
      · exact .inl (closing.ready opened ready)
      · have leaves : keeper ∈ (world.hal.latest fence.slot).readFences.getLast?.toList := by
          rw [← Multiset.mem_coe, ← left]
          exact kept
        refine .inr (.inr ⟨⟨fence.slot, fence.sequence, keeper⟩, ?_, rfl, rfl, ?_⟩)
        · rw [retired, ← sequence]
          exact List.mem_append_left _ (List.mem_map_of_mem leaves)
        · rwa [closing.points fence.fd opened, closing.points keeper (sound.owned.opened _ keeper kept)]
      · have keeperOpened := sound.opened keeper (List.mem_append_right _ given)
        refine .inr (.inr ⟨keeper, wider given, place, same, ?_⟩)
        rwa [closing.points fence.fd opened, closing.points keeper.fd keeperOpened]
    · have same := untouched _ here
      exact sound.carry closing wider fence member (by rw [same]) (by rw [same]; exact List.Subset.refl _)

theorem Sound.grant (sound : world.Sound) (slot : Slot) (ahb : Ahb) (fence : Option Fd) (kernel : Kernel)
    (present : (world.hal.latest slot).ahb = some ahb)
    (copied : duplicateAcquireFence world.hal.kernel (world.hal.latest slot).acquireFence =
      (true, fence, kernel))
    (hal : after.hal = ({ world.hal with kernel }.acquireBuffer ahb).setFrame slot
      { world.hal.latest slot with inflight := (world.hal.latest slot).inflight + 1 })
    (waiting : after.waiting = world.waiting)
    (readers : after.readers = ⟨slot, ahb, (world.hal.latest slot).sequence⟩ :: world.readers)
    (contributed : after.contributed = world.contributed) (retired : after.retired = world.retired)
    (callers : after.callers = (fence.toList : Multiset Fd) + world.callers) : after.Sound := by
  obtain ⟨moved, balanced⟩ := duplicateAcquireFence_balanced world.hal.kernel
    (world.hal.latest slot).acquireFence _ sound.owned.balanced
  rw [copied] at moved balanced
  have latest : after.hal.latest = Function.update world.hal.latest slot
      { world.hal.latest slot with inflight := (world.hal.latest slot).inflight + 1 } := by
    rw [hal]
    rfl
  have advanced : after.hal.kernel = kernel := by
    rw [hal]
    rfl
  have untouched : ∀ other, other ≠ slot → after.hal.latest other = world.hal.latest other := by
    intro other differs
    rw [latest, Function.update_of_ne differs]
  have reads : ∀ other, (after.hal.latest other).readFences = (world.hal.latest other).readFences ∧
      (after.hal.latest other).sequence = (world.hal.latest other).sequence ∧
      (after.hal.latest other).ahb = (world.hal.latest other).ahb ∧
      (after.hal.latest other).fences = (world.hal.latest other).fences := by
    intro other
    by_cases same : other = slot
    · subst same
      rw [latest, Function.update_self]
      exact ⟨rfl, rfl, rfl, rfl⟩
    · rw [untouched other same]
      exact ⟨rfl, rfl, rfl, rfl⟩
  refine ⟨⟨?_, fun other => ?_⟩, fun other => ?_, fun reservation member => ?_, fun fence member => ?_,
    fun fence member => ?_⟩
  · have held : after.hal.held = world.hal.held := Finset.sum_congr rfl fun other _ => (reads other).2.2.2
    have waits : after.waitingFences = world.waitingFences := by rw [waitingFences, waitingFences, waiting]
    rw [advanced, held, waits, callers]
    have shape : world.hal.held + (world.waitingFences + ((fence.toList : Multiset Fd) + world.callers)) =
        (fence.toList : Multiset Fd) + (world.hal.held + (world.waitingFences + world.callers)) := by
      abel
    rwa [shape]
  · by_cases same : other = slot
    · subst same
      rw [latest, Function.update_self]
      intro absent
      exact absurd (present.symm.trans absent) nofun
    · rw [untouched other same]
      exact sound.owned.formed other
  · rw [readers, List.countP_cons, ← sound.counted]
    by_cases same : other = slot
    · subst same
      rw [latest, Function.update_self]
      simp
    · rw [untouched other same]
      simp [Ne.symm same]
  · rw [readers] at member
    rw [(reads _).2.2.1, (reads _).2.1]
    rcases List.mem_cons.mp member with rfl | earlier
    · exact ⟨present, rfl⟩
    · exact sound.stored reservation earlier
  · rw [contributed, retired] at member
    rw [advanced]
    exact lt_of_lt_of_le (sound.opened fence member) moved.next
  · rw [contributed] at member
    rw [← advanced] at moved
    refine sound.carry moved ?_ fence member (reads _).2.1 ?_
    · rw [retired]
      exact List.Subset.refl _
    · rw [(reads _).1]
      exact List.Subset.refl _

theorem Sound.returned (sound : world.Sound) (reservation : Reservation) (readFences : List Fd)
    (reading : reservation ∈ world.readers) (owns : (readFences : Multiset Fd) ≤ world.callers) :
    Sound
      { world with
        hal := world.hal.returned reservation.slot readFences
        readers := world.readers.erase reservation
        callers := world.callers - (readFences : Multiset Fd)
        contributed :=
          readFences.map (fun fd => ⟨reservation.slot, reservation.sequence, fd⟩) ++ world.contributed } := by
  obtain ⟨ahb, sequence⟩ := sound.stored reservation reading
  have busy := sound.reading reservation reading
  have latest : (world.hal.returned reservation.slot readFences).latest =
      Function.update world.hal.latest reservation.slot
        { world.hal.latest reservation.slot with
          readFences := (world.hal.latest reservation.slot).readFences ++ readFences
          inflight := (world.hal.latest reservation.slot).inflight - 1 } := rfl
  have untouched : ∀ other, other ≠ reservation.slot →
      (world.hal.returned reservation.slot readFences).latest other = world.hal.latest other := by
    intro other differs
    rw [latest, Function.update_of_ne differs]
  have here : (world.hal.returned reservation.slot readFences).latest reservation.slot =
      { world.hal.latest reservation.slot with
        readFences := (world.hal.latest reservation.slot).readFences ++ readFences
        inflight := (world.hal.latest reservation.slot).inflight - 1 } := by
    rw [latest, Function.update_self]
  refine ⟨⟨?_, fun other => ?_⟩, fun other => ?_, fun other member => ?_, fun fence member => ?_,
    fun fence member => ?_⟩
  · have moved : (world.hal.returned reservation.slot readFences).held =
        (readFences : Multiset Fd) + world.hal.held := by
      rw [StableHal.returned, held_setFrame, world.hal.held_eq reservation.slot]
      simp only [Frame.fences, ← Multiset.coe_add]
      abel
    have passed : (readFences : Multiset Fd) + (world.callers - (readFences : Multiset Fd)) = world.callers :=
      add_tsub_cancel_of_le owns
    have shape : (readFences : Multiset Fd) + world.hal.held +
        (world.waitingFences + (world.callers - (readFences : Multiset Fd))) =
        world.hal.held + (world.waitingFences + world.callers) := by
      generalize world.callers - (readFences : Multiset Fd) = rest at passed
      rw [← passed]
      abel
    have balanced := sound.owned.balanced
    rw [← shape, ← moved] at balanced
    exact balanced
  · by_cases same : other = reservation.slot
    · subst same
      rw [here]
      intro absent
      exact absurd (ahb.symm.trans absent) (by simp)
    · rw [untouched other same]
      exact sound.owned.formed other
  · rw [List.countP_erase]
    by_cases same : other = reservation.slot
    · subst same
      rw [here, ← sound.counted]
      simp [reading]
    · rw [untouched other same, ← sound.counted]
      simp [Ne.symm same]
  · have kept := sound.stored other (List.mem_of_mem_erase member)
    by_cases same : other.slot = reservation.slot
    · rw [same, here]
      rw [same] at kept
      exact kept
    · rw [untouched _ same]
      exact kept
  · rcases List.mem_append.mp member with made | given
    · rcases List.mem_append.mp made with fresh | earlier
      · obtain ⟨fd, inside, rfl⟩ := List.mem_map.mp fresh
        have owned := Multiset.mem_of_le owns (Multiset.mem_coe.mpr inside)
        exact sound.owned.balanced.opened (by simp [owned])
      · exact sound.opened fence (List.mem_append_left _ earlier)
    · exact sound.opened fence (List.mem_append_right _ given)
  · rcases List.mem_append.mp member with fresh | earlier
    · obtain ⟨fd, inside, rfl⟩ := List.mem_map.mp fresh
      refine .inr (.inl ?_)
      rw [here]
      exact ⟨sequence, .self (List.mem_append_right _ inside)⟩
    · refine sound.carry ?_ ?_ fence earlier ?_ ?_
      · exact Kernel.Extends.refl _
      · exact List.Subset.refl _
      · by_cases same : fence.slot = reservation.slot
        · rw [same, here]
        · rw [untouched _ same]
      · by_cases same : fence.slot = reservation.slot
        · rw [same, here]
          exact List.subset_append_left _ _
        · rw [untouched _ same]
          exact List.Subset.refl _

theorem answer_swap (world : HalWorld) (slot : Slot) (middle : StableHal) (frame : Submission) :
    world.answer slot (middle.swap slot frame) = { world with
      hal := (middle.swap slot frame).2
      callers := ((middle.latest slot).readFences.getLast?.toList : Multiset Fd) + world.callers
      retired := (middle.latest slot).readFences.getLast?.toList.map
        (fun fd => ⟨slot, (world.hal.latest slot).sequence, fd⟩) ++ world.retired } := rfl

theorem Sound.answer (sound : world.Sound) (slot : Slot) (frame : Submission)
    {outcome : EnqueueResult × StableHal} (enqueued : Enqueued world.hal slot frame outcome)
    (asked : HalWorld) (hal : asked.hal = world.hal) (readers : asked.readers = world.readers)
    (contributed : asked.contributed = world.contributed) (retired : asked.retired = world.retired)
    (fences : (frame.acquireFence.toList : Multiset Fd) + (asked.waitingFences + asked.callers) =
      world.waitingFences + world.callers) : (asked.answer slot outcome).Sound := by
  have owned := sound.owned
  rw [← fences] at owned
  cases enqueued with
  | rejected code middle passes control =>
    have tidied := passes.tidied owned
    refine sound.tidy ?_ readers contributed ?_
    · have callers : (asked.answer slot (.returned (.serviceSpecific code) none,
          middle.closeFd frame.acquireFence)).callers = asked.callers := zero_add _
      rw [callers]
      exact tidied.trans owned (tidied.owned.closeFd _)
    · exact retired
  | waiting after passes control =>
    have tidied := passes.tidied owned
    refine sound.tidy ?_ readers contributed retired
    have shape : (asked.answer slot (.waiting frame, after)).waitingFences =
        (frame.acquireFence.toList : Multiset Fd) + asked.waitingFences := by
      simp [HalWorld.answer, waitingFences]
    rw [shape, add_assoc]
    exact tidied
  | accepted middle passes control admitted idle single =>
    have before := sound.passes passes
    rw [answer_swap]
    refine before.swap slot frame idle single rfl readers contributed ?_ ?_
    · rw [hal, retired]
      rcases (passes.tidied sound.owned).frames slot with
        ⟨fences, retiring, present, latched, same, kept⟩ | ⟨empty, gone, signalled⟩
      · simp only [same]
      · simp only [gone]
        rfl
    · have shape : (frame.acquireFence.toList : Multiset Fd) + (asked.waitingFences +
          (((middle.latest slot).readFences.getLast?.toList : Multiset Fd) + asked.callers)) =
          ((middle.latest slot).readFences.getLast?.toList : Multiset Fd) +
            ((frame.acquireFence.toList : Multiset Fd) + (asked.waitingFences + asked.callers)) := by
        abel
      rw [fences] at shape
      exact shape

theorem waitingFences_cons (world : HalWorld) (entry : Slot × Submission) (member : entry ∈ world.waiting) :
    (entry.2.acquireFence.toList : Multiset Fd) +
        waitingFences { world with waiting := world.waiting.erase entry } = world.waitingFences := by
  have turned := (List.perm_cons_erase member).flatMap_right fun entry => entry.2.acquireFence.toList
  rw [waitingFences, waitingFences, Multiset.coe_add]
  exact (Multiset.coe_eq_coe.mpr turned).symm

theorem Sound.read (sound : world.Sound) (slot : Int) (wantsSequence : Bool) (afterSequence : Nat)
    (configurationToken : Int) {outcome : Option Acquired × StableHal}
    (read : Read world.hal slot wantsSequence afterSequence configurationToken outcome) :
    (world.grant slot outcome).Sound := by
  cases read with
  | refused middle kernel passes control moved =>
    have before := sound.passes passes
    have tidied : StableHal.Tidied (world.waitingFences + world.callers) middle { middle with kernel } := by
      rcases moved with same | ⟨fd, failed⟩
      · exact before.owned.moved kernel (same ▸ .refl _) (same ▸ before.owned.balanced)
      · have spec := Kernel.dup_spec middle.kernel fd before.owned.balanced
        rw [failed] at spec
        exact before.owned.moved kernel spec.1 spec.2
    exact before.tidy tidied rfl rfl rfl
  | granted index middle ahb fence kernel valid passes control token current present live newer copied =>
    refine (sound.passes passes).grant index ahb fence kernel present copied rfl rfl ?_ rfl rfl rfl
    simp [HalWorld.grant, valid]

theorem Sound.step {event : HalEvent} (sound : world.Sound) (step : Step world event after) :
    after.Sound := by
  obtain ⟨allowed, rfl⟩ := step
  cases event with
  | control op => exact sound.passes (op.passes world.hal)
  | enqueue slot handle imported width height format timestampNs acquireFence configurationToken =>
    have enqueued := enqueue_enqueued world.hal slot handle imported width height format timestampNs
      acquireFence configurationToken
    refine sound.answer slot _ enqueued _ rfl rfl rfl rfl ?_
    have passed : (acquireFence.toList : Multiset Fd) +
        (world.callers - (acquireFence.toList : Multiset Fd)) = world.callers := add_tsub_cancel_of_le allowed
    rw [add_left_comm]
    exact congrArg (world.waitingFences + ·) passed
  | wake slot frame timedOut =>
    refine sound.answer slot frame (enqueueWake_enqueued world.hal slot frame timedOut) _ rfl rfl rfl rfl ?_
    rw [← add_assoc, world.waitingFences_cons (slot, frame) allowed]
  | acquire slot wantsFence wantsSequence afterSequence configurationToken =>
    exact sound.read slot wantsSequence afterSequence configurationToken
      (acquireLatest_read world.hal slot wantsFence wantsSequence afterSequence configurationToken)
  | release reservation readFences =>
    obtain ⟨reading, owns⟩ := allowed
    have back := sound.returned reservation readFences reading owns
    have found := (sound.stored reservation reading).1
    exact back.passes (releaseFrame_found world.hal reservation.slot reservation.ahb readFences found).1
  | signal point =>
    exact sound.tidy (sound.owned.moved _ (Kernel.extends_signal _ point) sound.owned.balanced) rfl rfl rfl
  | create points =>
    have made := Kernel.Balanced.create sound.owned.balanced points
    refine sound.tidy (sound.owned.moved _ (Kernel.extends_create _ points) ?_) rfl rfl rfl
    rw [← Multiset.add_cons, ← Multiset.add_cons] at made
    exact made
  | close fd =>
    refine sound.tidy (sound.owned.moved _ (Kernel.extends_close _ fd) ?_) rfl rfl rfl
    apply Kernel.Balanced.close
    have balanced := sound.owned.balanced
    rw [← Multiset.cons_erase allowed, Multiset.add_cons, Multiset.add_cons] at balanced
    exact balanced

theorem boot_sound (provider : Bool) (outcome : Nat → Bool) : (boot provider outcome).Sound where
  owned := by
    refine ⟨?_, fun _ _ => rfl⟩
    have held : (boot provider outcome).hal.held = 0 := by
      rw [StableHal.held]
      exact Finset.sum_eq_zero fun slot _ => rfl
    rw [held]
    rfl
  counted _ := rfl
  stored _ member := by cases member
  opened _ member := by cases member
  covered _ member := by cases member

structure Conserved (world : HalWorld) : Prop where
  counted : ∀ slot, (world.hal.latest slot).inflight =
    world.readers.countP fun reservation => decide (reservation.slot = slot)
  stored : ∀ reservation ∈ world.readers,
    (world.hal.latest reservation.slot).ahb = some reservation.ahb ∧
      (world.hal.latest reservation.slot).sequence = reservation.sequence ∧
      0 < (world.hal.latest reservation.slot).inflight
  placed : ∀ fd < world.hal.kernel.next,
    world.hal.held.count fd + world.waitingFences.count fd + world.callers.count fd +
      world.hal.kernel.closed.count fd = 1
  covered : ∀ fence ∈ world.contributed, world.Covers fence

theorem readers_conserved (provider : Bool) (outcome : Nat → Bool) (events : List HalEvent)
    (world : HalWorld) (run : Run Step (boot provider outcome) events world) : world.Conserved := by
  have sound : world.Sound := run.invariant (fun _ => Sound) (boot_sound provider outcome)
    fun _ _ _ _ _ before step => before.step step
  refine ⟨sound.counted, fun reservation member => ?_, fun fd opened => ?_, sound.covered⟩
  · obtain ⟨ahb, sequence⟩ := sound.stored reservation member
    exact ⟨ahb, sequence, sound.reading reservation member⟩
  · have once := sound.owned.balanced.count opened
    rw [Multiset.count_add, Multiset.count_add] at once
    omega

def readerEvents : List HalEvent :=
  [ .create [7]
  , .control (.notifyStreamsConfigured 0 1 640 480 30)
  , .enqueue 0 true (some 5) 640 480 1 9 (some 0) 1
  , .acquire 0 true true 0 1
  , .create [8]
  , .enqueue 0 true (some 6) 640 480 1 10 none 1
  , .release ⟨0, 5, 1⟩ [2]
  , .wake 0 ⟨6, 640, 480, 1, 10, none, 1⟩ false ]

theorem readers_conserved_reader :
    ((boot true fun _ => true).performAll readerEvents).Conserved :=
  readers_conserved true (fun _ => true) readerEvents _ (Legal.run (by decide +kernel))

end HalWorld

end VirtualCamera
