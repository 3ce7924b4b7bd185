import VirtualCamera.V2.ZeroCopyWorld

set_option autoImplicit false

namespace VirtualCamera

open ControlRing (ReleaseSlot)

namespace HalInterface

def Event.fenceless : Event → Bool
  | .syncWait _ | .close _ => false
  | .acquired _ fenceFd => fenceFd < 0
  | .bufferState _ | .buffers _ => true

namespace Call

def slots : Call → List ControlRing.Slot
  | .draining _ latest _ => latest.toList
  | .skipping _ latest _ => [latest]
  | .delivering slot => [slot]
  | .polling .. | .next .. | .releasing _ => []

def Reading (submit : Ring ControlRing.Slot) : Call → Prop
  | .draining _ _ read | .polling _ _ read | .next _ read => read.Valid submit
  | .skipping .. | .delivering _ | .releasing _ => True

theorem Reading.grown {before after : Ring ControlRing.Slot} {call : Call} (reading : call.Reading before)
    (grown : before.Grown after) : call.Reading after := by
  cases call with
  | draining | polling | next => exact TryRead.Valid.grown reading grown
  | skipping | delivering | releasing => trivial

end Call

structure Stepped (ring : ControlRing) (call : Call) (result : ControlRing × HalInterface × List Event) :
    Prop where
  shrunk : ring.submit.Shrunk result.1.submit
  queue : ∀ slot ∈ result.1.submit.queue, slot ∈ ring.submit.queue
  slots : ∀ next ∈ result.2.1.call, ∀ slot ∈ next.slots, slot ∈ call.slots ++ ring.submit.queue
  reading : ∀ next ∈ result.2.1.call, next.Reading result.1.submit
  events : (∀ slot ∈ call.slots, slot.fenceFd < 0) → ∀ event ∈ result.2.2, event.fenceless = true

theorem fenceClosed_fenceless {fd : Int32} (none : fd < 0) : ∀ event ∈ fenceClosed fd, event.fenceless = true := by
  simp [fenceClosed, Int32.not_le.mpr none]

theorem deliver_fenceless (hal : HalInterface) {slot : ControlRing.Slot} (none : slot.fenceFd < 0) :
    ∀ event ∈ (hal.deliver slot).2, event.fenceless = true := by
  intro event member
  simp only [deliver, Int32.not_le.mpr none, if_false, List.nil_append, List.mem_append, Option.mem_toList,
    Option.map_eq_some_iff, List.mem_singleton] at member
  rcases member with ⟨buffer, _, rfl⟩ | rfl
  · rfl
  · simpa [Event.fenceless] using none

theorem clears_fenceless (write : TryWrite ReleaseSlot) :
    ∀ event ∈ (if ControlRing.clearing write then [Event.bufferState write.value.bufferIndex.toNat] else []),
      event.fenceless = true := by
  split <;> simp [Event.fenceless]

theorem tryWriteRelease_submit (ring : ControlRing) (write : TryWrite ReleaseSlot) :
    (ring.tryWriteRelease write).1.submit = ring.submit := rfl

variable {ring after : ControlRing} {call : Call} {hal : HalInterface} {events : List Event}

theorem Stepped.kept (submit : after.submit = ring.submit)
    (slots : ∀ next ∈ hal.call, ∀ slot ∈ next.slots, slot ∈ call.slots)
    (reading : ∀ next ∈ hal.call, next.Reading ring.submit)
    (fenceless : (∀ slot ∈ call.slots, slot.fenceFd < 0) → ∀ event ∈ events, event.fenceless = true) :
    Stepped ring call (after, hal, events) where
  shrunk := by rw [submit]; exact ⟨rfl, rfl, le_rfl⟩
  queue := by rw [submit]; exact fun _ => id
  slots := fun next here slot member => List.mem_append_left _ (slots next here slot member)
  reading := by rw [submit]; exact reading
  events := fenceless

theorem Stepped.took {submit : Ring ControlRing.Slot} {value : ControlRing.Slot}
    (shrunk : ring.submit.Shrunk submit)
    (queue : ring.submit.queue = value :: submit.queue)
    (slots : ∀ next ∈ hal.call, ∀ slot ∈ next.slots, slot = value)
    (reading : ∀ next ∈ hal.call, next.Reading submit)
    (fenceless : (∀ slot ∈ call.slots, slot.fenceFd < 0) → ∀ event ∈ events, event.fenceless = true) :
    Stepped ring call ({ ring with submit }, hal, events) where
  shrunk := shrunk
  queue := fun slot member => by rw [queue]; exact List.mem_cons_of_mem _ member
  slots := by
    intro next here slot member
    rw [queue, slots next here slot member]
    simp
  reading := reading
  events := fenceless

theorem polls_idle (wait : Prop) [Decidable wait] (timeoutMs waited : Int) :
    ∀ next ∈ (if wait then some (Call.polling timeoutMs waited .start) else none),
      next.slots = [] ∧ ∀ submit, next.Reading submit := by
  intro next member
  split at member <;> cases member
  exact ⟨rfl, fun _ => trivial⟩

theorem step_stepped (hal : HalInterface) (ring : ControlRing) {call : Call} (valid : call.Reading ring.submit) :
    Stepped ring call (hal.step ring call) := by
  cases call with
  | draining timeoutMs latest read =>
    have outcome := TryRead.step_outcome valid true
    simp only [step]
    generalize read.step true ring.submit = result at outcome
    cases outcome with
    | running next valid => exact .kept rfl (by rintro _ ⟨⟩ slot; exact id) (by rintro _ ⟨⟩; exact valid) (by simp)
    | empty =>
      cases latest with
      | none =>
        have idle := polls_idle (0 < timeoutMs) timeoutMs 0
        exact .kept rfl (fun next here => by simp [(idle next here).1])
          (fun next here => (idle next here).2 _) (by simp)
      | some slot => exact .kept rfl (by simp [Call.slots]) (by rintro _ ⟨⟩; trivial) (by simp)
    | took submit value consumes shrunk index room queue =>
      cases latest with
      | none => exact .took shrunk queue (by simp [Call.slots]) (by rintro _ ⟨⟩; trivial) (by simp)
      | some skipped =>
        exact .took shrunk queue (by simp [Call.slots]) (by rintro _ ⟨⟩; trivial)
          fun fenceless => fenceClosed_fenceless (fenceless skipped (by simp [Call.slots]))
    | peeked value keeps => cases keeps
  | polling timeoutMs waited read =>
    have outcome := TryRead.step_outcome valid true
    simp only [step]
    generalize read.step true ring.submit = result at outcome
    cases outcome with
    | running next valid => exact .kept rfl (by simp [Call.slots]) (by rintro _ ⟨⟩; exact valid) (by simp)
    | empty =>
      have idle := polls_idle (waited + 1 < timeoutMs) timeoutMs (waited + 1)
      exact .kept rfl (fun next here => by simp [(idle next here).1]) (fun next here => (idle next here).2 _)
        (by simp)
    | took submit value consumes shrunk index room queue =>
      exact .took shrunk queue (by simp [Call.slots]) (by rintro _ ⟨⟩; trivial) (by simp)
    | peeked value keeps => cases keeps
  | next timeoutMs read =>
    have outcome := TryRead.step_outcome valid true
    simp only [step]
    generalize read.step true ring.submit = result at outcome
    cases outcome with
    | running next valid => exact .kept rfl (by simp [Call.slots]) (by rintro _ ⟨⟩; exact valid) (by simp)
    | empty =>
      have idle := polls_idle (0 < timeoutMs) timeoutMs 0
      exact .kept rfl (fun next here => by simp [(idle next here).1]) (fun next here => (idle next here).2 _)
        (by simp)
    | took submit value consumes shrunk index room queue =>
      exact .took shrunk queue (by simp [Call.slots]) (by rintro _ ⟨⟩; trivial) (by simp)
    | peeked value keeps => cases keeps
  | skipping timeoutMs latest write =>
    have submit := tryWriteRelease_submit ring write
    simp only [step]
    generalize ring.tryWriteRelease write = result at submit
    have fenceless := clears_fenceless write
    obtain ⟨after, next | done⟩ := result
    · exact .kept submit (by rintro _ ⟨⟩ slot; exact id) (by rintro _ ⟨⟩; trivial) fun _ => fenceless
    · exact .kept submit (by simp [Call.slots]) (by rintro _ ⟨⟩; trivial) fun _ => fenceless
  | delivering slot =>
    exact .kept rfl (by simp) (by simp)
      fun fenceless => deliver_fenceless hal (fenceless slot (by simp [Call.slots]))
  | releasing write =>
    have submit := tryWriteRelease_submit ring write
    simp only [step]
    generalize ring.tryWriteRelease write = result at submit
    have fenceless := clears_fenceless write
    obtain ⟨after, next | done⟩ := result
    · exact .kept submit (by rintro _ ⟨⟩ slot; exact id) (by rintro _ ⟨⟩; trivial) fun _ => fenceless
    · exact .kept submit (by simp) (by simp) fun _ => fenceless

end HalInterface

namespace RendererInterface

def Event.accepted : Event → Option Int32
  | .submitted _ fenceFd => some fenceFd
  | _ => none

namespace Call

def inHand : Call → List Int32
  | .submitting _ fenceFd _ | .refused _ fenceFd => [fenceFd]
  | .draining .. | .acquiring .. => []

def Writing (submit : Ring ControlRing.Slot) : Call → Prop
  | .submitting _ fenceFd write => write.Valid submit ∧ write.value.fenceFd = fenceFd
  | .draining .. | .acquiring .. | .refused .. => True

theorem Writing.shrunk {before after : Ring ControlRing.Slot} {call : Call} (writing : call.Writing before)
    (shrunk : before.Shrunk after) : call.Writing after := by
  cases call with
  | submitting => exact ⟨TryWrite.Valid.shrunk writing.1 shrunk, writing.2⟩
  | draining | acquiring | refused => trivial

def publishes : Call → Option Int32
  | .submitting _ fenceFd (.storing _ _ stored) =>
    if (SlotLayout.stores (E := ControlRing.Slot)).length ≤ stored then some fenceFd else none
  | _ => none

end Call

structure Stepped (ring : ControlRing) (call : Call) (result : ControlRing × RendererInterface × List Event) :
    Prop where
  grown : ring.submit.Grown result.1.submit
  writing : ∀ next ∈ result.2.1.call, next.Writing result.1.submit
  queue : ∃ added, result.1.submit.queue = ring.submit.queue ++ added ∧
    added.map (·.fenceFd) = call.publishes.toList
  accepted : result.2.2.filterMap Event.accepted = call.publishes.toList
  created : ∀ fd, result.2.2.count (.created fd) = 0
  balance : ∀ fd, 0 ≤ fd → call.inHand.count fd = result.2.2.count (.close fd) + call.publishes.toList.count fd +
    (result.2.1.call.elim [] Call.inHand).count fd

variable {ring after : ControlRing} {call : Call} {renderer : RendererInterface}

theorem Stepped.kept (submit : after.submit = ring.submit)
    (writing : ∀ next ∈ renderer.call, next.Writing ring.submit)
    (quiet : call.publishes = none) (inHand : renderer.call.elim [] Call.inHand = call.inHand) :
    Stepped ring call (after, renderer, []) where
  grown := by rw [submit]; exact ⟨rfl, [], by simp⟩
  writing := by rw [submit]; exact writing
  queue := ⟨[], by simp [submit], by simp [quiet]⟩
  accepted := by simp [quiet]
  created := by simp
  balance := by simp [quiet, inHand]

theorem publishes_submitting (submit : Ring ControlRing.Slot) (frame : Frame) (fenceFd : Int32)
    (write : TryWrite ControlRing.Slot) :
    (Call.submitting frame fenceFd write).publishes =
      match (write.step submit).2 with
      | .done true => some fenceFd
      | _ => none := by
  cases write with
  | start => rfl
  | loaded value write =>
    by_cases full : RING_SIZE ≤ write - submit.readIndex <;> simp [TryWrite.step, Call.publishes, full]
  | storing value write stored =>
    simp only [TryWrite.step, Call.publishes]
    cases here : (SlotLayout.stores (E := ControlRing.Slot))[stored]? with
    | some store => rw [if_neg (Nat.not_le.mpr (List.getElem?_eq_some_iff.mp here).1)]
    | none => rw [if_pos (List.getElem?_eq_none_iff.mp here)]

theorem step_stepped (renderer : RendererInterface) (ring : ControlRing) {call : Call}
    (valid : call.Writing ring.submit) :
    Stepped ring call (renderer.step ring call) := by
  cases call with
  | draining timestampNs read =>
    simp only [step]
    rcases read.step true ring.release with ⟨release, next | (_ | entry)⟩
    all_goals exact .kept rfl (by rintro _ ⟨⟩; trivial) rfl rfl
  | acquiring timestampNs index =>
    simp only [step]
    split
    next =>
      split
      next => exact .kept rfl (by simp) rfl rfl
      next => exact .kept rfl (by rintro _ ⟨⟩; trivial) rfl rfl
    next => exact .kept rfl (by simp) rfl rfl
  | submitting frame fenceFd write =>
    obtain ⟨valid, same⟩ := valid
    have outcome := TryWrite.step_outcome valid
    have publishes := publishes_submitting ring.submit frame fenceFd write
    simp only [step]
    generalize write.step ring.submit = result at outcome publishes
    cases outcome with
    | running submit next valid kept grown index queue =>
      exact
        { grown
          writing := by rintro _ ⟨⟩; exact ⟨valid, by rw [kept, same]⟩
          queue := ⟨[], by simp [queue], by simp [publishes]⟩
          accepted := by simp [publishes]
          created := by simp
          balance := by simp [publishes, Call.inHand] }
    | full unread => exact .kept rfl (by rintro _ ⟨⟩; trivial) publishes rfl
    | published submit room grown index queue =>
      exact
        { grown
          writing := by simp
          queue := ⟨[write.value], queue, by simp [publishes, same]⟩
          accepted := by simp [publishes, Event.accepted]
          created := by simp
          balance := by simp [publishes, Call.inHand] }
  | refused frame fenceFd =>
    have submit : (renderer.releaseBuffer ring frame.bufferIndex).submit = ring.submit := by
      unfold releaseBuffer
      split <;> rfl
    simp only [step]
    exact
      { grown := by simp only [submit]; exact ⟨rfl, [], by simp⟩
        writing := by simp
        queue := ⟨[], by simp [submit], rfl⟩
        accepted := by simp only; split <;> rfl
        created := by intro fd; simp only; split <;> simp
        balance := by
          intro fd open_
          simp only [Call.inHand, Call.publishes]
          split
          next => simp [List.count_singleton]
          next none =>
            have apart : fenceFd ≠ fd := by rintro rfl; exact none open_
            simp [apart] }

end RendererInterface

namespace ZeroCopyWorld

def fences (history : List (RendererInterface.Event ⊕ HalInterface.Event)) : List RendererInterface.Event :=
  history.filterMap Sum.getLeft?

def accepted (history : List (RendererInterface.Event ⊕ HalInterface.Event)) : List Int32 :=
  (fences history).filterMap RendererInterface.Event.accepted

def inHand (world : ZeroCopyWorld) : List Int32 := world.renderer.call.elim [] RendererInterface.Call.inHand

section History

variable (history : List (RendererInterface.Event ⊕ HalInterface.Event))

@[simp] theorem fences_rendered (events : List RendererInterface.Event) :
    fences (history ++ events.map .inl) = fences history ++ events := by
  simp [fences, List.filterMap_map, Function.comp_def]

@[simp] theorem fences_consumed (events : List HalInterface.Event) :
    fences (history ++ events.map .inr) = fences history := by
  simp [fences, List.filterMap_map, Function.comp_def]

@[simp] theorem accepted_rendered (events : List RendererInterface.Event) :
    accepted (history ++ events.map .inl) = accepted history ++ events.filterMap RendererInterface.Event.accepted := by
  simp [accepted]

@[simp] theorem accepted_consumed (events : List HalInterface.Event) :
    accepted (history ++ events.map .inr) = accepted history := by
  simp [accepted]

end History

structure Wired (world : ZeroCopyWorld) : Prop where
  reading : ∀ call ∈ world.hal.call, call.Reading world.ring.submit
  writing : ∀ call ∈ world.renderer.call, call.Writing world.ring.submit
  queued : ∀ slot ∈ world.ring.submit.queue, slot.fenceFd ∈ accepted world.history
  taken : ∀ call ∈ world.hal.call, ∀ slot ∈ call.slots, slot.fenceFd ∈ accepted world.history
  balance : ∀ fd, 0 ≤ fd → (fences world.history).count (.created fd) =
    (fences world.history).count (.close fd) + (accepted world.history).count fd + world.inHand.count fd
  fenceless : (∀ fd ∈ accepted world.history, fd < 0) → ∀ event, .inr event ∈ world.history →
    event.fenceless = true

variable {world after : ZeroCopyWorld} {move : ZeroCopyMove}

theorem Wired.render (wired : world.Wired) {call : RendererInterface.Call}
    (here : world.renderer.call = some call) :
    (world.rendered (world.renderer.step world.ring call)).Wired := by
  have stepped := RendererInterface.step_stepped world.renderer world.ring (wired.writing call here)
  obtain ⟨added, queue, carried⟩ := stepped.queue
  exact
    { reading := fun call there => (wired.reading call there).grown stepped.grown
      writing := stepped.writing
      queued := by
        intro slot member
        simp only [rendered, queue, List.mem_append] at member
        simp only [rendered, accepted_rendered, stepped.accepted, List.mem_append]
        refine member.imp (wired.queued slot) fun member => ?_
        rw [← carried]
        exact List.mem_map_of_mem member
      taken := fun call there slot member => by
        simpa [rendered] using Or.inl (wired.taken call there slot member)
      balance := by
        intro fd open_
        have before := wired.balance fd open_
        have moved := stepped.balance fd open_
        have created := stepped.created fd
        simp only [inHand, here, Option.elim_some] at before
        simp only [rendered, inHand, List.count_append, fences_rendered, accepted_rendered, stepped.accepted]
        omega
      fenceless := by
        intro none event member
        simp only [rendered, accepted_rendered, List.mem_append] at none member
        exact wired.fenceless (fun fd there => none fd (.inl there)) event (member.resolve_right (by simp)) }

theorem Wired.consume (wired : world.Wired) {call : HalInterface.Call} (here : world.hal.call = some call) :
    (world.consumed (world.hal.step world.ring call)).Wired := by
  have stepped := HalInterface.step_stepped world.hal world.ring (wired.reading call here)
  exact
    { reading := stepped.reading
      writing := fun call there => (wired.writing call there).shrunk stepped.shrunk
      queued := fun slot member => by
        simpa [consumed] using wired.queued slot (stepped.queue slot member)
      taken := by
        intro next there slot member
        simp only [consumed, accepted_consumed]
        exact (List.mem_append.mp (stepped.slots next there slot member)).elim (wired.taken call here slot)
          (wired.queued slot)
      balance := by
        intro fd open_
        have before := wired.balance fd open_
        simpa [consumed, inHand] using before
      fenceless := by
        intro none event member
        simp only [consumed, accepted_consumed, List.mem_append, List.mem_map] at none member
        obtain earlier | ⟨event, now, ⟨⟩⟩ := member
        · exact wired.fenceless none _ earlier
        · exact stepped.events (fun slot there => none _ (wired.taken call here slot there)) _ now }

theorem Wired.outside (wired : world.Wired) {renderer : RendererInterface} {events : List RendererInterface.Event}
    (quiet : events.filterMap RendererInterface.Event.accepted = [])
    (writing : ∀ call ∈ renderer.call, call.Writing world.ring.submit)
    (balance : ∀ fd, 0 ≤ fd → events.count (.created fd) + world.inHand.count fd =
      events.count (.close fd) + (renderer.call.elim [] RendererInterface.Call.inHand).count fd) :
    (world.rendered (world.ring, renderer, events)).Wired := by
  have same : accepted (world.history ++ events.map .inl) = accepted world.history := by simp [quiet]
  exact
    { reading := wired.reading
      writing
      queued := by simpa only [rendered, same] using wired.queued
      taken := by simpa only [rendered, same] using wired.taken
      balance := by
        intro fd open_
        have before := wired.balance fd open_
        have moved := balance fd open_
        simp only [rendered, inHand, List.count_append, same, fences_rendered] at before moved ⊢
        omega
      fenceless := by
        intro none event member
        simp only [rendered, same, List.mem_append] at none member
        exact wired.fenceless none event (member.resolve_right (by simp)) }

theorem boot_wired (bufferCount : Nat) : (boot bufferCount).Wired where
  reading := by simp [boot]
  writing := by simp [boot]
  queued := by simp [boot, Ring.queue, Ring.gap]
  taken := by simp [boot]
  balance := by simp [boot, fences, accepted, inHand]
  fenceless := by simp [boot]

theorem Wired.step (wired : world.Wired) (next : world.Step move after) : after.Wired := by
  cases move with
  | beginFrame timestampNs =>
    simp only [Step, perform] at next
    split at next <;> cases next
    next idle =>
      have none : world.renderer.call = none := by simpa using idle
      have balance := wired.balance
      simp only [inHand, none] at balance
      exact { wired with writing := by rintro _ ⟨⟩; trivial, balance := balance }
  | submitFrame place fenceFd =>
    simp only [Step, perform] at next
    split at next
    · cases next
    next idle =>
      obtain ⟨frame, there, rfl⟩ := Option.map_eq_some_iff.mp next
      have none : world.renderer.call = none := by simpa using idle
      unfold RendererInterface.submitFrame
      split
      next =>
        refine wired.outside ?_ ?_ ?_
        · split <;> rfl
        · rintro _ ⟨⟩
          exact ⟨trivial, rfl⟩
        · intro fd open_
          simp only [inHand, none, Option.elim_none, Option.elim_some, RendererInterface.Call.inHand]
          split
          next => simp [List.count_singleton]
          next negative =>
            have apart : fenceFd ≠ fd := by rintro rfl; exact negative open_
            simp [apart]
      next => exact wired.outside rfl wired.writing (by simp [inHand])
  | renderer =>
    obtain ⟨call, here, rfl⟩ := Option.map_eq_some_iff.mp next
    exact wired.render here
  | acquireLatestFrame timeoutMs | acquireNextFrame timeoutMs =>
    simp only [Step, perform] at next
    split at next <;> cases next
    exact { wired with reading := by rintro _ ⟨⟩; trivial, taken := by rintro _ ⟨⟩ slot ⟨⟩ }
  | releaseFrame place =>
    simp only [Step, perform] at next
    split at next
    · cases next
    next idle =>
      obtain ⟨frame, there, rfl⟩ := Option.map_eq_some_iff.mp next
      have none : world.hal.call = none := by simpa using idle
      unfold HalInterface.releaseFrame
      split
      next => exact { wired with reading := by rintro _ ⟨⟩; trivial, taken := by rintro _ ⟨⟩ slot ⟨⟩ }
      next => exact { wired with }
  | hal =>
    obtain ⟨call, here, rfl⟩ := Option.map_eq_some_iff.mp next
    exact wired.consume here
  | signal fd =>
    simp only [Step, perform] at next
    split at next <;> cases next
    exact wired.outside rfl wired.writing (by simp [inHand])

theorem wired_run {bufferCount : Nat} {moves : List ZeroCopyMove}
    (run : Runs.Run Step (boot bufferCount) moves world) : world.Wired :=
  run.invariant (fun _ world => world.Wired) (boot_wired bufferCount) fun _ _ _ _ _ wired next => wired.step next

structure FencesKept (world : ZeroCopyWorld) : Prop where
  foreign : ∀ fd, .inr (.syncWait fd) ∉ world.history ∧ .inr (.close fd) ∉ world.history
  closed : ∀ fd, 0 ≤ fd → (fences world.history).count (.created fd) =
    (fences world.history).count (.close fd) + world.inHand.count fd
  waited : ∀ early frame fenceFd late, world.history = early ++ .inr (.acquired frame fenceFd) :: late →
    0 ≤ fenceFd →
    .inl (.signalled fenceFd) ∈ early

def publishes (world : ZeroCopyWorld) : ZeroCopyMove → Option Int32
  | .renderer => world.renderer.call.bind (·.publishes)
  | _ => none

def FencelessStep (world : ZeroCopyWorld) (move : ZeroCopyMove) (after : ZeroCopyWorld) : Prop :=
  world.Step move after ∧ ∀ fd ∈ world.publishes move, fd < 0

theorem step_accepted (wired : world.Wired) (next : world.Step move after) :
    accepted after.history = accepted world.history ++ (world.publishes move).toList := by
  cases move with
  | beginFrame timestampNs | acquireLatestFrame timeoutMs | acquireNextFrame timeoutMs =>
    simp only [Step, perform] at next
    split at next <;> cases next
    simp [publishes]
  | submitFrame place fenceFd =>
    simp only [Step, perform] at next
    split at next
    · cases next
    next idle =>
      obtain ⟨frame, there, rfl⟩ := Option.map_eq_some_iff.mp next
      simp only [rendered, accepted_rendered, publishes, RendererInterface.submitFrame]
      split
      next => split <;> rfl
      next => rfl
  | renderer =>
    obtain ⟨call, here, rfl⟩ := Option.map_eq_some_iff.mp next
    have stepped := RendererInterface.step_stepped world.renderer world.ring (wired.writing call here)
    simp [rendered, stepped.accepted, publishes, here]
  | releaseFrame place =>
    simp only [Step, perform] at next
    split at next
    · cases next
    next idle =>
      obtain ⟨frame, there, rfl⟩ := Option.map_eq_some_iff.mp next
      simp [publishes]
  | hal =>
    obtain ⟨call, here, rfl⟩ := Option.map_eq_some_iff.mp next
    simp [consumed, publishes]
  | signal fd =>
    simp only [Step, perform] at next
    split at next <;> cases next
    exact (accepted_rendered world.history [.signalled fd]).trans rfl

theorem fenceless_run {bufferCount : Nat} {moves : List ZeroCopyMove}
    (run : Runs.Run Step (boot bufferCount) moves world) :
    Runs.Run FencelessStep (boot bufferCount) moves world ↔ ∀ fd ∈ accepted world.history, fd < 0 := by
  constructor
  next =>
    intro fenceless
    refine fenceless.invariant (fun _ world => ∀ fd ∈ accepted world.history, fd < 0)
      (by simp [boot, accepted, fences]) ?_
    intro past middle move after earlier none next
    rw [step_accepted (wired_run (earlier.mono fun _ _ _ => And.left)) next.1]
    intro fd member
    exact (List.mem_append.mp member).elim (none fd) fun now => next.2 fd (Option.mem_toList.mp now)
  next =>
    intro none
    induction run with
    | refl => exact .refl
    | snoc run next ih =>
      rw [step_accepted (wired_run run) next] at none
      refine .snoc (ih fun fd member => none fd (List.mem_append_left _ member)) ⟨next, fun fd now => ?_⟩
      exact none fd (List.mem_append_right _ (Option.mem_toList.mpr now))

theorem Wired.kept_iff (wired : world.Wired) : world.FencesKept ↔ ∀ fd ∈ accepted world.history, fd < 0 := by
  constructor
  next =>
    intro kept fd member
    by_contra open_
    have known := wired.balance fd (Int32.not_lt.mp open_)
    have closed := kept.closed fd (Int32.not_lt.mp open_)
    have positive := List.count_pos_iff.mpr member
    omega
  next =>
    intro none
    have fenceless := wired.fenceless none
    constructor
    next => exact fun fd => ⟨fun wait => Bool.false_ne_true (fenceless _ wait), fun close =>
      Bool.false_ne_true (fenceless _ close)⟩
    next =>
      intro fd open_
      have nowhere : (accepted world.history).count fd = 0 :=
        List.count_eq_zero.mpr fun member => Int32.not_lt.mpr open_ (none fd member)
      have known := wired.balance fd open_
      omega
    next =>
      intro early frame fenceFd late split open_
      have member : .inr (.acquired frame fenceFd) ∈ world.history := by simp [split]
      have closed : fenceFd < 0 := by simpa [HalInterface.Event.fenceless] using fenceless _ member
      exact absurd open_ (Int32.not_le.mpr closed)

theorem fences_kept (bufferCount : Nat) (moves : List ZeroCopyMove) (world : ZeroCopyWorld)
    (run : Runs.Run Step (boot bufferCount) moves world) :
    world.FencesKept ↔ Runs.Run FencelessStep (boot bufferCount) moves world :=
  (wired_run run).kept_iff.trans (fenceless_run run).symm

def submission (fenceFd : Int32) : List ZeroCopyMove :=
  [.beginFrame 5] ++ List.replicate 3 .renderer ++ [.submitFrame 0 fenceFd] ++ List.replicate 7 .renderer ++
    [.acquireLatestFrame 0] ++ List.replicate 10 .hal

theorem fences_kept_unfenced : ∃ world : ZeroCopyWorld, world.FencesKept ∧ world.hal.frameCount = 1 := by
  have computed : ((submission (-1)).foldlM perform (boot 1)).any
      (fun world => accepted world.history = [-1] ∧ world.hal.frameCount = 1) = true := by decide +kernel
  obtain ⟨world, run, reached⟩ := Runs.Run.of_any computed
  obtain ⟨published, handed⟩ := of_decide_eq_true reached
  refine ⟨world, (fences_kept 1 (submission (-1)) world run).mpr ((fenceless_run run).mpr ?_), handed⟩
  rw [published]
  intro fenceFd member
  rw [List.mem_singleton.mp member]
  decide +kernel

theorem fence_crosses : ∃ world, Runs.Run Step (boot 1) (submission 7) world ∧
    fences world.history = [.created 7, .submitted { bufferIndex := 0, timestampNs := 5 } 7] ∧
    .inr (.syncWait 7) ∈ world.history ∧ .inr (.close 7) ∈ world.history ∧ ¬ world.FencesKept := by
  have computed : ((submission 7).foldlM perform (boot 1)).any (fun world =>
      world.history = [.inl (.created 7), .inl (.submitted { bufferIndex := 0, timestampNs := 5 } 7),
        .inr (.syncWait 7), .inr (.close 7), .inr (.buffers 0),
        .inr (.acquired { bufferIndex := 0, buffer := some 0, timestampNs := 5 } 7)]) = true := by
    decide +kernel
  obtain ⟨world, run, reached⟩ := Runs.Run.of_any computed
  have history := of_decide_eq_true reached
  refine ⟨world, run, by rw [history]; rfl, by simp [history], by simp [history], fun kept => ?_⟩
  have waits : .inr (.syncWait 7) ∈ world.history := by simp [history]
  exact (kept.foreign 7).1 waits

end ZeroCopyWorld

end VirtualCamera
