import VirtualCamera.V2.SetupHandling

set_option autoImplicit false

namespace VirtualCamera

namespace SetupWorld

variable {world after : SetupWorld} {client : Nat} {clientFd : Int32}

theorem HalSound.acceptLoop (sound : world.HalSound)
    (connections : ∀ client < world.nextConnection, world.ConnectionSound client) {thread : Accepting}
    {answer : SetupAnswer}
    (here : world.source.thread = some thread) (next : world.acceptLoop answer thread = some after) :
    after.HalSound ∧ world.Heard after := by
  have before := sound.thread
  rw [here] at before
  cases thread with
  | checking =>
    cases next
    cases running : world.source.running with
    | false => exact sound.turned here .ended (Rests.thread before _) rfl
    | true => exact sound.turned here .accepting (Rests.thread before _) rfl
  | accepting =>
    cases next
    exact sound.turned here .checking (Rests.thread before _) rfl
  | handling client clientFd stage => exact sound.handle connections here next
  | closing clientFd =>
    cases next
    have rests : world.Rests := before
    refine ⟨⟨⟨rests.bare, rests.holds⟩, ?_, sound.balanced, ?_,
      ⟨sound.backlog.nodup, sound.backlog.fresh⟩⟩, heard_same rfl rfl rfl rfl⟩
    · exact sound.flag.moved rfl rfl rfl rfl rfl rfl (by rw [here]; rfl) rfl
    · refine sound.accounted.thread here rfl rfl fun fd => ?_
      change world.source.taken.count fd + world.source.returned.count fd + [clientFd].count fd =
        world.source.taken.count fd + (world.source.returned ++ [clientFd]).count fd + 0
      rw [List.count_append]
      omega
  | ended => cases next

theorem HalSound.accept (sound : world.HalSound) (next : world.accept clientFd = some after) :
    after.HalSound ∧ world.Heard after := by
  unfold SetupWorld.accept at next
  split at next
  case h_2 => cases next
  rename_i client rest here backlog
  split at next
  case isFalse => cases next
  cases next
  have rests : world.Rests := by
    have before := sound.thread
    rw [here] at before
    exact before
  have nodup := sound.backlog.nodup
  rw [backlog] at nodup
  obtain ⟨out, apart⟩ := List.nodup_cons.mp nodup
  have waiting : ∀ other ∈ client :: rest, other < world.nextConnection ∧
      (world.connections other).received = 0 := by
    rw [← backlog]
    exact sound.backlog.fresh
  refine ⟨⟨⟨(waiting client List.mem_cons_self).1, out, ⟨rests.bare, rests.holds⟩,
    (waiting client List.mem_cons_self).2⟩, ?_, sound.balanced, ?_,
    ⟨apart, fun other member => waiting other (List.mem_cons_of_mem _ member)⟩⟩, heard_same rfl rfl rfl rfl⟩
  · exact sound.flag.moved rfl rfl rfl rfl rfl rfl (by rw [here]; rfl) rfl
  · refine sound.accounted.thread here rfl rfl fun fd => ?_
    change (world.source.taken ++ [clientFd]).count fd + world.source.returned.count fd + 0 =
      world.source.taken.count fd + world.source.returned.count fd + [clientFd].count fd
    rw [List.count_append]
    omega

theorem server_closed {source : VirtualCameraFrameSourceV2} (closed : source.serverFd < 0) : source.server = [] :=
  if_neg (Int32.not_le.mpr closed)

theorem server_open {source : VirtualCameraFrameSourceV2} (open_ : 0 ≤ source.serverFd) :
    source.server = [source.serverFd] := if_pos open_

theorem descriptors_none {source : VirtualCameraFrameSourceV2} (idle : source.thread = none)
    (closed : source.serverFd < 0) : source.descriptors = [] := by
  rw [VirtualCameraFrameSourceV2.descriptors, server_closed closed, idle]
  rfl

theorem descriptors_started {source : VirtualCameraFrameSourceV2} (thread : Accepting)
    (here : source.thread = some thread) (open_ : 0 ≤ source.serverFd) :
    source.descriptors = source.serverFd :: thread.descriptors := by
  rw [descriptors_some here, server_open open_]
  rfl

theorem HalSound.unstarted (sound : world.HalSound) (halted : world.source.stopping = none)
    (waits : world.source.running = false) : world.source.thread = none ∧ world.Rests ∧
      ∀ fd, world.source.taken.count fd = world.source.returned.count fd := by
  have idle := sound.flag.waits halted waits
  refine ⟨idle, ?_, fun fd => ?_⟩
  · have before := sound.thread
    rw [idle] at before
    exact before
  · have before := sound.accounted fd
    rw [descriptors_none idle (sound.flag.idle idle).1] at before
    exact before

theorem HalSound.unopened (sound : world.HalSound) (idle : world.source.thread = none) (rests : world.Rests)
    {serverFd : Int32} (closed : serverFd < 0) {taken returned : List Int32}
    (books : ∀ fd, taken.count fd = returned.count fd) :
    (world.withSource { world.source with serverFd, taken, returned }).HalSound := by
  refine ⟨?_, ?_, sound.balanced, fun fd => ?_, ⟨sound.backlog.nodup, sound.backlog.fresh⟩⟩
  · change ThreadSound _ world.source.thread
    rw [idle]
    exact ⟨rests.bare, rests.holds⟩
  · exact ⟨sound.flag.active, sound.flag.overtaken, sound.flag.serving,
      fun _ => ⟨closed, (sound.flag.idle idle).2⟩, sound.flag.waits, fun _ => closed, sound.flag.releasing,
      sound.flag.late⟩
  · have nothing : VirtualCameraFrameSourceV2.descriptors { world.source with serverFd, taken, returned } = [] :=
      descriptors_none idle closed
    change taken.count fd = returned.count fd +
      (VirtualCameraFrameSourceV2.descriptors { world.source with serverFd, taken, returned }).count fd
    rw [nothing]
    exact books fd

theorem HalSound.started (sound : world.HalSound) (halted : world.source.stopping = none) (rests : world.Rests)
    (books : ∀ fd, world.source.taken.count fd = world.source.returned.count fd) {serverFd : Int32}
    (open_ : 0 ≤ serverFd) :
    (world.withSource { world.source.take serverFd with
      serverFd, running := true, thread := some .checking }).HalSound := by
  refine ⟨⟨rests.bare, rests.holds⟩, ?_, sound.balanced, fun fd => ?_, ⟨sound.backlog.nodup, sound.backlog.fresh⟩⟩
  · refine ⟨sound.flag.active, sound.flag.overtaken, sound.flag.serving, fun ended => ?_, fun _ no => ?_,
      fun joining => ?_, fun releasing => ?_, sound.flag.late⟩
    · cases ended
    · cases no
    · rw [show world.source.stopping = some .joining from joining] at halted
      cases halted
    · rw [show world.source.stopping = some .releasing from releasing] at halted
      cases halted
  · have one : VirtualCameraFrameSourceV2.descriptors { world.source.take serverFd with
        serverFd, running := true, thread := some .checking } = [serverFd] := descriptors_started .checking rfl open_
    change (world.source.taken ++ [serverFd]).count fd = world.source.returned.count fd +
      (VirtualCameraFrameSourceV2.descriptors { world.source.take serverFd with
        serverFd, running := true, thread := some .checking }).count fd
    rw [one, List.count_append, books fd]

theorem HalSound.start (sound : world.HalSound) (halted : world.source.stopping = none) (serverFd : Int32)
    (listening : Bool) :
    (world.withSource (world.source.start serverFd listening)).HalSound ∧
      world.Heard (world.withSource (world.source.start serverFd listening)) := by
  refine ⟨?_, heard_same rfl rfl rfl rfl⟩
  unfold VirtualCameraFrameSourceV2.start
  by_cases running : world.source.running = true
  · rw [if_pos running]
    exact sound
  obtain ⟨idle, rests, books⟩ := sound.unstarted halted (by simpa using running)
  rw [if_neg running]
  by_cases fails : serverFd < 0
  · rw [if_pos fails]
    exact sound.unopened idle rests fails books
  rw [if_neg fails]
  cases listening with
  | true =>
    rw [if_pos rfl]
    exact sound.started halted rests books (Int32.not_lt.mp fails)
  | false =>
    rw [if_neg Bool.false_ne_true]
    have negative : (-1 : Int32) < 0 := by decide
    refine sound.unopened idle rests negative fun fd => ?_
    change (world.source.taken ++ [serverFd]).count fd = (world.source.returned ++ [serverFd]).count fd
    rw [List.count_append, List.count_append, books fd]

theorem StageSound.kept {stage : Handling} (sound : world.StageSound client stage)
    (pool : after.source.pool = world.source.pool) (ring : after.source.halRing = world.source.halRing)
    (objects : after.objects = world.objects) (serving : after.serving = world.serving)
    (connections : after.connections = world.connections) (heard : world.Heard after)
    (calm : world.overtaken = false ∧ world.source.active = false →
      after.overtaken = false ∧ after.source.active = false) : after.StageSound client stage := by
  cases stage <;> simp only [StageSound, pool, objects, serving, connections] at sound ⊢
  case header => exact ⟨sound.1.kept pool ring objects serving heard, sound.2⟩
  case ring => exact ⟨sound.1.kept pool ring objects serving heard, sound.2⟩
  case locking => exact ⟨sound.1.kept pool ring objects serving heard, sound.2⟩
  case attaching => exact ⟨⟨sound.1.1, calm sound.1.2⟩, sound.2⟩
  case receiving => exact ⟨⟨sound.1.1, calm sound.1.2⟩, sound.2⟩
  case acknowledging => exact ⟨sound.1.kept pool ring objects serving heard, heard.served _ sound.2⟩

theorem HalSound.flagged (sound : world.HalSound) (thread : after.source.thread = world.source.thread)
    (pool : after.source.pool = world.source.pool) (ring : after.source.halRing = world.source.halRing)
    (objects : after.objects = world.objects) (serving : after.serving = world.serving)
    (connections : after.connections = world.connections) (backlog : after.backlog = world.backlog)
    (heard : world.Heard after)
    (calm : world.overtaken = false ∧ world.source.active = false →
      after.overtaken = false ∧ after.source.active = false)
    (flag : after.FlagSound) (books : Accounted after.source) : after.HalSound where
  thread := by
    have before := sound.thread
    rw [thread]
    cases here : world.source.thread with
    | none =>
      rw [here] at before
      exact Rests.kept before pool ring objects serving heard
    | some there =>
      rw [here] at before
      cases there with
      | handling client clientFd stage =>
        obtain ⟨known, out, fits⟩ := before
        exact ⟨by rwa [heard.next], by rwa [backlog],
          fits.kept pool ring objects serving connections heard calm⟩
      | _ => exact Rests.kept before pool ring objects serving heard
  flag
  balanced := by rw [pool]; exact sound.balanced
  accounted := books
  backlog := ⟨by rw [backlog]; exact sound.backlog.nodup, by
    rw [backlog, heard.next, connections]
    exact sound.backlog.fresh⟩

theorem HalSound.stop (sound : world.HalSound) (halted : world.source.stopping = none) :
    (world.withSource world.source.stop).HalSound ∧ world.Heard (world.withSource world.source.stop) := by
  have heard : world.Heard (world.withSource world.source.stop) := heard_same rfl rfl rfl rfl
  have quiet : ¬ world.Halting := by
    unfold Halting
    rw [halted]
    simp
  refine ⟨sound.flagged rfl rfl rfl rfl rfl rfl rfl heard id ?_ sound.accounted, heard⟩
  refine ⟨sound.flag.active, fun overtaken => ?_, fun serving => ?_, fun ended => ?_, fun no => ?_, fun no => ?_,
    fun no => ?_, fun no => ?_⟩
  · obtain ⟨active, halting⟩ := sound.flag.overtaken overtaken
    exact ⟨active, fun serving => absurd (halting serving) quiet⟩
  · exact .inl ((sound.flag.serving serving).resolve_right quiet)
  · obtain ⟨closed, calm⟩ := sound.flag.idle ended
    refine ⟨closed, fun serving => ?_⟩
    have releasing := calm serving
    rw [halted] at releasing
    cases releasing
  · cases no
  · cases no
  · cases no
  · rcases no with no | no | no <;> cases no

theorem HalSound.deactivate (sound : world.HalSound) (here : world.source.stopping = some .deactivating) :
    HalSound { world with
        source := { world.source with active := false, stopping := some .closing }, overtaken := false } ∧
      world.Heard { world with
        source := { world.source with active := false, stopping := some .closing }, overtaken := false } := by
  have heard : world.Heard { world with
      source := { world.source with active := false, stopping := some .closing }, overtaken := false } :=
    heard_same rfl rfl rfl rfl
  refine ⟨sound.flagged rfl rfl rfl rfl rfl rfl rfl heard (fun _ => ⟨rfl, rfl⟩) ?_ sound.accounted, heard⟩
  refine ⟨fun no => ?_, fun no => ?_, fun _ => .inr (.inl rfl), fun ended => ?_, fun no => ?_, fun no => ?_,
    fun no => ?_, fun _ no => ?_⟩
  · cases no
  · cases no
  · obtain ⟨closed, calm⟩ := sound.flag.idle ended
    refine ⟨closed, fun serving => ?_⟩
    have releasing := calm serving
    rw [here] at releasing
    cases releasing
  · cases no
  · cases no
  · cases no
  · cases no

theorem FlagSound.halts (sound : world.FlagSound) (halting : world.source.stopping = some .closing ∨
      world.source.stopping = some .joining) {stage : Stopping} (still : stage = .joining ∨ stage = .releasing)
    (stopping : after.source.stopping = some stage) (active : after.source.active = world.source.active)
    (serving : after.serving = world.serving) (overtaken : after.overtaken = world.overtaken)
    (closed : after.source.serverFd < 0)
    (idle : stage = .releasing → after.source.thread = none)
    (ended : after.source.thread = none → stage = .releasing ∨ world.source.thread = none) : after.FlagSound := by
  have halts : after.Halting := by
    unfold Halting
    rw [stopping]
    rcases still with rfl | rfl
    · exact .inr (.inl rfl)
    · exact .inr (.inr rfl)
  refine ⟨?_, ?_, fun _ => .inr halts, fun stopped => ⟨closed, fun serves => ?_⟩, fun none_ => ?_, fun _ => closed,
    fun releasing => ?_, fun _ => ?_⟩
  · rw [active, serving, overtaken]
    exact sound.active
  · rw [active, overtaken]
    exact fun yes => ⟨(sound.overtaken yes).1, fun _ => halts⟩
  · rcases ended stopped with rfl | before
    · exact stopping
    · rw [serving] at serves
      have releasing := (sound.idle before).2 serves
      rcases halting with here | here <;> rw [here] at releasing <;> cases releasing
  · rw [stopping] at none_
    cases none_
  · rw [stopping] at releasing
    exact idle (Option.some.inj releasing)
  · rw [active, overtaken]
    exact sound.late (halting.imp_right .inl)

theorem HalSound.closeServer (sound : world.HalSound) (here : world.source.stopping = some .closing)
    {source : VirtualCameraFrameSourceV2} (next : world.source.proceed .closing = some source) :
    (world.withSource source).HalSound ∧ world.Heard (world.withSource source) := by
  have heard : world.Heard (world.withSource source) := heard_same rfl rfl rfl rfl
  refine ⟨?_, heard⟩
  have idle (thread : Option Accepting) : thread = none → Stopping.joining = .releasing ∨ thread = none := .inr
  unfold VirtualCameraFrameSourceV2.proceed at next
  by_cases open_ : 0 ≤ world.source.serverFd
  · rw [if_pos open_] at next
    cases next
    have negative : (-1 : Int32) < 0 := by decide
    generalize (-1 : Int32) = closedFd at negative heard ⊢
    refine sound.flagged rfl rfl rfl rfl rfl rfl rfl heard id ?_ fun fd => ?_
    · exact sound.flag.halts (.inl here) (.inl rfl) rfl rfl rfl rfl negative (fun no => by cases no) (idle _)
    · have before := sound.accounted fd
      rw [VirtualCameraFrameSourceV2.descriptors, server_open open_, List.count_append] at before
      have gone : VirtualCameraFrameSourceV2.server { world.source.close world.source.serverFd with
          serverFd := closedFd, stopping := some .joining } = [] := server_closed negative
      change world.source.taken.count fd = (world.source.returned ++ [world.source.serverFd]).count fd +
        (VirtualCameraFrameSourceV2.server { world.source.close world.source.serverFd with
          serverFd := closedFd, stopping := some .joining } ++
          world.source.thread.toList.flatMap Accepting.descriptors).count fd
      rw [gone, List.count_append, List.nil_append]
      omega
  · rw [if_neg open_] at next
    cases next
    refine sound.flagged rfl rfl rfl rfl rfl rfl rfl heard id ?_ sound.accounted
    exact sound.flag.halts (.inl here) (.inl rfl) rfl rfl rfl rfl (Int32.not_le.mp open_) (fun no => by cases no)
      (idle _)

theorem HalSound.join (sound : world.HalSound) (here : world.source.stopping = some .joining)
    {source : VirtualCameraFrameSourceV2} (next : world.source.proceed .joining = some source) :
    (world.withSource source).HalSound ∧ world.Heard (world.withSource source) := by
  have closed := sound.flag.joining here
  have ended : (world.source.thread = none ∨ world.source.thread = some .ended) ∧
      source = { world.source with thread := none, stopping := some .releasing } := by
    unfold VirtualCameraFrameSourceV2.proceed at next
    dsimp only at next
    split at next
    · rename_i shape
      cases next
      exact ⟨.inl shape, rfl⟩
    · rename_i shape
      cases next
      exact ⟨.inr shape, rfl⟩
    · cases next
  obtain ⟨waits, rfl⟩ := ended
  have rests : world.Rests := by
    have before := sound.thread
    rcases waits with shape | shape <;> rw [shape] at before <;> exact before
  have held : world.source.descriptors = [] := by
    rcases waits with shape | shape
    · exact descriptors_none shape closed
    · rw [descriptors_some shape, server_closed closed]
      rfl
  refine ⟨⟨⟨rests.bare, rests.holds⟩, ?_, sound.balanced, fun fd => ?_,
    ⟨sound.backlog.nodup, sound.backlog.fresh⟩⟩, heard_same rfl rfl rfl rfl⟩
  · exact sound.flag.halts (.inr here) (.inr rfl) rfl rfl rfl rfl closed (fun _ => rfl) fun _ => .inl rfl
  · have before := sound.accounted fd
    rw [held] at before
    have nothing : VirtualCameraFrameSourceV2.descriptors { world.source with
        thread := none, stopping := some .releasing } = [] := descriptors_none rfl closed
    change world.source.taken.count fd = world.source.returned.count fd +
      (VirtualCameraFrameSourceV2.descriptors { world.source with
        thread := none, stopping := some .releasing }).count fd
    rw [nothing]
    exact before

theorem HalSound.releasePool (sound : world.HalSound)
    (connections : ∀ client < world.nextConnection, world.ConnectionSound client)
    (here : world.source.stopping = some .releasing) :
    HalSound { world with
        source := { world.source with pool := world.source.pool.release, stopping := none }, serving := none } ∧
      world.Heard { world with
        source := { world.source with pool := world.source.pool.release, stopping := none }, serving := none } := by
  have idle := sound.flag.releasing here
  have rests : world.Rests := by
    have before := sound.thread
    rw [idle] at before
    exact before
  have covered := rests.covered connections
  refine ⟨⟨?_, ?_, covered.balanced_release sound.balanced, sound.accounted,
    ⟨sound.backlog.nodup, sound.backlog.fresh⟩⟩, heard_same rfl rfl rfl rfl⟩
  · change ThreadSound _ world.source.thread
    rw [idle]
    exact ⟨fun _ => covered.bare, fun _ no => by cases no⟩
  · refine ⟨fun active => ?_, fun overtaken => ⟨(sound.flag.overtaken overtaken).1, fun no => ?_⟩, fun no => ?_,
      fun _ => ⟨(sound.flag.idle idle).1, fun no => ?_⟩, fun _ _ => idle, fun no => ?_, fun no => ?_, fun no => ?_⟩
    · exact .inr (sound.flag.late (.inr (.inr here)) active)
    · cases no
    · cases no
    · cases no
    · cases no
    · cases no
    · rcases no with no | no | no <;> cases no

end SetupWorld

end VirtualCamera
