import VirtualCamera.Service.SlotLeases

set_option autoImplicit false

namespace VirtualCamera

open Descriptors Leases

def Running.camera : Running → Option CameraId
  | .registering camera | .askingHal camera | .recovering camera | .removingProducer camera | .releasingSurface camera
  | .closingCamera camera | .finishing camera => some camera
  | .creating event | .surfaced event | .connecting event | .configuring event | .opening event | .handing event
  | .starting event | .checking event | .stopping event | .closing event | .closed event => some event.owner
  | .removing _ | .releasing _ => none

def LifecycleTask.camera : LifecycleTask → Option CameraId
  | .register camera | .recover camera _ | .remove camera => some camera
  | .configure event | .close event => some event.owner
  | .release _ => none

theorem LifecycleSlot.current_iff {T : Type} {slot : LifecycleSlot T} {owner : T} :
    slot.current = some owner ↔ slot.owner = some owner ∧ slot.closing = false := by
  cases closing : slot.closing <;> simp [current, closing]

namespace VirtualCameraService

def Cleaned (service : VirtualCameraService) (slot : Slot) (camera : CameraId) : Prop :=
  [(slot, NativeCall.removeProducer camera), (slot, .releaseSurface)].Sublist service.natives

def Progress (service : VirtualCameraService) (slot : Slot) : Running → Prop
  | .releasingSurface camera => (slot, .removeProducer camera) ∈ service.natives
  | .closingCamera camera | .finishing camera => service.Cleaned slot camera
  | _ => True

structure Attended (service : VirtualCameraService) : Prop where
  served : ∀ slot running camera, service.running slot = some running → running.camera = some camera →
    (service.slots slot).owner = some camera
  done : ∀ slot running, service.running slot = some running → service.Progress slot running

variable {service after : VirtualCameraService} {slot : Slot} {running : Running} {camera : CameraId}

theorem Progress.mono (progress : service.Progress slot running)
    (grown : service.natives.Sublist after.natives) : after.Progress slot running := by
  cases running with
  | releasingSurface camera => exact grown.subset progress
  | closingCamera camera | finishing camera => exact List.Sublist.trans progress grown
  | _ => trivial

theorem Calm.attended (calm : service.Calm after) (attended : service.Attended) : after.Attended where
  served slot running camera busy own :=
    calm.owner slot camera (attended.served slot running camera (by rwa [← calm.running]) own)
  done slot running busy :=
    (attended.done slot running (by rwa [← calm.running])).mono (by rw [calm.natives])

structure Advanced (service : VirtualCameraService) (slot : Slot) (running : Running) (after : VirtualCameraService) :
    Prop where
  natives : ∃ added, after.natives = service.natives ++ added ∧
    ∀ place camera, (place, NativeCall.registerProducer camera) ∉ added
  owner : ∀ other camera, (service.slots other).owner = some camera →
    (other = slot → ∀ finished, running ≠ .finishing finished) → (after.slots other).owner = some camera

theorem Calm.advanced (calm : service.Calm after) : service.Advanced slot running after where
  natives := ⟨[], by simp [calm.natives], by simp⟩
  owner other camera held _ := calm.owner other camera held

theorem advance_advanced (answer : Bool) (running : Running) :
    service.Advanced slot running (service.advance slot answer running).1 := by
  cases running with
  | removing removal => exact (service.remove_calm answer removal).advanced
  | closingCamera camera => exact (service.close_calm camera).advanced
  | removingProducer camera | releasingSurface camera => exact ⟨⟨_, rfl, by simp⟩, fun _ _ held _ => held⟩
  | finishing camera =>
    refine ⟨⟨[], by simp [advance, setSlot], by simp⟩, fun other holder held outside => ?_⟩
    have elsewhere : other ≠ slot := fun same => outside same camera rfl
    simpa only [advance, setSlot, Function.update_of_ne elsewhere] using held
  | askingHal camera => cases answer <;> exact Calm.advanced (.of_same rfl rfl rfl)
  | _ => exact Calm.advanced (.of_same rfl rfl rfl)

theorem advance_progress (answer : Bool) {next : Running} (done : service.Progress slot running)
    (goes : (service.advance slot answer running).2 = some next) :
    (service.advance slot answer running).1.Progress slot next ∧
      (next.camera = none ∨ next.camera = running.camera) := by
  cases running with
  | removing removal =>
    obtain ⟨rest, _, rfl⟩ := Option.map_eq_some_iff.mp goes
    exact ⟨trivial, .inl rfl⟩
  | registering camera | creating event | checking event | askingHal camera =>
    cases answer <;> cases goes
    exact ⟨trivial, by simp [Running.camera]⟩
  | surfaced event =>
    obtain ⟨_, same⟩ := Option.ite_none_right_eq_some.mp goes
    cases same
    exact ⟨trivial, .inr rfl⟩
  | removingProducer camera =>
    cases goes
    exact ⟨List.mem_append_right _ (List.mem_singleton_self _), .inr rfl⟩
  | releasingSurface camera =>
    cases goes
    exact ⟨(List.singleton_sublist.mpr done).append (List.Sublist.refl _), .inr rfl⟩
  | closingCamera camera =>
    cases goes
    refine ⟨?_, .inr rfl⟩
    have calm := service.close_calm camera
    have ended : service.Progress slot (.finishing camera) := done
    exact ended.mono (calm.natives ▸ List.Sublist.refl _)
  | connecting event | configuring event | opening event | handing event | stopping event | closing event =>
    cases goes
    exact ⟨trivial, .inr rfl⟩
  | recovering | starting | closed | releasing | finishing => cases goes

structure Apart (service : VirtualCameraService) (other : CameraId) (after : VirtualCameraService) : Prop where
  object : after.objects other = service.objects other
  told : after.told.filter (·.1 = other) = service.told.filter (·.1 = other)

theorem setObject_apart {other : CameraId} (apart : other ≠ camera) (change : CameraState → CameraState) :
    service.Apart other (service.setObject camera change) :=
  ⟨Function.update_of_ne apart _ _, rfl⟩

theorem tell_apart {other : CameraId} (apart : other ≠ camera) (call : ProducerCall) :
    service.Apart other (service.tell camera call) :=
  ⟨rfl, by simp [tell, apart.symm]⟩

theorem Apart.trans {other : CameraId} {final : VirtualCameraService} (first : service.Apart other after)
    (second : after.Apart other final) : service.Apart other final :=
  ⟨second.object.trans first.object, second.told.trans first.told⟩

theorem close_apart {other : CameraId} (apart : other ≠ camera) : service.Apart other (service.close camera) := by
  unfold close
  split
  next => exact (setObject_apart apart _).trans (tell_apart apart _)
  next => exact ⟨rfl, rfl⟩

theorem advance_apart {other : CameraId} (answer : Bool) (own : running.camera = some camera)
    (apart : other ≠ camera) :
    service.Apart other (service.advance slot answer running).1 := by
  cases running with
  | connecting event | configuring event =>
    cases own
    exact setObject_apart apart _
  | handing event =>
    cases own
    exact tell_apart apart _
  | opening event | starting event | stopping event | closing event =>
    cases own
    exact (setObject_apart apart _).trans (tell_apart apart _)
  | closingCamera holder =>
    cases own
    exact close_apart apart
  | askingHal holder => cases answer <;> exact ⟨rfl, rfl⟩
  | removing | releasing => cases own
  | _ => exact ⟨rfl, rfl⟩

theorem start_served (task : LifecycleTask)
    (ordered : ∀ camera, task = .remove camera → (service.slots slot).owner = some camera)
    (begins : service.start slot task = some running) :
    (∀ camera, running.camera = some camera → (service.slots slot).owner = some camera) ∧
      running.camera = task.camera ∧ ∀ after : VirtualCameraService, after.Progress slot running := by
  have current {event : OwnedEvent} (latest : service.isCurrentEvent slot event = true) :
      (service.slots slot).owner = some event.owner := by
    simp only [isCurrentEvent, LifecycleSlot.isCurrentEvent, Bool.and_eq_true] at latest
    exact (LifecycleSlot.owns_iff.mp latest.1.1).1
  cases task with
  | register camera =>
    obtain ⟨owns, same⟩ := Option.ite_none_right_eq_some.mp begins
    cases same
    refine ⟨fun other own => ?_, rfl, fun _ => trivial⟩
    cases own
    exact (LifecycleSlot.owns_iff.mp owns).1
  | recover camera round =>
    obtain ⟨⟨_, owns⟩, same⟩ := Option.ite_none_right_eq_some.mp begins
    cases same
    refine ⟨fun other own => ?_, rfl, fun _ => trivial⟩
    cases own
    exact (LifecycleSlot.owns_iff.mp owns).1
  | configure event | close event =>
    obtain ⟨latest, same⟩ := Option.ite_none_right_eq_some.mp begins
    cases same
    refine ⟨fun other own => ?_, rfl, fun _ => trivial⟩
    cases own
    exact current latest
  | release connection =>
    cases begins
    exact ⟨by simp [Running.camera], rfl, fun _ => trivial⟩
  | remove camera =>
    cases begins
    refine ⟨fun other own => ?_, rfl, fun _ => trivial⟩
    cases own
    exact ordered camera rfl

theorem starting_natives (slot : Slot) (running : Option Running) :
    service.natives.Sublist (service.starting slot running).natives := by
  unfold starting
  split
  next => exact List.sublist_append_left _ _
  next => exact List.sublist_append_left _ _
  next => exact List.Sublist.refl _

theorem registering_owns {task : LifecycleTask} {other : CameraId} (begins : service.start slot task = some running)
    (registers : running = .registering other ∨ running = .recovering other) :
    (service.slots slot).owns other = true := by
  cases task with
  | register camera =>
    obtain ⟨owns, same⟩ := Option.ite_none_right_eq_some.mp begins
    cases same
    rcases registers with same | same <;> cases same
    exact owns
  | recover camera round =>
    obtain ⟨⟨_, owns⟩, same⟩ := Option.ite_none_right_eq_some.mp begins
    cases same
    rcases registers with same | same <;> cases same
    exact owns
  | configure event | close event =>
    obtain ⟨_, same⟩ := Option.ite_none_right_eq_some.mp begins
    cases same
    simp at registers
  | release connection | remove camera =>
    cases begins
    simp at registers

theorem starting_registers {task : LifecycleTask} {place : Slot}
    (registers : (service.starting slot (service.start slot task)).natives =
      service.natives ++ [(place, .registerProducer camera)]) :
    place = slot ∧ (service.slots place).current = some camera := by
  have current {other : CameraId} (owns : (service.slots slot).owns other = true) :
      (service.slots slot).current = some other := by
    obtain ⟨owner, opened⟩ := LifecycleSlot.owns_iff.mp owns
    simp [LifecycleSlot.current, owner, opened]
  generalize begins : service.start slot task = begun at registers
  unfold starting at registers
  split at registers
  next other =>
    obtain ⟨rfl, same⟩ := Prod.mk.inj (List.singleton_inj.mp (List.append_cancel_left registers))
    cases same
    exact ⟨rfl, current (registering_owns begins (.inl rfl))⟩
  next other =>
    obtain ⟨rfl, same⟩ := Prod.mk.inj (List.singleton_inj.mp (List.append_cancel_left registers))
    cases same
    exact ⟨rfl, current (registering_owns begins (.inr rfl))⟩
  next => simp at registers

theorem starting_slots (slot : Slot) (running : Option Running) :
    (service.starting slot running).slots = service.slots := by
  unfold starting
  split <;> rfl

structure Turned (service : VirtualCameraService) (slot : Slot) (after : VirtualCameraService) : Prop where
  natives : service.natives.Sublist after.natives
  others : ∀ other, other ≠ slot → after.running other = service.running other
  owner : ∀ other camera, (service.slots other).owner = some camera →
    (other = slot → ∀ finished, service.running slot ≠ some (.finishing finished)) →
    (after.slots other).owner = some camera

theorem turn_turned {answer : Bool} (next : service.turn slot answer = some after) : service.Turned slot after := by
  have others (other : Slot) (elsewhere : other ≠ slot) : after.running other = service.running other := by
    rw [turn_running next, Function.update_of_ne elsewhere]
  rcases turn_cases next with ⟨running, busy, rfl⟩ | ⟨task, queue, idle, waiting, rfl⟩
  · have advanced : service.Advanced slot running _ := service.advance_advanced answer running
    obtain ⟨added, noted, _⟩ := advanced.natives
    have grown : service.natives.Sublist (service.advance slot answer running).1.natives :=
      noted ▸ List.sublist_append_left _ _
    refine ⟨grown, others, fun other camera held outside => ?_⟩
    refine advanced.owner other camera held fun same finished ended => outside same finished ?_
    rw [busy, ended]
  · refine ⟨service.starting_natives slot _, others, fun other camera held _ => ?_⟩
    exact (congrArg (fun slots => (slots other).owner) (service.starting_slots slot _)).trans held

theorem turn_attended {answer : Bool} (attended : service.Attended)
    (ordered : ∀ camera, .remove camera ∈ (service.lifecycle slot).queue → (service.slots slot).owner = some camera)
    (next : service.turn slot answer = some after) : after.Attended := by
  have turned := turn_turned next
  have own : ∀ running, after.running slot = some running →
      (∀ camera, running.camera = some camera → (after.slots slot).owner = some camera) ∧
        after.Progress slot running := by
    rcases turn_cases next with ⟨begun, busy, rfl⟩ | ⟨task, queue, idle, waiting, rfl⟩
    · intro running goes
      rw [run_running, Function.update_self] at goes
      obtain ⟨progress, kept⟩ := advance_progress answer (attended.done slot begun busy) goes
      refine ⟨fun camera own => ?_, progress⟩
      have same : begun.camera = some camera := by
        rcases kept with gone | same
        · cases gone.symm.trans own
        · rw [← same, own]
      refine turned.owner slot camera (attended.served slot begun camera busy same) fun _ finished ended => ?_
      cases busy.symm.trans ended
      cases goes
    · intro running goes
      rw [take_running, Function.update_self] at goes
      obtain ⟨served, _, progress⟩ := start_served task (fun camera same => ordered camera (by simp [waiting, same])) goes
      refine ⟨fun camera own => turned.owner slot camera (served camera own) fun _ finished busy => ?_, progress _⟩
      cases idle.symm.trans busy
  constructor
  next =>
    intro other running camera busy same
    by_cases here : other = slot
    next =>
      subst here
      exact (own running busy).1 camera same
    next =>
      refine turned.owner other camera (attended.served other running camera ?_ same) fun same => absurd same here
      rwa [← turned.others other here]
  next =>
    intro other running busy
    by_cases here : other = slot
    next =>
      subst here
      exact (own running busy).2
    next =>
      refine (attended.done other running ?_).mono turned.natives
      rwa [← turned.others other here]

end VirtualCameraService

namespace ServiceWorld

open VirtualCameraService Runs

variable {world after final : ServiceWorld} {move : ServiceMove} {slot : Slot} {camera : CameraId}

theorem remove_ordered (sound : world.books.Sound)
    (member : .remove camera ∈ (world.service.lifecycle slot).queue) :
    (world.service.slots slot).owner = some camera := by
  refine (sound.ordered slot camera ?_).1
  exact List.mem_append_right _ (List.mem_filterMap.mpr ⟨_, member, rfl⟩)

theorem step_attended (sound : world.books.Sound) (attended : world.service.Attended) (next : world.Step move after) :
    after.service.Attended := by
  by_cases turns : ∃ slot answer, move = .lifecycle slot answer
  next =>
    obtain ⟨slot, answer, rfl⟩ := turns
    obtain ⟨service, turned, rfl⟩ := Option.map_eq_some_iff.mp next
    exact turn_attended attended (fun camera => remove_ordered sound) turned
  next => exact (step_calm next fun slot answer same => turns ⟨slot, answer, same⟩).attended attended

theorem run_attended {past : List ServiceMove} (run : Run Step {} past world) : world.service.Attended := by
  refine run.invariant (fun _ world => world.service.Attended) ⟨by simp [running], by simp [running]⟩ ?_
  intro _ _ _ _ reached attended next
  exact step_attended (run_sound reached) attended next

theorem run_homes {past : List ServiceMove} (run : Run Step {} past world) : world.books.Homes := by
  refine run.invariant (fun _ world => world.books.Homes) (boot_books ▸ Books.fresh_homes _) ?_
  intro _ _ _ _ reached homes next
  rcases step_books (run_sound reached) next with same | step
  · rwa [same]
  · exact homes.step (run_sound reached) step

theorem step_natives (next : world.Step move after) : world.service.natives.Sublist after.service.natives := by
  by_cases turns : ∃ slot answer, move = .lifecycle slot answer
  next =>
    obtain ⟨slot, answer, rfl⟩ := turns
    obtain ⟨service, turned, rfl⟩ := Option.map_eq_some_iff.mp next
    exact (turn_turned turned).natives
  next =>
    rw [(step_calm next fun slot answer same => turns ⟨slot, answer, same⟩).natives]

theorem step_owner (attended : world.service.Attended) (next : world.Step move after)
    (held : (world.service.slots slot).owner = some camera) :
    (after.service.slots slot).owner = some camera ∨ world.service.Cleaned slot camera := by
  by_cases turns : ∃ slot answer, move = .lifecycle slot answer
  next =>
    obtain ⟨turning, answer, rfl⟩ := turns
    obtain ⟨service, turned, rfl⟩ := Option.map_eq_some_iff.mp next
    by_cases ends : slot = turning ∧ ∃ finished, world.service.running turning = some (.finishing finished)
    next =>
      obtain ⟨rfl, finished, busy⟩ := ends
      have owner := attended.served slot _ finished busy rfl
      cases held.symm.trans owner
      exact .inr (attended.done slot _ busy)
    next =>
      refine .inl ((turn_turned turned).owner slot camera held fun same finished busy => ends ?_)
      exact ⟨same, finished, busy⟩
  next => exact .inl ((step_calm next fun slot answer same => turns ⟨slot, answer, same⟩).owner slot camera held)

theorem run_owner {past later : List ServiceMove} (reached : Run Step {} past world)
    (run : Run Step world later final)
    (held : (world.service.slots slot).owner = some camera) :
    (final.service.slots slot).owner = some camera ∨ final.service.Cleaned slot camera := by
  refine run.invariant (fun _ final => (final.service.slots slot).owner = some camera ∨
    final.service.Cleaned slot camera) (.inl held) fun since middle label after before earlier next => ?_
  have grown := step_natives next
  rcases earlier with still | cleaned
  · have here := reached.append before
    refine (step_owner (run_attended here) next still).imp_right fun cleaned => ?_
    exact List.Sublist.trans cleaned grown
  · exact .inr (List.Sublist.trans cleaned grown)

theorem registers_current (next : world.Step move after)
    (registers : after.service.natives = world.service.natives ++ [(slot, .registerProducer camera)]) :
    (world.service.slots slot).current = some camera := by
  by_cases turns : ∃ slot answer, move = .lifecycle slot answer
  next =>
    obtain ⟨turning, answer, rfl⟩ := turns
    obtain ⟨service, turned, rfl⟩ := Option.map_eq_some_iff.mp next
    rcases turn_cases turned with ⟨running, busy, rfl⟩ | ⟨task, queue, idle, waiting, rfl⟩
    · have advanced : world.service.Advanced turning running _ := world.service.advance_advanced answer running
      obtain ⟨added, noted, quiet⟩ := advanced.natives
      have same : added = [(slot, .registerProducer camera)] := List.append_cancel_left (noted.symm.trans registers)
      exact absurd (same ▸ List.mem_singleton_self _) (quiet slot camera)
    · exact (starting_registers registers).2
  next =>
    have calm := step_calm next fun slot answer same => turns ⟨slot, answer, same⟩
    simp [calm.natives] at registers

theorem run_handled {past later : List ServiceMove} {key : Nat ⊕ Slot} (reached : Run Step {} past world)
    (run : Run Step world later final) (handled : world.books.Handled key camera) :
    final.books.Handled key camera := by
  refine run.invariant (fun _ final => final.books.Handled key camera) handled fun since middle label after before earlier
    next => ?_
  have sound := run_sound (reached.append before)
  rcases step_books sound next with same | step
  · rwa [same]
  · exact earlier.step sound step

theorem run_absent {past later : List ServiceMove} (reached : Run Step {} past world)
    (run : Run Step world later final)
    (barred : camera ∈ world.dead) (gone : camera ∉ world.service.cameras) : camera ∉ final.service.cameras := by
  refine And.right (a := camera ∈ final.books.barred) (run.invariant
    (fun _ final => camera ∈ final.books.barred ∧ camera ∉ final.books.registered) ⟨barred, gone⟩ ?_)
  intro since middle label after before earlier next
  rcases step_books (run_sound (reached.append before)) next with same | step
  · rwa [same]
  · exact step.absent earlier.1 earlier.2

theorem binderDied_handled {thread : Nat} (next : world.Step (.binderDied thread camera) after) :
    after.books.Handled (.inl thread) camera := by
  obtain ⟨_, begun⟩ := Option.ite_none_right_eq_some.mp next
  obtain ⟨_, rfl⟩ := idle_free begun
  rw [books_call]
  refine ⟨Finset.mem_insert_self _ _, fun _ => ⟨.finding camera, Function.update_self _ _ _, rfl⟩⟩

end ServiceWorld

open ServiceWorld Runs

structure ExclusiveSlots : Prop where
  -- A registered camera that has a slot is the one that the slot is let to.
  seated : ∀ past world camera slot, Run Step {} past world →
    (camera ∈ world.service.cameras ∧ world.service.slotByCameraId camera = some slot ↔
      (world.service.slots slot).current = some camera)
  single : ∀ past world camera other slot, Run Step {} past world →
    camera ∈ world.service.cameras → world.service.slotByCameraId camera = some slot →
    other ∈ world.service.cameras → world.service.slotByCameraId other = some slot → camera = other
  -- A producer is registered in the HAL for the camera of the slot, after all that was done for an earlier one.
  handover : ∀ past earlier slot previous later world move after camera, Run Step {} past earlier →
    (earlier.service.slots slot).owner = some previous → Run Step earlier later world → world.Step move after →
    after.service.natives = world.service.natives ++ [(slot, .registerProducer camera)] →
    (world.service.slots slot).current = some camera ∧ (camera = previous ∨ world.service.Cleaned slot previous)
  -- Once the call that tells of a producer's death is over, its camera is gone for good.
  departed : ∀ past world thread camera handled rest idle more final, Run Step {} past world →
    world.Step (.binderDied thread camera) handled → Run Step handled rest idle → idle.calls thread = none →
    Run Step idle more final → camera ∉ final.service.cameras
  served : ∀ past world slot running camera, Run Step {} past world → world.service.running slot = some running →
    running.camera = some camera → (world.service.slots slot).owner = some camera
  -- What it does is done to the camera of the slot, and to no other.
  apart : ∀ past world slot running answer after other, Run Step {} past world →
    world.service.running slot = some running → running.camera ≠ none → world.Step (.lifecycle slot answer) after →
    (world.service.slots slot).owner ≠ some other → world.service.Apart other after.service
  -- A task that finds the slot with another camera, or with none, does nothing.
  stale : ∀ past world slot task queue camera answer after, Run Step {} past world →
    world.service.lifecycle slot = { queue := task :: queue } → task.camera = some camera →
    (world.service.slots slot).owner ≠ some camera → world.Step (.lifecycle slot answer) after →
    after.service = { world.service with lifecycle := Function.update world.service.lifecycle slot { queue } }

theorem exclusive_slots : ExclusiveSlots where
  seated past world camera slot reached := by
    have sound := run_sound reached
    constructor
    next =>
      rintro ⟨member, seated⟩
      exact LifecycleSlot.current_iff.mpr (sound.seated camera slot member seated)
    next =>
      intro current
      obtain ⟨owner, opened⟩ := LifecycleSlot.current_iff.mp current
      exact sound.present camera slot owner opened
  single past world camera other slot reached member seated another there := by
    have sound := run_sound reached
    have first := (sound.seated camera slot member seated).1
    exact Option.some.inj (first.symm.trans (sound.seated other slot another there).1)
  handover past earlier slot previous later world move after camera reached held run next registers := by
    have current := registers_current next registers
    refine ⟨current, (run_owner reached run held).imp_left fun owner => ?_⟩
    exact Option.some.inj ((LifecycleSlot.current_iff.mp current).1.symm.trans owner)
  departed past world thread camera handled rest idle more final reached next run free later := by
    have begun := reached.snoc next
    have done := run_handled begun run (binderDied_handled next)
    have barred : camera ∈ idle.dead := done.1
    refine run_absent (begun.append run) later barred fun member => ?_
    obtain ⟨errand, here, _⟩ := done.2 member
    simp [books, VirtualCameraService.books, errands, free] at here
  served past world slot running camera reached := (run_attended reached).served slot running camera
  apart past world slot running answer after other reached busy own next stranger := by
    obtain ⟨camera, own⟩ := Option.ne_none_iff_exists'.mp own
    have owner := (run_attended reached).served slot running camera busy own
    have distinct : other ≠ camera := by
      rintro rfl
      exact stranger owner
    obtain ⟨service, turned, rfl⟩ := Option.map_eq_some_iff.mp next
    rcases VirtualCameraService.turn_cases turned with ⟨begun, current, rfl⟩ | ⟨task, queue, idle, waiting, rfl⟩
    · cases busy.symm.trans current
      have advanced : world.service.Apart other (world.service.advance slot answer running).1 :=
        VirtualCameraService.advance_apart answer own distinct
      exact ⟨advanced.object, advanced.told⟩
    · cases busy.symm.trans idle
  stale past world slot task queue camera answer after reached waiting own stranger next := by
    obtain ⟨service, turned, rfl⟩ := Option.map_eq_some_iff.mp next
    have idle : (world.service.lifecycle slot).running = none := by rw [waiting]
    have queued : (world.service.lifecycle slot).queue = task :: queue := by rw [waiting]
    have ordered (other : CameraId) (same : task = .remove other) : (world.service.slots slot).owner = some other :=
      remove_ordered (run_sound reached) (by simp [queued, same])
    have dropped : world.service.start slot task = none := by
      by_contra begins
      obtain ⟨running, begins⟩ := Option.ne_none_iff_exists'.mp begins
      obtain ⟨served, same, _⟩ := VirtualCameraService.start_served task ordered begins
      exact stranger (served camera (same.trans own))
    simp only [VirtualCameraService.turn, idle, queued, dropped, VirtualCameraService.starting] at turned
    exact (Option.some.inj turned).symm

end VirtualCamera
