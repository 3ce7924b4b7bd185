import VirtualCamera.Service.ExclusiveSlots

set_option autoImplicit false

namespace VirtualCamera

open Descriptors

def Running.configured : Running → Option OwnedEvent
  | .creating event | .surfaced event | .connecting event | .configuring event | .opening event | .handing event
  | .starting event => some event
  | _ => none

structure Inputs where
  heard : LifecycleEvent → Prop
  met : CameraId → Int → Binder → Prop

structure OwnedEvent.From (inputs : Inputs) (event : OwnedEvent) : Prop where
  own : event.hal.registration = event.owner
  configures : event.hal.closed = false
  heard : inputs.heard event.hal

structure Inputs.Within (inputs wider : Inputs) : Prop where
  heard : ∀ hal, inputs.heard hal → wider.heard hal
  met : ∀ camera uid callback, inputs.met camera uid callback → wider.met camera uid callback

theorem OwnedEvent.From.mono {inputs wider : Inputs} {event : OwnedEvent} (brought : event.From inputs)
    (within : inputs.Within wider) : event.From wider :=
  ⟨brought.own, brought.configures, within.heard _ brought.heard⟩

structure CameraState.Alike (old state : CameraState) : Prop where
  uid : state.uid = old.uid
  callback : state.callback = old.callback
  connection : state.connection = old.connection
  configuration : state.configuration = old.configuration

namespace VirtualCameraService

-- A task has written the connection of the camera and not yet its configuration.
def midway (service : VirtualCameraService) (camera : CameraId) : Bool :=
  (List.finRange kMaxVirtualCameras).any fun slot =>
    match service.running slot with
    | some (.configuring event) => event.owner == camera
    | _ => false

variable {service after middle : VirtualCameraService} {slot : Slot} {camera : CameraId} {event : OwnedEvent}

theorem midway_iff : service.midway camera = true ↔
    ∃ slot event, service.running slot = some (.configuring event) ∧ event.owner = camera := by
  simp only [midway, List.any_eq_true, List.mem_finRange, true_and]
  constructor
  next =>
    rintro ⟨slot, found⟩
    split at found
    next event busy => exact ⟨slot, event, busy, by simpa using found⟩
    next => cases found
  next =>
    rintro ⟨slot, event, busy, rfl⟩
    exact ⟨slot, by simp [busy]⟩

structure Mute (service after : VirtualCameraService) : Prop where
  tasks : ∀ slot event, .configure event ∈ (after.lifecycle slot).queue →
    .configure event ∈ (service.lifecycle slot).queue
  alike : ∀ camera state, after.objects camera = some state → ∃ old, service.objects camera = some old ∧
    old.Alike state
  told : ∀ camera connection configuration width height fps,
    (camera, .onStreamsConfigured connection configuration width height fps) ∈ after.told →
      (camera, .onStreamsConfigured connection configuration width height fps) ∈ service.told

theorem Mute.of_same (lifecycle : after.lifecycle = service.lifecycle) (objects : after.objects = service.objects)
    (told : after.told = service.told) : service.Mute after where
  tasks slot event member := by rwa [← lifecycle]
  alike camera state found := ⟨state, objects ▸ found, rfl, rfl, rfl, rfl⟩
  told camera connection configuration width height fps member := by rwa [← told]

theorem Mute.trans (first : service.Mute middle) (second : middle.Mute after) : service.Mute after where
  tasks slot event member := first.tasks slot event (second.tasks slot event member)
  alike camera state found := by
    obtain ⟨old, there, uid, callback, connection, configuration⟩ := second.alike camera state found
    obtain ⟨older, here, uid', callback', connection', configuration'⟩ := first.alike camera old there
    exact ⟨older, here, uid.trans uid', callback.trans callback', connection.trans connection',
      configuration.trans configuration'⟩
  told camera connection configuration width height fps member :=
    first.told camera connection configuration width height fps (second.told _ _ _ _ _ _ member)

theorem execute_mute (slot : Slot) {task : LifecycleTask} (other : ∀ event, task ≠ .configure event) :
    service.Mute (service.execute slot task) where
  tasks place event member := by
    by_cases same : place = slot
    next =>
      subst same
      simp only [execute, Function.update_self, List.mem_append, List.mem_singleton] at member
      exact member.resolve_right fun same => other event same.symm
    next => simpa only [execute, Function.update_of_ne same] using member
  alike camera state found := ⟨state, found, rfl, rfl, rfl, rfl⟩
  told _ _ _ _ _ _ member := member

theorem run_mute (slot : Slot) (running : Option Running) : service.Mute (service.run slot running) where
  tasks place event member := by
    by_cases same : place = slot
    next =>
      subst same
      simpa only [run, Function.update_self] using member
    next => simpa only [run, Function.update_of_ne same] using member
  alike camera state found := ⟨state, found, rfl, rfl, rfl, rfl⟩
  told _ _ _ _ _ _ member := member

theorem setObject_mute (camera : CameraId) {change : CameraState → CameraState}
    (kept : ∀ state, CameraState.Alike state (change state)) :
    service.Mute (service.setObject camera change) where
  tasks _ _ member := member
  alike other state found := by
    by_cases same : other = camera
    next =>
      subst same
      simp only [setObject, Function.update_self, Option.map_eq_some_iff] at found
      obtain ⟨old, there, rfl⟩ := found
      exact ⟨old, there, kept old⟩
    next => exact ⟨state, by simpa only [setObject, Function.update_of_ne same] using found, rfl, rfl, rfl, rfl⟩
  told _ _ _ _ _ _ member := member

theorem tell_mute (camera : CameraId) {call : ProducerCall}
    (other : ∀ connection configuration width height fps,
      call ≠ .onStreamsConfigured connection configuration width height fps) : service.Mute (service.tell camera call) where
  tasks _ _ member := member
  alike _ state found := ⟨state, found, rfl, rfl, rfl, rfl⟩
  told camera connection configuration width height fps member := by
    rcases List.mem_append.mp member with before | added
    · exact before
    · cases List.mem_singleton.mp added
      exact absurd rfl (other connection configuration width height fps)

theorem onOpened_mute (camera : CameraId) : service.Mute (service.onOpened camera) := by
  refine (setObject_mute camera fun _ => ?_).trans (tell_mute camera fun _ _ _ _ _ same => ?_)
  next => exact ⟨rfl, rfl, rfl, rfl⟩
  next => cases same

theorem onCaptureStarted_mute (camera : CameraId) (frameRate : Int) :
    service.Mute (service.onCaptureStarted camera frameRate) := by
  refine (setObject_mute camera fun _ => ?_).trans (tell_mute camera fun _ _ _ _ _ same => ?_)
  next => exact ⟨rfl, rfl, rfl, rfl⟩
  next => cases same

theorem onCaptureStopped_mute (camera : CameraId) : service.Mute (service.onCaptureStopped camera) := by
  refine (setObject_mute camera fun _ => ?_).trans (tell_mute camera fun _ _ _ _ _ same => ?_)
  next => exact ⟨rfl, rfl, rfl, rfl⟩
  next => cases same

theorem onClosed_mute (camera : CameraId) : service.Mute (service.onClosed camera) := by
  refine (setObject_mute camera fun _ => ?_).trans (tell_mute camera fun _ _ _ _ _ same => ?_)
  next => exact ⟨rfl, rfl, rfl, rfl⟩
  next => cases same

theorem close_mute (camera : CameraId) : service.Mute (service.close camera) := by
  unfold close
  split
  next => exact onClosed_mute camera
  next => exact .of_same rfl rfl rfl

theorem forget_mute (listener : HalListener) : service.Mute (service.forget listener) := by
  unfold forget
  split <;> exact .of_same rfl rfl rfl

theorem place_mute {max : Int} {result : Option Slot × VirtualCameraService}
    (placing : service.Placing camera max result) : service.Mute result.2 := by
  cases placing <;> exact .of_same rfl rfl rfl

theorem beginRemoval_mute (camera : CameraId) (slot : Slot) : service.Mute (service.beginRemoval camera slot).2 := by
  unfold beginRemoval
  dsimp only
  split <;> exact .of_same rfl rfl rfl

theorem record_mute (hal : LifecycleEvent) : service.Mute (service.record hal).2 := by
  unfold record
  split
  next => exact .of_same rfl rfl rfl
  next =>
    split <;> exact .of_same rfl rfl rfl

theorem Removing.mute (step : service.Removing after) : service.Mute after := by
  cases step with
  | begun camera slot => exact beginRemoval_mute camera slot
  | queued camera slot => exact execute_mute slot (by simp)
  | closed camera => exact close_mute camera
  | noted => exact .of_same rfl rfl rfl

theorem remove_mute (answer : Bool) (removal : Removal) : service.Mute (service.remove answer removal).1 :=
  (service.remove_removing answer removal).mute

-- The tasks that write the tokens and hand them over are three steps of one.
theorem advance_mute (slot : Slot) (answer : Bool) {running : Running}
    (other : ∀ event, running ≠ .connecting event ∧ running ≠ .configuring event ∧ running ≠ .handing event) :
    service.Mute (service.advance slot answer running).1 := by
  cases running with
  | removing removal => exact remove_mute answer removal
  | askingHal camera => cases answer <;> exact .of_same rfl rfl rfl
  | connecting event => exact absurd rfl (other event).1
  | configuring event => exact absurd rfl (other event).2.1
  | handing event => exact absurd rfl (other event).2.2
  | opening event => exact onOpened_mute event.owner
  | starting event => exact onCaptureStarted_mute event.owner event.hal.fps
  | stopping event => exact onCaptureStopped_mute event.owner
  | closing event => exact onClosed_mute event.owner
  | closingCamera camera => exact close_mute camera
  | _ => exact .of_same rfl rfl rfl

theorem advance_configured (answer : Bool) {running next : Running}
    (goes : (service.advance slot answer running).2 = some next) (configures : next.configured = some event) :
    running.configured = some event := by
  cases running with
  | removing removal =>
    obtain ⟨rest, _, rfl⟩ := Option.map_eq_some_iff.mp goes
    cases configures
  | registering camera | askingHal camera | creating made | checking made =>
    cases answer <;> cases goes
    exact configures
  | surfaced made =>
    obtain ⟨_, same⟩ := Option.ite_none_right_eq_some.mp goes
    cases same
    exact configures
  | recovering | starting | closed | releasing | finishing => cases goes
  | _ =>
    cases goes
    exact configures

theorem advance_configuring (answer : Bool) {running : Running} {written : OwnedEvent}
    (goes : (service.advance slot answer running).2 = some (.configuring written)) :
    running = .connecting written := by
  cases running with
  | removing removal => cases removal <;> simp [advance] at goes
  | registering camera | askingHal camera | creating made | checking made =>
    cases answer <;> cases goes
  | surfaced made =>
    obtain ⟨_, same⟩ := Option.ite_none_right_eq_some.mp goes
    cases same
  | connecting made =>
    cases goes
    rfl
  | _ => cases goes

structure Heard (inputs : Inputs) (service : VirtualCameraService) : Prop where
  tasks : ∀ slot event, .configure event ∈ (service.lifecycle slot).queue → event.From inputs
  running : ∀ slot running event, service.running slot = some running → running.configured = some event →
    event.From inputs
  written : ∀ slot event state, service.running slot = some (.configuring event) →
    service.objects event.owner = some state → state.connection = 0 ∨ state.connection = event.hal.connection
  paired : ∀ camera state, service.objects camera = some state → service.midway camera = false →
    state.connection = 0 ∨ ∃ event : OwnedEvent, event.From inputs ∧ event.owner = camera ∧
      state.connection = event.hal.connection ∧ state.configuration = event.hal.configuration
  met : ∀ camera state, service.objects camera = some state → inputs.met camera state.uid state.callback
  told : ∀ camera connection configuration width height fps,
    (camera, .onStreamsConfigured connection configuration width height fps) ∈ service.told →
      ∃ slot, inputs.heard
        { slot, connection, configuration, registration := camera, closed := false, width, height, fps }

variable {inputs : Inputs}

theorem Heard.mono {wider : Inputs} (known : service.Heard inputs) (within : inputs.Within wider) :
    service.Heard wider where
  tasks slot event member := (known.tasks slot event member).mono within
  running slot running event busy configures := (known.running slot running event busy configures).mono within
  written := known.written
  paired camera state found whole :=
    (known.paired camera state found whole).imp_right fun ⟨event, brought, rest⟩ => ⟨event, brought.mono within, rest⟩
  met camera state found := within.met _ _ _ (known.met camera state found)
  told camera connection configuration width height fps member :=
    (known.told camera connection configuration width height fps member).imp fun _ => within.heard _

theorem Heard.moved (known : service.Heard inputs) (mute : service.Mute after)
    (goes : ∀ slot running, after.running slot = some running → service.running slot = some running ∨
      ((∀ event, running.configured = some event → event.From inputs) ∧ ∀ event, running ≠ .configuring event))
    (stays : ∀ slot event, service.running slot = some (.configuring event) →
      after.running slot = some (.configuring event)) : after.Heard inputs where
  tasks slot event member := known.tasks slot event (mute.tasks slot event member)
  running slot running event busy configures := by
    rcases goes slot running busy with same | ⟨brought, _⟩
    · exact known.running slot running event same configures
    · exact brought event configures
  written slot event state busy found := by
    rcases goes slot _ busy with same | ⟨_, other⟩
    · obtain ⟨old, there, alike⟩ := mute.alike event.owner state found
      rw [alike.connection]
      exact known.written slot event old same there
    · exact absurd rfl (other event)
  paired camera state found whole := by
    obtain ⟨old, there, alike⟩ := mute.alike camera state found
    rw [alike.connection, alike.configuration]
    refine known.paired camera old there (Bool.eq_false_iff.mpr fun between => ?_)
    obtain ⟨slot, event, busy, own⟩ := midway_iff.mp between
    exact Bool.eq_false_iff.mp whole (midway_iff.mpr ⟨slot, event, stays slot event busy, own⟩)
  met camera state found := by
    obtain ⟨old, there, alike⟩ := mute.alike camera state found
    rw [alike.uid, alike.callback]
    exact known.met camera old there
  told camera connection configuration width height fps member :=
    known.told camera connection configuration width height fps (mute.told _ _ _ _ _ _ member)

theorem Heard.quiet (known : service.Heard inputs) (mute : service.Mute after)
    (running : after.running = service.running) : after.Heard inputs := by
  refine known.moved mute (fun slot next busy => .inl ?_) fun slot event busy => ?_
  next => rwa [← running]
  next => rwa [running]

theorem Heard.execute (known : service.Heard inputs) (slot : Slot) (brought : event.From inputs) :
    (service.execute slot (.configure event)).Heard inputs where
  tasks place other member := by
    by_cases same : place = slot
    next =>
      subst same
      simp only [VirtualCameraService.execute, Function.update_self, List.mem_append, List.mem_singleton] at member
      rcases member with before | added
      · exact known.tasks place other before
      · cases added
        exact brought
    next =>
      simp only [VirtualCameraService.execute, Function.update_of_ne same] at member
      exact known.tasks place other member
  running place := by
    rw [execute_running]
    exact known.running place
  written place := by
    rw [execute_running]
    exact known.written place
  paired camera state found whole := by
    refine known.paired camera state found (Bool.eq_false_iff.mpr fun between => Bool.eq_false_iff.mp whole ?_)
    rw [midway_iff] at between ⊢
    rwa [execute_running]
  met := known.met
  told := known.told

def Alone (service : VirtualCameraService) (slot : Slot) (camera : CameraId) : Prop :=
  ∀ other running, service.running other = some running → running.camera = some camera → other = slot

theorem run_queue (slot other : Slot) (running : Option Running) :
    ((service.run slot running).lifecycle other).queue = (service.lifecycle other).queue := by
  by_cases same : other = slot <;> simp [run, Function.update, same]

theorem Heard.writes {current next : Running} {change : CameraState → CameraState} (known : service.Heard inputs)
    (busy : service.running slot = some current) (configured : current.configured = some event)
    (goes : next.configured = some event) (alone : service.Alone slot event.owner)
    (person : ∀ state, (change state).uid = state.uid ∧ (change state).callback = state.callback)
    (wrote : ∀ state, service.objects event.owner = some state →
      if next = .configuring event then (change state).connection = event.hal.connection
      else (change state).connection = 0 ∨ ((change state).connection = event.hal.connection ∧
        (change state).configuration = event.hal.configuration)) :
    ((service.setObject event.owner change).run slot (some next)).Heard inputs := by
  have here : ((service.setObject event.owner change).run slot (some next)).running slot = some next := by
    rw [run_running, Function.update_self]
  have elsewhere {other : Slot} (apart : other ≠ slot) :
      ((service.setObject event.owner change).run slot (some next)).running other = service.running other := by
    rw [run_running, Function.update_of_ne apart]
    rfl
  have unmoved {camera : CameraId} (apart : camera ≠ event.owner) :
      ((service.setObject event.owner change).run slot (some next)).objects camera = service.objects camera :=
    Function.update_of_ne apart _ _
  have written : ((service.setObject event.owner change).run slot (some next)).objects event.owner =
      (service.objects event.owner).map change := Function.update_self _ _ _
  have brought := known.running slot current event busy configured
  constructor
  case tasks =>
    intro other made member
    rw [run_queue] at member
    exact known.tasks other made member
  case running =>
    intro other running made goes' configures
    by_cases same : other = slot
    next =>
      subst same
      cases here.symm.trans goes'
      cases goes.symm.trans configures
      exact brought
    next => exact known.running other running made ((elsewhere same).symm.trans goes') configures
  case written =>
    intro other made state goes' found
    by_cases same : other = slot
    next =>
      subst same
      cases here.symm.trans goes'
      cases goes
      obtain ⟨old, there, rfl⟩ := Option.map_eq_some_iff.mp (written.symm.trans found)
      have connected := wrote old there
      rw [if_pos rfl] at connected
      exact .inr connected
    next =>
      have before := (elsewhere same).symm.trans goes'
      have apart : made.owner ≠ event.owner := fun own => same (alone other _ before (congrArg some own))
      exact known.written other made state before ((unmoved apart).symm.trans found)
  case paired =>
    intro camera state found whole
    by_cases own : camera = event.owner
    next =>
      subst own
      obtain ⟨old, there, rfl⟩ := Option.map_eq_some_iff.mp (written.symm.trans found)
      have configures := wrote old there
      by_cases between : next = .configuring event
      next => exact absurd (midway_iff.mpr ⟨slot, event, between ▸ here, rfl⟩) (Bool.eq_false_iff.mp whole)
      next =>
        rw [if_neg between] at configures
        exact configures.imp_right fun same => ⟨event, brought, rfl, same⟩
    next =>
      refine known.paired camera state ((unmoved own).symm.trans found) (Bool.eq_false_iff.mpr fun between => ?_)
      obtain ⟨other, made, before, rfl⟩ := midway_iff.mp between
      refine Bool.eq_false_iff.mp whole (midway_iff.mpr ⟨other, made, ?_, rfl⟩)
      rw [elsewhere, before]
      rintro rfl
      cases busy.symm.trans before
      cases configured
      exact own rfl
  case met =>
    intro camera state found
    by_cases own : camera = event.owner
    next =>
      subst own
      obtain ⟨old, there, rfl⟩ := Option.map_eq_some_iff.mp (written.symm.trans found)
      rw [(person old).1, (person old).2]
      exact known.met event.owner old there
    next => exact known.met camera state ((unmoved own).symm.trans found)
  case told => exact known.told

theorem Heard.tells (known : service.Heard inputs) (brought : event.From inputs) :
    (service.tell event.owner (.onStreamsConfigured event.hal.connection event.hal.configuration event.hal.width
      event.hal.height event.hal.fps)).Heard inputs where
  tasks := known.tasks
  running := known.running
  written := known.written
  paired := known.paired
  met := known.met
  told camera connection configuration width height fps member := by
    rcases List.mem_append.mp member with before | added
    · exact known.told camera connection configuration width height fps before
    · cases List.mem_singleton.mp added
      obtain ⟨own, configures, heard⟩ := brought
      refine ⟨event.hal.slot, ?_⟩
      rwa [← own, ← configures]

theorem Heard.advance (known : service.Heard inputs) (answer : Bool) {running : Running}
    (busy : service.running slot = some running)
    (alone : ∀ camera, running.camera = some camera → service.Alone slot camera) :
    ((service.advance slot answer running).1.run slot (service.advance slot answer running).2).Heard inputs := by
  -- Every task but the two that write goes on with the configuration that it had.
  have goes (quiet : ∀ event, running ≠ .connecting event ∧ running ≠ .configuring event)
      {told : VirtualCameraService} (known : told.Heard inputs) (same : told.running = service.running)
      (mute : told.Mute (service.advance slot answer running).1) :
      ((service.advance slot answer running).1.run slot (service.advance slot answer running).2).Heard inputs := by
    have unmoved := (service.advance_running slot answer running).trans same.symm
    refine known.moved (mute.trans (run_mute slot _)) (fun other next there => ?_) fun other event there => ?_
    · rw [run_running, unmoved] at there
      by_cases here : other = slot
      next =>
        subst here
        rw [Function.update_self] at there
        refine .inr ⟨fun event configures => ?_, fun event writes => ?_⟩
        · refine known.running other running event (by rwa [same]) (advance_configured answer there configures)
        · exact (quiet event).1 (advance_configuring answer (writes ▸ there))
      next =>
        rw [Function.update_of_ne here] at there
        exact .inl there
    · rw [run_running, unmoved, Function.update_of_ne, there]
      rintro rfl
      rw [same, busy] at there
      exact (quiet event).2 (Option.some.inj there)
  cases running with
  | connecting event =>
    refine known.writes busy rfl rfl (alone event.owner rfl) (fun _ => ⟨rfl, rfl⟩) fun _ _ => ?_
    rw [if_pos rfl]
  | configuring event =>
    refine known.writes busy rfl rfl (alone event.owner rfl) (fun _ => ⟨rfl, rfl⟩) fun state there => ?_
    rw [if_neg (by simp)]
    exact (known.written slot event state busy there).imp_right fun same => ⟨same, rfl⟩
  | handing event =>
    refine goes (fun _ => ⟨by simp, by simp⟩) (known.tells (known.running slot _ event busy rfl)) rfl ?_
    exact .of_same rfl rfl rfl
  | _ =>
    refine goes (fun _ => ⟨by simp, by simp⟩) known rfl (advance_mute slot answer fun _ => ?_)
    exact ⟨by simp, by simp, by simp⟩

theorem start_configured {task : LifecycleTask} {running : Running}
    (begins : service.start slot task = some running) :
    (∀ event, running.configured = some event → task = .configure event) ∧ ∀ event, running ≠ .configuring event := by
  cases task with
  | register camera | recover camera round | close made =>
    obtain ⟨_, same⟩ := Option.ite_none_right_eq_some.mp begins
    cases same
    exact ⟨by simp [Running.configured], by simp⟩
  | configure made =>
    obtain ⟨_, same⟩ := Option.ite_none_right_eq_some.mp begins
    cases same
    exact ⟨by simp [Running.configured], by simp⟩
  | release connection | remove camera =>
    cases begins
    exact ⟨by simp [Running.configured], by simp⟩

theorem take_mute {task : LifecycleTask} {queue : List LifecycleTask} (running : Option Running)
    (waiting : (service.lifecycle slot).queue = task :: queue) :
    service.Mute
      { service.starting slot running with
        lifecycle := Function.update (service.starting slot running).lifecycle slot { queue, running } } where
  tasks other event member := by
    rw [starting_lifecycle] at member
    by_cases same : other = slot
    next =>
      subst same
      simp only [Function.update_self] at member
      rw [waiting]
      exact List.mem_cons_of_mem _ member
    next => simpa only [Function.update_of_ne same] using member
  alike camera state found := by
    refine ⟨state, ?_, rfl, rfl, rfl, rfl⟩
    unfold starting at found
    split at found <;> exact found
  told camera connection configuration width height fps member := by
    unfold starting at member
    split at member <;> exact member

theorem Heard.turn (known : service.Heard inputs) {answer : Bool}
    (alone : ∀ running camera, service.running slot = some running → running.camera = some camera →
      service.Alone slot camera)
    (next : service.turn slot answer = some after) : after.Heard inputs := by
  rcases turn_cases next with ⟨running, busy, rfl⟩ | ⟨task, queue, idle, waiting, rfl⟩
  · exact known.advance answer busy fun camera own => alone running camera busy own
  · refine known.moved (take_mute _ waiting) (fun other running there => ?_) fun other event there => ?_
    · rw [take_running] at there
      by_cases here : other = slot
      next =>
        subst here
        rw [Function.update_self] at there
        obtain ⟨configured, apart⟩ := start_configured there
        refine .inr ⟨fun event configures => known.tasks other event ?_, apart⟩
        rw [waiting, configured event configures]
        exact List.mem_cons_self
      next =>
        rw [Function.update_of_ne here] at there
        exact .inl there
    · rw [take_running, Function.update_of_ne, there]
      rintro rfl
      cases idle.symm.trans there

theorem record_owned {hal : LifecycleEvent} (records : (service.record hal).1 = some event) :
    event.hal = hal ∧ hal.registration = event.owner := by
  unfold record at records
  split at records
  next => cases records
  next owner here =>
    split at records
    next => cases records
    next own =>
      dsimp only at records
      split at records <;> cases records
      exact ⟨rfl, (not_not.mp own).symm⟩

end VirtualCameraService

def ServiceCall.Heard (inputs : Inputs) : ServiceCall → Prop
  | .admitting hal => inputs.heard hal
  | .scheduling event => event.hal.registration = event.owner ∧ inputs.heard event.hal
  | _ => True

namespace ServiceWorld

open VirtualCameraService Runs

structure Heard (inputs : Inputs) (world : ServiceWorld) : Prop where
  service : world.service.Heard inputs
  calls : ∀ thread call, world.calls thread = some call → call.Heard inputs

variable {inputs : Inputs} {world after : ServiceWorld} {move : ServiceMove}

theorem Heard.mono {wider : Inputs} (known : world.Heard inputs) (within : inputs.Within wider) :
    world.Heard wider where
  service := known.service.mono within
  calls thread call there := by
    have before := known.calls thread call there
    cases call with
    | admitting hal => exact within.heard hal before
    | scheduling event => exact ⟨before.1, within.heard _ before.2⟩
    | _ => trivial

theorem Heard.call (known : world.Heard inputs) (thread : Nat) {next : Option ServiceCall}
    (heard' : ∀ call, next = some call → call.Heard inputs) : (world.call thread next).Heard inputs where
  service := known.service
  calls other call there := by
    by_cases same : other = thread
    next =>
      subst same
      have here : (world.call other next).calls other = next := Function.update_self _ _ _
      exact heard' call (here.symm.trans there)
    next => exact known.calls other call ((call_calls same next).symm.trans there)

theorem Heard.withService (known : world.Heard inputs) {service : VirtualCameraService}
    (heard' : service.Heard inputs) :
    ({ world with service } : ServiceWorld).Heard inputs := ⟨heard', known.calls⟩

theorem Heard.quiet (known : world.Heard inputs) {service : VirtualCameraService} (mute : world.service.Mute service)
    (running : service.running = world.service.running) : ({ world with service } : ServiceWorld).Heard inputs :=
  known.withService (known.service.quiet mute running)

theorem Heard.proceed (known : world.Heard inputs) {thread : Nat} (answer : Bool) {call : ServiceCall}
    (here : world.calls thread = some call) : (world.proceed thread answer call).Heard inputs := by
  have told := known.calls thread call here
  cases call with
  | placing camera max =>
    have placing := world.service.place_placing camera max
    simp only [ServiceWorld.proceed, placed]
    split
    next => exact known.call thread (by simp)
    next =>
      have mute := place_mute placing
      have running := placing.running
      generalize world.service.place camera max = result at mute running
      obtain ⟨_ | slot, service⟩ := result
      all_goals
        exact (known.quiet mute running).call thread (by simp [ServiceCall.Heard])
  | queueing camera slot becameAvailable =>
    have mute : world.service.Mute (world.service.execute slot (.register camera)) :=
      execute_mute slot fun _ same => by cases same
    refine (known.quiet mute (world.service.execute_running slot _)).call thread fun call same => ?_
    cases becameAvailable <;> cases same
    trivial
  | removal removal =>
    refine (known.quiet (remove_mute answer removal) (world.service.remove_running answer removal)).call thread ?_
    intro call same
    obtain ⟨rest, _, rfl⟩ := Option.map_eq_some_iff.mp same
    trivial
  | admitting hal =>
    cases answer with
    | false => exact known.call thread (by simp)
    | true =>
      refine (known.quiet (record_mute hal) (world.service.record_running hal)).call thread fun call same => ?_
      obtain ⟨event, records, rfl⟩ := Option.map_eq_some_iff.mp same
      obtain ⟨rfl, own⟩ := record_owned records
      exact ⟨own, told⟩
  | scheduling event =>
    refine Heard.call (known.withService ?_) thread (by simp)
    split
    next =>
      have mute : world.service.Mute (world.service.execute event.hal.slot (.close event)) :=
        execute_mute event.hal.slot fun _ same => by cases same
      exact known.service.quiet mute (world.service.execute_running _ _)
    next opens => exact known.service.execute event.hal.slot ⟨told.1, Bool.eq_false_iff.mpr opens, told.2⟩
  | dying connection slots =>
    cases slots with
    | nil =>
      have mute : world.service.Mute world.service.recoverHal := .of_same rfl rfl rfl
      exact (known.quiet mute rfl).call thread (by simp)
    | cons slot slots =>
      have mute : world.service.Mute (world.service.execute slot (.release connection)) :=
        execute_mute slot fun _ same => by cases same
      exact (known.quiet mute (world.service.execute_running slot _)).call thread (by simp [ServiceCall.Heard])

theorem run_alone {past : List ServiceMove} (run : Run Step {} past world) {slot : Slot} {running : Running}
    {camera : CameraId} (busy : world.service.running slot = some running) (own : running.camera = some camera) :
    world.service.Alone slot camera := by
  intro other further there same
  have attended := run_attended run
  exact (run_homes run).single other slot camera (attended.served other further camera there same)
    (attended.served slot running camera busy own)

theorem Heard.meet (known : world.Heard inputs) {state : CameraState} (fresh : state.connection = 0)
    (met : inputs.met world.service.nextCameraId state.uid state.callback) :
    VirtualCameraService.Heard inputs { world.service with
      nextCameraId := world.service.nextCameraId + 1
      objects := Function.update world.service.objects world.service.nextCameraId (some state) } := by
  obtain ⟨tasks, running, written, paired, met', told⟩ := known.service
  have objects {camera : CameraId} {found : CameraState}
      (there : Function.update world.service.objects world.service.nextCameraId (some state) camera = some found) :
      camera = world.service.nextCameraId ∧ found = state ∨ world.service.objects camera = some found := by
    by_cases same : camera = world.service.nextCameraId
    next =>
      subst same
      rw [Function.update_self] at there
      exact .inl ⟨rfl, (Option.some.inj there).symm⟩
    next => exact .inr ((Function.update_of_ne same _ _).symm.trans there)
  refine ⟨tasks, running, fun slot event found busy there => ?_, fun camera found there whole => ?_,
    fun camera found there => ?_, told⟩
  · rcases objects there with ⟨_, rfl⟩ | before
    · exact .inl fresh
    · exact written slot event found busy before
  · rcases objects there with ⟨_, rfl⟩ | before
    · exact .inl fresh
    · exact paired camera found before whole
  · rcases objects there with ⟨rfl, rfl⟩ | before
    · exact met
    · exact met' camera found before

theorem step_heard {past : List ServiceMove} (reached : Run Step {} past world) (known : world.Heard inputs)
    (brought : ∀ thread hal, move = .halEvent thread hal → inputs.heard hal)
    (met : ∀ thread callback uid descriptor maxCameras,
      move = .registerCamera thread callback uid descriptor maxCameras →
        inputs.met world.service.nextCameraId uid callback) (next : world.Step move after) :
    after.Heard inputs := by
  have unmoved {service : VirtualCameraService} (lifecycle : service.lifecycle = world.service.lifecycle)
      (objects : service.objects = world.service.objects) (told : service.told = world.service.told) :
      ({ world with service } : ServiceWorld).Heard inputs :=
    known.quiet (.of_same lifecycle objects told) (by funext slot; simp only [running, lifecycle])
  cases move with
  | registerCamera thread callback uid descriptor maxCameras =>
    obtain rfl := idle_eq next
    have registered : inputs.met world.service.nextCameraId uid callback := met _ _ _ _ _ rfl
    unfold registerCamera
    dsimp only
    split
    next => exact ⟨known.meet rfl registered, known.calls⟩
    next =>
      apply Heard.call
      case known => exact ⟨known.meet rfl registered, known.calls⟩
      case heard' => simp [ServiceCall.Heard]
  | unregisterCamera thread uid camera =>
    obtain rfl := idle_eq next
    unfold unregisterCamera
    split
    next => exact known
    next =>
      exact known.call thread (by simp [ServiceCall.Heard])
  | setHalListener thread listener =>
    obtain rfl := idle_eq next
    cases listener with
    | none => exact unmoved rfl rfl rfl
    | some listener =>
      apply Heard.call
      case known => exact unmoved rfl rfl rfl
      case heard' => simp [ServiceCall.Heard]
  | halEvent thread hal =>
    obtain rfl := idle_eq next
    refine known.call thread fun call same => ?_
    cases same
    exact brought thread hal rfl
  | onHalDied thread connection =>
    obtain rfl := idle_eq next
    exact known.call thread (by simp [ServiceCall.Heard])
  | die binder =>
    cases next
    exact ⟨known.service, known.calls⟩
  | binderDied thread camera =>
    obtain ⟨_, begun⟩ := Option.ite_none_right_eq_some.mp next
    obtain rfl := idle_eq begun
    apply Heard.call
    case known => exact ⟨known.service, known.calls⟩
    case heard' => simp [ServiceCall.Heard]
  | listenerDied listener =>
    cases next
    refine known.quiet (forget_mute listener) ?_
    unfold VirtualCameraService.forget
    split <;> rfl
  | proceed thread answer =>
    obtain ⟨call, here, rfl⟩ := Option.map_eq_some_iff.mp next
    exact known.proceed answer here
  | lifecycle slot answer =>
    obtain ⟨service, turned, rfl⟩ := Option.map_eq_some_iff.mp next
    exact known.withService (known.service.turn (fun _ _ busy own => run_alone reached busy own) turned)
  | recover place halUp =>
    simp only [Step, perform, recover] at next
    split at next
    next => cases next
    next =>
      obtain ⟨⟨round, attempt⟩, _, rfl⟩ := Option.map_eq_some_iff.mp next
      dsimp only
      split
      next => exact unmoved rfl rfl rfl
      next =>
        split
        next =>
          have mute : world.service.Mute { world.service with recovery := world.service.recovery.eraseIdx place } :=
            .of_same rfl rfl rfl
          exact ⟨known.service.quiet mute rfl, known.calls⟩
        next => exact unmoved rfl rfl rfl
  | walk =>
    obtain ⟨⟨round, slots⟩, _, rfl⟩ := Option.map_eq_some_iff.mp next
    cases slots with
    | nil => exact ⟨known.service, known.calls⟩
    | cons slot rest =>
      dsimp only
      split
      next owner _ =>
        have mute : world.service.Mute (world.service.execute slot (.recover owner round)) :=
          execute_mute slot fun _ same => by cases same
        exact ⟨known.service.quiet mute (world.service.execute_running slot _), known.calls⟩
      next => exact ⟨known.service, known.calls⟩

theorem boot_heard : ({} : ServiceWorld).Heard inputs where
  service := by constructor <;> simp [running]
  calls := by simp

end ServiceWorld

end VirtualCamera
