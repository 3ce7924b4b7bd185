import VirtualCamera.Platform.PlatformWorld
import VirtualCamera.Relay.RelayInvariants

set_option autoImplicit false

namespace VirtualCamera

open Descriptors Runs

namespace RelayWorld

structure Linked (connections : Epoch → Option HalHandle) (world : RelayWorld) : Prop where
  current : ∀ hal, world.relay.hal = some hal → connections world.relay.connectionEpoch = some hal
  linking : ∀ epoch hal, world.connecting = some (.linking epoch hal) → connections epoch = some hal
  numbered : ∀ epoch hal, connections epoch = some hal → epoch ≤ world.relay.nextConnectionEpoch

variable {connections : Epoch → Option HalHandle} {world after : RelayWorld} {label : RelayLabel}

theorem Linked.kept (linked : Linked connections world)
    (hal : ∀ hal, after.relay.hal = some hal →
      world.relay.hal = some hal ∧ after.relay.connectionEpoch = world.relay.connectionEpoch)
    (next : after.relay.nextConnectionEpoch = world.relay.nextConnectionEpoch)
    (connecting : ∀ epoch hal, after.connecting = some (.linking epoch hal) →
      world.connecting = some (.linking epoch hal)) : Linked connections after where
  current handle alive := by
    obtain ⟨before, epoch⟩ := hal handle alive
    exact epoch ▸ linked.current handle before
  linking epoch handle busy := linked.linking epoch handle (connecting epoch handle busy)
  numbered epoch handle made := next ▸ linked.numbered epoch handle made

theorem Linked.same (linked : Linked connections world) (hal : after.relay.hal = world.relay.hal)
    (epoch : after.relay.connectionEpoch = world.relay.connectionEpoch)
    (next : after.relay.nextConnectionEpoch = world.relay.nextConnectionEpoch)
    (connecting : after.connecting = world.connecting) : Linked connections after :=
  linked.kept (fun _ alive => ⟨hal ▸ alive, epoch⟩) next fun _ _ busy => connecting ▸ busy

theorem Linked.connect (linked : Linked connections world) (hal : HalHandle) (version : Int) :
    Linked (Function.update connections (world.relay.connect hal version).1 (some hal))
      { world with
        relay := (world.relay.connect hal version).2
        connecting := some (.linking (world.relay.connect hal version).1 hal) } where
  current handle alive := by
    cases alive
    exact Function.update_self _ _ _
  linking epoch handle busy := by
    cases busy
    exact Function.update_self _ _ _
  numbered epoch handle made := by
    by_cases same : epoch = world.relay.nextConnectionEpoch + 1
    next => exact same.le
    next =>
      have before := (Function.update_of_ne same _ _).symm.trans made
      exact (linked.numbered epoch handle before).trans (Nat.le_succ _)

theorem linked_step (linked : Linked connections world) (next : Step world label after) :
    Linked (label.connects after.relay.connectionEpoch connections) after ∧
      ∀ epoch hal, connections epoch = some hal →
        label.connects after.relay.connectionEpoch connections epoch = some hal := by
  have move := step_moves world label after next
  cases label with
  | connect hal version =>
    simp only [Step, perform] at next
    split at next <;> cases next
    refine ⟨linked.connect hal version, fun epoch handle made => ?_⟩
    have earlier := linked.numbered epoch handle made
    have fresh : epoch ≠ world.relay.nextConnectionEpoch + 1 := by
      simp only [Epoch] at *
      omega
    exact (Function.update_of_ne fresh _ _).trans made
  | _ =>
    refine ⟨?_, fun _ _ => id⟩
    cases move with
    | noted _ _ _ _ _ linking => exact linked.kept (fun _ alive => ⟨alive, rfl⟩) rfl linking
    | lost _ linking => exact linked.kept (fun _ alive => by cases alive) rfl linking
    | connected _ _ _ named => cases named
    | _ => exact linked.same rfl rfl rfl rfl

end RelayWorld

theorem Relay.admission_registered {relay : Relay} (version : relay.hal.isSome = true → 6 ≤ relay.halVersion)
    (event : LifecycleEvent) (admitted : (relay.admission event).1 = true) : 0 < event.registration := by
  unfold admission admitEvent at admitted
  split at admitted
  next => cases admitted
  next slot valid =>
    split at admitted
    next => cases admitted
    next connected =>
      split at admitted
      next => cases admitted
      next registered =>
        have alive : relay.hal.isSome = true := Option.isSome_iff_ne_none.mpr fun gone => connected (.inr (.inl gone))
        by_contra none
        exact registered ⟨version alive, .inl (not_lt.mp none)⟩

namespace PlatformWorld

def inputs (world : PlatformWorld) : Inputs where
  heard hal := hal.closed = false → ∃ handle,
    ⟨handle, hal.connection, .streamsConfiguredForProducer hal.slot hal.registration hal.configuration hal.width
      hal.height hal.fps⟩ ∈ world.announced
  met camera uid callback := (camera, uid, callback) ∈ world.registered

def Announced (world : PlatformWorld) (handle : HalHandle) (connection : Epoch) (slot : Slot)
    (registration token : Int) :
    Prop :=
  ∃ width height fps,
    ⟨handle, connection, .streamsConfiguredForProducer slot registration token width height fps⟩ ∈ world.announced

structure Vouches (world : PlatformWorld) (call : Readiness) (camera : CameraId) (whole : Bool) : Prop where
  registered : (camera, call.uid, call.callback) ∈ world.registered
  announced : whole = true → ∃ handle slot, world.Announced handle call.connection slot camera call.token

def Backs (world : PlatformWorld) (call : Readiness) : Readying → Prop
  | .scanning _ => True
  | .comparing camera => call.connection ≠ 0 ∧ (camera, call.uid, call.callback) ∈ world.registered
  | .seating camera whole => world.Vouches call camera whole
  | .matched found | .asking found _ => world.Vouches call found.camera found.whole
  | .sending found connection hal => world.Vouches call found.camera found.whole ∧
      world.connections connection = some hal

structure Sound (world : PlatformWorld) : Prop where
  relay : world.relay.Sound
  linked : world.relay.Linked world.connections
  counted : ∀ handle, (world.hals handle).hal.Counted
  callbacks : ∀ handle binder, (world.hals handle).hal.callback = some binder → world.connections binder = some handle
  connected : ∀ announcement ∈ world.announced, world.connections announcement.connection = some announcement.hal
  attributed : ∀ handle connection slot registration token,
    world.Announced handle connection slot registration token →
      (world.hals handle).hal.Attributed slot registration token
  single : ∀ handle connection connection' slot slot' registration registration' token,
    world.Announced handle connection slot registration token →
      world.Announced handle connection' slot' registration' token →
        connection = connection' ∧ slot = slot' ∧ registration = registration'
  flight : ∀ announcement ∈ world.flight, announcement ∈ world.announced
  reached : ∃ past, Run ServiceWorld.Step {} past world.service
  heard : world.service.Heard world.inputs
  readying : ∀ thread call stage, world.readying thread = some (call, stage) → world.Backs call stage

structure Recorded (world after : PlatformWorld) : Prop where
  connections : ∀ epoch hal, world.connections epoch = some hal → after.connections epoch = some hal
  announced : ∀ announcement ∈ world.announced, announcement ∈ after.announced
  registered : ∀ entry ∈ world.registered, entry ∈ after.registered

variable {world after : PlatformWorld} {label : PlatformLabel} {call : Readiness} {stage : Readying}

theorem Recorded.inputs (recorded : world.Recorded after) : world.inputs.Within after.inputs where
  heard _ heard opens := (heard opens).imp fun _ => recorded.announced _
  met _ _ _ := recorded.registered _

theorem Vouches.recorded {camera : CameraId} {whole : Bool} (vouches : world.Vouches call camera whole)
    (recorded : world.Recorded after) : after.Vouches call camera whole where
  registered := recorded.registered _ vouches.registered
  announced complete := by
    obtain ⟨handle, slot, width, height, fps, member⟩ := vouches.announced complete
    exact ⟨handle, slot, width, height, fps, recorded.announced _ member⟩

theorem Backs.recorded (backs : world.Backs call stage) (recorded : world.Recorded after) :
    after.Backs call stage := by
  cases stage with
  | scanning passed => trivial
  | comparing camera => exact ⟨backs.1, recorded.registered _ backs.2⟩
  | seating camera whole => exact Vouches.recorded backs recorded
  | matched found | asking found connection => exact Vouches.recorded backs recorded
  | sending found connection hal => exact ⟨backs.1.recorded recorded, recorded.connections _ _ backs.2⟩

theorem boot_sound (provider : Bool) (outcome : HalHandle → Nat → Bool) : (boot provider outcome).Sound where
  relay := RelayWorld.initial_sound
  linked := ⟨by simp [boot], by simp [boot], by simp [boot]⟩
  counted _ := ⟨le_rfl, fun _ => le_rfl⟩
  callbacks _ _ given := by cases given
  connected _ member := by cases member
  attributed _ _ _ _ _ := by simp [boot, Announced]
  single _ _ _ _ _ _ _ _ := by simp [boot, Announced]
  flight _ member := by cases member
  reached := ⟨[], .refl⟩
  heard := ServiceWorld.boot_heard
  readying _ _ _ busy := by cases busy

theorem Sound.setReadying (sound : world.Sound) (thread : Nat) {readying : Option (Readiness × Readying)}
    (backs : ∀ call stage, readying = some (call, stage) → world.Backs call stage) :
    (world.setReadying thread readying).Sound :=
  { sound with
    readying := by
      intro other call stage busy
      have recorded : world.Recorded (world.setReadying thread readying) := ⟨fun _ _ => id, fun _ => id, fun _ => id⟩
      by_cases same : other = thread
      next =>
        subst same
        have here : (world.setReadying other readying).readying other = readying := Function.update_self _ _ _
        exact (backs call stage (here.symm.trans busy)).recorded recorded
      next =>
        have before := (Function.update_of_ne same _ _).symm.trans busy
        exact (sound.readying other call stage before).recorded recorded }

theorem mem_said {handle : HalHandle} {event : HalEvent} {announcement : Announcement} :
    announcement ∈ (world.runs handle event).announced ↔
      (announcement.hal = handle ∧
        event.sends (world.hals handle).hal = some (announcement.connection, announcement.message)) ∨
      announcement ∈ world.announced := by
  simp only [runs, List.mem_append, Option.mem_toList, Option.map_eq_some_iff]
  refine or_congr ⟨?_, ?_⟩ Iff.rfl
  next =>
    rintro ⟨⟨binder, message⟩, sends, rfl⟩
    exact ⟨rfl, sends⟩
  next =>
    rintro ⟨rfl, sends⟩
    exact ⟨_, sends, rfl⟩

theorem announced_runs {handle other : HalHandle} {event : HalEvent} {connection : Epoch} {slot : Slot}
    {registration token : Int} :
    (world.runs handle event).Announced other connection slot registration token ↔
      (other = handle ∧ ∃ width height fps, event.sends (world.hals handle).hal =
        some (connection, .streamsConfiguredForProducer slot registration token width height fps)) ∨
      world.Announced other connection slot registration token := by
  simp only [Announced, mem_said, exists_or, exists_and_left]

theorem runs_recorded (world : PlatformWorld) (handle : HalHandle) (event : HalEvent) :
    world.Recorded (world.runs handle event) where
  connections _ _ := id
  announced _ member := mem_said.mpr (.inr member)
  registered _ := id

theorem Sound.runs (sound : world.Sound) {handle : HalHandle} {event : HalEvent}
    (links : ∀ binder version, event = .control (.setCallback (some binder) version) →
      world.connections binder = some handle) : (world.runs handle event).Sound := by
  have recorded := world.runs_recorded handle event
  have here : (world.runs handle event).hals handle = (world.hals handle).perform event := Function.update_self _ _ _
  have elsewhere {other : HalHandle} (apart : other ≠ handle) :
      (world.runs handle event).hals other = world.hals other := Function.update_of_ne apart _ _
  refine ⟨sound.relay, sound.linked, fun other => ?_, fun other binder given => ?_, fun announcement member => ?_,
    fun other connection slot registration token announced => ?_,
    fun other connection connection' slot slot' registration registration' token announced announced' => ?_,
    fun announcement member => ?_,
    sound.reached, sound.heard.mono recorded.inputs, fun thread call stage busy => ?_⟩
  · by_cases same : other = handle
    next =>
      subst same
      rw [here]
      exact HalWorld.counted_perform (sound.counted other) event
    next =>
      rw [elsewhere same]
      exact sound.counted other
  · by_cases same : other = handle
    next =>
      subst same
      rw [here] at given
      rcases (world.hals other).perform_callback event with kept | ⟨callback, version, rfl, set⟩
      · exact sound.callbacks other binder (kept.symm.trans given)
      · cases set.symm.trans given
        exact links binder version rfl
    next =>
      rw [elsewhere same] at given
      exact sound.callbacks other binder given
  · rcases mem_said.mp member with ⟨rfl, sends⟩ | before
    · exact sound.callbacks _ _ (HalWorld.sends_callback sends)
    · exact sound.connected announcement before
  · rcases announced_runs.mp announced with ⟨rfl, width, height, fps, sends⟩ | before
    · rw [here]
      exact (HalWorld.attributed_sends (sound.counted other) sends).2
    · have attributed := sound.attributed _ _ _ _ _ before
      by_cases same : other = handle
      next =>
        subst same
        rw [here]
        exact HalWorld.attributed_perform attributed (sound.counted other) event
      next =>
        rw [elsewhere same]
        exact attributed
  · have unissued {sent : Epoch} {place : Slot} {person width height fps : Int}
        (sends : event.sends (world.hals handle).hal =
          some (sent, .streamsConfiguredForProducer place person token width height fps))
        {sent' : Epoch} {place' : Slot} {person' : Int} : ¬ world.Announced handle sent' place' person' token := by
      intro before
      have issued := (sound.attributed _ _ _ _ _ before).issued
      have new := (HalWorld.attributed_sends (sound.counted handle) sends).1
      omega
    rcases announced_runs.mp announced with ⟨rfl, width, height, fps, sends⟩ | before
    · rcases announced_runs.mp announced' with ⟨_, width', height', fps', sends'⟩ | before'
      · cases sends.symm.trans sends'
        exact ⟨rfl, rfl, rfl⟩
      · exact absurd before' (unissued sends)
    · rcases announced_runs.mp announced' with ⟨rfl, width', height', fps', sends'⟩ | before'
      · exact absurd before (unissued sends')
      · exact sound.single _ _ _ _ _ _ _ _ before before'
  · rcases List.mem_append.mp member with said | before
    · exact List.mem_append_left _ said
    · exact recorded.announced _ (sound.flight announcement before)
  · exact (sound.readying thread call stage busy).recorded recorded

theorem Sound.serviceMove (sound : world.Sound) {move : ServiceMove} {service : ServiceWorld}
    (brought : ∀ thread hal, move = .halEvent thread hal → world.inputs.heard hal)
    (next : world.service.perform move = some service) :
    ({ world with service, registered := move.registers world.service.service ++ world.registered } :
      PlatformWorld).Sound := by
  obtain ⟨past, reached⟩ := sound.reached
  have recorded : world.Recorded
      { world with service, registered := move.registers world.service.service ++ world.registered } :=
    ⟨fun _ _ => id, fun _ => id, fun _ => List.mem_append_right _⟩
  refine ⟨sound.relay, sound.linked, sound.counted, sound.callbacks, sound.connected, sound.attributed,
    sound.single, sound.flight,
    ⟨_, reached.snoc next⟩, ?_, fun thread call stage busy =>
      (sound.readying thread call stage busy).recorded recorded⟩
  refine ServiceWorld.step_heard reached (sound.heard.mono recorded.inputs) brought ?_ next
  rintro thread callback uid descriptor maxCameras rfl
  exact List.mem_cons_self

theorem Sound.relayStep (sound : world.Sound) {label : RelayLabel} {relay : RelayWorld}
    (next : world.relay.perform label = some relay) :
    ({ world with relay, connections := label.connects relay.relay.connectionEpoch world.connections } :
      PlatformWorld).Sound := by
  obtain ⟨linked, grown⟩ := RelayWorld.linked_step sound.linked next
  have recorded : world.Recorded
      { world with relay, connections := label.connects relay.relay.connectionEpoch world.connections } :=
    ⟨grown, fun _ => id, fun _ => id⟩
  exact ⟨RelayWorld.sound_step _ _ _ sound.relay next, linked, sound.counted,
    fun handle binder given => grown _ _ (sound.callbacks handle binder given),
    fun announcement member => grown _ _ (sound.connected announcement member), sound.attributed, sound.single,
    sound.flight, sound.reached, sound.heard, fun thread call stage busy =>
      (sound.readying thread call stage busy).recorded recorded⟩

theorem heard_event {announcement : Announcement} (member : announcement ∈ world.announced)
    (registered : 0 < (announcement.message.event announcement.connection).registration) :
    world.inputs.heard (announcement.message.event announcement.connection) := by
  obtain ⟨handle, connection, message⟩ := announcement
  intro opens
  cases message with
  | streamsConfiguredForProducer slot registration token width height fps => exact ⟨handle, member⟩
  | streamsConfiguredForConfiguration slot token width height fps => cases registered
  | cameraClosedForProducer slot registration token => cases opens
  | cameraClosedForConfiguration slot token => cases opens

theorem Sound.deliver (sound : world.Sound) {thread : Nat} {announcement : Announcement}
    (member : announcement ∈ world.flight) (next : world.deliver thread announcement = some after) : after.Sound := by
  have registered := Relay.admission_registered sound.relay.connected.version
    (announcement.message.event announcement.connection)
  have heard := fun admitted => heard_event (sound.flight announcement member) (registered admitted)
  unfold PlatformWorld.deliver at next
  dsimp only at next
  generalize announcement.message.event announcement.connection = event at next heard
  have step : world.relay.perform (.admitEvent event.connection event.slot event.configuration event.closed
    event.registration) = some (world.relay.withRelay (world.relay.relay.admission event).2) := rfl
  have passed := sound.relayStep step
  generalize world.relay.relay.admission event = result at next heard passed
  obtain ⟨admitted, relay⟩ := result
  have taken : ({ world with relay := world.relay.withRelay relay, flight := world.flight.erase announcement } :
      PlatformWorld).Sound :=
    { passed with
      flight := fun other member => passed.flight other (List.mem_of_mem_erase member)
      readying := fun thread call stage busy =>
        (passed.readying thread call stage busy).recorded ⟨fun _ _ => id, fun _ => id, fun _ => id⟩ }
  cases admitted with
  | true =>
    obtain ⟨service, performed, rfl⟩ := Option.map_eq_some_iff.mp next
    refine taken.serviceMove (fun _ hal same => ?_) performed
    cases same
    exact heard rfl
  | false =>
    cases next
    exact taken

theorem Sound.advance (sound : world.Sound) {answer : Option HalHandle} {further : Readying}
    (backs : world.Backs call stage) (goes : world.advance call answer stage = some further) :
    world.Backs call further := by
  have known := sound.heard.service
  cases stage with
  | scanning passed =>
    obtain ⟨camera, _, rfl⟩ := Option.map_eq_some_iff.mp goes
    split
    next matching =>
      obtain ⟨state, there, same⟩ := (Option.any_eq_true _ _).mp matching.1
      simp only [Bool.and_eq_true, beq_iff_eq] at same
      refine ⟨matching.2, ?_⟩
      rw [← same.1.1, ← same.1.2]
      exact known.met camera state there
    next => trivial
  | comparing camera =>
    obtain ⟨connected, registered⟩ := backs
    simp only [PlatformWorld.advance] at goes
    split at goes <;> cases goes
    next matching =>
      refine ⟨registered, fun whole => ?_⟩
      obtain ⟨state, there, configured⟩ := (Option.any_eq_true _ _).mp matching.1
      simp only [there, Option.any_some, Bool.and_eq_true, beq_iff_eq, Bool.not_eq_true'] at whole
      rcases known.paired camera state there whole.2 with zero | ⟨event, brought, rfl, connection, configuration⟩
      · exact absurd (whole.1.symm.trans zero) connected
      · obtain ⟨handle, member⟩ := brought.heard brought.configures
        rw [brought.own, ← connection, ← configuration, whole.1, beq_iff_eq.mp configured] at member
        exact ⟨handle, _, _, _, _, member⟩
    next => trivial
  | seating camera whole =>
    simp only [PlatformWorld.advance] at goes
    split at goes
    next slot seated =>
      split at goes <;> cases goes
      next => exact backs
      next => trivial
    next =>
      cases goes
      trivial
  | matched found =>
    obtain ⟨state, _, rfl⟩ := Option.map_eq_some_iff.mp goes
    exact backs
  | asking found connection =>
    obtain ⟨hal, _, readies⟩ := Option.bind_eq_some_iff.mp goes
    obtain ⟨current, same⟩ := Option.ite_none_right_eq_some.mp readies
    cases same
    simp only [Relay.readiness, Bool.and_eq_true, beq_iff_eq] at current
    exact ⟨backs, current.2 ▸ sound.linked.current hal current.1⟩
  | sending found connection hal => cases goes

theorem step_sound (sound : world.Sound) (next : world.Step label after) : after.Sound := by
  cases label with
  | service move =>
    obtain ⟨silent, moved⟩ := Option.ite_none_left_eq_some.mp next
    obtain ⟨service, performed, rfl⟩ := Option.map_eq_some_iff.mp moved
    refine sound.serviceMove (fun thread hal same => absurd ?_ silent) performed
    rw [same]
    rfl
  | relay label =>
    obtain ⟨_, moved⟩ := Option.ite_none_left_eq_some.mp next
    obtain ⟨relay, performed, rfl⟩ := Option.map_eq_some_iff.mp moved
    exact sound.relayStep performed
  | link version =>
    simp only [Step, perform] at next
    split at next
    next epoch hal linking =>
      obtain ⟨_, same⟩ := Option.ite_none_right_eq_some.mp next
      cases same
      refine sound.runs fun binder version same => ?_
      cases same
      exact sound.linked.linking _ hal linking
    next => cases next
  | hal handle event =>
    obtain ⟨⟨other, _⟩, same⟩ := Option.ite_none_right_eq_some.mp next
    cases same
    refine sound.runs fun binder version same => ?_
    rw [same] at other
    cases other
  | die handle =>
    cases next
    have recorded : world.Recorded { world with dead := insert handle world.dead } :=
      ⟨fun _ _ => id, fun _ => id, fun _ => id⟩
    exact { sound with
      readying := fun thread call stage busy => (sound.readying thread call stage busy).recorded recorded }
  | deliver thread announcement =>
    obtain ⟨member, delivered⟩ := Option.ite_none_right_eq_some.mp next
    exact sound.deliver member delivered
  | setProducerReady thread call =>
    obtain ⟨_, same⟩ := Option.ite_none_right_eq_some.mp next
    cases same
    refine sound.setReadying thread fun _ _ same => ?_
    cases same
    trivial
  | proceed thread answer =>
    obtain ⟨⟨call, stage⟩, busy, rfl⟩ := Option.map_eq_some_iff.mp next
    have backs := sound.readying thread call stage busy
    have goes : (world.setReadying thread ((world.advance call answer stage).map (call, ·))).Sound := by
      refine sound.setReadying thread fun _ further goes => ?_
      obtain ⟨_, found, same⟩ := Option.map_eq_some_iff.mp goes
      cases same
      exact sound.advance backs found
    cases stage with
    | sending found connection hal =>
      have ended : (world.setReadying thread none).Sound := goes
      simp only [proceed]
      split
      next =>
        refine ended.runs fun binder version same => ?_
        cases same
      next => exact ended
    | _ => exact goes

end PlatformWorld

end VirtualCamera
