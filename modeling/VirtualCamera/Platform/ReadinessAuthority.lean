import VirtualCamera.Platform.PlatformInvariants

set_option autoImplicit false

namespace VirtualCamera

open Descriptors Runs

namespace PlatformWorld

structure Authorised (world after : PlatformWorld) (call : Readiness) (found : Matched) (connection : Epoch)
    (hal : HalHandle) : Prop where
  connected : world.connections connection = some hal
  current : ((world.hals hal).hal.slots found.slot).configuration = call.token
  changed : ((after.hals hal).hal.slots found.slot).ready = call.ready
  registered : (found.camera, call.uid, call.callback) ∈ world.registered
  announced : found.whole = true → connection = call.connection →
    world.Announced hal connection found.slot found.camera call.token
  own : found.whole = true → connection = call.connection →
    ((world.hals hal).hal.slots found.slot).capabilities.any (·.registration == found.camera) = true

variable {world after : PlatformWorld} {thread : Nat} {call : Readiness} {stage : Readying}
    {answer : Option HalHandle}

theorem setConfigurationReady_refused {hal : StableHal} {slot token : Int} {ready : Bool}
    (refused : (hal.setConfigurationReady slot token ready).1 ≠ .ok) :
    (hal.setConfigurationReady slot token ready).2 = hal := by
  unfold StableHal.setConfigurationReady at *
  split
  next => rfl
  next slot valid =>
    rw [valid] at refused
    dsimp only at refused ⊢
    split
    next => rfl
    next current =>
      rw [if_neg current] at refused
      cases ready <;> exact absurd rfl refused

theorem Sound.authorised (sound : world.Sound) {found : Matched} {connection : Epoch} {hal : HalHandle}
    (busy : world.readying thread = some (call, .sending found connection hal))
    (runs : after.hals = Function.update world.hals hal
      ((world.hals hal).perform (.control (.setConfigurationReady found.slot call.token call.ready))))
    (okay : ((world.hals hal).hal.setConfigurationReady found.slot call.token call.ready).1 = .ok) :
    world.Authorised after call found connection hal := by
  obtain ⟨vouches, connected⟩ := sound.readying thread call _ busy
  obtain ⟨current, changed, _⟩ := StableHal.setConfigurationReady_ok okay
  have backed (whole : found.whole = true) (same : connection = call.connection) :
      world.Announced hal connection found.slot found.camera call.token ∧
        ((world.hals hal).hal.slots found.slot).capabilities.any (·.registration == found.camera) = true := by
    obtain ⟨handle, slot, announced⟩ := vouches.announced whole
    have attributed := sound.attributed _ _ _ _ _ announced
    obtain ⟨width, height, fps, member⟩ := announced
    obtain rfl : handle = hal :=
      Option.some.inj ((sound.connected _ member).symm.trans (same ▸ connected))
    obtain ⟨rfl, own⟩ := attributed.only found.slot current
    exact ⟨same ▸ ⟨width, height, fps, member⟩, own⟩
  refine ⟨connected, current, ?_, vouches.registered, fun whole same => (backed whole same).1,
    fun whole same => (backed whole same).2⟩
  rw [runs, Function.update_self]
  exact changed

theorem run_sound {provider : Bool} {outcome : HalHandle → Nat → Bool} {past : List PlatformLabel}
    (run : Run Step (boot provider outcome) past world) : world.Sound :=
  run.invariant (fun _ => Sound) (boot_sound provider outcome) fun _ _ _ _ _ sound next => step_sound sound next

theorem readiness_authority {provider : Bool} {outcome : HalHandle → Nat → Bool} {past : List PlatformLabel}
    (reached : Run Step (boot provider outcome) past world) (busy : world.readying thread = some (call, stage))
    (next : world.Step (.proceed thread answer) after) :
    (∀ hal slot, (after.hals hal).hal.slots slot = (world.hals hal).hal.slots slot) ∨
      ∃ found connection hal, stage = .sending found connection hal ∧
        world.Authorised after call found connection hal ∧
        ∀ other slot, ¬ (other = hal ∧ slot = found.slot) →
          (after.hals other).hal.slots slot = (world.hals other).hal.slots slot := by
  have sound := run_sound reached
  obtain ⟨⟨_, _⟩, there, rfl⟩ := Option.map_eq_some_iff.mp next
  cases busy.symm.trans there
  cases stage with
  | sending found connection hal =>
    by_cases reaches : answer = some hal ∧ hal ∉ world.dead
    next =>
      have runs : (world.proceed thread answer call (.sending found connection hal)).hals =
          Function.update world.hals hal ((world.hals hal).perform
            (.control (.setConfigurationReady found.slot call.token call.ready))) := by
        simp only [proceed, if_pos reaches]
        rfl
      by_cases okay : ((world.hals hal).hal.setConfigurationReady found.slot call.token call.ready).1 = .ok
      next =>
        obtain ⟨_, _, others⟩ := StableHal.setConfigurationReady_ok okay
        refine .inr ⟨found, connection, hal, rfl, sound.authorised busy runs okay, fun other slot apart => ?_⟩
        rw [runs]
        by_cases same : other = hal
        next =>
          subst same
          rw [Function.update_self]
          exact others slot fun here => apart ⟨rfl, here⟩
        next => rw [Function.update_of_ne same]
      next =>
        refine .inl fun other slot => ?_
        rw [runs]
        by_cases same : other = hal
        next =>
          subst same
          rw [Function.update_self]
          exact congrArg (fun hal => hal.slots slot) (setConfigurationReady_refused okay)
        next => rw [Function.update_of_ne same]
    next =>
      refine .inl fun other slot => ?_
      simp only [proceed, if_neg reaches]
      rfl
  | _ => exact .inl fun _ _ => rfl

def readyLabels : List PlatformLabel :=
  [ .relay .ask, .relay (.connect 7 6), .link (some 6), .relay .connected
  , .service (.registerCamera 0 9 1234 [] 1), .service (.proceed 0 true), .service (.proceed 0 true)
  , .relay (.register 7 0 1000)
  , .hal 7 (.control (.registerProducer 0 { ProducerCapabilities.diagnostic with registration := 1000 } (some 1)))
  , .relay (.registered ⟨7, 0, 1000, 0⟩ true)
  , .hal 7 (.control (.notifyStreamsConfigured 0 1 640 480 30))
  , .deliver 1 ⟨7, 1, .streamsConfiguredForProducer 0 1000 1 640 480 30⟩
  , .service (.proceed 1 true), .service (.proceed 1 true)
  , .service (.lifecycle 0 true), .service (.lifecycle 0 true)
  , .service (.lifecycle 0 true), .service (.lifecycle 0 true), .service (.lifecycle 0 true)
  , .service (.lifecycle 0 true), .service (.lifecycle 0 true)
  , .setProducerReady 0 ⟨1234, 9, 1, 1, true⟩
  , .proceed 0 none, .proceed 0 none, .proceed 0 none, .proceed 0 none, .proceed 0 (some 7) ]

theorem readiness_authority_granted :
    ∃ world after, Run Step (boot true fun _ _ => true) readyLabels world ∧
      ((world.hals 7).hal.slots 0).ready = false ∧
      world.Authorised after ⟨1234, 9, 1, 1, true⟩ ⟨1000, 0, true⟩ 1 7 ∧
      world.Announced 7 1 0 1000 1 := by
  let check (world : PlatformWorld) : Bool :=
    decide (world.readying 0 = some (⟨1234, 9, 1, 1, true⟩, .sending ⟨1000, 0, true⟩ 1 7) ∧
      ((world.hals 7).hal.slots 0).ready = false) &&
    (world.perform (.proceed 0 (some 7))).any fun after => decide (((after.hals 7).hal.slots 0).ready = true)
  have computed : (readyLabels.foldlM perform (boot true fun _ _ => true)).any check = true := by
    decide +kernel
  obtain ⟨world, run, checked⟩ := Run.of_any computed
  obtain ⟨before, goes⟩ := (Bool.and_eq_true _ _).mp checked
  obtain ⟨busy, unready⟩ := of_decide_eq_true before
  obtain ⟨after, next, ready⟩ := (Option.any_eq_true _ _).mp goes
  refine ⟨world, after, run, unready, ?_⟩
  rcases readiness_authority run busy next with same | ⟨found, connection, hal, stage, authorised, _⟩
  · rw [same, unready] at ready
    cases ready
  · cases stage
    exact ⟨authorised, authorised.announced rfl rfl⟩

structure ToldAnnounced (world : PlatformWorld) : Prop where
  told : ∀ camera connection configuration width height fps,
    (camera, .onStreamsConfigured connection configuration width height fps) ∈ world.service.service.told →
      ∃ hal slot, world.connections connection = some hal ∧
        ⟨hal, connection, .streamsConfiguredForProducer slot camera configuration width height fps⟩ ∈ world.announced
  apart : ∀ camera camera' connection configuration width width' height height' fps fps',
    (camera, .onStreamsConfigured connection configuration width height fps) ∈ world.service.service.told →
      (camera', .onStreamsConfigured connection configuration width' height' fps') ∈ world.service.service.told →
        camera = camera'

theorem told_announced {provider : Bool} {outcome : HalHandle → Nat → Bool} {past : List PlatformLabel}
    (reached : Run Step (boot provider outcome) past world) : world.ToldAnnounced := by
  have sound := run_sound reached
  have told : ∀ camera connection configuration width height fps,
      (camera, .onStreamsConfigured connection configuration width height fps) ∈ world.service.service.told →
        ∃ hal slot, world.connections connection = some hal ∧
          ⟨hal, connection, .streamsConfiguredForProducer slot camera configuration width height fps⟩ ∈
            world.announced := by
    intro camera connection configuration width height fps member
    obtain ⟨slot, heard⟩ := sound.heard.service.told _ _ _ _ _ _ member
    obtain ⟨hal, announced⟩ := heard rfl
    exact ⟨hal, slot, sound.connected _ announced, announced⟩
  refine ⟨told, ?_⟩
  intro camera camera' connection configuration width width' height height' fps fps' first second
  obtain ⟨hal, slot, connected, announced⟩ := told _ _ _ _ _ _ first
  obtain ⟨hal', slot', connected', announced'⟩ := told _ _ _ _ _ _ second
  cases connected.symm.trans connected'
  exact (sound.single _ _ _ _ _ _ _ _ ⟨width, height, fps, announced⟩ ⟨width', height', fps', announced'⟩).2.2

def toldLabels : List PlatformLabel := readyLabels ++ List.replicate 2 (.service (.lifecycle 0 true))

theorem told_announced_configured :
    ∃ past world, Run Step (boot true fun _ _ => true) past world ∧ world.ToldAnnounced ∧
      (1000, .onStreamsConfigured 1 1 640 480 30) ∈ world.service.service.told := by
  have computed : (toldLabels.foldlM perform (boot true fun _ _ => true)).any (fun world => decide
      ((1000, ProducerCall.onStreamsConfigured 1 1 640 480 30) ∈ world.service.service.told)) = true := by
    decide +kernel
  obtain ⟨world, run, told⟩ := Run.of_any computed
  exact ⟨_, world, run, told_announced run, of_decide_eq_true told⟩

end PlatformWorld

end VirtualCamera
