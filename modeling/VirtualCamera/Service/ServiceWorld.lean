import VirtualCamera.Service.VirtualCameraService

set_option autoImplicit false

namespace VirtualCamera

open Descriptors

-- Where a call into the service stands, between two blocks under `mLock` or calls out of the service.
inductive ServiceCall where
  | placing (camera : CameraId) (max : Int)
  | queueing (camera : CameraId) (slot : Slot) (becameAvailable : Bool)
  | removal (removal : Removal)
  | admitting (hal : LifecycleEvent)
  | scheduling (event : OwnedEvent)
  | dying (connection : Epoch) (slots : List Slot)
deriving DecidableEq, Repr

structure ServiceWorld where
  service : VirtualCameraService := {}
  calls : Nat → Option ServiceCall := fun _ => none
  -- The pass of the recovery thread over the slots.
  walk : Option (Nat × List Slot) := none
  deadBinders : Finset Binder := ∅
  -- The cameras whose death recipients are linked, and those whose recipients have run.
  linked : Finset CameraId := ∅
  dead : Finset CameraId := ∅

-- An answer is what a call out of the service returns, where the service asks for it.
inductive ServiceMove where
  | registerCamera (thread : Nat) (callback : Binder) (uid : Int) (descriptor : List Int) (maxCameras : Int)
  | unregisterCamera (thread : Nat) (uid : Int) (camera : CameraId)
  | setHalListener (thread : Nat) (listener : Option HalListener)
  | halEvent (thread : Nat) (hal : LifecycleEvent)
  | onHalDied (thread : Nat) (connection : Epoch)
  | die (binder : Binder)
  | binderDied (thread : Nat) (camera : CameraId)
  | listenerDied (listener : HalListener)
  | proceed (thread : Nat) (answer : Bool)
  | lifecycle (slot : Slot) (answer : Bool)
  | recover (place : Nat) (halUp : Bool)
  | walk
deriving DecidableEq, Repr

namespace ServiceWorld

def call (world : ServiceWorld) (thread : Nat) (call : Option ServiceCall) : ServiceWorld :=
  { world with calls := Function.update world.calls thread call }

def binderDead (world : ServiceWorld) (camera : CameraId) : Bool :=
  (world.service.objects camera).any fun state => state.callback ∈ world.deadBinders

-- `registerCamera` up to `linkToDeath`, which a dead binder refuses.
def registerCamera (world : ServiceWorld) (thread : Nat) (callback : Binder) (uid : Int) (descriptor : List Int)
    (maxCameras : Int) : ServiceWorld :=
  let camera := world.service.nextCameraId
  let service :=
    { world.service with
      nextCameraId := camera + 1
      objects := Function.update world.service.objects camera (some { uid, callback, descriptor }) }
  if callback ∈ world.deadBinders then { world with service }
  else
    ({ world with service, linked := insert camera world.linked } : ServiceWorld).call thread
      (some (.placing camera (max 1 (min kMaxVirtualCameras maxCameras))))

def unregisterCamera (world : ServiceWorld) (thread : Nat) (uid : Int) (camera : CameraId) : ServiceWorld :=
  if camera ∈ world.service.cameras ∧ (world.service.objects camera).any (·.uid ≠ uid) = true then world
  else world.call thread (some (.removal (.finding camera)))

def setHalListener (world : ServiceWorld) (thread : Nat) : Option HalListener → ServiceWorld
  | none => { world with service := { world.service with halListener := none } }
  | some listener =>
    ({ world with
        service := { world.service with halListener := some listener, reads := world.service.reads + 1 } } :
      ServiceWorld).call thread (some (.removal (.pushing (world.service.notice listener))))

def placed (world : ServiceWorld) (thread : Nat) (camera : CameraId) (max : Int) : ServiceWorld :=
  if camera ∈ world.dead ∨ world.binderDead camera = true then world.call thread none
  else
    match world.service.place camera max with
    | (some slot, service) =>
      ({ world with service } : ServiceWorld).call thread
        (some (.queueing camera slot (world.service.cameras = ∅)))
    | (none, service) => ({ world with service } : ServiceWorld).call thread (some (.removal (.finding camera)))

def proceed (world : ServiceWorld) (thread : Nat) (answer : Bool) : ServiceCall → ServiceWorld
  | .placing camera max => world.placed thread camera max
  | .queueing camera slot becameAvailable =>
    ({ world with service := world.service.execute slot (.register camera) } : ServiceWorld).call thread
      (if becameAvailable then some (.removal .notifying) else none)
  | .removal removal =>
    match world.service.remove answer removal with
    | (service, next) => ({ world with service } : ServiceWorld).call thread (next.map .removal)
  | .admitting hal =>
    if answer then
      match world.service.record hal with
      | (event, service) => ({ world with service } : ServiceWorld).call thread (event.map .scheduling)
    else world.call thread none
  | .scheduling event =>
    let task := if event.hal.closed then LifecycleTask.close event else .configure event
    ({ world with service := world.service.execute event.hal.slot task } : ServiceWorld).call thread none
  | .dying connection (slot :: slots) =>
    ({ world with service := world.service.execute slot (.release connection) } : ServiceWorld).call thread
      (some (.dying connection slots))
  | .dying _ [] => ({ world with service := world.service.recoverHal } : ServiceWorld).call thread none

-- A task of `mRecovery`.
def recover (world : ServiceWorld) (place : Nat) (halUp : Bool) : Option ServiceWorld :=
  if world.walk.isSome then none
  else
    world.service.recovery[place]?.map fun (round, attempt) =>
      let recovery := world.service.recovery.eraseIdx place
      if world.service.recoveryRound ≠ round then { world with service := { world.service with recovery } }
      else if halUp then
        { world with
          service := { world.service with recovery }
          walk := some (round, List.finRange kMaxVirtualCameras) }
      else
        let later := if attempt < 29 then [(round, attempt + 1)] else []
        { world with service := { world.service with recovery := recovery ++ later } }

-- `cameraInSlot` and the task for its camera.
def walkOn (world : ServiceWorld) : Option ServiceWorld :=
  world.walk.map fun (round, slots) =>
    match slots with
    | [] => { world with walk := none }
    | slot :: rest =>
      let service :=
        match (world.service.slots slot).current with
        | some owner => world.service.execute slot (.recover owner round)
        | none => world.service
      { world with service, walk := some (round, rest) }

def idle (world : ServiceWorld) (thread : Nat) (begun : ServiceWorld) : Option ServiceWorld :=
  if (world.calls thread).isSome then none else some begun

def perform (world : ServiceWorld) : ServiceMove → Option ServiceWorld
  | .registerCamera thread callback uid descriptor maxCameras =>
    world.idle thread (world.registerCamera thread callback uid descriptor maxCameras)
  | .unregisterCamera thread uid camera => world.idle thread (world.unregisterCamera thread uid camera)
  | .setHalListener thread listener => world.idle thread (world.setHalListener thread listener)
  | .halEvent thread hal => world.idle thread (world.call thread (some (.admitting hal)))
  | .onHalDied thread connection =>
    world.idle thread (world.call thread (some (.dying connection (List.finRange kMaxVirtualCameras))))
  | .die binder => some { world with deadBinders := insert binder world.deadBinders }
  | .binderDied thread camera =>
    if camera ∈ world.linked ∧ world.binderDead camera = true then
      world.idle thread
        (({ world with linked := world.linked.erase camera, dead := insert camera world.dead } : ServiceWorld).call
          thread (some (.removal (.finding camera))))
    else none
  | .listenerDied listener => some { world with service := world.service.forget listener }
  | .proceed thread answer => (world.calls thread).map (world.proceed thread answer)
  | .lifecycle slot answer => (world.service.turn slot answer).map fun service => { world with service }
  | .recover place halUp => world.recover place halUp
  | .walk => world.walkOn

def Step (world : ServiceWorld) (move : ServiceMove) (after : ServiceWorld) : Prop :=
    world.perform move = some after

def thread : ServiceMove → Option Nat
  | .registerCamera thread .. | .unregisterCamera thread .. | .setHalListener thread _ | .halEvent thread _
  | .onHalDied thread _ | .binderDied thread _ | .proceed thread _ => some thread
  | .die _ | .listenerDied _ | .lifecycle .. | .recover .. | .walk => none

section Frame

variable {world after : ServiceWorld} {move : ServiceMove} {other : Nat}

theorem call_calls {thread : Nat} (apart : other ≠ thread) (next : Option ServiceCall) :
    (world.call thread next).calls other = world.calls other := Function.update_of_ne apart _ _

theorem idle_eq {thread : Nat} {begun : ServiceWorld} (next : world.idle thread begun = some after) :
    after = begun := by
  unfold idle at next
  split at next <;> cases next
  rfl

theorem proceed_calls {thread : Nat} (apart : other ≠ thread) (answer : Bool) (call : ServiceCall) :
    (world.proceed thread answer call).calls other = world.calls other := by
  cases call with
  | placing camera max =>
    simp only [proceed, placed]
    split
    next => exact call_calls apart _
    next =>
      split <;> exact call_calls apart _
  | admitting hal =>
    simp only [proceed]
    split <;> exact call_calls apart _
  | dying connection slots => cases slots <;> exact call_calls apart _
  | queueing | removal | scheduling => exact call_calls apart _

theorem step_calls (next : world.Step move after) (apart : thread move ≠ some other) :
    after.calls other = world.calls other := by
  have distinct {thread : Nat} (same : ServiceWorld.thread move = some thread) : other ≠ thread := by
    rintro rfl
    exact apart same
  cases move with
  | registerCamera thread callback uid descriptor maxCameras =>
    obtain rfl := idle_eq next
    unfold registerCamera
    dsimp only
    split
    next => rfl
    next => exact call_calls (distinct rfl) _
  | unregisterCamera thread uid camera =>
    obtain rfl := idle_eq next
    unfold unregisterCamera
    split
    next => rfl
    next => exact call_calls (distinct rfl) _
  | setHalListener thread listener =>
    obtain rfl := idle_eq next
    cases listener with
    | none => rfl
    | some listener => exact call_calls (distinct rfl) _
  | halEvent thread hal | onHalDied thread connection =>
    obtain rfl := idle_eq next
    exact call_calls (distinct rfl) _
  | binderDied thread camera =>
    obtain ⟨_, begun⟩ := Option.ite_none_right_eq_some.mp next
    obtain rfl := idle_eq begun
    exact call_calls (distinct rfl) _
  | die binder | listenerDied listener =>
    cases next
    rfl
  | proceed thread answer =>
    obtain ⟨call, _, rfl⟩ := Option.map_eq_some_iff.mp next
    exact proceed_calls (distinct rfl) answer call
  | lifecycle slot answer =>
    obtain ⟨service, _, rfl⟩ := Option.map_eq_some_iff.mp next
    rfl
  | recover place halUp =>
    simp only [Step, perform, recover] at next
    split at next
    next => cases next
    next =>
      obtain ⟨⟨round, attempt⟩, _, rfl⟩ := Option.map_eq_some_iff.mp next
      dsimp only
      split
      next => rfl
      next =>
        split <;> rfl
  | walk =>
    obtain ⟨⟨round, slots⟩, _, rfl⟩ := Option.map_eq_some_iff.mp next
    cases slots <;> rfl

theorem run_calls {moves : List ServiceMove} (run : Runs.Run Step {} moves world)
    (apart : ∀ move ∈ moves, thread move ≠ some other) : world.calls other = none :=
  run.always (fun world => world.calls other = none) (fun move => thread move ≠ some other) rfl apart
    fun _ _ _ allowed idle next => (step_calls next allowed).trans idle

end Frame

end ServiceWorld

end VirtualCamera
