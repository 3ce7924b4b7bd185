import VirtualCamera.Service.ServiceWorld

set_option autoImplicit false

namespace VirtualCamera

open Descriptors Notices

namespace Removal

def duty : Removal → Option (Duty Bool HalListener)
  | .queueing .. | .dropped _ true | .notifying => some .owed
  | .pushing notice => some (.pushing notice)
  | .forgetting listener => some (.failing listener)
  | .finding _ | .beginning .. | .dropping _ | .dropped _ false => none

end Removal

def ServiceCall.duty : ServiceCall → Option (Duty Bool HalListener)
  | .queueing _ _ true => some .owed
  | .removal rest => rest.duty
  | .placing .. | .queueing _ _ false | .admitting _ | .scheduling _ | .dying .. => none

def Running.duty : Running → Option (Duty Bool HalListener)
  | .removing rest => rest.duty
  | _ => none

namespace VirtualCameraService

variable {K : Type} [DecidableEq K] (service : VirtualCameraService) (duties : K → Option (Duty Bool HalListener))

def board : Board Bool HalListener K :=
  { value := service.available, listener := service.halListener, duties, received := service.received
    reads := service.reads }

def Moves (board after : Board Bool HalListener K) : Prop := after = board ∨ board.Step after

omit [DecidableEq K] in
theorem close_board (camera : CameraId) : (service.close camera).board duties = service.board duties := by
  unfold close
  split <;> rfl

variable {duties} {key : K}

theorem moves_same {after : VirtualCameraService} {duty : Option (Duty Bool HalListener)}
    (same : after.board duties = service.board duties) (here : duties key = duty) :
    Moves (service.board duties) (after.board (Function.update duties key duty)) := by
  rw [← here, Function.update_eq_self]
  exact .inl same

theorem remove_moves (answer : Bool) {removal : Removal} (here : duties key = removal.duty)
    (inOrder : ∀ notice, removal = .pushing notice → answer = true →
      ∀ earlier ∈ service.received, earlier.listener = notice.listener → earlier.stamp ≤ notice.stamp) :
    Moves (service.board duties)
      ((service.remove answer removal).1.board
        (Function.update duties key ((service.remove answer removal).2.bind (·.duty)))) := by
  cases removal with
  | finding camera =>
    refine service.moves_same rfl ?_
    rw [here]
    simp only [remove]
    split
    next =>
      split <;> rfl
    next => rfl
  | beginning camera slot =>
    simp only [remove, beginRemoval]
    split
    next removed begun =>
      split at begun <;> cases begun
      exact .inr (.change key _ here)
    next kept begun =>
      split at begun <;> cases begun
      exact service.moves_same rfl here
  | queueing camera slot => exact service.moves_same rfl here
  | dropping camera =>
    simp only [remove]
    split
    next member =>
      have was : service.available = true := decide_eq_true ⟨camera, member⟩
      by_cases empty : service.cameras.erase camera = ∅
      next =>
        simp only [empty, decide_true]
        exact .inr (.change key _ here)
      next =>
        refine service.moves_same ?_ (by rw [here, decide_eq_false empty]; rfl)
        have still : decide (service.cameras.erase camera).Nonempty = service.available := by
          rw [was]
          exact decide_eq_true (Finset.nonempty_iff_ne_empty.mpr empty)
        simp only [board, available] at still ⊢
        rw [still]
    next absent => exact service.moves_same rfl here
  | dropped camera becameUnavailable =>
    refine service.moves_same (close_board _ _ _) ?_
    rw [here]
    cases becameUnavailable <;> rfl
  | notifying =>
    simp only [remove]
    split
    next nobody => exact .inr (.unheard key here nobody)
    next listener current => exact .inr (.read key listener here current)
  | pushing notice =>
    simp only [remove]
    cases answer with
    | true => exact .inr (.deliver key notice here (inOrder notice rfl rfl))
    | false => exact .inr (.fail key notice here)
  | forgetting listener =>
    have step : Board.Step (service.board duties) _ := .forget key listener here
    simp only [remove, forget]
    split
    next current =>
      simp only [board, current, if_true] at step ⊢
      exact .inr step
    next other =>
      simp only [board, other, if_false] at step ⊢
      exact .inr step

omit [DecidableEq K] in
theorem record_board (hal : LifecycleEvent) : (service.record hal).2.board duties = service.board duties := by
  unfold record
  split
  next => rfl
  next =>
    split <;> rfl

theorem place_moves {camera : CameraId} {max : Int} {result : Option Slot × VirtualCameraService}
    (placing : service.Placing camera max result) (here : duties key = none) :
    Moves (service.board duties)
      (result.2.board (Function.update duties key (if service.cameras = ∅ then some .owed else none))) := by
  have inserted : result.2.board (Function.update duties key (if service.cameras = ∅ then some .owed else none)) =
      { service.board (Function.update duties key (if service.cameras = ∅ then some .owed else none)) with value := true } := by
    have found : decide (insert camera service.cameras).Nonempty = true :=
      decide_eq_true ⟨camera, Finset.mem_insert_self _ _⟩
    cases placing <;> simp only [board, available, found]
  rw [inserted]
  split
  next => exact .inr (.change key true here)
  next some_ =>
    have was : service.available = true := decide_eq_true (Finset.nonempty_iff_ne_empty.mpr some_)
    rw [← here, Function.update_eq_self]
    exact .inl (by simp only [board, was])

def running (slot : Slot) : Option Running := (service.lifecycle slot).running

theorem execute_running (slot : Slot) (task : LifecycleTask) :
    (service.execute slot task).running = service.running := by
  funext other
  by_cases same : other = slot <;> simp [running, execute, Function.update, same]

theorem run_running (slot : Slot) (next : Option Running) :
    (service.run slot next).running = Function.update service.running slot next := by
  funext other
  by_cases same : other = slot <;> simp [running, run, Function.update, same]

theorem Placing.running {service : VirtualCameraService} {camera : CameraId} {max : Int}
    {result : Option Slot × VirtualCameraService} (placing : service.Placing camera max result) :
    result.2.running = service.running := by
  cases placing <;> rfl

theorem record_running (hal : LifecycleEvent) : (service.record hal).2.running = service.running := by
  unfold record
  split
  next => rfl
  next =>
    split <;> rfl

theorem Removing.running {service after : VirtualCameraService} (step : service.Removing after) :
    after.running = service.running := by
  cases step with
  | begun camera slot =>
    simp only [beginRemoval]
    split <;> rfl
  | queued camera slot => exact execute_running _ _ _
  | closed camera =>
    simp only [close]
    split <;> rfl
  | noted => rfl

theorem remove_running (answer : Bool) (removal : Removal) :
    (service.remove answer removal).1.running = service.running :=
  (service.remove_removing answer removal).running

theorem advance_running (slot : Slot) (answer : Bool) (current : Running) :
    (service.advance slot answer current).1.running = service.running := by
  cases current with
  | removing removal => exact service.remove_running answer removal
  | askingHal camera => cases answer <;> rfl
  | closingCamera camera =>
    simp only [advance, close]
    split <;> rfl
  | _ => rfl

theorem advance_moves (slot : Slot) (answer : Bool) {current : Running} (here : duties key = current.duty)
    (inOrder : ∀ notice, current = .removing (.pushing notice) → answer = true →
      ∀ earlier ∈ service.received, earlier.listener = notice.listener → earlier.stamp ≤ notice.stamp) :
    Moves (service.board duties)
      ((service.advance slot answer current).1.board
        (Function.update duties key ((service.advance slot answer current).2.bind (·.duty)))) := by
  cases current with
  | removing removal =>
    have moves := service.remove_moves answer here fun notice same => inOrder notice (by rw [same])
    simp only [advance, Prod.map, Option.bind_map]
    exact moves
  | askingHal camera => cases answer <;> exact service.moves_same rfl here
  | closingCamera camera => exact service.moves_same (close_board _ _ _) here
  | registering camera | creating event | checking event => cases answer <;> exact service.moves_same rfl here
  | surfaced event =>
    refine service.moves_same rfl ?_
    rw [here]
    simp only [advance]
    split <;> rfl
  | _ => exact service.moves_same rfl here

theorem start_duty (slot : Slot) (task : LifecycleTask) : (service.start slot task).bind (·.duty) = none := by
  cases task <;> simp only [start] <;> (try split) <;> rfl

theorem starting_lifecycle (slot : Slot) (running : Option Running) :
    (service.starting slot running).lifecycle = service.lifecycle := by
  unfold starting
  split <;> rfl

theorem take_running (slot : Slot) (task : LifecycleTask) (queue : List LifecycleTask) :
    ({ service.starting slot (service.start slot task) with
        lifecycle := Function.update (service.starting slot (service.start slot task)).lifecycle slot
          { queue, running := service.start slot task } } : VirtualCameraService).running =
      Function.update service.running slot (service.start slot task) := by
  funext other
  by_cases same : other = slot <;> simp [running, starting_lifecycle, Function.update, same]

omit [DecidableEq K] in
theorem starting_board (slot : Slot) (running : Option Running) :
    (service.starting slot running).board duties = service.board duties := by
  unfold starting
  split <;> rfl

end VirtualCameraService

namespace ServiceWorld

def duties (world : ServiceWorld) : Nat ⊕ Slot → Option (Duty Bool HalListener) :=
  Sum.elim (fun thread => (world.calls thread).bind (·.duty)) fun slot =>
    (world.service.running slot).bind (·.duty)

def board (world : ServiceWorld) : Board Bool HalListener (Nat ⊕ Slot) := world.service.board world.duties

theorem call_duties (world : ServiceWorld) (thread : Nat) (next : Option ServiceCall) :
    (world.call thread next).duties = Function.update world.duties (.inl thread) (next.bind (·.duty)) := by
  unfold duties call
  rw [Sum.update_elim_inl]
  congr 1
  exact Function.comp_update (fun call : Option ServiceCall => call.bind (·.duty)) _ _ _

theorem proceed_duties {world : ServiceWorld} {thread : Nat} {call : ServiceCall}
    (here : world.calls thread = some call) :
    world.duties (.inl thread) = call.duty := by
  simp [duties, here]

def delivers (world : ServiceWorld) : ServiceMove → Option (Notice Bool HalListener)
  | .proceed thread true =>
    match world.calls thread with
    | some (.removal (.pushing notice)) => some notice
    | _ => none
  | .lifecycle slot true =>
    match world.service.running slot with
    | some (.removing (.pushing notice)) => some notice
    | _ => none
  | _ => none

def strands (world : ServiceWorld) : ServiceMove → Bool
  | .proceed thread _ =>
    match world.calls thread with
    | some (.placing camera max) =>
      camera ∉ world.dead ∧ world.binderDead camera = false ∧ world.service.cameras = ∅ ∧
        (world.service.place camera max).1 = none
    | _ => false
  | _ => false

def ordered (world : ServiceWorld) (move : ServiceMove) : Option ServiceWorld :=
  if world.strands move = false ∧ ∀ notice ∈ world.delivers move, ∀ earlier ∈ world.service.received,
      earlier.listener = notice.listener → earlier.stamp ≤ notice.stamp then world.perform move
  else none

def OrderedStep (world : ServiceWorld) (move : ServiceMove) (after : ServiceWorld) : Prop :=
  world.ordered move = some after

variable {world after : ServiceWorld} {move : ServiceMove}

theorem board_call (world : ServiceWorld) (thread : Nat) (next : Option ServiceCall) :
    (world.call thread next).board =
      world.service.board (Function.update world.duties (.inl thread) (next.bind (·.duty))) := by
  rw [board, call_duties]
  rfl

theorem call_board (world : ServiceWorld) (thread : Nat) (next : Option ServiceCall)
    {service : VirtualCameraService}
    (running : service.running = world.service.running) :
    (({ world with service } : ServiceWorld).call thread next).board =
      service.board (Function.update world.duties (.inl thread) (next.bind (·.duty))) := by
  have same : ({ world with service } : ServiceWorld).duties = world.duties := by simp only [duties, running]
  rw [board_call, same]

theorem proceed_moves {thread : Nat} {answer : Bool} {call : ServiceCall} (here : world.calls thread = some call)
    (placed : world.strands (.proceed thread answer) = false)
    (inOrder : ∀ notice ∈ world.delivers (.proceed thread answer), ∀ earlier ∈ world.service.received,
      earlier.listener = notice.listener → earlier.stamp ≤ notice.stamp) :
    VirtualCameraService.Moves world.board (world.proceed thread answer call).board := by
  have duty := proceed_duties here
  cases call with
  | placing camera max =>
    have placing := world.service.place_placing camera max
    simp only [proceed, ServiceWorld.placed]
    split
    next => exact call_board world thread none rfl ▸ world.service.moves_same rfl duty
    next alive =>
      have full : ¬ (world.service.cameras = ∅ ∧ (world.service.place camera max).1 = none) := by
        intro stranded
        simp [strands, here, stranded, not_or.mp alive] at placed
      have moves := world.service.place_moves placing duty
      have running := placing.running
      generalize world.service.place camera max = result at full moves running
      obtain ⟨_ | slot, service⟩ := result
      next =>
        have others : world.service.cameras ≠ ∅ := fun empty => full ⟨empty, rfl⟩
        dsimp only
        rw [call_board world thread _ running]
        rw [if_neg others] at moves
        exact moves
      next =>
        dsimp only
        rw [call_board world thread _ running]
        by_cases first : world.service.cameras = ∅
        next =>
          rw [if_pos first] at moves
          rwa [decide_eq_true first]
        next =>
          rw [if_neg first] at moves
          rwa [decide_eq_false first]
  | queueing camera slot becameAvailable =>
    have running := world.service.execute_running slot (.register camera)
    simp only [proceed]
    rw [call_board world thread _ running]
    refine world.service.moves_same rfl ?_
    rw [duty]
    cases becameAvailable <;> rfl
  | removal removal =>
    have moves := world.service.remove_moves answer duty fun notice same reached => inOrder notice (by
      subst same reached
      simp [delivers, here])
    have running := world.service.remove_running answer removal
    simp only [proceed]
    rw [call_board world thread _ running, Option.bind_map]
    exact moves
  | admitting hal =>
    simp only [proceed]
    cases answer with
    | false => exact call_board world thread none rfl ▸ world.service.moves_same rfl duty
    | true =>
      have same : (world.service.record hal).2.board world.duties = _ := world.service.record_board hal
      have running := world.service.record_running hal
      generalize world.service.record hal = result at same running
      simp only [if_true]
      rw [call_board world thread _ running]
      refine world.service.moves_same same ?_
      rw [duty]
      cases result.1 <;> rfl
  | scheduling event =>
    simp only [proceed]
    rw [call_board world thread _ (world.service.execute_running _ _)]
    exact world.service.moves_same rfl duty
  | dying connection slots =>
    cases slots with
    | nil =>
      simp only [proceed]
      have recovered : world.service.recoverHal.running = world.service.running := rfl
      rw [call_board world thread none recovered]
      exact world.service.moves_same rfl duty
    | cons slot slots =>
      simp only [proceed]
      rw [call_board world thread _ (world.service.execute_running _ _)]
      exact world.service.moves_same rfl duty

theorem turn_board (world : ServiceWorld) {service : VirtualCameraService} {slot : Slot} {next : Option Running}
    (running : service.running = Function.update world.service.running slot next) :
    ({ world with service } : ServiceWorld).board =
      service.board (Function.update world.duties (.inr slot) (next.bind (·.duty))) := by
  have same : ({ world with service } : ServiceWorld).duties =
      Function.update world.duties (.inr slot) (next.bind (·.duty)) := by
    unfold duties
    rw [Sum.update_elim_inr, running]
    congr 1
    exact Function.comp_update (fun running : Option Running => running.bind (·.duty)) _ _ _
  rw [board, same]

theorem turn_moves {slot : Slot} {answer : Bool} {service : VirtualCameraService}
    (turned : world.service.turn slot answer = some service)
    (inOrder : ∀ notice ∈ world.delivers (.lifecycle slot answer), ∀ earlier ∈ world.service.received,
      earlier.listener = notice.listener → earlier.stamp ≤ notice.stamp) :
    VirtualCameraService.Moves world.board ({ world with service } : ServiceWorld).board := by
  unfold VirtualCameraService.turn at turned
  split at turned
  next _ _ current here =>
    have running : world.service.running slot = some current := here
    have duty : world.duties (.inr slot) = current.duty := by simp [duties, running]
    have moves := world.service.advance_moves slot answer duty fun notice same reached => inOrder notice (by
      subst same reached
      simp [delivers, running])
    have kept := world.service.advance_running slot answer current
    generalize world.service.advance slot answer current = result at turned moves kept
    cases turned
    have boarded := turn_board world (result.1.run_running slot result.2 |>.trans (by rw [kept]))
    rw [boarded]
    exact moves
  next _ _ task queue here _ =>
    have running : world.service.running slot = none := here
    have duty : world.duties (.inr slot) = none := by simp [duties, running]
    cases turned
    have boarded := turn_board world (world.service.take_running slot task queue)
    rw [boarded]
    exact world.service.moves_same (world.service.starting_board _ _) (by rw [duty, world.service.start_duty])
  next => cases turned

theorem idle_begins {thread : Nat} {begun : ServiceWorld} (next : world.idle thread begun = some after) :
    world.duties (.inl thread) = none ∧ after = begun := by
  unfold idle at next
  split at next <;> cases next
  next free =>
    have none : world.calls thread = none := by simpa using free
    exact ⟨by simp [duties, none], rfl⟩

theorem OrderedStep.moves (next : world.OrderedStep move after) :
    VirtualCameraService.Moves world.board after.board := by
  obtain ⟨⟨placed, inOrder⟩, next⟩ := Option.ite_none_right_eq_some.mp next
  cases move with
  | registerCamera thread callback uid descriptor maxCameras =>
    obtain ⟨free, rfl⟩ := idle_begins next
    unfold registerCamera
    dsimp only
    split
    next => exact .inl rfl
    next =>
      rw [board_call]
      exact world.service.moves_same rfl free
  | unregisterCamera thread uid camera =>
    obtain ⟨free, rfl⟩ := idle_begins next
    unfold unregisterCamera
    split
    next => exact .inl rfl
    next =>
      rw [board_call]
      exact world.service.moves_same rfl free
  | setHalListener thread listener =>
    obtain ⟨free, rfl⟩ := idle_begins next
    cases listener with
    | none => exact .inr .silence
    | some listener =>
      unfold setHalListener
      rw [board_call]
      exact Or.inr (Board.Step.subscribe (Sum.inl thread) listener free)
  | halEvent thread hal =>
    obtain ⟨free, rfl⟩ := idle_begins next
    rw [board_call]
    exact world.service.moves_same rfl free
  | onHalDied thread connection =>
    obtain ⟨free, rfl⟩ := idle_begins next
    rw [board_call]
    exact world.service.moves_same rfl free
  | die binder =>
    cases next
    exact .inl rfl
  | binderDied thread camera =>
    simp only [perform] at next
    split at next
    next =>
      obtain ⟨free, rfl⟩ := @idle_begins world _ _ _ next
      rw [board_call]
      exact world.service.moves_same rfl free
    next => cases next
  | listenerDied listener =>
    cases next
    unfold VirtualCameraService.forget
    split
    next => exact .inr .silence
    next => exact .inl rfl
  | proceed thread answer =>
    obtain ⟨call, here, rfl⟩ := Option.map_eq_some_iff.mp next
    exact proceed_moves here placed inOrder
  | lifecycle slot answer =>
    obtain ⟨service, turned, rfl⟩ := Option.map_eq_some_iff.mp next
    exact turn_moves turned inOrder
  | recover place halUp =>
    simp only [perform, recover] at next
    split at next
    next => cases next
    next =>
      obtain ⟨⟨round, attempt⟩, _, rfl⟩ := Option.map_eq_some_iff.mp next
      dsimp only
      split
      next => exact .inl rfl
      next =>
        split <;> exact .inl rfl
  | walk =>
    obtain ⟨⟨round, slots⟩, _, rfl⟩ := Option.map_eq_some_iff.mp next
    cases slots with
    | nil => exact .inl rfl
    | cons slot rest =>
      dsimp only
      split
      next owner _ =>
        have running := world.service.execute_running slot (.recover owner round)
        refine .inl ?_
        simp only [board, duties, running]
        rfl
      next => exact .inl rfl

theorem boot_board : ({} : ServiceWorld).board = { value := false } := by
  have nothing : ({} : ServiceWorld).duties = fun _ => none := by
    funext key
    cases key <;> rfl
  rw [board, nothing]
  rfl

theorem ordered_sound {moves : List ServiceMove} (run : Runs.Run OrderedStep {} moves world) :
    world.board.Sound := by
  refine run.invariant (fun _ world => world.board.Sound) (boot_board ▸ Board.fresh_sound false) ?_
  intro _ _ _ _ _ sound next
  rcases next.moves with same | step
  · rw [same]
    exact sound
  · exact sound.step step

structure Delivered (world : ServiceWorld) : Prop where
  calls : ∀ thread call, world.calls thread = some call → call.duty = none
  tasks : ∀ slot running, (world.service.lifecycle slot).running = some running → running.duty = none

theorem Delivered.settled (delivered : world.Delivered) : world.board.Settled := by
  rintro (thread | slot)
  · exact Option.bind_eq_none_iff.mpr (delivered.calls thread)
  · exact Option.bind_eq_none_iff.mpr (delivered.tasks slot)

def Converged (world : ServiceWorld) : Prop :=
  world.Delivered → ∀ listener, world.service.halListener = some listener →
    (world.service.received.filter (·.listener = listener)).getLast?.map (·.value) =
      some (decide world.service.cameras.Nonempty)

theorem availability_converges (moves : List ServiceMove) (world : ServiceWorld)
    (run : Runs.Run OrderedStep {} moves world) : world.Converged :=
  fun delivered _ current => (ordered_sound run).settled delivered.settled current

def quiet (world : ServiceWorld) (threads : Nat) : Bool :=
  (List.range threads).all (fun thread => ((world.calls thread).bind (·.duty)).isNone) &&
    (List.finRange kMaxVirtualCameras).all fun slot => ((world.service.running slot).bind (·.duty)).isNone

theorem delivered_of_quiet {moves : List ServiceMove} (run : Runs.Run Step {} moves world) (threads : Nat)
    (few : moves.all (fun move => (thread move).all (· < threads)) = true) (quiet : world.quiet threads = true) :
    world.Delivered := by
  obtain ⟨calls, tasks⟩ := Bool.and_eq_true_iff.mp quiet
  constructor
  next =>
    intro thread call here
    by_cases known : thread < threads
    next =>
      have nothing := List.all_eq_true.mp calls thread (List.mem_range.mpr known)
      simpa [here] using nothing
    next =>
      have unnamed : world.calls thread = none := run_calls run fun move member same => by
        have bound := List.all_eq_true.mp few move member
        rw [same] at bound
        exact known (of_decide_eq_true bound)
      cases unnamed.symm.trans here
  next =>
    intro slot running here
    have nothing := List.all_eq_true.mp tasks slot (List.mem_finRange slot)
    simpa [VirtualCameraService.running, here] using nothing

def told (values : List (Notice Bool HalListener)) (registered : Bool) (world : ServiceWorld) : Bool :=
  world.quiet 8 && world.service.halListener = some 7 && world.service.received = values &&
    world.service.available = registered

theorem availability_converges_single : ∃ world : ServiceWorld,
    world.Converged ∧ world.service.available = true ∧ world.service.received.getLast? = some ⟨7, true, 1⟩ := by
  have computed : ([ServiceMove.setHalListener 0 (some 7), .proceed 0 true, .registerCamera 1 5 10 [] 4, .proceed 1 true,
      .proceed 1 true, .proceed 1 true, .proceed 1 true].foldlM ordered {}).any
        (told [⟨7, false, 0⟩, ⟨7, true, 1⟩] true) = true := by decide +kernel
  obtain ⟨world, run, reached⟩ := Runs.Run.of_any computed
  simp only [told, Bool.and_eq_true, decide_eq_true_eq] at reached
  exact ⟨world, availability_converges _ world run, reached.2, by rw [reached.1.2]; rfl⟩

theorem unconverged {moves : List ServiceMove} {values : List (Notice Bool HalListener)} {registered : Bool}
    (computed : (moves.foldlM perform {}).any (told values registered) = true)
    (few : moves.all (fun move => (thread move).all (· < 8)) = true)
    (stale : (values.filter (·.listener = 7)).getLast?.map (·.value) ≠ some registered) :
    ∃ world, Runs.Run Step {} moves world ∧ ¬ world.Converged := by
  obtain ⟨world, run, reached⟩ := Runs.Run.of_any computed
  simp only [told, Bool.and_eq_true, decide_eq_true_eq] at reached
  obtain ⟨⟨⟨quiet, current⟩, received⟩, available⟩ := reached
  refine ⟨world, run, fun converged => stale ?_⟩
  have last := converged (delivered_of_quiet run 8 few quiet) 7 current
  rwa [received, ← VirtualCameraService.available, available] at last

-- A registration reads its push before the camera is removed, and delivers it after the push of the removal.
def overtaking : List ServiceMove :=
  [.setHalListener 0 (some 7), .proceed 0 true, .registerCamera 1 5 10 [] 4] ++
    List.replicate 3 (.proceed 1 true) ++
    [.unregisterCamera 2 10 1000] ++ List.replicate 5 (.proceed 2 true) ++ [.proceed 1 true]

theorem push_overtaken : ∃ world, Runs.Run Step {} overtaking world ∧ ¬ world.Converged := by
  have computed : (overtaking.foldlM perform {}).any
      (told [⟨7, false, 0⟩, ⟨7, false, 2⟩, ⟨7, true, 1⟩] false) = true := by
    decide +kernel
  exact unconverged computed (by decide) (by decide)

-- With one slot supported, a registration that finds it closing hides the next one from the listener.
def stranding : List ServiceMove :=
  [.setHalListener 0 (some 7), .proceed 0 true, .registerCamera 1 5 10 [] 1] ++
    List.replicate 4 (.proceed 1 true) ++
    [.unregisterCamera 2 10 1000] ++ List.replicate 5 (.proceed 2 true) ++
    [.registerCamera 3 6 11 [] 1, .proceed 3 true] ++ List.replicate 6 (.lifecycle 0 true) ++
    [.registerCamera 4 5 10 [] 1] ++ List.replicate 2 (.proceed 4 true) ++ List.replicate 3 (.proceed 3 true)

theorem registration_stranded : ∃ world, Runs.Run Step {} stranding world ∧ ¬ world.Converged := by
  have computed : (stranding.foldlM perform {}).any
      (told [⟨7, false, 0⟩, ⟨7, true, 1⟩, ⟨7, false, 2⟩] true) = true := by
    decide +kernel
  exact unconverged computed (by decide) (by decide)

end ServiceWorld

end VirtualCamera
