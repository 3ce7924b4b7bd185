import VirtualCamera.Service.Availability
import VirtualCamera.Shared.Leases

set_option autoImplicit false

namespace VirtualCamera

open Descriptors Leases

def Removal.errand : Removal → Option (Errand CameraId Slot)
  | .finding camera => some (.finding camera)
  | .beginning camera slot => some (.evicting camera slot)
  | .queueing camera slot => some (.ordering camera slot)
  | .dropping camera => some (.dropping camera)
  | .dropped .. | .notifying | .pushing _ | .forgetting _ => none

def ServiceCall.errand : ServiceCall → Option (Errand CameraId Slot)
  | .placing camera _ => some (.placing camera)
  | .removal rest => rest.errand
  | .queueing .. | .admitting _ | .scheduling _ | .dying .. => none

def Running.errand : Running → Option (Errand CameraId Slot)
  | .removing rest => rest.errand
  | _ => none

def Running.removal : Running → Option CameraId
  | .removingProducer camera | .releasingSurface camera | .closingCamera camera | .finishing camera => some camera
  | _ => none

def LifecycleTask.removal : LifecycleTask → Option CameraId
  | .remove camera => some camera
  | _ => none

def Executor.removals (executor : Executor) : List CameraId :=
  (executor.running.bind (·.removal)).toList ++ executor.queue.filterMap (·.removal)

theorem Executor.removals_append (executor : Executor) (task : LifecycleTask) :
    ({ executor with queue := executor.queue ++ [task] } : Executor).removals =
      executor.removals ++ task.removal.toList := by
  unfold Executor.removals
  rw [List.filterMap_append, ← List.append_assoc]
  cases task <;> rfl

namespace VirtualCameraService

variable {K : Type} (service : VirtualCameraService) (errands : K → Option (Errand CameraId Slot))
  (barred : Finset CameraId)

def books : Books CameraId Slot K where
  known camera := camera < service.nextCameraId
  registered := service.cameras
  seat := service.slotByCameraId
  tenant slot := (service.slots slot).owner
  leaving slot := (service.slots slot).closing
  errands := errands
  orders slot := (service.lifecycle slot).removals
  barred := barred

theorem orders_eq (slot : Slot) :
    (service.books errands barred).orders slot =
      ((service.running slot).bind Running.removal).toList ++
        (service.lifecycle slot).queue.filterMap LifecycleTask.removal := rfl

theorem close_books (camera : CameraId) :
    (service.close camera).books errands barred = service.books errands barred := by
  unfold close
  split <;> rfl

theorem lifecycle_books (slot : Slot) (executor : Executor) :
    ({ service with lifecycle := Function.update service.lifecycle slot executor } : VirtualCameraService).books
        errands barred =
      { service.books errands barred with
        orders := Function.update (service.books errands barred).orders slot executor.removals } := by
  have orders := Function.comp_update Executor.removals service.lifecycle slot executor
  exact congrArg (fun orders => { service.books errands barred with orders }) orders

theorem lifecycle_books_same (slot : Slot) {executor : Executor}
    (same : executor.removals = (service.lifecycle slot).removals) :
    ({ service with lifecycle := Function.update service.lifecycle slot executor } : VirtualCameraService).books
      errands barred = service.books errands barred := by
  have kept : Function.update (service.books errands barred).orders slot executor.removals =
      (service.books errands barred).orders := Function.update_eq_self_iff.mpr same
  rw [lifecycle_books, kept]

theorem execute_books (slot : Slot) {task : LifecycleTask} (other : task.removal = none) :
    (service.execute slot task).books errands barred = service.books errands barred := by
  refine service.lifecycle_books_same errands barred slot ?_
  rw [Executor.removals_append, other, Option.toList_none, List.append_nil]

theorem execute_remove_books (slot : Slot) (camera : CameraId) :
    (service.execute slot (.remove camera)).books errands barred = (service.books errands barred).order camera slot := by
  refine (service.lifecycle_books errands barred slot _).trans ?_
  rw [Executor.removals_append]
  rfl

theorem run_books (slot : Slot) {running : Option Running}
    (same : running.bind (·.removal) = (service.running slot).bind (·.removal)) :
    (service.run slot running).books errands barred = service.books errands barred := by
  refine service.lifecycle_books_same errands barred slot ?_
  exact congrArg (fun removal : Option CameraId =>
    removal.toList ++ (service.lifecycle slot).queue.filterMap LifecycleTask.removal) same

theorem setSlot_books (slot : Slot) {state : LifecycleSlot CameraId}
    (owner : state.owner = (service.slots slot).owner)
    (closing : state.closing = (service.slots slot).closing) :
    (service.setSlot slot state).books errands barred = service.books errands barred := by
  have tenants : LifecycleSlot.owner ∘ Function.update service.slots slot state = LifecycleSlot.owner ∘ service.slots := by
    rw [Function.comp_update, owner]
    exact Function.update_eq_self _ _
  have leaving : LifecycleSlot.closing ∘ Function.update service.slots slot state =
      LifecycleSlot.closing ∘ service.slots := by
    rw [Function.comp_update, closing]
    exact Function.update_eq_self _ _
  exact congrArg₂ (fun tenant leaving => { service.books errands barred with tenant, leaving }) tenants leaving

theorem record_books (hal : LifecycleEvent) :
    (service.record hal).2.books errands barred = service.books errands barred := by
  unfold record
  split
  next => rfl
  next owner here =>
    split
    next => rfl
    next =>
      have kept : ∀ slot : LifecycleSlot CameraId,
          (slot.nextConfigurationEvent owner hal.connection hal.configuration hal.closed).2.owner = slot.owner ∧
          (slot.nextConfigurationEvent owner hal.connection hal.configuration hal.closed).2.closing = slot.closing := by
        intro slot
        rw [LifecycleSlot.nextConfigurationEvent_eq]
        split <;> exact ⟨rfl, rfl⟩
      exact service.setSlot_books errands barred hal.slot (kept _).1 (kept _).2

theorem settle_books (camera : CameraId) (slot : Slot) :
    books
        { service with
          cameras := insert camera service.cameras
          slots := Function.update service.slots slot { service.slots slot with owner := some camera }
          slotByCameraId := Function.update service.slotByCameraId camera (some slot) } errands barred =
      (service.books errands barred).settle camera slot := by
  have tenants := Function.comp_update LifecycleSlot.owner service.slots slot
    { service.slots slot with owner := some camera }
  have leaving : LifecycleSlot.closing ∘ Function.update service.slots slot
      { service.slots slot with owner := some camera } = LifecycleSlot.closing ∘ service.slots :=
    (Function.comp_update _ _ _ _).trans (Function.update_eq_self _ _)
  exact congrArg₂ (fun tenant leaving =>
    { (service.books errands barred).register camera with
      seat := Function.update service.slotByCameraId camera (some slot), tenant, leaving }) tenants leaving

-- A removal takes the camera out and closes its slot, unless another removal came first.
theorem beginRemoval_eq (camera : CameraId) (slot : Slot) :
    ((service.books errands barred).Holds camera slot ∧ (service.beginRemoval camera slot).1 = true ∧
        (service.beginRemoval camera slot).2.books errands barred = (service.books errands barred).evict camera slot) ∨
      (¬ (service.books errands barred).Holds camera slot ∧ service.beginRemoval camera slot = (false, service)) := by
  unfold beginRemoval LifecycleSlot.beginClose
  by_cases owns : (service.slots slot).owns camera = true
  next =>
    obtain ⟨owner, opened⟩ := LifecycleSlot.owns_iff.mp owns
    rw [if_pos owns]
    dsimp only
    by_cases member : camera ∈ service.cameras
    next =>
      have tenants : LifecycleSlot.owner ∘ Function.update service.slots slot
          { service.slots slot with
            closing := true
            configurationClosed := true
            event := (service.slots slot).event + 1 } = LifecycleSlot.owner ∘ service.slots :=
        (Function.comp_update _ _ _ _).trans (Function.update_eq_self _ _)
      have leaving := Function.comp_update LifecycleSlot.closing service.slots slot
          { service.slots slot with
            closing := true
            configurationClosed := true
            event := (service.slots slot).event + 1 }
      rw [if_pos ⟨member, rfl⟩]
      refine .inl ⟨⟨member, owner, opened⟩, rfl, ?_⟩
      exact congrArg₂ (fun tenant leaving =>
        { (service.books errands barred).remove camera with
          seat := Function.update service.slotByCameraId camera none, tenant, leaving }) tenants leaving
    next =>
      rw [if_neg fun both => member both.1]
      exact .inr ⟨fun holds => member holds.1, rfl⟩
  next =>
    rw [if_neg owns]
    exact .inr ⟨fun holds => owns (LifecycleSlot.owns_iff.mpr holds.2), if_neg (by simp)⟩

variable {errands barred} [DecidableEq K] {key : K}

theorem books_same {after : VirtualCameraService} {errand : Option (Errand CameraId Slot)}
    (same : after.books errands barred = service.books errands barred) (here : errands key = errand) :
    (service.books errands barred).Moves (after.books (Function.update errands key errand) barred) := by
  rw [← here, Function.update_eq_self]
  exact .inl same

theorem remove_books (answer : Bool) {removal : Removal} (here : errands key = removal.errand) :
    (service.books errands barred).Moves
      ((service.remove answer removal).1.books
        (Function.update errands key ((service.remove answer removal).2.bind (·.errand))) barred) := by
  cases removal with
  | finding camera =>
    simp only [remove]
    split
    next member =>
      split
      next slot seated => exact .inr (.found key camera slot here member seated)
      next standing => exact .inr (.unseated key camera here member standing)
    next absent => exact .inr (.missing key camera here absent)
  | beginning camera slot =>
    have begun := service.beginRemoval_eq (Function.update errands key (some (.ordering camera slot))) barred camera slot
    generalize result : service.beginRemoval camera slot = begins at begun
    obtain ⟨success, after⟩ := begins
    simp only [remove, result]
    rcases begun with ⟨holds, rfl, evicted⟩ | ⟨gone, same⟩
    · exact evicted ▸ .inr (.evict key camera slot here holds)
    · cases same
      exact .inr (.late key camera slot here gone)
  | queueing camera slot =>
    have ordered := service.execute_remove_books (Function.update errands key none) barred slot camera
    exact ordered ▸ .inr (.order key camera slot here)
  | dropping camera =>
    have dropped : (service.books errands barred).Step
        (((service.books errands barred).remove camera).send key none) := .drop key camera here
    simp only [remove]
    split
    next member => exact .inr dropped
    next absent =>
      have same : (service.books errands barred).remove camera = service.books errands barred :=
        Books.remove_absent absent
      rw [same] at dropped
      exact .inr dropped
  | dropped camera becameUnavailable =>
    have closed := service.close_books errands barred camera
    simp only [remove]
    split <;> exact service.books_same closed here
  | notifying =>
    simp only [remove]
    split
    next nobody => exact service.books_same rfl here
    next listener current => exact service.books_same rfl here
  | pushing notice =>
    cases answer <;> exact service.books_same rfl here
  | forgetting listener =>
    simp only [remove, forget]
    split <;> exact service.books_same rfl here

theorem place_books {camera : CameraId} {max : Int} {result : Option Slot × VirtualCameraService}
    (placing : service.Placing camera max result) (here : errands key = some (.placing camera))
    (admitted : camera ∉ barred) :
    (service.books errands barred).Moves
      (result.2.books
        (Function.update errands key (if result.1.isSome = true then none else some (.finding camera))) barred) := by
  cases placing with
  | placed slot free supported =>
    have settled := service.settle_books (Function.update errands key none) barred camera slot
    exact settled ▸ .inr (.seat key camera slot here admitted free)
  | full taken => exact .inr (.stand key camera here admitted)

structure Calm (service after : VirtualCameraService) : Prop where
  natives : after.natives = service.natives
  running : after.running = service.running
  owner : ∀ slot camera, (service.slots slot).owner = some camera → (after.slots slot).owner = some camera

section Calm

variable {service}

theorem Calm.of_same {after : VirtualCameraService} (natives : after.natives = service.natives)
    (running : after.running = service.running) (slots : after.slots = service.slots) : service.Calm after :=
  ⟨natives, running, fun slot camera held => by rwa [slots]⟩

variable (service)

theorem execute_calm (slot : Slot) (task : LifecycleTask) : service.Calm (service.execute slot task) :=
  .of_same rfl (service.execute_running slot task) rfl

theorem setSlot_calm (slot : Slot) {state : LifecycleSlot CameraId}
    (owner : ∀ camera, (service.slots slot).owner = some camera → state.owner = some camera) :
    service.Calm (service.setSlot slot state) where
  natives := rfl
  running := rfl
  owner other camera held := by
    by_cases same : other = slot
    next =>
      subst same
      simpa only [setSlot, Function.update_self] using owner camera held
    next => simpa only [setSlot, Function.update_of_ne same] using held

theorem close_calm (camera : CameraId) : service.Calm (service.close camera) := by
  unfold close
  split <;> exact .of_same rfl rfl rfl

theorem forget_calm (listener : HalListener) : service.Calm (service.forget listener) := by
  unfold forget
  split <;> exact .of_same rfl rfl rfl

theorem place_calm {camera : CameraId} {max : Int} {result : Option Slot × VirtualCameraService}
    (placing : service.Placing camera max result) : service.Calm result.2 := by
  cases placing with
  | full => exact .of_same rfl rfl rfl
  | placed slot free supported =>
    refine ⟨rfl, rfl, fun other holder held => ?_⟩
    have elsewhere : other ≠ slot := by
      rintro rfl
      cases free.symm.trans held
    simpa only [Function.update_of_ne elsewhere] using held

theorem beginRemoval_calm (camera : CameraId) (slot : Slot) : service.Calm (service.beginRemoval camera slot).2 := by
  have kept : ((service.slots slot).beginClose camera).2.owner = (service.slots slot).owner := by
    unfold LifecycleSlot.beginClose
    split <;> rfl
  have set := service.setSlot_calm slot fun holder held => kept.trans held
  unfold beginRemoval
  dsimp only
  split
  next => exact ⟨set.natives, set.running, set.owner⟩
  next => exact .of_same rfl rfl rfl

theorem record_calm (hal : LifecycleEvent) : service.Calm (service.record hal).2 := by
  unfold record
  split
  next => exact .of_same rfl rfl rfl
  next owner here =>
    split
    next => exact .of_same rfl rfl rfl
    next =>
      refine service.setSlot_calm hal.slot fun camera held => ?_
      rw [LifecycleSlot.nextConfigurationEvent_eq]
      split <;> exact held

theorem Removing.calm {service after : VirtualCameraService} (step : service.Removing after) : service.Calm after := by
  cases step with
  | begun camera slot => exact service.beginRemoval_calm camera slot
  | queued camera slot => exact service.execute_calm slot _
  | closed camera => exact service.close_calm camera
  | noted => exact .of_same rfl rfl rfl

theorem remove_calm (answer : Bool) (removal : Removal) : service.Calm (service.remove answer removal).1 :=
  (service.remove_removing answer removal).calm

end Calm

section Turns

variable {service} {slot : Slot} {after : VirtualCameraService}

theorem run_same {running : Option Running} (same : after.books errands barred = service.books errands barred)
    (orders : running.bind (·.removal) = (after.running slot).bind (·.removal))
    (here : errands key = running.bind (·.errand)) :
    (service.books errands barred).Moves
      ((after.run slot running).books (Function.update errands key (running.bind (·.errand))) barred) :=
  service.books_same ((after.run_books errands barred slot orders).trans same) here

theorem finish_books {camera : CameraId} (sound : (service.books errands barred).Sound)
    (busy : service.running slot = some (.finishing camera)) :
    (service.books errands barred).Step
      (((service.setSlot slot ((service.slots slot).finishClose camera).2).run slot none).books errands barred) := by
  have orders : (service.books errands barred).orders slot =
      camera :: (service.lifecycle slot).queue.filterMap LifecycleTask.removal := by
    rw [orders_eq, busy]
    rfl
  obtain ⟨owner, closing⟩ := sound.ordered slot camera (by simp [orders])
  have owned : (service.slots slot).owner = some camera := owner
  have leaves : (service.slots slot).closing = true := closing
  have finished : (service.slots slot).finishClose camera =
      (true, { service.slots slot with owner := none, closing := false }) := by
    simp [LifecycleSlot.finishClose, owned, leaves]
  have vacated := Books.Step.vacate slot camera _ orders
  have tenants := Function.comp_update LifecycleSlot.owner service.slots slot
    { service.slots slot with owner := none, closing := false }
  have leaving := Function.comp_update LifecycleSlot.closing service.slots slot
    { service.slots slot with owner := none, closing := false }
  have same : ((service.setSlot slot ((service.slots slot).finishClose camera).2).run slot none).books errands barred =
      (service.books errands barred).vacate slot
        ((service.lifecycle slot).queue.filterMap LifecycleTask.removal) := by
    rw [finished]
    refine ((service.setSlot slot _).lifecycle_books errands barred slot _).trans ?_
    exact congrArg₂ (fun tenant leaving =>
      { service.books errands barred with
        tenant
        leaving
        orders := Function.update (service.books errands barred).orders slot
          ((service.lifecycle slot).queue.filterMap LifecycleTask.removal) }) tenants leaving
  exact same ▸ vacated

theorem advance_books (answer : Bool) {running : Running} (sound : (service.books errands barred).Sound)
    (busy : service.running slot = some running) (here : errands key = running.errand) :
    (service.books errands barred).Moves
      (((service.advance slot answer running).1.run slot (service.advance slot answer running).2).books
        (Function.update errands key ((service.advance slot answer running).2.bind (·.errand))) barred) := by
  have orders (next : Option Running) (same : next.bind (·.removal) = running.removal) :
      next.bind (·.removal) = (service.running slot).bind (·.removal) := by
    rw [busy, same, Option.bind_some]
  cases running with
  | registering camera => cases answer <;> exact run_same rfl (orders _ rfl) here
  | askingHal camera =>
    cases answer
    next => exact run_same rfl (orders _ rfl) here
    next =>
      have looked := service.run_books (Function.update errands key (some (.finding camera))) barred slot
        (orders (some (.removing (.finding camera))) rfl)
      exact looked ▸ .inr (.look key camera here)
  | removing removal =>
    have moved : (service.books errands barred).Moves _ := service.remove_books answer here
    have quiet := congrFun (service.remove_running answer removal) slot
    generalize result : service.remove answer removal = removed at moved quiet
    obtain ⟨after, next⟩ := removed
    have kept : (next.map Running.removing).bind (·.removal) = (after.running slot).bind (·.removal) := by
      rw [quiet, busy]
      cases next <;> rfl
    have ran := after.run_books (Function.update errands key (next.bind (·.errand))) barred slot kept
    have errand : (next.map Running.removing).bind (·.errand) = next.bind (·.errand) := by
      cases next <;> rfl
    simp only [advance, result, Prod.map, id, errand, ran]
    exact moved
  | creating event => cases answer <;> exact run_same rfl (orders _ rfl) here
  | surfaced event =>
    simp only [advance]
    split <;> exact run_same rfl (orders _ rfl) here
  | checking event => cases answer <;> exact run_same rfl (orders _ rfl) here
  | closingCamera camera =>
    have kept := congrFun (service.advance_running slot answer (.closingCamera camera)) slot
    exact run_same (service.close_books errands barred camera) (kept ▸ orders _ rfl) here
  | finishing camera =>
    have same : Function.update errands key none = errands := Function.update_eq_self_iff.mpr here.symm
    change (service.books errands barred).Moves (books _ (Function.update errands key none) barred)
    rw [same]
    exact .inr (finish_books sound busy)
  | recovering | connecting | configuring | opening | handing | starting | stopping | closing | closed | releasing
  | removingProducer | releasingSurface => exact run_same rfl (orders _ rfl) here

theorem turn_cases {answer : Bool} (next : service.turn slot answer = some after) :
    (∃ running, service.running slot = some running ∧
      after = (service.advance slot answer running).1.run slot (service.advance slot answer running).2) ∨
    ∃ task queue, service.running slot = none ∧ (service.lifecycle slot).queue = task :: queue ∧
      after =
        { service.starting slot (service.start slot task) with
          lifecycle := Function.update (service.starting slot (service.start slot task)).lifecycle slot
            { queue, running := service.start slot task } } := by
  unfold turn at next
  cases busy : (service.lifecycle slot).running with
  | some running =>
    rw [busy] at next
    exact .inl ⟨running, busy, (Option.some.inj next).symm⟩
  | none =>
    cases waiting : (service.lifecycle slot).queue with
    | nil =>
      rw [busy, waiting] at next
      cases next
    | cons task queue =>
      rw [busy, waiting] at next
      exact .inr ⟨task, queue, busy, rfl, (Option.some.inj next).symm⟩

theorem turn_running {answer : Bool} (next : service.turn slot answer = some after) :
    after.running = Function.update service.running slot (after.running slot) := by
  rcases turn_cases next with ⟨running, busy, rfl⟩ | ⟨task, queue, idle, waiting, rfl⟩
  · rw [run_running, advance_running, Function.update_self]
  · rw [take_running, Function.update_self]

theorem start_removal (slot : Slot) (task : LifecycleTask) :
    (service.start slot task).bind (·.removal) = task.removal ∧ (service.start slot task).bind (·.errand) = none := by
  cases task <;> simp only [start]
  case register | recover | configure | close => split <;> exact ⟨rfl, rfl⟩
  all_goals exact ⟨rfl, rfl⟩

theorem turn_books (answer : Bool) (sound : (service.books errands barred).Sound)
    (here : errands key = (service.running slot).bind (·.errand))
    (next : service.turn slot answer = some after) :
    (service.books errands barred).Moves
      (after.books (Function.update errands key ((after.running slot).bind (·.errand))) barred) := by
  rcases turn_cases next with ⟨running, busy, rfl⟩ | ⟨task, queue, idle, waiting, rfl⟩
  · rw [busy] at here
    have running : ((service.advance slot answer running).1.run slot (service.advance slot answer running).2).running slot =
        (service.advance slot answer running).2 := by
      rw [run_running, Function.update_self]
    rw [running]
    exact advance_books answer sound busy here
  · obtain ⟨removal, errand⟩ := service.start_removal slot task
    rw [idle] at here
    have orders : ({ queue, running := service.start slot task } : Executor).removals =
        (service.lifecycle slot).removals := by
      have before : (service.lifecycle slot).running = none := idle
      rw [Executor.removals, Executor.removals, before, waiting, removal]
      cases task <;> rfl
    have quiet : (service.starting slot (service.start slot task)).books errands barred =
        service.books errands barred := by
      unfold starting
      split <;> rfl
    have unmoved := service.starting_lifecycle slot (service.start slot task)
    have taken := (service.starting slot (service.start slot task)).lifecycle_books_same errands barred slot
        (orders.trans (by rw [unmoved]))
    rw [take_running, Function.update_self, errand]
    exact service.books_same (taken.trans quiet) here

end Turns

end VirtualCameraService

namespace ServiceWorld

open VirtualCameraService

def errands (world : ServiceWorld) : Nat ⊕ Slot → Option (Errand CameraId Slot) :=
  Sum.elim (fun thread => (world.calls thread).bind (·.errand)) fun slot =>
    (world.service.running slot).bind (·.errand)

def books (world : ServiceWorld) : Books CameraId Slot (Nat ⊕ Slot) := world.service.books world.errands world.dead

variable {world after : ServiceWorld} {move : ServiceMove}

theorem call_errands (world : ServiceWorld) (thread : Nat) (next : Option ServiceCall) :
    (world.call thread next).errands = Function.update world.errands (.inl thread) (next.bind (·.errand)) := by
  unfold errands call
  rw [Sum.update_elim_inl]
  congr 1
  exact Function.comp_update (fun call : Option ServiceCall => call.bind (·.errand)) _ _ _

theorem books_call (world : ServiceWorld) (thread : Nat) (next : Option ServiceCall) :
    (world.call thread next).books =
      world.service.books (Function.update world.errands (.inl thread) (next.bind (·.errand))) world.dead := by
  rw [books, call_errands]
  rfl

theorem call_books (world : ServiceWorld) (thread : Nat) (next : Option ServiceCall) {service : VirtualCameraService}
    (running : service.running = world.service.running) :
    (({ world with service } : ServiceWorld).call thread next).books =
      service.books (Function.update world.errands (.inl thread) (next.bind (·.errand))) world.dead := by
  have same : ({ world with service } : ServiceWorld).errands = world.errands := by simp only [errands, running]
  rw [books_call, same]

theorem service_books (world : ServiceWorld) {service : VirtualCameraService}
    (running : service.running = world.service.running) :
    ({ world with service } : ServiceWorld).books = service.books world.errands world.dead := by
  simp only [books, errands, running]

theorem turn_books_eq (world : ServiceWorld) {service : VirtualCameraService} {slot : Slot} {next : Option Running}
    (running : service.running = Function.update world.service.running slot next) :
    ({ world with service } : ServiceWorld).books =
      service.books (Function.update world.errands (.inr slot) (next.bind (·.errand))) world.dead := by
  have same : ({ world with service } : ServiceWorld).errands =
      Function.update world.errands (.inr slot) (next.bind (·.errand)) := by
    unfold errands
    rw [Sum.update_elim_inr, running]
    congr 1
    exact Function.comp_update (fun running : Option Running => running.bind (·.errand)) _ _ _
  rw [books, same]

theorem errands_call {thread : Nat} {call : ServiceCall} (here : world.calls thread = some call) :
    world.errands (.inl thread) = call.errand := by
  simp [errands, here]

theorem proceed_books {thread : Nat} {answer : Bool} {call : ServiceCall} (here : world.calls thread = some call) :
    world.books.Moves (world.proceed thread answer call).books := by
  have errand := errands_call here
  cases call with
  | placing camera max =>
    have placing := world.service.place_placing camera max
    simp only [proceed, ServiceWorld.placed]
    split
    next => exact call_books world thread none rfl ▸ .inr (.refuse (Sum.inl thread) camera errand)
    next alive =>
      have admitted : camera ∉ world.books.barred := fun member => alive (.inl member)
      have moved : world.books.Moves _ := world.service.place_books placing errand admitted
      have running := placing.running
      generalize world.service.place camera max = result at moved running
      obtain ⟨_ | slot, service⟩ := result
      next => exact call_books world thread _ running ▸ moved
      next => exact call_books world thread _ running ▸ moved
  | queueing camera slot becameAvailable =>
    have running := world.service.execute_running slot (.register camera)
    simp only [proceed]
    rw [call_books world thread _ running]
    refine world.service.books_same (world.service.execute_books _ _ slot rfl) ?_
    rw [errand]
    cases becameAvailable <;> rfl
  | removal removal =>
    have running := world.service.remove_running answer removal
    simp only [proceed]
    rw [call_books world thread _ running, Option.bind_map]
    exact world.service.remove_books answer errand
  | admitting hal =>
    simp only [proceed]
    cases answer with
    | false => exact call_books world thread none rfl ▸ world.service.books_same rfl errand
    | true =>
      have same := world.service.record_books world.errands world.dead hal
      have running := world.service.record_running hal
      generalize world.service.record hal = result at same running
      simp only [if_true]
      rw [call_books world thread _ running]
      refine world.service.books_same same ?_
      rw [errand]
      cases result.1 <;> rfl
  | scheduling event =>
    simp only [proceed]
    rw [call_books world thread _ (world.service.execute_running _ _)]
    refine world.service.books_same (world.service.execute_books _ _ _ ?_) errand
    split <;> rfl
  | dying connection slots =>
    cases slots with
    | nil =>
      have recovered : world.service.recoverHal.running = world.service.running := rfl
      simp only [proceed]
      rw [call_books world thread none recovered]
      exact world.service.books_same rfl errand
    | cons slot slots =>
      simp only [proceed]
      rw [call_books world thread _ (world.service.execute_running _ _)]
      exact world.service.books_same (world.service.execute_books _ _ slot rfl) errand

theorem idle_free {thread : Nat} {begun : ServiceWorld} (next : world.idle thread begun = some after) :
    world.errands (.inl thread) = none ∧ after = begun := by
  unfold idle at next
  split at next <;> cases next
  next free =>
    have none : world.calls thread = none := by simpa using free
    exact ⟨by simp [errands, none], rfl⟩

theorem turn_moved {slot : Slot} {answer : Bool} {service : VirtualCameraService} (sound : world.books.Sound)
    (turned : world.service.turn slot answer = some service) :
    world.books.Moves ({ world with service } : ServiceWorld).books := by
  have moved : world.books.Moves _ := VirtualCameraService.turn_books answer sound (show world.errands (.inr slot) = _ from rfl) turned
  exact turn_books_eq world (VirtualCameraService.turn_running turned) ▸ moved

theorem step_books (sound : world.books.Sound) (next : world.Step move after) : world.books.Moves after.books := by
  cases move with
  | registerCamera thread callback uid descriptor maxCameras =>
    obtain ⟨free, rfl⟩ := idle_free next
    have fresh : ¬ world.books.known world.service.nextCameraId := lt_irrefl _
    have knows (other : CameraId) :
        other < world.service.nextCameraId + 1 ↔ other = world.service.nextCameraId ∨ world.books.known other :=
      Int.lt_add_one_iff.trans le_iff_eq_or_lt
    unfold registerCamera
    dsimp only
    split
    next => exact .inr (.meet _ _ fresh knows)
    next => exact books_call _ thread _ ▸ .inr (.arrive (Sum.inl thread) _ _ free fresh knows)
  | unregisterCamera thread uid camera =>
    obtain ⟨free, rfl⟩ := idle_free next
    unfold unregisterCamera
    split
    next => exact .inl rfl
    next => exact call_books world thread _ rfl ▸ .inr (.look (Sum.inl thread) camera free)
  | setHalListener thread listener =>
    obtain ⟨free, rfl⟩ := idle_free next
    cases listener with
    | none => exact .inl rfl
    | some listener =>
      have quiet : VirtualCameraService.running
          { world.service with halListener := some listener, reads :=
            world.service.reads + 1 } = world.service.running :=
        rfl
      exact call_books world thread _ quiet ▸ world.service.books_same rfl free
  | halEvent thread hal =>
    obtain ⟨free, rfl⟩ := idle_free next
    exact call_books world thread _ rfl ▸ world.service.books_same rfl free
  | onHalDied thread connection =>
    obtain ⟨free, rfl⟩ := idle_free next
    exact call_books world thread _ rfl ▸ world.service.books_same rfl free
  | die binder =>
    cases next
    exact .inl rfl
  | binderDied thread camera =>
    obtain ⟨_, begun⟩ := Option.ite_none_right_eq_some.mp next
    obtain ⟨free, rfl⟩ := idle_free begun
    exact books_call _ thread _ ▸ .inr (.bar (Sum.inl thread) camera free)
  | listenerDied listener =>
    cases next
    have running : (world.service.forget listener).running = world.service.running := by
      unfold VirtualCameraService.forget
      split <;> rfl
    have same : (world.service.forget listener).books world.errands world.dead = world.books := by
      unfold VirtualCameraService.forget
      split <;> rfl
    exact .inl ((service_books world running).trans same)
  | proceed thread answer =>
    obtain ⟨call, here, rfl⟩ := Option.map_eq_some_iff.mp next
    exact proceed_books here
  | lifecycle slot answer =>
    obtain ⟨service, turned, rfl⟩ := Option.map_eq_some_iff.mp next
    exact turn_moved sound turned
  | recover place halUp =>
    simp only [Step, perform, recover] at next
    split at next
    next => cases next
    next =>
      obtain ⟨⟨round, attempt⟩, _, rfl⟩ := Option.map_eq_some_iff.mp next
      dsimp only
      split
      next => exact .inl rfl
      next =>
        split <;> exact .inl rfl
  | walk =>
    obtain ⟨⟨round, slots⟩, _, rfl⟩ := Option.map_eq_some_iff.mp next
    cases slots with
    | nil => exact .inl rfl
    | cons slot rest =>
      dsimp only
      split
      next owner _ =>
        have running := world.service.execute_running slot (.recover owner round)
        have other : (LifecycleTask.recover owner round).removal = none := rfl
        have same := world.service.execute_books world.errands world.dead slot other
        exact .inl ((service_books world running).trans same)
      next => exact .inl rfl

theorem boot_books : ({} : ServiceWorld).books = Books.fresh (· < 1000) := by
  have nothing : ({} : ServiceWorld).errands = fun _ => none := by
    funext key
    cases key <;> rfl
  rw [books, nothing]
  rfl

theorem run_sound {moves : List ServiceMove} (run : Runs.Run Step {} moves world) : world.books.Sound := by
  refine run.invariant (fun _ world => world.books.Sound) (boot_books ▸ Books.fresh_sound _) ?_
  intro _ _ _ _ _ sound next
  exact sound.moves (step_books sound next)

theorem proceed_calm (thread : Nat) (answer : Bool) (call : ServiceCall) :
    world.service.Calm (world.proceed thread answer call).service := by
  cases call with
  | placing camera max =>
    have calm := world.service.place_calm (world.service.place_placing camera max)
    simp only [proceed, ServiceWorld.placed]
    generalize world.service.place camera max = result at calm
    obtain ⟨_ | slot, service⟩ := result
    next =>
      split
      next => exact .of_same rfl rfl rfl
      next => exact calm
    next =>
      split
      next => exact .of_same rfl rfl rfl
      next => exact calm
  | queueing camera slot becameAvailable => exact world.service.execute_calm slot _
  | removal removal => exact world.service.remove_calm answer removal
  | admitting hal =>
    cases answer with
    | false => exact .of_same rfl rfl rfl
    | true => exact world.service.record_calm hal
  | scheduling event => exact world.service.execute_calm _ _
  | dying connection slots =>
    cases slots with
    | nil => exact .of_same rfl rfl rfl
    | cons slot slots => exact world.service.execute_calm slot _

theorem step_calm (next : world.Step move after) (outside : ∀ slot answer, move ≠ .lifecycle slot answer) :
    world.service.Calm after.service := by
  cases move with
  | registerCamera thread callback uid descriptor maxCameras =>
    obtain ⟨_, rfl⟩ := idle_free next
    unfold registerCamera
    dsimp only
    split <;> exact .of_same rfl rfl rfl
  | unregisterCamera thread uid camera =>
    obtain ⟨_, rfl⟩ := idle_free next
    unfold unregisterCamera
    split <;> exact .of_same rfl rfl rfl
  | setHalListener thread listener =>
    obtain ⟨_, rfl⟩ := idle_free next
    cases listener <;> exact .of_same rfl rfl rfl
  | halEvent thread hal | onHalDied thread connection =>
    obtain ⟨_, rfl⟩ := idle_free next
    exact .of_same rfl rfl rfl
  | die binder =>
    cases next
    exact .of_same rfl rfl rfl
  | binderDied thread camera =>
    obtain ⟨_, begun⟩ := Option.ite_none_right_eq_some.mp next
    obtain ⟨_, rfl⟩ := idle_free begun
    exact .of_same rfl rfl rfl
  | listenerDied listener =>
    cases next
    exact world.service.forget_calm listener
  | proceed thread answer =>
    obtain ⟨call, _, rfl⟩ := Option.map_eq_some_iff.mp next
    exact proceed_calm thread answer call
  | lifecycle slot answer => exact absurd rfl (outside slot answer)
  | recover place halUp =>
    simp only [Step, perform, recover] at next
    split at next
    next => cases next
    next =>
      obtain ⟨⟨round, attempt⟩, _, rfl⟩ := Option.map_eq_some_iff.mp next
      dsimp only
      split
      next => exact .of_same rfl rfl rfl
      next =>
        split <;> exact .of_same rfl rfl rfl
  | walk =>
    obtain ⟨⟨round, slots⟩, _, rfl⟩ := Option.map_eq_some_iff.mp next
    cases slots with
    | nil => exact .of_same rfl rfl rfl
    | cons slot rest =>
      dsimp only
      split
      next owner _ => exact world.service.execute_calm slot _
      next => exact .of_same rfl rfl rfl

end ServiceWorld

end VirtualCamera
