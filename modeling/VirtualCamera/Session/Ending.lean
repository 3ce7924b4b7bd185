import VirtualCamera.Session.Closing
import VirtualCamera.Session.LocalSteps

set_option autoImplicit false

namespace VirtualCamera

open Interaction Interleaving Runs StableHal

def Detached (hal : StableHal) (ledger : Ledger) : Prop :=
  ∀ slot, (hal.slots slot).configuration ∉ ledger.tokens

section Detached

variable {hal after : StableHal} {ledgers : Nat → Option Ledger} {id : Nat} {ledger : Ledger}

theorem Detached.of_control (detached : Detached hal ledger) (control : after.control = hal.control) :
    Detached after ledger := by
  have slots : after.slots = hal.slots := congrArg Control.slots control
  rwa [Detached, slots]

theorem Detached.of_tokens {other : Ledger} (detached : Detached hal ledger) (same : other.tokens = ledger.tokens) :
    Detached hal other := by
  rwa [Detached, same]

theorem Detached.move (detached : Detached hal ledger) (authority : Authority hal ledgers)
    (found : ledgers id = some ledger) (op : ControlOp) (room : (op.run hal).nextIdentity < int64Max) :
    Detached (op.run hal) ledger := by
  intro slot held
  have bounds := authority.tokens id ledger found _ held
  cases op.owns hal slot room with
  | kept owner closed configuration capabilities =>
    rcases configuration with same | none
    · rw [same] at held
      exact detached slot held
    · omega
  | closed owner closed configuration capabilities => omega
  | retired retired => rw [retired.configuration] at bounds; omega
  | configured owner width height fps chosen positive permitted reply owned opened configuration capabilities next =>
    omega

theorem notifyCameraClosed_detaches (authority : Authority hal ledgers) (found : ledgers id = some ledger)
    {token : Int} (known : token = ledger.tokens.headD 0 ∨ ledger.refused = true) (index : Slot)
    (here : ledger.slot = (index : Nat)) :
    Detached (hal.notifyCameraClosed (index : Nat) ledger.identity token).2 ledger := by
  intro slot held
  have positive := (authority.tokens id ledger found _ held).1
  have kept : ((hal.notifyCameraClosed (index : Nat) ledger.identity token).2.slots slot).configuration =
      (hal.slots slot).configuration := by
    have moved : OwnerMove hal _ slot _ := notifyCameraClosed_owns (index : Nat) ledger.identity token slot
    cases moved with
    | kept owner closed configuration capabilities => exact configuration.resolve_right positive.ne'
    | closed owner closed configuration capabilities => omega
    | retired retired => rw [retired.configuration] at positive; omega
    | configured owner width height fps chosen => cases chosen
  rw [kept] at held positive
  obtain ⟨opened, owned, other, ledger', there, named, owner, head⟩ := authority.current slot positive.ne'
  obtain rfl := authority.apart id other ledger ledger' found there _ held (List.mem_of_mem_head? head)
  obtain rfl : ledger = ledger' := Option.some.inj (found.symm.trans there)
  obtain rfl : slot = index := Fin.ext (by omega)
  rcases known with last | refused
  · have same : token = (hal.slots slot).configuration := by
      rw [last, List.headD_eq_head?_getD, head, Option.getD_some]
    have matched : ¬ (ledger.identity ≤ 0 ∨ token ≤ 0 ∨ (hal.slots slot).sessionOwner ≠ ledger.identity ∨
        (hal.slots slot).configuration ≠ token) := by omega
    have closed : ((hal.notifyCameraClosed (slot : Nat) ledger.identity token).2.slots slot).configuration = 0 := by
      simp only [notifyCameraClosed, validSlot_coe, if_neg matched]
      rw [dropLatestLocked_slots, setControl_self]
    omega
  · rcases authority.refused id ledger found refused slot named with absent | older | ⟨_, closed⟩
    · omega
    · omega
    · simp [closed] at opened

end Detached

namespace SessionSystem

def closing (activity : SessionActivity) : Closing := Closing.monitor.follow {} activity.current

def Told (activity : SessionActivity) : Prop := (⟨.storeClosed, ()⟩ : Event Environment) ∈ activity.trace

-- A close that finds the session closed overtakes the one that closed it.
inductive Overtakes (world : SessionWorld) : SessionLabel → Prop where
  | locked (id index : Nat) (activity : SessionActivity) (found : world.objects id = some activity)
      (waits : activity.entering[index]? = some (.close, .ret true)) (untold : ¬ Told activity) :
      Overtakes world (.lock id index)
  | inner (id : Nat) (choice : (call : Call) → call.Reply) (activity : SessionActivity) (op : Option FrameworkCall)
      (next : Bool → Program Environment (FrameworkReply × VirtualCameraSession))
      (found : world.objects id = some activity) (serves : activity.serving = some (op, .call .exchangeClosed next))
      (closed : (world.shared.flags id).closed = true) (untold : ¬ Told activity) :
      Overtakes world (.call id choice)

structure Ending (hal : StableHal) (flags : Flags) (activity : SessionActivity) : Prop where
  closed : (Told activity ∨ ∃ reply, (⟨.exchangeClosed, reply⟩ : Event Environment) ∈ activity.trace) →
    flags.closed = true
  entering : ∀ program, (.close, program) ∈ activity.entering → program = request .close ∨ flags.closed = true
  closes : ∀ program, activity.serving = some (some .close, program) →
    flags.closed = true ∧ (Told activity ∨ ∃ own, (serve .close false own).Reaches activity.current program)
  again : (⟨.exchangeClosed, true⟩ : Event Environment) ∈ activity.trace → Told activity
  present : ∀ op program, activity.serving = some (op, program) → (closing activity).absent = false
  shut : Told activity → ∀ op program, activity.serving = some (op, program) → (closing activity).shut = true
  told : ∀ op program, activity.serving = some (op, program) → (closing activity).told = true →
    Detached hal (ledger activity)
  detached : Told activity → Detached hal (ledger activity)

variable {world after : SessionWorld} {label : SessionLabel} {id : Nat} {activity : SessionActivity}

theorem closing_snoc (bounded : activity.start ≤ activity.trace.length) (event : Event Environment)
    (serving : Option (Option FrameworkCall × Program Environment (FrameworkReply × VirtualCameraSession))) :
    closing { activity with serving, trace := activity.trace ++ [event] } = (closing activity).observe event := by
  rw [closing, Activity.current_snoc _ _ _ bounded, Monitor.follow_append]
  rfl

theorem Regular.closing_permits (regular : Regular world) (found : world.objects id = some activity)
    {op : Option FrameworkCall} {call : Call}
    {next : call.Reply → Program Environment (FrameworkReply × VirtualCameraSession)}
    (serves : activity.serving = some (op, .call call next)) (reply : call.Reply) :
    (closing activity).permits ⟨call, reply⟩ := by
  have reached := regular.reached id activity found
  cases op with
  | none =>
    have created : create.wp Closing.monitor (sessions.initial activity.birth) {} fun _ _ _ => True :=
      Closing.create_ends _
    exact ((created.reaches (reached.creating _ serves)).2 reply).1
  | some op =>
    obtain ⟨ticket, own, reaches⟩ := reached.serving op _ serves
    have served := Closing.serve_closes op ticket own
    exact ((served.reaches reaches).2 reply).1

theorem detached_step (regular : Regular world) (authority : Authority world.shared.hal (ledgers world))
    (next : sessions.Step world label after) (room : after.shared.hal.nextIdentity < int64Max)
    (found : world.objects id = some activity) (detached : Detached world.shared.hal (ledger activity)) :
    Detached after.shared.hal (ledger activity) := by
  have known : ledgers world id = some (ledger activity) := by simp [ledgers, found]
  rcases (regular.halStep next).control with ⟨op, runs, _⟩ | control
  · rw [runs] at room ⊢
    exact detached.move authority known op room
  · exact detached.of_control control

theorem told_snoc (event : Event Environment)
    (serving : Option (Option FrameworkCall × Program Environment (FrameworkReply × VirtualCameraSession))) :
    Told { activity with serving, trace := activity.trace ++ [event] } ↔ Told activity ∨ event = ⟨.storeClosed, ()⟩ := by
  simp only [Told, List.mem_append, List.mem_singleton]
  exact or_congr Iff.rfl eq_comm

theorem ledger_tokens (event : Event Environment)
    (serving : Option (Option FrameworkCall × Program Environment (FrameworkReply × VirtualCameraSession)))
    (other : ∀ slot owner width height fps, event.1 ≠ .hal (.notifyStreamsConfigured slot owner width height fps)) :
    (ledger { activity with serving, trace := activity.trace ++ [event] }).tokens = (ledger activity).tokens := by
  rw [ledger, Activity.view_snoc]
  refine ((ledger activity).observe_tokens event).resolve_right ?_
  rintro ⟨slot, owner, width, height, fps, same⟩
  exact other slot owner width height fps same

theorem Ending.called {choice : (call : Call) → call.Reply} {op : Option FrameworkCall} {call : Call}
    {program : call.Reply → Program Environment (FrameworkReply × VirtualCameraSession)}
    (ending : Ending world.shared.hal (world.shared.flags id) activity) (regular : Regular world)
    (authority : Authority world.shared.hal (ledgers world)) (next : sessions.Step world (.call id choice) after)
    (room : after.shared.hal.nextIdentity < int64Max) (orderly : ¬ Overtakes world (.call id choice))
    (found : world.objects id = some activity) (serves : activity.serving = some (op, .call call program))
    (shared : after.shared = (respond id world.shared choice call).2) :
    Ending after.shared.hal (after.shared.flags id)
      { activity with
        serving := some (op, program (respond id world.shared choice call).1)
        trace := activity.trace ++ [⟨call, (respond id world.shared choice call).1⟩] } := by
  have bounded := (regular.reached id activity found).bounded
  have permitted := regular.closing_permits found serves (respond id world.shared choice call).1
  have kept := detached_step regular authority next room found
  have flags : after.shared.flags id = (world.shared.flags id).after call := by rw [shared, respond_own_flags]
  rw [flags]
  refine ⟨?_, ?_, ?_, ?_, ?_, ?_, ?_, ?_⟩
  · rintro (told | ⟨reply, exchanged⟩)
    · rcases (told_snoc _ _).mp told with told | stored
      · exact Flags.after_closed _ _ (ending.closed (.inl told))
      · cases stored
        rfl
    · rcases List.mem_append.mp exchanged with exchanged | exchanged
      · exact Flags.after_closed _ _ (ending.closed (.inr ⟨reply, exchanged⟩))
      · cases List.mem_singleton.mp exchanged
        rfl
  · exact fun program waits => (ending.entering program waits).imp_right (Flags.after_closed _ _)
  · intro later serves'
    cases serves'
    obtain ⟨closed, told | ⟨own, reaches⟩⟩ := ending.closes _ serves
    · exact ⟨Flags.after_closed _ _ closed, .inl ((told_snoc _ _).mpr (.inl told))⟩
    · refine ⟨Flags.after_closed _ _ closed, .inr ⟨own, ?_⟩⟩
      rw [Activity.current_snoc _ _ _ bounded]
      exact reaches.snoc _
  · intro exchanged
    refine (told_snoc _ _).mpr (.inl ?_)
    rcases List.mem_append.mp exchanged with exchanged | exchanged
    · exact ending.again exchanged
    · by_contra untold
      have same := List.mem_singleton.mp exchanged
      obtain rfl : call = .exchangeClosed := (congrArg Sigma.fst same).symm
      have closed : (world.shared.flags id).closed = true := (eq_of_heq (Sigma.mk.inj same).2).symm
      exact orderly (.inner id choice activity op program found serves closed untold)
  · intro op' program' serves'
    have absent := ending.present op _ serves
    rw [closing_snoc bounded]
    cases call with
    | stableHal => exact (Bool.or_false _).trans absent
    | hal call => cases call <;> exact absent
    | _ => exact absent
  · intro told op' program' serves'
    rw [closing_snoc bounded]
    rcases (told_snoc _ _).mp told with told | stored
    · have shut := ending.shut told op _ serves
      have closed := ending.closed (.inl told)
      cases call with
      | loadClosed =>
        change ((closing activity).shut && (world.shared.flags id).closed) = true
        rw [shut, closed]
        rfl
      | exchangeClosed => rfl
      | hal call => cases call <;> exact shut
      | _ => exact shut
    · cases stored
      exact permitted.1
  · intro op' program' serves' told
    rw [closing_snoc bounded] at told
    have unmoved : (closing activity).told = true →
        (∀ slot owner width height fps, call ≠ .hal (.notifyStreamsConfigured slot owner width height fps)) →
        Detached after.shared.hal (ledger { activity with
          serving := some (op, program (respond id world.shared choice call).1)
          trace := activity.trace ++ [⟨call, (respond id world.shared choice call).1⟩] }) := fun known other =>
      (kept (ending.told op _ serves known)).of_tokens (ledger_tokens _ _ other)
    cases call with
    | hal asked =>
      cases asked with
      | notifyStreamsConfigured slot owner width height fps => cases told
      | notifyCameraClosed slot owner token =>
        obtain ⟨rfl, rfl, known⟩ := ((regular.follows id activity found).busy op _ serves ()).1
        have named := ledger_slot activity
        have there : ledgers world id = some (ledger activity) := by simp [ledgers, found]
        have hal : after.shared.hal =
            (world.shared.hal.notifyCameraClosed (ledger activity).slot (ledger activity).identity token).2 := by
          rw [shared]
          rfl
        rw [hal, named]
        refine (notifyCameraClosed_detaches authority there known activity.birth.slot named).of_tokens ?_
        exact ledger_tokens _ _ fun _ _ _ _ _ same => by cases same
      | _ => exact unmoved told (by simp)
    | _ => exact unmoved told (by simp)
  · intro told
    have other : ∀ slot owner width height fps,
        call ≠ .hal (.notifyStreamsConfigured slot owner width height fps) := by
      rintro slot owner width height fps rfl
      rcases (told_snoc _ _).mp told with told | stored
      · exact Bool.noConfusion (permitted.symm.trans (ending.shut told op _ serves))
      · cases stored
    refine Detached.of_tokens ?_ (ledger_tokens _ _ other)
    rcases (told_snoc _ _).mp told with told | stored
    · exact kept (ending.detached told)
    · cases stored
      rcases permitted.2 with told | absent
      · exact kept (ending.told op _ serves told)
      · exact Bool.noConfusion ((ending.present op _ serves).symm.trans absent)

theorem Ending.kept {hal hal' : StableHal} {flags flags' : Flags}
    (ending : Ending hal flags activity) (entering : List (FrameworkCall × Program Environment Bool))
    (detached : Detached hal (ledger activity) → Detached hal' (ledger activity))
    (closed : flags.closed = true → flags'.closed = true)
    (waits : ∀ program, (.close, program) ∈ entering → program = request .close ∨ flags'.closed = true) :
    Ending hal' flags' { activity with entering } := by
  refine ⟨fun known => closed (ending.closed known), waits, fun program serves => ?_, ending.again, ending.present,
    ending.shut, fun op program serves told => detached (ending.told op program serves told),
    fun told => detached (ending.detached told)⟩
  exact (ending.closes program serves).imp_left closed

theorem Ending.requested {hal hal' : StableHal} {flags : Flags} {index : Nat} {op : FrameworkCall} {call : Call}
    {program : call.Reply → Program Environment Bool} (ending : Ending hal flags activity)
    (detached : Detached hal (ledger activity) → Detached hal' (ledger activity))
    (asks : activity.entering[index]? = some (op, .call call program)) (reply : call.Reply) :
    Ending hal' (flags.after call) { activity with entering := activity.entering.set index (op, program reply) } := by
  refine ending.kept _ detached (flags.after_closed call) fun later waits => ?_
  rcases List.mem_or_eq_of_mem_set waits with waits | same
  · exact (ending.entering later waits).imp_right (flags.after_closed call)
  · obtain ⟨rfl, rfl⟩ := Prod.mk.inj same
    rcases ending.entering _ (List.mem_of_getElem? asks) with first | closed
    · cases first
      exact .inr rfl
    · exact .inr (flags.after_closed call closed)

theorem Ending.locked {hal hal' : StableHal} {flags : Flags} {index : Nat} {op : FrameworkCall} {ticket : Bool}
    (ending : Ending hal flags activity) (detached : Detached hal (ledger activity) → Detached hal' (ledger activity))
    (waits : activity.entering[index]? = some (op, .ret ticket))
    (orderly : op = .close → ticket = true → Told activity) :
    Ending hal' flags
      { activity with
        entering := activity.entering.eraseIdx index
        serving := some (some op, serve op ticket activity.own)
        start := activity.trace.length } := by
  have begun : activity.trace.drop activity.trace.length = [] := List.drop_length
  have fresh : closing { activity with
      entering := activity.entering.eraseIdx index
      serving := some (some op, serve op ticket activity.own)
      start := activity.trace.length } = {} := by
    rw [closing, Activity.current, begun]
    rfl
  refine ⟨ending.closed, fun program member => ?_, fun program serves => ?_, ending.again, fun _ _ _ => ?_,
    fun _ _ _ _ => ?_, fun _ _ _ told => ?_, fun told => detached (ending.detached told)⟩
  · exact ending.entering program (List.mem_of_mem_eraseIdx member)
  · cases serves
    rcases ending.entering _ (List.mem_of_getElem? waits) with first | closed
    · cases first
    · refine ⟨closed, ?_⟩
      cases ticket
      case true => exact .inl (orderly rfl rfl)
      case false =>
        refine .inr ⟨activity.own, ?_⟩
        rw [Activity.current, begun]
        exact .refl _
  · rw [fresh]
  · rw [fresh]
  · rw [fresh] at told
    cases told

theorem Ending.born (hal : StableHal) (flags : Flags) (options : SessionOptions) :
    Ending hal flags (sessions.newborn options) := by
  have untold : ¬ Told (sessions.newborn options) := List.not_mem_nil
  refine ⟨?_, nofun, nofun, fun again => (nomatch again), fun _ _ _ => rfl, fun told => absurd told untold,
    fun _ _ _ told => (nomatch told), fun told => absurd told untold⟩
  rintro (told | ⟨reply, exchanged⟩)
  · exact absurd told untold
  · cases exchanged

theorem ending_step (regular : Regular world) (authority : Authority world.shared.hal (ledgers world))
    (next : sessions.Step world label after) (room : after.shared.hal.nextIdentity < int64Max)
    (orderly : ¬ Overtakes world label)
    (holds : ∀ id activity, world.objects id = some activity →
      Ending world.shared.hal (world.shared.flags id) activity) (id : Nat) (activity : SessionActivity)
    (found : after.objects id = some activity) : Ending after.shared.hal (after.shared.flags id) activity := by
  have kept : ∀ before, world.objects id = some before →
      Detached world.shared.hal (ledger before) → Detached after.shared.hal (ledger before) := fun _ present =>
    detached_step regular authority next room present
  have move := step_local next found
  clear found
  cases move with
  | still label activity found same elsewhere =>
    rw [same]
    exact (holds id activity found).kept _ (kept _ found) (fun closed => closed) (holds id activity found).entering
  | born options absent same => exact .born _ _ _
  | entered op activity found same =>
    rw [same]
    refine (holds id activity found).kept _ (kept _ found) (fun closed => closed) fun program waits => ?_
    rcases List.mem_append.mp waits with waits | new
    · exact (holds id activity found).entering program waits
    · obtain ⟨rfl, rfl⟩ := Prod.mk.inj (List.mem_singleton.mp new)
      exact .inl rfl
  | requested index choice activity op call program found asks moved =>
    have flags : after.shared.flags id = (world.shared.flags id).after call := by rw [moved, respond_own_flags]
    rw [flags]
    exact (holds id activity found).requested (kept _ found) asks _
  | locked index activity op ticket found waits free same =>
    rw [same]
    refine (holds id activity found).locked (kept _ found) waits fun close closed => ?_
    subst close closed
    by_contra untold
    exact orderly (.locked id index activity found waits untold)
  | called choice activity op call program found serves moved =>
    exact (holds id activity found).called regular authority next room orderly found serves moved
  | left activity op value own found serves same =>
    have before := holds id activity found
    rw [same]
    exact ⟨before.closed, before.entering, nofun, before.again, nofun, fun _ => nofun, nofun, fun told =>
      kept activity found (before.detached told)⟩

end SessionSystem

end VirtualCamera
