import Mathlib.Data.List.Perm.Basic
import Mathlib.Logic.Function.Basic
import VirtualCamera.Shared.Runs

set_option autoImplicit false

namespace VirtualCamera

open Runs

-- The generation is a `long` that counts one at a time; it does not run out.
structure RenderRequest (T : Type) where
  generation : Nat
  value : T
deriving DecidableEq, Repr

structure RenderRequestQueue (T : Type) where
  generation : Nat := 0
  stopped : Bool := false
  pending : Option (RenderRequest T) := none
deriving DecidableEq, Repr

namespace RenderRequestQueue

variable {T : Type}

-- A synchronized method's effect: the queue, the resources it releases, and whether it wakes the waiting threads.
structure Effect (T : Type) where
  queue : RenderRequestQueue T
  released : List T := []
  notifies : Bool := false

def discardPending (queue : RenderRequestQueue T) : RenderRequestQueue T × List T :=
  match queue.pending with
  | some request => ({ queue with pending := none }, [request.value])
  | none => (queue, [])

def submit (queue : RenderRequestQueue T) (value : T) : Effect T :=
  if queue.stopped then { queue, released := [value] }
  else
    match queue.discardPending with
    | (queue, released) =>
      { queue := { queue with generation := queue.generation + 1, pending := some ⟨queue.generation + 1, value⟩ }
        released
        notifies := true }

-- The loop in `take` does not wait any more.
def ready (queue : RenderRequestQueue T) : Bool := queue.pending.isSome || queue.stopped

def take (queue : RenderRequestQueue T) : RenderRequestQueue T × Option (RenderRequest T) :=
  ({ queue with pending := none }, queue.pending)

def isCurrent (queue : RenderRequestQueue T) (request : RenderRequest T) : Bool :=
  !queue.stopped && request.generation == queue.generation

def cancel (queue : RenderRequestQueue T) : Effect T :=
  match { queue with generation := queue.generation + 1 }.discardPending with
  | (queue, released) => { queue, released, notifies := true }

def shutdown (queue : RenderRequestQueue T) : Effect T := { queue with stopped := true }.cancel

end RenderRequestQueue

inductive MailboxCall (K T : Type) where
  | submit (value : T) (request : Option (RenderRequest T)) (released : List T)
  | take (thread : K) (request : Option (RenderRequest T))
  | interrupted (thread : K)
  | isCurrent (request : RenderRequest T) (answer : Bool)
  | cancel (released : List T)
  | shutdown (released : List T)
deriving DecidableEq, Repr

-- A thread beside `take`, in its `wait`, or woken there and not yet back in the monitor.
inductive Taker where
  | outside
  | waiting
  | notified
deriving DecidableEq, Repr

structure RenderMailbox (K T : Type) where
  queue : RenderRequestQueue T := {}
  takers : K → Taker := fun _ => .outside
  calls : List (MailboxCall K T) := []

-- `take` enters the monitor, for a new call or at the end of a wait, which may end without a reason.
inductive MailboxMove (K T : Type) where
  | submit (value : T)
  | take (thread : K)
  | interrupt (thread : K)
  | isCurrent (request : RenderRequest T)
  | cancel
  | shutdown

namespace RenderMailbox

variable {K T : Type} [DecidableEq K]

def notifyAll (takers : K → Taker) (thread : K) : Taker :=
  match takers thread with
  | .waiting => .notified
  | taker => taker

def returns (state : RenderMailbox K T) (effect : RenderRequestQueue.Effect T) (call : MailboxCall K T) :
    RenderMailbox K T :=
  { queue := effect.queue
    takers := if effect.notifies then notifyAll state.takers else state.takers
    calls := state.calls ++ [call] }

def enterTake (state : RenderMailbox K T) (thread : K) : RenderMailbox K T :=
  if state.queue.ready then
    { queue := state.queue.take.1
      takers := Function.update state.takers thread .outside
      calls := state.calls ++ [.take thread state.queue.take.2] }
  else { state with takers := Function.update state.takers thread .waiting }

def perform (state : RenderMailbox K T) : MailboxMove K T → Option (RenderMailbox K T)
  | .submit value =>
    let effect := state.queue.submit value
    some (state.returns effect (.submit value effect.queue.pending effect.released))
  | .take thread => some (state.enterTake thread)
  | .interrupt thread =>
    if state.takers thread = .outside then none
    else
      some { state with
        takers := Function.update state.takers thread .outside
        calls := state.calls ++ [.interrupted thread] }
  | .isCurrent request => some (state.returns { queue := state.queue }
      (.isCurrent request (state.queue.isCurrent request)))
  | .cancel =>
    let effect := state.queue.cancel
    some (state.returns effect (.cancel effect.released))
  | .shutdown =>
    let effect := state.queue.shutdown
    some (state.returns effect (.shutdown effect.released))

def step (state : RenderMailbox K T) (move : MailboxMove K T) (after : RenderMailbox K T) : Prop :=
  state.perform move = some after

end RenderMailbox

namespace MailboxCall

variable {K T : Type}

def submitted : MailboxCall K T → List T
  | .submit value _ _ => [value]
  | .take _ _ | .interrupted _ | .isCurrent _ _ | .cancel _ | .shutdown _ => []

def released : MailboxCall K T → List T
  | .submit _ _ released | .cancel released | .shutdown released => released
  | .take _ _ | .interrupted _ | .isCurrent _ _ => []

def handed : MailboxCall K T → List T
  | .take _ request => request.toList.map RenderRequest.value
  | .submit _ _ _ | .interrupted _ | .isCurrent _ _ | .cancel _ | .shutdown _ => []

def isShutdown : MailboxCall K T → Bool
  | .shutdown _ => true
  | .submit _ _ _ | .take _ _ | .interrupted _ | .isCurrent _ _ | .cancel _ => false

def supersedes : MailboxCall K T → Bool
  | .submit _ _ _ | .cancel _ | .shutdown _ => true
  | .take _ _ | .interrupted _ | .isCurrent _ _ => false

def looks : MailboxCall K T → Bool
  | .interrupted _ | .isCurrent _ _ => true
  | .submit _ _ _ | .take _ _ | .cancel _ | .shutdown _ => false

end MailboxCall

section Specification

variable {K T : Type}

def Stopped (calls : List (MailboxCall K T)) : Prop := calls.any MailboxCall.isShutdown = true

def LatestPending (calls : List (MailboxCall K T)) (request : RenderRequest T) : Prop :=
  ∃ before released after, calls = before ++ .submit request.value (some request) released :: after ∧
    ∀ call ∈ after, call.looks = true

def Justified (earlier : List (MailboxCall K T)) : MailboxCall K T → Prop
  | .submit value request released =>
    (Stopped earlier → request = none ∧ released = [value]) ∧
      (¬ Stopped earlier → ∃ generation, request = some ⟨generation, value⟩)
  | .take _ (some request) => ¬ Stopped earlier ∧ LatestPending earlier request
  | .take _ none => Stopped earlier
  | .isCurrent request true =>
    ∀ before value released after, earlier = before ++ .submit value (some request) released :: after →
      ∀ call ∈ after, call.supersedes = false
  | .interrupted _ | .isCurrent _ false | .cancel _ | .shutdown _ => True

end Specification

structure RenderMailbox.LatestOnly {K T : Type} (state : RenderMailbox K T) : Prop where
  owners : (state.calls.flatMap MailboxCall.submitted).Perm
    (state.calls.flatMap MailboxCall.released ++ state.calls.flatMap MailboxCall.handed ++
      state.queue.pending.toList.map RenderRequest.value)
  once : (state.calls.flatMap MailboxCall.submitted).Nodup →
    (state.calls.flatMap MailboxCall.released ++ state.calls.flatMap MailboxCall.handed).Nodup
  settled : Stopped state.calls → state.queue.pending = none
  answers : ∀ earlier call later, state.calls = earlier ++ call :: later → Justified earlier call
  awake : ∀ thread, state.takers thread = .waiting → state.queue.pending = none ∧ ¬ Stopped state.calls

namespace RenderMailbox

variable {K T : Type} {calls : List (MailboxCall K T)}

theorem stopped_snoc {call : MailboxCall K T} :
    Stopped (calls ++ [call]) ↔ Stopped calls ∨ call.isShutdown = true := by
  simp [Stopped]

theorem snoc_split {earlier later : List (MailboxCall K T)} {call other : MailboxCall K T}
    (split : calls ++ [call] = earlier ++ other :: later) :
    (calls = earlier ∧ call = other ∧ later = []) ∨ ∃ rest, later = rest ++ [call] ∧
      calls = earlier ++ other :: rest := by
  rcases List.eq_nil_or_concat' later with rfl | ⟨rest, last, rfl⟩
  · obtain ⟨same, single⟩ := List.append_inj' split rfl
    exact .inl ⟨same, List.singleton_injective single, rfl⟩
  · have shape : calls ++ [call] = (earlier ++ other :: rest) ++ [last] := by simpa using split
    obtain ⟨same, single⟩ := List.append_inj' shape rfl
    exact .inr ⟨rest, by rw [List.singleton_injective single], same⟩

theorem answers_snoc {call : MailboxCall K T}
    (answers : ∀ earlier call later, calls = earlier ++ call :: later → Justified earlier call)
    (justified : Justified calls call) (earlier : List (MailboxCall K T)) (other : MailboxCall K T)
    (later : List (MailboxCall K T)) (split : calls ++ [call] = earlier ++ other :: later) :
    Justified earlier other := by
  rcases snoc_split split with ⟨same, single, -⟩ | ⟨rest, -, same⟩
  · rwa [← same, ← single]
  · exact answers earlier other rest same

def Fresh (queue : RenderRequestQueue T) (calls : List (MailboxCall K T)) : Prop :=
  ∀ before value request released after, calls = before ++ .submit value (some request) released :: after →
    request.generation ≤ queue.generation ∧
      (queue.isCurrent request = true → ∀ call ∈ after, call.supersedes = false)

theorem Fresh.kept {queue next : RenderRequestQueue T} {call : MailboxCall K T} (fresh : Fresh queue calls)
    (generation : next.generation = queue.generation) (stopped : next.stopped = queue.stopped)
    (current : call.supersedes = false) : Fresh next (calls ++ [call]) := by
  intro before value request released after split
  rcases snoc_split split with ⟨-, single, -⟩ | ⟨rest, rfl, same⟩
  · rw [single] at current
    cases current
  · obtain ⟨within, unsuperseded⟩ := fresh before value request released rest same
    refine ⟨generation ▸ within, fun yes other member => ?_⟩
    have earlier : queue.isCurrent request = true := by
      rw [RenderRequestQueue.isCurrent, ← generation, ← stopped]
      exact yes
    rcases List.mem_append.mp member with old | new
    · exact unsuperseded earlier other old
    · rw [List.mem_singleton.mp new]
      exact current

theorem Fresh.superseded {queue next : RenderRequestQueue T} {call : MailboxCall K T} (fresh : Fresh queue calls)
    (generation : queue.generation ≤ next.generation)
    (stale : ∀ request : RenderRequest T, request.generation ≤ queue.generation → next.isCurrent request = false)
    (made : ∀ value request released, call = .submit value (some request) released →
      request.generation ≤ next.generation) : Fresh next (calls ++ [call]) := by
  intro before value request released after split
  rcases snoc_split split with ⟨-, single, rfl⟩ | ⟨rest, rfl, same⟩
  · refine ⟨made value request released single, fun _ other member => ?_⟩
    cases member
  · obtain ⟨within, -⟩ := fresh before value request released rest same
    refine ⟨Nat.le_trans within generation, fun yes => ?_⟩
    rw [stale request within] at yes
    cases yes

theorem LatestPending.looked {request : RenderRequest T} {call : MailboxCall K T}
    (latest : LatestPending calls request) (looks : call.looks = true) :
    LatestPending (calls ++ [call]) request := by
  obtain ⟨before, released, after, rfl, quiet⟩ := latest
  refine ⟨before, released, after ++ [call], by simp, fun other member => ?_⟩
  rcases List.mem_append.mp member with old | new
  · exact quiet other old
  · rw [List.mem_singleton.mp new]
    exact looks

structure Kept (state : RenderMailbox K T) : Prop where
  owners : (state.calls.flatMap MailboxCall.submitted).Perm
    (state.calls.flatMap MailboxCall.released ++ state.calls.flatMap MailboxCall.handed ++
      state.queue.pending.toList.map RenderRequest.value)
  stopped : state.queue.stopped = true ↔ Stopped state.calls
  empty : state.queue.stopped = true → state.queue.pending = none
  latest : ∀ request, state.queue.pending = some request → LatestPending state.calls request
  fresh : Fresh state.queue state.calls
  answers : ∀ earlier call later, state.calls = earlier ++ call :: later → Justified earlier call
  awake : ∀ thread, state.takers thread = .waiting → state.queue.ready = false

theorem Kept.latestOnly {state : RenderMailbox K T} (kept : state.Kept) : state.LatestOnly where
  owners := kept.owners
  once := fun distinct => (List.nodup_append.mp (kept.owners.nodup_iff.mp distinct)).1
  settled := fun stopped => kept.empty (kept.stopped.mpr stopped)
  answers := kept.answers
  awake := by
    intro thread waiting
    have quiet := kept.awake thread waiting
    rw [RenderRequestQueue.ready, Bool.or_eq_false_iff] at quiet
    refine ⟨by simpa using quiet.1, fun stopped => ?_⟩
    rw [kept.stopped.mpr stopped] at quiet
    cases quiet.2

theorem kept_start : Kept ({} : RenderMailbox K T) where
  owners := .nil
  stopped := by simp [Stopped]
  empty := fun _ => rfl
  latest := fun _ held => by cases held
  fresh := fun before _ _ _ _ split => by simp at split
  answers := fun earlier _ _ split => by simp at split
  awake := fun _ waiting => Taker.noConfusion waiting

theorem not_waiting_notifyAll (takers : K → Taker) (thread : K) : notifyAll takers thread ≠ .waiting := by
  unfold notifyAll
  cases takers thread <;> simp

end RenderMailbox

namespace RenderRequestQueue

variable {T : Type} (queue : RenderRequestQueue T)

theorem discardPending_eq :
    queue.discardPending = ({ queue with pending := none }, queue.pending.toList.map RenderRequest.value) := by
  obtain ⟨generation, stopped, pending⟩ := queue
  cases pending <;> rfl

theorem submit_of_stopped {queue : RenderRequestQueue T} (stopped : queue.stopped = true) (value : T) :
    queue.submit value = { queue, released := [value] } := by
  rw [submit, if_pos stopped]

theorem submit_of_running {queue : RenderRequestQueue T} (running : queue.stopped = false) (value : T) :
    queue.submit value =
      { queue := { queue with
          generation := queue.generation + 1, pending := some ⟨queue.generation + 1, value⟩ }
        released := queue.pending.toList.map RenderRequest.value
        notifies := true } := by
  rw [submit, if_neg (by simp [running]), discardPending_eq]

theorem cancel_eq :
    queue.cancel =
      { queue := { queue with generation := queue.generation + 1, pending := none }
        released := queue.pending.toList.map RenderRequest.value
        notifies := true } := by
  rw [cancel, discardPending_eq]

end RenderRequestQueue

namespace RenderMailbox

variable {K T : Type} [DecidableEq K] {state : RenderMailbox K T}

omit [DecidableEq K] in
theorem running_iff (kept : state.Kept) : state.queue.stopped = false ↔ ¬ Stopped state.calls := by
  rw [← kept.stopped, Bool.not_eq_true]

omit [DecidableEq K] in
theorem Kept.owners_moved (kept : state.Kept) : (state.calls.flatMap MailboxCall.submitted).Perm
    (state.calls.flatMap MailboxCall.released ++ state.queue.pending.toList.map RenderRequest.value ++
      state.calls.flatMap MailboxCall.handed) := by
  refine kept.owners.trans ?_
  rw [List.append_assoc, List.append_assoc]
  exact List.perm_append_comm.append_left _

omit [DecidableEq K] in
theorem flatMap_snoc (part : MailboxCall K T → List T) (calls : List (MailboxCall K T)) (call : MailboxCall K T) :
    (calls ++ [call]).flatMap part = calls.flatMap part ++ part call := by
  simp

omit [DecidableEq K] in
theorem Kept.refuse (kept : state.Kept) (stopped : state.queue.stopped = true) (value : T) :
    Kept { state with calls := state.calls ++ [.submit value state.queue.pending [value]] } := by
  have none_pending := kept.empty stopped
  have ended := kept.stopped.mp stopped
  constructor
  · have owners := kept.owners
    simp only [none_pending, flatMap_snoc, MailboxCall.submitted, MailboxCall.released, MailboxCall.handed,
      Option.toList_none, List.map_nil, List.append_nil, List.append_assoc] at owners ⊢
    refine (owners.append_right [value]).trans ?_
    rw [List.append_assoc]
    exact List.perm_append_comm.append_left _
  · exact iff_of_true stopped (stopped_snoc.mpr (.inl ended))
  · exact kept.empty
  · intro request held
    cases none_pending.symm.trans held
  · refine kept.fresh.superseded (Nat.le_refl _) (fun request _ => ?_) fun other request released same => ?_
    · rw [RenderRequestQueue.isCurrent, stopped]
      rfl
    · rw [none_pending] at same
      cases same
  · exact answers_snoc kept.answers ⟨fun _ => ⟨none_pending, rfl⟩, fun running => absurd ended running⟩
  · exact kept.awake

omit [DecidableEq K] in
theorem Kept.accept (kept : state.Kept) (running : state.queue.stopped = false) (value : T) :
    Kept
      { queue := { state.queue with
          generation := state.queue.generation + 1, pending := some ⟨state.queue.generation + 1, value⟩ }
        takers := notifyAll state.takers
        calls := state.calls ++ [.submit value (some ⟨state.queue.generation + 1, value⟩)
          (state.queue.pending.toList.map RenderRequest.value)] } := by
  have open_ := (running_iff kept).mp running
  constructor
  · simp only [flatMap_snoc, MailboxCall.submitted, MailboxCall.released, MailboxCall.handed, List.append_nil,
      Option.toList_some, List.map_cons, List.map_nil]
    exact kept.owners_moved.append_right [value]
  · refine iff_of_false (by simp [running]) fun stopped => ?_
    rcases stopped_snoc.mp stopped with earlier | now
    · exact open_ earlier
    · cases now
  · intro stopped
    rw [running] at stopped
    cases stopped
  · intro request held
    cases held
    exact ⟨state.calls, _, [], rfl, fun call member => by cases member⟩
  · refine kept.fresh.superseded (Nat.le_succ _) (fun request within => ?_) fun other request released same => ?_
    · have behind : request.generation ≠ state.queue.generation + 1 := by omega
      simp [RenderRequestQueue.isCurrent, behind]
    · cases same
      exact Nat.le_refl _
  · exact answers_snoc kept.answers ⟨fun stopped => absurd stopped open_, fun _ => ⟨_, rfl⟩⟩
  · intro thread waiting
    exact absurd waiting (not_waiting_notifyAll state.takers thread)

omit [DecidableEq K] in
theorem Kept.discard (kept : state.Kept) {stopped : Bool} {call : MailboxCall K T}
    (sure : stopped = (state.queue.stopped || call.isShutdown))
    (cancels : call = .cancel (state.queue.pending.toList.map RenderRequest.value) ∨
      call = .shutdown (state.queue.pending.toList.map RenderRequest.value)) :
    Kept
      { queue := { generation := state.queue.generation + 1, stopped, pending := none }
        takers := notifyAll state.takers
        calls := state.calls ++ [call] } := by
  have parts : call.submitted = [] ∧ call.released = state.queue.pending.toList.map RenderRequest.value ∧
      call.handed = [] := by
    rcases cancels with rfl | rfl <;> exact ⟨rfl, rfl, rfl⟩
  obtain ⟨submitted, released, handed⟩ := parts
  constructor
  · simp only [flatMap_snoc, submitted, released, handed, List.append_nil, Option.toList_none, List.map_nil]
    exact kept.owners_moved
  · rw [stopped_snoc, ← kept.stopped, sure, Bool.or_eq_true]
  · exact fun _ => rfl
  · intro request held
    cases held
  · refine kept.fresh.superseded (Nat.le_succ _) (fun request within => ?_) fun other request released same => ?_
    · have behind : request.generation ≠ state.queue.generation + 1 := by omega
      simp [RenderRequestQueue.isCurrent, behind]
    · rw [same] at cancels
      rcases cancels with other | other <;> cases other
  · refine answers_snoc kept.answers ?_
    rcases cancels with rfl | rfl <;> exact trivial
  · intro thread waiting
    exact absurd waiting (not_waiting_notifyAll state.takers thread)

theorem waiting_of_left {takers : K → Taker} {thread other : K}
    (waiting : Function.update takers thread .outside other = .waiting) : takers other = .waiting := by
  by_cases same : other = thread
  · subst same
    rw [Function.update_self] at waiting
    cases waiting
  · rwa [Function.update_of_ne same] at waiting

theorem Kept.returned (kept : state.Kept) (ready : state.queue.ready = true) (thread : K) :
    Kept
      { queue := { state.queue with pending := none }
        takers := Function.update state.takers thread .outside
        calls := state.calls ++ [.take thread state.queue.pending] } := by
  constructor
  · simp only [flatMap_snoc, MailboxCall.submitted, MailboxCall.released, MailboxCall.handed, List.append_nil,
      Option.toList_none, List.map_nil]
    rw [← List.append_assoc]
    exact kept.owners
  · rw [stopped_snoc, kept.stopped]
    exact ⟨.inl, fun either => either.resolve_right Bool.false_ne_true⟩
  · exact fun _ => rfl
  · intro request held
    cases held
  · exact kept.fresh.kept rfl rfl rfl
  · refine answers_snoc kept.answers ?_
    cases held : state.queue.pending with
    | some request =>
      refine ⟨fun stopped => ?_, kept.latest request held⟩
      rw [kept.empty (kept.stopped.mpr stopped)] at held
      cases held
    | none =>
      rw [RenderRequestQueue.ready, held] at ready
      exact kept.stopped.mp ready
  · intro other waiting
    have quiet := kept.awake other (waiting_of_left waiting)
    rw [ready] at quiet
    cases quiet

theorem Kept.waits (kept : state.Kept) (quiet : state.queue.ready = false) (thread : K) :
    Kept { state with takers := Function.update state.takers thread .waiting } where
  owners := kept.owners
  stopped := kept.stopped
  empty := kept.empty
  latest := kept.latest
  fresh := kept.fresh
  answers := kept.answers
  awake := fun _ _ => quiet

omit [DecidableEq K] in
theorem Kept.looked (kept : state.Kept) {call : MailboxCall K T} (looks : call.looks = true)
    (justified : Justified state.calls call) {takers : K → Taker}
    (fewer : ∀ thread, takers thread = .waiting → state.takers thread = .waiting) :
    Kept { queue := state.queue, takers, calls := state.calls ++ [call] } := by
  have parts : call.submitted = [] ∧ call.released = [] ∧ call.handed = [] ∧ call.isShutdown = false ∧
      call.supersedes = false := by
    cases call <;> first | exact ⟨rfl, rfl, rfl, rfl, rfl⟩ | cases looks
  obtain ⟨submitted, released, handed, open_, current⟩ := parts
  constructor
  · simp only [flatMap_snoc, submitted, released, handed, List.append_nil]
    exact kept.owners
  · rw [stopped_snoc, kept.stopped, open_]
    exact ⟨.inl, fun either => either.resolve_right Bool.false_ne_true⟩
  · exact kept.empty
  · exact fun request held => LatestPending.looked (kept.latest request held) looks
  · exact kept.fresh.kept rfl rfl current
  · exact answers_snoc kept.answers justified
  · exact fun thread waiting => kept.awake thread (fewer thread waiting)

theorem Kept.perform (kept : state.Kept) {move : MailboxMove K T} {after : RenderMailbox K T}
    (next : state.perform move = some after) : after.Kept := by
  cases move with
  | submit value =>
    cases next
    cases stopped : state.queue.stopped with
    | true =>
      rw [RenderRequestQueue.submit_of_stopped stopped]
      exact kept.refuse stopped value
    | false =>
      rw [RenderRequestQueue.submit_of_running stopped]
      exact kept.accept stopped value
  | take thread =>
    cases next
    rw [enterTake]
    cases ready : state.queue.ready with
    | true => exact kept.returned ready thread
    | false => exact kept.waits ready thread
  | interrupt thread =>
    simp only [RenderMailbox.perform] at next
    split at next
    · cases next
    · cases next
      have justified : Justified state.calls (.interrupted thread) := trivial
      exact kept.looked rfl justified fun other => waiting_of_left
  | isCurrent request =>
    cases next
    refine kept.looked rfl ?_ fun _ => id
    cases current : state.queue.isCurrent request with
    | false => exact trivial
    | true =>
      intro before value released after split
      exact (kept.fresh before value request released after split).2 current
  | cancel =>
    cases next
    rw [RenderRequestQueue.cancel_eq]
    exact kept.discard (by simp [MailboxCall.isShutdown]) (.inl rfl)
  | shutdown =>
    cases next
    rw [RenderRequestQueue.shutdown, RenderRequestQueue.cancel_eq]
    exact kept.discard (by simp [MailboxCall.isShutdown]) (.inr rfl)

end RenderMailbox

theorem RenderMailbox.latestOnly_run {K T : Type} [DecidableEq K] {moves : List (MailboxMove K T)}
    {final : RenderMailbox K T} (run : Run step {} moves final) : final.LatestOnly := by
  have kept : final.Kept := run.invariant (fun _ state => state.Kept) kept_start
    fun _ _ _ _ _ before next => before.perform next
  exact kept.latestOnly

def mailboxMoves : List (MailboxMove Bool Nat) :=
  [.submit 1, .submit 2, .take true, .isCurrent ⟨2, 2⟩, .cancel, .isCurrent ⟨2, 2⟩, .take true, .shutdown,
    .take true,
    .submit 3]

theorem RenderMailbox.latestOnly_moves : ∃ final : RenderMailbox Bool Nat, Run step {} mailboxMoves final ∧
    final.calls.map MailboxCall.released = [[], [1], [], [], [], [], [], [], [3]] ∧ final.LatestOnly := by
  have computed : (mailboxMoves.foldlM perform ({} : RenderMailbox Bool Nat)).any (fun state =>
      state.calls.map MailboxCall.released = [[], [1], [], [], [], [], [], [], [3]]) = true := by
    decide +kernel
  obtain ⟨final, run, reached⟩ := Run.of_any computed
  exact ⟨final, run, of_decide_eq_true reached, latestOnly_run run⟩

end VirtualCamera
