import Mathlib.Logic.Function.Basic
import VirtualCamera.Shared.Interaction
import VirtualCamera.Shared.Runs

set_option autoImplicit false

namespace Interleaving

open Interaction Runs

variable {S : Signature} {B ρ σ Op T A X C M : Type}

/-- Objects that each have a lock and a private record, over a shared state. An operation makes its request before it
has the lock and is served under it; a choice settles the replies that the shared state leaves open. -/
structure System (S : Signature) (B ρ σ Op T A X C : Type) where
  admits : σ → B → Bool
  initial : B → ρ
  create : ρ → Program S (A × ρ)
  request : Op → Program S T
  serve : Op → T → ρ → Program S (A × ρ)
  respond : Nat → σ → X → (request : S.Request) → S.Reply request × σ
  change : σ → C → Option σ

/-- `serving` is the operation that holds the lock, or the constructor, which nobody can disturb.
`birth` and `trace` record what the object was made from and the calls made under the lock, of which
the first `start` belong to earlier operations. -/
structure Activity (S : Signature) (B ρ Op T A : Type) where
  birth : B
  own : ρ
  entering : List (Op × Program S T) := []
  serving : Option (Option Op × Program S (A × ρ)) := none
  trace : List (Event S) := []
  start : Nat := 0

def Activity.current (activity : Activity S B ρ Op T A) : List (Event S) :=
  activity.trace.drop activity.start

structure World (S : Signature) (B ρ σ Op T A : Type) where
  shared : σ
  objects : Nat → Option (Activity S B ρ Op T A) := fun _ => none

inductive Label (B Op X C : Type) where
  | create (id : Nat) (birth : B)
  | enter (id : Nat) (op : Op)
  | request (id index : Nat) (choice : X)
  | lock (id index : Nat)
  | call (id : Nat) (choice : X)
  | leave (id : Nat)
  | outside (change : C)

def World.put (world : World S B ρ σ Op T A) (id : Nat) (activity : Activity S B ρ Op T A) (shared : σ) :
    World S B ρ σ Op T A :=
  { shared, objects := Function.update world.objects id (some activity) }

namespace System

variable (system : System S B ρ σ Op T A X C)

def newborn (birth : B) : Activity S B ρ Op T A :=
  { birth, own := system.initial birth, serving := some (none, system.create (system.initial birth)) }

inductive Step (world : World S B ρ σ Op T A) : Label B Op X C → World S B ρ σ Op T A → Prop where
  | create (id : Nat) (birth : B) (fresh : world.objects id = none)
      (admitted : system.admits world.shared birth = true) :
      Step world (.create id birth) (world.put id (system.newborn birth) world.shared)
  | enter (id : Nat) (op : Op) (activity : Activity S B ρ Op T A) (found : world.objects id = some activity) :
      Step world (.enter id op)
        (world.put id { activity with entering := activity.entering ++ [(op, system.request op)] } world.shared)
  | request (id index : Nat) (choice : X) (activity : Activity S B ρ Op T A) (op : Op) (request : S.Request)
      (next : S.Reply request → Program S T) (found : world.objects id = some activity)
      (asks : activity.entering[index]? = some (op, .call request next)) :
      Step world (.request id index choice)
        (world.put id
          { activity with
            entering := activity.entering.set index
              (op, next (system.respond id world.shared choice request).1) }
          (system.respond id world.shared choice request).2)
  | lock (id index : Nat) (activity : Activity S B ρ Op T A) (op : Op) (ticket : T)
      (found : world.objects id = some activity)
      (waits : activity.entering[index]? = some (op, .ret ticket)) (free : activity.serving = none) :
      Step world (.lock id index)
        (world.put id
          { activity with
            entering := activity.entering.eraseIdx index
            serving := some (some op, system.serve op ticket activity.own)
            start := activity.trace.length } world.shared)
  | call (id : Nat) (choice : X) (activity : Activity S B ρ Op T A) (op : Option Op) (request : S.Request)
      (next : S.Reply request → Program S (A × ρ)) (found : world.objects id = some activity)
      (serves : activity.serving = some (op, .call request next)) :
      Step world (.call id choice)
        (world.put id
          { activity with
            serving := some (op, next (system.respond id world.shared choice request).1)
            trace := activity.trace ++ [⟨request, (system.respond id world.shared choice request).1⟩] }
          (system.respond id world.shared choice request).2)
  | leave (id : Nat) (activity : Activity S B ρ Op T A) (op : Option Op) (value : A) (own : ρ)
      (found : world.objects id = some activity) (serves : activity.serving = some (op, .ret (value, own))) :
      Step world (.leave id) (world.put id { activity with own, serving := none } world.shared)
  | outside (change : C) (shared : σ) (changes : system.change world.shared change = some shared) :
      Step world (.outside change) { world with shared }

def perform (world : World S B ρ σ Op T A) : Label B Op X C → Option (World S B ρ σ Op T A)
  | .create id birth =>
    match world.objects id with
    | some _ => none
    | none =>
      if system.admits world.shared birth then some (world.put id (system.newborn birth) world.shared) else none
  | .enter id op =>
    (world.objects id).map fun activity =>
      world.put id { activity with entering := activity.entering ++ [(op, system.request op)] } world.shared
  | .request id index choice =>
    (world.objects id).bind fun activity =>
      match activity.entering[index]? with
      | some (op, .call request next) =>
        let (reply, shared) := system.respond id world.shared choice request
        some (world.put id { activity with entering := activity.entering.set index (op, next reply) } shared)
      | _ => none
  | .lock id index =>
    (world.objects id).bind fun activity =>
      match activity.entering[index]?, activity.serving with
      | some (op, .ret ticket), none =>
        some (world.put id
          { activity with
            entering := activity.entering.eraseIdx index
            serving := some (some op, system.serve op ticket activity.own)
            start := activity.trace.length } world.shared)
      | _, _ => none
  | .call id choice =>
    (world.objects id).bind fun activity =>
      match activity.serving with
      | some (op, .call request next) =>
        let (reply, shared) := system.respond id world.shared choice request
        some (world.put id
          { activity with
            serving := some (op, next reply), trace := activity.trace ++ [⟨request, reply⟩] } shared)
      | _ => none
  | .leave id =>
    (world.objects id).bind fun activity =>
      match activity.serving with
      | some (_, .ret (_, own)) => some (world.put id { activity with own, serving := none } world.shared)
      | _ => none
  | .outside change => (system.change world.shared change).map fun shared => { world with shared }

variable {system} {world after : World S B ρ σ Op T A} {label : Label B Op X C}

theorem perform_step (performs : system.perform world label = some after) :
    system.Step world label after := by
  cases label with
  | create id birth =>
    simp only [perform] at performs
    split at performs
    next => cases performs
    next fresh =>
      split at performs
      next admitted =>
        cases performs
        exact .create id birth fresh admitted
      next => cases performs
  | enter id op =>
    obtain ⟨activity, found, rfl⟩ := Option.map_eq_some_iff.mp performs
    exact .enter id op activity found
  | request id index choice =>
    obtain ⟨activity, found, performs⟩ := Option.bind_eq_some_iff.mp performs
    split at performs
    next asks =>
      cases performs
      exact .request id index choice activity _ _ _ found asks
    next => cases performs
  | lock id index =>
    obtain ⟨activity, found, performs⟩ := Option.bind_eq_some_iff.mp performs
    split at performs
    next waits free =>
      cases performs
      exact .lock id index activity _ _ found waits free
    next => cases performs
  | call id choice =>
    obtain ⟨activity, found, performs⟩ := Option.bind_eq_some_iff.mp performs
    split at performs
    next serves =>
      cases performs
      exact .call id choice activity _ _ _ found serves
    next => cases performs
  | leave id =>
    obtain ⟨activity, found, performs⟩ := Option.bind_eq_some_iff.mp performs
    split at performs
    next serves =>
      cases performs
      exact .leave id activity _ _ _ found serves
    next => cases performs
  | outside change =>
    obtain ⟨shared, changes, rfl⟩ := Option.map_eq_some_iff.mp performs
    exact .outside change shared changes

theorem step_perform (next : system.Step world label after) : system.perform world label = some after := by
  cases next with
  | create id birth fresh admitted => simp [perform, fresh, admitted]
  | enter id op activity found => simp [perform, found]
  | request id index choice activity op request next found asks => simp [perform, found, asks]
  | lock id index activity op ticket found waits free => simp [perform, found, waits, free]
  | call id choice activity op request next found serves => simp [perform, found, serves]
  | leave id activity op value own found serves => simp [perform, found, serves]
  | outside change shared changes => simp [perform, changes]

theorem step_deterministic (state : World S B ρ σ Op T A) (label : Label B Op X C) (left right : World S B ρ σ Op T A)
    (first : system.Step state label left) (second : system.Step state label right) : left = right :=
  Option.some.inj ((step_perform first).symm.trans (step_perform second))

theorem run_perform {labels : List (Label B Op X C)} (folds : labels.foldlM system.perform world = some after) :
    Run system.Step world labels after :=
  (Run.of_foldlM folds).mono fun _ _ _ => perform_step

structure Discipline (system : System S B ρ σ Op T A X C) (monitor : Monitor S M) (fresh : B → M)
    (between : ρ → M → Prop) : Prop where
  create : ∀ shared birth, system.admits shared birth = true →
    (system.create (system.initial birth)).Obeys monitor (fresh birth) fun out final => between out.2 final
  serve : ∀ op ticket own seen, between own seen →
    (system.serve op ticket own).Obeys monitor seen fun out final => between out.2 final

end System

variable {system : System S B ρ σ Op T A X C} {monitor : Monitor S M} {fresh : B → M} {between : ρ → M → Prop}

def Activity.view (monitor : Monitor S M) (fresh : B → M) (activity : Activity S B ρ Op T A) : M :=
  monitor.follow (fresh activity.birth) activity.trace

structure Activity.Follows (monitor : Monitor S M) (fresh : B → M) (between : ρ → M → Prop)
    (activity : Activity S B ρ Op T A) : Prop where
  accepts : monitor.Accepts (fresh activity.birth) activity.trace
  idle : activity.serving = none → between activity.own (activity.view monitor fresh)
  busy : ∀ op program, activity.serving = some (op, program) →
    program.Obeys monitor (activity.view monitor fresh) fun out final => between out.2 final

theorem World.put_objects (world : World S B ρ σ Op T A) (id other : Nat) (activity : Activity S B ρ Op T A)
    (shared : σ) : (world.put id activity shared).objects other =
      if other = id then some activity else world.objects other := by
  by_cases same : other = id
  · subst same
    simp [put]
  · simp [put, same]

theorem World.put_each {world : World S B ρ σ Op T A} (holds : Nat → Activity S B ρ Op T A → Prop)
    (each : ∀ id activity, world.objects id = some activity → holds id activity) {id : Nat}
    {activity : Activity S B ρ Op T A} {shared : σ} (moved : holds id activity) (other : Nat)
    (found : Activity S B ρ Op T A) (present : (world.put id activity shared).objects other = some found) :
    holds other found := by
  rw [put_objects] at present
  split at present
  next same =>
    cases present
    exact same ▸ moved
  next => exact each other found present

theorem World.put_present {world : World S B ρ σ Op T A} {id : Nat} (present : (world.objects id).isSome = true)
    (other : Nat) (activity : Activity S B ρ Op T A) (shared : σ) :
    ((world.put other activity shared).objects id).isSome = true := by
  rw [put_objects]
  split
  · rfl
  · exact present

theorem System.step_present {world after : World S B ρ σ Op T A} {label : Label B Op X C}
    (next : system.Step world label after) {id : Nat} (present : (world.objects id).isSome = true) :
    (after.objects id).isSome = true := by
  cases next with
  | create | enter | request | lock | call | leave => exact World.put_present present _ _ _
  | outside => exact present

theorem Activity.view_snoc (monitor : Monitor S M) (fresh : B → M) (activity : Activity S B ρ Op T A)
    (event : Event S) (serving : Option (Option Op × Program S (A × ρ))) :
    Activity.view monitor fresh { activity with serving, trace := activity.trace ++ [event] } =
      monitor.observe (activity.view monitor fresh) event := by
  rw [view, Monitor.follow_append]
  rfl

theorem System.Discipline.step (discipline : system.Discipline monitor fresh between)
    {world after : World S B ρ σ Op T A} {label : Label B Op X C} (next : system.Step world label after)
    (follows : ∀ id activity, world.objects id = some activity → activity.Follows monitor fresh between) :
    ∀ id activity, after.objects id = some activity → activity.Follows monitor fresh between := by
  cases next with
  | create id birth absent admitted =>
    refine World.put_each (fun _ activity => activity.Follows monitor fresh between) follows ?_
    refine ⟨trivial, nofun, fun op program serves => ?_⟩
    cases serves
    exact discipline.create world.shared birth admitted
  | enter id op activity found =>
    refine World.put_each (fun _ activity => activity.Follows monitor fresh between) follows ?_
    exact ⟨(follows id activity found).accepts, (follows id activity found).idle, (follows id activity found).busy⟩
  | request id index choice activity op request next found asks =>
    refine World.put_each (fun _ activity => activity.Follows monitor fresh between) follows ?_
    exact ⟨(follows id activity found).accepts, (follows id activity found).idle, (follows id activity found).busy⟩
  | lock id index activity op ticket found waits free =>
    refine World.put_each (fun _ activity => activity.Follows monitor fresh between) follows ?_
    refine ⟨(follows id activity found).accepts, nofun, fun op' program serves => ?_⟩
    cases serves
    exact discipline.serve op ticket activity.own _ ((follows id activity found).idle free)
  | call id choice activity op request next found serves =>
    have obeys := (follows id activity found).busy op _ serves (system.respond id world.shared choice request).1
    refine World.put_each (fun _ activity => activity.Follows monitor fresh between) follows ?_
    refine ⟨?_, nofun, fun op' program later => ?_⟩
    · exact (Monitor.accepts_append monitor _ _ _).mpr ⟨(follows id activity found).accepts, obeys.1, trivial⟩
    · cases later
      rw [Activity.view_snoc]
      exact obeys.2
  | leave id activity op value own found serves =>
    refine World.put_each (fun _ activity => activity.Follows monitor fresh between) follows ?_
    exact ⟨(follows id activity found).accepts, fun _ => (follows id activity found).busy op _ serves, nofun⟩
  | outside change shared changes => exact follows

theorem System.Discipline.run (discipline : system.Discipline monitor fresh between)
    {start world : World S B ρ σ Op T A} {labels : List (Label B Op X C)} (run : Run system.Step start labels world)
    (initial : ∀ id activity, start.objects id = some activity → activity.Follows monitor fresh between) :
    ∀ id activity, world.objects id = some activity → activity.Follows monitor fresh between :=
  run.invariant (fun _ world => ∀ id activity, world.objects id = some activity →
    activity.Follows monitor fresh between) initial fun _ _ _ _ _ follows next => discipline.step next follows

structure Activity.Reached (system : System S B ρ σ Op T A X C) (activity : Activity S B ρ Op T A) : Prop where
  bounded : activity.start ≤ activity.trace.length
  entering : ∀ op program, (op, program) ∈ activity.entering →
    ∃ events, (system.request op).Reaches events program
  creating : ∀ program, activity.serving = some (none, program) →
    (system.create (system.initial activity.birth)).Reaches activity.current program
  serving : ∀ op program, activity.serving = some (some op, program) →
    ∃ ticket own, (system.serve op ticket own).Reaches activity.current program

theorem Activity.current_snoc (activity : Activity S B ρ Op T A) (event : Event S)
    (serving : Option (Option Op × Program S (A × ρ))) (bounded : activity.start ≤ activity.trace.length) :
    Activity.current { activity with serving, trace := activity.trace ++ [event] } =
      activity.current ++ [event] := List.drop_append_of_le_length bounded

theorem System.step_reached {world after : World S B ρ σ Op T A} {label : Label B Op X C}
    (next : system.Step world label after)
    (reached : ∀ id activity, world.objects id = some activity → activity.Reached system) :
    ∀ id activity, after.objects id = some activity → activity.Reached system := by
  cases next with
  | create id birth absent admitted =>
    refine World.put_each (fun _ activity => activity.Reached system) reached
      ⟨Nat.le_refl _, nofun, ?_, nofun⟩
    intro program serves
    cases serves
    exact .refl _
  | enter id op activity found =>
    refine World.put_each (fun _ activity => activity.Reached system) reached ?_
    have before := reached id activity found
    refine ⟨before.bounded, fun other program member => ?_, before.creating, before.serving⟩
    rcases List.mem_append.mp member with member | member
    · exact before.entering other program member
    · obtain ⟨rfl, rfl⟩ := Prod.mk.inj (List.mem_singleton.mp member)
      exact ⟨[], .refl _⟩
  | request id index choice activity op request next found asks =>
    refine World.put_each (fun _ activity => activity.Reached system) reached ?_
    have before := reached id activity found
    refine ⟨before.bounded, fun other program member => ?_, before.creating, before.serving⟩
    rcases List.mem_or_eq_of_mem_set member with member | same
    · exact before.entering other program member
    · obtain ⟨rfl, rfl⟩ := Prod.mk.inj same
      obtain ⟨events, reaches⟩ := before.entering _ _ (List.mem_of_getElem? asks)
      exact ⟨_, reaches.snoc _⟩
  | lock id index activity op ticket found waits free =>
    refine World.put_each (fun _ activity => activity.Reached system) reached ?_
    have before := reached id activity found
    refine ⟨Nat.le_refl _, fun other program member => ?_, nofun, fun other program serves => ?_⟩
    · exact before.entering other program (List.mem_of_mem_eraseIdx member)
    · cases serves
      refine ⟨ticket, activity.own, ?_⟩
      rw [Activity.current, List.drop_length]
      exact .refl _
  | call id choice activity op request next found serves =>
    refine World.put_each (fun _ activity => activity.Reached system) reached ?_
    have before := reached id activity found
    refine ⟨?_, before.entering, fun program later => ?_, fun other program later => ?_⟩
    · rw [List.length_append]
      exact Nat.le_trans before.bounded (Nat.le_add_right _ _)
    · rw [Activity.current_snoc _ _ _ before.bounded]
      cases later
      exact (before.creating _ serves).snoc _
    · rw [Activity.current_snoc _ _ _ before.bounded]
      cases later
      obtain ⟨ticket, own, reaches⟩ := before.serving _ _ serves
      exact ⟨ticket, own, reaches.snoc _⟩
  | leave id activity op value own found serves =>
    refine World.put_each (fun _ activity => activity.Reached system) reached ?_
    have before := reached id activity found
    exact ⟨before.bounded, before.entering, nofun, nofun⟩
  | outside change shared changes => exact reached

theorem System.run_reached {start world : World S B ρ σ Op T A} {labels : List (Label B Op X C)}
    (run : Run system.Step start labels world)
    (initial : ∀ id activity, start.objects id = some activity → activity.Reached system) :
    ∀ id activity, world.objects id = some activity → activity.Reached system :=
  run.invariant (fun _ world => ∀ id activity, world.objects id = some activity → activity.Reached system)
    initial fun _ _ _ _ _ reached next => step_reached next reached

end Interleaving
