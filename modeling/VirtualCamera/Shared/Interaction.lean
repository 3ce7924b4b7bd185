import Mathlib.Data.List.Basic

set_option autoImplicit false

namespace Interaction

structure Signature where
  Request : Type
  Reply : Request → Type

/-- A program asks its environment for replies; it makes no assumption about them. -/
inductive Program (S : Signature) (A : Type) where
  | ret (value : A)
  | call (request : S.Request) (next : S.Reply request → Program S A)

abbrev Event (S : Signature) := (request : S.Request) × S.Reply request

structure Monitor (S : Signature) (M : Type) where
  observe : M → Event S → M
  permits : M → Event S → Prop := fun _ _ => True

variable {S : Signature} {A B M σ : Type}

namespace Monitor

def follow (monitor : Monitor S M) (seen : M) (events : List (Event S)) : M :=
  events.foldl monitor.observe seen

def Accepts (monitor : Monitor S M) : M → List (Event S) → Prop
  | _, [] => True
  | seen, event :: events =>
      monitor.permits seen event ∧ monitor.Accepts (monitor.observe seen event) events

@[simp] theorem follow_nil (monitor : Monitor S M) (seen : M) : monitor.follow seen [] = seen := rfl

@[simp] theorem follow_cons (monitor : Monitor S M) (seen : M) (event : Event S)
    (events : List (Event S)) :
    monitor.follow seen (event :: events) = monitor.follow (monitor.observe seen event) events := rfl

def Ignores (monitor : Monitor S M) (seen : M) (quiet : S.Request → Bool) : Prop :=
  ∀ request reply, quiet request = true →
    monitor.permits seen ⟨request, reply⟩ ∧ monitor.observe seen ⟨request, reply⟩ = seen

theorem Ignores.mono {monitor : Monitor S M} {seen : M} {quiet fewer : S.Request → Bool}
    (ignores : monitor.Ignores seen quiet)
    (inside : ∀ request, fewer request = true → quiet request = true) : monitor.Ignores seen fewer :=
  fun request reply silent => ignores request reply (inside request silent)

def Keeps (monitor : Monitor S M) (holds : M → Prop) (quiet : S.Request → Bool) : Prop :=
  ∀ seen request reply, quiet request = true → holds seen →
    monitor.permits seen ⟨request, reply⟩ ∧ holds (monitor.observe seen ⟨request, reply⟩)

theorem Keeps.mono {monitor : Monitor S M} {holds : M → Prop} {quiet fewer : S.Request → Bool}
    (keeps : monitor.Keeps holds quiet) (inside : ∀ request, fewer request = true → quiet request = true) :
    monitor.Keeps holds fewer :=
  fun seen request reply silent => keeps seen request reply (inside request silent)

def limits (allowed : S.Request → Bool) : Monitor S Unit where
  observe _ _ := ()
  permits _ event := allowed event.1 = true

theorem limits_ignores (allowed : S.Request → Bool) (seen : Unit) : (limits allowed).Ignores seen allowed :=
  fun _ _ silent => ⟨silent, rfl⟩

def collect {X : Type} (pick : Event S → Option X) : Monitor S (List X) where
  observe seen event := seen ++ (pick event).toList

theorem follow_collect {X : Type} (pick : Event S → Option X) (seen : List X) (events : List (Event S)) :
    (collect pick).follow seen events = seen ++ events.filterMap pick := by
  induction events generalizing seen with
  | nil => simp
  | cons event events ih =>
    rw [follow_cons, ih]
    cases picked : pick event <;> simp [collect, picked]

theorem collect_ignores {X : Type} {pick : Event S → Option X} (seen : List X) (quiet : S.Request → Bool)
    (silent : ∀ request reply, quiet request = true → pick ⟨request, reply⟩ = none) :
    (collect pick).Ignores seen quiet :=
  fun request reply inside => ⟨trivial, by simp [collect, silent request reply inside]⟩

theorem accepts_append (monitor : Monitor S M) (seen : M) (events later : List (Event S)) :
    monitor.Accepts seen (events ++ later) ↔
      monitor.Accepts seen events ∧ monitor.Accepts (monitor.follow seen events) later := by
  induction events generalizing seen with
  | nil => simp [Accepts]
  | cons event events ih => simp [Accepts, ih, and_assoc]

theorem Accepts.permits {monitor : Monitor S M} {seen : M} {before after : List (Event S)}
    {event : Event S} (accepts : monitor.Accepts seen (before ++ event :: after)) :
    monitor.permits (monitor.follow seen before) event :=
  ((accepts_append monitor seen before _).mp accepts).2.1

theorem follow_append (monitor : Monitor S M) (seen : M) (events later : List (Event S)) :
    monitor.follow seen (events ++ later) = monitor.follow (monitor.follow seen events) later :=
  List.foldl_append

end Monitor

namespace Program

def bind (program : Program S A) (next : A → Program S B) : Program S B :=
  match program with
  | .ret value => next value
  | .call request rest => .call request fun reply => (rest reply).bind next

theorem bind_ret (program : Program S A) : program.bind .ret = program := by
  induction program with
  | ret value => rfl
  | call request next ih => exact congrArg (Program.call request) (funext ih)

theorem bind_assoc {C : Type} (program : Program S A) (next : A → Program S B) (last : B → Program S C) :
    (program.bind next).bind last = program.bind fun value => (next value).bind last := by
  induction program with
  | ret value => rfl
  | call request rest ih => exact congrArg (Program.call request) (funext ih)

inductive Execution : Program S A → List (Event S) → A → Prop where
  | ret (value : A) : Execution (.ret value) [] value
  | call (request : S.Request) (next : S.Reply request → Program S A) (reply : S.Reply request)
      (events : List (Event S)) (value : A) (rest : Execution (next reply) events value) :
      Execution (.call request next) (⟨request, reply⟩ :: events) value

theorem Execution.of_bind {program : Program S A} {next : A → Program S B} {events : List (Event S)} {value : B}
    (execution : (program.bind next).Execution events value) :
    ∃ early middle late, events = early ++ late ∧ program.Execution early middle ∧
      (next middle).Execution late value := by
  induction program generalizing events with
  | ret middle => exact ⟨[], middle, events, rfl, .ret middle, execution⟩
  | call request rest ih =>
    cases execution with
    | call _ _ reply events value tail =>
      obtain ⟨early, middle, late, rfl, first, second⟩ := ih reply tail
      exact ⟨_, middle, late, rfl, .call request rest reply early middle first, second⟩

/-- The program after some of its calls; an interleaved run stops here between two calls. -/
inductive Reaches : Program S A → List (Event S) → Program S A → Prop where
  | refl (program : Program S A) : Reaches program [] program
  | call (request : S.Request) (next : S.Reply request → Program S A) (reply : S.Reply request)
      (events : List (Event S)) (residual : Program S A) (rest : Reaches (next reply) events residual) :
      Reaches (.call request next) (⟨request, reply⟩ :: events) residual

def Obeys (monitor : Monitor S M) : Program S A → M → (A → M → Prop) → Prop
  | .ret value, seen, post => post value seen
  | .call request next, seen, post => ∀ reply,
      monitor.permits seen ⟨request, reply⟩ ∧
        (next reply).Obeys monitor (monitor.observe seen ⟨request, reply⟩) post

variable {monitor : Monitor S M}

theorem Obeys.mono {program : Program S A} {seen : M} {post weaker : A → M → Prop}
    (obeys : program.Obeys monitor seen post)
    (implies : ∀ value final, post value final → weaker value final) :
    program.Obeys monitor seen weaker := by
  induction program generalizing seen with
  | ret value => exact implies value seen obeys
  | call request next ih => exact fun reply => ⟨(obeys reply).1, ih reply (obeys reply).2⟩

theorem Obeys.and {program : Program S A} {seen : M} {left right : A → M → Prop}
    (first : program.Obeys monitor seen left) (second : program.Obeys monitor seen right) :
    program.Obeys monitor seen fun value final => left value final ∧ right value final := by
  induction program generalizing seen with
  | ret value => exact ⟨first, second⟩
  | call request next ih =>
    exact fun reply => ⟨(first reply).1, ih reply (first reply).2 (second reply).2⟩

theorem obeys_bind (program : Program S A) (next : A → Program S B) (seen : M)
    (post : B → M → Prop) :
    (program.bind next).Obeys monitor seen post ↔
      program.Obeys monitor seen fun value middle => (next value).Obeys monitor middle post := by
  induction program generalizing seen with
  | ret value => rfl
  | call request rest ih =>
    exact forall_congr' fun reply => and_congr_right fun _ => ih reply _

theorem Obeys.reaches {program residual : Program S A} {seen : M} {post : A → M → Prop}
    {events : List (Event S)} (obeys : program.Obeys monitor seen post)
    (reaches : program.Reaches events residual) :
    monitor.Accepts seen events ∧ residual.Obeys monitor (monitor.follow seen events) post := by
  induction reaches generalizing seen with
  | refl => exact ⟨trivial, obeys⟩
  | call request next reply events residual _ ih =>
    have later := ih (obeys reply).2
    exact ⟨⟨(obeys reply).1, later.1⟩, later.2⟩

theorem Obeys.execution {program : Program S A} {seen : M} {post : A → M → Prop}
    {events : List (Event S)} {value : A} (obeys : program.Obeys monitor seen post)
    (execution : program.Execution events value) :
    monitor.Accepts seen events ∧ post value (monitor.follow seen events) := by
  induction execution generalizing seen with
  | ret => exact ⟨trivial, obeys⟩
  | call request next reply events value _ ih =>
    have later := ih (obeys reply).2
    exact ⟨⟨(obeys reply).1, later.1⟩, later.2⟩

theorem Reaches.snoc {program : Program S A} {events : List (Event S)} {request : S.Request}
    {next : S.Reply request → Program S A} (reaches : program.Reaches events (.call request next))
    (reply : S.Reply request) : program.Reaches (events ++ [⟨request, reply⟩]) (next reply) := by
  generalize shape : Program.call request next = residual at reaches
  induction reaches with
  | refl =>
    subst shape
    exact .call request next reply [] _ (.refl _)
  | call first rest answer events residual _ ih => exact .call first rest answer _ _ (ih shape)

def replay (oracle : (request : S.Request) → S.Reply request) : Program S A → List (Event S) × A
  | .ret value => ([], value)
  | .call request next =>
    let (events, value) := (next (oracle request)).replay oracle
    (⟨request, oracle request⟩ :: events, value)

theorem replay_execution (oracle : (request : S.Request) → S.Reply request) (program : Program S A) :
    program.Execution (program.replay oracle).1 (program.replay oracle).2 := by
  induction program with
  | ret value => exact .ret value
  | call request next ih =>
    exact .call request next (oracle request) _ _ (ih (oracle request))

end Program

/-- A program over a private record, such as an object's fields under its own lock. -/
def Process (S : Signature) (σ A : Type) := σ → Program S (A × σ)

namespace Process

instance : Monad (Process S σ) where
  pure value := fun state => .ret (value, state)
  bind process next := fun state => (process state).bind fun out => next out.1 out.2

instance : LawfulMonad (Process S σ) := LawfulMonad.mk' _
  (fun process => funext fun state => Program.bind_ret (process state))
  (fun _ _ => rfl)
  (fun process _ _ => funext fun state => Program.bind_assoc (process state) _ _)

instance : MonadStateOf σ (Process S σ) where
  get := fun state => .ret (state, state)
  set state := fun _ => .ret ((), state)
  modifyGet update := fun state => .ret (update state)

def perform (request : S.Request) : Process S σ (S.Reply request) :=
  fun state => .call request fun reply => .ret (reply, state)

/-- Weakest precondition over every reply of the environment, as the monitor sees the calls. -/
def wp (monitor : Monitor S M) (process : Process S σ A) (state : σ) (seen : M)
    (post : A → σ → M → Prop) : Prop :=
  (process state).Obeys monitor seen fun out final => post out.1 out.2 final

variable {monitor : Monitor S M} (state : σ) (seen : M) (post : A → σ → M → Prop)

@[simp] theorem wp_pure (value : A) :
    wp monitor (pure value : Process S σ A) state seen post ↔ post value state seen := Iff.rfl

@[simp] theorem wp_bind (process : Process S σ B) (next : B → Process S σ A) :
    wp monitor (process >>= next) state seen post ↔
      process.wp monitor state seen fun value middle later =>
        (next value).wp monitor middle later post :=
  Program.obeys_bind _ _ _ _

@[simp] theorem wp_perform (request : S.Request) (post : S.Reply request → σ → M → Prop) :
    wp monitor (perform request : Process S σ _) state seen post ↔
      ∀ reply, monitor.permits seen ⟨request, reply⟩ ∧
        post reply state (monitor.observe seen ⟨request, reply⟩) := Iff.rfl

@[simp] theorem wp_get (post : σ → σ → M → Prop) :
    wp monitor (get : Process S σ σ) state seen post ↔ post state state seen := Iff.rfl

@[simp] theorem wp_set (next : σ) (post : PUnit → σ → M → Prop) :
    wp monitor (set next : Process S σ PUnit) state seen post ↔ post () next seen := Iff.rfl

@[simp] theorem wp_modify (update : σ → σ) (post : PUnit → σ → M → Prop) :
    wp monitor (modify update : Process S σ PUnit) state seen post ↔ post () (update state) seen :=
  Iff.rfl

theorem wp_quiet {quiet : S.Request → Bool} (ignores : monitor.Ignores seen quiet)
    (request : S.Request) (silent : quiet request = true) (post : S.Reply request → σ → M → Prop) :
    wp monitor (perform request : Process S σ _) state seen post ↔ ∀ reply, post reply state seen := by
  refine forall_congr' fun reply => ?_
  obtain ⟨permitted, same⟩ := ignores request reply silent
  simp [Program.Obeys, permitted, same]

theorem wp_ite (condition : Prop) [Decidable condition] (first second : Process S σ A) :
    wp monitor (if condition then first else second) state seen post ↔
      (condition → first.wp monitor state seen post) ∧
        (¬ condition → second.wp monitor state seen post) := by
  split <;> simp_all

variable {state seen post}

theorem wp.mono {process : Process S σ A} {weaker : A → σ → M → Prop}
    (holds : process.wp monitor state seen post)
    (implies : ∀ value final later, post value final later → weaker value final later) :
    process.wp monitor state seen weaker :=
  Program.Obeys.mono holds fun out final => implies out.1 out.2 final

theorem wp.and {process : Process S σ A} {other : A → σ → M → Prop}
    (first : process.wp monitor state seen post) (second : process.wp monitor state seen other) :
    process.wp monitor state seen fun value final later =>
      post value final later ∧ other value final later :=
  Program.Obeys.and first second

theorem wp.execution {process : Process S σ A} {events : List (Event S)} {value : A} {final : σ}
    (holds : process.wp monitor state seen post)
    (execution : (process state).Execution events (value, final)) :
    monitor.Accepts seen events ∧ post value final (monitor.follow seen events) := by
  unfold wp at holds
  exact holds.execution execution

theorem wp.within {process : Process S σ A} {allowed : S.Request → Bool} {limited : A → σ → Prop}
    {holds : M → Prop} (footprint : process.wp (Monitor.limits allowed) state () fun value final _ =>
    limited value final)
    (keeps : monitor.Keeps holds allowed) (start : holds seen) :
    process.wp monitor state seen fun value final later => limited value final ∧ holds later := by
  unfold wp at footprint ⊢
  generalize process state = program at footprint
  induction program generalizing seen with
  | ret value => exact ⟨footprint, start⟩
  | call request next ih =>
    intro reply
    obtain ⟨permitted, kept⟩ := keeps seen request reply (footprint reply).1 start
    exact ⟨permitted, ih reply kept (footprint reply).2⟩

section Unheard

def Unheard (monitor : Monitor S M) (seen : M) (process : Process S σ A) : Prop :=
  ∀ (state : σ) (post : A → σ → M → Prop),
    (∀ value, post value state seen) → process.wp monitor state seen post

theorem unheard_pure (value : A) : Unheard monitor seen (pure value : Process S σ A) :=
  fun _ _ next => next value

theorem unheard_get : Unheard monitor seen (get : Process S σ σ) :=
  fun state _ next => next state

theorem unheard_bind {process : Process S σ B} {next : B → Process S σ A}
    (first : Unheard monitor seen process) (rest : ∀ value, Unheard monitor seen (next value)) :
    Unheard monitor seen (process >>= next) := by
  intro state post holds
  rw [wp_bind]
  exact first state _ fun value => rest value state post holds

theorem unheard_ite {condition : Prop} [Decidable condition] {yes no : Process S σ A}
    (first : Unheard monitor seen yes) (second : Unheard monitor seen no) :
    Unheard monitor seen (if condition then yes else no) := by
  split
  · exact first
  · exact second

theorem unheard_perform {quiet : S.Request → Bool} (ignores : monitor.Ignores seen quiet)
    (request : S.Request) (silent : quiet request = true) :
    Unheard monitor seen (perform request : Process S σ _) :=
  fun state post next => (wp_quiet state seen ignores request silent post).mpr next

end Unheard

section Maintains

variable {holds : σ → M → Prop}

def Maintains (monitor : Monitor S M) (holds : σ → M → Prop) (process : Process S σ A) : Prop :=
  ∀ state seen, holds state seen → process.wp monitor state seen fun _ final later => holds final later

theorem maintains_pure (value : A) : Maintains monitor holds (pure value : Process S σ A) :=
  fun _ _ held => held

theorem maintains_get : Maintains monitor holds (get : Process S σ σ) := fun _ _ held => held

theorem maintains_modify {update : σ → σ} (kept : ∀ state seen, holds state seen → holds (update state) seen) :
    Maintains monitor holds (modify update : Process S σ PUnit) := fun state seen held => kept state seen held

theorem maintains_bind {process : Process S σ B} {next : B → Process S σ A}
    (first : Maintains monitor holds process) (rest : ∀ value, Maintains monitor holds (next value)) :
    Maintains monitor holds (process >>= next) := by
  intro state seen held
  rw [wp_bind]
  exact (first state seen held).mono fun value final later kept => rest value final later kept

theorem maintains_get_bind {next : σ → Process S σ A}
    (rest : ∀ state seen, holds state seen → (next state).wp monitor state seen fun _ final later =>
      holds final later) : Maintains monitor holds (get >>= next) := by
  intro state seen held
  rw [wp_bind, wp_get]
  exact rest state seen held

theorem maintains_ite {condition : Prop} [Decidable condition] {yes no : Process S σ A}
    (first : Maintains monitor holds yes) (second : Maintains monitor holds no) :
    Maintains monitor holds (if condition then yes else no) := by
  split
  · exact first
  · exact second

theorem maintains_of_unheard {process : Process S σ A} (unheard : ∀ seen, Unheard monitor seen process) :
    Maintains monitor holds process :=
  fun state seen held => unheard seen state _ fun _ => held

end Maintains

section Outcome

variable (oracle : (request : S.Request) → S.Reply request) (state : σ)

def outcome (process : Process S σ A) (state : σ) : A × σ := ((process state).replay oracle).2

@[simp] theorem outcome_pure (value : A) : outcome oracle (pure value : Process S σ A) state = (value, state) := rfl

theorem replay_bind (program : Program S A) (next : A → Program S B) :
    ((program.bind next).replay oracle).2 = ((next (program.replay oracle).2).replay oracle).2 := by
  induction program with
  | ret value => rfl
  | call request rest ih => exact ih (oracle request)

@[simp] theorem outcome_bind (process : Process S σ B) (next : B → Process S σ A) :
    outcome oracle (process >>= next) state =
      outcome oracle (next (outcome oracle process state).1) (outcome oracle process state).2 :=
  replay_bind oracle (process state) _

@[simp] theorem outcome_map (process : Process S σ B) (apply : B → A) :
    outcome oracle (apply <$> process) state =
      (apply (outcome oracle process state).1, (outcome oracle process state).2) := by
  rw [map_eq_pure_bind, outcome_bind, outcome_pure]

@[simp] theorem outcome_perform (request : S.Request) :
    outcome oracle (perform request : Process S σ _) state = (oracle request, state) := rfl

@[simp] theorem outcome_get : outcome oracle (get : Process S σ σ) state = (state, state) := rfl

@[simp] theorem outcome_modify (update : σ → σ) :
    outcome oracle (modify update : Process S σ PUnit) state = ((), update state) := rfl

theorem outcome_execution (process : Process S σ A) :
    (process state).Execution ((process state).replay oracle).1 (outcome oracle process state) :=
  Program.replay_execution oracle (process state)

end Outcome

end Process

end Interaction
