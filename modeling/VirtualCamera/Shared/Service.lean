import VirtualCamera.Shared.Interaction

set_option autoImplicit false

namespace Interaction

variable {S : Signature} {A B M H σ : Type}

structure Answer (S : Signature) (H : Type) where
  before : H
  event : Event S
  after : H

/-- What the calls of one party meet: how the shared state answers them, and what everybody else may do to it between
two of them. -/
structure Service (S : Signature) (H : Type) where
  answers : H → Event S → H → Prop
  interferes : H → H → Prop
  idle : ∀ shared, interferes shared shared

inductive Served (service : Service S H) : H → Program S A → List (Answer S H) → A → H → Prop where
  | ret {start final : H} (value : A) (between : service.interferes start final) :
      Served service start (.ret value) [] value final
  | call {start before after final : H} {answers : List (Answer S H)} {value : A} (request : S.Request)
      (next : S.Reply request → Program S A) (reply : S.Reply request) (between : service.interferes start before)
      (answered : service.answers before ⟨request, reply⟩ after)
      (rest : Served service after (next reply) answers value final) :
      Served service start (.call request next) (⟨before, ⟨request, reply⟩, after⟩ :: answers) value final

namespace Served

variable {service : Service S H} {start final : H} {program : Program S A} {answers : List (Answer S H)} {value : A}

theorem execution (served : Served service start program answers value final) :
    program.Execution (answers.map (·.event)) value := by
  induction served with
  | ret value => exact .ret value
  | call request next reply _ _ _ ih => exact .call request next reply _ _ ih

theorem answered (served : Served service start program answers value final) :
    ∀ answer ∈ answers, service.answers answer.before answer.event answer.after := by
  induction served with
  | ret value => simp
  | call request next reply _ here _ ih => exact List.forall_mem_cons.mpr ⟨here, ih⟩

theorem keeps (holds : H → Prop) (served : Served service start program answers value final)
    (interferes : ∀ before after, service.interferes before after → holds before → holds after)
    (answering : ∀ before event after, service.answers before event after → holds before → holds after)
    (held : holds start) : (∀ answer ∈ answers, holds answer.before) ∧ holds final := by
  induction served with
  | ret value between => exact ⟨by simp, interferes _ _ between held⟩
  | call request next reply between here _ ih =>
    have before := interferes _ _ between held
    obtain ⟨later, last⟩ := ih (answering _ _ _ here before)
    exact ⟨List.forall_mem_cons.mpr ⟨before, later⟩, last⟩

theorem settles (holds : H → Prop) (served : Served service start program answers value final)
    (interferes : ∀ before after, service.interferes before after → holds before → holds after)
    (answering : ∀ before event after, service.answers before event after → holds before → holds after)
    {answer : Answer S H} (member : answer ∈ answers) (established : holds answer.after) : holds final := by
  induction served with
  | ret value => cases member
  | call request next reply _ _ rest ih =>
    rcases List.mem_cons.mp member with rfl | later
    · exact (rest.keeps holds interferes answering established).2
    · exact ih later

theorem tracks (monitor : Monitor S M) (relates : M → H → Prop)
    (served : Served service start program answers value final)
    (interferes : ∀ seen before after, service.interferes before after → relates seen before → relates seen after)
    (answering : ∀ seen before event after, service.answers before event after → relates seen before →
      relates (monitor.observe seen event) after)
    {seen : M} (related : relates seen start) :
    relates (monitor.follow seen (answers.map (·.event))) final := by
  induction served generalizing seen with
  | ret value between => exact interferes _ _ _ between related
  | call request next reply between here _ ih =>
    exact ih (answering _ _ _ _ here (interferes _ _ _ between related))

theorem of_bind {B : Type} {next : A → Program S B} {value : B}
    (served : Served service start (program.bind next) answers value final) :
    ∃ early middle shared late, answers = early ++ late ∧ Served service start program early middle shared ∧
      Served service shared (next middle) late value final := by
  induction program generalizing start answers with
  | ret middle => exact ⟨[], middle, start, answers, rfl, .ret middle (service.idle start), served⟩
  | call request rest ih =>
    cases served with
    | call _ _ reply between answered tail =>
      obtain ⟨early, middle, shared, late, rfl, first, second⟩ := ih reply tail
      exact ⟨_, middle, shared, late, rfl, .call request rest reply between answered first, second⟩

theorem of_ret {result : A} (served : Served service start (.ret value) answers result final) :
    answers = [] ∧ result = value ∧ service.interferes start final := by
  cases served with
  | ret value between => exact ⟨rfl, rfl, between⟩

theorem of_perform {request : S.Request} {state last : σ} {reply : S.Reply request}
    (served : Served service start (Process.perform request state) answers (reply, last) final) :
    ∃ before after, service.interferes start before ∧ service.answers before ⟨request, reply⟩ after ∧
      service.interferes after final ∧ answers = [⟨before, ⟨request, reply⟩, after⟩] ∧ last = state := by
  cases served with
  | call request next reply between answered rest =>
    obtain ⟨rfl, result, ending⟩ := rest.of_ret
    cases result
    exact ⟨_, _, between, answered, ending, rfl, rfl⟩

theorem of_get_bind {state last : σ} {next : σ → Process S σ A} {value : A}
    (served : Served service start ((get >>= next) state) answers (value, last) final) :
    Served service start (next state state) answers (value, last) final := served

theorem of_modify_bind {state last : σ} {update : σ → σ} {next : PUnit → Process S σ A} {value : A}
    (served : Served service start ((modify update >>= next) state) answers (value, last) final) :
    Served service start (next () (update state)) answers (value, last) final := served

end Served

def Program.attend (respond : H → (request : S.Request) → S.Reply request × H) :
    Program S A → H → List (Answer S H) × A × H
  | .ret value, shared => ([], value, shared)
  | .call request next, shared =>
    let (answers, value, final) := (next (respond shared request).1).attend respond (respond shared request).2
    (⟨shared, ⟨request, (respond shared request).1⟩, (respond shared request).2⟩ :: answers, value, final)

theorem Served.attend (service : Service S H) {respond : H → (request : S.Request) → S.Reply request × H}
    (answering : ∀ shared request,
      service.answers shared ⟨request, (respond shared request).1⟩ (respond shared request).2)
    (program : Program S A) (shared : H) :
    Served service shared program (program.attend respond shared).1 (program.attend respond shared).2.1
      (program.attend respond shared).2.2 := by
  induction program generalizing shared with
  | ret value => exact .ret value (service.idle shared)
  | call request next ih => exact .call request next _ (service.idle shared) (answering shared request) (ih _ _)

end Interaction
