import Mathlib.Data.List.Induction

set_option autoImplicit false

namespace Runs

variable {σ L : Type} {step : σ → L → σ → Prop}

inductive Run (step : σ → L → σ → Prop) (start : σ) : List L → σ → Prop where
  | refl : Run step start [] start
  | snoc {labels : List L} {middle final : σ} {label : L} (run : Run step start labels middle)
      (next : step middle label final) : Run step start (labels ++ [label]) final

/-- The history counts as part of the state, so an invariant may speak of it. -/
theorem Run.invariant {start final : σ} {labels : List L} (holds : List L → σ → Prop)
    (run : Run step start labels final) (initial : holds [] start)
    (preserved : ∀ past middle label after, Run step start past middle → holds past middle →
      step middle label after → holds (past ++ [label]) after) : holds labels final := by
  induction run with
  | refl => exact initial
  | snoc run next ih => exact preserved _ _ _ _ run ih next

theorem Run.always {start final : σ} {labels : List L} (holds : σ → Prop) (allowed : L → Prop)
    (run : Run step start labels final) (initial : holds start)
    (permitted : ∀ label ∈ labels, allowed label)
    (preserved : ∀ middle label after, allowed label → holds middle → step middle label after →
      holds after) : holds final := by
  induction run with
  | refl => exact initial
  | snoc run next ih =>
    have earlier := ih fun label member => permitted label (List.mem_append_left _ member)
    exact preserved _ _ _ (permitted _ (by simp)) earlier next

theorem Run.single {start final : σ} {label : L} (next : step start label final) :
    Run step start [label] final := .snoc .refl next

theorem Run.of_nil {start final : σ} (run : Run step start [] final) : start = final := by
  generalize shape : ([] : List L) = labels at run
  cases run with
  | refl => rfl
  | snoc => simp at shape

theorem Run.of_single {start final : σ} {label : L} (run : Run step start [label] final) :
    step start label final := by
  generalize shape : [label] = labels at run
  cases run with
  | refl => simp at shape
  | snoc run next =>
    obtain ⟨rfl, last⟩ := (List.append_eq_singleton_iff.mp shape.symm).resolve_right (by simp)
    cases last
    rwa [run.of_nil]

theorem Run.append {start middle final : σ} {labels later : List L} (run : Run step start labels middle)
    (rest : Run step middle later final) : Run step start (labels ++ later) final := by
  induction rest with
  | refl => simpa using run
  | snoc _ next ih =>
    rw [← List.append_assoc]
    exact .snoc ih next

theorem Run.split {start final : σ} {labels later : List L}
    (run : Run step start (labels ++ later) final) :
    ∃ middle, Run step start labels middle ∧ Run step middle later final := by
  induction later using List.reverseRecOn generalizing final with
  | nil => exact ⟨final, by simpa using run, .refl⟩
  | append_singleton later label ih =>
    rw [← List.append_assoc] at run
    generalize shape : labels ++ later ++ [label] = all at run
    cases run with
    | refl => simp at shape
    | snoc run next =>
      obtain ⟨same, last⟩ := List.append_inj' shape rfl
      cases last
      rw [← same] at run
      obtain ⟨middle, early, late⟩ := ih run
      exact ⟨middle, early, .snoc late next⟩

theorem Run.unique {start first second : σ} {labels : List L} (run : Run step start labels first)
    (deterministic : ∀ state label left right, step state label left → step state label right →
      left = right) (other : Run step start labels second) : first = second := by
  induction run generalizing second with
  | refl =>
    generalize shape : ([] : List L) = all at other
    cases other with
    | refl => rfl
    | snoc => simp at shape
  | snoc run next ih =>
    generalize shape : _ ++ [_] = all at other
    cases other with
    | refl => simp at shape
    | snoc earlier last =>
      obtain ⟨same, label⟩ := List.append_inj' shape rfl
      cases label
      subst same
      cases ih earlier
      exact deterministic _ _ _ _ next last

def Happened (step : σ → L → σ → Prop) (start : σ) (past : List L) (before : σ) (label : L)
    (since : List L) : Prop :=
  ∃ early, past = early ++ label :: since ∧ Run step start early before

theorem Happened.last {start before : σ} {past : List L} (run : Run step start past before) (label : L) :
    Happened step start (past ++ [label]) before label [] := ⟨past, rfl, run⟩

theorem Happened.snoc {start before : σ} {past since : List L} {label : L}
    (happened : Happened step start past before label since) (next : L) :
    Happened step start (past ++ [next]) before label (since ++ [next]) := by
  obtain ⟨early, shape, run⟩ := happened
  exact ⟨early, by simp [shape], run⟩

theorem happened_nil {start before : σ} {label : L} {since : List L} :
    ¬ Happened step start [] before label since := by
  rintro ⟨early, shape, _⟩
  simp at shape

theorem Happened.of_snoc {start before : σ} {past since : List L} {label next : L}
    (happened : Happened step start (past ++ [next]) before label since) :
    (since = [] ∧ label = next ∧ Run step start past before) ∨
      ∃ earlier, since = earlier ++ [next] ∧ Happened step start past before label earlier := by
  obtain ⟨early, shape, run⟩ := happened
  induction since using List.reverseRecOn with
  | nil =>
    obtain ⟨rfl, last⟩ := List.append_inj' shape rfl
    exact .inl ⟨rfl, (List.singleton_inj.mp last).symm, run⟩
  | append_singleton earlier last _ =>
    rw [← List.cons_append, ← List.append_assoc] at shape
    obtain ⟨same, final⟩ := List.append_inj' shape rfl
    cases final
    exact .inr ⟨earlier, rfl, early, same, run⟩

theorem Happened.later {start before : σ} {early since since' : List L} {label label' : L}
    (happened : Happened step start (early ++ label :: since) before label' since')
    (shorter : since'.length < since.length) :
    ∃ between, since = between ++ label' :: since' ∧ Run step start (early ++ label :: between) before := by
  obtain ⟨early', shape, run⟩ := happened
  rcases List.append_eq_append_iff.mp shape with ⟨added, grown, rest⟩ | ⟨missing, _, rest⟩
  · cases added with
    | nil =>
      obtain ⟨_, rfl⟩ := List.cons.inj rest
      exact absurd shorter (Nat.lt_irrefl _)
    | cons first between =>
      obtain ⟨rfl, rfl⟩ := List.cons.inj rest
      exact ⟨between, rfl, grown ▸ run⟩
  · have longer := congrArg List.length rest
    simp only [List.length_cons, List.length_append] at longer
    omega

theorem Happened.rest {start before final : σ} {past since : List L} {label : L}
    (happened : Happened step start past before label since) (run : Run step start past final)
    (deterministic : ∀ state label left right, step state label left → step state label right →
      left = right) : ∃ next, step before label next ∧ Run step next since final := by
  obtain ⟨early, shape, reached⟩ := happened
  rw [shape, ← List.singleton_append] at run
  obtain ⟨middle, first, later⟩ := run.split
  obtain rfl := reached.unique deterministic first
  obtain ⟨next, taken, rest⟩ := later.split
  exact ⟨next, taken.of_single, rest⟩

theorem Run.mono {wider : σ → L → σ → Prop} {start final : σ} {labels : List L} (run : Run step start labels final)
    (inside : ∀ state label after, step state label after → wider state label after) :
    Run wider start labels final := by
  induction run with
  | refl => exact .refl
  | snoc _ next ih => exact .snoc ih (inside _ _ _ next)

theorem Run.of_foldlM {next : σ → L → Option σ} {start final : σ} {labels : List L}
    (folds : labels.foldlM next start = some final) :
    Run (fun state label after => next state label = some after) start labels final := by
  induction labels generalizing start with
  | nil =>
    cases folds
    exact .refl
  | cons label labels ih =>
    rw [List.foldlM_cons, Option.bind_eq_bind, Option.bind_eq_some_iff] at folds
    obtain ⟨middle, first, rest⟩ := folds
    exact (Run.single first).append (ih rest)

theorem Run.of_any {next : σ → L → Option σ} {start : σ} {labels : List L} {check : σ → Bool}
    (computed : (labels.foldlM next start).any check = true) :
    ∃ final, Run (fun state label after => next state label = some after) start labels final ∧
      check final = true := by
  obtain ⟨final, folds, checked⟩ := (Option.any_eq_true _ _).mp computed
  exact ⟨final, .of_foldlM folds, checked⟩

end Runs
