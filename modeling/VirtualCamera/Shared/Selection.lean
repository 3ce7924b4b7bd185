import Mathlib.Data.List.Basic
import Mathlib.Order.MinMax

set_option autoImplicit false

namespace Selection

variable {A K : Type}

def better (admits : A → Bool) (beats : A → A → Bool) (best : Option A) (candidate : A) : Option A :=
  if admits candidate && best.all (beats candidate) then some candidate else best

/-- One pass that keeps the first admitted element no later admitted element beats. -/
def pick (admits : A → Bool) (beats : A → A → Bool) (candidates : List A) : Option A :=
  candidates.foldl (better admits beats) none

theorem better_some (admits : A → Bool) (beats : A → A → Bool) (best : Option A) (candidate x : A)
    (kept : better admits beats best candidate = some x) :
    (x = candidate ∧ admits candidate = true) ∨ best = some x := by
  unfold better at kept
  split at kept
  next taken =>
    simp only [Bool.and_eq_true] at taken
    exact .inl ⟨(Option.some.inj kept).symm, taken.1⟩
  next => exact .inr kept

theorem fold_mem (admits : A → Bool) (beats : A → A → Bool) (candidates : List A)
    (best : Option A) (x : A) (picked : candidates.foldl (better admits beats) best = some x) :
    (x ∈ candidates ∧ admits x = true) ∨ best = some x := by
  induction candidates generalizing best with
  | nil => exact .inr picked
  | cons candidate rest ih =>
    rcases ih _ picked with ⟨member, admitted⟩ | kept
    · exact .inl ⟨List.mem_cons_of_mem _ member, admitted⟩
    · rcases better_some admits beats best candidate x kept with ⟨rfl, admitted⟩ | old
      · exact .inl ⟨List.mem_cons_self, admitted⟩
      · exact .inr old

theorem pick_mem (admits : A → Bool) (beats : A → A → Bool) (candidates : List A) (x : A)
    (picked : pick admits beats candidates = some x) : x ∈ candidates ∧ admits x = true := by
  rcases fold_mem admits beats candidates none x picked with found | absent
  · exact found
  · cases absent

theorem better_isSome (admits : A → Bool) (beats : A → A → Bool) (best : Option A) (candidate : A)
    (nonempty : best.isSome ∨ admits candidate = true) :
    (better admits beats best candidate).isSome := by
  unfold better
  split
  next => rfl
  next refused =>
    cases best with
    | some _ => rfl
    | none => simp_all

theorem fold_isSome (admits : A → Bool) (beats : A → A → Bool) (candidates : List A)
    (best : Option A) (nonempty : best.isSome ∨ ∃ x ∈ candidates, admits x = true) :
    (candidates.foldl (better admits beats) best).isSome := by
  induction candidates generalizing best with
  | nil => simpa using nonempty
  | cons candidate rest ih =>
    apply ih
    rcases nonempty with present | ⟨x, member, admitted⟩
    · exact .inl (better_isSome admits beats best candidate (.inl present))
    · rcases List.mem_cons.mp member with rfl | later
      · exact .inl (better_isSome admits beats best x (.inr admitted))
      · exact .inr ⟨x, later, admitted⟩

theorem pick_isSome (admits : A → Bool) (beats : A → A → Bool) (candidates : List A) (x : A)
    (member : x ∈ candidates) (admitted : admits x = true) :
    (pick admits beats candidates).isSome :=
  fold_isSome admits beats candidates none (.inr ⟨x, member, admitted⟩)

theorem pick_congr (admits admits' : A → Bool) (beats : A → A → Bool) (candidates : List A)
    (same : ∀ x ∈ candidates, admits x = admits' x) :
    pick admits beats candidates = pick admits' beats candidates := by
  apply List.foldl_ext
  intro best x member
  simp only [better, same x member]

section Least

variable [LinearOrder K] (key : A → K)

theorem fold_least (admits : A → Bool) (beats : A → A → Bool) (candidates : List A)
    (best : Option A) (x : A)
    (keyed : ∀ a b, admits a = true → admits b = true → (beats a b = true ↔ key a < key b))
    (start : ∀ b, best = some b → admits b = true)
    (picked : candidates.foldl (better admits beats) best = some x) :
    (∀ b, best = some b → key x ≤ key b) ∧
      ∀ y ∈ candidates, admits y = true → key x ≤ key y := by
  induction candidates generalizing best with
  | nil =>
    refine ⟨?_, by simp⟩
    intro b held
    rw [List.foldl_nil, held] at picked
    exact le_of_eq (congrArg key (Option.some.inj picked).symm)
  | cons candidate rest ih =>
    have admitted : ∀ b, better admits beats best candidate = some b → admits b = true := by
      intro b kept
      rcases better_some admits beats best candidate b kept with ⟨rfl, fits⟩ | old
      · exact fits
      · exact start b old
    obtain ⟨below, later⟩ := ih (better admits beats best candidate) admitted picked
    by_cases taken : admits candidate = true ∧ best.all (beats candidate) = true
    · have next : better admits beats best candidate = some candidate := by
        simp [better, taken.1, taken.2]
      have first := below candidate next
      refine ⟨?_, ?_⟩
      · intro b held
        have beaten : beats candidate b = true := by simpa [held] using taken.2
        exact le_trans first (le_of_lt ((keyed candidate b taken.1 (start b held)).mp beaten))
      · intro y member fits
        rcases List.mem_cons.mp member with rfl | inside
        · exact first
        · exact later y inside fits
    · have next : better admits beats best candidate = best := by
        unfold better
        rw [if_neg (by simpa using taken)]
      rw [next] at below
      refine ⟨below, ?_⟩
      intro y member fits
      rcases List.mem_cons.mp member with rfl | inside
      · -- An admitted candidate is passed over only for a best at least as small.
        cases held : best with
        | none => exact absurd ⟨fits, by simp [held]⟩ taken
        | some b =>
          have unbeaten : ¬ beats y b = true := fun beaten => taken ⟨fits, by simpa [held] using beaten⟩
          have above : key b ≤ key y :=
            not_lt.mp fun less => unbeaten ((keyed y b fits (start b held)).mpr less)
          exact le_trans (below b held) above
      · exact later y inside fits

theorem pick_least (admits : A → Bool) (beats : A → A → Bool) (candidates : List A) (x : A)
    (keyed : ∀ a b, admits a = true → admits b = true → (beats a b = true ↔ key a < key b))
    (picked : pick admits beats candidates = some x) :
    ∀ y ∈ candidates, admits y = true → key x ≤ key y :=
  (fold_least key admits beats candidates none x keyed (by simp) picked).2

theorem pick_eq_some_iff (admits : A → Bool) (beats : A → A → Bool) (candidates : List A) (x : A)
    (keyed : ∀ a b, admits a = true → admits b = true → (beats a b = true ↔ key a < key b))
    (separated : ∀ a ∈ candidates, ∀ b ∈ candidates, admits a = true → admits b = true →
      key a = key b → a = b) :
    pick admits beats candidates = some x ↔
      x ∈ candidates ∧ admits x = true ∧ ∀ y ∈ candidates, admits y = true → key x ≤ key y := by
  constructor
  · intro picked
    obtain ⟨member, admitted⟩ := pick_mem admits beats candidates x picked
    exact ⟨member, admitted, pick_least key admits beats candidates x keyed picked⟩
  · rintro ⟨member, admitted, least⟩
    obtain ⟨y, picked⟩ := Option.isSome_iff_exists.mp
      (pick_isSome admits beats candidates x member admitted)
    obtain ⟨inside, fits⟩ := pick_mem admits beats candidates y picked
    have below := pick_least key admits beats candidates y keyed picked x member admitted
    have same : y = x := separated y inside x member fits admitted (le_antisymm below (least y inside fits))
    rw [picked, same]

end Least

section Extremes

variable [LinearOrder K] (key : A → K)

theorem foldl_max_le_iff (candidates : List A) (start bound : K) :
    candidates.foldl (fun high x => max high (key x)) start ≤ bound ↔
      start ≤ bound ∧ ∀ x ∈ candidates, key x ≤ bound := by
  induction candidates generalizing start with
  | nil => simp
  | cons x rest ih => simp [ih, and_assoc]

theorem le_foldl_min_iff (candidates : List A) (start bound : K) :
    bound ≤ candidates.foldl (fun low x => min low (key x)) start ↔
      bound ≤ start ∧ ∀ x ∈ candidates, bound ≤ key x := by
  induction candidates generalizing start with
  | nil => simp
  | cons x rest ih => simp [ih, and_assoc]

theorem foldl_max_perm {candidates others : List A} (shuffled : candidates.Perm others) (start : K) :
    candidates.foldl (fun high x => max high (key x)) start = others.foldl (fun high x => max high (key x)) start :=
  shuffled.foldl_eq' (fun x _ y _ z => max_right_comm z (key x) (key y)) start

theorem foldl_min_perm {candidates others : List A} (shuffled : candidates.Perm others) (start : K) :
    candidates.foldl (fun low x => min low (key x)) start = others.foldl (fun low x => min low (key x)) start :=
  shuffled.foldl_eq' (fun x _ y _ z => min_right_comm z (key x) (key y)) start

end Extremes

end Selection
