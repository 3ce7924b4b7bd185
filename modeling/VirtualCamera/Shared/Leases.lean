import Mathlib.Data.Finset.Basic

set_option autoImplicit false

namespace Leases

inductive Errand (C S : Type) where
  | placing (tenant : C)
  | finding (tenant : C)
  | evicting (tenant : C) (slot : S)
  | dropping (tenant : C)
  | ordering (tenant : C) (slot : S)

/-- Slots that are let to tenants by several parties. A tenant that leaves keeps its slot until the work that was
ordered for it is done. -/
structure Books (C S K : Type) where
  known : C → Prop
  registered : Finset C
  seat : C → Option S
  tenant : S → Option C
  leaving : S → Bool
  errands : K → Option (Errand C S)
  orders : S → List C
  barred : Finset C

variable {C S K : Type}

def Errand.Clashes : Errand C S → Errand C S → Prop
  | .placing tenant, .placing other | .placing tenant, .evicting other _ | .placing tenant, .dropping other
  | .evicting other _, .placing tenant | .dropping other, .placing tenant => tenant = other
  | .ordering _ slot, .ordering _ other => slot = other
  | _, _ => False

def Errand.Removes (tenant : C) : Errand C S → Prop
  | .finding other | .evicting other _ | .dropping other => other = tenant
  | .placing _ | .ordering .. => False

theorem Errand.Clashes.symm {errand against : Errand C S} (clashes : errand.Clashes against) :
    against.Clashes errand := by
  cases errand <;> cases against <;> first | exact clashes | exact Eq.symm clashes

namespace Books

def Holds (books : Books C S K) (tenant : C) (slot : S) : Prop :=
  tenant ∈ books.registered ∧ books.tenant slot = some tenant ∧ books.leaving slot = false

def Fits (books : Books C S K) : Errand C S → Prop
  | .placing tenant => books.known tenant ∧ tenant ∉ books.registered
  | .finding _ => True
  | .evicting tenant slot => books.known tenant ∧ (tenant ∈ books.registered → books.seat tenant = some slot)
  | .dropping tenant => books.known tenant ∧ (tenant ∈ books.registered → books.seat tenant = none)
  | .ordering tenant slot =>
    books.tenant slot = some tenant ∧ books.leaving slot = true ∧ books.orders slot = []

structure Sound (books : Books C S K) : Prop where
  listed : ∀ tenant ∈ books.registered, books.known tenant
  unseated : ∀ tenant, tenant ∉ books.registered → books.seat tenant = none
  seated : ∀ tenant slot, tenant ∈ books.registered → books.seat tenant = some slot →
    books.tenant slot = some tenant ∧ books.leaving slot = false
  present : ∀ tenant slot, books.tenant slot = some tenant → books.leaving slot = false →
    tenant ∈ books.registered ∧ books.seat tenant = some slot
  vacant : ∀ slot, books.tenant slot = none → books.leaving slot = false
  ordered : ∀ slot, ∀ tenant ∈ books.orders slot, books.tenant slot = some tenant ∧ books.leaving slot = true
  once : ∀ slot, (books.orders slot).length ≤ 1
  fits : ∀ key errand, books.errands key = some errand → books.Fits errand
  apart : ∀ key other errand against, key ≠ other → books.errands key = some errand →
    books.errands other = some against → ¬ errand.Clashes against

def Free (books : Books C S K) (tenant : C) : Prop :=
  ∀ key errand, books.errands key = some errand → ¬ Errand.Clashes (.placing tenant) errand

variable {books after : Books C S K} {tenant : C} {slot : S}

def fresh (known : C → Prop) : Books C S K where
  known := known
  registered := ∅
  seat := fun _ => none
  tenant := fun _ => none
  leaving := fun _ => false
  errands := fun _ => none
  orders := fun _ => []
  barred := ∅

theorem fresh_sound (known : C → Prop) : (fresh known : Books C S K).Sound where
  listed := by simp [fresh]
  unseated := by simp [fresh]
  seated := by simp [fresh]
  present := by simp [fresh]
  vacant := by simp [fresh]
  ordered := by simp [fresh]
  once := by simp [fresh]
  fits := by simp [fresh]
  apart := by simp [fresh]

structure Homes (books : Books C S K) : Prop where
  known : ∀ slot tenant, books.tenant slot = some tenant → books.known tenant
  coming : ∀ key tenant slot, books.errands key = some (.placing tenant) → books.tenant slot ≠ some tenant
  single : ∀ slot other tenant, books.tenant slot = some tenant → books.tenant other = some tenant → slot = other

theorem fresh_homes (known : C → Prop) : (fresh known : Books C S K).Homes where
  known _ _ held := by cases held
  coming _ _ _ here := by cases here
  single _ _ _ held := by cases held

theorem Sound.no_orders (sound : books.Sound) (stays : books.leaving slot = false) : books.orders slot = [] := by
  refine List.eq_nil_iff_forall_not_mem.mpr fun other member => ?_
  cases stays.symm.trans (sound.ordered slot other member).2

theorem Sound.free_of_fresh (sound : books.Sound) (fresh : ¬ books.known tenant) : books.Free tenant := by
  intro key errand begun clashes
  have fits := sound.fits key errand begun
  cases errand with
  | placing other | evicting other place | dropping other =>
    cases clashes
    exact fresh fits.1
  | finding other | ordering other place => exact clashes

theorem Sound.meet (sound : books.Sound) {known : C → Prop}
    (knows : ∀ other, known other ↔ other = tenant ∨ books.known other) :
    ({ books with known } : Books C S K).Sound where
  listed := fun other member => (knows other).mpr (.inr (sound.listed other member))
  unseated := sound.unseated
  seated := sound.seated
  present := sound.present
  vacant := sound.vacant
  ordered := sound.ordered
  once := sound.once
  fits := by
    intro key errand begun
    have fits := sound.fits key errand begun
    cases errand with
    | placing other | evicting other place | dropping other => exact ⟨(knows other).mpr (.inr fits.1), fits.2⟩
    | finding other => trivial
    | ordering other place => exact fits
  apart := sound.apart

def Handled (books : Books C S K) (key : K) (tenant : C) : Prop :=
  tenant ∈ books.barred ∧ (tenant ∈ books.registered →
    ∃ errand, books.errands key = some errand ∧ errand.Removes tenant)

theorem Handled.absurd {key other : K} {errand : Errand C S} {goal : Prop} (handled : books.Handled key tenant)
    (here : books.errands other = some errand) (stays : ¬ errand.Removes tenant) (same : key = other)
    (member : tenant ∈ books.registered) : goal := by
  subst same
  obtain ⟨begun, there, removes⟩ := handled.2 member
  cases here.symm.trans there
  exact (stays removes).elim

theorem Handled.busy {key other : K} {goal : Prop} (handled : books.Handled key tenant)
    (free : books.errands other = none) (same : key = other) (member : tenant ∈ books.registered) : goal := by
  subst same
  obtain ⟨begun, there, _⟩ := handled.2 member
  cases free.symm.trans there

section Slots

variable [DecidableEq S]

def order (books : Books C S K) (tenant : C) (slot : S) : Books C S K :=
  { books with orders := Function.update books.orders slot (books.orders slot ++ [tenant]) }

def vacate (books : Books C S K) (slot : S) (rest : List C) : Books C S K :=
  { books with
    tenant := Function.update books.tenant slot none
    leaving := Function.update books.leaving slot false
    orders := Function.update books.orders slot rest }

theorem Sound.order (sound : books.Sound) (fits : books.Fits (.ordering tenant slot))
    (alone : ∀ key errand, books.errands key = some errand → ¬ Errand.Clashes (.ordering tenant slot) errand) :
    (books.order tenant slot).Sound := by
  obtain ⟨here, leaves, idle⟩ := fits
  have orders : (books.order tenant slot).orders slot = [tenant] := by
    rw [Books.order, idle]
    exact Function.update_self _ _ _
  have others {place : S} (elsewhere : place ≠ slot) : (books.order tenant slot).orders place = books.orders place :=
    Function.update_of_ne elsewhere _ _
  refine
    { listed := sound.listed, unseated := sound.unseated, seated := sound.seated, present := sound.present
      vacant := sound.vacant, ordered := ?_, once := ?_, fits := ?_, apart := sound.apart }
  · intro place other member
    by_cases same : place = slot
    next =>
      subst same
      rw [orders] at member
      cases List.mem_singleton.mp member
      exact ⟨here, leaves⟩
    next =>
      rw [others same] at member
      exact sound.ordered place other member
  · intro place
    by_cases same : place = slot
    next =>
      subst same
      rw [orders, List.length_singleton]
    next =>
      rw [others same]
      exact sound.once place
  · intro key errand begun
    have fits := sound.fits key errand begun
    cases errand with
    | placing other | finding other | evicting other place | dropping other => exact fits
    | ordering other place =>
      have elsewhere : place ≠ slot := fun same => alone key _ begun same.symm
      exact ⟨fits.1, fits.2.1, (others elsewhere).trans fits.2.2⟩

theorem Sound.vacate (sound : books.Sound) {rest : List C} (first : books.orders slot = tenant :: rest) :
    (books.vacate slot rest).Sound := by
  have once := sound.once slot
  rw [first, List.length_cons] at once
  have done : rest = [] := List.eq_nil_of_length_eq_zero (by omega)
  obtain ⟨here, leaves⟩ := sound.ordered slot tenant (by simp [first])
  have others {place : S} (elsewhere : place ≠ slot) : (books.vacate slot rest).orders place = books.orders place :=
    Function.update_of_ne elsewhere _ _
  refine
    { listed := sound.listed, unseated := sound.unseated, seated := ?_, present := ?_, vacant := ?_, ordered := ?_
      once := ?_, fits := ?_, apart := sound.apart }
  · intro other place member seated
    obtain ⟨there, stays⟩ := sound.seated other place member seated
    have elsewhere : place ≠ slot := by
      rintro rfl
      cases stays.symm.trans leaves
    exact ⟨(Function.update_of_ne elsewhere _ _).trans there, (Function.update_of_ne elsewhere _ _).trans stays⟩
  · intro other place there stays
    have elsewhere : place ≠ slot := by
      rintro rfl
      cases (Function.update_self _ _ _).symm.trans there
    exact sound.present other place ((Function.update_of_ne elsewhere _ _).symm.trans there)
      ((Function.update_of_ne elsewhere _ _).symm.trans stays)
  · intro place empty
    by_cases same : place = slot
    next =>
      subst same
      exact Function.update_self _ _ _
    next =>
      exact (Function.update_of_ne same _ _).trans
        (sound.vacant place ((Function.update_of_ne same _ _).symm.trans empty))
  · intro place other member
    have elsewhere : place ≠ slot := by
      rintro rfl
      simp [vacate, done] at member
    obtain ⟨there, leaving⟩ := sound.ordered place other (by rwa [others elsewhere] at member)
    exact ⟨(Function.update_of_ne elsewhere _ _).trans there, (Function.update_of_ne elsewhere _ _).trans leaving⟩
  · intro place
    by_cases same : place = slot
    next =>
      subst same
      simp [vacate, done]
    next =>
      rw [others same]
      exact sound.once place
  · intro key errand begun
    have fits := sound.fits key errand begun
    cases errand with
    | placing other | finding other | evicting other place | dropping other => exact fits
    | ordering other place =>
      have elsewhere : place ≠ slot := by
        rintro rfl
        cases first.symm.trans fits.2.2
      exact ⟨(Function.update_of_ne elsewhere _ _).trans fits.1, (Function.update_of_ne elsewhere _ _).trans fits.2.1,
        (others elsewhere).trans fits.2.2⟩

end Slots

section Tenants

variable [DecidableEq C]

def register (books : Books C S K) (tenant : C) : Books C S K :=
  { books with registered := insert tenant books.registered }

def remove (books : Books C S K) (tenant : C) : Books C S K :=
  { books with registered := books.registered.erase tenant }

theorem remove_absent (absent : tenant ∉ books.registered) : books.remove tenant = books := by
  rw [remove, Finset.erase_eq_of_notMem absent]

theorem Sound.register (sound : books.Sound) (known : books.known tenant) (absent : tenant ∉ books.registered)
    (free : books.Free tenant) : (books.register tenant).Sound where
  listed := by
    intro other member
    rcases Finset.mem_insert.mp member with rfl | earlier
    · exact known
    · exact sound.listed other earlier
  unseated := fun other outside => sound.unseated other fun member => outside (Finset.mem_insert_of_mem member)
  seated := by
    intro other slot member seated
    rcases Finset.mem_insert.mp member with rfl | earlier
    · cases (sound.unseated other absent).symm.trans seated
    · exact sound.seated other slot earlier seated
  present := fun other slot here staying => (sound.present other slot here staying).imp_left Finset.mem_insert_of_mem
  vacant := sound.vacant
  ordered := sound.ordered
  once := sound.once
  fits := by
    intro key errand here
    have fits := sound.fits key errand here
    have other := free key errand here
    have kept {against : C} (apart : tenant ≠ against) (member : against ∈ insert tenant books.registered) :
        against ∈ books.registered := Finset.mem_of_mem_insert_of_ne member apart.symm
    cases errand with
    | placing against => exact ⟨fits.1, fun member => fits.2 (kept other member)⟩
    | finding against => trivial
    | evicting against slot => exact ⟨fits.1, fun member => fits.2 (kept other member)⟩
    | dropping against => exact ⟨fits.1, fun member => fits.2 (kept other member)⟩
    | ordering against slot => exact fits
  apart := sound.apart

theorem Fits.remove {errand : Errand C S} (fits : books.Fits errand) : (books.remove tenant).Fits errand := by
  cases errand with
  | placing other => exact ⟨fits.1, fun member => fits.2 (Finset.mem_of_mem_erase member)⟩
  | finding other => trivial
  | evicting other slot => exact ⟨fits.1, fun member => fits.2 (Finset.mem_of_mem_erase member)⟩
  | dropping other => exact ⟨fits.1, fun member => fits.2 (Finset.mem_of_mem_erase member)⟩
  | ordering other slot => exact fits

theorem Sound.remove (sound : books.Sound) (standing : books.seat tenant = none) : (books.remove tenant).Sound where
  listed := fun other member => sound.listed other (Finset.mem_of_mem_erase member)
  unseated := by
    intro other outside
    by_cases same : other = tenant
    next => rwa [same]
    next => exact sound.unseated other fun member => outside (Finset.mem_erase_of_ne_of_mem same member)
  seated := fun other slot member => sound.seated other slot (Finset.mem_of_mem_erase member)
  present := by
    intro other slot here stays
    obtain ⟨member, seated⟩ := sound.present other slot here stays
    have apart : other ≠ tenant := by
      rintro rfl
      cases standing.symm.trans seated
    exact ⟨Finset.mem_erase_of_ne_of_mem apart member, seated⟩
  vacant := sound.vacant
  ordered := sound.ordered
  once := sound.once
  fits := fun key errand here => (sound.fits key errand here).remove
  apart := sound.apart

theorem Sound.bar (sound : books.Sound) (tenant : C) :
    ({ books with barred := insert tenant books.barred } : Books C S K).Sound where
  listed := sound.listed
  unseated := sound.unseated
  seated := sound.seated
  present := sound.present
  vacant := sound.vacant
  ordered := sound.ordered
  once := sound.once
  fits := by
    intro key errand begun
    cases errand <;> exact sound.fits key _ begun
  apart := sound.apart

theorem Handled.register {key : K} {other : C} (handled : books.Handled key tenant)
    (admitted : other ∉ books.barred) :
    (books.register other).Handled key tenant := by
  refine ⟨handled.1, fun member => handled.2 (Finset.mem_of_mem_insert_of_ne member ?_)⟩
  rintro rfl
  exact admitted handled.1

theorem Handled.remove {key : K} (handled : books.Handled key tenant) (other : C) :
    (books.remove other).Handled key tenant :=
  ⟨handled.1, fun member => handled.2 (Finset.mem_of_mem_erase member)⟩

variable [DecidableEq S]

def settle (books : Books C S K) (tenant : C) (slot : S) : Books C S K :=
  { books.register tenant with
    seat := Function.update books.seat tenant (some slot)
    tenant := Function.update books.tenant slot (some tenant) }

def evict (books : Books C S K) (tenant : C) (slot : S) : Books C S K :=
  { books.remove tenant with
    seat := Function.update books.seat tenant none
    leaving := Function.update books.leaving slot true }

theorem Sound.settle (sound : books.Sound) (known : books.known tenant) (absent : tenant ∉ books.registered)
    (free : books.Free tenant) (vacant : books.tenant slot = none) : (books.settle tenant slot).Sound := by
  have registered := sound.register known absent free
  have staying := sound.vacant slot vacant
  refine
    { listed := registered.listed, unseated := ?_, seated := ?_, present := ?_, vacant := ?_, ordered := ?_
      once := sound.once, fits := ?_, apart := sound.apart }
  · intro other outside
    have apart : other ≠ tenant := by
      rintro rfl
      exact outside (Finset.mem_insert_self _ _)
    exact (Function.update_of_ne apart _ _).trans (registered.unseated other outside)
  · intro other place member seated
    by_cases same : other = tenant
    next =>
      subst same
      cases (Function.update_self _ _ _).symm.trans seated
      exact ⟨Function.update_self _ _ _, staying⟩
    next =>
      obtain ⟨here, stays⟩ := registered.seated other place member ((Function.update_of_ne same _ _).symm.trans seated)
      have elsewhere : place ≠ slot := by
        rintro rfl
        cases vacant.symm.trans here
      exact ⟨(Function.update_of_ne elsewhere _ _).trans here, stays⟩
  · intro other place here stays
    by_cases same : place = slot
    next =>
      subst same
      cases (Function.update_self _ _ _).symm.trans here
      exact ⟨Finset.mem_insert_self _ _, Function.update_self _ _ _⟩
    next =>
      obtain ⟨member, seated⟩ := sound.present other place ((Function.update_of_ne same _ _).symm.trans here) stays
      have apart : other ≠ tenant := by
        rintro rfl
        exact absent member
      exact ⟨Finset.mem_insert_of_mem member, (Function.update_of_ne apart _ _).trans seated⟩
  · intro place empty
    by_cases same : place = slot
    next =>
      subst same
      cases (Function.update_self _ _ _).symm.trans empty
    next => exact sound.vacant place ((Function.update_of_ne same _ _).symm.trans empty)
  · intro place other member
    obtain ⟨here, leaves⟩ := sound.ordered place other member
    have elsewhere : place ≠ slot := by
      rintro rfl
      cases vacant.symm.trans here
    exact ⟨(Function.update_of_ne elsewhere _ _).trans here, leaves⟩
  · intro key errand begun
    have fits := registered.fits key errand begun
    have other := free key errand begun
    cases errand with
    | placing against => exact fits
    | finding against => trivial
    | evicting against place =>
      exact ⟨fits.1, fun member => (Function.update_of_ne (Ne.symm other) _ _).trans (fits.2 member)⟩
    | dropping against =>
      exact ⟨fits.1, fun member => (Function.update_of_ne (Ne.symm other) _ _).trans (fits.2 member)⟩
    | ordering against place =>
      have elsewhere : place ≠ slot := by
        rintro rfl
        cases vacant.symm.trans fits.1
      exact ⟨(Function.update_of_ne elsewhere _ _).trans fits.1, fits.2⟩

theorem Sound.evict (sound : books.Sound) (holds : books.Holds tenant slot) : (books.evict tenant slot).Sound := by
  obtain ⟨member, here, stays⟩ := holds
  have seat := (sound.present tenant slot here stays).2
  have idle := sound.no_orders stays
  refine
    { listed := fun other member => sound.listed other (Finset.mem_of_mem_erase member), unseated := ?_, seated := ?_
      present := ?_, vacant := ?_, ordered := ?_, once := sound.once, fits := ?_, apart := sound.apart }
  · intro other outside
    by_cases same : other = tenant
    next =>
      subst same
      exact Function.update_self _ _ _
    next =>
      refine (Function.update_of_ne same _ _).trans (sound.unseated other fun inside => outside ?_)
      exact Finset.mem_erase_of_ne_of_mem same inside
  · intro other place inside seated
    have apart := Finset.ne_of_mem_erase inside
    obtain ⟨there, remains⟩ := sound.seated other place (Finset.mem_of_mem_erase inside)
      ((Function.update_of_ne apart _ _).symm.trans seated)
    have elsewhere : place ≠ slot := by
      rintro rfl
      cases here.symm.trans there
      exact apart rfl
    exact ⟨there, (Function.update_of_ne elsewhere _ _).trans remains⟩
  · intro other place there remains
    have elsewhere : place ≠ slot := by
      rintro rfl
      cases (Function.update_self _ _ _).symm.trans remains
    obtain ⟨inside, seated⟩ := sound.present other place there
      ((Function.update_of_ne elsewhere _ _).symm.trans remains)
    have apart : other ≠ tenant := by
      rintro rfl
      cases seat.symm.trans seated
      exact elsewhere rfl
    exact ⟨Finset.mem_erase_of_ne_of_mem apart inside, (Function.update_of_ne apart _ _).trans seated⟩
  · intro place empty
    have elsewhere : place ≠ slot := by
      rintro rfl
      cases here.symm.trans empty
    exact (Function.update_of_ne elsewhere _ _).trans (sound.vacant place empty)
  · intro place other inside
    have ordered : other ∈ books.orders place := inside
    have elsewhere : place ≠ slot := by
      rintro rfl
      simp [idle] at ordered
    obtain ⟨there, leaves⟩ := sound.ordered place other inside
    exact ⟨there, (Function.update_of_ne elsewhere _ _).trans leaves⟩
  · intro key errand begun
    have fits : (books.remove tenant).Fits errand := (sound.fits key errand begun).remove
    have unmoved {other : C} (inside : other ∈ books.registered.erase tenant) :
        Function.update books.seat tenant none other = books.seat other :=
      Function.update_of_ne (Finset.ne_of_mem_erase inside) _ _
    cases errand with
    | placing other => exact fits
    | finding other => trivial
    | evicting other place => exact ⟨fits.1, fun inside => (unmoved inside).trans (fits.2 inside)⟩
    | dropping other => exact ⟨fits.1, fun inside => (unmoved inside).trans (fits.2 inside)⟩
    | ordering other place =>
      have elsewhere : place ≠ slot := by
        rintro rfl
        cases stays.symm.trans fits.2.1
      exact ⟨fits.1, (Function.update_of_ne elsewhere _ _).trans fits.2.1, fits.2.2⟩

end Tenants

section Parties

variable [DecidableEq K]

def send (books : Books C S K) (key : K) (errand : Option (Errand C S)) : Books C S K :=
  { books with errands := Function.update books.errands key errand }

theorem Sound.send (sound : books.Sound) (key : K) {errand : Option (Errand C S)}
    (fits : ∀ begun, errand = some begun → books.Fits begun)
    (apart : ∀ other begun against, other ≠ key → errand = some begun → books.errands other = some against →
      ¬ begun.Clashes against) : (books.send key errand).Sound := by
  have others {other : K} (differs : other ≠ key) : (books.send key errand).errands other = books.errands other :=
    Function.update_of_ne differs _ _
  have own : (books.send key errand).errands key = errand := Function.update_self _ _ _
  refine
    { listed := sound.listed, unseated := sound.unseated, seated := sound.seated, present := sound.present
      vacant := sound.vacant, ordered := sound.ordered, once := sound.once, fits := ?_, apart := ?_ }
  · intro other begun here
    by_cases same : other = key
    next =>
      rw [same, own] at here
      exact fits begun here
    next =>
      rw [others same] at here
      exact sound.fits other begun here
  · intro first second begun against differs here there clashes
    by_cases same : first = key
    next =>
      subst same
      rw [own] at here
      rw [others differs.symm] at there
      exact apart second begun against differs.symm here there clashes
    next =>
      rw [others same] at here
      by_cases equal : second = key
      next =>
        subst equal
        rw [own] at there
        exact apart first against begun same there here clashes.symm
      next =>
        rw [others equal] at there
        exact sound.apart first second begun against differs here there clashes

theorem Sound.rest (sound : books.Sound) (key : K) : (books.send key none).Sound :=
  sound.send key (by simp) (by simp)

theorem Sound.find (sound : books.Sound) (key : K) (tenant : C) :
    (books.send key (some (.finding tenant))).Sound := by
  refine sound.send key (fun begun same => ?_) fun other begun against _ same _ clashes => ?_
  · cases same
    trivial
  · cases same
    cases against <;> exact clashes

theorem Sound.free (sound : books.Sound) {key : K} (here : books.errands key = some (.placing tenant)) :
    (books.send key none).Free tenant := by
  intro other errand begun
  by_cases same : other = key
  next =>
    subst same
    cases (Function.update_self _ _ _).symm.trans begun
  next =>
    have there : books.errands other = some errand := (Function.update_of_ne same _ _).symm.trans begun
    exact sound.apart key other _ errand (Ne.symm same) here there

theorem Handled.send {key : K} (handled : books.Handled key tenant) (other : K) (errand : Option (Errand C S))
    (own : key = other → tenant ∈ books.registered → ∃ begun, errand = some begun ∧ begun.Removes tenant) :
    (books.send other errand).Handled key tenant := by
  refine ⟨handled.1, fun member => ?_⟩
  by_cases same : key = other
  next =>
    obtain ⟨begun, set, removes⟩ := own same member
    subst same
    exact ⟨begun, (Function.update_self _ _ _).trans set, removes⟩
  next =>
    obtain ⟨begun, here, removes⟩ := handled.2 member
    exact ⟨begun, (Function.update_of_ne same _ _).trans here, removes⟩

end Parties

variable [DecidableEq C] [DecidableEq S] [DecidableEq K]

/-- A tenant comes once, and nobody takes its slot before the work for it is done. -/
inductive Step (books : Books C S K) : Books C S K → Prop where
  | meet (tenant : C) (known : C → Prop) (fresh : ¬ books.known tenant)
      (knows : ∀ other, known other ↔ other = tenant ∨ books.known other) : Step books { books with known }
  | arrive (key : K) (tenant : C) (known : C → Prop) (free : books.errands key = none)
      (fresh : ¬ books.known tenant) (knows : ∀ other, known other ↔ other = tenant ∨ books.known other) :
      Step books ({ books with known }.send key (some (.placing tenant)))
  | refuse (key : K) (tenant : C) (here : books.errands key = some (.placing tenant)) :
      Step books (books.send key none)
  | seat (key : K) (tenant : C) (slot : S) (here : books.errands key = some (.placing tenant))
      (admitted : tenant ∉ books.barred) (vacant : books.tenant slot = none) :
      Step books ((books.settle tenant slot).send key none)
  | stand (key : K) (tenant : C) (here : books.errands key = some (.placing tenant))
      (admitted : tenant ∉ books.barred) : Step books ((books.register tenant).send key (some (.finding tenant)))
  | look (key : K) (tenant : C) (free : books.errands key = none) :
      Step books (books.send key (some (.finding tenant)))
  | bar (key : K) (tenant : C) (free : books.errands key = none) :
      Step books ({ books with barred := insert tenant books.barred }.send key (some (.finding tenant)))
  | found (key : K) (tenant : C) (slot : S) (here : books.errands key = some (.finding tenant))
      (member : tenant ∈ books.registered) (seated : books.seat tenant = some slot) :
      Step books (books.send key (some (.evicting tenant slot)))
  | unseated (key : K) (tenant : C) (here : books.errands key = some (.finding tenant))
      (member : tenant ∈ books.registered) (standing : books.seat tenant = none) :
      Step books (books.send key (some (.dropping tenant)))
  | missing (key : K) (tenant : C) (here : books.errands key = some (.finding tenant))
      (absent : tenant ∉ books.registered) : Step books (books.send key none)
  | evict (key : K) (tenant : C) (slot : S) (here : books.errands key = some (.evicting tenant slot))
      (holds : books.Holds tenant slot) :
      Step books ((books.evict tenant slot).send key (some (.ordering tenant slot)))
  | late (key : K) (tenant : C) (slot : S) (here : books.errands key = some (.evicting tenant slot))
      (gone : ¬ books.Holds tenant slot) : Step books (books.send key none)
  | drop (key : K) (tenant : C) (here : books.errands key = some (.dropping tenant)) :
      Step books ((books.remove tenant).send key none)
  | order (key : K) (tenant : C) (slot : S) (here : books.errands key = some (.ordering tenant slot)) :
      Step books ((books.order tenant slot).send key none)
  | vacate (slot : S) (tenant : C) (rest : List C) (first : books.orders slot = tenant :: rest) :
      Step books (books.vacate slot rest)

theorem Sound.step (sound : books.Sound) (next : Step books after) : after.Sound := by
  cases next with
  | meet tenant known fresh knows => exact sound.meet knows
  | arrive key tenant known free fresh knows =>
    have absent : tenant ∉ books.registered := fun member => fresh (sound.listed tenant member)
    refine (sound.meet knows).send key (fun begun same => ?_) fun other begun against _ same there => ?_
    · cases same
      exact ⟨(knows tenant).mpr (.inl rfl), absent⟩
    · cases same
      exact sound.free_of_fresh fresh other against there
  | refuse key tenant here => exact sound.rest key
  | seat key tenant slot here admitted vacant =>
    obtain ⟨known, absent⟩ := sound.fits key _ here
    exact (sound.rest key).settle known absent (sound.free here) vacant
  | stand key tenant here admitted =>
    obtain ⟨known, absent⟩ := sound.fits key _ here
    have registered := (sound.rest key).register known absent (sound.free here)
    have found := registered.find key tenant
    have same : ((books.send key none).register tenant).send key (some (.finding tenant)) =
        (books.register tenant).send key (some (.finding tenant)) := by
      simp only [Books.send, Books.register, Function.update_idem]
    rwa [same] at found
  | look key tenant free => exact sound.find key tenant
  | bar key tenant free => exact (sound.bar tenant).find key tenant
  | found key tenant slot here member seated =>
    refine sound.send key (fun begun same => ?_) fun other begun against differs same there clashes => ?_
    · cases same
      exact ⟨sound.listed tenant member, fun _ => seated⟩
    · cases same
      cases against with
      | placing other' =>
        cases clashes
        exact (sound.fits other _ there).2 member
      | _ => exact clashes
  | unseated key tenant here member standing =>
    refine sound.send key (fun begun same => ?_) fun other begun against differs same there clashes => ?_
    · cases same
      exact ⟨sound.listed tenant member, fun _ => standing⟩
    · cases same
      cases against with
      | placing other' =>
        cases clashes
        exact (sound.fits other _ there).2 member
      | _ => exact clashes
  | missing key tenant here absent => exact sound.rest key
  | evict key tenant slot here holds =>
    have evicted := sound.evict holds
    refine evicted.send key (fun begun same => ?_) fun other begun against differs same there clashes => ?_
    · cases same
      exact ⟨holds.2.1, Function.update_self _ _ _, sound.no_orders holds.2.2⟩
    · cases same
      cases against with
      | ordering other' place =>
        cases clashes
        cases holds.2.2.symm.trans (sound.fits other _ there).2.1
      | _ => exact clashes
  | late key tenant slot here gone => exact sound.rest key
  | drop key tenant here =>
    obtain ⟨_, standing⟩ := sound.fits key _ here
    have nowhere : books.seat tenant = none := by
      by_cases member : tenant ∈ books.registered
      next => exact standing member
      next => exact sound.unseated tenant member
    exact (sound.remove nowhere).rest key
  | order key tenant slot here =>
    refine (sound.rest key).order (sound.fits key _ here) fun other errand begun => ?_
    by_cases same : other = key
    next =>
      subst same
      cases (Function.update_self _ _ _).symm.trans begun
    next => exact sound.apart key other _ errand (Ne.symm same) here ((Function.update_of_ne same _ _).symm.trans begun)
  | vacate slot tenant rest first => exact sound.vacate first

def Moves (books after : Books C S K) : Prop := after = books ∨ Step books after

theorem Sound.moves (sound : books.Sound) (next : books.Moves after) : after.Sound := by
  rcases next with rfl | step
  · exact sound
  · exact sound.step step

theorem Handled.step {key : K} (sound : books.Sound) (handled : books.Handled key tenant)
    (next : Step books after) : after.Handled key tenant := by
  cases next with
  | meet => exact handled
  | vacate => exact handled
  | arrive other arriving known free =>
    have kept : ({ books with known } : Books C S K).Handled key tenant := handled
    exact kept.send other _ (kept.busy free)
  | look other looked free => exact handled.send other _ (handled.busy free)
  | bar other barring free =>
    have barred : ({ books with barred := insert barring books.barred } : Books C S K).Handled key tenant :=
      ⟨Finset.mem_insert_of_mem handled.1, handled.2⟩
    exact barred.send other _ (barred.busy free)
  | refuse other arriving here => exact handled.send other _ (handled.absurd here id)
  | seat other arriving slot here admitted =>
    have settled : (books.settle arriving slot).Handled key tenant := handled.register admitted
    exact settled.send other _ (settled.absurd here id)
  | stand other arriving here admitted =>
    have registered := handled.register admitted
    exact registered.send other _ (registered.absurd here id)
  | found other leaving slot here | unseated other leaving here =>
    refine handled.send other _ fun same member => ⟨_, rfl, ?_⟩
    by_contra stays
    exact handled.absurd here stays same member
  | missing other leaving here absent =>
    refine handled.send other _ fun same member => handled.absurd here ?_ same member
    rintro rfl
    exact absent member
  | evict other leaving slot here holds =>
    have evicted : (books.evict leaving slot).Handled key tenant := handled.remove leaving
    refine evicted.send other _ fun same member => evicted.absurd here ?_ same member
    rintro rfl
    exact Finset.notMem_erase _ _ member
  | late other leaving slot here gone =>
    refine handled.send other _ fun same member => handled.absurd here ?_ same member
    rintro rfl
    exact gone ⟨member, sound.seated _ slot member ((sound.fits other _ here).2 member)⟩
  | drop other leaving here =>
    have removed := handled.remove leaving
    refine removed.send other _ fun same member => removed.absurd here ?_ same member
    rintro rfl
    exact Finset.notMem_erase _ _ member
  | order other leaving slot here =>
    have ordered : (books.order leaving slot).Handled key tenant := handled
    exact ordered.send other _ (ordered.absurd here id)

theorem Step.absent (next : Step books after) (barred : tenant ∈ books.barred) (gone : tenant ∉ books.registered) :
    tenant ∈ after.barred ∧ tenant ∉ after.registered := by
  have stranger {other : C} (admitted : other ∉ books.barred) : tenant ∉ insert other books.registered := by
    intro member
    rcases Finset.mem_insert.mp member with rfl | earlier
    · exact admitted barred
    · exact gone earlier
  cases next with
  | seat other arriving slot here admitted => exact ⟨barred, stranger admitted⟩
  | stand other arriving here admitted => exact ⟨barred, stranger admitted⟩
  | bar => exact ⟨Finset.mem_insert_of_mem barred, gone⟩
  | evict => exact ⟨barred, fun member => gone (Finset.mem_of_mem_erase member)⟩
  | drop => exact ⟨barred, fun member => gone (Finset.mem_of_mem_erase member)⟩
  | _ => exact ⟨barred, gone⟩

theorem Step.tenants (next : Step books after) :
    (∀ place other, after.tenant place = some other → books.tenant place = some other) ∨
      ∃ key arriving slot, books.errands key = some (.placing arriving) ∧
        after = (books.settle arriving slot).send key none := by
  cases next with
  | seat key arriving slot here => exact .inr ⟨key, arriving, slot, here, rfl⟩
  | vacate slot leaving rest =>
    refine .inl fun place other held => ?_
    by_cases same : place = slot
    next =>
      subst same
      cases (Function.update_self _ _ _).symm.trans held
    next => exact (Function.update_of_ne same _ _).symm.trans held
  | _ => exact .inl fun _ _ held => held

theorem Step.placing {key : K} (next : Step books after) (here : after.errands key = some (.placing tenant)) :
    books.errands key = some (.placing tenant) ∨ ¬ books.known tenant := by
  have sent {other : K} {errand : Option (Errand C S)} (differs : errand ≠ some (.placing tenant))
      (here : Function.update books.errands other errand key = some (.placing tenant)) :
      books.errands key = some (.placing tenant) := by
    by_cases same : key = other
    next =>
      subst same
      exact absurd ((Function.update_self _ _ _).symm.trans here) differs
    next => exact (Function.update_of_ne same _ _).symm.trans here
  cases next with
  | meet | vacate => exact .inl here
  | arrive other arriving known free fresh knows =>
    by_cases same : arriving = tenant
    next => exact .inr (same ▸ fresh)
    next => exact .inl (sent (by simpa using same) here)
  | _ => exact .inl (sent (by simp) here)

theorem Step.known (next : Step books after) (known : books.known tenant) : after.known tenant := by
  cases next with
  | meet arriving known' fresh knows | arrive key arriving known' free fresh knows =>
      exact (knows tenant).mpr (.inr known)
  | _ => exact known

theorem Homes.step (homes : books.Homes) (sound : books.Sound) (next : Step books after) : after.Homes := by
  rcases next.tenants with kept | ⟨key, arriving, slot, here, rfl⟩
  · refine ⟨fun place other held => next.known (homes.known place other (kept place other held)),
      fun key other place here held => ?_,
      fun place further other held there => homes.single place further other (kept _ _ held) (kept _ _ there)⟩
    rcases next.placing here with before | unknown
    · exact homes.coming key other place before (kept place other held)
    · exact unknown (homes.known place other (kept place other held))
  · have settled (place : S) (other : C) (held : ((books.settle arriving slot).send key none).tenant place = some other) :
        place = slot ∧ other = arriving ∨ books.tenant place = some other := by
      by_cases same : place = slot
      next =>
        subst same
        have here : Function.update books.tenant place (some arriving) place = some other := held
        rw [Function.update_self] at here
        exact .inl ⟨rfl, (Option.some.inj here).symm⟩
      next => exact .inr ((Function.update_of_ne same _ _).symm.trans held)
    refine ⟨fun place other held => ?_, fun party other place there held => ?_,
      fun place further other held there => ?_⟩
    · rcases settled place other held with ⟨_, rfl⟩ | before
      · exact (sound.fits key _ here).1
      · exact homes.known place other before
    · have differs : party ≠ key := by
        rintro rfl
        cases (Function.update_self _ _ _).symm.trans there
      have before : books.errands party = some (.placing other) :=
        (Function.update_of_ne differs _ _).symm.trans there
      rcases settled place other held with ⟨_, rfl⟩ | earlier
      · exact sound.apart party key _ _ differs before here rfl
      · exact homes.coming party other place before earlier
    · rcases settled place other held with ⟨rfl, rfl⟩ | first
      · rcases settled further _ there with ⟨rfl, _⟩ | second
        · rfl
        · exact absurd second (homes.coming key _ further here)
      · rcases settled further other there with ⟨_, rfl⟩ | second
        · exact absurd first (homes.coming key _ place here)
        · exact homes.single place further other first second

end Books

end Leases
