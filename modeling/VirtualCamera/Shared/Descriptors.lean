import Mathlib.Algebra.Order.Group.Multiset
import Mathlib.Data.Multiset.Range
import Mathlib.Logic.Function.Basic

set_option autoImplicit false

namespace Descriptors

/-- One opened descriptor. Numbers are not reused here, so closing one twice shows in `closed`. -/
abbrev Fd := Nat

abbrev Point := Nat

structure Kernel where
  next : Fd := 0
  points : Fd → List Point := fun _ => []
  signalled : Point → Bool := fun _ => false
  closed : List Fd := []
  -- Outcomes the environment has decided, one for each call that can fail.
  outcome : Nat → Bool := fun _ => true
  calls : Nat := 0

namespace Kernel

def ready (kernel : Kernel) (fd : Fd) : Bool := (kernel.points fd).all kernel.signalled

def decide (kernel : Kernel) : Bool × Kernel :=
  (kernel.outcome kernel.calls, { kernel with calls := kernel.calls + 1 })

def create (kernel : Kernel) (points : List Point) : Fd × Kernel :=
  (kernel.next,
    { kernel with
      next := kernel.next + 1
      points := Function.update kernel.points kernel.next points })

def close (kernel : Kernel) (fd : Fd) : Kernel := { kernel with closed := fd :: kernel.closed }

/-- `true` is a zero return: a signalled fence may still be missed, an unsignalled one never passes. -/
def syncWait (kernel : Kernel) (fd : Fd) : Bool × Kernel :=
  (kernel.decide.1 && kernel.ready fd, kernel.decide.2)

def syncMerge (kernel : Kernel) (a b : Fd) : Option Fd × Kernel :=
  if kernel.decide.1 then
    let (fd, kernel) := kernel.decide.2.create (kernel.points a ++ kernel.points b)
    (some fd, kernel)
  else (none, kernel.decide.2)

def dup (kernel : Kernel) (fd : Fd) : Option Fd × Kernel :=
  if kernel.decide.1 then
    let (copy, kernel) := kernel.decide.2.create (kernel.points fd)
    (some copy, kernel)
  else (none, kernel.decide.2)

def signal (kernel : Kernel) (point : Point) : Kernel :=
  { kernel with signalled := Function.update kernel.signalled point true }

def Balanced (kernel : Kernel) (held : Multiset Fd) : Prop :=
  held + (kernel.closed : Multiset Fd) = Multiset.range kernel.next

structure Extends (before after : Kernel) : Prop where
  next : before.next ≤ after.next
  points : ∀ fd, fd < before.next → after.points fd = before.points fd
  signalled : ∀ point, before.signalled point = true → after.signalled point = true

def Covered (kernel : Kernel) (fds : List Fd) (fd : Fd) : Prop :=
  kernel.ready fd = true ∨ ∃ keeper ∈ fds, kernel.points fd ⊆ kernel.points keeper

variable {kernel before middle after : Kernel} {held : Multiset Fd} {fds : List Fd} {fd : Fd}

theorem Extends.refl (kernel : Kernel) : kernel.Extends kernel :=
  ⟨le_rfl, fun _ _ => rfl, fun _ done => done⟩

theorem Extends.trans (first : before.Extends middle) (second : middle.Extends after) :
    before.Extends after where
  next := le_trans first.next second.next
  points fd opened := by
    rw [second.points fd (lt_of_lt_of_le opened first.next), first.points fd opened]
  signalled point done := second.signalled point (first.signalled point done)

theorem ready_iff : kernel.ready fd = true ↔ ∀ point ∈ kernel.points fd, kernel.signalled point = true :=
  List.all_eq_true

theorem Extends.ready (extends_ : before.Extends after) (opened : fd < before.next)
    (done : before.ready fd = true) : after.ready fd = true := by
  rw [ready_iff] at done ⊢
  rw [extends_.points fd opened]
  exact fun point member => extends_.signalled point (done point member)

theorem Extends.covered (extends_ : before.Extends after) (opened : fd < before.next)
    (keepers : ∀ keeper ∈ fds, keeper < before.next) (covered : before.Covered fds fd) :
    after.Covered fds fd := by
  rcases covered with done | ⟨keeper, member, inside⟩
  · exact .inl (extends_.ready opened done)
  · refine .inr ⟨keeper, member, ?_⟩
    rw [extends_.points fd opened, extends_.points keeper (keepers keeper member)]
    exact inside

theorem Covered.mono {wider : List Fd} (covered : kernel.Covered fds fd) (inside : fds ⊆ wider) :
    kernel.Covered wider fd := by
  rcases covered with done | ⟨keeper, member, points⟩
  · exact .inl done
  · exact .inr ⟨keeper, inside member, points⟩

theorem Covered.self (member : fd ∈ fds) : kernel.Covered fds fd :=
  .inr ⟨fd, member, List.Subset.refl _⟩

theorem Covered.trans {keepers : List Fd} (covered : kernel.Covered fds fd)
    (kept : ∀ keeper ∈ fds, kernel.Covered keepers keeper) : kernel.Covered keepers fd := by
  rcases covered with done | ⟨keeper, member, points⟩
  · exact .inl done
  · rcases kept keeper member with done | ⟨wider, inside, further⟩
    · exact .inl (ready_iff.mpr fun point needed => ready_iff.mp done point (points needed))
    · exact .inr ⟨wider, inside, List.Subset.trans points further⟩

theorem covered_nil : kernel.Covered [] fd ↔ kernel.ready fd = true := by
  simp [Covered]

theorem Balanced.opened (balanced : kernel.Balanced held) (member : fd ∈ held) : fd < kernel.next := by
  have inside : fd ∈ held + (kernel.closed : Multiset Fd) := Multiset.mem_add.mpr (.inl member)
  rw [balanced] at inside
  exact Multiset.mem_range.mp inside

theorem Balanced.count (balanced : kernel.Balanced held) (opened : fd < kernel.next) :
    held.count fd + kernel.closed.count fd = 1 := by
  have once : (Multiset.range kernel.next).count fd = 1 :=
    Multiset.count_eq_one_of_mem (Multiset.nodup_range _) (Multiset.mem_range.mpr opened)
  rw [← balanced, Multiset.count_add, Multiset.coe_count] at once
  exact once

theorem Balanced.close (balanced : kernel.Balanced (fd ::ₘ held)) : (kernel.close fd).Balanced held := by
  unfold Balanced at *
  simp only [Kernel.close, ← Multiset.cons_coe, Multiset.add_cons]
  rw [← balanced, Multiset.cons_add]

theorem Balanced.create (balanced : kernel.Balanced held) (points : List Point) :
    (kernel.create points).2.Balanced ((kernel.create points).1 ::ₘ held) := by
  unfold Balanced at *
  simp only [Kernel.create, Multiset.cons_add, Multiset.range_succ]
  rw [balanced]

theorem extends_decide (kernel : Kernel) : kernel.Extends kernel.decide.2 :=
  ⟨le_rfl, fun _ _ => rfl, fun _ done => done⟩

theorem extends_create (kernel : Kernel) (points : List Point) :
    kernel.Extends (kernel.create points).2 where
  next := Nat.le_succ _
  points _ opened := Function.update_of_ne (Nat.ne_of_lt opened) _ _
  signalled _ done := done

theorem extends_close (kernel : Kernel) (fd : Fd) : kernel.Extends (kernel.close fd) :=
  ⟨le_rfl, fun _ _ => rfl, fun _ done => done⟩

theorem extends_signal (kernel : Kernel) (point : Point) : kernel.Extends (kernel.signal point) where
  next := le_rfl
  points _ _ := rfl
  signalled other done := by
    by_cases same : other = point
    · simp [signal, same]
    · simpa [signal, Function.update_of_ne same] using done

theorem Balanced.syncWait (balanced : kernel.Balanced held) (fd : Fd) :
    (kernel.syncWait fd).2.Balanced held := balanced

theorem extends_syncWait (kernel : Kernel) (fd : Fd) : kernel.Extends (kernel.syncWait fd).2 :=
  extends_decide kernel

theorem syncWait_ready (passed : (kernel.syncWait fd).1 = true) : kernel.ready fd = true := by
  simp only [syncWait, Bool.and_eq_true] at passed
  exact passed.2

theorem syncMerge_spec (kernel : Kernel) (a b : Fd) (balanced : kernel.Balanced held) :
    kernel.Extends (kernel.syncMerge a b).2 ∧
      match (kernel.syncMerge a b).1 with
      | none => (kernel.syncMerge a b).2.Balanced held
      | some merged => (kernel.syncMerge a b).2.Balanced (merged ::ₘ held) ∧
          (kernel.syncMerge a b).2.points merged = kernel.points a ++ kernel.points b := by
  unfold syncMerge
  split
  next =>
    refine ⟨(extends_decide kernel).trans (extends_create _ _), ?_, ?_⟩
    · exact @Balanced.create kernel.decide.2 held balanced _
    · exact Function.update_self _ _ _
  next => exact ⟨extends_decide kernel, balanced⟩

theorem dup_spec (kernel : Kernel) (fd : Fd) (balanced : kernel.Balanced held) :
    kernel.Extends (kernel.dup fd).2 ∧
      match (kernel.dup fd).1 with
      | none => (kernel.dup fd).2.Balanced held
      | some copy => (kernel.dup fd).2.Balanced (copy ::ₘ held) ∧
          (kernel.dup fd).2.points copy = kernel.points fd := by
  unfold dup
  split
  next =>
    refine ⟨(extends_decide kernel).trans (extends_create _ _), ?_, ?_⟩
    · exact @Balanced.create kernel.decide.2 held balanced _
    · exact Function.update_self _ _ _
  next => exact ⟨extends_decide kernel, balanced⟩

end Kernel

end Descriptors
