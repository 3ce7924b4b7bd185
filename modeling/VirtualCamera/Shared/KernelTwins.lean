import Mathlib.Data.List.Forall2
import VirtualCamera.Shared.Descriptors

set_option autoImplicit false

namespace Descriptors

namespace Kernel

structure Later (before after : Kernel) : Prop where
  next : before.next ≤ after.next
  points : ∀ fd, fd < before.next → after.points fd = before.points fd
  calls : before.calls ≤ after.calls
  signalled : after.signalled = before.signalled
  outcome : after.outcome = before.outcome

variable {kernel before middle after : Kernel}

theorem Later.refl (kernel : Kernel) : kernel.Later kernel := ⟨le_rfl, fun _ _ => rfl, le_rfl, rfl, rfl⟩

theorem Later.trans (first : before.Later middle) (second : middle.Later after) : before.Later after where
  next := first.next.trans second.next
  points fd opened := (second.points fd (opened.trans_le first.next)).trans (first.points fd opened)
  calls := first.calls.trans second.calls
  signalled := second.signalled.trans first.signalled
  outcome := second.outcome.trans first.outcome

theorem later_decide (kernel : Kernel) : kernel.Later kernel.decide.2 :=
  ⟨le_rfl, fun _ _ => rfl, Nat.le_succ _, rfl, rfl⟩

theorem later_create (kernel : Kernel) (points : List Point) : kernel.Later (kernel.create points).2 where
  next := Nat.le_succ _
  points _ opened := Function.update_of_ne (Nat.ne_of_lt opened) _ _
  calls := le_rfl
  signalled := rfl
  outcome := rfl

theorem later_close (kernel : Kernel) (fd : Fd) : kernel.Later (kernel.close fd) :=
  ⟨le_rfl, fun _ _ => rfl, le_rfl, rfl, rfl⟩

theorem later_syncWait (kernel : Kernel) (fd : Fd) : kernel.Later (kernel.syncWait fd).2 := later_decide kernel

theorem later_syncMerge (kernel : Kernel) (a b : Fd) : kernel.Later (kernel.syncMerge a b).2 := by
  unfold syncMerge
  split
  next => exact (later_decide kernel).trans (later_create _ _)
  next => exact later_decide kernel

theorem later_dup (kernel : Kernel) (fd : Fd) : kernel.Later (kernel.dup fd).2 := by
  unfold dup
  split
  next => exact (later_decide kernel).trans (later_create _ _)
  next => exact later_decide kernel

/-- Two processes, each with its own descriptors: these two wait for the same work of the devices at hand. -/
structure Alike (device : Point → Prop) (left right : Kernel) (fd other : Fd) : Prop where
  opened : fd < left.next ∧ other < right.next
  points : left.points fd = right.points other
  device : ∀ point ∈ left.points fd, device point

structure Grown (device : Point → Prop) (before after : Kernel) : Prop where
  next : before.next ≤ after.next
  points : ∀ fd, fd < before.next → after.points fd = before.points fd
  work : ∀ point, device point → after.signalled point = before.signalled point

def SameWork (device : Point → Prop) (left right : Kernel) : Prop :=
  ∀ point, device point → left.signalled point = right.signalled point

/-- Until the left process has asked `final` times, the right one gets the same answers. -/
def Agrees (final : Nat) (left right : Kernel) : Prop :=
  ∀ i, left.calls + i < final → left.outcome (left.calls + i) = right.outcome (right.calls + i)

structure Together (left right left' right' : Kernel) : Prop where
  first : left.Later left'
  second : right.Later right'
  asked : left'.calls + right.calls = right'.calls + left.calls

variable {device : Point → Prop} {final : Nat} {left right left' right' left'' right'' : Kernel} {fd other : Fd}

theorem Together.refl (left right : Kernel) : Together left right left right :=
  ⟨.refl left, .refl right, Nat.add_comm _ _⟩

theorem Together.trans (first : Together left right left' right') (second : Together left' right' left'' right'') :
    Together left right left'' right'' where
  first := first.first.trans second.first
  second := first.second.trans second.second
  asked := by
    have early := first.asked
    have late := second.asked
    omega

theorem Grown.refl (kernel : Kernel) : Grown device kernel kernel := ⟨le_rfl, fun _ _ => rfl, fun _ _ => rfl⟩

theorem Grown.trans (first : Grown device before middle) (second : Grown device middle after) :
    Grown device before after where
  next := first.next.trans second.next
  points fd opened := (second.points fd (opened.trans_le first.next)).trans (first.points fd opened)
  work point here := (second.work point here).trans (first.work point here)

theorem Later.grown (later : before.Later after) : Grown device before after :=
  ⟨later.next, later.points, fun point _ => congrFun later.signalled point⟩

theorem grown_signal (kernel : Kernel) {point : Point} (elsewhere : ¬ device point) :
    Grown device kernel (kernel.signal point) where
  next := le_rfl
  points _ _ := rfl
  work other here := by
    refine Function.update_of_ne (fun same => elsewhere ?_) _ _
    rwa [← same]

theorem Alike.grown (alike : Alike device left right fd other) (first : Grown device left left')
    (second : Grown device right right') : Alike device left' right' fd other where
  opened := ⟨alike.opened.1.trans_le first.next, alike.opened.2.trans_le second.next⟩
  points := by rw [first.points fd alike.opened.1, second.points other alike.opened.2, alike.points]
  device := by rw [first.points fd alike.opened.1]; exact alike.device

theorem Alike.later (alike : Alike device left right fd other) (first : left.Later left')
    (second : right.Later right') :
    Alike device left' right' fd other := alike.grown first.grown second.grown

theorem SameWork.grown (same : SameWork device left right) (first : Grown device left left')
    (second : Grown device right right') : SameWork device left' right' := by
  intro point here
  rw [first.work point here, second.work point here]
  exact same point here

theorem SameWork.later (same : SameWork device left right) (first : left.Later left')
    (second : right.Later right') :
    SameWork device left' right' := same.grown first.grown second.grown

theorem Agrees.together (agrees : Agrees final left right) (together : Together left right left' right') :
    Agrees final left' right' := by
  intro i inside
  have leftCalls := together.first.calls
  have rightCalls := together.second.calls
  have asked := together.asked
  have same := agrees (left'.calls - left.calls + i) (by omega)
  rw [together.first.outcome, together.second.outcome]
  have first : left.calls + (left'.calls - left.calls + i) = left'.calls + i := by omega
  have second : right.calls + (left'.calls - left.calls + i) = right'.calls + i := by omega
  rwa [first, second] at same

theorem decide_together (left right : Kernel) : Together left right left.decide.2 right.decide.2 where
  first := later_decide left
  second := later_decide right
  asked := by
    simp only [decide]
    omega

theorem close_together (left right : Kernel) (fd other : Fd) :
    Together left right (left.close fd) (right.close other) :=
  ⟨later_close left fd, later_close right other, Nat.add_comm _ _⟩

theorem create_together (left right : Kernel) (points points' : List Point) :
    Together left right (left.create points).2 (right.create points').2 :=
  ⟨later_create left points, later_create right points', Nat.add_comm _ _⟩

theorem decide_same (agrees : Agrees final left right) (used : left.decide.2.calls ≤ final) :
    left.decide.1 = right.decide.1 := by
  have same := agrees 0
  exact same used

theorem ready_same (same : SameWork device left right) (alike : Alike device left right fd other) :
    left.ready fd = right.ready other := by
  rw [Bool.eq_iff_iff, ready_iff, ready_iff, ← alike.points]
  constructor
  next => exact fun done point member => (same point (alike.device point member)).symm.trans (done point member)
  next => exact fun done point member => (same point (alike.device point member)).trans (done point member)

theorem create_alike (points : List Point) (inside : ∀ point ∈ points, device point) :
    Alike device (left.create points).2 (right.create points).2 (left.create points).1
      (right.create points).1 where
  opened := ⟨Nat.lt_succ_self _, Nat.lt_succ_self _⟩
  points := by simp [create]
  device := by simpa [create] using inside

theorem syncWait_same (same : SameWork device left right) (alike : Alike device left right fd other)
    (agrees : Agrees final left right) (used : (left.syncWait fd).2.calls ≤ final) :
    (left.syncWait fd).1 = (right.syncWait other).1 := by
  simp only [syncWait, decide_same agrees used, ready_same same alike]

theorem syncWait_together (left right : Kernel) (fd other : Fd) :
    Together left right (left.syncWait fd).2 (right.syncWait other).2 := decide_together left right

theorem syncMerge_same {fd' other' : Fd} (first : Alike device left right fd other)
    (second : Alike device left right fd' other') (agrees : Agrees final left right)
    (used : (left.syncMerge fd fd').2.calls ≤ final) :
    Together left right (left.syncMerge fd fd').2 (right.syncMerge other other').2 ∧
      Option.Rel (Alike device (left.syncMerge fd fd').2 (right.syncMerge other other').2)
        (left.syncMerge fd fd').1 (right.syncMerge other other').1 := by
  have asked : left.decide.2.calls ≤ final := by
    refine le_trans ?_ used
    unfold syncMerge
    split <;> exact le_rfl
  have same := decide_same agrees asked
  have moved := decide_together left right
  unfold syncMerge
  rw [← same]
  split
  next =>
    refine ⟨moved.trans (create_together _ _ _ _), .some ?_⟩
    rw [← first.points, ← second.points]
    refine create_alike _ fun point member => ?_
    exact (List.mem_append.mp member).elim (first.device point) (second.device point)
  next => exact ⟨moved, .none⟩

theorem dup_same (alike : Alike device left right fd other) (agrees : Agrees final left right)
    (used : (left.dup fd).2.calls ≤ final) :
    Together left right (left.dup fd).2 (right.dup other).2 ∧
      Option.Rel (Alike device (left.dup fd).2 (right.dup other).2) (left.dup fd).1 (right.dup other).1 := by
  have asked : left.decide.2.calls ≤ final := by
    refine le_trans ?_ used
    unfold dup
    split <;> exact le_rfl
  have same := decide_same agrees asked
  have moved := decide_together left right
  unfold dup
  rw [← same]
  split
  next =>
    refine ⟨moved.trans (create_together _ _ _ _), .some ?_⟩
    rw [← alike.points]
    exact create_alike _ alike.device
  next => exact ⟨moved, .none⟩

end Kernel

end Descriptors
