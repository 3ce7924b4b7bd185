import Mathlib.Data.List.Induction
import Mathlib.Data.Nat.ModEq
import Mathlib.Logic.Function.Basic
import Mathlib.Tactic.Linarith

set_option autoImplicit false

namespace Rings

variable {E : Type}

/-- What the users of a bounded queue see of it. A count is taken at one moment and returned at a later one, so it has
two events. -/
inductive Event (E : Type) where
  | pushed (value : E)
  | refusedFull
  | popped (value : E)
  | refusedEmpty
  | peeked (value : E)
  | counting
  | counted (count : Nat)
deriving DecidableEq

def Event.isPush : Event E → Bool
  | .pushed _ => true
  | _ => false

structure Fifo (E : Type) where
  queue : List E := []
  seen : Nat := 0

namespace Fifo

variable [DecidableEq E]

/-- The queue of the given capacity as a partial step function: an event it cannot produce has no successor. -/
def step (capacity : Nat) (fifo : Fifo E) : Event E → Option (Fifo E)
  | .pushed value => if fifo.queue.length < capacity then some
      { fifo with queue := fifo.queue ++ [value] } else none
  | .refusedFull => if fifo.queue.length = capacity then some fifo else none
  | .popped value =>
    if fifo.queue.head? = some value then some { fifo with queue := fifo.queue.tail } else none
  | .refusedEmpty => if fifo.queue = [] then some fifo else none
  | .peeked value => if fifo.queue.head? = some value then some fifo else none
  | .counting => some { fifo with seen := fifo.queue.length }
  | .counted count => if fifo.seen = count then some fifo else none

def after (capacity : Nat) (history : List (Event E)) : Option (Fifo E) := history.foldlM (step capacity) {}

def Accepts (capacity : Nat) (history : List (Event E)) : Prop := (after capacity history).isSome = true

theorem after_snoc (capacity : Nat) (history : List (Event E)) (event : Event E) :
    after capacity (history ++ [event]) = (after capacity history).bind (step capacity · event) := by
  simp [after, List.foldlM_append]

theorem Accepts.of_append {capacity : Nat} {history later : List (Event E)}
    (accepts : Accepts capacity (history ++ later)) : Accepts capacity history := by
  unfold Accepts after at *
  rw [List.foldlM_append] at accepts
  cases here : history.foldlM (step capacity) {} with
  | none => simp [here] at accepts
  | some fifo => rfl

theorem not_accepts_lost (capacity : Nat) (history : List (Event E)) (value : E) :
    ¬ Accepts capacity (history ++ [.pushed value, .refusedEmpty]) := by
  rw [List.append_cons, Accepts, after_snoc, after_snoc]
  cases after capacity history with
  | none => simp
  | some fifo =>
    rw [Option.bind_some, step]
    split <;> simp [step]

theorem after_length {capacity : Nat} {history : List (Event E)} {fifo : Fifo E}
    (reached : after capacity history = some fifo) : fifo.queue.length ≤ capacity := by
  induction history using List.reverseRecOn generalizing fifo with
  | nil =>
    cases reached
    exact Nat.zero_le _
  | append_singleton history event ih =>
    rw [after_snoc, Option.bind_eq_some_iff] at reached
    obtain ⟨before, earlier, next⟩ := reached
    have bounded := ih earlier
    cases event <;> simp only [step] at next
    case pushed value =>
      split at next <;> cases next
      next room =>
        rw [List.length_append, List.length_singleton]
        omega
    case popped value =>
      split at next <;> cases next
      simp only [List.length_tail]
      omega
    all_goals grind

end Fifo

/-- The elements between two free-running counters, in slots that are used round and round. -/
def unread (capacity : Nat) (slots : Nat → E) (read count : Nat) : List E :=
  (List.range count).map fun i => slots ((read + i) % capacity)

section Unread

variable (capacity : Nat) (slots : Nat → E) (read count : Nat)

@[simp] theorem unread_zero : unread capacity slots read 0 = [] := rfl

@[simp] theorem unread_length : (unread capacity slots read count).length = count := by simp [unread]

theorem unread_snoc :
    unread capacity slots read (count + 1) =
      unread capacity slots read count ++ [slots ((read + count) % capacity)] := by
  simp [unread, List.range_succ]

theorem unread_cons :
    unread capacity slots read (count + 1) =
      slots (read % capacity) :: unread capacity slots (read + 1) count := by
  simp only [unread, List.range_succ_eq_map, List.map_cons, List.map_map, Nat.add_zero]
  congr 1
  exact List.map_congr_left fun i _ => by simp [Nat.add_assoc, Nat.add_comm 1 i]

theorem unread_mod {read other : Nat} (same : read % capacity = other % capacity) :
    unread capacity slots read count = unread capacity slots other count :=
  List.map_congr_left fun i _ => by rw [Nat.add_mod, same, ← Nat.add_mod]

theorem unread_update (room : count < capacity) (value : E) :
    unread capacity (Function.update slots ((read + count) % capacity) value) read count =
      unread capacity slots read count := by
  refine List.map_congr_left fun i member => Function.update_of_ne (fun same => ?_) _ _
  have below := List.mem_range.mp member
  have apart : (read + i) % capacity = (read + count) % capacity := same
  have congruent : Nat.ModEq capacity i count := Nat.ModEq.add_left_cancel' read apart
  rw [Nat.ModEq, Nat.mod_eq_of_lt (by omega), Nat.mod_eq_of_lt room] at congruent
  omega

end Unread

end Rings
