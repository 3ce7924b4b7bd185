import VirtualCamera.Relay.RelayJoin

set_option autoImplicit false

namespace VirtualCamera

open Joins Runs

-- A connection is the unsigned value of the `long` that carries it, which is how the slot compares it. Events are
-- counted from one, and a `long` does not run out of them.
structure LifecycleSlot (T : Type) where
  owner : Option T := none
  closing : Bool := false
  connection : Epoch := 0
  event : Nat := 0
  configuration : Int := 0
  configurationClosed : Bool := false
deriving DecidableEq, Repr

namespace LifecycleSlot

variable {T : Type} [DecidableEq T]

def reserve (slot : LifecycleSlot T) (owner : T) : Bool × LifecycleSlot T :=
  if slot.owner ≠ none then (false, slot) else (true, { slot with owner := some owner })

def current (slot : LifecycleSlot T) : Option T := if slot.closing then none else slot.owner

def owns (slot : LifecycleSlot T) (owner : T) : Bool := slot.owner == some owner && !slot.closing

def beginClose (slot : LifecycleSlot T) (owner : T) : Bool × LifecycleSlot T :=
  if slot.owns owner then
    (true, { slot with closing := true, configurationClosed := true, event := slot.event + 1 })
  else (false, slot)

def nextEvent (slot : LifecycleSlot T) (owner : T) (connection : Epoch) : Nat × LifecycleSlot T :=
  if slot.owns owner = false ∨ connection = 0 ∨ connection < slot.connection then (0, slot)
  else (slot.event + 1, { slot with connection, event := slot.event + 1 })

def isCurrentEvent (slot : LifecycleSlot T) (owner : T) (event : Nat) : Bool :=
  slot.owns owner && event != 0 && slot.event == event

def nextConfigurationEvent (slot : LifecycleSlot T) (owner : T) (connection : Epoch) (token : Int) (closed : Bool) :
    Nat × LifecycleSlot T :=
  if slot.owns owner = false ∨ connection = 0 ∨ token ≤ 0 ∨ connection < slot.connection then (0, slot)
  else
    let slot :=
      if connection ≠ slot.connection then { slot with configuration := 0, configurationClosed := false } else slot
    if token < slot.configuration ∨
        (token = slot.configuration ∧ (closed = false ∨ slot.configurationClosed = true)) then (0, slot)
    else
      (slot.event + 1,
        { slot with
          connection
          configuration := token
          configurationClosed := closed
          event := slot.event + 1 })

def finishClose (slot : LifecycleSlot T) (owner : T) : Bool × LifecycleSlot T :=
  if slot.owner ≠ some owner ∨ slot.closing = false then (false, slot)
  else (true, { slot with owner := none, closing := false })

end LifecycleSlot

inductive LifecycleCall (T : Type) where
  | reserve (owner : T)
  | beginClose (owner : T)
  | nextEvent (owner : T) (connection : Epoch)
  | nextConfigurationEvent (owner : T) (connection : Epoch) (token : Int) (closed : Bool)
  | finishClose (owner : T)
deriving DecidableEq, Repr

namespace LifecycleSlot

variable {T : Type} [DecidableEq T]

def perform (slot : LifecycleSlot T) : LifecycleCall T → Nat × LifecycleSlot T
  | .reserve owner => (0, (slot.reserve owner).2)
  | .beginClose owner => (0, (slot.beginClose owner).2)
  | .nextEvent owner connection => slot.nextEvent owner connection
  | .nextConfigurationEvent owner connection token closed => slot.nextConfigurationEvent owner connection token closed
  | .finishClose owner => (0, (slot.finishClose owner).2)

def Step (slot : LifecycleSlot T) (label : LifecycleCall T × Nat) (after : LifecycleSlot T) : Prop :=
  slot.perform label.1 = (label.2, after)

def issued (labels : List (LifecycleCall T × Nat)) : List Nat := (labels.map Prod.snd).filter (· ≠ 0)

def stage (slot : LifecycleSlot T) : ℕ ×ₗ Stage :=
  toLex (slot.connection, VirtualCamera.stage slot.configuration slot.configurationClosed)

def stageOf (connection : Epoch) (token : Int) (closed : Bool) : ℕ ×ₗ Stage :=
  toLex (connection, VirtualCamera.stage token closed)

-- A later connection starts from nothing, so all that counts is whether the event raises the stage.
theorem nextConfigurationEvent_eq (slot : LifecycleSlot T) (owner : T) (connection : Epoch) (token : Int)
    (closed : Bool) :
    slot.nextConfigurationEvent owner connection token closed =
      if slot.owns owner = true ∧ connection ≠ 0 ∧ 0 < token ∧ slot.stage < stageOf connection token closed then
        (slot.event + 1,
          { slot with
            connection
            configuration := token
            configurationClosed := closed
            event := slot.event + 1 })
      else (0, slot) := by
  have raises : slot.stage < stageOf connection token closed ↔ slot.connection < connection ∨
      (slot.connection = connection ∧ (slot.configuration < token ∨
        (slot.configuration = token ∧ slot.configurationClosed = false ∧ closed = true))) := by
    rw [stage, stageOf, Prod.Lex.toLex_lt_toLex, stage_lt_iff]
  unfold nextConfigurationEvent
  simp only [raises]
  by_cases fresh : connection = slot.connection
  next =>
    simp only [fresh, ne_eq, not_true_eq_false, if_false]
    grind
  next =>
    simp only [fresh, ne_eq, not_false_eq_true, if_true]
    grind

variable {slot after : LifecycleSlot T} {owner : T}

theorem last_of_greatest {events : List Nat} {event : Nat} (increasing : events.Pairwise (· < ·))
    (member : event ∈ events) (greatest : ∀ other ∈ events, other ≤ event) : events.getLast? = some event := by
  induction events using List.reverseRecOn with
  | nil => cases member
  | append_singleton earlier last _ =>
    have bound := greatest last (by simp)
    rcases List.mem_append.mp member with before | here
    · have below := (List.pairwise_append.mp increasing).2.2 event before last (by simp)
      omega
    · simpa using (List.mem_singleton.mp here).symm

theorem owns_iff : slot.owns owner = true ↔ slot.owner = some owner ∧ slot.closing = false := by
  simp [owns]

theorem event_step (label : LifecycleCall T × Nat) (next : Step slot label after) :
    (label.2 = 0 ∧ slot.event ≤ after.event) ∨ (label.2 = slot.event + 1 ∧ after.event = slot.event + 1) := by
  obtain ⟨call, event⟩ := label
  cases call with
  | reserve owner =>
    cases next
    exact .inl ⟨rfl, by unfold reserve; split <;> exact le_rfl⟩
  | beginClose owner =>
    cases next
    exact .inl ⟨rfl, by unfold beginClose; split <;> simp⟩
  | finishClose owner =>
    cases next
    exact .inl ⟨rfl, by unfold finishClose; split <;> exact le_rfl⟩
  | nextEvent owner connection =>
    simp only [Step, perform, nextEvent] at next
    split at next <;> cases next
    next => exact .inl ⟨rfl, le_rfl⟩
    next => exact .inr ⟨rfl, rfl⟩
  | nextConfigurationEvent owner connection token closed =>
    simp only [Step, perform, nextConfigurationEvent_eq] at next
    split at next <;> cases next
    next => exact .inr ⟨rfl, rfl⟩
    next => exact .inl ⟨rfl, le_rfl⟩

theorem issued_run {start final : LifecycleSlot T} {labels : List (LifecycleCall T × Nat)}
    (run : Run Step start labels final) :
    start.event ≤ final.event ∧ (issued labels).Pairwise (· < ·) ∧
      ∀ event ∈ issued labels, start.event < event ∧ event ≤ final.event := by
  induction run with
  | refl => exact ⟨le_rfl, .nil, nofun⟩
  | @snoc labels middle after label run next ih =>
    obtain ⟨grown, increasing, bounded⟩ := ih
    rcases event_step label next with ⟨none, kept⟩ | ⟨counted, raised⟩
    · have same : issued (labels ++ [label]) = issued labels := by simp [issued, none]
      rw [same]
      exact ⟨grown.trans kept, increasing, fun event member =>
        ⟨(bounded event member).1, (bounded event member).2.trans kept⟩⟩
    · have added : issued (labels ++ [label]) = issued labels ++ [middle.event + 1] := by simp [issued, counted]
      rw [added, raised]
      refine ⟨by omega, List.pairwise_append.mpr ⟨increasing, List.pairwise_singleton _ _, ?_⟩, ?_⟩
      · intro event member last latest
        have bound := (bounded event member).2
        simp only [List.mem_singleton] at latest
        omega
      · intro event member
        rcases List.mem_append.mp member with earlier | last
        · have bounds := bounded event earlier
          exact ⟨bounds.1, by omega⟩
        · simp only [List.mem_singleton] at last
          omega

structure Issued (start : LifecycleSlot T) (labels : List (LifecycleCall T × Nat)) (final : LifecycleSlot T) :
    Prop where
  increasing : (issued labels).Pairwise (· < ·)
  fresh : ∀ event ∈ issued labels, start.event < event
  latest : ∀ owner, ∀ event ∈ issued labels, final.isCurrentEvent owner event = true →
    (issued labels).getLast? = some event

theorem issued_of_run {start final : LifecycleSlot T} {labels : List (LifecycleCall T × Nat)}
    (run : Run Step start labels final) : Issued start labels final := by
  obtain ⟨_, increasing, bounded⟩ := issued_run run
  refine ⟨increasing, fun event member => (bounded event member).1, fun owner event member current => ?_⟩
  have latest : final.event = event := by
    simp only [isCurrentEvent, Bool.and_eq_true, beq_iff_eq] at current
    exact current.2
  exact last_of_greatest increasing member fun other inside => latest ▸ (bounded other inside).2

end LifecycleSlot

end VirtualCamera
