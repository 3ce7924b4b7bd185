import VirtualCamera.V2.ControlRing

set_option autoImplicit false

namespace VirtualCamera

open Rings

variable {E : Type}

inductive ConsumerCall (E : Type) where
  | reading (consume : Bool) (call : TryRead E)
  | counting (write : Option UInt32)

-- One ring with its one producer and its one consumer, each inside a call or between two. The history records a call
-- at the access that decides it.
structure RingWorld (E : Type) where
  ring : Ring E
  producer : Option (TryWrite E) := none
  consumer : Option (ConsumerCall E) := none
  history : List (Event E) := []

-- A side begins a call, or makes the next access of the call it is in. The release ring has no `peek`.
inductive RingMove (E : Type) where
  | tryWrite (value : E)
  | tryRead
  | peek
  | available
  | produce
  | consume

namespace RingWorld

variable [SlotLayout E] [Inhabited E]

def called (world : RingWorld E) (call : ConsumerCall E) : RingWorld E :=
  if world.consumer.isSome then world else { world with consumer := some call }

def written (world : RingWorld E) (call : TryWrite E) : RingWorld E :=
  match call.step world.ring with
  | (ring, .running next) => { world with ring, producer := some next }
  | (ring, .done true) => { world with ring, producer := none, history := world.history ++ [.pushed call.value] }
  | (ring, .done false) => { world with ring, producer := none, history := world.history ++ [.refusedFull] }

def read (world : RingWorld E) (consume : Bool) (call : TryRead E) : RingWorld E :=
  match call.step consume world.ring with
  | (ring, .running next) => { world with ring, consumer := some (.reading consume next) }
  | (ring, .done none) => { world with ring, consumer := none, history := world.history ++ [.refusedEmpty] }
  | (ring, .done (some value)) =>
    { world with ring, consumer := none
                 history := world.history ++ [if consume then .popped value else .peeked value] }

def counted (world : RingWorld E) : Option UInt32 → RingWorld E
  | none =>
    { world with
      consumer := some (.counting (some world.ring.writeIndex))
      history := world.history ++ [.counting] }
  | some write =>
    { world with consumer := none, history := world.history ++ [.counted (write - world.ring.readIndex).toNat] }

def perform (world : RingWorld E) : RingMove E → RingWorld E
  | .tryWrite value => if world.producer.isSome then world else { world with producer := some (.start value) }
  | .tryRead => world.called (.reading true .start)
  | .peek => world.called (.reading false .start)
  | .available => world.called (.counting none)
  | .produce => world.producer.elim world world.written
  | .consume =>
    match world.consumer with
    | none => world
    | some (.reading consume call) => world.read consume call
    | some (.counting write) => world.counted write

def play (world : RingWorld E) (moves : List (RingMove E)) : RingWorld E := moves.foldl perform world

def pushes (world : RingWorld E) : Nat := world.history.countP Event.isPush

def comparing (world : RingWorld E) : RingMove E → Bool
  | .consume => match world.consumer with
    | some (.reading _ (.loaded _)) => true
    | _ => false
  | _ => false

def Unwrapped (world : RingWorld E) : List (RingMove E) → Prop
  | [] => True
  | move :: moves => (world.comparing move = true → world.pushes < 2 ^ 32) ∧ (world.perform move).Unwrapped moves

variable [DecidableEq E]

structure Refines (world : RingWorld E) (fifo : Fifo E) : Prop where
  history : Fifo.after RING_SIZE.toNat world.history = some fifo
  queue : world.ring.queue = fifo.queue
  producer : ∀ call ∈ world.producer, call.Valid world.ring
  reading : ∀ consume call, world.consumer = some (.reading consume call) → call.Valid world.ring
  counting : ∀ write, world.consumer = some (.counting (some write)) →
    (write - world.ring.readIndex).toNat = fifo.seen
  pushes : world.pushes = world.ring.readIndex.toNat + world.ring.gap

variable {world : RingWorld E} {fifo : Fifo E}

section

omit [Inhabited E]

theorem initial_refines (slots : Nat → E) : ({ ring := { slots } } : RingWorld E).Refines {} where
  history := rfl
  queue := by simp [Ring.queue, Ring.gap]
  producer := by simp
  reading := by simp
  counting := by simp
  pushes := by simp [RingWorld.pushes, Ring.gap]

theorem Refines.bounded (refines : world.Refines fifo) : world.ring.gap ≤ RING_SIZE.toNat := by
  rw [← world.ring.queue_length, refines.queue]
  exact Fifo.after_length refines.history

theorem Refines.record (refines : world.Refines fifo) {event : Event E} {after : Fifo E}
    (next : fifo.step RING_SIZE.toNat event = some after) :
    Fifo.after RING_SIZE.toNat (world.history ++ [event]) = some after := by
  rw [Fifo.after_snoc, refines.history]
  exact next

theorem Refines.written (refines : world.Refines fifo) {call : TryWrite E} (running : world.producer = some call) :
    ∃ after, (world.written call).Refines after := by
  have outcome := TryWrite.step_outcome (refines.producer call running)
  unfold RingWorld.written
  generalize call.step world.ring = result at outcome
  cases outcome with
  | running ring next valid same grown write queue =>
    have gap : ring.gap = world.ring.gap := by rw [← ring.queue_length, queue, world.ring.queue_length]
    refine ⟨fifo,
      { refines with
        queue := queue.trans refines.queue, producer := ?_, reading := ?_,
        counting := ?_, pushes := ?_ }⟩
    · rintro _ ⟨⟩
      exact valid
    · exact fun consume call here => (refines.reading consume call here).grown grown
    · exact fun write here => by rw [grown.read]; exact refines.counting write here
    · rw [gap, grown.read]
      exact refines.pushes
  | full unread =>
    have full : fifo.step RING_SIZE.toNat .refusedFull = some fifo := by
      rw [Fifo.step, ← refines.queue, world.ring.queue_length, if_pos (le_antisymm refines.bounded unread)]
    refine ⟨fifo, { refines with history := refines.record full, producer := by simp, pushes := ?_ }⟩
    rw [← refines.pushes]
    simp [RingWorld.pushes, Event.isPush]
  | published ring room grown write queue =>
    have gap : ring.gap = world.ring.gap + 1 := by
      rw [← ring.queue_length, queue, List.length_append, world.ring.queue_length, List.length_singleton]
    have pushed : fifo.step RING_SIZE.toNat (.pushed call.value) =
        some { fifo with queue := fifo.queue ++ [call.value] } := by
      rw [Fifo.step, ← refines.queue, world.ring.queue_length, if_pos room]
    refine ⟨_, ⟨refines.record pushed, by rw [queue, refines.queue], by simp, ?_, ?_, ?_⟩⟩
    · exact fun consume call here => (refines.reading consume call here).grown grown
    · exact fun write here => by rw [grown.read]; exact refines.counting write here
    · rw [gap, grown.read, ← Nat.add_assoc, ← refines.pushes]
      simp [RingWorld.pushes, Event.isPush]

-- While the write index has not come round, it is the read index with the gap added.
theorem Refines.ahead (refines : world.Refines fifo) (few : world.pushes < 2 ^ 32) :
    world.ring.writeIndex.toNat = world.ring.readIndex.toNat + world.ring.gap := by
  have write := world.ring.writeIndex.toNat_lt
  have sum := refines.pushes
  have gap : world.ring.gap = (world.ring.writeIndex - world.ring.readIndex).toNat := rfl
  rw [UInt32.toNat_sub] at gap
  omega

-- After that it lies below the read index, which never comes round.
theorem Refines.behind (refines : world.Refines fifo) (many : 2 ^ 32 ≤ world.pushes) :
    world.ring.writeIndex ≤ world.ring.readIndex ∧ 0 < world.ring.gap := by
  have write := world.ring.writeIndex.toNat_lt
  have read := world.ring.readIndex.toNat_lt
  have bounded := refines.bounded
  have sum := refines.pushes
  have gap : world.ring.gap = (world.ring.writeIndex - world.ring.readIndex).toNat := rfl
  rw [show RING_SIZE.toNat = 16 from rfl] at bounded
  rw [UInt32.toNat_sub] at gap
  rw [UInt32.le_iff_toNat_le]
  omega

theorem Refines.counted (refines : world.Refines fifo) {write : Option UInt32}
    (running : world.consumer = some (.counting write)) : ∃ after, (world.counted write).Refines after := by
  cases write with
  | none =>
    refine ⟨{ fifo with seen := fifo.queue.length },
      ⟨refines.record rfl, refines.queue, refines.producer, by simp [RingWorld.counted], ?_, ?_⟩⟩
    · rintro _ ⟨⟩
      rw [← refines.queue, world.ring.queue_length]
      rfl
    · rw [show (world.counted none).ring = world.ring from rfl, ← refines.pushes]
      simp [RingWorld.pushes, RingWorld.counted, Event.isPush]
  | some write =>
    have counted : fifo.step RING_SIZE.toNat (.counted (write - world.ring.readIndex).toNat) = some fifo := by
      rw [Fifo.step, if_pos (refines.counting write running).symm]
    refine ⟨fifo, ⟨refines.record counted, refines.queue, refines.producer,
      by simp [RingWorld.counted], by simp [RingWorld.counted], ?_⟩⟩
    rw [show (world.counted (some write)).ring = world.ring from rfl, ← refines.pushes]
    simp [RingWorld.pushes, RingWorld.counted, Event.isPush]

theorem Refines.called (refines : world.Refines fifo) {call : ConsumerCall E}
    (fresh : (∃ consume, call = .reading consume .start) ∨ call = .counting none) :
    (world.called call).Refines fifo := by
  unfold RingWorld.called
  split
  next => exact refines
  next =>
    refine { refines with reading := ?_, counting := ?_ }
    · rintro _ _ ⟨⟩
      rcases fresh with ⟨_, same⟩ | same <;> cases same
      trivial
    · rintro _ ⟨⟩
      rcases fresh with ⟨_, same⟩ | same <;> cases same

end

theorem Refines.read (refines : world.Refines fifo) {consume : Bool} {call : TryRead E}
    (running : world.consumer = some (.reading consume call))
    (unwrapped : world.comparing .consume = true → world.pushes < 2 ^ 32) :
    ∃ after, (world.read consume call).Refines after := by
  have outcome := TryRead.step_outcome (refines.reading consume call running) consume
  unfold RingWorld.read
  generalize call.step consume world.ring = result at outcome
  cases outcome with
  | running next valid =>
    refine ⟨fifo, { refines with reading := ?_, counting := by simp }⟩
    rintro _ _ ⟨⟩
    exact valid
  | empty read loaded behind =>
    have ahead := refines.ahead (unwrapped (by simp [comparing, running, loaded]))
    have none : fifo.queue = [] := by
      rw [UInt32.le_iff_toNat_le] at behind
      rw [← refines.queue, ← List.length_eq_zero_iff, world.ring.queue_length]
      omega
    have empty : fifo.step RING_SIZE.toNat .refusedEmpty = some fifo := by rw [Fifo.step, if_pos none]
    refine ⟨fifo,
      { refines with
        history := refines.record empty, reading := by simp, counting := by simp,
        pushes := ?_ }⟩
    rw [← refines.pushes]
    simp [RingWorld.pushes, Event.isPush]
  | took ring value consumes shrunk read room queue =>
    have popped : fifo.step RING_SIZE.toNat (.popped value) = some { fifo with queue := fifo.queue.tail } := by
      simp [Fifo.step, ← refines.queue, queue]
    have gap : world.ring.gap = ring.gap + 1 := by
      rw [← ring.queue_length, ← world.ring.queue_length, queue, List.length_cons]
    have index : ring.readIndex.toNat = world.ring.readIndex.toNat + 1 := by
      rw [read, UInt32.toNat_add, UInt32.toNat_one, Nat.mod_eq_of_lt room]
    simp only [consumes, if_true]
    refine ⟨_, ⟨refines.record popped, ?_, ?_, by simp, by simp, ?_⟩⟩
    · rw [← refines.queue, queue]
      rfl
    · exact fun call here => (refines.producer call here).shrunk shrunk
    · rw [index, Nat.add_right_comm, Nat.add_assoc, ← gap, ← refines.pushes]
      simp [RingWorld.pushes, Event.isPush]
  | peeked value keeps queue =>
    have peeked : fifo.step RING_SIZE.toNat (.peeked value) = some fifo := by
      rw [Fifo.step, ← refines.queue, if_pos queue]
    simp only [keeps, Bool.false_eq_true, if_false]
    refine ⟨fifo,
      { refines with
        history := refines.record peeked, reading := by simp, counting := by simp,
        pushes := ?_ }⟩
    rw [← refines.pushes]
    simp [RingWorld.pushes, Event.isPush]

theorem Refines.perform (refines : world.Refines fifo) (move : RingMove E)
    (unwrapped : world.comparing move = true → world.pushes < 2 ^ 32) :
    ∃ after, (world.perform move).Refines after := by
  cases move with
  | tryWrite value =>
    simp only [RingWorld.perform]
    split
    next => exact ⟨fifo, refines⟩
    next =>
      refine ⟨fifo, { refines with producer := ?_ }⟩
      rintro _ ⟨⟩
      trivial
  | tryRead => exact ⟨fifo, refines.called (.inl ⟨true, rfl⟩)⟩
  | peek => exact ⟨fifo, refines.called (.inl ⟨false, rfl⟩)⟩
  | available => exact ⟨fifo, refines.called (.inr rfl)⟩
  | produce =>
    simp only [RingWorld.perform]
    cases running : world.producer with
    | none => exact ⟨fifo, refines⟩
    | some call => exact refines.written running
  | consume =>
    simp only [RingWorld.perform]
    split
    next => exact ⟨fifo, refines⟩
    next consume call running => exact refines.read running unwrapped
    next write running => exact refines.counted running

theorem Refines.wrapped (refines : world.Refines fifo) {move : RingMove E}
    (comparing : world.comparing move = true)
    (many : 2 ^ 32 ≤ world.pushes) : ¬ Fifo.Accepts RING_SIZE.toNat (world.perform move).history := by
  cases move <;> simp only [RingWorld.comparing, Bool.false_eq_true] at comparing
  split at comparing
  next consume read running =>
    obtain ⟨behind, unread⟩ := refines.behind many
    have same : read = world.ring.readIndex := refines.reading consume _ running
    have refused : (world.perform .consume).history = world.history ++ [.refusedEmpty] := by
      simp [RingWorld.perform, running, RingWorld.read, TryRead.step, same, behind]
    have some_ : fifo.queue ≠ [] := by
      rw [← refines.queue, ← List.length_pos_iff, world.ring.queue_length]
      exact unread
    rw [Fifo.Accepts, refused, Fifo.after_snoc, refines.history]
    simp [Fifo.step, some_]
  next => cases comparing

omit [DecidableEq E] in
theorem perform_history (world : RingWorld E) (move : RingMove E) :
    ∃ later, (world.perform move).history = world.history ++ later := by
  cases move <;> simp only [RingWorld.perform]
  case tryWrite | tryRead | peek | available => exact ⟨[], by simp [RingWorld.called]; grind⟩
  case produce =>
    cases world.producer with
    | none => exact ⟨[], by simp⟩
    | some call =>
      simp only [Option.elim_some, RingWorld.written]
      split <;> simp
  case consume =>
    split
    · exact ⟨[], by simp⟩
    · simp only [RingWorld.read]
      split <;> simp
    · unfold RingWorld.counted
      split <;> simp

omit [DecidableEq E] in
theorem play_history (world : RingWorld E) (moves : List (RingMove E)) :
    ∃ later, (world.play moves).history = world.history ++ later := by
  induction moves generalizing world with
  | nil => exact ⟨[], by simp [play]⟩
  | cons move moves ih =>
    obtain ⟨first, once⟩ := world.perform_history move
    obtain ⟨rest, more⟩ := ih (world.perform move)
    exact ⟨first ++ rest, by rw [← List.append_assoc, ← once]; exact more⟩

theorem Refines.play (refines : world.Refines fifo) (moves : List (RingMove E)) :
    Fifo.Accepts RING_SIZE.toNat (world.play moves).history ↔ world.Unwrapped moves := by
  induction moves generalizing world fifo with
  | nil => exact iff_of_true (by simp [Fifo.Accepts, RingWorld.play, refines.history]) trivial
  | cons move moves ih =>
    simp only [Unwrapped, RingWorld.play, List.foldl_cons]
    by_cases unwrapped : world.comparing move = true → world.pushes < 2 ^ 32
    · obtain ⟨after, next⟩ := refines.perform move unwrapped
      rw [and_iff_right unwrapped]
      exact ih next
    · rw [Classical.not_imp, not_lt] at unwrapped
      obtain ⟨comparing, many⟩ := unwrapped
      refine iff_of_false (fun accepts => ?_) fun both => absurd (both.1 comparing) (not_lt.mpr many)
      obtain ⟨later, history⟩ := (world.perform move).play_history moves
      rw [← RingWorld.play, history] at accepts
      exact refines.wrapped comparing many accepts.of_append

structure Idle (world : RingWorld ControlRing.Slot) (count : Nat) : Prop where
  producer : world.producer = none
  consumer : world.consumer = none
  write : world.ring.writeIndex = UInt32.ofNat count
  read : world.ring.readIndex = UInt32.ofNat count

def writeAndRead : List (RingMove ControlRing.Slot) :=
  [ .tryWrite {}, .produce, .produce, .produce, .produce, .produce, .produce, .produce
  , .tryRead, .consume, .consume, .consume, .consume, .consume, .consume, .consume ]

theorem Idle.next {world : RingWorld ControlRing.Slot} {count : Nat} (idle : world.Idle count)
    (few : count + 1 < 2 ^ 32) : (world.play writeAndRead).Idle (count + 1) := by
  obtain ⟨ring, producer, consumer, history⟩ := world
  obtain ⟨rfl, rfl, write, read⟩ := idle
  have next : UInt32.ofNat count + 1 = UInt32.ofNat (count + 1) := by rw [UInt32.ofNat_add]; rfl
  have ahead : ¬ UInt32.ofNat count + 1 ≤ UInt32.ofNat count := by
    have small : count < UInt32.size := Nat.lt_of_succ_lt few
    rw [UInt32.le_iff_toNat_le, UInt32.toNat_add, UInt32.toNat_ofNat_of_lt' small, UInt32.toNat_one,
      Nat.mod_eq_of_lt few]
    omega
  simp only at write read
  simp [play, writeAndRead, perform, called, written, RingWorld.read, TryWrite.step, TryRead.step, write, read,
    SlotLayout.stores, SlotLayout.loads, RING_SIZE, ahead]
  exact ⟨rfl, rfl, next, next⟩

theorem rounds_idle (count : Nat) (few : count < 2 ^ 32) :
    (play { ring := { slots := fun _ => {} } } (List.replicate count writeAndRead).flatten).Idle count := by
  induction count with
  | zero => exact ⟨rfl, rfl, rfl, rfl⟩
  | succ count ih =>
    rw [List.replicate_succ', List.flatten_concat, play, List.foldl_append]
    exact (ih (by omega)).next few

theorem Idle.last {world : RingWorld ControlRing.Slot} {count : Nat} (idle : world.Idle count)
    (final : count + 1 = 2 ^ 32) :
    (world.play writeAndRead).history = world.history ++ [.pushed {}, .refusedEmpty] := by
  obtain ⟨ring, producer, consumer, history⟩ := world
  obtain ⟨rfl, rfl, write, read⟩ := idle
  have round : UInt32.ofNat count + 1 = 0 := by
    rw [← UInt32.toNat_inj, UInt32.toNat_add, UInt32.toNat_ofNat', UInt32.toNat_one]
    simp [final]
  simp only at write read
  simp [play, writeAndRead, perform, called, written, RingWorld.read, TryWrite.step, TryRead.step, write, read,
    SlotLayout.stores, RING_SIZE, TryWrite.value, round]

theorem last_refused (count : Nat) (final : count + 1 = 2 ^ 32) :
    ¬ Fifo.Accepts RING_SIZE.toNat (play { ring := { slots := fun _ => {} } }
      ((List.replicate count writeAndRead).flatten ++ writeAndRead)).history := by
  have idle := rounds_idle count (by omega)
  rw [play, List.foldl_append, ← play, ← play, idle.last final]
  exact Fifo.not_accepts_lost _ _ _

theorem shared_rings (slots : Nat → ControlRing.Slot) (releaseSlots : Nat → ControlRing.ReleaseSlot)
    (submit : List (RingMove ControlRing.Slot)) (release : List (RingMove ControlRing.ReleaseSlot)) :
    (Fifo.Accepts RING_SIZE.toNat (play { ring := { slots } } submit).history ↔
      Unwrapped { ring := { slots } } submit) ∧
    (Fifo.Accepts RING_SIZE.toNat (play { ring := { slots := releaseSlots } } release).history ↔
      Unwrapped { ring := { slots := releaseSlots } } release) := by
  constructor
  next => exact (initial_refines slots).play submit
  next => exact (initial_refines releaseSlots).play release

theorem submit_ring_stops : ¬ ∀ moves : List (RingMove ControlRing.Slot),
    Fifo.Accepts RING_SIZE.toNat (play { ring := { slots := fun _ => {} } } moves).history := by
  intro all
  exact last_refused (2 ^ 32 - 1) (by norm_num) (all _)

end RingWorld

end VirtualCamera
