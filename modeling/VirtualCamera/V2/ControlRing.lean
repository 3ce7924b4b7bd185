import VirtualCamera.Shared.Rings

set_option autoImplicit false

namespace VirtualCamera

def MAX_BUFFERS : Nat := 4

def RING_SIZE : UInt32 := 16

structure ControlRing.Slot where
  bufferIndex : UInt32 := 0
  fenceFd : Int32 := 0
  timestampNs : Int64 := 0
  flags : UInt32 := 0
deriving DecidableEq, Inhabited

structure ControlRing.ReleaseSlot where
  bufferIndex : UInt32 := 0
deriving DecidableEq, Inhabited

-- The plain stores that fill a slot and the plain loads that copy it out, in their order: each takes from its first
-- argument what it puts into its second.
class SlotLayout (E : Type) where
  stores : List (E → E → E)
  loads : List (E → E → E)
  stored : ∀ source target, stores.foldl (fun target move => move source target) target = source
  loaded : ∀ source target, loads.foldl (fun target move => move source target) target = source

open ControlRing in
instance : SlotLayout ControlRing.Slot where
  stores :=
    [ fun source target => { target with bufferIndex := source.bufferIndex }
    , fun source target => { target with fenceFd := source.fenceFd }
    , fun source target => { target with timestampNs := source.timestampNs }
    , fun source target => { target with flags := source.flags } ]
  loads :=
    [ fun source target => { target with bufferIndex := source.bufferIndex }
    , fun source target => { target with fenceFd := source.fenceFd }
    , fun source target => { target with timestampNs := source.timestampNs }
    , fun source target => { target with flags := source.flags } ]
  stored _ _ := rfl
  loaded _ _ := rfl

-- The second store of `tryWriteRelease` goes to `bufferState`, which is no part of the ring.
open ControlRing in
instance : SlotLayout ReleaseSlot where
  stores := [fun source target => { target with bufferIndex := source.bufferIndex }, fun _ target => target]
  loads := [fun source target => { target with bufferIndex := source.bufferIndex }]
  stored _ _ := rfl
  loaded _ _ := rfl

variable {E : Type}

def moved (moves : List (E → E → E)) (count : Nat) (source target : E) : E :=
  (moves.take count).foldl (fun target move => move source target) target

theorem moved_succ {moves : List (E → E → E)} {count : Nat} {move : E → E → E} (here : moves[count]? = some move)
    (source target : E) : moved moves (count + 1) source target =
    move source (moved moves count source target) := by
  simp [moved, List.take_add_one, here]

structure Ring (E : Type) where
  writeIndex : UInt32 := 0
  readIndex : UInt32 := 0
  slots : Nat → E

def slotIdx (index : UInt32) : Nat := (index % RING_SIZE).toNat

inductive CallState (P R : Type) where
  | running (pc : P)
  | done (result : R)

-- `tryWrite` and `tryWriteRelease`: both load the indices, fill the slot and publish it.
inductive TryWrite (E : Type) where
  | start (value : E)
  | loaded (value : E) (write : UInt32)
  | storing (value : E) (write : UInt32) (stored : Nat)

-- `tryRead`, `tryReadRelease` and, without the last store, `peek`.
inductive TryRead (E : Type) where
  | start
  | loaded (read : UInt32)
  | copying (read : UInt32) (out : E) (copied : Nat)

namespace Ring

def gap (ring : Ring E) : Nat := (ring.writeIndex - ring.readIndex).toNat

def queue (ring : Ring E) : List E :=
  Rings.unread RING_SIZE.toNat ring.slots ring.readIndex.toNat ring.gap

@[simp] theorem queue_length (ring : Ring E) : ring.queue.length = ring.gap := by simp [queue]

theorem full_iff (ring : Ring E) : RING_SIZE ≤ ring.writeIndex - ring.readIndex ↔ RING_SIZE.toNat ≤ ring.gap := by
  rw [UInt32.le_iff_toNat_le, gap]

theorem writeSlot (ring : Ring E) :
    slotIdx ring.writeIndex = (ring.readIndex.toNat + ring.gap) % RING_SIZE.toNat := by
  have write := ring.writeIndex.toNat_lt
  have read := ring.readIndex.toNat_lt
  simp only [slotIdx, gap, UInt32.toNat_mod, UInt32.toNat_sub, show RING_SIZE.toNat = 16 from rfl]
  omega

theorem gap_pos (ring : Ring E) (apart : ring.writeIndex ≠ ring.readIndex) : 0 < ring.gap := by
  have write := ring.writeIndex.toNat_lt
  have read := ring.readIndex.toNat_lt
  rw [ne_eq, ← UInt32.toNat_inj] at apart
  rw [gap, UInt32.toNat_sub]
  omega

theorem queue_fill (ring : Ring E) (room : ring.gap < RING_SIZE.toNat) (value : E) :
    ({ ring with slots := Function.update ring.slots (slotIdx ring.writeIndex) value } : Ring E).queue =
      ring.queue := by
  rw [writeSlot]
  exact Rings.unread_update _ _ _ _ room value

theorem gap_publish (ring : Ring E) (room : ring.gap < RING_SIZE.toNat) :
    ({ ring with writeIndex := ring.writeIndex + 1 } : Ring E).gap = ring.gap + 1 := by
  have write := ring.writeIndex.toNat_lt
  have read := ring.readIndex.toNat_lt
  simp only [gap, UInt32.toNat_sub, UInt32.toNat_add, show RING_SIZE.toNat = 16 from rfl,
    show (1 : UInt32).toNat = 1 from rfl] at *
  omega

theorem queue_publish (ring : Ring E) (room : ring.gap < RING_SIZE.toNat) :
    ({ ring with writeIndex := ring.writeIndex + 1 } : Ring E).queue =
      ring.queue ++ [ring.slots (slotIdx ring.writeIndex)] := by
  rw [queue, gap_publish ring room, writeSlot]
  exact Rings.unread_snoc _ _ _ _

theorem gap_take (ring : Ring E) (some_ : 0 < ring.gap) :
    ({ ring with readIndex := ring.readIndex + 1 } : Ring E).gap + 1 = ring.gap := by
  have write := ring.writeIndex.toNat_lt
  have read := ring.readIndex.toNat_lt
  simp only [gap, UInt32.toNat_sub, UInt32.toNat_add, show (1 : UInt32).toNat = 1 from rfl] at *
  omega

theorem queue_take (ring : Ring E) (some_ : 0 < ring.gap) :
    ring.queue = ring.slots (slotIdx ring.readIndex) ::
      ({ ring with readIndex := ring.readIndex + 1 } : Ring E).queue := by
  have read := ring.readIndex.toNat_lt
  rw [queue, ← gap_take ring some_, Rings.unread_cons]
  congr 1
  refine Rings.unread_mod _ _ _ ?_
  simp only [UInt32.toNat_add, show (1 : UInt32).toNat = 1 from rfl, show RING_SIZE.toNat = 16 from rfl]
  omega

structure Grown (before after : Ring E) : Prop where
  read : after.readIndex = before.readIndex
  queue : ∃ added, after.queue = before.queue ++ added

structure Shrunk (before after : Ring E) : Prop where
  write : after.writeIndex = before.writeIndex
  slots : after.slots = before.slots
  gap : after.gap ≤ before.gap

end Ring

variable [SlotLayout E]

def TryWrite.step (ring : Ring E) : TryWrite E → Ring E × CallState (TryWrite E) Bool
  | .start value => (ring, .running (.loaded value ring.writeIndex))
  | .loaded value write =>
    if RING_SIZE ≤ write - ring.readIndex then (ring, .done false)
    else (ring, .running (.storing value write 0))
  | .storing value write stored =>
    match (SlotLayout.stores (E := E))[stored]? with
    | some store =>
      let slots := Function.update ring.slots (slotIdx write) (store value (ring.slots (slotIdx write)))
      ({ ring with slots }, .running (.storing value write (stored + 1)))
    | none => ({ ring with writeIndex := write + 1 }, .done true)

def TryRead.step [Inhabited E] (consume : Bool) (ring : Ring E) :
    TryRead E → Ring E × CallState (TryRead E) (Option E)
  | .start => (ring, .running (.loaded ring.readIndex))
  | .loaded read =>
    if ring.writeIndex ≤ read then (ring, .done none) else (ring, .running (.copying read default 0))
  | .copying read out copied =>
    match (SlotLayout.loads (E := E))[copied]? with
    | some load => (ring, .running (.copying read (load (ring.slots (slotIdx read)) out) (copied + 1)))
    | none => (if consume then { ring with readIndex := read + 1 } else ring, .done (some out))

def TryWrite.Valid (ring : Ring E) : TryWrite E → Prop
  | .start _ => True
  | .loaded _ write => write = ring.writeIndex
  | .storing value write stored =>
    write = ring.writeIndex ∧ ring.gap < RING_SIZE.toNat ∧ stored ≤ (SlotLayout.stores (E := E)).length ∧
      ∃ old, ring.slots (slotIdx write) = moved SlotLayout.stores stored value old

def TryRead.Valid (ring : Ring E) : TryRead E → Prop
  | .start => True
  | .loaded read => read = ring.readIndex
  | .copying read out copied =>
    read = ring.readIndex ∧ read.toNat + 1 < 2 ^ 32 ∧ copied ≤ (SlotLayout.loads (E := E)).length ∧
      ∃ value rest old, ring.queue = value :: rest ∧ out = moved SlotLayout.loads copied value old

theorem TryWrite.Valid.shrunk {before after : Ring E} {call : TryWrite E} (valid : call.Valid before)
    (shrunk : before.Shrunk after) : call.Valid after := by
  cases call with
  | start => trivial
  | loaded value write => exact valid.trans shrunk.write.symm
  | storing value write stored =>
    obtain ⟨same, room, bounded, old, filled⟩ := valid
    exact ⟨same.trans shrunk.write.symm, shrunk.gap.trans_lt room, bounded, old, by rw [shrunk.slots, filled]⟩

theorem TryRead.Valid.grown {before after : Ring E} {call : TryRead E} (valid : call.Valid before)
    (grown : before.Grown after) : call.Valid after := by
  cases call with
  | start => trivial
  | loaded read => exact valid.trans grown.read.symm
  | copying read out copied =>
    obtain ⟨same, room, bounded, value, rest, old, queue, copy⟩ := valid
    obtain ⟨added, longer⟩ := grown.queue
    exact ⟨same.trans grown.read.symm, room, bounded, value, rest ++ added, old, by rw [longer, queue]; rfl, copy⟩

def TryWrite.value : TryWrite E → E
  | .start value | .loaded value _ | .storing value _ _ => value

inductive TryWrite.Outcome (ring : Ring E) (value : E) : Ring E × CallState (TryWrite E) Bool → Prop where
  | running (after : Ring E) (call : TryWrite E) (valid : call.Valid after) (same : call.value = value)
      (grown : ring.Grown after) (write : after.writeIndex = ring.writeIndex) (queue : after.queue = ring.queue) :
      Outcome ring value (after, .running call)
  | full (unread : RING_SIZE.toNat ≤ ring.gap) : Outcome ring value (ring, .done false)
  | published (after : Ring E) (room : ring.gap < RING_SIZE.toNat) (grown : ring.Grown after)
      (write : after.writeIndex = ring.writeIndex + 1) (queue : after.queue = ring.queue ++ [value]) :
      Outcome ring value (after, .done true)

theorem TryWrite.step_outcome {ring : Ring E} {call : TryWrite E} (valid : call.Valid ring) :
    Outcome ring call.value (call.step ring) := by
  have same : ring.Grown ring := ⟨rfl, [], (List.append_nil _).symm⟩
  cases call with
  | start value => exact .running ring (.loaded value _) rfl rfl same rfl rfl
  | loaded value write =>
    obtain rfl := valid
    simp only [TryWrite.step]
    split
    next full => exact .full (ring.full_iff.mp full)
    next room =>
      have less := not_le.mp (mt ring.full_iff.mpr room)
      exact .running ring (.storing value _ 0) ⟨rfl, less, Nat.zero_le _, _, rfl⟩ rfl same rfl rfl
  | storing value write stored =>
    obtain ⟨rfl, room, bounded, old, filled⟩ := valid
    simp only [TryWrite.step]
    cases here : (SlotLayout.stores (E := E))[stored]? with
    | some store =>
      have kept := ring.queue_fill room (store value (ring.slots (slotIdx ring.writeIndex)))
      refine .running _ (.storing value _ (stored + 1)) ⟨rfl, room, ?_, old, ?_⟩ rfl
        ⟨rfl, [], by rw [kept, List.append_nil]⟩ rfl kept
      · exact (List.getElem?_eq_some_iff.mp here).1
      · rw [moved_succ here, ← filled]
        exact Function.update_self _ _ _
    | none =>
      have all := le_antisymm bounded (List.getElem?_eq_none_iff.mp here)
      have whole : ring.slots (slotIdx ring.writeIndex) = value := by
        rw [filled, all, moved, List.take_length, SlotLayout.stored]
      have queue := ring.queue_publish room
      rw [whole] at queue
      exact .published _ room ⟨rfl, [value], queue⟩ rfl queue

inductive TryRead.Outcome (ring : Ring E) (consume : Bool) (call : TryRead E) :
    Ring E × CallState (TryRead E) (Option E) → Prop where
  | running (next : TryRead E) (valid : next.Valid ring) : Outcome ring consume call (ring, .running next)
  | empty (read : UInt32) (loaded : call = .loaded read) (behind : ring.writeIndex ≤ ring.readIndex) :
      Outcome ring consume call (ring, .done none)
  | took (after : Ring E) (value : E) (consumes : consume = true) (shrunk : ring.Shrunk after)
      (read : after.readIndex = ring.readIndex + 1) (room : ring.readIndex.toNat + 1 < 2 ^ 32)
      (queue : ring.queue = value :: after.queue) : Outcome ring consume call (after, .done (some value))
  | peeked (value : E) (keeps : consume = false) (queue : ring.queue.head? = some value) :
      Outcome ring consume call (ring, .done (some value))

theorem TryRead.step_outcome [Inhabited E] {ring : Ring E} {call : TryRead E} (valid : call.Valid ring)
    (consume : Bool) :
    Outcome ring consume call (call.step consume ring) := by
  cases call with
  | start => exact .running (.loaded _) rfl
  | loaded read =>
    obtain rfl := valid
    simp only [TryRead.step]
    split
    next behind => exact .empty _ rfl behind
    next ahead =>
      have less := UInt32.not_le.mp ahead
      have bounded := ring.writeIndex.toNat_lt
      have queue := ring.queue_take (ring.gap_pos (UInt32.ne_of_lt less).symm)
      refine .running _ ⟨rfl, ?_, Nat.zero_le _, _, _, default, queue, rfl⟩
      rw [UInt32.lt_iff_toNat_lt] at less
      omega
  | copying read out copied =>
    obtain ⟨rfl, room, bounded, value, rest, old, queue, copy⟩ := valid
    have some_ : 0 < ring.gap := by rw [← ring.queue_length, queue]; exact Nat.succ_pos _
    have taken := ring.queue_take some_
    have head : ring.slots (slotIdx ring.readIndex) = value := (List.cons.inj (taken.symm.trans queue)).1
    simp only [TryRead.step]
    cases here : (SlotLayout.loads (E := E))[copied]? with
    | some load =>
      refine .running _ ⟨rfl, room, (List.getElem?_eq_some_iff.mp here).1, value, rest, old, queue, ?_⟩
      rw [moved_succ here, ← copy, head]
    | none =>
      have all := le_antisymm bounded (List.getElem?_eq_none_iff.mp here)
      have whole : out = value := by rw [copy, all, moved, List.take_length, SlotLayout.loaded]
      cases consume with
      | true =>
        rw [head] at taken
        have less := ring.gap_take some_
        rw [whole]
        exact .took _ value rfl ⟨rfl, rfl, by rw [if_pos rfl]; omega⟩ rfl room taken
      | false =>
        rw [whole]
        exact .peeked value rfl (by rw [queue]; rfl)

inductive TryRead.Taken (ring : Ring E) : Ring E × CallState (TryRead E) (Option E) → Prop where
  | running (next : TryRead E) (valid : next.Valid ring) : Taken ring (ring, .running next)
  | empty (queue : ring.queue = []) : Taken ring (ring, .done none)
  | took (after : Ring E) (value : E) (shrunk : ring.Shrunk after) (ordered : after.readIndex ≤ after.writeIndex)
      (queue : ring.queue = value :: after.queue) : Taken ring (after, .done (some value))

theorem TryRead.step_taken [Inhabited E] {ring : Ring E} {call : TryRead E} (valid : call.Valid ring)
    (ordered : ring.readIndex ≤ ring.writeIndex) : Taken ring (call.step true ring) := by
  have outcome := TryRead.step_outcome valid true
  generalize call.step true ring = result at outcome
  cases outcome with
  | running next valid => exact .running next valid
  | empty read loaded behind =>
    have same := UInt32.le_antisymm behind ordered
    have none : ring.queue = [] := by rw [← List.length_eq_zero_iff, ring.queue_length, Ring.gap, same]; simp
    exact .empty none
  | took after value consumes shrunk read room queue =>
    refine .took after value shrunk ?_ queue
    have some_ : 0 < ring.gap := by rw [← ring.queue_length, queue]; exact Nat.succ_pos _
    rw [Ring.gap, UInt32.toNat_sub_of_le _ _ ordered] at some_
    rw [read, shrunk.write, UInt32.le_iff_toNat_le, UInt32.toNat_add, UInt32.toNat_one, Nat.mod_eq_of_lt room]
    omega
  | peeked value keeps queue => cases keeps

end VirtualCamera
