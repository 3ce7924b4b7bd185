import VirtualCamera.V2.SharedBufferPool

set_option autoImplicit false

namespace VirtualCamera

-- What the handles of different processes have in common: a part of a pool that a writer has allocated. Part 0 is the
-- control ring.
structure SharedObject where
  writer : Nat
  pool : Nat
  part : Nat
deriving DecidableEq, Repr

structure Offer where
  writer : Nat
  pool : Nat
  config : BufferPoolConfig

namespace Offer

def ring (offer : Offer) : SharedObject := ⟨offer.writer, offer.pool, 0⟩

def buffer (offer : Offer) (index : Nat) : SharedObject := ⟨offer.writer, offer.pool, index + 1⟩

def count (offer : Offer) : Nat := offer.config.bufferCount.toInt.toNat

end Offer

namespace SharedBufferPool

-- `dup` returned `fd`, and `mmap` the address. A `dup` that fails leaves its result in the field.
def attachControlRing (pool : SharedBufferPool) (fd : Int32) (address : Option Nat) : Bool × SharedBufferPool :=
  if fd < 0 then (false, { pool with controlRingFd := fd })
  else
    let pool := { pool.acquire (.descriptor fd) with controlRingFd := fd }
    match address with
    | none => (false, { pool.free (.descriptor fd) with controlRing := none, controlRingFd := -1 })
    | some address => (true, { pool.acquire (.mapping address) with controlRing := some address, owner := false })

-- `recvBuffersFrom` up to its loop.
def recvBuffersFrom (pool : SharedBufferPool) (bufferCount : Int32) (config : BufferPoolConfig) :
    Option SharedBufferPool :=
  if MAX_BUFFERS < bufferCount.toInt ∨ bufferCount ≤ 0 ∨ pool.controlRing = none then none
  else some { pool with config }

def recvEntry (pool : SharedBufferPool) (index pointer : Nat) : SharedBufferPool :=
  { pool.acquire (.buffer pointer) with buffers := Function.update pool.buffers index (some pointer) }

def dropReceived (pool : SharedBufferPool) (index : Nat) : SharedBufferPool :=
  (List.range index).foldl releaseEntry pool

structure Bare (pool : SharedBufferPool) : Prop where
  buffers : ∀ index, pool.buffers index = none
  ring : pool.controlRing = none
  fd : pool.controlRingFd < 0
  count : pool.bufferCount = 0

structure Filled (pool : SharedBufferPool) (objects : PoolResource → SharedObject) (offer : Offer) (index : Nat) :
    Prop where
  config : pool.config = offer.config
  ring : ∃ address, pool.controlRing = some address ∧ objects (.mapping address) = offer.ring
  fd : 0 ≤ pool.controlRingFd ∧ objects (.descriptor pool.controlRingFd) = offer.ring
  buffers : ∀ place < index, ∃ pointer, pool.buffers place = some pointer ∧
    objects (.buffer pointer) = offer.buffer place
  beyond : ∀ place, index ≤ place → pool.buffers place = none

structure Holds (pool : SharedBufferPool) (objects : PoolResource → SharedObject) (offer : Offer) : Prop where
  filled : pool.Filled objects offer offer.count
  count : pool.bufferCount = offer.config.bufferCount

variable {pool : SharedBufferPool} {objects : PoolResource → SharedObject} {offer : Offer}

theorem Bare.covered (bare : pool.Bare) : pool.Covered := by
  refine ⟨?_, fun index _ => bare.buffers index⟩
  rw [count_of_zero bare.count]
  exact Nat.zero_le _

theorem Bare.owned (bare : pool.Bare) : pool.owned = [] := by
  have held : pool.heldBuffers = [] := heldBuffers_eq (Nat.zero_le _) fun index _ => bare.buffers index
  rw [owned_eq, held, bare.ring, descriptors, if_neg (Int32.not_le.mpr bare.fd)]
  rfl

theorem Covered.bare (covered : pool.Covered) : pool.release.Bare := by
  rw [release_eq]
  refine ⟨fun index => ?_, rfl, ?_, rfl⟩
  · by_cases low : index < pool.count
    · exact if_pos low
    · exact (if_neg low).trans (covered.beyond index (Nat.le_of_not_lt low))
  · by_cases open_ : 0 ≤ pool.controlRingFd
    · simp [open_]
    · simpa [open_] using Int32.not_le.mp open_

theorem Holds.covered (holds : pool.Holds objects offer) (within : offer.count ≤ MAX_BUFFERS) : pool.Covered := by
  have same : pool.count = offer.count := congrArg (fun count : Int32 => count.toInt.toNat) holds.count
  rw [← same] at within
  exact ⟨within, fun place beyond => holds.filled.beyond place (same ▸ beyond)⟩

theorem Bare.attach (bare : pool.Bare) (balanced : pool.Balanced) (fd : Int32) (address : Option Nat) :
    (pool.attachControlRing fd address).2.Balanced ∧
      ((pool.attachControlRing fd address).1 = false → (pool.attachControlRing fd address).2.Bare) ∧
      ((pool.attachControlRing fd address).1 = true → 0 ≤ fd ∧ ∃ mapped, address = some mapped ∧
        (pool.attachControlRing fd address).2 =
          { pool with
            controlRing := some mapped, controlRingFd := fd, owner := false
            acquired := pool.acquired ++ [.descriptor fd] ++ [.mapping mapped] }) := by
  have books : pool.acquired.Perm pool.freed := by simpa [Balanced, bare.owned] using balanced
  unfold attachControlRing
  by_cases fails : fd < 0
  · rw [if_pos fails]
    have still : Bare { pool with controlRingFd := fd } := ⟨bare.buffers, bare.ring, fails, bare.count⟩
    refine ⟨?_, fun _ => still, fun yes => Bool.noConfusion yes⟩
    rw [Balanced, still.owned, List.append_nil]
    exact books
  · have open_ : 0 ≤ fd := Int32.not_lt.mp fails
    rw [if_neg fails]
    cases address with
    | none =>
      have still : Bare { (pool.acquire (.descriptor fd)).free (.descriptor fd) with
          controlRing := none, controlRingFd := -1 } :=
        ⟨bare.buffers, rfl, show (-1 : Int32) < 0 by decide, bare.count⟩
      refine ⟨?_, fun _ => still, fun yes => Bool.noConfusion yes⟩
      change Balanced { (pool.acquire (.descriptor fd)).free (.descriptor fd) with
        controlRing := none, controlRingFd := -1 }
      rw [Balanced, still.owned, List.append_nil]
      exact books.append_right _
    | some mapped =>
      refine ⟨?_, fun no => Bool.noConfusion no, fun _ => ⟨open_, mapped, rfl, rfl⟩⟩
      have held : heldBuffers { pool with
          controlRing := some mapped, controlRingFd := fd, owner := false
          acquired := pool.acquired ++ [.descriptor fd] ++ [.mapping mapped] } = [] :=
        heldBuffers_eq (Nat.zero_le _) fun index _ => bare.buffers index
      change Balanced { pool with
        controlRing := some mapped, controlRingFd := fd, owner := false
        acquired := pool.acquired ++ [.descriptor fd] ++ [.mapping mapped] }
      rw [Balanced, owned_eq, held, descriptors, if_pos open_, List.append_assoc]
      exact books.append (.swap _ _ _)

theorem Filled.heldBuffers {index : Nat} (filled : pool.Filled objects offer index) (within : index ≤ MAX_BUFFERS) :
    pool.heldBuffers = (List.range index).filterMap pool.buffers :=
  heldBuffers_eq within filled.beyond

theorem recvEntry_buffers (index pointer : Nat) :
    (pool.recvEntry index pointer).buffers = Function.update pool.buffers index (some pointer) := rfl

theorem Filled.recvEntry {index : Nat} (filled : pool.Filled objects offer index) (pointer : Nat)
    (fresh : ∀ place, pool.buffers place ≠ some pointer) :
    (pool.recvEntry index pointer).Filled (Function.update objects (.buffer pointer) (offer.buffer index)) offer
      (index + 1) where
  config := filled.config
  ring := by
    obtain ⟨address, mapped, same⟩ := filled.ring
    exact ⟨address, mapped, by rw [Function.update_of_ne (by simp), same]⟩
  fd := ⟨filled.fd.1, by
    change Function.update _ _ _ (PoolResource.descriptor pool.controlRingFd) = _
    rw [Function.update_of_ne (by simp), filled.fd.2]⟩
  buffers place low := by
    rcases Nat.lt_succ_iff_lt_or_eq.mp low with earlier | rfl
    · obtain ⟨held, here, same⟩ := filled.buffers place earlier
      have other : held ≠ pointer := fun same => fresh place (same ▸ here)
      refine ⟨held, ?_, ?_⟩
      · rw [recvEntry_buffers, Function.update_of_ne (Nat.ne_of_lt earlier)]
        exact here
      · rw [Function.update_of_ne (by simpa using other), same]
    · exact ⟨pointer, by simp [recvEntry_buffers], by simp⟩
  beyond place high := by
    rw [recvEntry_buffers, Function.update_of_ne (by omega)]
    exact filled.beyond place (by omega)

theorem Filled.balanced_recvEntry {index : Nat} (filled : pool.Filled objects offer index)
    (within : index < MAX_BUFFERS) (balanced : pool.Balanced) (pointer : Nat)
    (fresh : ∀ place, pool.buffers place ≠ some pointer) :
    (pool.recvEntry index pointer).Balanced := by
  have held : (pool.recvEntry index pointer).heldBuffers = pool.heldBuffers ++ [pointer] := by
    have same : (List.range index).filterMap (Function.update pool.buffers index (some pointer)) =
        (List.range index).filterMap pool.buffers :=
      List.filterMap_congr fun place member => Function.update_of_ne (Nat.ne_of_lt (List.mem_range.mp member)) _ _
    rw [(filled.recvEntry pointer fresh).heldBuffers within, filled.heldBuffers (Nat.le_of_lt within),
      List.range_succ,
      List.filterMap_append]
    simp [recvEntry_buffers, same]
  have owned : (pool.recvEntry index pointer).owned.Perm (pool.owned ++ [.buffer pointer]) := by
    have parts : (pool.recvEntry index pointer).owned = pool.heldBuffers.map .buffer ++
        ([.buffer pointer] ++ (pool.controlRing.toList.map .mapping ++ pool.descriptors)) := by
      rw [owned_eq, held, List.map_append, List.append_assoc, List.append_assoc]
      rfl
    rw [parts, owned_eq, List.append_assoc, List.append_assoc,
      ← List.append_assoc (_ : List PoolResource) pool.descriptors]
    exact List.perm_append_comm.append_left _
  have grown : (pool.acquired ++ [PoolResource.buffer pointer]).Perm
      (pool.freed ++ pool.owned ++ [PoolResource.buffer pointer]) :=
    balanced.append_right _
  rw [List.append_assoc] at grown
  exact grown.trans (owned.symm.append_left _)

theorem Filled.dropped {index : Nat} (filled : pool.Filled objects offer index) (within : index ≤ MAX_BUFFERS)
    (empty : pool.bufferCount = 0) (balanced : pool.Balanced) :
    (pool.dropReceived index).release.Bare ∧ (pool.dropReceived index).release.Balanced := by
  have none_left : ∀ place, (pool.dropReceived index).buffers place = none := by
    intro place
    rw [dropReceived, releaseEntries_eq]
    by_cases low : place < index
    · exact if_pos low
    · exact (if_neg low).trans (filled.beyond place (Nat.le_of_not_lt low))
  have count : (pool.dropReceived index).bufferCount = 0 := by
    rw [dropReceived, releaseEntries_eq]
    exact empty
  have covered : (pool.dropReceived index).Covered := by
    refine ⟨?_, fun place _ => none_left place⟩
    rw [count_of_zero count]
    exact Nat.zero_le _
  have held : (pool.dropReceived index).heldBuffers = [] := heldBuffers_eq (Nat.zero_le _) fun place _ =>
    none_left place
  have books : (pool.dropReceived index).Balanced := by
    rw [Balanced, owned_eq, held]
    rw [Balanced, owned_eq, filled.heldBuffers within] at balanced
    simpa [dropReceived, releaseEntries_eq, descriptors, List.append_assoc] using balanced
  exact ⟨covered.bare, covered.balanced_release books⟩

theorem Filled.finished (filled : pool.Filled objects offer offer.count) :
    Holds { pool with bufferCount := offer.config.bufferCount } objects offer :=
  ⟨⟨filled.config, filled.ring, filled.fd, filled.buffers, filled.beyond⟩, rfl⟩

theorem allocateBuffers_true {outcomes : PoolOutcomes} {places : List Nat} {pool after : SharedBufferPool}
    (made : allocateBuffers outcomes pool places = (true, after)) :
    after.config = pool.config ∧ after.controlRing = pool.controlRing ∧ after.controlRingFd = pool.controlRingFd ∧
      ∀ index, index ∈ places ∨ (pool.buffers index).isSome = true → (after.buffers index).isSome = true := by
  induction places generalizing pool with
  | nil =>
    cases made
    exact ⟨rfl, rfl, rfl, fun index given => by simpa using given⟩
  | cons place rest ih =>
    rw [allocateBuffers] at made
    cases here : outcomes.buffer place with
    | none =>
      rw [here] at made
      cases made
    | some pointer =>
      rw [here] at made
      obtain ⟨config, ring, fd, held⟩ := ih made
      refine ⟨config, ring, fd, fun index given => held index ?_⟩
      by_cases same : index = place
      · exact .inr (by simp [same])
      · rw [List.mem_cons] at given
        rcases given with (first | later) | kept
        · exact absurd first same
        · exact .inl later
        · exact .inr (by simpa [Function.update_of_ne same] using kept)

theorem allocate_true {outcomes : PoolOutcomes} {width height format bufferCount : Int32} {usage : UInt64}
    {pool after : SharedBufferPool}
    (made : pool.allocate outcomes width height format bufferCount usage = (true, after)) :
    after.config = { width, height, format, bufferCount, usage := usage ||| gpuUsage } ∧
      after.bufferCount = bufferCount ∧ (0 < bufferCount.toInt ∧ bufferCount.toInt ≤ MAX_BUFFERS) ∧
      (after.controlRing.isSome = true ∧ 0 ≤ after.controlRingFd) ∧
      ∀ index < bufferCount.toInt.toNat, (after.buffers index).isSome = true := by
  unfold allocate at made
  by_cases bad : MAX_BUFFERS < bufferCount.toInt ∨ bufferCount ≤ 0
  · rw [if_pos bad] at made
    cases made
  rw [if_neg bad] at made
  by_cases fails : outcomes.region < 0
  · simp only [if_pos fails] at made
    cases made
  simp only [if_neg fails] at made
  cases mapping : outcomes.mapping with
  | none =>
    simp only [mapping] at made
    cases made
  | some address =>
    simp only [mapping] at made
    split at made
    · rename_i stocked loop
      cases made
      obtain ⟨config, ring, fd, held⟩ := allocateBuffers_true loop
      have bounds : ¬ MAX_BUFFERS < bufferCount.toInt ∧ ¬ bufferCount ≤ 0 := not_or.mp bad
      rw [Int32.le_iff_toInt_le, Int32.toInt_zero] at bounds
      refine ⟨config, rfl, by omega, ⟨?_, ?_⟩, fun index low => held index (.inl (List.mem_range.mpr low))⟩
      · exact (congrArg Option.isSome ring).trans rfl
      · exact (show 0 ≤ stocked.controlRingFd from fd ▸ Int32.not_lt.mp fails)
    · cases made

end SharedBufferPool

end VirtualCamera
