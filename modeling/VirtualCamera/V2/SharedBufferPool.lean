import Mathlib.Data.List.Perm.Basic
import VirtualCamera.V2.HalInterface

set_option autoImplicit false

namespace VirtualCamera

structure BufferPoolConfig where
  width : Int32 := 0
  height : Int32 := 0
  format : Int32 := 0
  bufferCount : Int32 := 0
  usage : UInt64 := 0
deriving DecidableEq

inductive PoolResource where
  | buffer (pointer : Nat)
  | mapping (address : Nat)
  | descriptor (fd : Int32)
deriving DecidableEq

structure SharedBufferPool where
  config : BufferPoolConfig := {}
  controlRing : Option Nat := none
  controlRingFd : Int32 := -1
  buffers : Nat → Option Nat := fun _ => none
  bufferCount : Int32 := 0
  owner : Bool := false
  ring : ControlRing := {}
  acquired : List PoolResource := []
  freed : List PoolResource := []

-- What the calls return: the region's descriptor or a negative value, the mapping and the buffers by index.
structure PoolOutcomes where
  region : Int32
  mapping : Option Nat
  buffer : Nat → Option Nat

namespace SharedBufferPool

-- `AHARDWAREBUFFER_USAGE_GPU_SAMPLED_IMAGE` and `AHARDWAREBUFFER_USAGE_GPU_COLOR_OUTPUT`.
def gpuUsage : UInt64 := 0x100 ||| 0x200

def free (pool : SharedBufferPool) (resource : PoolResource) : SharedBufferPool :=
  { pool with freed := pool.freed ++ [resource] }

def acquire (pool : SharedBufferPool) (resource : PoolResource) : SharedBufferPool :=
  { pool with acquired := pool.acquired ++ [resource] }

def releaseEntry (pool : SharedBufferPool) (index : Nat) : SharedBufferPool :=
  match pool.buffers index with
  | some pointer => { pool.free (.buffer pointer) with buffers := Function.update pool.buffers index none }
  | none => pool

def releaseBuffers (pool : SharedBufferPool) : SharedBufferPool :=
  (List.range pool.bufferCount.toInt.toNat).foldl releaseEntry pool

def releaseRing (pool : SharedBufferPool) : SharedBufferPool :=
  match pool.controlRing with
  | some address => { pool.free (.mapping address) with controlRing := none }
  | none => pool

def releaseFd (pool : SharedBufferPool) : SharedBufferPool :=
  if 0 ≤ pool.controlRingFd then
    { pool.free (.descriptor pool.controlRingFd) with controlRingFd := -1 }
  else pool

def release (pool : SharedBufferPool) : SharedBufferPool :=
  { pool.releaseBuffers.releaseRing.releaseFd with bufferCount := 0 }

-- The loop over the buffers still to come. An entry whose allocation fails is left alone.
def allocateBuffers (outcomes : PoolOutcomes) (pool : SharedBufferPool) : List Nat → Bool × SharedBufferPool
  | [] => (true, pool)
  | index :: rest =>
    match outcomes.buffer index with
    | none => (false, pool.release)
    | some pointer =>
      allocateBuffers outcomes
        { pool.acquire (.buffer pointer) with buffers := Function.update pool.buffers index (some pointer) } rest

def allocate (outcomes : PoolOutcomes) (width height format bufferCount : Int32) (usage : UInt64)
    (pool : SharedBufferPool) : Bool × SharedBufferPool :=
  if MAX_BUFFERS < bufferCount.toInt ∨ bufferCount ≤ 0 then (false, pool)
  else
    let pool :=
      { pool with
        config := { width, height, format, bufferCount, usage := usage ||| gpuUsage }
        controlRingFd := outcomes.region }
    if outcomes.region < 0 then (false, pool)
    else
      let pool := pool.acquire (.descriptor outcomes.region)
      match outcomes.mapping with
      | none => (false, { pool.free (.descriptor pool.controlRingFd) with controlRing := none, controlRingFd := -1 })
      | some address =>
        let pool := { pool.acquire (.mapping address) with controlRing := some address, ring := {} }
        match allocateBuffers outcomes pool (List.range bufferCount.toInt.toNat) with
        | (true, pool) => (true, { pool with bufferCount, owner := true })
        | (false, pool) => (false, pool)

structure Empty (pool : SharedBufferPool) : Prop where
  buffers : ∀ index, pool.buffers index = none
  ring : pool.controlRing = none
  fd : pool.controlRingFd < 0
  count : pool.bufferCount = 0
  log : pool.acquired = [] ∧ pool.freed = []

def heldBuffers (pool : SharedBufferPool) : List Nat := (List.range MAX_BUFFERS).filterMap pool.buffers

def owned (pool : SharedBufferPool) : List PoolResource :=
  pool.heldBuffers.map .buffer ++ pool.controlRing.toList.map .mapping ++
    if 0 ≤ pool.controlRingFd then [.descriptor pool.controlRingFd] else []

end SharedBufferPool

open SharedBufferPool

structure AllOrNothing (bufferCount : Int32) (result : Bool × SharedBufferPool) : Prop where
  all : result.1 = true → result.2.heldBuffers.length = bufferCount.toInt ∧ result.2.controlRing.isSome = true ∧
    0 ≤ result.2.controlRingFd
  nothing : result.1 = false → result.2.owned = []
  accounted : result.2.acquired.Perm (result.2.freed ++ result.2.owned)
  released : result.2.release.owned = [] ∧ result.2.acquired.Perm result.2.release.freed ∧
    result.2.release.release.freed = result.2.release.freed

def FailsLate (outcomes : PoolOutcomes) (bufferCount : Int32) : Prop :=
  0 ≤ outcomes.region ∧ outcomes.mapping.isSome = true ∧ (outcomes.buffer 0).isSome = true ∧
    ∃ index : Nat, index < bufferCount.toInt ∧ outcomes.buffer index = none

namespace SharedBufferPool

variable (pool : SharedBufferPool)

def count : Nat := pool.bufferCount.toInt.toNat

def descriptors : List PoolResource :=
  if 0 ≤ pool.controlRingFd then [.descriptor pool.controlRingFd] else []

theorem releaseEntry_eq (index : Nat) : pool.releaseEntry index =
    { pool with
      buffers := Function.update pool.buffers index none
      freed := pool.freed ++ (pool.buffers index).toList.map .buffer } := by
  obtain ⟨config, controlRing, controlRingFd, buffers, bufferCount, owner, ring, acquired, freed⟩ := pool
  unfold releaseEntry
  cases here : buffers index with
  | none =>
    have same : Function.update buffers index none = buffers := Function.update_eq_self_iff.mpr here.symm
    simp [here, same]
  | some pointer => simp [here, free]

theorem releaseEntries_eq (n : Nat) : (List.range n).foldl releaseEntry pool =
    { pool with
      buffers := fun index => if index < n then none else pool.buffers index
      freed := pool.freed ++ ((List.range n).filterMap pool.buffers).map .buffer } := by
  induction n with
  | zero => simp
  | succ n ih =>
    rw [List.range_succ, List.foldl_append, ih, List.foldl_cons, List.foldl_nil, releaseEntry_eq]
    have shown : (if n < n then none else pool.buffers n) = pool.buffers n := if_neg (Nat.lt_irrefl n)
    have cleared : Function.update (fun index => if index < n then none else pool.buffers index) n none =
        fun index => if index < n + 1 then none else pool.buffers index := by
      funext index
      by_cases same : index = n
      · subst same
        simp
      · rw [Function.update_of_ne same]
        simp only [show index < n + 1 ↔ index < n by omega]
    have last : [n].filterMap pool.buffers = (pool.buffers n).toList := by
      cases here : pool.buffers n <;> simp [here]
    simp only [shown, cleared, last, List.filterMap_append, List.map_append, List.append_assoc]

theorem releaseRing_eq : pool.releaseRing =
    { pool with controlRing := none, freed := pool.freed ++ pool.controlRing.toList.map .mapping } := by
  obtain ⟨config, controlRing, controlRingFd, buffers, bufferCount, owner, ring, acquired, freed⟩ := pool
  cases controlRing with
  | none => simp [releaseRing]
  | some address => rfl

theorem releaseFd_eq : pool.releaseFd =
    { pool with
      controlRingFd := if 0 ≤ pool.controlRingFd then -1 else pool.controlRingFd
      freed := pool.freed ++ pool.descriptors } := by
  unfold releaseFd descriptors
  by_cases open_ : 0 ≤ pool.controlRingFd
  · simp [open_, free]
  · simp [open_]

theorem release_eq : pool.release =
    { pool with
      buffers := fun index => if index < pool.count then none else pool.buffers index
      controlRing := none
      controlRingFd := if 0 ≤ pool.controlRingFd then -1 else pool.controlRingFd
      bufferCount := 0
      freed := pool.freed ++ ((List.range pool.count).filterMap pool.buffers).map .buffer ++
        pool.controlRing.toList.map .mapping ++ pool.descriptors } := by
  rw [release, releaseFd_eq, releaseRing_eq, releaseBuffers, releaseEntries_eq]
  rfl

variable (outcomes : PoolOutcomes)

def stocked (n : Nat) : SharedBufferPool :=
  { pool with
    buffers := fun index => if index < n then outcomes.buffer index else none
    acquired := pool.acquired ++ ((List.range n).filterMap outcomes.buffer).map .buffer }

theorem stocked_succ {n pointer : Nat} (here : outcomes.buffer n = some pointer) :
    { (pool.stocked outcomes n).acquire (.buffer pointer) with
      buffers := Function.update (pool.stocked outcomes n).buffers n (some pointer) } =
    pool.stocked outcomes (n + 1) := by
  have places : Function.update (fun index => if index < n then outcomes.buffer index else none) n (some pointer) =
      fun index => if index < n + 1 then outcomes.buffer index else none := by
    funext index
    by_cases same : index = n
    · subst same
      simp [here]
    · rw [Function.update_of_ne same]
      simp only [show index < n + 1 ↔ index < n by omega]
  have last : [n].filterMap outcomes.buffer = [pointer] := by simp [here]
  simp only [stocked, acquire, places, List.range_succ, List.filterMap_append, last, List.map_append,
    List.append_assoc, List.map_cons, List.map_nil]

theorem allocateBuffers_fills (len start : Nat)
    (given : ∀ index, start ≤ index → index < start + len → (outcomes.buffer index).isSome = true) :
    allocateBuffers outcomes (pool.stocked outcomes start) (List.range' start len) =
      (true, pool.stocked outcomes (start + len)) := by
  induction len generalizing start with
  | zero => rfl
  | succ len ih =>
    obtain ⟨pointer, here⟩ := Option.isSome_iff_exists.mp (given start le_rfl (by omega))
    rw [List.range'_succ, allocateBuffers, here]
    dsimp only
    rw [stocked_succ pool outcomes here, ih (start + 1) fun index low high => given index (by omega) (by omega)]
    congr 2
    omega

theorem allocateBuffers_stops (len start : Nat)
    (missing : ∃ index, start ≤ index ∧ index < start + len ∧ outcomes.buffer index = none) :
    ∃ stop, start ≤ stop ∧ (start < stop ↔ (outcomes.buffer start).isSome = true) ∧
      allocateBuffers outcomes (pool.stocked outcomes start) (List.range' start len) =
        (false, (pool.stocked outcomes stop).release) := by
  induction len generalizing start with
  | zero =>
    obtain ⟨index, low, high, -⟩ := missing
    omega
  | succ len ih =>
    rw [List.range'_succ, allocateBuffers]
    cases here : outcomes.buffer start with
    | none => exact ⟨start, le_rfl, by simp, rfl⟩
    | some pointer =>
      obtain ⟨index, low, high, none_⟩ := missing
      have later : start + 1 ≤ index := by
        rcases Nat.eq_or_lt_of_le low with same | less
        · subst same
          simp [none_] at here
        · exact less
      obtain ⟨stop, after, -, ends⟩ := ih (start + 1) ⟨index, later, by omega, none_⟩
      refine ⟨stop, by omega, by simp; omega, ?_⟩
      dsimp only
      rw [stocked_succ pool outcomes here, ends]

structure Covered : Prop where
  count : pool.count ≤ MAX_BUFFERS
  beyond : ∀ index, pool.count ≤ index → pool.buffers index = none

def Balanced : Prop := pool.acquired.Perm (pool.freed ++ pool.owned)

theorem filterMap_range_of_none {places : Nat → Option Nat} {n : Nat}
    (beyond : ∀ index, n ≤ index → places index = none) (more : Nat) :
    (List.range (n + more)).filterMap places = (List.range n).filterMap places := by
  induction more with
  | zero => rfl
  | succ more ih =>
    have last : [n + more].filterMap places = [] := by simp [beyond (n + more) (by omega)]
    rw [← Nat.add_assoc, List.range_succ, List.filterMap_append, ih, last, List.append_nil]

theorem length_filterMap_range {places : Nat → Option Nat} {n : Nat}
    (given : ∀ index < n, (places index).isSome = true) : ((List.range n).filterMap places).length = n := by
  induction n with
  | zero => rfl
  | succ n ih =>
    obtain ⟨pointer, here⟩ := Option.isSome_iff_exists.mp (given n (Nat.lt_succ_self n))
    rw [List.range_succ, List.filterMap_append, List.length_append, ih fun index low => given index (by omega)]
    simp [here]

variable {pool}

theorem heldBuffers_eq {n : Nat} (within : n ≤ MAX_BUFFERS)
    (beyond : ∀ index, n ≤ index → pool.buffers index = none) :
    pool.heldBuffers = (List.range n).filterMap pool.buffers := by
  have split : MAX_BUFFERS = n + (MAX_BUFFERS - n) := by omega
  rw [heldBuffers, split, filterMap_range_of_none beyond]

theorem owned_eq : pool.owned =
    pool.heldBuffers.map .buffer ++ pool.controlRing.toList.map .mapping ++ pool.descriptors := rfl

theorem Covered.release (covered : pool.Covered) : pool.release.Covered ∧ pool.release.owned = [] := by
  have none_left : ∀ index, (if index < pool.count then none else pool.buffers index) = none := by
    intro index
    by_cases low : index < pool.count
    · rw [if_pos low]
    · rw [if_neg low, covered.beyond index (Nat.le_of_not_lt low)]
  have buffers : pool.release.buffers = fun _ => none := by
    rw [release_eq]
    exact funext none_left
  have fd : ¬ 0 ≤ pool.release.controlRingFd := by
    rw [release_eq]
    by_cases held : 0 ≤ pool.controlRingFd <;> simp [held]
  have ring : pool.release.controlRing = none := by rw [release_eq]
  constructor
  · constructor
    · have zero : pool.release.count = 0 := by rw [release_eq]; rfl
      omega
    · intro index _
      rw [buffers]
  · rw [owned_eq, heldBuffers, descriptors, buffers, ring, if_neg fd]
    simp

theorem Covered.freed_release (covered : pool.Covered) : pool.release.freed = pool.freed ++ pool.owned := by
  rw [release_eq, owned_eq, heldBuffers_eq covered.count covered.beyond]
  simp only [List.append_assoc]

theorem Covered.settled (covered : pool.Covered) (balanced : pool.Balanced) :
    pool.release.owned = [] ∧ pool.acquired.Perm pool.release.freed ∧
      pool.release.release.freed = pool.release.freed := by
  obtain ⟨again, nothing⟩ := covered.release
  refine ⟨nothing, ?_, ?_⟩
  · rw [covered.freed_release]
    exact balanced
  · rw [again.freed_release, nothing, List.append_nil]

theorem Covered.balanced_release (covered : pool.Covered) (balanced : pool.Balanced) : pool.release.Balanced := by
  have acquired : pool.release.acquired = pool.acquired := by rw [release_eq]
  rw [Balanced, acquired, covered.release.2, List.append_nil, covered.freed_release]
  exact balanced

def opened (pool : SharedBufferPool) (config : BufferPoolConfig) (region : Int32) (address : Nat) :
    SharedBufferPool :=
  { pool with
    config
    controlRing := some address
    controlRingFd := region
    ring := {}
    acquired := pool.acquired ++ [.descriptor region] ++ [.mapping address] }

theorem opened_eq_stocked (config : BufferPoolConfig) (region : Int32) (address : Nat)
    (none_held : ∀ index, pool.buffers index = none) :
    pool.opened config region address = (pool.opened config region address).stocked outcomes 0 := by
  have places : pool.buffers = fun _ => none := funext none_held
  simp [stocked, opened, places]

theorem Empty.acquired_stocked (empty : pool.Empty) (config : BufferPoolConfig) (region : Int32)
    (address n : Nat) :
    ((pool.opened config region address).stocked outcomes n).acquired =
      .descriptor region :: .mapping address :: ((List.range n).filterMap outcomes.buffer).map .buffer := by
  simp [stocked, opened, empty.log.1]

theorem heldBuffers_stocked {n : Nat} (within : n ≤ MAX_BUFFERS) :
    (pool.stocked outcomes n).heldBuffers = (List.range n).filterMap outcomes.buffer := by
  have beyond : ∀ index, n ≤ index → (pool.stocked outcomes n).buffers index = none := by
    intro index high
    exact if_neg (Nat.not_lt.mpr high)
  rw [heldBuffers_eq within beyond]
  refine List.filterMap_congr fun index low => ?_
  exact if_pos (List.mem_range.mp low)

theorem owned_stocked (config : BufferPoolConfig) {region : Int32} (address : Nat) {n : Nat} (open_ : 0 ≤ region)
    (within : n ≤ MAX_BUFFERS) :
    ((pool.opened config region address).stocked outcomes n).owned =
      ((List.range n).filterMap outcomes.buffer).map .buffer ++ [.mapping address] ++ [.descriptor region] := by
  rw [owned_eq, heldBuffers_stocked outcomes within]
  simp [stocked, opened, descriptors, open_]

theorem Empty.balanced_stocked (empty : pool.Empty) (config : BufferPoolConfig) {region : Int32} (address : Nat)
    {n : Nat} (open_ : 0 ≤ region) (within : n ≤ MAX_BUFFERS) :
    ((pool.opened config region address).stocked outcomes n).Balanced := by
  have freed : ((pool.opened config region address).stocked outcomes n).freed = [] := empty.log.2
  rw [Balanced, freed, empty.acquired_stocked, owned_stocked outcomes config address open_ within]
  have swap : [PoolResource.descriptor region, .mapping address].Perm [.mapping address, .descriptor region] :=
    .swap _ _ _
  simpa using (List.perm_append_comm).trans
    (swap.append_left (((List.range n).filterMap outcomes.buffer).map .buffer))

theorem count_of_zero (zero : pool.bufferCount = 0) : pool.count = 0 := by
  rw [count, zero]
  rfl

theorem nothing_of_cleared {bufferCount : Int32} (none_held : ∀ index, pool.buffers index = none)
    (zero : pool.bufferCount = 0) (ring : pool.controlRing = none) (fd : pool.controlRingFd < 0)
    (books : pool.acquired.Perm pool.freed) : AllOrNothing bufferCount (false, pool) := by
  have covered : pool.Covered := by
    refine ⟨?_, fun index _ => none_held index⟩
    rw [count_of_zero zero]
    exact Nat.zero_le _
  have nothing : pool.owned = [] := by
    have held : pool.heldBuffers = [] := heldBuffers_eq (Nat.zero_le _) fun index _ => none_held index
    rw [owned_eq, held, ring, descriptors, if_neg (Int32.not_le.mpr fd)]
    rfl
  have balanced : pool.Balanced := by
    rw [Balanced, nothing, List.append_nil]
    exact books
  exact ⟨fun yes => Bool.noConfusion yes, fun _ => nothing, balanced, covered.settled balanced⟩

theorem all_of_stocked {bufferCount : Int32} (within : bufferCount.toInt.toNat ≤ MAX_BUFFERS)
    (held : pool.heldBuffers.length = bufferCount.toInt) (ring : pool.controlRing.isSome = true)
    (fd : 0 ≤ pool.controlRingFd) (beyond : ∀ index, bufferCount.toInt.toNat ≤ index → pool.buffers index = none)
    (balanced : pool.Balanced) : AllOrNothing bufferCount (true, { pool with bufferCount, owner := true }) := by
  have covered : Covered { pool with bufferCount, owner := true } := ⟨within, beyond⟩
  exact ⟨fun _ => ⟨held, ring, fd⟩, fun no => Bool.noConfusion no, balanced, covered.settled balanced⟩

variable {outcomes} {width height format bufferCount : Int32} {usage : UInt64}

theorem count_accepted (positive : 1 ≤ bufferCount.toInt) (within : bufferCount.toInt ≤ MAX_BUFFERS) :
    ¬ (MAX_BUFFERS < bufferCount.toInt ∨ bufferCount ≤ 0) := by
  rw [Int32.le_iff_toInt_le, Int32.toInt_zero]
  omega

theorem allocate_of_no_region (empty : pool.Empty) (positive : 1 ≤ bufferCount.toInt)
    (within : bufferCount.toInt ≤ MAX_BUFFERS) (fails : outcomes.region < 0) :
    AllOrNothing bufferCount (allocate outcomes width height format bufferCount usage pool) := by
  rw [allocate, if_neg (count_accepted positive within), if_pos fails]
  refine nothing_of_cleared empty.buffers empty.count empty.ring fails ?_
  rw [empty.log.1, empty.log.2]

theorem allocate_of_no_mapping (empty : pool.Empty) (positive : 1 ≤ bufferCount.toInt)
    (within : bufferCount.toInt ≤ MAX_BUFFERS) (open_ : 0 ≤ outcomes.region) (fails : outcomes.mapping = none) :
    AllOrNothing bufferCount (allocate outcomes width height format bufferCount usage pool) := by
  rw [allocate, if_neg (count_accepted positive within), if_neg (Int32.not_lt.mpr open_), fails]
  have closed : (-1 : Int32) < 0 := by decide
  refine nothing_of_cleared empty.buffers empty.count rfl closed ?_
  simp [acquire, free, empty.log.1, empty.log.2]

theorem allocate_of_mapped (positive : 1 ≤ bufferCount.toInt)
    (within : bufferCount.toInt ≤ MAX_BUFFERS) (open_ : 0 ≤ outcomes.region) {address : Nat}
    (mapped : outcomes.mapping = some address) :
    allocate outcomes width height format bufferCount usage pool =
      match allocateBuffers outcomes
        (pool.opened { width, height, format, bufferCount, usage := usage ||| gpuUsage } outcomes.region address)
        (List.range bufferCount.toInt.toNat) with
      | (true, pool) => (true, { pool with bufferCount, owner := true })
      | (false, pool) => (false, pool) := by
  rw [allocate, if_neg (count_accepted positive within), if_neg (Int32.not_lt.mpr open_), mapped]
  rfl

theorem allocate_of_filled (empty : pool.Empty) (positive : 1 ≤ bufferCount.toInt)
    (within : bufferCount.toInt ≤ MAX_BUFFERS) (open_ : 0 ≤ outcomes.region)
    (mapped : outcomes.mapping.isSome = true)
    (given : ∀ index : Nat, index < bufferCount.toInt → (outcomes.buffer index).isSome = true) :
    AllOrNothing bufferCount (allocate outcomes width height format bufferCount usage pool) := by
  obtain ⟨address, mapped⟩ := Option.isSome_iff_exists.mp mapped
  rw [allocate_of_mapped positive within open_ mapped]
  generalize ({ width, height, format, bufferCount, usage := usage ||| gpuUsage } : BufferPoolConfig) = config
  have small : bufferCount.toInt.toNat ≤ MAX_BUFFERS := by omega
  have fills := allocateBuffers_fills (pool.opened config outcomes.region address) outcomes bufferCount.toInt.toNat 0
    fun index _ low => given index (by omega)
  rw [← opened_eq_stocked outcomes config outcomes.region address empty.buffers, ← List.range_eq_range',
    Nat.zero_add] at fills
  rw [fills]
  refine all_of_stocked small ?_ rfl open_ (fun index high => if_neg (Nat.not_lt.mpr high))
    (empty.balanced_stocked outcomes config address open_ small)
  rw [heldBuffers_stocked outcomes small, length_filterMap_range fun index low => given index (by omega)]
  omega

theorem allocate_of_missing (empty : pool.Empty) (positive : 1 ≤ bufferCount.toInt)
    (within : bufferCount.toInt ≤ MAX_BUFFERS) (open_ : 0 ≤ outcomes.region)
    (mapped : outcomes.mapping.isSome = true)
    (missing : ∃ index : Nat, index < bufferCount.toInt ∧ outcomes.buffer index = none) :
    AllOrNothing bufferCount (allocate outcomes width height format bufferCount usage pool) ↔
      outcomes.buffer 0 = none := by
  obtain ⟨address, mapped⟩ := Option.isSome_iff_exists.mp mapped
  obtain ⟨index, low, none_⟩ := missing
  rw [allocate_of_mapped positive within open_ mapped]
  generalize ({ width, height, format, bufferCount, usage := usage ||| gpuUsage } : BufferPoolConfig) = config
  obtain ⟨stop, -, first, stops⟩ :=
    allocateBuffers_stops (pool.opened config outcomes.region address) outcomes bufferCount.toInt.toNat 0
      ⟨index, Nat.zero_le _, by omega, none_⟩
  rw [← opened_eq_stocked outcomes config outcomes.region address empty.buffers, ← List.range_eq_range'] at stops
  rw [stops]
  have zero : ((pool.opened config outcomes.region address).stocked outcomes stop).count = 0 :=
    count_of_zero empty.count
  constructor
  · intro whole
    -- A buffer at the first place is still there after the release.
    by_contra given
    obtain ⟨pointer, here⟩ := Option.ne_none_iff_exists'.mp given
    have some_held : 0 < stop := first.mpr (by rw [here]; rfl)
    have kept : ((pool.opened config outcomes.region address).stocked outcomes stop).release.buffers 0 =
        some pointer := by
      rw [release_eq]
      dsimp only
      rw [zero, if_neg (Nat.lt_irrefl 0)]
      simp [stocked, some_held, here]
    have held : pointer ∈ ((pool.opened config outcomes.region address).stocked outcomes stop).release.heldBuffers :=
      List.mem_filterMap.mpr ⟨0, List.mem_range.mpr (by decide), kept⟩
    have owned : PoolResource.buffer pointer ∈
        ((pool.opened config outcomes.region address).stocked outcomes stop).release.owned :=
      List.mem_append_left _ (List.mem_append_left _ (List.mem_map_of_mem held))
    rw [whole.nothing rfl] at owned
    exact List.not_mem_nil owned
  · intro fails
    have stopped : stop = 0 := by
      have := first.not.mpr (by simp [fails])
      omega
    subst stopped
    have covered : ((pool.opened config outcomes.region address).stocked outcomes 0).Covered := by
      refine ⟨?_, fun index _ => by simp [stocked]⟩
      rw [zero]
      exact Nat.zero_le _
    have balanced := empty.balanced_stocked outcomes config address open_ (Nat.zero_le MAX_BUFFERS)
    have again := covered.balanced_release balanced
    exact ⟨fun yes => Bool.noConfusion yes, fun _ => covered.release.2, again, covered.release.1.settled again⟩

end SharedBufferPool

theorem allocate_allOrNothing (outcomes : PoolOutcomes) (width height format bufferCount : Int32) (usage : UInt64)
    (pool : SharedBufferPool) (positive : 1 ≤ bufferCount.toInt) (within : bufferCount.toInt ≤ MAX_BUFFERS)
    (empty : pool.Empty) :
    AllOrNothing bufferCount (allocate outcomes width height format bufferCount usage pool) ↔
      ¬ FailsLate outcomes bufferCount := by
  by_cases region : outcomes.region < 0
  · have early : ¬ FailsLate outcomes bufferCount := fun late => Int32.not_lt.mpr late.1 region
    exact iff_of_true (allocate_of_no_region empty positive within region) early
  have open_ : 0 ≤ outcomes.region := Int32.not_lt.mp region
  cases mapping : outcomes.mapping.isSome with
  | false =>
    have early : ¬ FailsLate outcomes bufferCount := by
      intro late
      rw [late.2.1] at mapping
      cases mapping
    have fails : outcomes.mapping = none := by simpa using mapping
    exact iff_of_true (allocate_of_no_mapping empty positive within open_ fails) early
  | true =>
    by_cases missing : ∃ index : Nat, index < bufferCount.toInt ∧ outcomes.buffer index = none
    · rw [allocate_of_missing empty positive within open_ mapping missing]
      constructor
      · intro first late
        have given := late.2.2.1
        rw [first] at given
        cases given
      · intro early
        by_contra given
        exact early ⟨open_, mapping, Option.isSome_iff_ne_none.mpr given, missing⟩
    · have early : ¬ FailsLate outcomes bufferCount := fun late => missing late.2.2.2
      refine iff_of_true (allocate_of_filled empty positive within open_ mapping fun index low => ?_) early
      exact Option.isSome_iff_ne_none.mpr fun fails => missing ⟨index, low, fails⟩

def secondMissing : PoolOutcomes :=
  { region := 7, mapping := some 0x1000, buffer := fun index => if index = 0 then some 0x2000 else none }

theorem allocate_allOrNothing_two :
    ¬ AllOrNothing 2 (allocate secondMissing 640 480 1 2 0 {}) := by
  have empty : Empty {} := ⟨fun _ => rfl, rfl, by decide, rfl, rfl, rfl⟩
  have late : FailsLate secondMissing 2 := ⟨by decide, rfl, rfl, 1, by decide, rfl⟩
  exact fun whole => (allocate_allOrNothing secondMissing 640 480 1 2 0 {} (by decide)
    (by decide) empty).mp whole late

theorem allocate_leaks_first :
    (allocate secondMissing 640 480 1 2 0 {}).1 = false ∧
      (allocate secondMissing 640 480 1 2 0 {}).2.owned = [.buffer 0x2000] ∧
      PoolResource.buffer 0x2000 ∈ (allocate secondMissing 640 480 1 2 0 {}).2.acquired ∧
      PoolResource.buffer 0x2000 ∉ (allocate secondMissing 640 480 1 2 0 {}).2.release.freed ∧
      ¬ AllOrNothing 2 (allocate secondMissing 640 480 1 2 0 {}) := by
  have kept : (allocate secondMissing 640 480 1 2 0 {}).2.owned = [.buffer 0x2000] := by decide +kernel
  refine ⟨by decide +kernel, kept, by decide +kernel, by decide +kernel, fun whole => ?_⟩
  have nothing := whole.nothing (by decide +kernel)
  rw [kept] at nothing
  cases nothing

end VirtualCamera
