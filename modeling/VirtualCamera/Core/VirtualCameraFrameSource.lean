import Mathlib.Data.Option.Basic

set_option autoImplicit false

namespace VirtualCamera

inductive HeaderField where
  | magic | version | width | height | format | stride | frameNumber | timestamp | dataOffset | dataSize | flags
  | requestedFormat | requestedWidth | requestedHeight
  deriving DecidableEq

def sizeofFrameHeader : Nat := 64

-- What the loads of one call find: the renderer may write between them, and no call loads a field twice.
structure FrameHeader where
  magic : UInt32 := 0
  width : UInt32 := 0
  height : UInt32 := 0
  format : UInt32 := 0
  timestamp : UInt64 := 0
  dataOffset : UInt32 := 0
  dataSize : UInt32 := 0
  flags : UInt32 := 0

def VCMF_MAGIC : UInt32 := 0x56434D46

def FLAG_RENDERER_ACTIVE : UInt32 := 2

structure Mapping where
  addr : Nat
  size : Nat

def Mapping.contains (mapping : Mapping) (start length : Nat) : Bool :=
  mapping.addr ≤ start && start + length ≤ mapping.addr + mapping.size

inductive Access where
  | header (mapping : Option Mapping) (start : Nat) (field : HeaderField)
  | frame (mapping : Option Mapping) (start length : Nat)

def Access.inside : Access → Bool
  | .header mapping start _ => mapping.any (·.contains start sizeofFrameHeader)
  | .frame mapping start length => mapping.any (·.contains start length)

structure VirtualCameraFrameSource where
  shmFd : Int := -1
  mappedAddr : Option Nat := none
  mappedSize : Nat := 0
  header : Option Nat := none
  frameData : Option Nat := none
  lastReadTimestamp : UInt64 := 0

namespace VirtualCameraFrameSource

def mapping (source : VirtualCameraFrameSource) : Option Mapping :=
  source.mappedAddr.map (Mapping.mk · source.mappedSize)

def touch (source : VirtualCameraFrameSource) (header : Nat) (field : HeaderField) : Access :=
  .header source.mapping header field

def unmapSharedMemory (source : VirtualCameraFrameSource) : VirtualCameraFrameSource :=
  let source := if source.mappedAddr.isSome then
    { source with mappedAddr := none, header := none, frameData := none, mappedSize := 0 } else source
  if 0 ≤ source.shmFd then { source with shmFd := -1 } else source

-- `mapped` is what mmap returns, `none` for MAP_FAILED.
def mapSharedMemory (source : VirtualCameraFrameSource) (size : Nat) (mapped : Option Nat) (seen : FrameHeader) :
    Bool × VirtualCameraFrameSource × List Access :=
  match mapped with
  | none => (false, { source with mappedAddr := none }, [])
  | some addr =>
    let source := { source with mappedAddr := some addr, mappedSize := size, header := some addr }
    let refused := { source with mappedAddr := none, header := none }
    if seen.magic ≠ VCMF_MAGIC then (false, refused, [source.touch addr .magic])
    else
      let loads := [source.touch addr .magic, source.touch addr .dataOffset]
      if source.mappedSize ≤ seen.dataOffset.toNat then (false, refused, loads)
      else (true, { source with frameData := some (addr + seen.dataOffset.toNat) }, loads)

def onFdReceived (source : VirtualCameraFrameSource) (fd : Int) (size : Nat) (mapped : Option Nat)
    (seen : FrameHeader) : VirtualCameraFrameSource × List Access :=
  match source.unmapSharedMemory.mapSharedMemory size mapped seen with
  | (true, source, accesses) => ({ source with shmFd := fd }, accesses)
  | (false, source, accesses) => (source, accesses)

def isRendererActive (source : VirtualCameraFrameSource) (seen : FrameHeader) : Bool × List Access :=
  match source.header with
  | none => (false, [])
  | some header => (seen.flags &&& FLAG_RENDERER_ACTIVE != 0, [source.touch header .flags])

def acquireFrame (source : VirtualCameraFrameSource) (destSize : Nat) (seen : FrameHeader) :
    Bool × Option (UInt32 × UInt32 × UInt64) × VirtualCameraFrameSource × List Access :=
  match source.header, source.frameData with
  | some header, some frameData =>
    if seen.flags &&& FLAG_RENDERER_ACTIVE = 0 then (false, none, source, [source.touch header .flags])
    else
      let loads := [.flags, .width, .height, .dataSize, .timestamp].map (source.touch header)
      let outs := some (seen.width, seen.height, seen.timestamp)
      let source := { source with lastReadTimestamp := seen.timestamp }
      if destSize < seen.dataSize.toNat then (false, outs, source, loads)
      else (true, outs, source, loads ++ [.frame source.mapping frameData seen.dataSize.toNat])
  | _, _ => (false, none, source, [])

-- The flags tell which of the three out pointers are given.
def getFrameInfo (source : VirtualCameraFrameSource) (width height format : Bool) (seen : FrameHeader) :
    Option (Option UInt32 × Option UInt32 × Option UInt32) × List Access :=
  match source.header with
  | none => (none, [])
  | some header =>
    let outs := (if width then some seen.width else none, if height then some seen.height else none,
      if format then some seen.format else none)
    (some outs, (([(width, .width), (height, .height), (format, .format)] : List (Bool × HeaderField)).filter (·.1)).map
      fun out => source.touch header out.2)

def requestFormat (source : VirtualCameraFrameSource) : List Access :=
  match source.header with
  | none => []
  | some header => [.requestedFormat, .requestedWidth, .requestedHeight].map (source.touch header)

inductive Call where
  | onFdReceived (fd : Int) (size : Nat) (mapped : Option Nat) (seen : FrameHeader)
  | isRendererActive (seen : FrameHeader)
  | acquireFrame (destSize : Nat) (seen : FrameHeader)
  | getFrameInfo (width height format : Bool) (seen : FrameHeader)
  | requestFormat
  | stop

-- Every call but `stop` holds `mLock`, and `stop` first joins the thread that delivers descriptors.
def perform (source : VirtualCameraFrameSource) : Call → VirtualCameraFrameSource × List Access
  | .onFdReceived fd size mapped seen => source.onFdReceived fd size mapped seen
  | .isRendererActive seen => (source, (source.isRendererActive seen).2)
  | .acquireFrame destSize seen => (source.acquireFrame destSize seen).2.2
  | .getFrameInfo width height format seen => (source, (source.getFrameInfo width height format seen).2)
  | .requestFormat => (source, source.requestFormat)
  | .stop => (source.unmapSharedMemory, [])

def accesses (source : VirtualCameraFrameSource) : List Call → List Access
  | [] => []
  | call :: calls => (source.perform call).2 ++ (source.perform call).1.accesses calls

def Respects (source : VirtualCameraFrameSource) : Call → Prop
  | .onFdReceived _ size mapped _ => mapped ≠ none → sizeofFrameHeader ≤ size
  | .acquireFrame destSize seen =>
    ∀ addr ∈ source.mappedAddr, ∀ frameData ∈ source.frameData, seen.flags &&& FLAG_RENDERER_ACTIVE ≠ 0 →
      seen.dataSize.toNat ≤ destSize → frameData - addr + seen.dataSize.toNat ≤ source.mappedSize
  | _ => True

def AllRespect (source : VirtualCameraFrameSource) : List Call → Prop
  | [] => True
  | call :: calls => source.Respects call ∧ (source.perform call).1.AllRespect calls

inductive Covered (source : VirtualCameraFrameSource) : Prop where
  | unmapped (mappedAddr : source.mappedAddr = none) (header : source.header = none)
      (frameData : source.frameData = none)
  | mapped (addr frameData : Nat) (mappedAddr : source.mappedAddr = some addr) (header : source.header = some addr)
      (whole : sizeofFrameHeader ≤ source.mappedSize) (data : source.frameData = some frameData)
      (ordered : addr ≤ frameData)

theorem covered_unmap {source : VirtualCameraFrameSource} (covered : source.Covered) :
    source.unmapSharedMemory.mappedAddr = none ∧ source.unmapSharedMemory.header = none ∧
      source.unmapSharedMemory.frameData = none := by
  by_cases open_ : 0 ≤ source.shmFd
  all_goals cases covered with
    | unmapped mappedAddr header frameData =>
      simp [unmapSharedMemory, open_, mappedAddr, header, frameData]
    | mapped addr frameData mappedAddr header whole data ordered =>
      simp [unmapSharedMemory, open_, mappedAddr]

theorem touch_inside {source : VirtualCameraFrameSource} {addr : Nat} (mapped : source.mappedAddr = some addr)
    (field : HeaderField) : (source.touch addr field).inside = true ↔ sizeofFrameHeader ≤ source.mappedSize := by
  simp [touch, Access.inside, mapping, mapped, Mapping.contains]

theorem frame_inside {source : VirtualCameraFrameSource} {addr frameData : Nat}
    (mapped : source.mappedAddr = some addr) (ordered : addr ≤ frameData) (length : Nat) :
    (Access.frame source.mapping frameData length).inside = true ↔
      frameData - addr + length ≤ source.mappedSize := by
  simp only [Access.inside, mapping, mapped, Option.map_some, Option.any_some, Mapping.contains,
    Bool.and_eq_true, decide_eq_true_eq]
  omega

theorem touches_inside {source : VirtualCameraFrameSource} {addr : Nat} (mapped : source.mappedAddr = some addr)
    (whole : sizeofFrameHeader ≤ source.mappedSize) (fields : List HeaderField) :
    ∀ access ∈ fields.map (source.touch addr), access.inside = true := by
  intro access member
  obtain ⟨field, _, rfl⟩ := List.mem_map.mp member
  exact (touch_inside mapped field).mpr whole

-- A mapping that mmap grants is read before its size is looked at.
theorem onFdReceived_respects {source : VirtualCameraFrameSource} (covered : source.Covered) (fd : Int)
    (size : Nat)
    (mapped : Option Nat) (seen : FrameHeader) :
    ((∀ access ∈ (source.onFdReceived fd size mapped seen).2, access.inside = true) ↔
      (mapped ≠ none → sizeofFrameHeader ≤ size)) ∧
    ((mapped ≠ none → sizeofFrameHeader ≤ size) → (source.onFdReceived fd size mapped seen).1.Covered) := by
  obtain ⟨_, header, frameData⟩ := covered_unmap covered
  unfold onFdReceived mapSharedMemory
  cases mapped with
  | none => exact ⟨by simp, fun _ => .unmapped rfl header frameData⟩
  | some addr =>
    by_cases magic : seen.magic = VCMF_MAGIC
    · by_cases offset : size ≤ seen.dataOffset.toNat
      · simp only [magic, ne_eq, not_true_eq_false, if_false, offset, if_true]
        refine ⟨?_, fun _ => .unmapped rfl rfl frameData⟩
        simp [touch_inside]
      · simp only [magic, ne_eq, not_true_eq_false, if_false, offset]
        refine ⟨by simp [touch_inside], fun whole => .mapped addr _ rfl rfl (whole (by simp)) rfl ?_⟩
        exact Nat.le_add_right _ _
    · simp only [magic, ne_eq, not_false_eq_true, if_true]
      exact ⟨by simp [touch_inside], fun _ => .unmapped rfl rfl frameData⟩

theorem acquireFrame_respects {source : VirtualCameraFrameSource} (covered : source.Covered) (destSize : Nat)
    (seen : FrameHeader) :
    ((∀ access ∈ (source.acquireFrame destSize seen).2.2.2, access.inside = true) ↔
      source.Respects (.acquireFrame destSize seen)) ∧ (source.acquireFrame destSize seen).2.2.1.Covered := by
  cases covered with
  | unmapped mappedAddr header frameData =>
    simp only [acquireFrame, header, Respects, mappedAddr]
    exact ⟨by simp, .unmapped mappedAddr header frameData⟩
  | mapped addr frameData mappedAddr header whole data ordered =>
    have loads := touches_inside mappedAddr whole
    have copied := frame_inside mappedAddr ordered seen.dataSize.toNat
    obtain ⟨shmFd, _, mappedSize, _, _, _⟩ := source
    cases mappedAddr
    cases header
    cases data
    simp only [acquireFrame, Respects]
    by_cases active : seen.flags &&& FLAG_RENDERER_ACTIVE = 0
    · rw [if_pos active]
      refine ⟨iff_of_true (loads [.flags]) ?_, .mapped addr frameData rfl rfl whole rfl ordered⟩
      exact fun _ _ _ _ inactive => absurd active inactive
    · rw [if_neg active]
      by_cases large : destSize < seen.dataSize.toNat
      · rw [if_pos large]
        refine ⟨iff_of_true (loads [.flags, .width, .height, .dataSize, .timestamp]) ?_,
          .mapped addr frameData rfl rfl whole rfl ordered⟩
        intro _ _ _ _ _ fits
        omega
      · rw [if_neg large]
        refine ⟨?_, .mapped addr frameData rfl rfl whole rfl ordered⟩
        constructor
        next =>
          rintro all _ ⟨⟩ _ ⟨⟩ _ _
          exact copied.mp (all _ (List.mem_append_right _ (List.mem_singleton_self _)))
        next =>
          intro bound access member
          rcases List.mem_append.mp member with load | copy
          · exact loads _ access load
          · cases List.mem_singleton.mp copy
            exact copied.mpr (bound addr rfl frameData rfl active (by omega))

theorem perform_respects {source : VirtualCameraFrameSource} (covered : source.Covered) (call : Call) :
    ((∀ access ∈ (source.perform call).2, access.inside = true) ↔ source.Respects call) ∧
      (source.Respects call → (source.perform call).1.Covered) := by
  have looks : ∀ fields : List HeaderField, ∀ header ∈ source.header,
      ∀ access ∈ fields.map (source.touch header), access.inside = true := by
    intro fields header found
    cases covered with
    | unmapped _ none _ => simp [none] at found
    | mapped addr frameData mappedAddr present whole data ordered =>
      cases Option.some.inj (present.symm.trans found)
      exact touches_inside mappedAddr whole fields
  cases call with
  | onFdReceived fd size mapped seen => exact onFdReceived_respects covered fd size mapped seen
  | acquireFrame destSize seen =>
    obtain ⟨exactly, kept⟩ := acquireFrame_respects covered destSize seen
    exact ⟨exactly, fun _ => kept⟩
  | isRendererActive seen =>
    refine ⟨iff_of_true ?_ trivial, fun _ => covered⟩
    simp only [perform, isRendererActive]
    split
    · simp
    next header found => exact looks [.flags] header found
  | getFrameInfo width height format seen =>
    refine ⟨iff_of_true ?_ trivial, fun _ => covered⟩
    simp only [perform, getFrameInfo]
    split
    · simp
    next header found =>
      intro access member
      obtain ⟨out, _, rfl⟩ := List.mem_map.mp member
      exact looks [out.2] header found _ (by simp)
  | requestFormat =>
    refine ⟨iff_of_true ?_ trivial, fun _ => covered⟩
    simp only [perform, requestFormat]
    split
    · simp
    next header found => exact looks [.requestedFormat, .requestedWidth, .requestedHeight] header found
  | stop =>
    obtain ⟨mappedAddr, header, frameData⟩ := covered_unmap covered
    exact ⟨iff_of_true (by simp [perform]) trivial, fun _ => .unmapped mappedAddr header frameData⟩

theorem accesses_respect {source : VirtualCameraFrameSource} (covered : source.Covered) (calls : List Call) :
    (∀ access ∈ source.accesses calls, access.inside = true) ↔ source.AllRespect calls := by
  induction calls generalizing source with
  | nil => simp [accesses, AllRespect]
  | cons call calls ih =>
    obtain ⟨exactly, kept⟩ := perform_respects covered call
    simp only [accesses, AllRespect, List.forall_mem_append]
    rw [exactly]
    exact and_congr_right fun respects => ih (kept respects)

theorem mapping_respected (calls : List Call) :
    (∀ access ∈ ({} : VirtualCameraFrameSource).accesses calls, access.inside = true) ↔
      ({} : VirtualCameraFrameSource).AllRespect calls :=
  accesses_respect (.unmapped rfl rfl rfl) calls

theorem mapping_overrun :
    ¬ ∀ calls : List Call, ∀ access ∈ ({} : VirtualCameraFrameSource).accesses calls, access.inside = true := by
  intro all
  have copied := all [ .onFdReceived 5 4096 (some 65536) { magic := VCMF_MAGIC, dataOffset := 64 }
    , .acquireFrame 16384 { flags := FLAG_RENDERER_ACTIVE, dataSize := 8192 } ]
    (.frame (some ⟨65536, 4096⟩) 65600 8192)
    (by simp [accesses, perform, onFdReceived, mapSharedMemory, acquireFrame, unmapSharedMemory, mapping,
      VCMF_MAGIC, FLAG_RENDERER_ACTIVE])
  exact absurd copied (by decide)

end VirtualCameraFrameSource

end VirtualCamera
