import Mathlib.Tactic.Linarith
import VirtualCamera.Shared.Runs

set_option autoImplicit false

namespace VirtualCamera

structure FormatRequest where
  format : Int32 := 0
  width : Int32 := 0
  height : Int32 := 0
  usage : UInt64 := 0
deriving DecidableEq

-- The four values, in the order in which both sides go through them.
inductive RequestField where
  | format | width | height | usage

namespace RequestField

def all : List RequestField := [.format, .width, .height, .usage]

def copy (field : RequestField) (source target : FormatRequest) : FormatRequest :=
  match field with
  | .format => { target with format := source.format }
  | .width => { target with width := source.width }
  | .height => { target with height := source.height }
  | .usage => { target with usage := source.usage }

end RequestField

-- The negotiation block with the two threads that use it: `requestFormat` runs under the HAL's lock, so one call
-- stores at a time, and the renderer polls from its render loop.
structure NegotiationWorld where
  values : FormatRequest := {}
  seq : UInt32 := 0
  writing : Option (FormatRequest × Nat) := none
  lastNegotiationSeq : UInt32 := 0
  reading : Option (FormatRequest × Nat) := none
  -- What happened so far: requests begun and completed, requests completed at the last load of `seq`, and
  -- what `checkNegotiation` returned with true.
  requests : List FormatRequest := []
  completed : Nat := 0
  polled : Nat := 0
  reported : List FormatRequest := []

inductive NegotiationMove where
  | request (asked : FormatRequest)
  | store
  | poll
  | load
deriving DecidableEq

namespace NegotiationWorld

-- One atomic store of `requestFormat`: a value, or at last the sequence number.
def store (world : NegotiationWorld) (asked : FormatRequest) (stored : Nat) : NegotiationWorld :=
  match RequestField.all[stored]? with
  | some field =>
    { world with values := field.copy asked world.values, writing := some (asked, stored + 1) }
  | none => { world with seq := world.seq + 1, writing := none, completed := world.completed + 1 }

def poll (world : NegotiationWorld) : NegotiationWorld :=
  if world.seq = world.lastNegotiationSeq then { world with polled := world.completed }
  else { world with lastNegotiationSeq := world.seq, polled := world.completed, reading := some ({}, 0) }

def load (world : NegotiationWorld) (out : FormatRequest) (loaded : Nat) : Option NegotiationWorld :=
  (RequestField.all[loaded]?).map fun field =>
    let out := field.copy world.values out
    if loaded + 1 < RequestField.all.length then { world with reading := some (out, loaded + 1) }
    else { world with reading := none, reported := world.reported ++ [out] }

def perform (world : NegotiationWorld) : NegotiationMove → Option NegotiationWorld
  | .request asked =>
    if world.writing.isSome then none
    else some { world with writing := some (asked, 0), requests := world.requests ++ [asked] }
  | .store => world.writing.map fun (asked, stored) => world.store asked stored
  | .poll => if world.reading.isSome then none else some world.poll
  | .load => world.reading.bind fun (out, loaded) => world.load out loaded

def Step (world : NegotiationWorld) (move : NegotiationMove) (after : NegotiationWorld) : Prop :=
  world.perform move = some after

-- What makes a step harmless: no value is stored while a poll is loading, no poll starts to load from a request that
-- is stored in part, and the sequence number does not come round between two polls.
def calm (world : NegotiationWorld) : NegotiationMove → Bool
  | .store => world.writing.all fun (_, stored) =>
    if stored < RequestField.all.length then world.reading.isNone else world.completed + 1 < world.polled + 2 ^ 32
  | .poll => world.seq = world.lastNegotiationSeq ||
    world.writing.all fun (_, stored) => stored = 0 ∨ stored = RequestField.all.length
  | _ => true

def calmly (world : NegotiationWorld) (move : NegotiationMove) : Option NegotiationWorld :=
  if world.calm move then world.perform move else none

def CalmStep (world : NegotiationWorld) (move : NegotiationMove) (after : NegotiationWorld) : Prop :=
  world.calmly move = some after

def RendererMove (move : NegotiationMove) : Prop := move = .poll ∨ move = .load

structure Untorn (world : NegotiationWorld) : Prop where
  single : ∀ report ∈ world.reported, report ∈ world.requests
  ordered : ∃ indices : List Nat, indices.Pairwise (· ≤ ·) ∧
    indices.map (world.requests[·]?) = world.reported.map some
  latest : ∀ last, world.writing = none → world.requests.getLast? = some last →
    (world.reading = none → world.seq = world.lastNegotiationSeq → world.reported.getLast? = some last) ∧
    ∀ moves after, (∀ move ∈ moves, RendererMove move) → Runs.Run Step world moves after →
      ∃ later, after.reported = world.reported ++ later ∧ ∀ report ∈ later, report = last

-- The values of the request that completed as number `count`, counted from one; zeros before the first.
def asked (requests : List FormatRequest) : Nat → FormatRequest
  | 0 => {}
  | count + 1 => requests.getD count {}

def blend (count : Nat) (source target : FormatRequest) : FormatRequest :=
  (RequestField.all.take count).foldl (fun target field => field.copy source target) target

theorem blend_succ {count : Nat} {field : RequestField} (here : RequestField.all[count]? = some field)
    (source target : FormatRequest) :
    blend (count + 1) source target = field.copy source (blend count source target) := by
  simp [blend, List.take_add_one, here]

theorem blend_all (source target : FormatRequest) : blend RequestField.all.length source target = source := rfl

theorem field_none {count : Nat} (beyond : RequestField.all[count]? = none)
    (bounded : count ≤ RequestField.all.length) :
    count = RequestField.all.length :=
  le_antisymm bounded (List.getElem?_eq_none_iff.mp beyond)

theorem field_some {count : Nat} {field : RequestField} (here : RequestField.all[count]? = some field) :
    count < RequestField.all.length :=
  (List.getElem?_eq_some_iff.mp here).1

theorem asked_append (requests : List FormatRequest) (next : FormatRequest) {count : Nat}
    (known : count ≤ requests.length) : asked (requests ++ [next]) count = asked requests count := by
  cases count with
  | zero => rfl
  | succ count => simp [asked, List.getElem?_append_left (show count < requests.length by omega)]

def standing (world : NegotiationWorld) : Nat :=
  match world.writing with
  | some (_, stored) => if stored = RequestField.all.length then world.completed + 1 else world.completed
  | none => world.completed

def Whole (world : NegotiationWorld) : Prop :=
  ∀ asked stored, world.writing = some (asked, stored) → stored = 0 ∨ stored = RequestField.all.length

structure Consistent (world : NegotiationWorld) (counts : List Nat) : Prop where
  begun : match world.writing with
    | none => world.requests.length = world.completed ∧ world.values = asked world.requests world.completed
    | some (request, stored) => stored ≤ RequestField.all.length ∧
      world.requests.length = world.completed + 1 ∧ asked world.requests (world.completed + 1) = request ∧
      world.values = blend stored request (asked world.requests world.completed)
  loading : ∀ out loaded, world.reading = some (out, loaded) →
    world.Whole ∧ out = blend loaded world.values {} ∧ loaded < RequestField.all.length ∧ 0 < world.completed
  numbered : world.seq = UInt32.ofNat world.completed ∧ world.lastNegotiationSeq = UInt32.ofNat world.polled
  near : world.polled ≤ world.completed ∧ world.completed < world.polled + 2 ^ 32
  reports : world.reported = counts.map (asked world.requests)
  sorted : counts.Pairwise (· ≤ ·)
  counted : ∀ count ∈ counts, 0 < count ∧ count ≤ world.standing
  told : world.reading = none → 0 < world.polled → ∃ count, counts.getLast? = some count ∧ world.polled ≤ count

theorem Consistent.whole_values {world : NegotiationWorld} {counts : List Nat}
    (consistent : world.Consistent counts)
    (whole : world.Whole) : world.values = asked world.requests world.standing := by
  have begun := consistent.begun
  unfold standing
  cases writing : world.writing with
  | none =>
    rw [writing] at begun
    exact begun.2
  | some pending =>
    obtain ⟨request, stored⟩ := pending
    rw [writing] at begun
    obtain ⟨_, _, current, values⟩ := begun
    rcases whole request stored writing with rfl | rfl
    · exact values
    · rw [values, blend_all]
      simp [current]

theorem Consistent.standing_le {world : NegotiationWorld} {counts : List Nat}
    (consistent : world.Consistent counts) :
    world.standing ≤ world.requests.length := by
  have begun := consistent.begun
  unfold standing
  cases writing : world.writing with
  | none =>
    rw [writing] at begun
    exact begun.1.ge
  | some pending =>
    obtain ⟨request, stored⟩ := pending
    rw [writing] at begun
    obtain ⟨_, length, _⟩ := begun
    simp only
    split <;> omega

theorem Consistent.completed_le {world : NegotiationWorld} : world.completed ≤ world.standing := by
  unfold standing
  split
  · split <;> omega
  · exact Nat.le_refl _

theorem Consistent.request {world : NegotiationWorld} {counts : List Nat} (consistent : world.Consistent counts)
    (idle : world.writing = none) (next : FormatRequest) :
    ({ world with writing := some (next, 0), requests := world.requests ++ [next] } : NegotiationWorld).Consistent
      counts := by
  have begun := consistent.begun
  have bounded := consistent.standing_le
  rw [idle] at begun
  obtain ⟨length, values⟩ := begun
  have kept := fun count (known : count ≤ world.requests.length) => asked_append world.requests next known
  refine { consistent with begun := ?_, loading := ?_, reports := ?_, counted := ?_ }
  · refine ⟨Nat.zero_le _, by simp [length], by simp [asked, ← length], ?_⟩
    rw [kept _ length.ge, values]
    rfl
  · intro out loaded reading
    obtain ⟨_, rest⟩ := consistent.loading out loaded reading
    exact ⟨fun _ _ writing => by simp_all, rest⟩
  · rw [consistent.reports]
    exact List.map_congr_left fun count member =>
      (kept count ((consistent.counted count member).2.trans bounded)).symm
  · intro count member
    obtain ⟨positive, below⟩ := consistent.counted count member
    simp only [standing, idle] at below
    exact ⟨positive, below⟩

theorem Consistent.value {world : NegotiationWorld} {counts : List Nat} (consistent : world.Consistent counts)
    {request : FormatRequest} {stored : Nat} (writing : world.writing = some (request, stored))
    {field : RequestField}
    (here : RequestField.all[stored]? = some field) (quiet : world.reading = none) :
    ({ world with values := field.copy request world.values, writing := some (request, stored + 1) }
      : NegotiationWorld).Consistent counts := by
  have begun := consistent.begun
  have before := field_some here
  rw [writing] at begun
  obtain ⟨_, length, current, values⟩ := begun
  refine { consistent with begun := ?_, loading := ?_, counted := ?_ }
  · exact ⟨before, length, current, by rw [blend_succ here, values]⟩
  · simp [quiet]
  · intro count member
    obtain ⟨positive, below⟩ := consistent.counted count member
    simp only [standing, writing, if_neg before.ne] at below
    refine ⟨positive, below.trans ?_⟩
    simp only [standing]
    split <;> omega

theorem Consistent.bump {world : NegotiationWorld} {counts : List Nat} (consistent : world.Consistent counts)
    {request : FormatRequest} (writing : world.writing = some (request, RequestField.all.length))
    (near : world.completed + 1 < world.polled + 2 ^ 32) :
    ({ world with seq := world.seq + 1, writing := none, completed := world.completed + 1 }
      : NegotiationWorld).Consistent counts := by
  have begun := consistent.begun
  rw [writing] at begun
  obtain ⟨_, length, current, values⟩ := begun
  refine { consistent with begun := ?_, loading := ?_, numbered := ?_, near := ?_, counted := ?_ }
  · exact ⟨length, by rw [values, blend_all, current]⟩
  · intro out loaded reading
    obtain ⟨_, blended, bounded, positive⟩ := consistent.loading out loaded reading
    exact ⟨by simp [Whole], blended, bounded, Nat.succ_pos _⟩
  · exact ⟨by rw [consistent.numbered.1, UInt32.ofNat_add]; rfl, consistent.numbered.2⟩
  · exact ⟨consistent.near.1.trans (Nat.le_succ _), near⟩
  · intro count member
    obtain ⟨positive, below⟩ := consistent.counted count member
    simp only [standing, writing, if_true] at below
    exact ⟨positive, below⟩

theorem Consistent.poll {world : NegotiationWorld} {counts : List Nat} (consistent : world.Consistent counts)
    (whole : world.seq ≠ world.lastNegotiationSeq → world.Whole) :
    world.poll.Consistent counts := by
  obtain ⟨seq, last⟩ := consistent.numbered
  obtain ⟨behind, near⟩ := consistent.near
  have same_iff : world.seq = world.lastNegotiationSeq ↔ world.completed = world.polled := by
    rw [seq, last, ← UInt32.toNat_inj]
    simp only [UInt32.toNat_ofNat']
    omega
  unfold NegotiationWorld.poll
  split
  next same =>
    have unchanged : ∀ count, count = world.polled → { world with polled := count } = world := by
      rintro _ rfl
      rfl
    rwa [unchanged _ (same_iff.mp same)]
  next changed =>
    have fresh := mt same_iff.mpr changed
    have positive : 0 < world.completed := by omega
    refine { consistent with loading := ?_, numbered := ⟨seq, seq⟩, near := ?_, told := by simp }
    · intro out loaded reading
      cases reading
      exact ⟨whole changed, rfl, by decide, positive⟩
    · exact ⟨le_rfl, Nat.lt_add_of_pos_right (by decide)⟩

theorem Consistent.load {world : NegotiationWorld} {counts : List Nat} (consistent : world.Consistent counts)
    {out : FormatRequest} {loaded : Nat} (reading : world.reading = some (out, loaded)) {after : NegotiationWorld}
    (next : world.load out loaded = some after) :
    after.reported = world.reported ∧ after.Consistent counts ∨
      after.reported = world.reported ++ [world.values] ∧ after.Consistent (counts ++ [world.standing]) := by
  obtain ⟨whole, blended, bounded, positive⟩ := consistent.loading out loaded reading
  obtain ⟨field, here, rfl⟩ := Option.map_eq_some_iff.mp next
  have grown : field.copy world.values out = blend (loaded + 1) world.values {} := by rw [blend_succ here, blended]
  split
  next more =>
    refine .inl ⟨rfl, { consistent with loading := ?_, told := by simp }⟩
    intro out' loaded' reading'
    cases reading'
    exact ⟨whole, grown, more, positive⟩
  next last =>
    have full : loaded + 1 = RequestField.all.length := by omega
    have values : field.copy world.values out = world.values := by rw [grown, full, blend_all]
    rw [values]
    refine .inr ⟨rfl, { consistent with loading := by simp, reports := ?_, sorted := ?_, counted := ?_, told := ?_ }⟩
    · rw [List.map_append, consistent.reports, consistent.whole_values whole]
      rfl
    · exact List.pairwise_append.mpr ⟨consistent.sorted, List.pairwise_singleton _ _,
        fun count member last single => List.mem_singleton.mp single ▸ (consistent.counted count member).2⟩
    · intro count member
      rcases List.mem_append.mp member with earlier | last
      · exact consistent.counted count earlier
      · rw [List.mem_singleton.mp last]
        exact ⟨positive.trans_le Consistent.completed_le, Nat.le_refl _⟩
    · intro _ _
      exact ⟨world.standing, by simp, consistent.near.1.trans Consistent.completed_le⟩

theorem Consistent.renderer {world : NegotiationWorld} {counts : List Nat} (consistent : world.Consistent counts)
    (whole : world.Whole) {move : NegotiationMove} {after : NegotiationWorld} (mine : RendererMove move)
    (next : world.Step move after) :
    after.writing = world.writing ∧ after.requests = world.requests ∧ after.values = world.values ∧
      (∃ later, after.Consistent later) ∧
      ∃ later, after.reported = world.reported ++ later ∧ ∀ report ∈ later, report = world.values := by
  rcases mine with rfl | rfl
  · simp only [Step, perform] at next
    split at next <;> cases next
    next =>
      have polled := consistent.poll fun _ => whole
      refine ⟨?_, ?_, ?_, ⟨counts, polled⟩, [], ?_, by simp⟩ <;> unfold NegotiationWorld.poll <;> split <;> simp
  · simp only [Step, perform, Option.bind_eq_some_iff] at next
    obtain ⟨⟨out, loaded⟩, reading, next⟩ := next
    obtain ⟨field, _, shape⟩ := Option.map_eq_some_iff.mp next
    have kept : after.writing = world.writing ∧ after.requests = world.requests ∧ after.values = world.values := by
      rw [← shape]
      split <;> exact ⟨rfl, rfl, rfl⟩
    obtain ⟨writing, requests, values⟩ := kept
    refine ⟨writing, requests, values, ?_⟩
    rcases consistent.load reading next with ⟨same, later⟩ | ⟨reported, later⟩
    · exact ⟨⟨counts, later⟩, [], by simp [same], by simp⟩
    · exact ⟨⟨_, later⟩, [world.values], reported, by simp⟩

theorem consistent_step {world after : NegotiationWorld} {counts : List Nat} (consistent : world.Consistent counts)
    {move : NegotiationMove} (next : world.CalmStep move after) : ∃ later, after.Consistent later := by
  unfold CalmStep calmly at next
  split at next
  case isFalse => cases next
  rename_i calm
  cases move with
  | request request =>
    simp only [perform] at next
    split at next <;> cases next
    next idle => exact ⟨counts, consistent.request (by simpa using idle) request⟩
  | store =>
    simp only [perform, Option.map_eq_some_iff] at next
    obtain ⟨⟨request, stored⟩, writing, rfl⟩ := next
    simp only [NegotiationWorld.calm, writing, Option.all_some] at calm
    simp only [NegotiationWorld.store]
    cases here : RequestField.all[stored]? with
    | some field => exact ⟨counts, consistent.value writing here (by simpa [field_some here] using calm)⟩
    | none =>
      have begun := consistent.begun
      rw [writing] at begun
      obtain rfl := field_none here begun.1
      exact ⟨counts, consistent.bump writing (by simpa using calm)⟩
  | poll =>
    simp only [perform] at next
    split at next <;> cases next
    refine ⟨counts, consistent.poll fun changed request stored writing => ?_⟩
    simpa [NegotiationWorld.calm, changed, writing] using calm
  | load =>
    simp only [perform, Option.bind_eq_some_iff] at next
    obtain ⟨⟨out, loaded⟩, reading, next⟩ := next
    rcases consistent.load reading next with ⟨_, later⟩ | ⟨_, later⟩
    · exact ⟨_, later⟩
    · exact ⟨_, later⟩

theorem consistent_run {moves : List NegotiationMove} {world : NegotiationWorld}
    (run : Runs.Run CalmStep {} moves world) : ∃ counts, world.Consistent counts := by
  refine run.invariant (fun _ world => ∃ counts, world.Consistent counts) ?_ ?_
  · exact ⟨[], ⟨rfl, rfl⟩, by simp, ⟨rfl, rfl⟩, by simp, rfl, .nil, by simp, by simp⟩
  · rintro _ _ _ _ _ ⟨counts, consistent⟩ next
    exact consistent_step consistent next

theorem renderer_run {start world : NegotiationWorld} {moves : List NegotiationMove} {counts : List Nat}
    (consistent : start.Consistent counts) (idle : start.writing = none)
    (mine : ∀ move ∈ moves, RendererMove move) (run : Runs.Run Step start moves world) :
    world.writing = none ∧ world.values = start.values ∧ (∃ later, world.Consistent later) ∧
      ∃ later, world.reported = start.reported ++ later ∧ ∀ report ∈ later, report = start.values := by
  induction run with
  | refl => exact ⟨idle, rfl, ⟨counts, consistent⟩, [], by simp, by simp⟩
  | snoc run next ih =>
    obtain ⟨writing, values, ⟨_, consistent⟩, earlier, reported, all⟩ := ih fun move member =>
      mine move (by simp [member])
    obtain ⟨kept, _, same, consistent, added, grown, alike⟩ :=
      consistent.renderer (by simp [Whole, writing]) (mine _ (by simp)) next
    refine ⟨kept.trans writing, same.trans values, consistent, earlier ++ added, by simp [grown, reported], ?_⟩
    intro report member
    rcases List.mem_append.mp member with before | here
    · exact all report before
    · exact (alike report here).trans values

theorem Consistent.untorn {world : NegotiationWorld} {counts : List Nat} (consistent : world.Consistent counts) :
    world.Untorn := by
  have bounded := consistent.standing_le
  have listed : ∀ count ∈ counts, world.requests[count - 1]? = some (asked world.requests count) := by
    intro count member
    obtain ⟨positive, below⟩ := consistent.counted count member
    obtain ⟨index, rfl⟩ := Nat.exists_eq_add_of_lt positive
    simp [asked, show index < world.requests.length by omega]
  constructor
  case single =>
    intro report member
    rw [consistent.reports] at member
    obtain ⟨count, there, rfl⟩ := List.mem_map.mp member
    exact List.mem_of_getElem? (listed count there)
  case ordered =>
    refine ⟨counts.map (· - 1), consistent.sorted.map _ fun _ _ ordered => Nat.sub_le_sub_right ordered 1, ?_⟩
    rw [consistent.reports, List.map_map, List.map_map]
    exact List.map_congr_left listed
  case latest =>
    intro last idle final
    have begun := consistent.begun
    rw [idle] at begun
    obtain ⟨length, values⟩ := begun
    have whole : world.values = last := by
      rw [values, ← length]
      rw [List.getLast?_eq_getElem?] at final
      cases requests : world.requests with
      | nil => simp [requests] at final
      | cons first rest => simpa [asked, requests] using final
    constructor
    next =>
      intro quiet same
      obtain ⟨seq, polled⟩ := consistent.numbered
      obtain ⟨behind, near⟩ := consistent.near
      have caught : world.completed = world.polled := by
        rw [seq, polled, ← UInt32.toNat_inj] at same
        simp only [UInt32.toNat_ofNat'] at same
        omega
      have some_ : 0 < world.completed := by
        rw [← length]
        exact List.length_pos_iff.mpr (by rintro none; simp [none] at final)
      obtain ⟨count, told, reached⟩ := consistent.told quiet (by omega)
      have below := (consistent.counted count (List.mem_of_getLast? told)).2
      simp only [standing, idle] at below
      rw [consistent.reports, List.getLast?_map, told, show count = world.completed by omega, Option.map_some,
        ← values,
        whole]
    next =>
      intro moves after mine run
      obtain ⟨_, _, _, later, reported, all⟩ := renderer_run consistent idle mine run
      exact ⟨later, reported, fun report member => (all report member).trans whole⟩

theorem negotiation_untorn (moves : List NegotiationMove) (world : NegotiationWorld)
    (run : Runs.Run CalmStep {} moves world) : world.Untorn := by
  obtain ⟨counts, consistent⟩ := consistent_run run
  exact consistent.untorn

def small : FormatRequest := { format := 1, width := 640, height := 480, usage := 1 }

def large : FormatRequest := { format := 1, width := 1920, height := 1080, usage := 1 }

def answered : List NegotiationMove :=
  [.request small, .store, .store, .store, .store, .store, .poll, .load, .load, .load, .load]

theorem negotiation_untorn_small : ∃ world : NegotiationWorld, world.Untorn ∧ world.reported = [small] := by
  have computed : (answered.foldlM calmly {}).any (fun world => world.reported == [small]) = true := by
    decide +kernel
  obtain ⟨world, run, reported⟩ := Runs.Run.of_any computed
  exact ⟨world, negotiation_untorn answered world run, by simpa using reported⟩

def overlapped : List NegotiationMove :=
  [ .request small, .store, .store, .store, .store, .store, .poll, .load, .load
  , .request large, .store, .store, .store, .store, .load, .load ]

theorem negotiation_torn : ¬ ∀ (moves : List NegotiationMove) (world : NegotiationWorld),
    Runs.Run Step {} moves world → world.Untorn := by
  intro all
  have computed : (overlapped.foldlM perform {}).any
      (fun world => world.reported.any fun report => !world.requests.contains report) = true := by decide +kernel
  obtain ⟨world, run, torn⟩ := Runs.Run.of_any computed
  obtain ⟨report, member, missing⟩ := List.any_eq_true.mp torn
  have listed := (all overlapped world run).single report member
  simp [listed] at missing

end NegotiationWorld

end VirtualCamera
