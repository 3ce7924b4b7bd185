import VirtualCamera.Core.ReadFenceSet

set_option autoImplicit false

namespace VirtualCamera

open Descriptors

namespace ReadFenceSet

-- The callbacks of the templates, on whatever stands for a descriptor. `wait` says whether the fence has
-- signalled, `merge` fails with no descriptor.
structure Callbacks (σ D : Type) where
  wait : σ → D → Bool × σ
  merge : σ → D → D → Option D × σ
  close : σ → D → σ

section Templates

variable {σ D : Type} (callbacks : Callbacks σ D)

def pruneReadFences (state : σ) : List D → List D × σ
  | [] => ([], state)
  | fence :: rest =>
    let (signalled, state) := callbacks.wait state fence
    if signalled then pruneReadFences (callbacks.close state fence) rest
    else
      let (kept, state) := pruneReadFences state rest
      (fence :: kept, state)

-- The loop of `consolidateReadFences`, with the fences behind the front one last first.
def mergeReadFences (state : σ) (front : D) : List D → Bool × List D × σ
  | [] => (true, [front], state)
  | back :: rest =>
    match callbacks.merge state front back with
    | (none, state) => (false, front :: (back :: rest).reverse, state)
    | (some combined, state) => mergeReadFences (callbacks.close (callbacks.close state front) back) combined rest

def consolidateReadFences (state : σ) (fences : List D) : Bool × List D × σ :=
  match pruneReadFences callbacks state fences with
  | ([], state) => (true, [], state)
  | (front :: rest, state) => mergeReadFences callbacks state front rest.reverse

variable {callbacks} {state next : σ} {fence front back combined : D} {rest : List D}

theorem pruneReadFences_signalled (waited : callbacks.wait state fence = (true, next)) :
    pruneReadFences callbacks state (fence :: rest) = pruneReadFences callbacks (callbacks.close next fence) rest := by
  simp only [pruneReadFences, waited, if_true]

theorem pruneReadFences_pending (waited : callbacks.wait state fence = (false, next)) :
    pruneReadFences callbacks state (fence :: rest) =
      (fence :: (pruneReadFences callbacks next rest).1, (pruneReadFences callbacks next rest).2) := by
  simp only [pruneReadFences, waited, Bool.false_eq_true, if_false]

theorem mergeReadFences_failed (merged : callbacks.merge state front back = (none, next)) :
    mergeReadFences callbacks state front (back :: rest) = (false, front :: (back :: rest).reverse, next) := by
  simp only [mergeReadFences, merged]

theorem mergeReadFences_merged (merged : callbacks.merge state front back = (some combined, next)) :
    mergeReadFences callbacks state front (back :: rest) =
      mergeReadFences callbacks (callbacks.close (callbacks.close next front) back) combined rest := by
  simp only [mergeReadFences, merged]

end Templates

def Callbacks.ofKernel : Callbacks Kernel Fd := ⟨Kernel.syncWait, Kernel.syncMerge, Kernel.close⟩

theorem pruneReadFences_kernel (kernel : Kernel) (fences : List Fd) :
    pruneReadFences .ofKernel kernel fences = VirtualCamera.pruneReadFences kernel fences := by
  induction fences generalizing kernel with
  | nil => rfl
  | cons fence rest ih =>
    simp only [VirtualCamera.pruneReadFences, ← ih]
    cases waited : kernel.syncWait fence with
    | mk signalled next =>
      cases signalled with
      | true =>
        have asked : Callbacks.ofKernel.wait kernel fence = (true, next) := waited
        exact pruneReadFences_signalled asked
      | false =>
        have asked : Callbacks.ofKernel.wait kernel fence = (false, next) := waited
        exact pruneReadFences_pending asked

theorem mergeReadFences_kernel (kernel : Kernel) (front : Fd) (rest : List Fd) :
    mergeReadFences .ofKernel kernel front rest = VirtualCamera.mergeReadFences kernel front rest := by
  induction rest generalizing kernel front with
  | nil => rfl
  | cons back rest ih =>
    have asked : Callbacks.ofKernel.merge kernel front back = kernel.syncMerge front back := rfl
    simp only [mergeReadFences, VirtualCamera.mergeReadFences, asked]
    rcases kernel.syncMerge front back with ⟨_ | combined, next⟩
    · rfl
    · exact ih _ _

theorem consolidateReadFences_kernel (kernel : Kernel) (fences : List Fd) :
    consolidateReadFences .ofKernel kernel fences = VirtualCamera.consolidateReadFences kernel fences := by
  simp only [consolidateReadFences, VirtualCamera.consolidateReadFences, pruneReadFences_kernel]
  match VirtualCamera.pruneReadFences kernel fences with
  | ([], next) => rfl
  | (front :: rest, next) => exact mergeReadFences_kernel next front rest.reverse

-- One descriptor over time, as its number may come again. A merged one waits for both that it was made of.
inductive ReadFence where
  | input (index : Nat) (fd : Int)
  | merged (index : Nat) (fd : Int) (front back : ReadFence)
deriving DecidableEq, Repr

namespace ReadFence

def fd : ReadFence → Int
  | input _ fd | merged _ fd _ _ => fd

def index : ReadFence → Nat
  | input index _ | merged index _ _ _ => index

def dependencies : ReadFence → List ReadFence
  | input index fd => [input index fd]
  | merged index fd front back => merged index fd front back :: (front.dependencies ++ back.dependencies)

theorem mem_dependencies (fence : ReadFence) : fence ∈ fence.dependencies := by
  cases fence <;> exact List.mem_cons_self

end ReadFence

structure FenceHistory where
  waited : List (ReadFence × Bool) := []
  made : List ReadFence := []
  closed : List ReadFence := []
deriving DecidableEq, Repr

namespace FenceHistory

variable (history : FenceHistory) (fence : ReadFence)

def noteWait (signalled : Bool) : FenceHistory := { history with waited := history.waited ++ [(fence, signalled)] }

def noteMade : FenceHistory := { history with made := history.made ++ [fence] }

def noteClosed : FenceHistory := { history with closed := history.closed ++ [fence] }

end FenceHistory

def Callbacks.tracked {σ : Type} (callbacks : Callbacks σ Int) : Callbacks (σ × FenceHistory) ReadFence where
  wait state fence :=
    let (signalled, next) := callbacks.wait state.1 fence.fd
    (signalled, next, state.2.noteWait fence signalled)
  merge state front back :=
    match callbacks.merge state.1 front.fd back.fd with
    | (none, next) => (none, next, state.2)
    | (some combined, next) =>
      let fence := ReadFence.merged state.2.made.length combined front back
      (some fence, next, state.2.noteMade fence)
  close state fence := (callbacks.close state.1 fence.fd, state.2.noteClosed fence)

section Erasure

variable {σ : Type} (callbacks : Callbacks σ Int) (state : σ × FenceHistory) {fence front back : ReadFence} {next : σ}

theorem tracked_wait {signalled : Bool} (waited : callbacks.wait state.1 fence.fd = (signalled, next)) :
    callbacks.tracked.wait state fence = (signalled, next, state.2.noteWait fence signalled) := by
  simp only [Callbacks.tracked, waited]

theorem tracked_merge_none (failed : callbacks.merge state.1 front.fd back.fd = (none, next)) :
    callbacks.tracked.merge state front back = (none, next, state.2) := by
  simp only [Callbacks.tracked, failed]

theorem tracked_merge_some {combined : Int}
    (made : callbacks.merge state.1 front.fd back.fd = (some combined, next)) :
    callbacks.tracked.merge state front back = (some (.merged state.2.made.length combined front back), next,
      state.2.noteMade (.merged state.2.made.length combined front back)) := by
  simp only [Callbacks.tracked, made]

theorem pruneReadFences_erased (fences : List ReadFence) :
    pruneReadFences callbacks state.1 (fences.map ReadFence.fd) =
      ((pruneReadFences callbacks.tracked state fences).1.map ReadFence.fd,
        (pruneReadFences callbacks.tracked state fences).2.1) := by
  induction fences generalizing state with
  | nil => rfl
  | cons fence rest ih =>
    rw [List.map_cons]
    cases waited : callbacks.wait state.1 fence.fd with
    | mk signalled next =>
      cases signalled with
      | true =>
        rw [pruneReadFences_signalled waited, pruneReadFences_signalled (tracked_wait callbacks state waited)]
        exact ih (callbacks.tracked.close (next, _) fence)
      | false =>
        rw [pruneReadFences_pending waited, pruneReadFences_pending (tracked_wait callbacks state waited)]
        have later := ih (next, state.2.noteWait fence false)
        rw [later, List.map_cons]

theorem mergeReadFences_erased (front : ReadFence) (rest : List ReadFence) :
    mergeReadFences callbacks state.1 front.fd (rest.map ReadFence.fd) =
      ((mergeReadFences callbacks.tracked state front rest).1,
        (mergeReadFences callbacks.tracked state front rest).2.1.map ReadFence.fd,
        (mergeReadFences callbacks.tracked state front rest).2.2.1) := by
  induction rest generalizing state front with
  | nil => rfl
  | cons back rest ih =>
    rw [List.map_cons]
    cases merged : callbacks.merge state.1 front.fd back.fd with
    | mk combined next =>
      cases combined with
      | none =>
        rw [mergeReadFences_failed merged, mergeReadFences_failed (tracked_merge_none callbacks state merged)]
        simp
      | some combined =>
        rw [mergeReadFences_merged merged, mergeReadFences_merged (tracked_merge_some callbacks state merged)]
        exact ih (callbacks.tracked.close (callbacks.tracked.close (next, _) front) back)
          (.merged state.2.made.length combined front back)

theorem consolidateReadFences_erased (fences : List ReadFence) :
    consolidateReadFences callbacks state.1 (fences.map ReadFence.fd) =
      ((consolidateReadFences callbacks.tracked state fences).1,
        (consolidateReadFences callbacks.tracked state fences).2.1.map ReadFence.fd,
        (consolidateReadFences callbacks.tracked state fences).2.2.1) := by
  unfold consolidateReadFences
  rw [pruneReadFences_erased]
  match pruneReadFences callbacks.tracked state fences with
  | ([], next) => rfl
  | (front :: rest, next) =>
    simp only [List.map_cons, ← List.map_reverse]
    exact mergeReadFences_erased callbacks next front rest.reverse

end Erasure

def inputs (fds : List Int) : List ReadFence := fds.mapIdx fun index fd => .input index fd

def Numbered (made : List ReadFence) : Prop :=
  ∀ place fence, made[place]? = some fence → ∃ fd front back, fence = ReadFence.merged place fd front back

-- What a pass over `fences` leaves in the vector: every descriptor is accounted for, and a fence is dropped only when
-- it was seen to have signalled or when a fence that waits for it is held.
structure Passed (fences kept : List ReadFence) (before after : FenceHistory) : Prop where
  numbered : Numbered before.made → Numbered after.made
  waited : ∀ entry ∈ before.waited, entry ∈ after.waited
  once : ∀ fence, kept.count fence + after.closed.count fence + before.made.count fence =
    fences.count fence + before.closed.count fence + after.made.count fence
  covered : ∀ fence ∈ fences, ∀ needed ∈ fence.dependencies,
    (∃ keeper ∈ kept, needed ∈ keeper.dependencies) ∨ ∃ seen, (seen, true) ∈ after.waited ∧ needed ∈ seen.dependencies

theorem Passed.trans {fences kept final : List ReadFence} {before middle after : FenceHistory}
    (first : Passed fences kept before middle) (second : Passed kept final middle after) :
    Passed fences final before after where
  numbered known := second.numbered (first.numbered known)
  waited entry member := second.waited entry (first.waited entry member)
  once fence := by
    have early := first.once fence
    have late := second.once fence
    omega
  covered fence member needed needs := by
    rcases first.covered fence member needed needs with ⟨keeper, held, waits⟩ | ⟨seen, entry, waits⟩
    · exact second.covered keeper held needed waits
    · exact .inr ⟨seen, second.waited _ entry, waits⟩

theorem numbered_snoc {made : List ReadFence} (known : Numbered made) (fd : Int) (front back : ReadFence) :
    Numbered (made ++ [.merged made.length fd front back]) := by
  intro place fence here
  by_cases early : place < made.length
  · rw [List.getElem?_append_left early] at here
    exact known place fence here
  · obtain ⟨bound, _⟩ := List.getElem?_eq_some_iff.mp here
    rw [List.length_append, List.length_singleton] at bound
    obtain rfl : place = made.length := by omega
    rw [List.getElem?_concat_length, Option.some.injEq] at here
    exact ⟨fd, front, back, here.symm⟩

section Steps

variable (history : FenceHistory) (fence front back : ReadFence) (rest : List ReadFence)

theorem passed_signalled : Passed (fence :: rest) rest history ((history.noteWait fence true).noteClosed fence) where
  numbered known := known
  waited entry member := List.mem_append_left _ member
  once other := by
    simp only [FenceHistory.noteWait, FenceHistory.noteClosed, List.count_append, List.count_cons, List.count_nil]
    omega
  covered other member needed needs := by
    rcases List.mem_cons.mp member with rfl | later
    · exact .inr ⟨other, List.mem_append_right _ (List.mem_singleton_self _), needs⟩
    · exact .inl ⟨other, later, needs⟩

theorem Passed.pending {kept : List ReadFence} {after : FenceHistory}
    (later : Passed rest kept (history.noteWait fence false) after) :
    Passed (fence :: rest) (fence :: kept) history after where
  numbered := later.numbered
  waited entry member := later.waited entry (List.mem_append_left _ member)
  once other := by
    have counted := later.once other
    simp only [FenceHistory.noteWait, List.count_cons] at counted ⊢
    omega
  covered other member needed needs := by
    rcases List.mem_cons.mp member with rfl | inside
    · exact .inl ⟨other, List.mem_cons_self, needs⟩
    · exact (later.covered other inside needed needs).imp_left fun ⟨keeper, held, waits⟩ =>
        ⟨keeper, List.mem_cons_of_mem _ held, waits⟩

theorem passed_merged (combined : Int) :
    Passed (front :: back :: rest) (.merged history.made.length combined front back :: rest) history
      (((history.noteMade (.merged history.made.length combined front back)).noteClosed front).noteClosed back) where
  numbered known := numbered_snoc known combined front back
  waited _ member := member
  once other := by
    simp only [FenceHistory.noteMade, FenceHistory.noteClosed, List.count_append, List.count_cons, List.count_nil]
    omega
  covered other member needed needs := by
    have joined := List.mem_cons_self (a := ReadFence.merged history.made.length combined front back) (l := rest)
    rcases List.mem_cons.mp member with rfl | inside
    · exact .inl ⟨_, joined, List.mem_cons_of_mem _ (List.mem_append_left _ needs)⟩
    · rcases List.mem_cons.mp inside with rfl | later
      · exact .inl ⟨_, joined, List.mem_cons_of_mem _ (List.mem_append_right _ needs)⟩
      · exact .inl ⟨other, List.mem_cons_of_mem _ later, needs⟩

theorem passed_perm {fences kept : List ReadFence} (same : fences.Perm kept) :
    Passed fences kept history history where
  numbered := id
  waited _ member := member
  once fence := by rw [same.count_eq]
  covered fence member _ needs := .inl ⟨fence, same.mem_iff.mp member, needs⟩

end Steps

section Passes

variable {σ : Type} (callbacks : Callbacks σ Int) (state : σ × FenceHistory)

theorem pruneReadFences_passed (fences : List ReadFence) :
    Passed fences (pruneReadFences callbacks.tracked state fences).1 state.2
      (pruneReadFences callbacks.tracked state fences).2.2 := by
  induction fences generalizing state with
  | nil => exact passed_perm state.2 (.refl [])
  | cons fence rest ih =>
    cases waited : callbacks.wait state.1 fence.fd with
    | mk signalled next =>
      cases signalled with
      | true =>
        rw [pruneReadFences_signalled (tracked_wait callbacks state waited)]
        exact (passed_signalled state.2 fence rest).trans (ih (callbacks.tracked.close (next, _) fence))
      | false =>
        rw [pruneReadFences_pending (tracked_wait callbacks state waited)]
        exact (ih (next, state.2.noteWait fence false)).pending

theorem pruneReadFences_asked (fences : List ReadFence) {entry : ReadFence × Bool}
    (member : entry ∈ (pruneReadFences callbacks.tracked state fences).2.2.waited) :
    entry ∈ state.2.waited ∨ entry.1 ∈ fences := by
  induction fences generalizing state with
  | nil => exact .inl member
  | cons fence rest ih =>
    have noted : ∀ signalled, entry ∈ (state.2.noteWait fence signalled).waited ∨ entry.1 ∈ rest →
        entry ∈ state.2.waited ∨ entry.1 ∈ fence :: rest := by
      rintro signalled (before | later)
      · rcases List.mem_append.mp before with earlier | now
        · exact .inl earlier
        · rw [List.mem_singleton.mp now]
          exact .inr List.mem_cons_self
      · exact .inr (List.mem_cons_of_mem _ later)
    cases waited : callbacks.wait state.1 fence.fd with
    | mk signalled next =>
      cases signalled with
      | true =>
        rw [pruneReadFences_signalled (tracked_wait callbacks state waited)] at member
        exact noted true (ih _ member)
      | false =>
        rw [pruneReadFences_pending (tracked_wait callbacks state waited)] at member
        exact noted false (ih (next, state.2.noteWait fence false) member)

theorem mergeReadFences_waited (front : ReadFence) (rest : List ReadFence) :
    (mergeReadFences callbacks.tracked state front rest).2.2.2.waited = state.2.waited := by
  induction rest generalizing state front with
  | nil => rfl
  | cons back rest ih =>
    cases merged : callbacks.merge state.1 front.fd back.fd with
    | mk combined next =>
      cases combined with
      | none => rw [mergeReadFences_failed (tracked_merge_none callbacks state merged)]
      | some combined =>
        rw [mergeReadFences_merged (tracked_merge_some callbacks state merged)]
        exact ih (callbacks.tracked.close (callbacks.tracked.close (next, _) front) back) _

theorem consolidateReadFences_asked (fences : List ReadFence) {entry : ReadFence × Bool}
    (member : entry ∈ (consolidateReadFences callbacks.tracked state fences).2.2.2.waited) :
    entry ∈ state.2.waited ∨ entry.1 ∈ fences := by
  refine pruneReadFences_asked callbacks state fences ?_
  unfold consolidateReadFences at member
  match shape : pruneReadFences callbacks.tracked state fences with
  | ([], next) =>
    rw [shape] at member
    exact member
  | (front :: rest, next) =>
    rw [shape] at member
    dsimp only at member
    rwa [mergeReadFences_waited] at member

theorem mergeReadFences_passed (front : ReadFence) (rest : List ReadFence) :
    Passed (front :: rest) (mergeReadFences callbacks.tracked state front rest).2.1 state.2
      (mergeReadFences callbacks.tracked state front rest).2.2.2 := by
  induction rest generalizing state front with
  | nil => exact passed_perm state.2 (.refl [front])
  | cons back rest ih =>
    cases merged : callbacks.merge state.1 front.fd back.fd with
    | mk combined next =>
      cases combined with
      | none =>
        rw [mergeReadFences_failed (tracked_merge_none callbacks state merged)]
        exact passed_perm state.2 ((List.reverse_perm _).symm.cons front)
      | some combined =>
        rw [mergeReadFences_merged (tracked_merge_some callbacks state merged)]
        exact (passed_merged state.2 front back rest combined).trans
          (ih (callbacks.tracked.close (callbacks.tracked.close (next, _) front) back) _)

theorem consolidateReadFences_passed (fences : List ReadFence) :
    Passed fences (consolidateReadFences callbacks.tracked state fences).2.1 state.2
      (consolidateReadFences callbacks.tracked state fences).2.2.2 := by
  have pruned := pruneReadFences_passed callbacks state fences
  unfold consolidateReadFences
  match shape : pruneReadFences callbacks.tracked state fences with
  | ([], next) =>
    rw [shape] at pruned
    exact pruned
  | (front :: rest, next) =>
    rw [shape] at pruned
    have turned : Passed (front :: rest) (front :: rest.reverse) next.2 next.2 :=
      passed_perm next.2 ((List.reverse_perm rest).symm.cons front)
    exact (pruned.trans turned).trans (mergeReadFences_passed callbacks next front rest.reverse)

end Passes

section Sizes

variable {σ D : Type} (callbacks : Callbacks σ D)

theorem mergeReadFences_size (state : σ) (front : D) (rest : List D) :
    if (mergeReadFences callbacks state front rest).1 then (mergeReadFences callbacks state front rest).2.1.length = 1
    else 2 ≤ (mergeReadFences callbacks state front rest).2.1.length := by
  induction rest generalizing state front with
  | nil => rfl
  | cons back rest ih =>
    cases merged : callbacks.merge state front back with
    | mk combined next =>
      cases combined with
      | none =>
        rw [mergeReadFences_failed merged]
        simp
      | some combined =>
        rw [mergeReadFences_merged merged]
        exact ih _ _

theorem consolidateReadFences_size (state : σ) (fences : List D) :
    if (consolidateReadFences callbacks state fences).1 then
      (consolidateReadFences callbacks state fences).2.1.length ≤ 1
    else 2 ≤ (consolidateReadFences callbacks state fences).2.1.length := by
  unfold consolidateReadFences
  match pruneReadFences callbacks state fences with
  | ([], next) => exact Nat.zero_le 1
  | (front :: rest, next) =>
    have size := mergeReadFences_size callbacks next front rest.reverse
    dsimp only
    split at size
    next merged =>
      rw [if_pos merged]
      exact size.le
    next failed =>
      rw [if_neg failed]
      exact size

end Sizes

theorem nodup_of_index {fences : List ReadFence}
    (placed : ∀ place (fence : ReadFence), fences[place]? = some fence → fence.index = place) : fences.Nodup := by
  rw [List.nodup_iff_pairwise_ne, List.pairwise_iff_getElem]
  intro first second early late before same
  have one := placed first _ (List.getElem?_eq_getElem early)
  have other := placed second _ (List.getElem?_eq_getElem late)
  rw [same, other] at one
  exact absurd one before.ne'

theorem nodup_start {made : List ReadFence} (fds : List Int) (numbered : Numbered made) :
    (inputs fds ++ made).Nodup := by
  have first : (inputs fds).Nodup := nodup_of_index fun place fence here => by
    rw [inputs, List.getElem?_mapIdx, Option.map_eq_some_iff] at here
    obtain ⟨fd, _, rfl⟩ := here
    rfl
  have later : made.Nodup := nodup_of_index fun place fence here => by
    obtain ⟨fd, front, back, rfl⟩ := numbered place fence here
    rfl
  refine List.nodup_append.mpr ⟨first, later, ?_⟩
  rintro fence input _ member rfl
  obtain ⟨place, bound, rfl⟩ := List.mem_mapIdx.mp input
  obtain ⟨where_, here⟩ := List.getElem?_of_mem member
  obtain ⟨fd, front, back, same⟩ := numbered where_ _ here
  cases same

structure FencesAccounted (fds : List Int) (kept : List ReadFence) (history : FenceHistory) : Prop where
  once : (kept ++ history.closed).Perm (inputs fds ++ history.made)
  single : (kept ++ history.closed).Nodup
  covered : ∀ fence ∈ inputs fds, (∃ keeper ∈ kept, fence ∈ keeper.dependencies) ∨
    ∃ seen, (seen, true) ∈ history.waited ∧ fence ∈ seen.dependencies

theorem Passed.accounted {fds : List Int} {kept : List ReadFence} {history : FenceHistory}
    (passed : Passed (inputs fds) kept {} history) : FencesAccounted fds kept history := by
  have once : (kept ++ history.closed).Perm (inputs fds ++ history.made) := by
    rw [List.perm_iff_count]
    intro fence
    have counted := passed.once fence
    simpa only [List.count_append, List.count_nil, Nat.add_zero] using counted
  have numbered : Numbered history.made := passed.numbered nofun
  refine ⟨once, ?_, fun fence member => passed.covered fence member fence fence.mem_dependencies⟩
  exact once.nodup_iff.mpr (nodup_start fds numbered)

theorem inputs_fd (fds : List Int) : (inputs fds).map ReadFence.fd = fds := by
  simp [inputs, List.mapIdx_eq_zipIdx_map, Function.comp_def, ReadFence.fd]

theorem input_dependencies {fds : List Int} {fence : ReadFence} (member : fence ∈ inputs fds) :
    fence.dependencies = [fence] := by
  obtain ⟨place, bound, rfl⟩ := List.mem_mapIdx.mp member
  rfl

section Results

variable {σ : Type} (callbacks : Callbacks σ Int) (state : σ) (fds : List Int)

def pruneInputs : List ReadFence × σ × FenceHistory :=
  pruneReadFences callbacks.tracked (state, {}) (inputs fds)

def consolidateInputs : Bool × List ReadFence × σ × FenceHistory :=
  consolidateReadFences callbacks.tracked (state, {}) (inputs fds)

-- A later call on what the first one left. Its callbacks start from any state.
def consolidateAgain (later : σ) : Bool × List ReadFence × σ × FenceHistory :=
  let (_, kept, _, history) := consolidateInputs callbacks state fds
  consolidateReadFences callbacks.tracked (later, history) kept

-- Pruning and consolidation of any descriptors, whatever the callbacks answer. `prunes` and `consolidates` say that
-- the passes with an account leave what the templates leave.
structure DependenciesKept : Prop where
  prunes : pruneReadFences callbacks state fds =
    ((pruneInputs callbacks state fds).1.map ReadFence.fd, (pruneInputs callbacks state fds).2.1)
  consolidates : consolidateReadFences callbacks state fds =
    ((consolidateInputs callbacks state fds).1, (consolidateInputs callbacks state fds).2.1.map ReadFence.fd,
      (consolidateInputs callbacks state fds).2.2.1)
  pruned : FencesAccounted fds (pruneInputs callbacks state fds).1 (pruneInputs callbacks state fds).2.2
  consolidated : FencesAccounted fds (consolidateInputs callbacks state fds).2.1
    (consolidateInputs callbacks state fds).2.2.2
  unseen : ∀ fence ∈ inputs fds, (fence, true) ∉ (consolidateInputs callbacks state fds).2.2.2.waited →
    ∃ keeper ∈ (consolidateInputs callbacks state fds).2.1, fence ∈ keeper.dependencies
  size : if (consolidateInputs callbacks state fds).1 then (consolidateInputs callbacks state fds).2.1.length ≤ 1
    else 2 ≤ (consolidateInputs callbacks state fds).2.1.length
  again : ∀ later, FencesAccounted fds (consolidateAgain callbacks state fds later).2.1
    (consolidateAgain callbacks state fds later).2.2.2

theorem dependencies_kept : DependenciesKept callbacks state fds where
  prunes := by
    have erased := pruneReadFences_erased callbacks (state, {}) (inputs fds)
    rwa [inputs_fd] at erased
  consolidates := by
    have erased := consolidateReadFences_erased callbacks (state, {}) (inputs fds)
    rwa [inputs_fd] at erased
  pruned := (pruneReadFences_passed callbacks (state, {}) (inputs fds)).accounted
  consolidated := (consolidateReadFences_passed callbacks (state, {}) (inputs fds)).accounted
  unseen := by
    intro fence member unseen
    have passed := consolidateReadFences_passed callbacks (state, {}) (inputs fds)
    refine (passed.covered fence member fence fence.mem_dependencies).resolve_right ?_
    rintro ⟨seen, entry, waits⟩
    rcases consolidateReadFences_asked callbacks (state, {}) (inputs fds) entry with nothing | input
    · cases nothing
    · rw [input_dependencies input, List.mem_singleton] at waits
      exact unseen (waits ▸ entry)
  size := consolidateReadFences_size callbacks.tracked (state, {}) (inputs fds)
  again later :=
    ((consolidateReadFences_passed callbacks (state, {}) (inputs fds)).trans
      (consolidateReadFences_passed callbacks (later, _) _)).accounted

end Results

end ReadFenceSet

end VirtualCamera
