import Mathlib.Logic.Function.Basic
import Mathlib.Data.List.Induction
import Mathlib.Order.Nat

set_option autoImplicit false

namespace Notices

/-- A value on its way to a listener; the stamp counts the readings of the value. -/
structure Notice (V L : Type) where
  listener : L
  value : V
  stamp : Nat
deriving DecidableEq, Repr

inductive Duty (V L : Type) where
  | owed
  | pushing (notice : Notice V L)
  | failing (listener : L)

/-- A value that several parties change, and a listener that they tell of it: each reads the value and delivers it in a
later step. -/
structure Board (V L K : Type) where
  value : V
  listener : Option L := none
  duties : K → Option (Duty V L) := fun _ => none
  received : List (Notice V L) := []
  reads : Nat := 0

variable {V L K : Type}

namespace Board

def Issued (board : Board V L K) (notice : Notice V L) : Prop :=
  notice ∈ board.received ∨ ∃ key, board.duties key = some (.pushing notice)

inductive Known (board : Board V L K) (listener : L) : Prop where
  | owed (key : K) (here : board.duties key = some .owed)
  | failing (key : K) (here : board.duties key = some (.failing listener))
  | issued (notice : Notice V L) (here : board.Issued notice) (addressed : notice.listener = listener)
      (value : notice.value = board.value)
      (latest : ∀ other, board.Issued other → other.listener = listener → other.stamp ≤ notice.stamp)

structure Sound (board : Board V L K) : Prop where
  stamped : ∀ notice, board.Issued notice → notice.stamp < board.reads
  single : ∀ notice other, board.Issued notice → board.Issued other → notice.stamp = other.stamp → notice = other
  ordered : board.received.Pairwise fun earlier later => earlier.listener = later.listener →
    earlier.stamp ≤ later.stamp
  known : ∀ listener, board.listener = some listener → board.Known listener

section Widening

variable {board after : Board V L K}

theorem Sound.narrow (sound : board.Sound) (issued : ∀ notice, after.Issued notice → board.Issued notice)
    (received : after.received = board.received) (reads : after.reads = board.reads)
    (known : ∀ listener, after.listener = some listener → after.Known listener) : after.Sound where
  stamped := fun notice here => by rw [reads]; exact sound.stamped notice (issued notice here)
  single := fun notice other here there => sound.single notice other (issued notice here) (issued other there)
  ordered := by rw [received]; exact sound.ordered
  known := known

theorem Sound.widen (sound : board.Sound) {listener : L} (current : after.listener = some listener)
    (added : after.Issued ⟨listener, after.value, board.reads⟩)
    (issued : ∀ notice, after.Issued notice → notice = ⟨listener, after.value, board.reads⟩ ∨ board.Issued notice)
    (received : after.received = board.received) (reads : after.reads = board.reads + 1) : after.Sound where
  stamped := by
    intro notice here
    rcases issued notice here with rfl | earlier
    · rw [reads]
      exact Nat.lt_succ_self _
    · rw [reads]
      exact (sound.stamped notice earlier).trans (Nat.lt_succ_self _)
  single := by
    intro notice other here there same
    rcases issued notice here with rfl | earlier <;> rcases issued other there with rfl | before
    · rfl
    · exact absurd same.symm (sound.stamped other before).ne
    · exact absurd same (sound.stamped notice earlier).ne
    · exact sound.single notice other earlier before same
  ordered := by rw [received]; exact sound.ordered
  known := by
    intro other here
    obtain rfl : listener = other := Option.some.inj (current.symm.trans here)
    refine .issued _ added rfl rfl fun notice there _ => ?_
    rcases issued notice there with rfl | earlier
    · exact le_rfl
    · exact (sound.stamped notice earlier).le

end Widening

variable [DecidableEq K]

def oblige (board : Board V L K) (key : K) (duty : Option (Duty V L)) : Board V L K :=
  { board with duties := Function.update board.duties key duty }

section Duties

variable {board : Board V L K} {key other : K} {notice : Notice V L}

theorem oblige_self (duty : Option (Duty V L)) : (board.oblige key duty).duties key = duty :=
  Function.update_self _ _ _

theorem oblige_of_ne (apart : other ≠ key) (duty : Option (Duty V L)) :
    (board.oblige key duty).duties other = board.duties other := Function.update_of_ne apart _ _

theorem issued_of_oblige {duty : Option (Duty V L)} (issued : (board.oblige key duty).Issued notice) :
    duty = some (.pushing notice) ∨ board.Issued notice := by
  rcases issued with received | ⟨other, here⟩
  · exact .inr (.inl received)
  · by_cases same : other = key
    next =>
      rw [same, oblige_self] at here
      exact .inl here
    next =>
      rw [oblige_of_ne same] at here
      exact .inr (.inr ⟨other, here⟩)

theorem Issued.oblige (issued : board.Issued notice) (kept : board.duties key ≠ some (.pushing notice))
    (duty : Option (Duty V L)) : (board.oblige key duty).Issued notice := by
  rcases issued with received | ⟨other, here⟩
  · exact .inl received
  · have apart : other ≠ key := by
      rintro rfl
      exact kept here
    exact .inr ⟨other, (oblige_of_ne apart duty).trans here⟩

end Duties

section Ending

variable {board : Board V L K}

theorem issued_deliver {key : K} {notice : Notice V L} (pending : board.duties key = some (.pushing notice))
    (other : Notice V L) :
    ({ board with received := board.received ++ [notice] }.oblige key none).Issued other ↔ board.Issued other := by
  constructor
  next =>
    intro issued
    rcases (issued_of_oblige issued).resolve_left (by simp) with received | waiting
    · rcases List.mem_append.mp received with earlier | now
      · exact .inl earlier
      · rw [List.mem_singleton.mp now]
        exact .inr ⟨key, pending⟩
    · exact .inr waiting
  next =>
    intro issued
    by_cases same : other = notice
    next => exact .inl (List.mem_append_right _ (List.mem_singleton.mpr same))
    next =>
      have kept : board.duties key ≠ some (.pushing other) := by
        rw [pending]
        rintro ⟨⟩
        exact same rfl
      exact (issued.oblige kept none).imp_left (List.mem_append_left _)

theorem Known.oblige {listener : L} (known : board.Known listener) {key : K} {duty : Option (Duty V L)}
    (kept : board.duties key ≠ some .owed ∧ board.duties key ≠ some (.failing listener))
    (issued : ∀ notice, board.Issued notice → notice.listener = listener → (board.oblige key duty).Issued notice)
    (ended : ∀ notice, duty ≠ some (.pushing notice)) : (board.oblige key duty).Known listener := by
  have others {other : K} {pending : Duty V L} (there : board.duties other = some pending)
      (apart : board.duties key ≠ some pending) : (board.oblige key duty).duties other = some pending := by
    have distinct : other ≠ key := by
      rintro rfl
      exact apart there
    exact (oblige_of_ne distinct duty).trans there
  cases known with
  | owed other there => exact .owed other (others there kept.1)
  | failing other there => exact .failing other (others there kept.2)
  | issued notice here addressed value latest =>
    refine .issued notice (issued notice here addressed) addressed value fun other there same => ?_
    exact latest other ((issued_of_oblige there).resolve_left (ended other)) same

omit [DecidableEq K] in
theorem Known.readdress {listener : L} (known : board.Known listener) (current : Option L) :
    ({ board with listener := current } : Board V L K).Known listener := by
  cases known with
  | owed key here => exact .owed key here
  | failing key here => exact .failing key here
  | issued notice here addressed value latest => exact .issued notice here addressed value latest

end Ending

variable [DecidableEq L]

/-- No notice is delivered after one for the same listener that was read later. -/
inductive Step (board : Board V L K) : Board V L K → Prop where
  | change (key : K) (value : V) (free : board.duties key = none) :
      Step board ({ board with value }.oblige key (some .owed))
  | unheard (key : K) (owed : board.duties key = some .owed) (nobody : board.listener = none) :
      Step board (board.oblige key none)
  | read (key : K) (listener : L) (owed : board.duties key = some .owed)
      (current : board.listener = some listener) :
      Step board
        ({ board with reads := board.reads + 1 }.oblige key (some (.pushing ⟨listener, board.value, board.reads⟩)))
  | subscribe (key : K) (listener : L) (free : board.duties key = none) :
      Step board
        ({ board with listener := some listener, reads := board.reads + 1 }.oblige key
          (some (.pushing ⟨listener, board.value, board.reads⟩)))
  | silence : Step board { board with listener := none }
  | deliver (key : K) (notice : Notice V L) (pending : board.duties key = some (.pushing notice))
      (inOrder : ∀ earlier ∈ board.received, earlier.listener = notice.listener → earlier.stamp ≤ notice.stamp) :
      Step board ({ board with received := board.received ++ [notice] }.oblige key none)
  | fail (key : K) (notice : Notice V L) (pending : board.duties key = some (.pushing notice)) :
      Step board (board.oblige key (some (.failing notice.listener)))
  | forget (key : K) (listener : L) (failing : board.duties key = some (.failing listener)) :
      Step board
        ({ board with listener := if board.listener = some listener then none else board.listener }.oblige key none)

variable {board after : Board V L K}

theorem Sound.step (sound : board.Sound) (next : Step board after) : after.Sound := by
  cases next with
  | change key value free =>
    refine sound.narrow (fun notice here => (issued_of_oblige here).resolve_left (by simp)) rfl rfl ?_
    exact fun listener _ => .owed key (oblige_self _)
  | unheard key owed nobody =>
    refine sound.narrow (fun notice here => (issued_of_oblige here).resolve_left (by simp)) rfl rfl ?_
    intro listener here
    cases nobody.symm.trans here
  | read key listener owed current =>
    refine sound.widen current (.inr ⟨key, oblige_self _⟩) (fun notice here => ?_) rfl rfl
    exact (issued_of_oblige here).imp_left fun same => by cases same; rfl
  | subscribe key listener free =>
    refine sound.widen rfl (.inr ⟨key, oblige_self _⟩) (fun notice here => ?_) rfl rfl
    exact (issued_of_oblige here).imp_left fun same => by cases same; rfl
  | silence => exact sound.narrow (fun _ => id) rfl rfl fun listener here => by cases here
  | deliver key notice pending inOrder =>
    have moved := issued_deliver pending
    exact
      { stamped := fun other here => sound.stamped other ((moved other).mp here)
        single := fun first second here there => sound.single first second ((moved first).mp here)
          ((moved second).mp there)
        ordered := by
          refine List.pairwise_append.mpr ⟨sound.ordered, List.pairwise_singleton _ _, ?_⟩
          intro earlier there last member same
          cases List.mem_singleton.mp member
          exact inOrder earlier there same
        known := by
          intro listener here
          cases sound.known listener here with
          | owed other there =>
            have apart : other ≠ key := by
              rintro rfl
              cases pending.symm.trans there
            exact .owed other ((oblige_of_ne apart none).trans there)
          | failing other there =>
            have apart : other ≠ key := by
              rintro rfl
              cases pending.symm.trans there
            exact .failing other ((oblige_of_ne apart none).trans there)
          | issued latest there addressed value last =>
            exact .issued latest ((moved latest).mpr there) addressed value fun other elsewhere =>
              last other ((moved other).mp elsewhere) }
  | fail key notice pending =>
    refine sound.narrow (fun notice here => (issued_of_oblige here).resolve_left (by simp)) rfl rfl ?_
    intro listener here
    by_cases same : notice.listener = listener
    next => exact .failing key (by rw [oblige_self, same])
    next =>
      refine (sound.known listener here).oblige (by simp [pending]) (fun other issued addressed => ?_) (by simp)
      refine issued.oblige ?_ _
      rw [pending]
      rintro ⟨⟩
      exact same addressed
  | forget key listener failing =>
    refine sound.narrow (fun notice here => (issued_of_oblige here).resolve_left (by simp)) rfl rfl ?_
    intro other here
    simp only [oblige] at here
    split at here
    next => cases here
    next apart =>
      have distinct : listener ≠ other := by
        rintro rfl
        exact apart here
      refine ((sound.known other here).readdress _).oblige ?_ (fun notice issued _ => ?_) (by simp)
      · simp [failing, distinct]
      · exact issued.oblige (by simp [failing]) none

omit [DecidableEq L] [DecidableEq K] in
theorem fresh_sound (value : V) : ({ value } : Board V L K).Sound where
  stamped := by simp [Issued]
  single := by simp [Issued]
  ordered := .nil
  known := by simp

def Settled (board : Board V L K) : Prop := ∀ key, board.duties key = none

omit [DecidableEq K] in
theorem Sound.settled (sound : board.Sound) (settled : board.Settled) {listener : L}
    (current : board.listener = some listener) :
    (board.received.filter (·.listener = listener)).getLast?.map (·.value) = some board.value := by
  cases sound.known listener current with
  | owed key here => cases (settled key).symm.trans here
  | failing key here => cases (settled key).symm.trans here
  | issued notice here addressed value latest =>
    have received : notice ∈ board.received := here.resolve_right fun ⟨key, pending⟩ => by
      cases (settled key).symm.trans pending
    have member : notice ∈ board.received.filter (·.listener = listener) := by
      simpa [received] using addressed
    obtain ⟨earlier, last, shape⟩ := (List.eq_nil_or_concat _).resolve_left (List.ne_nil_of_mem member)
    have there : last ∈ board.received.filter (·.listener = listener) := by simp [shape]
    obtain ⟨was, same⟩ := List.mem_filter.mp there
    have upper := latest last (.inl was) (of_decide_eq_true same)
    have ordered := sound.ordered.filter (·.listener = listener)
    rw [List.concat_eq_append] at shape
    rw [shape] at ordered member
    rw [shape, List.getLast?_concat]
    rcases List.mem_append.mp member with before | final
    · have lower := (List.pairwise_append.mp ordered).2.2 notice before last (List.mem_singleton.mpr rfl)
      have reached := lower (addressed.trans (of_decide_eq_true same).symm)
      have equal := sound.single notice last here (.inl was) (Nat.le_antisymm reached upper)
      rw [Option.map_some, ← equal, value]
    · rw [Option.map_some, ← List.mem_singleton.mp final, value]

end Board

end Notices
