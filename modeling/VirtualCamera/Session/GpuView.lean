import VirtualCamera.Session.Environment

set_option autoImplicit false

namespace VirtualCamera

open Descriptors Interaction

structure GpuView where
  output : Nat := 0
  pending : List Nat := []
  written : List Nat := []
  covers : Fd → List Nat := fun _ => []
  completions : List Fd := []
  lost : Bool := false

namespace GpuView

def write (view : GpuView) : GpuView := { view with written := view.output :: view.written }

def draw (view : GpuView) : GpuView := { view with pending := view.output :: view.pending }

def finish (view : GpuView) : GpuView :=
  { view with pending := [], written := view.pending ++ view.written, lost := false }

-- A native fence waits for every command queued before it.
def fence (view : GpuView) (fd : Fd) : GpuView :=
  { view with
    covers := Function.update view.covers fd view.pending, completions := fd :: view.completions }

def copy (view : GpuView) (fd copy : Fd) : GpuView :=
  { view with covers := Function.update view.covers copy (view.covers fd) }

def lose (view : GpuView) (fd : Fd) : GpuView :=
  { view with lost := view.lost || decide (fd ∈ view.completions) }

def observe (view : GpuView) : Event Environment → GpuView
  | ⟨.renderAttempt output, _⟩ => { view with output }
  | ⟨.gl (.drawTarget _), _⟩ => view.draw
  | ⟨.gl .finish, _⟩ => view.finish
  | ⟨.gl .dupNativeFence, some fd⟩ => view.fence fd
  | ⟨.gl (.copyPlanes ..), copied⟩ => if copied then view.write else view
  | ⟨.dup fd, some copied⟩ => view.copy fd copied
  | ⟨.dup fd, none⟩ => view.lose fd
  | ⟨.encodeToBlob .., written⟩ => if 0 < written then view.write else view
  | ⟨.fillFromAHardwareBuffer .., filled⟩ => if filled then view.write else view
  | _ => view

def of (events : List (Event Environment)) : GpuView := events.foldl observe {}

theorem of_snoc (before : List (Event Environment)) (event : Event Environment) :
    GpuView.of (before ++ [event]) = (GpuView.of before).observe event := by
  simp [GpuView.of]

theorem observe_completions (view : GpuView) (event : Event Environment) (fd : Fd) :
    fd ∈ (view.observe event).completions ↔
      fd ∈ view.completions ∨ ⟨.gl .dupNativeFence, some fd⟩ = event := by
  obtain ⟨call, reply⟩ := event
  cases call with
  | gl call =>
    cases call with
    | dupNativeFence =>
      cases reply with
      | none => simp [observe]
      | some made => simp [observe, fence, or_comm]
    | copyPlanes =>
      simp only [observe]
      split <;> simp [write]
    | _ => simp [observe, draw, finish]
  | dup =>
    cases reply <;> simp [observe, copy, lose]
  | encodeToBlob =>
    simp only [observe]
    split <;> simp [write]
  | fillFromAHardwareBuffer =>
    simp only [observe]
    split <;> simp [write]
  | _ => simp [observe]

theorem observe_lost (view : GpuView) (event : Event Environment) :
    (view.observe event).lost = false ↔ event = ⟨.gl .finish, ()⟩ ∨
      view.lost = false ∧ ∀ fd, event = ⟨.dup fd, none⟩ → fd ∉ view.completions := by
  obtain ⟨call, reply⟩ := event
  cases call with
  | gl call =>
    cases call with
    | dupNativeFence =>
      cases reply <;> simp [observe, fence]
    | copyPlanes =>
      simp only [observe]
      split <;> simp [write]
    | _ => simp [observe, draw, finish]
  | dup fd =>
    cases reply with
    | none => simp [observe, lose]
    | some => simp [observe, copy]
  | encodeToBlob =>
    simp only [observe]
    split <;> simp [write]
  | fillFromAHardwareBuffer =>
    simp only [observe]
    split <;> simp [write]
  | _ => simp [observe]

def Complete (view : GpuView) (output : Nat) (buffer : StreamBuffer) : Prop :=
  output ∈ view.written ∨ ∃ fd, some fd ∈ buffer.releaseFence.fds ∧ output ∈ view.covers fd

def AllComplete (view : GpuView) (buffers : List StreamBuffer) : Prop :=
  ∀ output buffer, buffers[output]? = some buffer → buffer.status = .ok → view.Complete output buffer

structure Bare (view : GpuView) (output : Nat) (buffer : StreamBuffer) : Prop where
  pending : output ∈ view.pending
  unwritten : output ∉ view.written
  unfenced : buffer.releaseFence.fds = []

structure Settled (view : GpuView) (buffers : List StreamBuffer) : Prop where
  bounded : ∀ output, output ∈ view.written ∨ output ∈ view.pending → output ≤ buffers.length
  covered : ∀ fd output, output ∈ view.covers fd → output ∈ view.written ∨ output ∈ view.pending
  accounted : ∀ output buffer, buffers[output]? = some buffer → buffer.status = .ok →
    view.Complete output buffer ∨ view.Bare output buffer
  lost : view.lost = true ↔
    ∃ output buffer, buffers[output]? = some buffer ∧ buffer.status = .ok ∧ view.Bare output buffer

variable {view : GpuView} {buffers : List StreamBuffer}

theorem settled_nil : GpuView.Settled {} [] where
  bounded output member := by simp at member
  covered fd output member := by simp at member
  accounted output buffer present := by simp at present
  lost := by simp

theorem Settled.allComplete_iff (settled : view.Settled buffers) :
    view.AllComplete buffers ↔ view.lost = false := by
  constructor
  · intro complete
    by_contra losing
    obtain ⟨output, buffer, present, status, bare⟩ := settled.lost.mp (by simpa using losing)
    rcases complete output buffer present status with written | ⟨fd, carried, _⟩
    · exact bare.unwritten written
    · simp [bare.unfenced] at carried
  · intro kept output buffer present status
    rcases settled.accounted output buffer present status with complete | bare
    · exact complete
    · have losing := settled.lost.mpr ⟨output, buffer, present, status, bare⟩
      rw [kept] at losing
      cases losing

theorem index_lt (output : Nat) (buffer : StreamBuffer) (present : buffers[output]? = some buffer) :
    output < buffers.length := by
  obtain ⟨inside, _⟩ := List.getElem?_eq_some_iff.mp present
  exact inside

-- The current output is not among the finished ones, so a write for it concerns none of them.
theorem Settled.write (settled : view.Settled buffers) (current : view.output = buffers.length) :
    view.write.Settled buffers where
  bounded output member := by
    rcases member with written | pending
    · rcases List.mem_cons.mp written with rfl | written
      · exact current.le
      · exact settled.bounded output (.inl written)
    · exact settled.bounded output (.inr pending)
  covered fd output member := (settled.covered fd output member).imp_left (List.mem_cons_of_mem _)
  accounted output buffer present status := by
    have other := index_lt output buffer present
    rcases settled.accounted output buffer present status with complete | bare
    · exact .inl (complete.imp_left (List.mem_cons_of_mem _))
    · refine .inr ⟨bare.pending, fun written => ?_, bare.unfenced⟩
      rcases List.mem_cons.mp written with rfl | written
      · omega
      · exact bare.unwritten written
  lost := by
    refine settled.lost.trans ⟨?_, ?_⟩
    · rintro ⟨output, buffer, present, status, bare⟩
      refine ⟨output, buffer, present, status, bare.pending, fun written => ?_, bare.unfenced⟩
      have other := index_lt output buffer present
      rcases List.mem_cons.mp written with rfl | written
      · omega
      · exact bare.unwritten written
    · rintro ⟨output, buffer, present, status, bare⟩
      exact ⟨output, buffer, present, status, bare.pending,
        fun written => bare.unwritten (List.mem_cons_of_mem _ written), bare.unfenced⟩

theorem Settled.draw (settled : view.Settled buffers) (current : view.output = buffers.length) :
    view.draw.Settled buffers where
  bounded output member := by
    rcases member with written | pending
    · exact settled.bounded output (.inl written)
    · rcases List.mem_cons.mp pending with rfl | pending
      · exact current.le
      · exact settled.bounded output (.inr pending)
  covered fd output member := (settled.covered fd output member).imp_right (List.mem_cons_of_mem _)
  accounted output buffer present status := by
    rcases settled.accounted output buffer present status with complete | bare
    · exact .inl complete
    · exact .inr ⟨List.mem_cons_of_mem _ bare.pending, bare.unwritten, bare.unfenced⟩
  lost := by
    refine settled.lost.trans ⟨?_, ?_⟩
    · rintro ⟨output, buffer, present, status, bare⟩
      exact ⟨output, buffer, present, status, List.mem_cons_of_mem _ bare.pending, bare.unwritten,
        bare.unfenced⟩
    · rintro ⟨output, buffer, present, status, bare⟩
      have other := index_lt output buffer present
      refine ⟨output, buffer, present, status, ?_, bare.unwritten, bare.unfenced⟩
      rcases List.mem_cons.mp bare.pending with rfl | pending
      · omega
      · exact pending

theorem Settled.finish (settled : view.Settled buffers) : view.finish.Settled buffers where
  bounded output member := by
    rcases member with written | pending
    · exact settled.bounded output ((List.mem_append.mp written).symm)
    · cases pending
  covered fd output member := by
    refine .inl (List.mem_append.mpr (settled.covered fd output member).symm)
  accounted output buffer present status := by
    rcases settled.accounted output buffer present status with (written | fenced) | bare
    · exact .inl (.inl (List.mem_append_right _ written))
    · exact .inl (.inr fenced)
    · exact .inl (.inl (List.mem_append_left _ bare.pending))
  lost := by
    constructor
    · nofun
    · rintro ⟨output, buffer, _, _, bare⟩
      cases bare.pending

-- Whatever the number was used for, it now waits for everything that is not written.
theorem Settled.cover (settled : view.Settled buffers) (fd : Fd) (completions : List Fd) :
    GpuView.Settled
      { view with covers := Function.update view.covers fd view.pending, completions } buffers where
  bounded := settled.bounded
  covered other output member := by
    by_cases same : other = fd
    · subst same
      exact .inr (by simpa using member)
    · exact settled.covered other output (by simpa [Function.update_of_ne same] using member)
  accounted output buffer present status := by
    rcases settled.accounted output buffer present status with (written | ⟨other, carried, covered⟩) | bare
    · exact .inl (.inl written)
    · by_cases same : other = fd
      · subst same
        rcases settled.covered other output covered with written | pending
        · exact .inl (.inl written)
        · exact .inl (.inr ⟨other, carried, by simpa using pending⟩)
      · exact .inl (.inr ⟨other, carried, by simpa [Function.update_of_ne same] using covered⟩)
    · exact .inr ⟨bare.pending, bare.unwritten, bare.unfenced⟩
  lost := by
    refine settled.lost.trans ⟨?_, ?_⟩
    · rintro ⟨output, buffer, present, status, bare⟩
      exact ⟨output, buffer, present, status, bare.pending, bare.unwritten, bare.unfenced⟩
    · rintro ⟨output, buffer, present, status, bare⟩
      exact ⟨output, buffer, present, status, bare.pending, bare.unwritten, bare.unfenced⟩

theorem Settled.attempt (settled : view.Settled buffers) (output : Nat) :
    GpuView.Settled { view with output } buffers where
  bounded := settled.bounded
  covered := settled.covered
  accounted other buffer present status :=
    (settled.accounted other buffer present status).imp_right
      fun bare => ⟨bare.pending, bare.unwritten, bare.unfenced⟩
  lost := settled.lost.trans
    ⟨fun ⟨other, buffer, present, status, bare⟩ =>
      ⟨other, buffer, present, status, bare.pending, bare.unwritten, bare.unfenced⟩,
    fun ⟨other, buffer, present, status, bare⟩ =>
      ⟨other, buffer, present, status, bare.pending, bare.unwritten, bare.unfenced⟩⟩

theorem getElem?_snoc (buffer other : StreamBuffer) (output : Nat)
    (present : (buffers ++ [buffer])[output]? = some other) :
    buffers[output]? = some other ∨ (output = buffers.length ∧ other = buffer) := by
  rcases Nat.lt_or_ge output buffers.length with inside | outside
  · exact .inl (by rwa [List.getElem?_append_left inside] at present)
  · rw [List.getElem?_append_right outside] at present
    obtain ⟨short, same⟩ := List.getElem?_eq_some_iff.mp present
    simp only [List.length_singleton] at short
    exact .inr ⟨by omega, by simpa using same.symm⟩

theorem Settled.snoc (settled : view.Settled buffers) (buffer : StreamBuffer)
    (complete : buffer.status = .ok → view.Complete buffers.length buffer)
    (carried : buffer.status = .ok → ¬ view.Bare buffers.length buffer) :
    view.Settled (buffers ++ [buffer]) where
  bounded output member := by
    have old := settled.bounded output member
    simp only [List.length_append, List.length_singleton]
    omega
  covered := settled.covered
  accounted output other present status := by
    rcases getElem?_snoc buffer other output present with old | ⟨rfl, rfl⟩
    · exact settled.accounted output other old status
    · exact .inl (complete status)
  lost := by
    refine settled.lost.trans ⟨?_, ?_⟩
    · rintro ⟨output, other, present, status, bare⟩
      have inside := index_lt output other present
      exact ⟨output, other, by rwa [List.getElem?_append_left inside], status, bare⟩
    · rintro ⟨output, other, present, status, bare⟩
      rcases getElem?_snoc buffer other output present with old | ⟨rfl, rfl⟩
      · exact ⟨output, other, old, status, bare⟩
      · exact absurd bare (carried status)

theorem Settled.lose (settled : view.Settled buffers) (fd : Fd) (made : fd ∈ view.completions)
    (buffer : StreamBuffer) (status : buffer.status = .ok) (bare : view.Bare buffers.length buffer) :
    (view.lose fd).Settled (buffers ++ [buffer]) where
  bounded output member := by
    have old := settled.bounded output member
    simp only [List.length_append, List.length_singleton]
    omega
  covered := settled.covered
  accounted output other present okay := by
    rcases getElem?_snoc buffer other output present with old | ⟨rfl, rfl⟩
    · exact (settled.accounted output other old okay).imp_right
        fun bare => ⟨bare.pending, bare.unwritten, bare.unfenced⟩
    · exact .inr ⟨bare.pending, bare.unwritten, bare.unfenced⟩
  lost := by
    have losing : (view.lose fd).lost = true := by simp [GpuView.lose, made]
    refine ⟨fun _ => ⟨buffers.length, buffer, by simp, status, bare.pending, bare.unwritten,
      bare.unfenced⟩, fun _ => losing⟩

end GpuView

end VirtualCamera
