import VirtualCamera.Session.GpuView
import VirtualCamera.Session.Operations
import VirtualCamera.Session.Stages

set_option autoImplicit false

namespace VirtualCamera

open Descriptors Interaction Interaction.Process

-- At a result, every OK buffer is complete or fenced exactly when no completion fence was lost.
def completionMonitor : Monitor Environment GpuView where
  observe := GpuView.observe
  permits view event := ∀ results, event.1 = .processCaptureResult results →
    ((∀ result ∈ results, view.AllComplete result.outputBuffers) ↔ view.lost = false)

def Call.idle : Call → Bool
  | .gl (.drawTarget _) | .gl .finish | .gl .dupNativeFence | .gl (.copyPlanes ..) => false
  | .gl _ | .lock .. | .lockYCbCr .. | .unlock _ | .notify _ | .importBuffer _ | .freeBuffer _ => true
  | call => call.sourcing

theorem completion_idle (view : GpuView) : completionMonitor.Ignores view Call.idle := by
  intro call reply idle
  refine ⟨fun results same => ?_, ?_⟩
  · obtain rfl : call = .processCaptureResult results := same
    cases idle
  · cases call with
    | gl call => cases call <;> first | rfl | cases idle
    | _ => first | rfl | cases idle

theorem completion_sourcing (view : GpuView) : completionMonitor.Ignores view Call.sourcing :=
  (completion_idle view).mono fun call inside => by cases call <;> first | exact inside | cases inside

theorem completion_reading (view : GpuView) : completionMonitor.Ignores view Call.reading :=
  (completion_sourcing view).mono Call.sourcing_of_reading

theorem completion_seeking (view : GpuView) : completionMonitor.Ignores view Call.seeking :=
  (completion_reading view).mono Call.reading_of_seeking

theorem completion_steady (view : GpuView) : completionMonitor.Ignores view Call.steady :=
  (completion_reading view).mono Call.reading_of_steady

theorem completion_caching (view : GpuView) : completionMonitor.Ignores view Call.caching :=
  (completion_idle view).mono fun call inside => by cases call <;> first | rfl | cases inside

-- Before the first target write there is no fence whose copy could matter.
theorem completion_preparing : completionMonitor.Ignores {} Call.preparing := by
  intro call reply inside
  refine ⟨fun results same => ?_, ?_⟩
  · obtain rfl : call = .processCaptureResult results := same
    cases inside
  · cases call with
    | dup fd =>
      cases reply with
      | none => rfl
      | some copy =>
        change GpuView.copy {} fd copy = {}
        simp [GpuView.copy]
    | _ => first | rfl | cases inside

theorem completion_waiting : completionMonitor.Ignores {} Call.waiting :=
  completion_preparing.mono Call.preparing_of_waiting

-- A completion fence that could not be copied is made up for by a later `finish`.
def FencesCopied (before : List (Event Environment)) : Prop :=
  ∀ early fd late, before = early ++ ⟨.dup fd, none⟩ :: late →
    ⟨.gl .dupNativeFence, some fd⟩ ∈ early → ⟨.gl .finish, ()⟩ ∈ late

theorem fencesCopied_finish (before : List (Event Environment)) :
    FencesCopied (before ++ [⟨.gl .finish, ()⟩]) := by
  intro early fd late shape _
  induction late using List.reverseRecOn with
  | nil => cases (List.append_inj' shape rfl).2
  | append_singleton late last _ =>
    rw [← List.cons_append, ← List.append_assoc] at shape
    have same := (List.append_inj' shape rfl).2
    rw [← same]
    exact List.mem_append_right _ List.mem_cons_self

theorem fencesCopied_snoc (before : List (Event Environment)) (event : Event Environment)
    (other : event ≠ ⟨.gl .finish, ()⟩) :
    FencesCopied (before ++ [event]) ↔ FencesCopied before ∧
      ∀ fd, event = ⟨.dup fd, none⟩ → ⟨.gl .dupNativeFence, some fd⟩ ∉ before := by
  constructor
  · refine fun copied => ⟨fun early fd late shape made => ?_, fun fd same made => ?_⟩
    · have finished := copied early fd (late ++ [event]) (by rw [shape]; simp) made
      rcases List.mem_append.mp finished with inside | last
      · exact inside
      · exact absurd (List.mem_singleton.mp last).symm other
    · have finished := copied before fd [] (by rw [same]) made
      cases finished
  · rintro ⟨copied, kept⟩ early fd late shape made
    induction late using List.reverseRecOn with
    | nil =>
      obtain ⟨rfl, last⟩ := List.append_inj' shape rfl
      exact absurd made (kept fd (List.singleton_inj.mp last))
    | append_singleton late last _ =>
      rw [← List.cons_append, ← List.append_assoc] at shape
      have earlier := (List.append_inj' shape rfl).1
      exact List.mem_append_left _ (copied early fd late earlier made)

namespace GpuView

theorem mem_completions (before : List (Event Environment)) (fd : Fd) :
    fd ∈ (GpuView.of before).completions ↔ ⟨.gl .dupNativeFence, some fd⟩ ∈ before := by
  induction before using List.reverseRecOn with
  | nil => simp [GpuView.of]
  | append_singleton before event ih =>
    rw [of_snoc, observe_completions, ih, List.mem_append, List.mem_singleton]

theorem lost_iff (before : List (Event Environment)) :
    (GpuView.of before).lost = false ↔ FencesCopied before := by
  induction before using List.reverseRecOn with
  | nil =>
    refine iff_of_true rfl fun early fd late shape => ?_
    simp at shape
  | append_singleton before event ih =>
    rw [of_snoc, observe_lost]
    by_cases finished : event = ⟨.gl .finish, ()⟩
    · subst finished
      exact iff_of_true (.inl rfl) (fencesCopied_finish before)
    · simp only [fencesCopied_snoc before event finished, ih, finished, false_or, mem_completions]

end GpuView

namespace GpuCompositor

variable {σ : Type} (state : σ) (view : GpuView)

theorem waitForSourceFence_none : (waitForSourceFence none : Action σ Bool) = pure true := rfl

theorem drawPlanes_completion (post : Bool → σ → GpuView → Prop)
    (next : ∀ drawn, post drawn state view.finish) :
    (drawPlanes : Action σ Bool).wp completionMonitor state view post := by
  have complete : ∀ ok : Bool, Unheard completionMonitor view (passComplete ok : Action σ Bool) := fun _ =>
    unheard_ite (unheard_ask (completion_idle view) (.gl .framebufferComplete) rfl) (unheard_pure false)
  have draw : ∀ ok : Bool, Unheard completionMonitor view (drawPass ok : Action σ Unit) := fun _ =>
    unheard_ite (unheard_ask (completion_idle view) (.gl .drawPacked) rfl) (unheard_pure ())
  simp only [drawPlanes, wp_bind]
  refine complete true _ _ fun first => draw first _ _ fun _ => ?_
  refine complete first _ _ fun second => draw second _ _ fun _ => ?_
  refine fun _ => ⟨(fun _ same => by cases same), ?_⟩
  exact unheard_ite (unheard_ask (completion_idle view.finish) (.gl .noError) rfl) (unheard_pure false)
    _ _ next

theorem compositeToYcbcr_completion (source : Ahb) (target : YCbCrBuffer) (width height : Int)
    (post : Bool → σ → GpuView → Prop) (undrawn : post false state view)
    (uncopied : post false state view.finish) (copied : post true state view.finish.write) :
    (compositeToYcbcr source none target width height : Action σ Bool).wp completionMonitor state view
      post := by
  have idle := completion_idle view
  have drop : ∀ (copied : Bool) (later : GpuView), post copied state later →
      (do
        askGl .dropContext
        pure copied : Action σ Bool).wp completionMonitor state later post := by
    intro copied later holds
    rw [wp_bind]
    exact unheard_ask (completion_idle later) (.gl .dropContext) rfl _ _ fun _ => holds
  simp only [compositeToYcbcr, wp_ite]
  refine ⟨fun _ => undrawn, fun _ => ?_⟩
  rw [wp_bind]
  refine unheard_ask idle (.gl .ensureInit) rfl _ _ fun ready => ?_
  rw [wp_ite]
  refine ⟨fun _ => undrawn, fun _ => ?_⟩
  rw [wp_bind]
  refine unheard_ask idle (.gl .makeCurrent) rfl _ _ fun current => ?_
  rw [wp_ite]
  refine ⟨fun _ => undrawn, fun _ => ?_⟩
  rw [wp_bind, samplePlanes, wp_bind]
  refine unheard_ask idle (.gl (.ensureYuvTargets ..)) rfl _ _ fun targets => ?_
  rw [wp_ite]
  refine ⟨fun _ => drop false view undrawn, fun _ => ?_⟩
  rw [wp_bind, waitForSourceFence_none, wp_pure, wp_ite]
  refine ⟨nofun, fun _ => ?_⟩
  rw [wp_bind]
  refine unheard_ask idle (.gl (.imageFromAhb source)) rfl _ _ fun image => ?_
  rw [wp_ite]
  refine ⟨fun _ => drop false view undrawn, fun _ => ?_⟩
  rw [wp_bind]
  apply drawPlanes_completion
  intro drawn
  rw [wp_ite]
  refine ⟨fun _ => drop false view.finish uncopied, fun _ => ?_⟩
  refine fun reply => ⟨nofun, ?_⟩
  cases reply
  case false => exact drop false _ uncopied
  case true => exact drop true _ copied

theorem drawTarget_completion (handle : Handle) (clearBeforeOverwrite : Bool)
    (post : Bool × Option Fd → σ → GpuView → Prop)
    (finished : ∀ drawn, post (drawn, none) state view.draw.finish)
    (fenced : ∀ fd, post (true, some fd) state (view.draw.fence fd)) :
    (drawTarget handle clearBeforeOverwrite : Action σ (Bool × Option Fd)).wp completionMonitor state
      view post := by
  have clear : Unheard completionMonitor view (clearTarget clearBeforeOverwrite : Action σ Unit) :=
    unheard_ite (unheard_ask (completion_idle view) (.gl .clear) rfl) (unheard_pure ())
  have idle := completion_idle view.draw
  simp only [drawTarget, wp_bind]
  refine clear _ _ fun _ => ?_
  rw [askGl, wp_ask]
  refine fun _ => ⟨(fun _ same => by cases same), ?_⟩
  refine unheard_ask idle (.gl .noError) rfl _ _ fun drawn => ?_
  have finish : (do
      askGl .finish
      pure (drawn, none) : Action σ (Bool × Option Fd)).wp completionMonitor state view.draw post := by
    rw [wp_bind]
    exact fun _ => ⟨(fun _ same => by cases same), finished drawn⟩
  rw [completionFence, wp_ite]
  refine ⟨fun _ => finish, fun okay => ?_⟩
  rw [wp_bind]
  refine unheard_ask idle (.gl .nativeFence) rfl _ _ fun native => ?_
  rw [wp_ite]
  refine ⟨fun _ => finish, fun _ => ?_⟩
  rw [wp_bind]
  refine unheard_ask idle (.gl .createSync) rfl _ _ fun created => ?_
  rw [wp_ite]
  refine ⟨fun _ => finish, fun _ => ?_⟩
  refine fun reply => ⟨(fun _ same => by cases same), ?_⟩
  obtain rfl : drawn = true := by simpa using okay
  cases reply with
  | none => exact finish
  | some fd => exact fenced fd

theorem composite_completion (source : Ahb) (handle : Handle) (width height stride format : Int)
    (clearBeforeOverwrite : Bool) (post : Bool × Option Fd → σ → GpuView → Prop)
    (undrawn : post (false, none) state view)
    (finished : ∀ drawn, post (drawn, none) state view.draw.finish)
    (fenced : ∀ fd, post (true, some fd) state (view.draw.fence fd)) :
    (composite source none handle width height stride format clearBeforeOverwrite :
      Action σ (Bool × Option Fd)).wp completionMonitor state view post := by
  have idle := completion_idle view
  have drop : ∀ (outcome : Bool × Option Fd) (later : GpuView), post outcome state later →
      (do
        askGl .dropContext
        pure outcome : Action σ (Bool × Option Fd)).wp completionMonitor state later post := by
    intro outcome later holds
    rw [wp_bind]
    exact unheard_ask (completion_idle later) (.gl .dropContext) rfl _ _ fun _ => holds
  simp only [composite, wp_ite]
  refine ⟨fun _ => undrawn, fun _ => ?_⟩
  rw [wp_bind]
  refine unheard_ask idle (.gl .ensureInit) rfl _ _ fun ready => ?_
  rw [wp_ite]
  refine ⟨fun _ => undrawn, fun _ => ?_⟩
  rw [wp_bind]
  refine unheard_ask idle (.gl .makeCurrent) rfl _ _ fun current => ?_
  rw [wp_ite]
  refine ⟨fun _ => undrawn, fun _ => ?_⟩
  rw [wp_bind, compositeCurrent, wp_bind, waitForSourceFence_none, wp_pure, wp_ite]
  refine ⟨nofun, fun _ => ?_⟩
  rw [wp_bind]
  refine unheard_ask idle (.gl (.imageFromAhb source)) rfl _ _ fun image => ?_
  rw [wp_ite]
  refine ⟨fun _ => drop _ view undrawn, fun _ => ?_⟩
  rw [wp_bind]
  refine unheard_ask idle (.gl (.imageFromHandle ..)) rfl _ _ fun image => ?_
  rw [wp_ite]
  refine ⟨fun _ => drop _ view undrawn, fun _ => ?_⟩
  rw [wp_bind]
  refine unheard_ask idle (.gl .framebufferComplete) rfl _ _ fun complete => ?_
  rw [wp_ite]
  refine ⟨fun _ => drop _ view undrawn, fun _ => ?_⟩
  apply drawTarget_completion
  · exact fun drawn => drop _ _ (finished drawn)
  · exact fun fd => drop _ _ (fenced fd)

end GpuCompositor

def Rendered (view : GpuView) (position : Nat) (filled : Bool) : Option Fd → Prop
  | none => filled = true → position ∈ view.written
  | some fd => filled = true ∧ position ∈ view.pending ∧ position ∉ view.written ∧
      fd ∈ view.completions ∧ view.covers fd = view.pending

namespace VirtualCameraSession

variable (session : VirtualCameraSession) {view : GpuView} {buffers : List StreamBuffer}

theorem encodeJpeg_completion (source : Ahb) (stream : Stream) (handle : Handle)
    (post : Bool → VirtualCameraSession → GpuView → Prop)
    (failed : post false session view) (encoded : post true session view.write) :
    (encodeJpeg source stream handle).wp completionMonitor session view post := by
  simp only [encodeJpeg, wp_bind, wp_get]
  refine unheard_ask (completion_idle view) (.lock ..) rfl _ _ fun locked => ?_
  cases locked
  case false => exact failed
  case true =>
    simp only [if_true, wp_bind]
    rw [wp_ask]
    refine fun written => ⟨(fun _ same => by cases same), ?_⟩
    refine unheard_ask (completion_idle _) (.unlock handle) rfl _ _ fun _ => ?_
    change post (decide (0 < written)) session (if 0 < written then view.write else view)
    split
    next positive => simpa [positive] using encoded
    next empty => simpa [empty] using failed

theorem convertYcbcr_completion (source : Ahb) (stream : Stream) (handle : Handle)
    (post : Bool → VirtualCameraSession → GpuView → Prop) (undrawn : post false session view)
    (uncopied : post false session view.finish) (copied : post true session view.finish.write) :
    (convertYcbcr source stream handle).wp completionMonitor session view post := by
  have unlock : ∀ (filled : Bool) (later : GpuView), post filled session later →
      (do
        ask (.unlock handle)
        pure filled : Action VirtualCameraSession Bool).wp completionMonitor session later post := by
    intro filled later holds
    rw [wp_bind]
    exact unheard_ask (completion_idle later) (.unlock handle) rfl _ _ fun _ => holds
  simp only [convertYcbcr, wp_bind, wp_get]
  rw [wp_ite]
  refine ⟨fun _ => undrawn, fun _ => ?_⟩
  rw [wp_bind]
  refine unheard_ask (completion_idle view) (.lockYCbCr ..) rfl _ _ fun target => ?_
  rw [wp_ite]
  refine ⟨fun _ => undrawn, fun _ => ?_⟩
  rw [wp_bind]
  apply GpuCompositor.compositeToYcbcr_completion
  · exact unlock false view undrawn
  · exact unlock false view.finish uncopied
  · exact unlock true view.finish.write copied

theorem renderOutput_completion (source : Ahb) (stream : Stream) (handle : Handle)
    (settled : view.Settled buffers) (current : view.output = buffers.length)
    (fresh : ¬ (buffers.length ∈ view.written ∨ buffers.length ∈ view.pending))
    (post : Bool × Option Fd → VirtualCameraSession → GpuView → Prop)
    (next : ∀ filled fence later, later.Settled buffers → Rendered later buffers.length filled fence →
      post (filled, fence) session later) :
    (renderOutput source stream handle).wp completionMonitor session view post := by
  have unfilled : ∀ later : GpuView, later.Settled buffers → post (false, none) session later :=
    fun later steady => next false none later steady (fun same => by cases same)
  have written : ∀ later : GpuView, later.Settled buffers → later.output = buffers.length →
      post (true, none) session later.write := by
    intro later steady same
    refine next true none later.write (steady.write same) fun _ => ?_
    exact List.mem_cons.mpr (.inl same.symm)
  rw [renderOutput, wp_ite]
  constructor
  · intro _
    rw [wp_bind]
    apply encodeJpeg_completion
    · exact unfilled view settled
    · exact written view settled current
  · intro _
    have fill : ∀ later : GpuView, later.Settled buffers → later.output = buffers.length →
        (do
          let filled ← ask (.fillFromAHardwareBuffer handle stream.width stream.height source)
          pure (filled, none) : Action VirtualCameraSession (Bool × Option Fd)).wp completionMonitor
          session later post := by
      intro later steady same
      rw [wp_bind, wp_ask]
      refine fun filled => ⟨(fun _ same => by cases same), ?_⟩
      cases filled
      case false => exact unfilled later steady
      case true => exact written later steady same
    -- The direct render, after a conversion that wrote nothing for this output.
    have direct : ∀ later : GpuView, later.Settled buffers → later.output = buffers.length →
        buffers.length ∉ later.written →
        (do
          let session ← get
          let drawn ← GpuCompositor.composite source none handle stream.width stream.height
            stream.width stream.format session.profileClearOutput
          if drawn.1 then pure (true, drawn.2)
          else if ← acquireFenceReady none fun _ => pure false then
            let filled ← ask (.fillFromAHardwareBuffer handle stream.width stream.height source)
            pure (filled, drawn.2)
          else pure (false, drawn.2) : Action VirtualCameraSession (Bool × Option Fd)).wp
          completionMonitor session later post := by
      intro later steady same unwritten
      rw [wp_bind, wp_get, wp_bind]
      apply GpuCompositor.composite_completion
      · exact fill later steady same
      · intro drawn
        have drawnSteady := (steady.draw same).finish
        cases drawn
        case false => exact fill later.draw.finish drawnSteady same
        case true =>
          refine next true none _ drawnSteady fun _ => ?_
          exact List.mem_append_left _ (List.mem_cons.mpr (.inl same.symm))
      · intro fd
        refine next true (some fd) _ ((steady.draw same).cover fd _) ⟨rfl, ?_, unwritten, ?_, ?_⟩
        · exact List.mem_cons.mpr (.inl same.symm)
        · exact List.mem_cons_self
        · exact Function.update_self _ _ _
    rw [wp_bind]
    apply convertYcbcr_completion
    · exact direct view settled current fun member => fresh (.inl member)
    · refine direct view.finish settled.finish current fun member => fresh ?_
      exact (List.mem_append.mp member).symm
    · exact written view.finish settled.finish current

def Before (view : GpuView) (count : Nat) : Prop :=
  ∀ output, output ∈ view.written ∨ output ∈ view.pending → output < count

theorem Before.of_settled (settled : view.Settled buffers) (made : StreamBuffer) :
    Before view (buffers ++ [made]).length := by
  intro output member
  have bounded := settled.bounded output member
  simp only [List.length_append, List.length_singleton]
  omega

theorem processOutput_completion (cancelEpoch : Nat) (source : Acquired) (buffer : StreamBuffer)
    (settled : view.Settled buffers) (before : Before view buffers.length)
    (post : StreamBuffer × List Fd → VirtualCameraSession → GpuView → Prop)
    (next : ∀ made fences final later, GpuView.Settled later (buffers ++ [made]) →
      Before later (buffers ++ [made]).length → post (made, fences) final later) :
    (processOutput cancelEpoch source buffers.length buffer).wp completionMonitor session view post := by
  have missing : ∀ final : VirtualCameraSession, post (resultBuffer buffer false none, []) final view :=
    fun final => next _ _ final view (settled.snoc _ (fun same => by cases same) (fun same => by cases same)) (.of_settled settled _)
  simp only [processOutput, wp_bind, wp_get]
  apply importBuffer_wp (completion_caching view)
  intro handle cache
  cases handle with
  | none => exact missing _
  | some handle =>
    cases session.streams buffer.streamId with
    | none => exact missing _
    | some stream =>
      simp only [wp_bind]
      refine sourceWanted_unheard ((completion_seeking view).mono Call.seeking_of_awaiting) cancelEpoch source _ _ fun wanted => ?_
      cases wanted
      case false => exact missing _
      case true =>
        simp only [Bool.not_true, Bool.false_eq_true, if_false, wp_bind]
        rw [wp_ask]
        refine fun _ => ⟨(fun _ same => by cases same), ?_⟩
        refine renderOutput_completion _ source.ahb stream handle (settled.attempt buffers.length) rfl
          (fun member => lt_irrefl _ (before _ member)) _ ?_
        intro filled fence later steady rendered
        cases fence with
        | none =>
          refine next _ _ _ later (steady.snoc _ (fun okay => ?_) fun okay bare => ?_)
            (.of_settled steady _)
          · cases filled
            case false => cases okay
            case true => exact .inl (rendered rfl)
          · cases filled
            case false => cases okay
            case true => exact bare.unwritten (rendered rfl)
        | some done =>
          obtain ⟨rfl, pending, unwritten, made, covers⟩ := rendered
          simp only [wp_bind]
          rw [wp_ask]
          refine fun released => ⟨(fun _ same => by cases same), ?_⟩
          cases released with
          | none =>
            exact next _ _ _ (later.lose done) (steady.lose done made _ rfl ⟨pending, unwritten, rfl⟩)
              (.of_settled steady _)
          | some copied =>
            have copying : later.copy done copied =
                { later with covers := Function.update later.covers copied later.pending } := by
              rw [GpuView.copy, covers]
            have covered := steady.cover copied later.completions
            change post _ _ (later.copy done copied)
            rw [copying]
            refine next _ _ _ _ (covered.snoc _ (fun _ => .inr ⟨copied, ?_, ?_⟩) fun _ bare => ?_)
              (.of_settled covered _)
            · simp [resultBuffer]
            · simpa using pending
            · cases bare.unfenced

theorem processOutputs_completion (cancelEpoch : Nat) (source : Acquired) (rest : List StreamBuffer)
    (settled : view.Settled buffers) (before : Before view buffers.length)
    (post : List StreamBuffer × List Fd → VirtualCameraSession → GpuView → Prop)
    (next : ∀ made fences final later, GpuView.Settled later (buffers ++ made) →
      post (made, fences) final later) :
    (processOutputs cancelEpoch source buffers.length rest).wp completionMonitor session view post := by
  induction rest generalizing session view buffers post with
  | nil => exact next [] [] session view (by simpa using settled)
  | cons buffer rest ih =>
    simp only [processOutputs, wp_bind]
    apply processOutput_completion session cancelEpoch source buffer settled before
    intro made fences middle later steady further
    have more := ih middle steady further
    rw [List.length_append, List.length_singleton] at more
    refine more _ fun results later' final view' done => ?_
    exact next (made :: results) _ final view' (by simpa using done)

theorem failUntouched_completion (request : CaptureRequest) (pending : List (Option Fd))
    (kept : view.lost = false) (post : Outcome → VirtualCameraSession → GpuView → Prop)
    (next : post (.status .ok) session view) :
    (failUntouched request pending).wp completionMonitor session view post := by
  simp only [failUntouched, wp_bind]
  refine unheard_ask (completion_idle view) (.notify _) rfl _ _ fun _ => ?_
  rw [wp_ask]
  refine fun _ => ⟨?_, next⟩
  rintro results same
  cases same
  simp only [List.forall_mem_singleton]
  refine ⟨fun _ => kept, fun _ output buffer present status => ?_⟩
  obtain ⟨inside, rfl⟩ := List.getElem?_eq_some_iff.mp present
  simp [untouchedResult, untouchedBuffer] at status

theorem deliver_completion (request : CaptureRequest) (timestamp frameDurationNs producerTs : Int)
    (settled : view.Settled buffers) (post : Outcome → VirtualCameraSession → GpuView → Prop)
    (next : post (.status .ok) session view) :
    (deliver request timestamp frameDurationNs producerTs buffers).wp completionMonitor session view
      post := by
  simp only [deliver, wp_bind, wp_get]
  refine unheard_ask (completion_idle view) (.notify _) rfl _ _ fun _ => ?_
  rw [wp_ask]
  refine fun _ => ⟨?_, next⟩
  rintro results same
  cases same
  simp only [List.forall_mem_singleton]
  exact settled.allComplete_iff

theorem captureFrom_completion (request : CaptureRequest) (cancelEpoch : Nat)
    (timestamp frameDurationNs : Int) (pending : List (Option Fd)) (source : Acquired) (polls : Nat) :
    (captureFrom request cancelEpoch timestamp frameDurationNs pending source polls).wp
      completionMonitor session {} fun _ _ _ => True := by
  have release : ∀ (state : VirtualCameraSession) (view : GpuView) (fences : List Fd) (outcome : Outcome),
      (do
        releaseSource source fences
        pure outcome : Action VirtualCameraSession Outcome).wp completionMonitor state view
        fun _ _ _ => True := by
    intro state view fences outcome
    rw [wp_bind]
    exact releaseSource_unheard (completion_reading view) source fences _ _ fun _ => trivial
  have failed : ∀ (state : VirtualCameraSession) (fences : List Fd),
      (do
        let outcome ← failUntouched request pending
        releaseSource source fences
        pure outcome : Action VirtualCameraSession Outcome).wp completionMonitor state {}
        fun _ _ _ => True := by
    intro state fences
    rw [wp_bind]
    exact failUntouched_completion state request pending rfl _ (release state {} fences _)
  simp only [captureFrom, wp_bind]
  refine cancelled_unheard (completion_steady {}) cancelEpoch _ _ fun stopped => ?_
  cases stopped
  case true => exact failed _ _
  case false =>
    simp only [Bool.false_eq_true, if_false, wp_bind, wp_modify]
    refine sourceReady_unheard ((completion_seeking {}).mono Call.seeking_of_awaiting) cancelEpoch source polls _ _ fun ready => ?_
    cases ready
    case false => exact failed _ _
    case true =>
      simp only [if_true, wp_bind]
      refine closeFds_unheard (completion_steady {}) [source.acquireFence] _ _ fun _ => ?_
      apply processOutputs_completion _ cancelEpoch source request.outputBuffers GpuView.settled_nil
      · exact fun output member => by simp at member
      · intro made fences final later settled
        apply deliver_completion final request timestamp frameDurationNs source.timestampNs settled
        exact release final later fences (.status .ok)

theorem processSingleRequest_completion (request : CaptureRequest) (cancelEpoch : Nat) :
    (processSingleRequest request cancelEpoch).wp completionMonitor session {} fun _ _ _ => True := by
  have steady := completion_steady {}
  have failed : ∀ (state : VirtualCameraSession) (pending : List (Option Fd)),
      (failUntouched request pending).wp completionMonitor state {} fun _ _ _ => True :=
    fun state pending => failUntouched_completion state request pending rfl _ trivial
  simp only [processSingleRequest, wp_bind]
  apply reserveFences_wp (completion_waiting.mono Call.waiting_of_copying)
  intro kept fences _
  cases kept
  case false =>
    simp only [Bool.not_false, if_true, wp_bind]
    refine close_unheard (completion_preparing.mono Call.preparing_of_ending) _ _ fun _ => ?_
    exact closeFds_unheard steady fences _ _ fun _ => trivial
  case true =>
    simp only [Bool.not_true, Bool.false_eq_true, if_false, wp_bind]
    apply importBuffers_wp (completion_caching {})
    intro imported cache
    cases imported
    case false =>
      simp only [Bool.not_false, if_true, wp_bind]
      exact closeFds_unheard steady fences _ _ fun _ => trivial
    case true =>
      simp only [Bool.not_true, Bool.false_eq_true, if_false, captureReserved, wp_bind]
      apply waitDestinations_wp completion_waiting
      · simp only [wp_bind]
        apply paceFrame_wp steady
        · exact fun _ => trivial
        · intro _ slot ns
          simp only [wp_bind]
          refine cancelled_unheard steady cancelEpoch _ _ fun stopped => ?_
          cases stopped
          case true => exact failed _ _
          case false =>
            simp only [Bool.false_eq_true, if_false, captureSource, wp_bind, wp_get]
            refine unheard_ask steady .stableHal rfl _ _ fun hal => ?_
            rw [wp_ite]
            refine ⟨fun _ => failed _ _, fun _ => ?_⟩
            rw [wp_bind]
            apply startDeadline_wp steady
            intro polls
            rw [wp_bind]
            refine pollSource_unheard (completion_seeking {}) cancelEpoch polls _ _ fun found => ?_
            obtain ⟨source, left⟩ := found
            cases source with
            | none => exact failed _ _
            | some source => exact captureFrom_completion _ request cancelEpoch slot _ _ source left
      · exact fun pending _ => failed _ pending

theorem okBuffers_complete_iff (request : CaptureRequest) (cancelEpoch : Nat)
    (events : List (Event Environment)) (outcome : Outcome) (final : VirtualCameraSession)
    (execution : (processSingleRequest request cancelEpoch session).Execution events (outcome, final))
    (before after : List (Event Environment)) (results : List CaptureResult)
    (sent : events = before ++ ⟨.processCaptureResult results, ()⟩ :: after) :
    (∀ result ∈ results, (GpuView.of before).AllComplete result.outputBuffers) ↔ FencesCopied before := by
  have accepts := ((processSingleRequest_completion session request cancelEpoch).execution execution).1
  rw [sent] at accepts
  rw [← GpuView.lost_iff]
  exact accepts.permits results rfl

def resultPrefix : List (Event Environment) → Option (List (Event Environment) × List CaptureResult)
  | [] => none
  | ⟨.processCaptureResult results, _⟩ :: _ => some ([], results)
  | event :: rest => (resultPrefix rest).map fun found => (event :: found.1, found.2)

theorem resultPrefix_split (events before : List (Event Environment)) (results : List CaptureResult)
    (found : resultPrefix events = some (before, results)) :
    ∃ after, events = before ++ ⟨.processCaptureResult results, ()⟩ :: after := by
  induction events generalizing before with
  | nil => cases found
  | cons event rest ih =>
    unfold resultPrefix at found
    split at found
    next => cases found
    next same =>
      cases same
      cases found
      exact ⟨_, rfl⟩
    next same =>
      cases same
      obtain ⟨⟨early, late⟩, inner, shape⟩ := Option.map_eq_some_iff.mp found
      cases shape
      obtain ⟨after, split⟩ := ih early inner
      exact ⟨after, by rw [split]; rfl⟩

def rgbaSession : VirtualCameraSession :=
  { previewSession with
    haveSettings := true
    streams := fun id => if id = 0 then some { previewStream with format := kRGBA8888 } else none }

def failDup : (call : Call) → call.Reply
  | .dup _ => none
  | call => call.succeed

theorem replay_result (oracle : (call : Call) → call.Reply)
    (check : List (Event Environment) → List CaptureResult → Bool)
    (passes : (resultPrefix ((processSingleRequest (previewRequest none) 0 rgbaSession).replay
      oracle).1).any fun found => check found.1 found.2) :
    ∃ events outcome final before results after,
      (processSingleRequest (previewRequest none) 0 rgbaSession).Execution events (outcome, final) ∧
        events = before ++ ⟨.processCaptureResult results, ()⟩ :: after ∧
          check before results = true := by
  have execution := Program.replay_execution oracle
    (processSingleRequest (previewRequest none) 0 rgbaSession)
  generalize (processSingleRequest (previewRequest none) 0 rgbaSession).replay oracle = run at execution passes
  obtain ⟨events, outcome, final⟩ := run
  cases found : resultPrefix events with
  | none => simp [found] at passes
  | some made =>
    obtain ⟨before, results⟩ := made
    obtain ⟨after, split⟩ := resultPrefix_split events before results found
    exact ⟨events, outcome, final, before, results, after, execution, split, by simpa [found] using passes⟩

def torn (before : List (Event Environment)) (results : List CaptureResult) : Bool :=
  results.any fun result => match result.outputBuffers with
    | [buffer] => decide (buffer.status = .ok ∧ buffer.releaseFence.fds = []) &&
        !(GpuView.of before).written.contains 0
    | _ => false

theorem torn_incomplete (before : List (Event Environment)) (results : List CaptureResult)
    (found : torn before results = true) :
    ∃ result ∈ results, ¬ (GpuView.of before).AllComplete result.outputBuffers := by
  obtain ⟨result, member, check⟩ := List.any_eq_true.mp found
  refine ⟨result, member, fun complete => ?_⟩
  split at check
  next buffer same =>
    simp only [Bool.and_eq_true, decide_eq_true_eq, Bool.not_eq_true', List.contains_eq_mem,
      decide_eq_false_iff_not] at check
    obtain ⟨⟨status, bare⟩, unwritten⟩ := check
    rcases complete 0 buffer (by simp [same]) status with written | ⟨fd, carried, _⟩
    · exact unwritten written
    · simp [bare] at carried
  next => cases check

theorem okBuffers_complete_rgba :
    ∃ (before : List (Event Environment)) (results : List CaptureResult),
      (∃ result ∈ results, ∃ buffer ∈ result.outputBuffers, buffer.status = .ok) ∧
      ((∀ result ∈ results, (GpuView.of before).AllComplete result.outputBuffers) ↔
        FencesCopied before) := by
  obtain ⟨events, outcome, final, before, results, after, execution, split, okay⟩ :=
    replay_result Call.succeed
      (fun _ results => results.any fun result => result.outputBuffers.any fun buffer =>
        decide (buffer.status = .ok)) (by decide +kernel)
  refine ⟨before, results, by simpa using okay, ?_⟩
  exact okBuffers_complete_iff rgbaSession (previewRequest none) 0 events outcome final execution before
    after results split

theorem okBuffer_torn :
    ∃ events outcome final before results after,
      (processSingleRequest (previewRequest none) 0 rgbaSession).Execution events (outcome, final) ∧
        events = before ++ ⟨.processCaptureResult results, ()⟩ :: after ∧
          ∃ result ∈ results, ¬ (GpuView.of before).AllComplete result.outputBuffers := by
  obtain ⟨events, outcome, final, before, results, after, execution, split, found⟩ :=
    replay_result failDup torn (by decide +kernel)
  exact ⟨events, outcome, final, before, results, after, execution, split,
    torn_incomplete before results found⟩

end VirtualCameraSession

end VirtualCamera
