import VirtualCamera.Session.CallbackProtocol

set_option autoImplicit false

namespace VirtualCamera

open Descriptors Interaction Interaction.Process Runs

namespace VirtualCameraSession

structure RateUsable (session : VirtualCameraSession) : Prop where
  positive : 1 ≤ session.targetFps
  within : session.sourceMode ∈ session.capabilities.modes →
    session.sourceMode.minFps ≤ session.targetFps ∧ session.targetFps ≤ session.sourceMode.maxFps

structure RateInvariant (session : VirtualCameraSession) : Prop where
  valid : session.capabilities.valid = true
  usable : session.RateUsable

theorem RateInvariant.of_core {before after : VirtualCameraSession} (invariant : before.RateInvariant)
    (kept : after.core = before.core) : after.RateInvariant := by
  have capabilities : after.capabilities = before.capabilities := congrArg (·.capabilities) kept
  have mode : after.sourceMode = before.sourceMode := congrArg (·.sourceMode) kept
  have fps : after.targetFps = before.targetFps := congrArg (·.targetFps) kept
  refine ⟨by rw [capabilities]; exact invariant.valid, ?_, ?_⟩
  · rw [fps]
    exact invariant.usable.positive
  · rw [capabilities, mode, fps]
    exact invariant.usable.within

theorem selected_mode (caps : ProducerCapabilities) (outputs : List Output) (low high : Int)
    (mode : ProducerMode) (selected : caps.select outputs low high = some mode) :
    mode ∈ caps.modes ∧ mode.WellFormed ∧
      (high = 0 ∨ (1 ≤ low ∧ low ≤ high ∧ mode.minFps ≤ high ∧ low ≤ mode.maxFps)) := by
  obtain ⟨limits, _, best⟩ := (caps.select_eq_some_iff outputs low high mode).mp selected
  exact ⟨best.declared, (caps.wellFormed limits.valid).mode mode best.declared,
    (mode.inRange_iff low high).mp best.range⟩

-- The rate a settings blob asks for, as long as its range does not end at the marker.
theorem requestedRate_usable (session : VirtualCameraSession) (invariant : session.RateInvariant)
    (blob : MetadataBlob) (structured : blob.structureValid = true) (positive : ¬ blob.ZeroUpper)
    (mode : ProducerMode) (fps : Int) (rate : session.requestedRate blob = some (mode, fps)) :
    1 ≤ fps ∧ (mode ∈ session.capabilities.modes → mode.minFps ≤ fps ∧ fps ≤ mode.maxFps) ∧
      ∀ low high, blob.fpsRange = some [low, high] → fps ≤ high := by
  unfold requestedRate at rate
  split at rate
  next absent =>
    cases rate
    exact ⟨invariant.usable.positive, invariant.usable.within, fun low high present => by
      rw [absent] at present; cases present⟩
  next low high present =>
    obtain ⟨picked, selected, same⟩ := Option.map_eq_some_iff.mp rate
    cases same
    obtain ⟨_, formed, marker | ⟨_, _, above, _⟩⟩ := selected_mode _ _ low high mode selected
    · exact absurd ⟨structured, low, by rw [present, marker]⟩ positive
    · have low' := formed.fps_pos
      have ordered := formed.fps_ordered
      refine ⟨by omega, fun _ => by omega, ?_⟩
      intro low' high' again
      rw [present] at again
      cases again
      exact min_le_left high _
  next => cases rate

theorem Configured.rateInvariant {before after : VirtualCameraSession} {requested : List Stream}
    {mode : ProducerMode} (configured : Configured before requested mode after)
    (invariant : before.RateInvariant)
    (selected : before.capabilities.selectAny (requested.map Stream.output) = some mode) :
    after.RateInvariant := by
  obtain ⟨_, formed, _⟩ := selected_mode _ _ 0 0 mode selected
  have within := clamp_within 30 mode.minFps mode.maxFps formed.fps_ordered
  have positive := formed.fps_pos
  refine ⟨by rw [configured.capabilities]; exact invariant.valid, ?_, fun _ => ?_⟩
  · rw [configured.targetFps]
    omega
  · rw [configured.sourceMode, configured.targetFps]
    exact within

variable {M : Type} {monitor : Monitor Environment M} {seen : M} (session : VirtualCameraSession)

theorem updateTargetFps_usable (quiet : monitor.Ignores seen Call.negotiating)
    (settings : CameraMetadata) (positive : RangePositive settings) (invariant : session.RateInvariant) :
    (updateTargetFps settings).wp monitor session seen fun accepted final later =>
      later = seen ∧ final.RateInvariant ∧ (accepted = true → ∀ blob low high,
        settings = some blob → blob.fpsRange = some [low, high] → final.targetFps ≤ high) := by
  apply updateTargetFps_wp session quiet
  · exact ⟨rfl, invariant, nofun⟩
  · rintro rfl
    exact ⟨rfl, invariant, fun _ blob low high absent => by cases absent⟩
  · rintro blob mode fps rfl structured rate rfl _
    obtain ⟨_, _, bounded⟩ := session.requestedRate_usable invariant blob structured (positive blob rfl)
      mode _ rate
    refine ⟨rfl, ⟨invariant.valid, invariant.usable.positive, invariant.usable.within⟩, ?_⟩
    rintro _ other low high same present
    cases same
    exact bounded low high present
  · rintro blob mode fps token rfl structured rate _
    obtain ⟨low, within, bounded⟩ := session.requestedRate_usable invariant blob structured
      (positive blob rfl) mode fps rate
    refine ⟨rfl, ⟨invariant.valid, low, within⟩, ?_⟩
    rintro _ other low high same present
    cases same
    exact bounded low high present

theorem RateInvariant.kept : Kept RateInvariant fun settings => RangePositive settings where
  core invariant same := invariant.of_core same
  update state settings log positive invariant :=
    (updateTargetFps_usable state (callbackLog_negotiating log) settings positive invariant).mono
      fun _ _ _ updated => ⟨updated.1, updated.2.1⟩

theorem processCaptureRequest_usable (requests : List CaptureRequest) (cachesToRemove : List BufferCache)
    (positive : ∀ request ∈ requests, RangePositive request.settings) (invariant : session.RateInvariant) :
    (processCaptureRequest requests cachesToRemove).wp callbackLog session [] fun out final _ =>
      final.RateInvariant ∧ out.1 ≠ .trap := by
  refine (processCaptureRequest_keeps session [] RateInvariant.kept requests cachesToRemove positive
    invariant).mono ?_
  rintro out final _ ⟨held, trapped⟩
  refine ⟨held, fun stopped => ?_⟩
  obtain ⟨state, usable, zero⟩ := trapped stopped
  have rated := usable.usable.positive
  omega

theorem perform_usable (op : SessionOp) (positive : ∀ settings ∈ op.settings, RangePositive settings)
    (invariant : session.RateInvariant) :
    op.perform.wp callbackLog session [] fun _ final _ => final.RateInvariant := by
  refine perform_keeps session RateInvariant.kept op positive invariant (fun identity => ?_) ?_
  · exact ⟨invariant.valid, invariant.usable.positive, invariant.usable.within⟩
  · exact fun _ mode after _ selected configured => configured.rateInvariant invariant selected

theorem initial_rateInvariant (slot : Int) (capabilities : Option ProducerCapabilities)
    (valid : ∀ caps, capabilities = some caps → caps.valid = true) (forceCpuYuv : Bool)
    (deadlineFrames : Int) (clearOutput : Bool) :
    (initial slot capabilities forceCpuYuv deadlineFrames clearOutput).RateInvariant := by
  have descriptor : (initial slot capabilities forceCpuYuv deadlineFrames clearOutput).capabilities.valid =
      true := by
    cases capabilities with
    | none => exact ProducerCapabilities.diagnostic_valid
    | some caps => exact valid caps rfl
  have started : (1 : Int) ≤ 30 := by omega
  refine ⟨descriptor, started, fun declared => ?_⟩
  -- No declared mode has the id of the mode a session starts with.
  have identified := ((ProducerCapabilities.wellFormed _ descriptor).mode _ declared).id_pos
  exact absurd identified (lt_irrefl 0)

theorem history_rateInvariant {before : VirtualCameraSession} (invariant : before.RateInvariant)
    (ops : List SessionOp) (positive : ∀ op ∈ ops, ∀ settings ∈ op.settings, RangePositive settings)
    (history : Run SessionOp.Performs before ops session) : session.RateInvariant := by
  refine history.always RateInvariant (fun op => ∀ settings ∈ op.settings, RangePositive settings)
    invariant positive ?_
  rintro middle op after allowed held ⟨events, execution⟩
  exact ((perform_usable middle op allowed held).execution execution).2

theorem targetFps_usable (slot : Int) (capabilities : Option ProducerCapabilities)
    (valid : ∀ caps, capabilities = some caps → caps.valid = true) (forceCpuYuv : Bool)
    (deadlineFrames : Int) (clearOutput : Bool) (ops : List SessionOp)
    (positive : ∀ op ∈ ops, ∀ settings ∈ op.settings, RangePositive settings)
    (history : Run SessionOp.Performs
      (initial slot capabilities forceCpuYuv deadlineFrames clearOutput) ops session) :
    session.RateUsable ∧
      (∀ settings events final, RangePositive settings →
        (updateTargetFps settings session).Execution events (true, final) →
        ∀ blob low high, settings = some blob → blob.fpsRange = some [low, high] →
          final.targetFps ≤ high) ∧
      ∀ requests cachesToRemove events outcome processed final,
        (∀ request ∈ requests, RangePositive request.settings) →
        (processCaptureRequest requests cachesToRemove session).Execution events
          ((outcome, processed), final) → outcome ≠ .trap := by
  have initially := initial_rateInvariant slot capabilities valid forceCpuYuv deadlineFrames clearOutput
  have invariant := history_rateInvariant session initially ops positive history
  refine ⟨invariant.usable, ?_, ?_⟩
  · intro settings events final allowed execution
    have updated := (updateTargetFps_usable session (callbackLog_negotiating []) settings allowed
      invariant).execution execution
    exact updated.2.2.2 rfl
  · intro requests cachesToRemove events outcome processed final allowed execution
    exact ((processCaptureRequest_usable session requests cachesToRemove allowed invariant).execution
      execution).2.2

theorem rangeSettings_positive (low high : Int) (upper : high ≠ 0) :
    RangePositive (rangeSettings low high) := by
  rintro blob carried ⟨_, lower, present⟩
  obtain rfl := Option.some.inj carried
  have same : some [low, high] = some [lower, 0] := present
  simp only [Option.some.injEq, List.cons.injEq] at same
  exact upper same.2.1

theorem targetFps_usable_thirty :
    ([.construct, .configureStreams [previewStream], .updateTargetFps (rangeSettings 30 30)].foldl
      SessionOp.succeed (initial 0 none false 1 false)).RateUsable := by
  refine (targetFps_usable _ 0 none (by simp) false 1 false
    [.construct, .configureStreams [previewStream], .updateTargetFps (rangeSettings 30 30)] ?_
    (SessionOp.run_succeed _ _)).1
  simp only [List.mem_cons, List.not_mem_nil, or_false, forall_eq_or_imp, forall_eq, SessionOp.settings,
    IsEmpty.forall_iff, implies_true, true_and]
  exact rangeSettings_positive 30 30 (by omega)

theorem replay_outcome (requests : List CaptureRequest) (cachesToRemove : List BufferCache)
    (outcome : Outcome)
    (ends : ((processCaptureRequest requests cachesToRemove session).replay Call.succeed).2.1.1 = outcome) :
    ∃ events processed final, (processCaptureRequest requests cachesToRemove session).Execution events
      ((outcome, processed), final) := by
  have execution := Program.replay_execution Call.succeed
    (processCaptureRequest requests cachesToRemove session)
  subst ends
  exact ⟨_, _, _, execution⟩

theorem targetFps_zero :
    ∃ ops session, Run SessionOp.Performs (initial 0 none false 1 false) ops session ∧
      session.sourceMode ∈ session.capabilities.modes ∧ session.targetFps = 0 ∧
      ∃ events processed final,
        (processCaptureRequest [previewRequest none] [] session).Execution events
          ((.trap, processed), final) :=
  ⟨[.construct, .configureStreams [previewStream], .updateTargetFps (rangeSettings 0 0)], _,
    SessionOp.run_succeed _ _, by decide, by decide, replay_outcome _ _ _ _ (by decide)⟩

end VirtualCameraSession

end VirtualCamera
