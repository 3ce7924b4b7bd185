import VirtualCamera.Core.FrameDurations
import VirtualCamera.Session.CallbackProtocol

set_option autoImplicit false

namespace VirtualCamera

open Descriptors Interaction Interaction.Process Runs

namespace VirtualCameraSession

variable (session : VirtualCameraSession)

-- A rate that was accepted for a range is the one the selected mode can run.
theorem accepted_rate (blob : MetadataBlob) (low high : Int)
    (present : blob.fpsRange = some [low, high]) (events : List (Event Environment))
    (final : VirtualCameraSession)
    (execution : (updateTargetFps (some blob) session).Execution events (true, final)) :
    ∃ mode, session.capabilities.select session.outputs low high = some mode ∧
      final.targetFps = min high mode.maxFps := by
  have rated : ∀ mode fps, session.requestedRate blob = some (mode, fps) →
      ∃ picked, session.capabilities.select session.outputs low high = some picked ∧
        fps = min high picked.maxFps := by
    intro mode fps rate
    rw [requestedRate, present] at rate
    obtain ⟨picked, selected, same⟩ := Option.map_eq_some_iff.mp rate
    cases same
    exact ⟨mode, selected, rfl⟩
  have accepted : (updateTargetFps (some blob)).wp callbackLog session [] fun accepted final _ =>
      accepted = true → ∃ mode, session.capabilities.select session.outputs low high = some mode ∧
        final.targetFps = min high mode.maxFps := by
    apply updateTargetFps_wp session (callbackLog_negotiating [])
    · exact nofun
    · exact nofun
    · rintro other mode fps same _ rate rfl _ _
      cases same
      exact rated mode _ rate
    · rintro other mode fps token same _ rate _ _
      cases same
      exact rated mode fps rate
  exact (accepted.execution execution).2 rfl

theorem negotiatedDuration_respects (blob : MetadataBlob) (low high : Int)
    (present : blob.fpsRange = some [low, high]) (positive : 0 < high) (events : List (Event Environment))
    (final : VirtualCameraSession)
    (execution : (updateTargetFps (some blob) session).Execution events (true, final)) :
    DurationsRespected session.capabilities session.outputs (frameDuration final.targetFps) ↔
      RatesDeclared session.capabilities session.outputs low high := by
  obtain ⟨mode, selected, rate⟩ := session.accepted_rate blob low high present events final execution
  rw [rate]
  exact durationsRespected_iff session.capabilities session.outputs low high mode positive selected

theorem updateTargetFps_succeeds (blob : MetadataBlob) (accepted : Bool)
    (ends : ((updateTargetFps (some blob) session).replay Call.succeed).2.1 = accepted) :
    ∃ events, (updateTargetFps (some blob) session).Execution events
      (accepted, ((updateTargetFps (some blob) session).replay Call.succeed).2.2) := by
  have execution := Program.replay_execution Call.succeed (updateTargetFps (some blob) session)
  subst ends
  exact ⟨_, execution⟩

theorem negotiatedDuration_respects_thirty :
    DurationsRespected previewSession.capabilities previewSession.outputs
        (frameDuration ((updateTargetFps (some (rangeBlob 30 30)) previewSession).replay
          Call.succeed).2.2.targetFps) ↔
      RatesDeclared previewSession.capabilities previewSession.outputs 30 30 := by
  obtain ⟨events, execution⟩ := previewSession.updateTargetFps_succeeds (rangeBlob 30 30) true (by decide)
  exact negotiatedDuration_respects previewSession (rangeBlob 30 30) 30 30 rfl (by decide) events _ execution

def downscaleCapabilities : ProducerCapabilities where
  registration := 1
  modes :=
    [{ id := 1, width := 640, height := 480, minFps := 15, maxFps := 30, formats := [0x23] },
      { id := 2, width := 1280, height := 960, minFps := 15, maxFps := 60, formats := [0x23]
        downscale := true }]

def downscaleSession : VirtualCameraSession :=
  [SessionOp.construct, .configureStreams [previewStream]].foldl SessionOp.succeed
    (initial 0 (some downscaleCapabilities) false 1 false)

theorem negotiatedDuration_short :
    downscaleCapabilities.valid = true ∧ (60, 60) ∈ downscaleCapabilities.fpsRanges ∧
      ∃ ops session events final,
        Run SessionOp.Performs (initial 0 (some downscaleCapabilities) false 1 false) ops session ∧
        (updateTargetFps (some (rangeBlob 60 60)) session).Execution events (true, final) ∧
        ¬ DurationsRespected session.capabilities session.outputs (frameDuration final.targetFps) := by
  obtain ⟨events, execution⟩ := downscaleSession.updateTargetFps_succeeds (rangeBlob 60 60) true (by decide)
  refine ⟨by decide, by decide, _, downscaleSession, events, _, SessionOp.run_succeed _ _, execution, ?_⟩
  have rate : ((updateTargetFps (some (rangeBlob 60 60)) downscaleSession).replay
      Call.succeed).2.2.targetFps = 60 := by decide
  have capabilities : downscaleSession.capabilities = downscaleCapabilities := rfl
  have outputs : downscaleSession.outputs = [previewStream.output] := rfl
  rw [rate, capabilities, outputs]
  intro respected
  obtain ⟨characteristics, built⟩ : ∃ characteristics,
      MetadataBuilder.buildCameraCharacteristics (some downscaleCapabilities) = some characteristics :=
    Option.isSome_iff_exists.mp (by decide)
  have entry := (minFrameDurations_iff downscaleCapabilities (by decide) previewStream.output
    (frameDuration 30) characteristics built).mpr ⟨by decide, by decide⟩
  have least := respected characteristics built previewStream.output (by simp) _ entry
  exact absurd least (by decide)

end VirtualCameraSession

end VirtualCamera
