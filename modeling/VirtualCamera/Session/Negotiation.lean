import VirtualCamera.Core.FpsRanges
import VirtualCamera.Session.Stages

set_option autoImplicit false

namespace VirtualCamera

open Descriptors Interaction Interaction.Process

def Call.negotiating : Call → Bool
  | .hal (.registrationCurrent ..) | .hal (.notifyStreamsConfigured ..) => true
  | call => call.steady

def Call.configuring : Call → Bool
  | .freeBuffer _ | .importBuffer _ => true
  | call => call.negotiating

theorem Call.configuring_of_negotiating (call : Call) (negotiating : call.negotiating = true) :
    call.configuring = true := by
  cases call <;> first | rfl | exact negotiating

theorem Call.configuring_of_caching (call : Call) (caching : call.caching = true) : call.configuring = true := by
  cases call <;> first | rfl | cases caching

-- A range entry whose upper bound is the "no range" marker of `select`.
def MetadataBlob.ZeroUpper (blob : MetadataBlob) : Prop :=
  blob.structureValid = true ∧ ∃ low, blob.fpsRange = some [low, 0]

def RangePositive (settings : CameraMetadata) : Prop :=
  ∀ blob, settings = some blob → ¬ blob.ZeroUpper

namespace VirtualCameraSession

variable {M : Type} {monitor : Monitor Environment M} {seen : M} (session : VirtualCameraSession)

theorem registrationCurrent_unheard (quiet : monitor.Ignores seen Call.negotiating) (hal : Bool) :
    Unheard monitor seen (registrationCurrent hal) := by
  refine unheard_bind unheard_get fun _ => unheard_ite (unheard_pure true) ?_
  exact unheard_ite (unheard_pure false) (unheard_ask quiet (.hal (.registrationCurrent ..)) rfl)

theorem updateTargetFps_wp (quiet : monitor.Ignores seen Call.negotiating) (settings : CameraMetadata)
    (post : Bool → VirtualCameraSession → M → Prop)
    (refused : post false session seen)
    (empty : settings = none → post true session seen)
    (same : ∀ blob mode fps, settings = some blob → blob.structureValid = true →
      session.requestedRate blob = some (mode, fps) → fps = session.targetFps →
      mode.id = session.sourceMode.id → post true (acceptSettings blob session) seen)
    (renegotiated : ∀ blob mode fps token, settings = some blob → blob.structureValid = true →
      session.requestedRate blob = some (mode, fps) → 0 < token →
      post true (acceptSettings blob (renegotiate mode fps token session)) seen) :
    (updateTargetFps settings).wp monitor session seen post := by
  simp only [updateTargetFps, wp_bind]
  refine unheard_ask quiet .stableHal rfl _ _ fun hal => ?_
  refine registrationCurrent_unheard quiet hal _ _ fun current => ?_
  cases current
  case false => exact refused
  case true =>
    simp only [Bool.not_true, Bool.false_eq_true, if_false]
    cases settings with
    | none => exact empty rfl
    | some blob =>
      simp only [wp_ite]
      refine ⟨fun _ => refused, fun valid => ?_⟩
      have structured : blob.structureValid = true := by simpa using valid
      simp only [wp_bind, wp_get]
      cases rate : session.requestedRate blob with
      | none => exact refused
      | some pair =>
        obtain ⟨mode, fps⟩ := pair
        simp only [wp_ite]
        refine ⟨fun _ => ⟨fun _ => refused, fun _ => ?_⟩, fun unchanged => ?_⟩
        · rw [wp_bind]
          refine unheard_ask quiet (.hal (.notifyStreamsConfigured ..)) rfl _ _ fun token => ?_
          rw [wp_ite]
          refine ⟨fun _ => refused, fun issued => ?_⟩
          exact renegotiated blob mode fps token rfl structured rate (not_le.mp issued)
        · simp only [Bool.or_eq_true, bne_iff_ne, ne_eq, not_or, not_not] at unchanged
          exact same blob mode fps rfl structured rate unchanged.1 unchanged.2

structure Configured (before : VirtualCameraSession) (requested : List Stream) (mode : ProducerMode)
    (after : VirtualCameraSession) : Prop where
  capabilities : after.capabilities = before.capabilities
  outputs : after.outputs = requested.map Stream.output
  sourceMode : after.sourceMode = mode
  targetFps : after.targetFps = clamp 30 mode.minFps mode.maxFps
  nextFrameNs : after.nextFrameNs = 0

theorem supported_selects (requested : List Stream) (caps : ProducerCapabilities)
    (supported : MetadataBuilder.isStreamCombinationSupported (requested.map Stream.desc) (some caps) =
      true) : ∃ mode, caps.selectAny (requested.map Stream.output) = some mode := by
  unfold MetadataBuilder.isStreamCombinationSupported at supported
  split at supported
  next => cases supported
  next =>
    rw [List.map_map] at supported
    exact Option.isSome_iff_exists.mp supported

theorem publishStreams_wp (quiet : monitor.Ignores seen Call.negotiating) (requested : List Stream)
    (post : CameraStatus × List HalStream → VirtualCameraSession → M → Prop)
    (next : ∀ out token, post out { storeStreams requested session with configurationToken := token } seen) :
    (publishStreams requested).wp monitor session seen post := by
  simp only [publishStreams, wp_bind, wp_modify, wp_get]
  rw [wp_ite]
  refine ⟨fun _ => next _ session.configurationToken, fun _ => ?_⟩
  rw [wp_bind]
  refine unheard_ask quiet .stableHal rfl _ _ fun hal => ?_
  cases hal
  case false => exact next _ session.configurationToken
  case true =>
    simp only [if_true, wp_bind, askHal]
    refine unheard_ask quiet (.hal (.notifyStreamsConfigured ..)) rfl _ _ fun token => ?_
    exact next _ token

theorem freeAll_unheard (caching : monitor.Ignores seen Call.caching) (cache : List (BufferKey × Handle)) :
    Unheard monitor seen (freeAll cache) := by
  induction cache with
  | nil => exact unheard_pure ()
  | cons entry rest ih => exact unheard_bind (unheard_ask caching (.freeBuffer entry.2) rfl) fun _ => ih

theorem configureStreams_wp (quiet : monitor.Ignores seen Call.negotiating)
    (caching : monitor.Ignores seen Call.caching)
    (requested : List Stream)
    (post : CameraStatus × List HalStream → VirtualCameraSession → M → Prop)
    (refused : ∀ status halStreams, status ≠ .ok → post (status, halStreams) session seen)
    (configured : ∀ mode out after, session.capabilities.selectAny (requested.map Stream.output) = some mode →
      Configured session requested mode after → post out after seen) :
    (configureStreams requested).wp monitor session seen post := by
  simp only [configureStreams, wp_bind]
  refine unheard_ask quiet .loadClosed rfl _ _ fun closed => ?_
  cases closed
  case true => exact refused _ _ (by simp)
  case false =>
    simp only [Bool.false_eq_true, if_false, wp_bind, wp_get]
    rw [wp_ite]
    refine ⟨fun _ => refused _ _ (by simp), fun _ => ?_⟩
    rw [wp_ite]
    refine ⟨fun _ => refused _ _ (by simp), fun supported => ?_⟩
    obtain ⟨mode, selected⟩ := supported_selects requested session.capabilities (by simpa using supported)
    simp only [wp_bind, clearStreams, wp_get, wp_modify]
    refine freeAll_unheard caching session.bufferCache _ _ fun _ => ?_
    rw [selected]
    simp only [wp_bind, wp_modify]
    have enforced : Unheard monitor seen enforcedHal :=
      unheard_bind unheard_get fun _ => unheard_ite (unheard_ask quiet .stableHal rfl) (unheard_pure true)
    refine enforced _ _ fun hal => ?_
    refine registrationCurrent_unheard quiet hal _ _ fun current => ?_
    cases current
    case false => exact configured mode _ _ selected ⟨rfl, rfl, rfl, rfl, rfl⟩
    case true =>
      simp only [if_true]
      apply publishStreams_wp _ quiet
      exact fun out token => configured mode out _ selected ⟨rfl, rfl, rfl, rfl, rfl⟩

end VirtualCameraSession

end VirtualCamera
