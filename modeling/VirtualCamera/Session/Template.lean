import VirtualCamera.Session.CallbackProtocol

set_option autoImplicit false

namespace VirtualCamera

open Descriptors Interaction Interaction.Process Runs

def refuses : Event Environment → Bool
  | ⟨.stableHal, available⟩ => !available
  | ⟨.hal (.registrationCurrent ..), current⟩ => !current
  | ⟨.hal (.notifyStreamsConfigured ..), token⟩ => decide (token ≤ 0)
  | _ => false

def halRefusal : Monitor Environment Bool where
  observe refused event := refused || refuses event

theorem halRefusal_follow (refused : Bool) (events : List (Event Environment)) :
    halRefusal.follow refused events = (refused || events.any refuses) := by
  induction events generalizing refused with
  | nil => simp
  | cons event events ih =>
    rw [Monitor.follow_cons, ih]
    simp [halRefusal, Bool.or_assoc]

namespace VirtualCameraSession

variable (session : VirtualCameraSession)

structure Streaming (before after : VirtualCameraSession) : Prop where
  capabilities : after.capabilities = before.capabilities
  outputs : after.outputs = before.outputs
  listed : after.sourceMode ∈ before.capabilities.modes

theorem Streaming.rate {before after : VirtualCameraSession} (streaming : Streaming before after)
    (blob : MetadataBlob) (mode : ProducerMode) (fps : Int)
    (rate : after.requestedRate blob = some (mode, fps)) : mode ∈ before.capabilities.modes := by
  unfold requestedRate at rate
  split at rate
  next =>
    cases rate
    exact streaming.listed
  next low high _ =>
    obtain ⟨picked, selected, same⟩ := Option.map_eq_some_iff.mp rate
    cases same
    rw [streaming.capabilities] at selected
    exact ((before.capabilities.select_eq_some_iff _ low high mode).mp selected).2.2.declared
  next => cases rate

theorem Streaming.kept (before : VirtualCameraSession) : Kept (Streaming before) fun _ => True where
  core held same :=
    { capabilities := (congrArg (·.capabilities) same).trans held.capabilities
      outputs := (congrArg (·.outputs) same).trans held.outputs
      listed := by
        have mode := congrArg (·.sourceMode) same
        exact (show _ = _ from mode) ▸ held.listed }
  update state settings log _ held := by
    apply updateTargetFps_wp state (callbackLog_negotiating log)
    · exact ⟨rfl, held⟩
    · exact fun _ => ⟨rfl, held⟩
    · exact fun _ _ _ _ _ _ _ _ => ⟨rfl, held.capabilities, held.outputs, held.listed⟩
    · exact fun blob mode fps _ _ _ rate _ =>
        ⟨rfl, held.capabilities, held.outputs, held.rate blob mode fps rate⟩

def SessionOp.Reconfigures : SessionOp → Prop
  | .configureStreams _ => True
  | _ => False

theorem perform_streaming (before : VirtualCameraSession) (op : SessionOp)
    (other : ¬ SessionOp.Reconfigures op) (held : Streaming before session) :
    op.perform.wp callbackLog session [] fun _ final _ => Streaming before final := by
  refine perform_keeps session (Streaming.kept before) op (fun _ _ => trivial) held (fun identity => ?_) ?_
  · exact ⟨held.capabilities, held.outputs, held.listed⟩
  · rintro requested _ _ rfl
    exact absurd trivial other

theorem history_streaming (before : VirtualCameraSession) (ops : List SessionOp)
    (others : ∀ op ∈ ops, ¬ SessionOp.Reconfigures op)
    (listed : before.sourceMode ∈ before.capabilities.modes)
    (history : Run SessionOp.Performs before ops session) : Streaming before session := by
  refine history.always (Streaming before) (fun op => ¬ SessionOp.Reconfigures op) ⟨rfl, rfl, listed⟩
    others ?_
  rintro middle op after other held ⟨events, execution⟩
  exact ((perform_streaming middle before op other held).execution execution).2

-- The template asks for the default range, which selects as if there were none.
theorem template_rate (valid : session.capabilities.valid = true) (mode : ProducerMode)
    (selected : session.capabilities.selectAny session.outputs = some mode) :
    ∃ blob, session.constructDefaultRequestSettings = some blob ∧ blob.structureValid = true ∧
      ∃ fps, session.requestedRate blob = some (mode, fps) := by
  refine ⟨_, rfl, rfl, min session.capabilities.defaultRange.2 mode.maxFps, ?_⟩
  have same := session.capabilities.select_defaultRange valid session.outputs
  change (session.capabilities.select session.outputs session.capabilities.defaultRange.1
    session.capabilities.defaultRange.2).map _ = _
  rw [same, selected]
  rfl

theorem registrationCurrent_refusal (hal : Bool) (post : Bool → VirtualCameraSession → Bool → Prop)
    (current : post true session (!hal)) (stale : post false session true) :
    (registrationCurrent hal).wp halRefusal session (!hal) post := by
  rw [registrationCurrent, wp_bind, wp_get, wp_ite]
  refine ⟨fun _ => current, fun _ => ?_⟩
  cases hal
  case false => exact stale
  case true =>
    simp only [Bool.not_true, Bool.false_eq_true, if_false, askHal]
    rw [wp_ask]
    refine fun known => ⟨trivial, ?_⟩
    cases known
    case false => exact stale
    case true => exact current

theorem template_update (valid : session.capabilities.valid = true) (mode : ProducerMode)
    (selected : session.capabilities.selectAny session.outputs = some mode)
    (listed : session.sourceMode ∈ session.capabilities.modes) :
    (updateTargetFps session.constructDefaultRequestSettings).wp halRefusal session false
      fun accepted final refused =>
        (accepted = true → final.sourceMode = mode) ∧
          (accepted = false → final = session ∧ refused = true) := by
  obtain ⟨blob, settings, structured, fps, rate⟩ := session.template_rate valid mode selected
  have declared := ((session.capabilities.select_eq_some_iff _ 0 0 mode).mp selected).2.2.declared
  have formed := session.capabilities.wellFormed valid
  rw [settings, updateTargetFps, wp_bind, wp_ask]
  refine fun hal => ⟨trivial, ?_⟩
  change wp halRefusal _ session (!hal) _
  rw [wp_bind]
  apply registrationCurrent_refusal
  · simp only [Bool.not_true, Bool.false_eq_true, if_false, structured, wp_bind, wp_get, rate]
    rw [wp_ite]
    constructor
    · intro _
      cases hal
      case false => exact ⟨by simp, fun _ => ⟨rfl, rfl⟩⟩
      case true =>
        simp only [Bool.not_true, Bool.false_eq_true, if_false, wp_bind, askHal]
        rw [wp_ask]
        refine fun token => ⟨trivial, ?_⟩
        rw [wp_ite]
        refine ⟨fun unissued => ⟨by simp, fun _ => ⟨rfl, ?_⟩⟩, fun _ => ⟨fun _ => rfl, by simp⟩⟩
        exact decide_eq_true unissued
    · intro unchanged
      simp only [Bool.or_eq_true, bne_iff_ne, ne_eq, not_or, not_not] at unchanged
      refine ⟨fun _ => ?_, by simp⟩
      exact session.capabilities.mode_eq_of_id formed _ _ listed declared unchanged.2.symm
  · exact ⟨by simp, fun _ => ⟨rfl, rfl⟩⟩

structure TemplateAccepted (configured session : VirtualCameraSession) : Prop where
  kept : ∀ events final,
    (updateTargetFps session.constructDefaultRequestSettings session).Execution events (true, final) →
      final.sourceMode = configured.sourceMode
  refused : ∀ events final,
    (updateTargetFps session.constructDefaultRequestSettings session).Execution events (false, final) →
      final = session ∧ ∃ event ∈ events, refuses event = true

theorem configured_template (before configured : VirtualCameraSession) (requested : List Stream)
    (valid : before.capabilities.valid = true) (events : List (Event Environment))
    (halStreams : List HalStream)
    (execution : (configureStreams requested before).Execution events ((.ok, halStreams), configured))
    (ops : List SessionOp) (others : ∀ op ∈ ops, ¬ SessionOp.Reconfigures op)
    (history : Run SessionOp.Performs configured ops session) : TemplateAccepted configured session := by
  have chosen : (configureStreams requested).wp callbackLog before [] fun out final _ =>
      out.1 = .ok → final.capabilities = before.capabilities ∧
        before.capabilities.selectAny final.outputs = some final.sourceMode := by
    apply configureStreams_wp before (callbackLog_negotiating []) (callbackLog_caching [])
    · exact fun _ _ failed ok => absurd ok failed
    · intro mode out after selected shape _
      rw [shape.outputs, shape.sourceMode]
      exact ⟨shape.capabilities, selected⟩
  obtain ⟨capabilities, selected⟩ := (chosen.execution execution).2 rfl
  rw [← capabilities] at selected valid
  have listed := ((configured.capabilities.select_eq_some_iff _ 0 0 _).mp selected).2.2.declared
  have streaming := history_streaming session configured ops others listed history
  have update := session.template_update (by rw [streaming.capabilities]; exact valid)
    configured.sourceMode (by rw [streaming.capabilities, streaming.outputs]; exact selected)
    (by rw [streaming.capabilities]; exact streaming.listed)
  refine ⟨fun later final applied => ((update.execution applied).2).1 rfl, fun later final applied => ?_⟩
  obtain ⟨same, refused⟩ := ((update.execution applied).2).2 rfl
  rw [halRefusal_follow] at refused
  exact ⟨same, List.any_eq_true.mp (by simpa using refused)⟩

theorem fpsRanges_usable (caps : ProducerCapabilities) (valid : caps.valid = true) :
    (∀ range ∈ caps.fpsRanges, (1 ≤ range.1 ∧ range.1 ≤ range.2 ∧ range.2 ≤ 120) ∧
        ∃ output, caps.advertised output = true ∧ (caps.select [output] range.1 range.2).isSome) ∧
      caps.defaultRange ∈ caps.fpsRanges ∧
      (∀ outputs mode, caps.selectAny outputs = some mode →
        caps.select outputs caps.defaultRange.1 caps.defaultRange.2 = some mode) ∧
      ∀ before configured session requested events halStreams ops, before.capabilities = caps →
        (configureStreams requested before).Execution events ((.ok, halStreams), configured) →
        (∀ op ∈ ops, ¬ SessionOp.Reconfigures op) →
        Run SessionOp.Performs configured ops session → TemplateAccepted configured session := by
  have formed := caps.wellFormed valid
  refine ⟨fun range listed => ⟨caps.fpsRanges_bounds formed range listed,
    caps.fpsRanges_accepted valid range listed⟩, caps.defaultRange_listed, ?_, ?_⟩
  · intro outputs mode selected
    rw [caps.select_defaultRange valid, selected]
  · rintro before configured session requested events halStreams ops rfl execution others history
    exact configured_template session before configured requested valid events halStreams execution ops
      others history

theorem fpsRanges_usable_diagnostic :
    ProducerCapabilities.diagnostic.defaultRange ∈ ProducerCapabilities.diagnostic.fpsRanges :=
  (fpsRanges_usable ProducerCapabilities.diagnostic ProducerCapabilities.diagnostic_valid).2.1

end VirtualCameraSession

end VirtualCamera
