import VirtualCamera.Core.FrameDurations
import VirtualCamera.Session.TargetRate

set_option autoImplicit false

namespace VirtualCamera

open Descriptors Interaction Interaction.Process Runs

theorem frameDuration_of_dvd (fps : Int) (positive : 1 ≤ fps) (divides : fps ∣ nanosPerSecond) :
    frameDuration fps = nanosPerSecond / fps := by
  obtain ⟨duration, exactly⟩ := divides
  unfold frameDuration
  rw [exactly, add_sub_assoc, Int.add_comm, Int.add_mul_ediv_left _ _ (by omega),
    Int.mul_ediv_cancel_left _ (by omega), Int.ediv_eq_zero_of_lt (by omega) (by omega), zero_add]

-- The quotient rounded down and the quotient rounded up only agree when nothing is rounded.
theorem frameDuration_le_floor_iff (fps : Int) (positive : 1 ≤ fps) :
    frameDuration fps ≤ nanosPerSecond / fps ↔ fps ∣ nanosPerSecond := by
  constructor
  · intro below
    have above := (frameDuration_bounds fps positive).1
    have product : fps * (nanosPerSecond / fps) ≤ nanosPerSecond := Int.mul_ediv_self_le (by omega)
    have scaled : fps * frameDuration fps ≤ fps * (nanosPerSecond / fps) :=
      mul_le_mul_of_nonneg_left below (by omega)
    exact ⟨nanosPerSecond / fps, by omega⟩
  · exact fun divides => (frameDuration_of_dvd fps positive divides).le

namespace ProducerCapabilities

theorem globalLow_attained (caps : ProducerCapabilities) (formed : caps.WellFormed) :
    ∃ mode ∈ caps.modes, mode.minFps = caps.globalLow := by
  by_contra missing
  push Not at missing
  have bounds := caps.globalLow_bounds
  have above : caps.globalLow + 1 ≤ caps.globalLow := by
    refine (Selection.le_foldl_min_iff ProducerMode.minFps caps.modes 120 _).mpr ⟨?_, fun mode declared => ?_⟩
    · obtain ⟨mode, rest, cons⟩ := List.exists_cons_of_ne_nil formed.modes_nonempty
      have declared : mode ∈ caps.modes := by rw [cons]; exact List.mem_cons_self
      have slowest := bounds.2 mode declared
      have differs := missing mode declared
      have shape := formed.mode mode declared
      have ordered := shape.fps_ordered
      have bounded := shape.fps_bounded
      omega
    · have slowest := bounds.2 mode declared
      have differs := missing mode declared
      omega
  omega

theorem globalLow_pos (caps : ProducerCapabilities) (formed : caps.WellFormed) : 1 ≤ caps.globalLow := by
  obtain ⟨mode, declared, slowest⟩ := caps.globalLow_attained formed
  have positive := (formed.mode mode declared).fps_pos
  omega

end ProducerCapabilities

theorem maxFrameDuration_eq (caps : ProducerCapabilities) (valid : caps.valid = true)
    (characteristics : CameraCharacteristics)
    (built : MetadataBuilder.buildCameraCharacteristics (some caps) = some characteristics) :
    characteristics.maxFrameDuration = nanosPerSecond / caps.globalLow := by
  simp only [MetadataBuilder.buildCameraCharacteristics, Option.getD_some, valid, Bool.not_true,
    Bool.false_eq_true, if_false, Option.some.injEq] at built
  rw [← built]
  rfl

structure MaxFrameDurationRespected (capabilities : Option ProducerCapabilities)
    (characteristics : CameraCharacteristics) : Prop where
  advertised : ∀ entry ∈ characteristics.minFrameDurations, entry.2 ≤ characteristics.maxFrameDuration
  paced : ∀ slot forceCpuYuv deadlineFrames clearOutput ops session,
    Run SessionOp.Performs
      (VirtualCameraSession.initial slot capabilities forceCpuYuv deadlineFrames clearOutput) ops session →
    session.sourceMode ∈ session.capabilities.modes → 1 ≤ session.targetFps →
      frameDuration session.targetFps ≤ characteristics.maxFrameDuration

namespace VirtualCameraSession

structure RateWithin (caps : ProducerCapabilities) (session : VirtualCameraSession) : Prop where
  capabilities : session.capabilities = caps
  within : session.sourceMode ∈ caps.modes → 1 ≤ session.targetFps →
    session.sourceMode.minFps ≤ session.targetFps ∧ session.targetFps ≤ session.sourceMode.maxFps

variable {caps : ProducerCapabilities} (session : VirtualCameraSession)

theorem RateWithin.requested {session : VirtualCameraSession} (held : session.RateWithin caps) (blob : MetadataBlob)
    (mode : ProducerMode) (fps : Int) (rate : session.requestedRate blob = some (mode, fps))
    (declared : mode ∈ caps.modes) (positive : 1 ≤ fps) : mode.minFps ≤ fps ∧ fps ≤ mode.maxFps := by
  unfold requestedRate at rate
  split at rate
  next =>
    cases rate
    exact held.within declared positive
  next low high _ =>
    obtain ⟨picked, selected, same⟩ := Option.map_eq_some_iff.mp rate
    cases same
    obtain ⟨_, formed, marker | ⟨_, _, above, _⟩⟩ := selected_mode _ _ low high mode selected
    · omega
    · have ordered := formed.fps_ordered
      omega
  next => cases rate

theorem RateWithin.kept (caps : ProducerCapabilities) : Kept (RateWithin caps) fun _ => True where
  core held same := by
    have capabilities := congrArg (·.capabilities) same
    have mode := congrArg (·.sourceMode) same
    have fps := congrArg (·.targetFps) same
    simp only [core] at capabilities mode fps
    refine ⟨capabilities.trans held.capabilities, ?_⟩
    rw [mode, fps]
    exact held.within
  update state settings log _ held := by
    apply updateTargetFps_wp state (callbackLog_negotiating log)
    · exact ⟨rfl, held⟩
    · exact fun _ => ⟨rfl, held⟩
    · exact fun _ _ _ _ _ _ _ _ => ⟨rfl, held.capabilities, held.within⟩
    · exact fun blob mode fps _ _ _ rate _ => ⟨rfl, held.capabilities, held.requested blob mode fps rate⟩

theorem history_rateWithin {before : VirtualCameraSession} (held : before.RateWithin caps)
    (ops : List SessionOp) (history : Run SessionOp.Performs before ops session) : session.RateWithin caps := by
  refine history.always (RateWithin caps) (fun _ => True) held (fun _ _ => trivial) ?_
  rintro middle op after _ held ⟨events, execution⟩
  refine ((perform_keeps middle (RateWithin.kept caps) op (fun _ _ => trivial) held (fun _ => ?_) ?_).execution
    execution).2
  · exact ⟨held.capabilities, held.within⟩
  · intro requested mode final _ selected configured
    refine ⟨configured.capabilities.trans held.capabilities, fun _ _ => ?_⟩
    obtain ⟨_, formed, _⟩ := selected_mode _ _ 0 0 mode selected
    rw [configured.sourceMode, configured.targetFps]
    exact clamp_within 30 mode.minFps mode.maxFps formed.fps_ordered

theorem initial_rateWithin (slot : Int) (capabilities : Option ProducerCapabilities)
    (valid : (capabilities.getD .diagnostic).valid = true) (forceCpuYuv : Bool) (deadlineFrames : Int)
    (clearOutput : Bool) :
    (initial slot capabilities forceCpuYuv deadlineFrames clearOutput).RateWithin
      (capabilities.getD .diagnostic) := by
  refine ⟨rfl, fun declared _ => ?_⟩
  have identified := ((ProducerCapabilities.wellFormed _ valid).mode _ declared).id_pos
  exact absurd identified (lt_irrefl 0)

def slowStream (mode : ProducerMode) : Stream :=
  { id := 0, width := mode.width, height := mode.height, format := mode.formats.headD 0 }

theorem slowStream_offered (valid : caps.valid = true) (mode : ProducerMode) (declared : mode ∈ caps.modes) :
    mode.declares (slowStream mode).output = true := by
  obtain ⟨format, rest, cons⟩ :=
    List.exists_cons_of_ne_nil ((caps.wellFormed valid).mode mode declared).formats_nonempty
  exact (mode.declares_iff _).mpr ⟨rfl, rfl, by simp [Stream.output, slowStream, cons]⟩

theorem slowStream_selects (valid : caps.valid = true) (mode : ProducerMode) (declared : mode ∈ caps.modes)
    (range : Int × Int) (listed : range.2 = 0 ∨ range ∈ caps.fpsRanges)
    (inside : mode.inRange range.1 range.2 = true) :
    (caps.select [(slowStream mode).output] range.1 range.2).isSome := by
  have offered := slowStream_offered valid mode declared
  have advertised : caps.advertised (slowStream mode).output = true :=
    (caps.advertised_iff _).mpr ⟨mode, declared, offered⟩
  refine (caps.select_isSome_iff _ _ _).mpr ⟨caps.single_withinLimits valid _ advertised, listed, mode, declared, ?_⟩
  exact (serves_iff _ _ _ _).mpr ⟨inside, by simpa using mode.fits_of_declares _ offered⟩

def slowOps (mode : ProducerMode) : List SessionOp :=
  [.construct, .configureStreams [slowStream mode], .updateTargetFps (rangeSettings mode.minFps mode.minFps)]

variable {session}

theorem outcome_ask (call : Call) : outcome Call.succeed (ask call) session = (call.succeed, session) := rfl

theorem outcome_askHal (call : HalCall) : outcome Call.succeed (askHal call) session = (call.succeed, session) := rfl

@[simp] theorem outcome_freeAll (cache : List (BufferKey × Handle)) :
    outcome Call.succeed (freeAll cache) session = ((), session) := by
  induction cache with
  | nil => rfl
  | cons entry rest ih => simp [freeAll, outcome_ask (.freeBuffer _), ih]

@[simp] theorem outcome_registrationCurrent :
    outcome Call.succeed (registrationCurrent true) session = (true, session) := by
  cases enforced : session.enforceCapabilities with
  | false => simp [registrationCurrent, enforced]
  | true => simp [registrationCurrent, enforced, outcome_askHal (.registrationCurrent ..), HalCall.succeed]

@[simp] theorem outcome_enforcedHal : outcome Call.succeed enforcedHal session = (true, session) := by
  cases enforced : session.enforceCapabilities with
  | false => simp [enforcedHal, enforced]
  | true => simp [enforcedHal, enforced, outcome_ask .stableHal, Call.succeed]

theorem succeed_configureStreams (requested : List Stream) :
    SessionOp.succeed session (.configureStreams requested) =
      (outcome Call.succeed (configureStreams requested) session).2 := by
  change (outcome Call.succeed (configureStreams requested >>= fun _ => pure ()) session).2 = _
  rw [outcome_bind, outcome_pure]

theorem succeed_updateTargetFps (settings : CameraMetadata) :
    SessionOp.succeed session (.updateTargetFps settings) =
      (outcome Call.succeed (updateTargetFps settings) session).2 := by
  change (outcome Call.succeed (updateTargetFps settings >>= fun _ => pure ()) session).2 = _
  rw [outcome_bind, outcome_pure]

theorem configureStreams_succeeds (requested : Stream) (identified : 0 ≤ requested.id)
    (plain : requested.input = false ∧ requested.useCase = 0 ∧ requested.rotation = 0) (mode : ProducerMode)
    (selected : session.capabilities.selectAny [requested.output] = some mode) :
    let after := SessionOp.succeed session (.configureStreams [requested])
    after.capabilities = session.capabilities ∧ after.outputs = [requested.output] ∧ after.sourceMode = mode := by
  obtain ⟨output, useCase, rotation⟩ := plain
  have supported : MetadataBuilder.isStreamCombinationSupported [requested.desc] (some session.capabilities) = true := by
    have found := Option.isSome_of_eq_some selected
    simpa [MetadataBuilder.isStreamCombinationSupported, Stream.desc, Stream.output, output, useCase, rotation] using
      found
  have configured : outcome Call.succeed (configureStreams [requested]) session =
      outcome Call.succeed (publishStreams [requested]) (selectSource mode { session with
        streams := fun _ => none, haveSettings := false, startupWaitPending := true, bufferCache := []
        outputs := [requested.output] }) := by
    simp [configureStreams, clearStreams, outcome_ask .loadClosed, Call.succeed, identified.not_gt, supported,
      selected]
  rw [succeed_configureStreams]
  simp [configured, publishStreams, outcome_ask .stableHal, outcome_askHal (.notifyStreamsConfigured ..),
    Call.succeed,
    storeStreams, selectSource]

theorem updateTargetFps_selects (low high : Int) (mode : ProducerMode)
    (selected : session.capabilities.select session.outputs low high = some mode) :
    let after := SessionOp.succeed session (.updateTargetFps (rangeSettings low high))
    after.capabilities = session.capabilities ∧ after.targetFps = min high mode.maxFps ∧
      (after.sourceMode = mode ∨ after.sourceMode = session.sourceMode) := by
  have rate : session.requestedRate (rangeBlob low high) = some (mode, min high mode.maxFps) := by
    simp [requestedRate, MetadataBlob.fpsRange, rangeBlob, selected]
  rw [succeed_updateTargetFps]
  have structured : (rangeBlob low high).structureValid = true := rfl
  by_cases changed : min high mode.maxFps = session.targetFps ∧ mode.id = session.sourceMode.id
  · simp [updateTargetFps, outcome_ask .stableHal, Call.succeed, rangeSettings, structured, rate, changed.1,
      changed.2,
      acceptSettings]
  · have renewed := not_and_or.mp changed
    simp [updateTargetFps, outcome_ask .stableHal, outcome_askHal (.notifyStreamsConfigured ..), Call.succeed,
      rangeSettings, structured, rate, renewed, acceptSettings, renegotiate, HalCall.succeed]

theorem slowOps_rate (slot : Int) (capabilities : Option ProducerCapabilities)
    (valid : (capabilities.getD .diagnostic).valid = true) (mode : ProducerMode)
    (declared : mode ∈ (capabilities.getD .diagnostic).modes)
    (slowest : mode.minFps = (capabilities.getD .diagnostic).globalLow) :
    let session := (slowOps mode).foldl SessionOp.succeed (initial slot capabilities false 1 false)
    session.sourceMode ∈ session.capabilities.modes ∧ session.targetFps = mode.minFps := by
  have formed := ProducerCapabilities.wellFormed _ valid
  have shape := formed.mode mode declared
  have positive := shape.fps_pos
  have ordered := shape.fps_ordered
  obtain ⟨first, selected⟩ := Option.isSome_iff_exists.mp
    (slowStream_selects valid mode declared (0, 0) (.inl rfl) ((mode.inRange_iff 0 0).mpr (.inl rfl)))
  obtain ⟨second, narrowed⟩ := Option.isSome_iff_exists.mp
    (slowStream_selects valid mode declared (mode.minFps, mode.minFps)
      (.inr ((ProducerCapabilities.mem_fpsRanges _ _).mpr (.inr ⟨mode, declared, by simp [ProducerMode.ranges]⟩)))
      ((mode.inRange_iff _ _).mpr (.inr ⟨by omega, le_rfl, le_rfl, by omega⟩)))
  obtain ⟨_, _, best⟩ := (ProducerCapabilities.select_eq_some_iff _ _ 0 0 first).mp selected
  obtain ⟨_, _, best'⟩ := (ProducerCapabilities.select_eq_some_iff _ _ _ _ second).mp narrowed
  have faster := (formed.mode second best'.declared).fps_ordered
  have slower := (ProducerCapabilities.globalLow_bounds (capabilities.getD .diagnostic)).2 second best'.declared
  simp only [slowOps, List.foldl_cons, List.foldl_nil]
  have known : (SessionOp.succeed (initial slot capabilities false 1 false) .construct).capabilities =
      capabilities.getD .diagnostic := rfl
  generalize SessionOp.succeed (initial slot capabilities false 1 false) .construct = constructed at known ⊢
  rw [← known] at selected narrowed best best'
  obtain ⟨kept, outputs, source⟩ :=
    configureStreams_succeeds (slowStream mode) le_rfl ⟨rfl, rfl, rfl⟩ first selected
  generalize SessionOp.succeed constructed (.configureStreams [slowStream mode]) = configured at kept outputs source ⊢
  rw [← kept, ← outputs] at narrowed
  obtain ⟨kept', rate, running⟩ := updateTargetFps_selects mode.minFps mode.minFps second narrowed
  refine ⟨?_, rate.trans (min_eq_left (by omega))⟩
  rw [kept', kept]
  rcases running with selecting | staying
  · exact selecting ▸ best'.declared
  · exact (staying.trans source) ▸ best.declared

end VirtualCameraSession

theorem maxFrameDuration_respected (capabilities : Option ProducerCapabilities)
    (valid : (capabilities.getD .diagnostic).valid = true) :
    (∀ characteristics, MetadataBuilder.buildCameraCharacteristics capabilities = some characteristics →
      MaxFrameDurationRespected capabilities characteristics) ↔
      (capabilities.getD .diagnostic).globalLow ∣ nanosPerSecond := by
  have formed := ProducerCapabilities.wellFormed _ valid
  have positive := ProducerCapabilities.globalLow_pos _ formed
  obtain ⟨low, slowest⟩ := ProducerCapabilities.globalLow_bounds (capabilities.getD .diagnostic)
  have same : MetadataBuilder.buildCameraCharacteristics capabilities =
      MetadataBuilder.buildCameraCharacteristics (some (capabilities.getD .diagnostic)) := by
    cases capabilities <;> rfl
  rw [← frameDuration_le_floor_iff _ positive]
  constructor
  · intro respected
    obtain ⟨characteristics, built⟩ : ∃ characteristics,
        MetadataBuilder.buildCameraCharacteristics (some (capabilities.getD .diagnostic)) = some characteristics := by
      simp [MetadataBuilder.buildCameraCharacteristics, valid]
    obtain ⟨mode, declared, least⟩ := ProducerCapabilities.globalLow_attained _ formed
    obtain ⟨listed, rate⟩ := VirtualCameraSession.slowOps_rate 0 capabilities valid mode declared least
    have paced := (respected characteristics (same.trans built)).paced 0 false 1 false _ _
      (SessionOp.run_succeed _ (VirtualCameraSession.slowOps mode)) listed (by rw [rate]; omega)
    rw [rate, least, maxFrameDuration_eq _ valid characteristics built] at paced
    exact paced
  · intro exactly characteristics built
    rw [same] at built
    have bounded : ∀ fps, (capabilities.getD .diagnostic).globalLow ≤ fps → fps ≤ 120 →
        frameDuration fps ≤ characteristics.maxFrameDuration := by
      intro fps above below
      rw [maxFrameDuration_eq _ valid characteristics built]
      exact ((frameDuration_le_iff _ _ (by omega) below positive low).mpr above).trans exactly
    constructor
    · rintro ⟨output, least⟩ member
      obtain ⟨advertised, rfl⟩ := (minFrameDurations_iff _ valid output least characteristics built).mp member
      refine bounded _ ?_ (MetadataBuilder.declaredRate_bounds _ formed output advertised).2
      obtain ⟨mode, declared, declares⟩ := (ProducerCapabilities.advertised_iff _ output).mp advertised
      have ordered := (formed.mode mode declared).fps_ordered
      have slower := slowest mode declared
      exact (MetadataBuilder.le_declaredRate_iff _ output _ positive).mpr ⟨mode, declared, declares, by omega⟩
    · intro slot forceCpuYuv deadlineFrames clearOutput ops session history listed running
      have held := session.history_rateWithin
        (VirtualCameraSession.initial_rateWithin slot capabilities valid forceCpuYuv deadlineFrames clearOutput)
        ops history
      rw [held.capabilities] at listed
      obtain ⟨above, below⟩ := held.within listed running
      have slower := slowest _ listed
      have fastest := (formed.mode _ listed).fps_bounded
      exact bounded _ (by omega) (by omega)

def twentyCapabilities : ProducerCapabilities :=
  { ProducerCapabilities.diagnostic with
    modes := ProducerCapabilities.diagnostic.modes.map fun mode => { mode with minFps := 20 } }

theorem maxFrameDuration_respected_twenty :
    ∃ characteristics, MetadataBuilder.buildCameraCharacteristics (some twentyCapabilities) = some characteristics ∧
      MaxFrameDurationRespected (some twentyCapabilities) characteristics := by
  obtain ⟨characteristics, built⟩ : ∃ characteristics,
      MetadataBuilder.buildCameraCharacteristics (some twentyCapabilities) = some characteristics :=
    Option.isSome_iff_exists.mp (by decide)
  have respected := (maxFrameDuration_respected (some twentyCapabilities) (by decide)).mpr (by decide)
  exact ⟨characteristics, built, respected characteristics built⟩

theorem maxFrameDuration_exceeded :
    ¬ ∀ (capabilities : Option ProducerCapabilities) (characteristics : CameraCharacteristics),
      (capabilities.getD .diagnostic).valid = true →
      MetadataBuilder.buildCameraCharacteristics capabilities = some characteristics →
      MaxFrameDurationRespected capabilities characteristics := by
  intro all
  obtain ⟨characteristics, built⟩ : ∃ characteristics,
      MetadataBuilder.buildCameraCharacteristics (some .diagnostic) = some characteristics :=
    Option.isSome_iff_exists.mp (by decide)
  let mode : ProducerMode := ProducerCapabilities.diagnostic.modes[0]
  obtain ⟨listed, rate⟩ := VirtualCameraSession.slowOps_rate 0 none ProducerCapabilities.diagnostic_valid mode
    (List.getElem_mem _) (by decide)
  have paced := (all none characteristics ProducerCapabilities.diagnostic_valid built).paced 0 false 1 false _ _
    (SessionOp.run_succeed _ (VirtualCameraSession.slowOps mode)) listed (by rw [rate]; decide)
  rw [rate, maxFrameDuration_eq _ ProducerCapabilities.diagnostic_valid characteristics built] at paced
  exact absurd paced (by decide)

end VirtualCamera
