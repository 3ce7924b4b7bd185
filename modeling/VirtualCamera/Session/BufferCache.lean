import VirtualCamera.Session.Footprint
import VirtualCamera.Session.Operations
import VirtualCamera.Session.CallbackProtocol
import VirtualCamera.Shared.OwnedCache

set_option autoImplicit false

namespace VirtualCamera

open Descriptors Interaction Interaction.Process OwnedCache Runs

def Call.handle : Call → Option Handle
  | .freeBuffer handle => some handle
  | call => call.target

def imported : Event Environment → Option Handle
  | ⟨.importBuffer _, handle⟩ => handle
  | _ => none

def freed : Event Environment → Option Handle
  | ⟨.freeBuffer handle, _⟩ => some handle
  | _ => none

def lease (live : List Handle) (event : Event Environment) : List Handle :=
  match imported event, freed event with
  | some handle, _ => handle :: live
  | none, some handle => live.erase handle
  | none, none => live

def liveHandles (events : List (Event Environment)) : List Handle := events.foldl lease []

-- The mapper clones what it imports, so an import is never a handle that the session still has.
def MapperFresh (events : List (Event Environment)) : Prop :=
  ∀ early event late handle, events = early ++ event :: late → imported event = some handle →
    handle ∉ liveHandles early

-- `none` once the mapper has handed out a handle twice. Every handle in use is one of the live ones.
def mapper : Monitor Environment (Option (List Handle)) where
  observe seen event := seen.bind fun live =>
    if ∀ handle ∈ imported event, handle ∉ live then some (lease live event) else none
  permits seen event := ∀ live handle, seen = some live → event.1.handle = some handle → handle ∈ live

theorem liveHandles_snoc (events : List (Event Environment)) (event : Event Environment) :
    liveHandles (events ++ [event]) = lease (liveHandles events) event := by
  simp [liveHandles]

theorem MapperFresh.of_append {events later : List (Event Environment)} (fresh : MapperFresh (events ++ later)) :
    MapperFresh events := by
  intro early event late handle shape
  exact fresh early event (late ++ later) handle (by simp [shape])

theorem mapper_follow (events : List (Event Environment)) (fresh : MapperFresh events) :
    mapper.follow (some []) events = some (liveHandles events) := by
  induction events using List.reverseRecOn with
  | nil => rfl
  | append_singleton events event ih =>
    have new : ∀ handle ∈ imported event, handle ∉ liveHandles events :=
      fun handle same => fresh events event [] handle rfl same
    rw [Monitor.follow_append, ih fresh.of_append, liveHandles_snoc]
    exact if_pos new

theorem mapper_keeps (seen : Option (List Handle)) (event : Event Environment) (other : event.1.caching = false) :
    mapper.observe seen event = seen := by
  obtain ⟨call, reply⟩ := event
  have silent : imported ⟨call, reply⟩ = none ∧ freed ⟨call, reply⟩ = none := by
    cases call <;> first | contradiction | exact ⟨rfl, rfl⟩
  cases seen with
  | none => rfl
  | some live => simp [mapper, silent.1, silent.2, lease]

theorem mapper_refused (seen : Option (List Handle)) (buffer : NativeHandle) :
    mapper.observe seen ⟨.importBuffer buffer, none⟩ = seen := by
  cases seen with
  | none => rfl
  | some live => simp [mapper, imported, freed, lease]

theorem mapper_imported {seen : Option (List Handle)} {buffer : NativeHandle} {handle : Handle} {after : List Handle}
    (honest : mapper.observe seen ⟨.importBuffer buffer, some handle⟩ = some after) :
    ∃ live, seen = some live ∧ handle ∉ live ∧ after = handle :: live := by
  cases seen with
  | none => cases honest
  | some live =>
    simp only [mapper, imported, Option.bind_some, Option.ite_none_right_eq_some, Option.mem_def, Option.some.injEq,
      forall_eq'] at honest
    exact ⟨live, rfl, honest.1, honest.2.symm⟩

theorem mapper_freed (seen : Option (List Handle)) (handle : Handle) :
    mapper.observe seen ⟨.freeBuffer handle, ()⟩ = seen.map (List.erase · handle) := by
  cases seen with
  | none => rfl
  | some live => simp [mapper, imported, freed, lease]

def Call.unmapped (call : Call) : Bool := !call.caching && call.handle.isNone

theorem mapper_ignores (seen : Option (List Handle)) : mapper.Ignores seen Call.unmapped := by
  intro call reply inside
  obtain ⟨other, unused⟩ := Bool.and_eq_true_iff.mp inside
  refine ⟨fun live handle _ used => ?_, mapper_keeps seen _ (by simpa using other)⟩
  have given : call.handle = some handle := used
  rw [given] at unused
  cases unused

theorem mapper_rendering {seen : Option (List Handle)} {handle : Handle}
    (live : ∀ handles, seen = some handles → handle ∈ handles) : mapper.Ignores seen (Call.renderingOn handle) := by
  intro call reply inside
  obtain ⟨rendering, target⟩ := Bool.and_eq_true_iff.mp inside
  have other : call.caching = false ∧ call.handle = call.target := by
    cases call <;> first | contradiction | exact ⟨rfl, rfl⟩
  refine ⟨fun handles used shape given => ?_, mapper_keeps seen _ other.1⟩
  have aimed : call.target = some used := other.2.symm.trans given
  have same : used = handle := by simpa [aimed] using target
  exact same ▸ live handles shape

theorem Call.unmapped_of_negotiating (call : Call) (negotiating : call.negotiating = true) :
    call.unmapped = true := by
  cases call <;> first | contradiction | rfl

theorem Call.unmapped_of_preparing (call : Call) (preparing : call.preparing = true) : call.unmapped = true := by
  cases call <;> first | contradiction | rfl

theorem Call.unmapped_of_reading (call : Call) (reading : call.reading = true) : call.unmapped = true := by
  cases call <;> first | contradiction | rfl

namespace VirtualCameraSession

variable {session : VirtualCameraSession} {seen : Option (List Handle)} {key : BufferKey} {keys : List BufferKey}
  {handle : Handle}

def cacheKeys (session : VirtualCameraSession) : List BufferKey := session.bufferCache.map Prod.fst

theorem cached_mem (found : session.cached key = some handle) : (key, handle) ∈ session.bufferCache := by
  obtain ⟨⟨other, value⟩, search, rfl⟩ := Option.map_eq_some_iff.mp found
  have same : other = key := by simpa using List.find?_some search
  exact same ▸ List.mem_of_find?_eq_some search

theorem cached_eq_none : session.cached key = none ↔ key ∉ session.cacheKeys := by
  simp only [cached, cacheKeys, Option.map_eq_none_iff, List.find?_eq_none, List.mem_map, not_exists, not_and,
    beq_iff_eq]

structure Holding (keys : List BufferKey) (session : VirtualCameraSession) (seen : Option (List Handle)) : Prop where
  owns : ∀ live, seen = some live → Owns session.bufferCache live
  cached : ∀ key ∈ keys, key ∈ session.cacheKeys

theorem Holding.of_cache {before after : VirtualCameraSession} (holding : Holding keys before seen)
    (same : after.bufferCache = before.bufferCache) : Holding keys after seen := by
  obtain ⟨owns, cached⟩ := holding
  exact ⟨by rwa [same], by rwa [cacheKeys, same]⟩

theorem Holding.mono {fewer : List BufferKey} (holding : Holding keys session seen) (inside : fewer ⊆ keys) :
    Holding fewer session seen :=
  ⟨holding.owns, fun key member => holding.cached key (inside member)⟩

theorem Holding.live (holding : Holding keys session seen) (found : session.cached key = some handle) :
    ∀ live, seen = some live → handle ∈ live :=
  fun live shape => (holding.owns live shape).member (cached_mem found)

theorem Holding.found (holding : Holding keys session seen) {live : List Handle} (shape : seen = some live)
    (member : key ∈ keys) : ∃ handle ∈ live, session.cached key = some handle := by
  cases found : session.cached key with
  | none => exact absurd (holding.cached key member) (cached_eq_none.mp found)
  | some handle => exact ⟨handle, holding.live found live shape, rfl⟩

theorem importBuffer_holding (holding : Holding keys session seen) (buffer : StreamBuffer) :
    (importBuffer buffer).wp mapper session seen fun found final later => Holding keys final later ∧
      ∀ handle, found = some handle → Holding (buffer.key :: keys) final later ∧
        final.cached buffer.key = some handle := by
  simp only [importBuffer, wp_bind, wp_get]
  cases found : session.cached (buffer.streamId, buffer.bufferId) with
  | some handle =>
    refine ⟨holding, fun other same => ?_⟩
    cases same
    refine ⟨⟨holding.owns, List.forall_mem_cons.mpr ⟨?_, holding.cached⟩⟩, found⟩
    exact List.mem_map_of_mem (cached_mem found)
  | none =>
    rw [wp_ite]
    refine ⟨fun _ => ⟨holding, by simp⟩, fun _ => ?_⟩
    rw [wp_bind, wp_ask]
    refine fun reply => ⟨(fun _ _ _ same => by cases same), ?_⟩
    cases reply with
    | none =>
      rw [mapper_refused]
      exact ⟨holding, by simp⟩
    | some handle =>
      have absent := cached_eq_none.mp found
      have wider : Holding (buffer.key :: keys)
          { session with bufferCache := ((buffer.streamId, buffer.bufferId), handle) :: session.bufferCache }
          (mapper.observe seen ⟨.importBuffer buffer.buffer, some handle⟩) := by
        refine ⟨fun after honest => ?_, List.forall_mem_cons.mpr ⟨List.mem_cons_self, fun key member => ?_⟩⟩
        · obtain ⟨live, shape, fresh, rfl⟩ := mapper_imported honest
          exact (holding.owns live shape).insert absent fresh
        · exact List.mem_cons_of_mem _ (holding.cached key member)
      refine ⟨⟨wider.owns, (List.forall_mem_cons.mp wider.cached).2⟩, fun other same => ?_⟩
      cases same
      exact ⟨wider, by simp [cached, StreamBuffer.key]⟩

theorem importBuffers_holding (holding : Holding keys session seen) (buffers : List StreamBuffer) :
    (importBuffers buffers).wp mapper session seen fun done final later => Holding keys final later ∧
      (done = true → Holding (buffers.map (·.key) ++ keys) final later) := by
  induction buffers generalizing session seen keys with
  | nil => exact ⟨holding, fun _ => holding⟩
  | cons buffer rest ih =>
    simp only [importBuffers, wp_bind]
    refine (importBuffer_holding holding buffer).mono fun found final later => ?_
    rintro ⟨kept, more⟩
    cases found with
    | none => exact ⟨kept, by simp⟩
    | some handle =>
      refine (ih (more handle rfl).1).mono fun done last after => ?_
      rintro ⟨held, all⟩
      refine ⟨held.mono (List.subset_cons_self _ _), fun complete => (all complete).mono fun key member => ?_⟩
      simp only [List.map_cons, List.cons_append, List.mem_cons, List.mem_append] at member ⊢
      exact or_left_comm.mp member

theorem removeBuffersFromCache_holding (holding : Holding [] session seen) (caches : List BufferCache) :
    (removeBuffersFromCache caches).wp mapper session seen fun _ final later => Holding [] final later := by
  induction caches generalizing session seen with
  | nil => exact holding
  | cons cache rest ih =>
    simp only [removeBuffersFromCache, wp_bind, wp_get]
    cases found : session.cached (cache.streamId, cache.bufferId) with
    | none => exact ih holding
    | some handle =>
      rw [wp_bind, wp_ask]
      refine fun reply => ⟨fun live used shape same => ?_, ?_⟩
      · cases same
        exact holding.live found live shape
      · rw [mapper_freed]
        refine ih ⟨fun after shape => ?_, nofun⟩
        obtain ⟨live, rfl, rfl⟩ := Option.map_eq_some_iff.mp shape
        exact (holding.owns live rfl).remove (cached_mem found)

theorem freeAll_holding (cache : List (BufferKey × Handle)) (session : VirtualCameraSession)
    (owns : ∀ live, seen = some live → Owns cache live) :
    (freeAll cache).wp mapper session seen fun _ final later => final = session ∧ ∀ live, later = some live →
      live = [] := by
  induction cache generalizing seen with
  | nil => exact ⟨rfl, fun live shape => List.nil_perm.mp (owns live shape).values⟩
  | cons entry rest ih =>
    obtain ⟨key, handle⟩ := entry
    simp only [freeAll, wp_bind]
    rw [wp_ask]
    refine fun reply => ⟨fun live used shape same => ?_, ?_⟩
    · cases same
      exact (owns live shape).member List.mem_cons_self
    · rw [mapper_freed]
      refine ih fun after shape => ?_
      obtain ⟨live, rfl, rfl⟩ := Option.map_eq_some_iff.mp shape
      exact (owns live rfl).tail

theorem processOutput_holding (cancelEpoch : Nat) (source : Acquired) (output : Nat) (buffer : StreamBuffer) :
    Maintains mapper (Holding keys) (processOutput cancelEpoch source output buffer) := by
  intro session seen holding
  simp only [processOutput, wp_bind, wp_get]
  refine (importBuffer_holding holding buffer).mono fun found final later => ?_
  rintro ⟨kept, more⟩
  split
  next handle stream _ =>
    have live := (more handle rfl).1.live (more handle rfl).2
    have reading := (mapper_ignores later).mono Call.unmapped_of_reading
    rw [wp_bind]
    refine sourceWanted_unheard (reading.mono Call.reading_of_awaiting) cancelEpoch source _ _ fun wanted => ?_
    cases wanted
    case false => exact kept
    case true =>
      simp only [Bool.not_true, Bool.false_eq_true, if_false, wp_bind]
      refine unheard_ask (mapper_ignores later) (.renderAttempt output) rfl _ _ fun _ => ?_
      refine renderOutput_unheard (mapper_rendering live) source.ahb stream _ _ fun made => ?_
      split
      · exact kept
      · rw [wp_bind]
        exact unheard_ask (mapper_ignores later) (.dup _) rfl _ _ fun _ => kept
  next => exact kept

theorem processOutputs_holding (cancelEpoch : Nat) (source : Acquired) (output : Nat) (buffers : List StreamBuffer) :
    Maintains mapper (Holding keys) (processOutputs cancelEpoch source output buffers) := by
  induction buffers generalizing output with
  | nil => exact maintains_pure _
  | cons buffer rest ih =>
    refine maintains_bind (processOutput_holding cancelEpoch source output buffer) fun _ => ?_
    exact maintains_bind (ih (output + 1)) fun _ => maintains_pure _

theorem mapper_answering (seen : Option (List Handle)) : mapper.Ignores seen Call.answering :=
  (mapper_ignores seen).mono fun call answering => by cases call <;> first | contradiction | rfl

theorem captureSource_holding (request : CaptureRequest) (cancelEpoch : Nat) (timestamp : Int)
    (pending : List (Option Fd)) :
    Maintains mapper (Holding keys) (captureSource request cancelEpoch timestamp pending) :=
  captureSource_answers mapper_answering processOutputs_holding (fun _ _ _ held => held.of_cache rfl)
    (fun _ _ held => held.of_cache rfl) request cancelEpoch timestamp pending

theorem captureReserved_holding (request : CaptureRequest) (cancelEpoch : Nat) (fences : List (Option Fd)) :
    Maintains mapper (Holding keys) (captureReserved request cancelEpoch fences) := by
  intro session seen held
  have waiting := (mapper_ignores seen).mono fun call inside =>
    call.unmapped_of_preparing (call.preparing_of_waiting inside)
  have steady := waiting.mono Call.waiting_of_steady
  have failed : ∀ pending, (failUntouched request pending).wp mapper session seen fun _ final later =>
      Holding keys final later := fun pending =>
        failUntouched_answers mapper_answering request pending session seen held
  rw [captureReserved, wp_bind]
  refine waitDestinations_wp waiting session cancelEpoch fences _ ?_ fun pending _ => failed pending
  simp only [wp_bind]
  apply paceFrame_wp steady
  · exact fun _ => held
  · intro _ slot ns
    have paced : Holding keys { session with nextFrameNs := ns } seen := held.of_cache rfl
    rw [wp_bind]
    refine cancelled_unheard steady cancelEpoch _ _ fun stopped => ?_
    cases stopped
    case true => exact failUntouched_answers mapper_answering request _ _ seen paced
    case false => exact captureSource_holding request cancelEpoch slot _ _ seen paced

theorem processSingleRequest_holding (holding : Holding keys session seen) (request : CaptureRequest)
    (cancelEpoch : Nat) :
    (processSingleRequest request cancelEpoch).wp mapper session seen fun outcome final later =>
      Holding keys final later ∧
        (outcome = .status .ok → Holding (request.outputBuffers.map (·.key) ++ keys) final later) := by
  have closes : ∀ (fences : List (Option Fd)) (later : Option (List Handle)),
      Unheard mapper later (closeFds fences) := fun fences later =>
    closeFds_unheard ((mapper_answering later).mono fun call steady =>
      call.answering_of_reading (call.reading_of_steady steady)) fences
  have preparing := (mapper_ignores seen).mono Call.unmapped_of_preparing
  rw [processSingleRequest, wp_bind]
  apply reserveFences_wp (preparing.mono fun call copying =>
    call.preparing_of_waiting (call.waiting_of_copying copying))
  intro kept fences _
  cases kept
  case false =>
    simp only [Bool.not_false, if_true, wp_bind]
    refine close_unheard (preparing.mono Call.preparing_of_ending) _ _ fun _ => ?_
    exact closes fences seen _ _ fun _ => ⟨holding, nofun⟩
  case true =>
    simp only [Bool.not_true, Bool.false_eq_true, if_false, wp_bind]
    refine (importBuffers_holding holding request.outputBuffers).mono fun done final later => ?_
    rintro ⟨held, all⟩
    cases done
    case false =>
      simp only [Bool.not_false, if_true, wp_bind]
      exact closes fences later _ _ fun _ => ⟨held, nofun⟩
    case true =>
      simp only [Bool.not_true, Bool.false_eq_true, if_false]
      refine (captureReserved_holding request cancelEpoch fences final later (all rfl)).mono fun outcome last after held => ?_
      exact ⟨held.mono (List.subset_append_right _ _), fun _ => held⟩

theorem updateTargetFps_holding (settings : CameraMetadata) :
    Maintains mapper (Holding keys) (updateTargetFps settings) := by
  intro session seen held
  apply updateTargetFps_wp session ((mapper_ignores seen).mono Call.unmapped_of_negotiating)
  · exact held
  · exact fun _ => held
  · exact fun _ _ _ _ _ _ _ _ => held.of_cache rfl
  · exact fun _ _ _ _ _ _ _ _ => held.of_cache rfl

def requestKeys (requests : List CaptureRequest) : List BufferKey :=
  requests.flatMap fun request => request.outputBuffers.map (·.key)

theorem processRequests_holding (holding : Holding keys session seen) (cancelEpoch : Nat)
    (requests : List CaptureRequest) :
    (processRequests cancelEpoch requests).wp mapper session seen fun out final later =>
      Holding (requestKeys (requests.take out.2) ++ keys) final later := by
  induction requests generalizing session seen keys with
  | nil => exact holding
  | cons request rest ih =>
    simp only [processRequests, wp_bind, wp_get]
    rw [wp_ite]
    refine ⟨fun _ => holding, fun _ => ?_⟩
    rw [wp_bind]
    refine (updateTargetFps_holding request.settings session seen holding).mono fun accepted middle later held => ?_
    rw [wp_ite]
    refine ⟨fun _ => held, fun _ => ?_⟩
    rw [wp_bind]
    refine (processSingleRequest_holding held request cancelEpoch).mono fun outcome final after => ?_
    rintro ⟨kept, all⟩
    split
    · rw [wp_bind]
      refine (ih (all rfl)).mono fun out last ending held => held.mono fun key member => ?_
      simp only [List.take_succ_cons, requestKeys, List.flatMap_cons, List.mem_append] at member ⊢
      rw [or_assoc] at member
      exact or_left_comm.mp member
    · exact kept

theorem processCaptureRequest_holding (holding : Holding [] session seen) (requests : List CaptureRequest)
    (cachesToRemove : List BufferCache) :
    (processCaptureRequest requests cachesToRemove).wp mapper session seen fun out final later =>
      Holding (requestKeys (requests.take out.2)) final later := by
  rw [processCaptureRequest, wp_bind]
  refine refusing_unheard ((mapper_ignores seen).mono fun call steady =>
    call.unmapped_of_reading (call.reading_of_steady steady)) _ _ fun refused => ?_
  cases refused
  case true => exact holding
  case false =>
    simp only [Bool.false_eq_true, if_false, wp_bind]
    refine (removeBuffersFromCache_holding holding cachesToRemove).mono fun _ middle later held => ?_
    refine unheard_ask (mapper_ignores later) .loadCancelEpoch rfl _ _ fun epoch => ?_
    exact (processRequests_holding held epoch requests).mono fun out final after kept => by
      rwa [List.append_nil] at kept

theorem clearStreams_holding : Maintains mapper (Holding []) clearStreams := by
  intro session seen held
  simp only [clearStreams, wp_bind, wp_get, wp_modify]
  refine (freeAll_holding session.bufferCache _ held.owns).mono fun _ final later => ?_
  rintro ⟨rfl, none⟩
  refine ⟨fun live shape => ?_, by simp⟩
  rw [none live shape]
  exact Owns.nil

theorem publishStreams_holding (requested : List Stream) : Maintains mapper (Holding [])
    (publishStreams requested) := by
  intro session seen held
  exact publishStreams_wp session ((mapper_ignores seen).mono Call.unmapped_of_negotiating) requested _
    fun out token => held.of_cache rfl

theorem configureStreams_holding (requested : List Stream) :
    Maintains mapper (Holding []) (configureStreams requested) := by
  have negotiating := fun seen => (mapper_ignores seen).mono Call.unmapped_of_negotiating
  refine maintains_bind (maintains_of_unheard fun seen => unheard_ask (mapper_ignores seen) .loadClosed rfl)
    fun closed => maintains_ite (maintains_pure _) (maintains_bind maintains_get fun session => ?_)
  refine maintains_ite (maintains_pure _) (maintains_ite (maintains_pure _)
    (maintains_bind clearStreams_holding fun _ => ?_))
  refine maintains_bind (maintains_modify fun _ _ held => held.of_cache rfl) fun _ => ?_
  split
  · exact maintains_pure _
  · refine maintains_bind (maintains_modify fun _ _ held => held.of_cache rfl) fun _ => ?_
    refine maintains_bind (maintains_of_unheard fun seen => unheard_bind unheard_get fun _ => unheard_ite
      (unheard_ask (mapper_ignores seen) .stableHal rfl) (unheard_pure true)) fun hal => ?_
    refine maintains_bind (maintains_of_unheard fun seen => registrationCurrent_unheard (negotiating seen) hal)
      fun current => maintains_ite (publishStreams_holding requested) (maintains_pure _)

theorem destroy_holding (holding : Holding [] session seen) :
    destroy.wp mapper session seen fun _ _ later => ∀ live, later = some live → live = [] := by
  rw [destroy, wp_bind]
  refine close_unheard ((mapper_ignores seen).mono fun call ending =>
    call.unmapped_of_preparing (call.preparing_of_ending ending)) _ _ fun _ => ?_
  simp only [wp_bind, wp_get]
  exact (freeAll_holding session.bufferCache session holding.owns).mono fun _ final later freed => freed.2

end VirtualCameraSession

inductive CacheOp where
  | session (op : SessionOp)
  | capture (requests : List CaptureRequest) (cachesToRemove : List BufferCache)
      (outcome : VirtualCameraSession.Outcome) (processed : Nat)
  | stage (stage : CaptureStage)
  | lookup (buffer : StreamBuffer) (found : Option Handle)
  | destroy

abbrev CacheLabel := CacheOp × List (Event Environment)

open VirtualCameraSession in
inductive CacheStep : Option VirtualCameraSession → CacheLabel → Option VirtualCameraSession → Prop where
  | session {before after : VirtualCameraSession} {events : List (Event Environment)} (op : SessionOp)
      (execution : (op.perform before).Execution events ((), after)) :
      CacheStep (some before) (.session op, events) (some after)
  | capture {before after : VirtualCameraSession} {events : List (Event Environment)} (requests : List CaptureRequest)
      (cachesToRemove : List BufferCache) (outcome : Outcome) (processed : Nat)
      (execution : (processCaptureRequest requests cachesToRemove before).Execution events
        ((outcome, processed), after)) :
      CacheStep (some before) (.capture requests cachesToRemove outcome processed, events) (some after)
  | stage {before after : VirtualCameraSession} {events : List (Event Environment)} (stage : CaptureStage)
      (execution : (stage.perform before).Execution events ((), after)) :
      CacheStep (some before) (.stage stage, events) (some after)
  | lookup {before after : VirtualCameraSession} {events : List (Event Environment)} (buffer : StreamBuffer)
      (found : Option Handle) (execution : (importBuffer buffer before).Execution events (found, after)) :
      CacheStep (some before) (.lookup buffer found, events) (some after)
  | destroy {before after : VirtualCameraSession} {events : List (Event Environment)}
      (execution : (destroy before).Execution events ((), after)) :
      CacheStep (some before) (.destroy, events) none

namespace VirtualCameraSession

variable {session : VirtualCameraSession} {seen : Option (List Handle)}

theorem perform_holding (op : SessionOp) : Maintains mapper (Holding []) op.perform := by
  have steady := fun seen => (mapper_ignores seen).mono Call.unmapped_of_preparing
  cases op with
  | construct =>
    refine maintains_bind (maintains_of_unheard fun seen => unheard_ask (mapper_ignores seen) .stableHal rfl)
      fun hal => maintains_ite ?_ (maintains_pure _)
    refine maintains_bind (maintains_of_unheard fun seen =>
      unheard_ask (mapper_ignores seen) (.hal .allocateSessionIdentity) rfl) fun identity => ?_
    exact maintains_modify fun _ _ held => held.of_cache rfl
  | configureStreams requested => exact maintains_bind (configureStreams_holding requested) fun _ => maintains_pure _
  | updateTargetFps settings => exact maintains_bind (updateTargetFps_holding settings) fun _ => maintains_pure _
  | processCaptureRequest requests cachesToRemove =>
    refine maintains_bind (fun session seen held => ?_) fun _ => maintains_pure _
    exact (processCaptureRequest_holding held requests cachesToRemove).mono fun _ _ _ kept =>
      kept.mono (List.nil_subset _)
  | flush =>
    refine maintains_bind (maintains_bind (maintains_of_unheard fun seen =>
      unheard_ask (mapper_ignores seen) (.storeFlushing true) rfl) fun _ => ?_) fun _ => maintains_pure _
    refine maintains_bind (maintains_of_unheard fun seen => unheard_ask (mapper_ignores seen) .bumpCancelEpoch rfl)
      fun _ => maintains_bind (maintains_modify fun _ _ held => held.of_cache rfl) fun _ => ?_
    exact maintains_bind (maintains_of_unheard fun seen =>
      unheard_ask (mapper_ignores seen) (.storeFlushing false) rfl) fun _ => maintains_pure _
  | close =>
    exact maintains_bind (maintains_of_unheard fun seen => close_unheard ((mapper_ignores seen).mono fun call ending =>
      call.unmapped_of_preparing (call.preparing_of_ending ending))) fun _ => maintains_pure _

theorem stage_holding (stage : CaptureStage) : Maintains mapper (Holding []) stage.perform := by
  have preparing := fun seen => (mapper_ignores seen).mono Call.unmapped_of_preparing
  have waiting := fun seen => (preparing seen).mono Call.preparing_of_waiting
  have steady := fun seen => (waiting seen).mono Call.waiting_of_steady
  cases stage with
  | refusing => exact maintains_bind (maintains_of_unheard fun seen =>
      refusing_unheard (steady seen)) fun _ => maintains_pure _
  | evict cachesToRemove => exact fun _ _ held => removeBuffersFromCache_holding held cachesToRemove
  | reserve buffers =>
    refine maintains_bind (fun session seen held => ?_) fun _ => maintains_pure _
    exact reserveFences_wp ((waiting seen).mono Call.waiting_of_copying) session buffers _ fun _ _ _ => held
  | importAll buffers =>
    refine maintains_bind (fun session seen held => ?_) fun _ => maintains_pure _
    exact (importBuffers_holding held buffers).mono fun _ _ _ kept => kept.1
  | awaitDestinations cancelEpoch fences =>
    refine maintains_bind (fun session seen held => ?_) fun _ => maintains_pure _
    exact waitDestinations_wp (waiting seen) session cancelEpoch fences _ held fun _ _ => held
  | closeFences fences => exact maintains_of_unheard fun seen => closeFds_unheard (steady seen) fences
  | fail request pending =>
    exact maintains_bind (failUntouched_answers mapper_answering request pending) fun _ => maintains_pure _
  | source request cancelEpoch timestamp pending =>
    exact maintains_bind (captureSource_holding request cancelEpoch timestamp pending) fun _ => maintains_pure _

end VirtualCameraSession

def CacheOp.Answered (state : Option VirtualCameraSession) (live : List Handle) : CacheOp → Prop
  | .capture requests _ _ processed => ∀ session, state = some session →
      ∀ key ∈ VirtualCameraSession.requestKeys (requests.take processed), ∃ handle ∈ live,
        session.cached key = some handle
  | .lookup _ found => ∀ handle, found = some handle → handle ∈ live
  | _ => True

-- Who owns the handles that a session imports. Its `used` covers the frees as well: none is a second one.
structure CacheOwnership (labels : List CacheLabel) (events : List (Event Environment))
    (state : Option VirtualCameraSession) : Prop where
  used : ∀ early event late handle, events = early ++ event :: late → event.1.handle = some handle →
    handle ∈ liveHandles early
  once : ∀ handle, (events.filterMap imported).count handle =
    (events.filterMap freed).count handle + if handle ∈ liveHandles events then 1 else 0
  cached : ∀ session, state = some session → ∀ handle ∈ liveHandles events, ∃! key, (key, handle) ∈ session.bufferCache
  live : ∀ session key handle, state = some session → session.cached key = some handle → handle ∈ liveHandles events
  destroyed : state = none → liveHandles events = []
  answered : ∀ label, labels.getLast? = some label → label.1.Answered state (liveHandles events)

theorem liveHandles_nodup (events : List (Event Environment)) (fresh : MapperFresh events) :
    (liveHandles events).Nodup := by
  induction events using List.reverseRecOn with
  | nil => exact .nil
  | append_singleton events event ih =>
    have earlier := ih fresh.of_append
    rw [liveHandles_snoc, lease]
    split
    next handle same => exact List.nodup_cons.mpr ⟨fresh events event [] _ rfl same, earlier⟩
    next => exact earlier.erase _
    next => exact earlier

theorem freed_of_imported {event : Event Environment} {handle : Handle} (same : imported event = some handle) :
    freed event = none := by
  obtain ⟨call, reply⟩ := event
  cases call <;> first | contradiction | rfl

theorem handle_of_freed {event : Event Environment} {handle : Handle} (same : freed event = some handle) :
    event.1.handle = some handle := by
  obtain ⟨call, reply⟩ := event
  cases call <;> first | contradiction | exact same

theorem handles_balance (events : List (Event Environment)) (fresh : MapperFresh events)
    (accepts : mapper.Accepts (some []) events) (handle : Handle) :
    (events.filterMap imported).count handle =
      (events.filterMap freed).count handle + (liveHandles events).count handle := by
  induction events using List.reverseRecOn with
  | nil => rfl
  | append_singleton events event ih =>
    obtain ⟨earlier, last, _⟩ := (Monitor.accepts_append _ _ _ _).mp accepts
    have balance := ih fresh.of_append earlier
    rw [mapper_follow events fresh.of_append] at last
    rw [liveHandles_snoc, List.filterMap_append, List.filterMap_append, List.count_append, List.count_append, lease]
    split
    next other same =>
      simp only [List.filterMap_cons, List.filterMap_nil, same, freed_of_imported same, List.count_nil,
        List.count_cons]
      omega
    next other unimported same =>
      have present := last _ other rfl (handle_of_freed same)
      simp only [List.filterMap_cons, List.filterMap_nil, unimported, same, List.count_nil, List.count_cons,
        List.count_erase]
      have some := List.count_pos_iff.mpr present
      by_cases equal : other = handle
      · subst equal
        simp only [beq_self_eq_true, if_true]
        omega
      · simp only [beq_iff_eq, equal, if_false]
        omega
    next unimported unfreed =>
      simp only [List.filterMap_cons, List.filterMap_nil, unimported, unfreed, List.count_nil, Nat.add_zero]
      exact balance

structure CacheInvariant (labels : List CacheLabel) (state : Option VirtualCameraSession)
    (events : List (Event Environment)) :
    Prop where
  accepts : mapper.Accepts (some []) events
  holding : ∀ session, state = some session →
    VirtualCameraSession.Holding [] session (mapper.follow (some []) events)
  destroyed : state = none → ∀ live, mapper.follow (some []) events = some live → live = []
  answered : ∀ label, labels.getLast? = some label → ∀ live, mapper.follow (some []) events = some live →
    label.1.Answered state live

open VirtualCameraSession in
theorem CacheStep.answered {before after : Option VirtualCameraSession} {label : CacheLabel}
    {seen : Option (List Handle)} (step : CacheStep before label after)
    (holding : ∀ session, before = some session → Holding [] session seen) :
    mapper.Accepts seen label.2 ∧ (∀ session, after = some session →
      Holding [] session (mapper.follow seen label.2)) ∧
      (after = none → ∀ live, mapper.follow seen label.2 = some live → live = []) ∧
      ∀ live, mapper.follow seen label.2 = some live → label.1.Answered after live := by
  have keeps : ∀ {state : VirtualCameraSession} {later : Option (List Handle)}, Holding [] state later →
      ∀ session, some state = some session → Holding [] session later := by
    intro state later held session same
    cases same
    exact held
  cases step with
  | session op execution =>
    obtain ⟨accepts, held⟩ := (perform_holding op _ seen (holding _ rfl)).execution execution
    exact ⟨accepts, keeps held, nofun, fun _ _ => trivial⟩
  | capture requests cachesToRemove outcome processed execution =>
    obtain ⟨accepts, held⟩ :=
      (processCaptureRequest_holding (holding _ rfl) requests cachesToRemove).execution execution
    refine ⟨accepts, keeps (held.mono (List.nil_subset _)), nofun, fun live shape => ?_⟩
    intro session same key member
    cases same
    exact held.found shape member
  | stage stage execution =>
    obtain ⟨accepts, held⟩ := (stage_holding stage _ seen (holding _ rfl)).execution execution
    exact ⟨accepts, keeps held, nofun, fun _ _ => trivial⟩
  | lookup buffer found execution =>
    obtain ⟨accepts, held, more⟩ := (importBuffer_holding (holding _ rfl) buffer).execution execution
    refine ⟨accepts, keeps held, nofun, fun live shape handle same => ?_⟩
    exact (more handle same).1.live (more handle same).2 live shape
  | destroy execution =>
    obtain ⟨accepts, empty⟩ := (destroy_holding (holding _ rfl)).execution execution
    exact ⟨accepts, fun session same => (Option.some_ne_none session same.symm).elim, fun _ => empty,
      fun _ _ => trivial⟩

theorem CacheInvariant.step {past : List CacheLabel} {before after : Option VirtualCameraSession} {label : CacheLabel}
    {events : List (Event Environment)} (invariant : CacheInvariant past before events)
    (step : CacheStep before label after) :
    CacheInvariant (past ++ [label]) after (events ++ label.2) := by
  obtain ⟨accepts, holding, destroyed, answered⟩ := step.answered invariant.holding
  refine ⟨(Monitor.accepts_append _ _ _ _).mpr ⟨invariant.accepts, accepts⟩, ?_, ?_, ?_⟩
  · rwa [Monitor.follow_append]
  · rwa [Monitor.follow_append]
  · intro last shape
    rw [List.getLast?_concat] at shape
    cases shape
    rwa [Monitor.follow_append]

theorem CacheInvariant.ownership {labels : List CacheLabel} {state : Option VirtualCameraSession}
    {events : List (Event Environment)} (invariant : CacheInvariant labels state events)
    (fresh : MapperFresh events) :
    CacheOwnership labels events state := by
  have live := mapper_follow events fresh
  obtain ⟨accepts, holding, destroyed, answered⟩ := invariant
  rw [live] at holding destroyed answered
  refine ⟨?_, fun handle => ?_, fun session same handle present => ?_, fun session key handle same found => ?_,
    fun gone => destroyed gone _ rfl, fun label last => answered label last _ rfl⟩
  · rintro early event late handle rfl given
    have permitted := accepts.permits
    rw [mapper_follow early fresh.of_append] at permitted
    exact permitted _ handle rfl given
  · rw [handles_balance events fresh accepts, (liveHandles_nodup events fresh).count]
  · exact ((holding session same).owns _ rfl).unique present
  · exact (holding session same).live found _ rfl

theorem cache_ownership (slot : Int) (capabilities : Option ProducerCapabilities) (forceCpuYuv : Bool)
    (profileDeadlineFrames : Int) (profileClearOutput : Bool) (labels : List CacheLabel)
    (state : Option VirtualCameraSession)
    (run : Run CacheStep
      (some (.initial slot capabilities forceCpuYuv profileDeadlineFrames profileClearOutput)) labels state)
    (fresh : MapperFresh (labels.flatMap (·.2))) : CacheOwnership labels (labels.flatMap (·.2)) state := by
  have invariant := run.invariant (fun past state => CacheInvariant past state (past.flatMap (·.2)))
    ⟨trivial, fun session same => ⟨fun live shape => ?_, nofun⟩, nofun, nofun⟩
    (fun past middle label after _ invariant step => ?_)
  · exact invariant.ownership fresh
  · cases same
    cases shape
    exact Owns.nil
  · rw [List.flatMap_append, List.flatMap_singleton]
    exact invariant.step step

theorem live_imported (events : List (Event Environment)) : liveHandles events ⊆ events.filterMap imported := by
  induction events using List.reverseRecOn with
  | nil => exact List.nil_subset _
  | append_singleton events event ih =>
    rw [liveHandles_snoc, List.filterMap_append, lease]
    split
    next handle same =>
      refine List.cons_subset.mpr ⟨List.mem_append_right _ (by simp [same]), List.subset_append_of_subset_left _ ih⟩
    next => exact fun other member => List.mem_append_left _ (ih (List.mem_of_mem_erase member))
    next => exact List.subset_append_of_subset_left _ ih

theorem MapperFresh.of_distinct {events : List (Event Environment)} (distinct : (events.filterMap imported).Nodup) :
    MapperFresh events := by
  rintro early event late handle rfl same live
  rw [List.filterMap_append, List.filterMap_cons_some same] at distinct
  exact (List.nodup_middle.mp distinct |> List.nodup_cons.mp).1 (List.mem_append_left _ (live_imported early live))

namespace VirtualCameraSession

def calls {A : Type} (action : Action VirtualCameraSession A) (session : VirtualCameraSession) :
    List (Event Environment) :=
  ((action session).replay Call.succeed).1

theorem calls_execution {A : Type} (action : Action VirtualCameraSession A) (session : VirtualCameraSession)
    (value : A)
    (ends : (outcome Call.succeed action session).1 = value) :
    (action session).Execution (calls action session) (value, (outcome Call.succeed action session).2) := by
  subst ends
  exact outcome_execution Call.succeed session action

def unopened : VirtualCameraSession := initial 0 none false 1 false

def opened : VirtualCameraSession :=
  (outcome Call.succeed (SessionOp.configureStreams [previewStream]).perform unopened).2

def captureOne : Action VirtualCameraSession (Outcome × Nat) :=
  processCaptureRequest [previewRequest (rangeSettings 30 30)] []

def captured : VirtualCameraSession := (outcome Call.succeed captureOne opened).2

def ownershipRun : List CacheLabel :=
  [(.session (.configureStreams [previewStream]), calls (SessionOp.configureStreams [previewStream]).perform unopened),
    (.capture [previewRequest (rangeSettings 30 30)] [] (.status .ok) 1, calls captureOne opened),
    (.destroy, calls destroy captured)]

end VirtualCameraSession

open VirtualCameraSession in
theorem cache_ownership_destroyed :
    (ownershipRun.flatMap (·.2)).filterMap imported = [2] ∧ (ownershipRun.flatMap (·.2)).filterMap freed = [2] ∧
      CacheOwnership ownershipRun (ownershipRun.flatMap (·.2)) none := by
  have configures := CacheStep.session _
    (calls_execution (SessionOp.configureStreams [previewStream]).perform unopened () (Subsingleton.elim _ _))
  have captures := CacheStep.capture [previewRequest (rangeSettings 30 30)] [] (.status .ok) 1
    (calls_execution captureOne opened (.status .ok, 1) (by decide +kernel))
  have destroys := CacheStep.destroy (calls_execution destroy captured () (Subsingleton.elim _ _))
  have imports : (ownershipRun.flatMap (·.2)).filterMap imported = [2] := by decide +kernel
  have frees : (ownershipRun.flatMap (·.2)).filterMap freed = [2] := by decide +kernel
  have run : Run CacheStep (some unopened) ownershipRun none := ((Run.single configures).snoc captures).snoc destroys
  have fresh : MapperFresh (ownershipRun.flatMap (·.2)) := .of_distinct (imports ▸ List.nodup_singleton 2)
  exact ⟨imports, frees, cache_ownership 0 none false 1 false ownershipRun none run fresh⟩

end VirtualCamera
