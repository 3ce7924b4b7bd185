import VirtualCamera.Hal.Evolution
import VirtualCamera.Hal.HalWorld
import VirtualCamera.Hal.SlotMoves

set_option autoImplicit false

namespace VirtualCamera

open Descriptors Runs StableHal

namespace HalEvent

def issued (world : HalWorld) : HalEvent → Option (Slot × Int)
  | .control op => op.issued world.hal
  | _ => none

def resets (world : HalWorld) (slot : Slot) : HalEvent → Bool
  | .control op => op.resets world.hal slot
  | _ => false

def accepts (world : HalWorld) : HalEvent → Option (Slot × Submission)
  | .enqueue slot handle imported width height format timestampNs acquireFence configurationToken =>
    acceptedBy slot (submission imported width height format timestampNs acquireFence configurationToken)
      (world.hal.enqueue slot handle imported width height format timestampNs acquireFence
        configurationToken).1
  | .wake slot frame timedOut => acceptedBy slot frame (world.hal.enqueueWake slot frame timedOut).1
  | _ => none

end HalEvent

namespace HalWorld

variable {start world after : HalWorld} {past : List HalEvent} {event : HalEvent} {slot : Slot}
  {frame : Submission}

theorem step_deterministic (world : HalWorld) (event : HalEvent) (left right : HalWorld)
    (first : Step world event left) (second : Step world event right) : left = right :=
  first.2.trans second.2.symm

@[simp] theorem answer_hal (world : HalWorld) (slot : Slot) (outcome : EnqueueResult × StableHal) :
    (world.answer slot outcome).hal = outcome.2 := by
  obtain ⟨result, hal⟩ := outcome
  cases result <;> rfl

@[simp] theorem grant_hal (world : HalWorld) (slot : Int) (outcome : Option Acquired × StableHal) :
    (world.grant slot outcome).hal = outcome.2 := by
  obtain ⟨acquired, hal⟩ := outcome
  cases acquired <;> rfl

theorem perform_evolves (world : HalWorld) (event : HalEvent) :
    (∃ op, event = .control op ∧ (world.perform event).hal = op.run world.hal) ∨
      (∀ slot, event.resets world slot = false) ∧
        Evolves world.hal (event.accepts world) (world.perform event).hal := by
  have kernel : ∀ kernel, Quiet world.hal { world.hal with kernel } :=
    fun _ => .of_same rfl rfl fun _ => ⟨⟨rfl, rfl, rfl, rfl⟩, rfl⟩
  cases event with
  | control op => exact .inl ⟨op, rfl, rfl⟩
  | enqueue chosen handle imported width height format timestampNs acquireFence configurationToken =>
    rw [perform, answer_hal]
    exact .inr ⟨fun _ => rfl, (enqueue_enqueued world.hal chosen handle imported width height format
      timestampNs acquireFence configurationToken).evolves⟩
  | wake chosen submitted timedOut =>
    rw [perform, answer_hal]
    exact .inr ⟨fun _ => rfl, (enqueueWake_enqueued world.hal chosen submitted timedOut).evolves⟩
  | acquire index wantsFence wantsSequence afterSequence configurationToken =>
    rw [perform, grant_hal]
    exact .inr ⟨fun _ => rfl, .quiet (acquireLatest_read world.hal index wantsFence wantsSequence
      afterSequence configurationToken).quiet⟩
  | release reservation readFences =>
    exact .inr ⟨fun _ => rfl, .quiet (releaseFrame_quiet world.hal _ _ readFences)⟩
  | signal point => exact .inr ⟨fun _ => rfl, .quiet (kernel _)⟩
  | create points => exact .inr ⟨fun _ => rfl, .quiet (kernel _)⟩
  | close fd => exact .inr ⟨fun _ => rfl, .quiet (kernel _)⟩

theorem accepts_stored (accepts : event.accepts world = some (slot, frame)) :
    world.hal.admitted slot frame = true := by
  have outcome : ∀ (chosen : Slot) (submitted : Submission) (result : EnqueueResult × StableHal),
      Enqueued world.hal chosen submitted result →
      acceptedBy chosen submitted result.1 = some (slot, frame) →
      world.hal.admitted slot frame = true := by
    intro chosen submitted result enqueued accepted
    cases enqueued with
    | rejected => cases accepted
    | waiting => cases accepted
    | accepted middle passes control admitted idle single =>
      cases accepted
      exact admitted
  cases event with
  | enqueue chosen handle imported width height format timestampNs acquireFence configurationToken =>
    exact outcome _ _ _ (enqueue_enqueued world.hal chosen handle imported width height format timestampNs
      acquireFence configurationToken) accepts
  | wake chosen submitted timedOut =>
    exact outcome _ _ _ (enqueueWake_enqueued world.hal chosen submitted timedOut) accepts
  | _ => cases accepts

theorem mem_answer {slot chosen : Slot} {frame : Submission} {outcome : EnqueueResult × StableHal}
    (member : (slot, frame) ∈ (world.answer chosen outcome).waiting) :
    (slot, frame) ∈ world.waiting ∨ slot = chosen ∧ outcome.1 = .waiting frame := by
  obtain ⟨result, hal⟩ := outcome
  cases result with
  | returned status fence => exact .inl member
  | waiting submitted =>
    rcases List.mem_cons.mp member with same | member
    · cases same
      exact .inr ⟨rfl, rfl⟩
    · exact .inl member

theorem grant_waiting (world : HalWorld) (slot : Int) (outcome : Option Acquired × StableHal) :
    (world.grant slot outcome).waiting = world.waiting := by
  obtain ⟨acquired, hal⟩ := outcome
  cases acquired <;> rfl

theorem mem_waiting (allowed : world.Allowed event) (member : (slot, frame) ∈ (world.perform event).waiting) :
    (slot, frame) ∈ world.waiting ∨ world.hal.admitted slot frame = true := by
  cases event with
  | enqueue chosen handle imported width height format timestampNs acquireFence configurationToken =>
    rcases mem_answer member with member | ⟨rfl, waits⟩
    · exact .inl member
    · exact .inr (enqueue_waiting world.hal slot handle imported width height format timestampNs
        acquireFence configurationToken frame waits)
  | wake chosen submitted timedOut =>
    rcases mem_answer member with member | ⟨rfl, waits⟩
    · exact .inl (List.mem_of_mem_erase member)
    · have same : submitted = frame := by
        have outcome := enqueueWake_enqueued world.hal slot submitted timedOut
        generalize world.hal.enqueueWake slot submitted timedOut = result at outcome waits
        cases outcome with
        | waiting after => exact EnqueueResult.waiting.inj waits
        | _ => cases waits
      exact .inl (same ▸ allowed)
  | acquire index wantsFence wantsSequence afterSequence configurationToken =>
    rw [perform, grant_waiting] at member
    exact .inl member
  | _ => exact .inl member

def Configured (start : HalWorld) (past : List HalEvent) (slot : Slot) (token width height : Int) : Prop :=
  ∃ before owner fps since,
    Happened Step start past before
      (.control (.notifyStreamsConfigured (slot : Nat) owner width height fps)) since ∧
    (HalEvent.control (.notifyStreamsConfigured (slot : Nat) owner width height fps)).issued before =
      some (slot, token)

def Readied (start : HalWorld) (past : List HalEvent) (slot : Slot) (token : Int) : Prop :=
  ∃ before since,
    Happened Step start past before (.control (.setConfigurationReady (slot : Nat) token true)) since ∧
      (before.hal.setConfigurationReady (slot : Nat) token true).1 = .ok

structure Accepted (start : HalWorld) (past : List HalEvent) (world : HalWorld) (slot : Slot)
    (frame : Frame) (early : List HalEvent) (before : HalWorld) (event : HalEvent)
    (since : List HalEvent) (submitted : Submission) : Prop where
  past_eq : past = early ++ event :: since
  run : Run Step start early before
  allowed : before.Allowed event
  rest : Run Step (before.perform event) since world
  accepts : event.accepts before = some (slot, submitted)
  same : (before.hal.stored submitted).Same frame
  unreset : ∀ state reset later, Happened Step (before.perform event) since state reset later →
    reset.resets state slot = false

structure Entry (start : HalWorld) (past : List HalEvent) (slot : Slot) (control : SlotControl)
    (nextIdentity : Int) : Prop where
  natural : 0 ≤ control.configuration
  bounded : control.configuration ≤ nextIdentity
  owned : 0 < control.configuration → 0 < control.sessionOwner
  configured : 0 < control.configuration →
    Configured start past slot control.configuration control.sourceWidth control.sourceHeight
  readied : 0 < control.configuration → control.capabilities.isSome = true → control.ready = true →
    Readied start past slot control.configuration

structure Traced (start : HalWorld) (past : List HalEvent) (world : HalWorld) : Prop where
  natural : 0 ≤ world.hal.nextIdentity
  entries : ∀ slot, Entry start past slot (world.hal.slots slot) world.hal.nextIdentity
  waited : ∀ slot frame, (slot, frame) ∈ world.waiting →
    frame.configurationToken ≤ world.hal.nextIdentity
  offered : ∀ slot, ¬ (world.hal.latest slot).Gone →
    ∃ early before event since submitted,
      Accepted start past world slot (world.hal.latest slot) early before event since submitted

variable {token width height : Int}

theorem Configured.snoc (configured : Configured start past slot token width height) (next : HalEvent) :
    Configured start (past ++ [next]) slot token width height := by
  obtain ⟨before, owner, fps, since, happened, issued⟩ := configured
  exact ⟨before, owner, fps, since ++ [next], happened.snoc next, issued⟩

theorem Readied.snoc (readied : Readied start past slot token) (next : HalEvent) :
    Readied start (past ++ [next]) slot token := by
  obtain ⟨before, since, happened, okay⟩ := readied
  exact ⟨before, since ++ [next], happened.snoc next, okay⟩

theorem Accepted.snoc {before kept : Frame} {early since : List HalEvent} {there : HalWorld}
    {chosen : HalEvent} {submitted : Submission}
    (accepted : Accepted start past world slot before early there chosen since submitted)
    (next : Step world event after) (same : before.Same kept) (calm : event.resets world slot = false) :
    Accepted start (past ++ [event]) after slot kept early there chosen (since ++ [event]) submitted := by
  refine ⟨by simp [accepted.past_eq], accepted.run, accepted.allowed, .snoc accepted.rest next,
    accepted.accepts, ?_, fun state reset later happened => ?_⟩
  · obtain ⟨ahb, timestamp, sequence, configuration⟩ := accepted.same
    obtain ⟨ahb', timestamp', sequence', configuration'⟩ := same
    exact ⟨ahb'.trans ahb, timestamp'.trans timestamp, sequence'.trans sequence,
      configuration'.trans configuration⟩
  · rcases happened.of_snoc with ⟨_, rfl, run⟩ | ⟨earlier, _, happened⟩
    · rwa [run.unique step_deterministic accepted.rest]
    · exact accepted.unreset state reset earlier happened

theorem Entry.snoc {control : SlotControl} {earlier later : Int}
    (entry : Entry start past slot control earlier) (grows : earlier ≤ later) (next : HalEvent) :
    Entry start (past ++ [next]) slot control later :=
  ⟨entry.natural, entry.bounded.trans grows, entry.owned, fun positive => (entry.configured positive).snoc next,
    fun positive present ready => (entry.readied positive present ready).snoc next⟩

theorem Entry.of_zero {control : SlotControl} {nextIdentity : Int} (natural : 0 ≤ nextIdentity)
    (clear : control.configuration = 0) : Entry start past slot control nextIdentity := by
  refine ⟨by omega, by omega, ?_, ?_, ?_⟩ <;> exact fun positive => absurd positive (by omega)

theorem Entry.move {op : ControlOp} (run : Run Step start past world) (natural : 0 ≤ world.hal.nextIdentity)
    (entry : Entry start past slot (world.hal.slots slot) world.hal.nextIdentity)
    (move : SlotMove world.hal op slot (op.run world.hal)) :
    Entry start (past ++ [.control op]) slot ((op.run world.hal).slots slot)
      (op.run world.hal).nextIdentity := by
  have grows := op.nextIdentity_le world.hal
  have kept := entry.snoc grows (.control op)
  cases move with
  | same slots =>
    rw [slots]
    exact kept
  | cleared clears => exact .of_zero (natural.trans grows) clears.configuration
  | readied chosen positive okay slots =>
    rw [slots]
    refine ⟨kept.natural, kept.bounded, kept.owned, kept.configured, fun _ _ _ => ?_⟩
    change Readied start (past ++ [.control op]) slot (world.hal.slots slot).configuration
    generalize (world.hal.slots slot).configuration = token at chosen okay
    subst chosen
    exact ⟨world, [], .last run _, okay⟩
  | configured owner width height fps chosen issued positive slots next =>
    rw [slots, next]
    refine ⟨Int.le_add_one natural, le_rfl, fun _ => positive, fun _ => ?_, fun _ present ready => ?_⟩
    · subst chosen
      exact ⟨world, owner, fps, [], .last run _, issued⟩
    · change (world.hal.slots slot).capabilities.isNone = true at ready
      change (world.hal.slots slot).capabilities.isSome = true at present
      rw [Option.isNone_iff_eq_none] at ready
      simp [ready] at present

theorem Traced.waits (traced : Traced start past world) (allowed : world.Allowed event) (slot : Slot)
    (frame : Submission) (member : (slot, frame) ∈ (world.perform event).waiting) :
    frame.configurationToken ≤ world.hal.nextIdentity := by
  rcases mem_waiting allowed member with member | admitted
  · exact traced.waited slot frame member
  · have natural := traced.natural
    by_cases positive : 0 < frame.configurationToken
    · simp only [StableHal.admitted, if_pos positive, Bool.and_eq_true, beq_iff_eq] at admitted
      have bounded := (traced.entries slot).bounded
      omega
    · omega

theorem Traced.control (traced : Traced start past world) (run : Run Step start past world)
    (op : ControlOp) : Traced start (past ++ [.control op]) (world.perform (.control op)) := by
  have next : Step world (.control op) (world.perform (.control op)) := ⟨trivial, rfl⟩
  have grows := op.nextIdentity_le world.hal
  refine ⟨traced.natural.trans grows, fun slot => ?_, fun slot frame member => ?_, fun slot offered => ?_⟩
  · exact (traced.entries slot).move run traced.natural (op.moves world.hal traced.natural slot)
  · exact (traced.waited slot frame member).trans grows
  · obtain ⟨before, same⟩ := (op.passes world.hal).offered slot offered
    have calm : (HalEvent.control op).resets world slot = false := by
      rw [← Bool.not_eq_true]
      exact fun resets => offered (op.resets_reset traced.natural slot resets).gone
    obtain ⟨early, there, chosen, since, submitted, accepted⟩ := traced.offered slot before
    exact ⟨early, there, chosen, since ++ [HalEvent.control op], submitted, accepted.snoc next same calm⟩

theorem Accepted.last (run : Run Step start past world) (allowed : world.Allowed event)
    (accepts : event.accepts world = some (slot, frame)) :
    Accepted start (past ++ [event]) (world.perform event) slot (world.hal.stored frame) past world event []
      frame :=
  ⟨rfl, run, allowed, .refl, accepts, ⟨rfl, rfl, rfl, rfl⟩, fun _ _ _ happened => absurd happened happened_nil⟩

theorem Traced.evolves (traced : Traced start past world) (run : Run Step start past world)
    (allowed : world.Allowed event) (calm : ∀ slot, event.resets world slot = false)
    (evolves : Evolves world.hal (event.accepts world) (world.perform event).hal) :
    Traced start (past ++ [event]) (world.perform event) := by
  have next : Step world event (world.perform event) := ⟨allowed, rfl⟩
  have control : (world.perform event).hal.control = world.hal.control := by
    cases evolves with
    | quiet quiet => exact quiet.control
    | stored slot frame chosen admitted control => exact control
  have slots : (world.perform event).hal.slots = world.hal.slots := congrArg Control.slots control
  have identity : (world.perform event).hal.nextIdentity = world.hal.nextIdentity :=
    congrArg Control.nextIdentity control
  have carried : ∀ slot, ¬ (world.hal.latest slot).Gone →
      (world.hal.latest slot).Same ((world.perform event).hal.latest slot) →
      ∃ early before chosen since submitted, Accepted start (past ++ [event]) (world.perform event) slot
        ((world.perform event).hal.latest slot) early before chosen since submitted := by
    intro slot offered same
    obtain ⟨early, there, chosen, since, submitted, accepted⟩ := traced.offered slot offered
    exact ⟨early, there, chosen, since ++ [event], submitted, accepted.snoc next same (calm slot)⟩
  refine ⟨?_, ?_, ?_, fun slot offered => ?_⟩
  · rw [identity]
    exact traced.natural
  · rw [identity, slots]
    exact fun slot => (traced.entries slot).snoc le_rfl event
  · rw [identity]
    exact traced.waits allowed
  · cases evolves with
    | quiet quiet => exact carried slot (quiet.offered slot offered).1 (quiet.offered slot offered).2
    | stored chosen frame accepts admitted _ received latest others =>
      by_cases same : slot = chosen
      · subst same
        rw [latest]
        exact ⟨past, world, event, [], frame, .last run allowed accepts⟩
      · exact carried slot (others slot same offered).1 (others slot same offered).2

theorem Traced.step (traced : Traced start past world) (run : Run Step start past world)
    (next : Step world event after) : Traced start (past ++ [event]) after := by
  obtain ⟨allowed, rfl⟩ := next
  rcases world.perform_evolves event with ⟨op, rfl, _⟩ | ⟨calm, evolves⟩
  · exact traced.control run op
  · exact traced.evolves run allowed calm evolves

theorem traced (provider : Bool) (outcome : Nat → Bool) (events : List HalEvent) (world : HalWorld)
    (run : Run Step (boot provider outcome) events world) : Traced (boot provider outcome) events world := by
  refine run.invariant (Traced (boot provider outcome)) ?_ fun past middle event after earlier traced next =>
    traced.step earlier next
  refine ⟨le_rfl, fun slot => .of_zero le_rfl rfl, fun slot frame member => ?_, fun slot offered => ?_⟩
  · cases member
  · exact absurd (.inl rfl) offered

structure Barred (world : HalWorld) (slot : Slot) (token : Int) : Prop where
  natural : 0 ≤ world.hal.nextIdentity
  issued : token ≤ world.hal.nextIdentity
  barred : (0 < token ∧ (world.hal.slots slot).configuration ≠ token) ∨
    (token ≤ 0 ∧ 0 < (world.hal.slots slot).sessionOwner)

theorem identity_le (next : Step world event after) : world.hal.nextIdentity ≤ after.hal.nextIdentity := by
  obtain ⟨_, rfl⟩ := next
  rcases world.perform_evolves event with ⟨op, rfl, same⟩ | ⟨_, quiet | ⟨_, _, _, _, control⟩⟩
  · rw [same]
    exact op.nextIdentity_le world.hal
  · exact (congrArg Control.nextIdentity quiet.control).ge
  · exact (congrArg Control.nextIdentity control).ge

theorem run_identity_le {events : List HalEvent} (run : Run Step world events after) :
    world.hal.nextIdentity ≤ after.hal.nextIdentity :=
  run.invariant (fun _ state => world.hal.nextIdentity ≤ state.hal.nextIdentity) le_rfl
    fun _ _ _ _ _ earlier next => earlier.trans (identity_le next)

theorem Barred.step (barred : Barred world slot token) (next : Step world event after) :
    Barred after slot token := by
  have grows := identity_le next
  have natural := barred.natural
  refine ⟨natural.trans grows, barred.issued.trans grows, ?_⟩
  obtain ⟨_, rfl⟩ := next
  have same : (world.perform event).hal.control = world.hal.control →
      (0 < token ∧ ((world.perform event).hal.slots slot).configuration ≠ token) ∨
        (token ≤ 0 ∧ 0 < ((world.perform event).hal.slots slot).sessionOwner) := by
    intro control
    rw [show (world.perform event).hal.slots = world.hal.slots from congrArg Control.slots control]
    exact barred.barred
  rcases world.perform_evolves event with ⟨op, rfl, after⟩ | ⟨_, quiet | ⟨_, _, _, _, control⟩⟩
  · rw [after]
    have issued := barred.issued
    cases op.moves world.hal natural slot with
    | same slots =>
      rw [slots]
      exact barred.barred
    | cleared clears =>
      rw [clears.configuration]
      exact barred.barred.imp (fun old => ⟨old.1, by omega⟩) fun old => ⟨old.1, clears.owner old.2⟩
    | readied chosen positive okay slots =>
      rw [slots]
      exact barred.barred
    | configured owner width height fps chosen issues positive slots next =>
      rw [slots]
      refine barred.barred.imp (fun old => ⟨old.1, ?_⟩) fun old => ⟨old.1, positive⟩
      change world.hal.nextIdentity + 1 ≠ token
      omega
  · exact same quiet.control
  · exact same control

theorem Barred.run {events : List HalEvent} (barred : Barred world slot token)
    (run : Run Step world events after) : Barred after slot token :=
  run.invariant (fun _ state => Barred state slot token) barred fun _ _ _ _ _ barred next => barred.step next

theorem Barred.refuses (barred : Barred world slot frame.configurationToken) :
    event.accepts world ≠ some (slot, frame) := by
  intro accepts
  have admitted := accepts_stored accepts
  rcases barred.barred with ⟨positive, replaced⟩ | ⟨untokened, owned⟩
  · simp [StableHal.admitted, positive, replaced] at admitted
  · simp only [StableHal.admitted, if_neg (by omega : ¬ 0 < frame.configurationToken),
      Bool.and_eq_true, beq_iff_eq] at admitted
    omega

end HalWorld

def Acquired.frame (acquired : Acquired) (token : Int) : Frame :=
  { ahb := some acquired.ahb
    timestampNs := acquired.timestampNs
    sequence := acquired.sequence
    configurationToken := token }

namespace HalWorld

variable {start world after : HalWorld} {past : List HalEvent} {event : HalEvent} {slot : Slot}
  {frame : Submission} {token : Int}

structure HandedOut (start : HalWorld) (past : List HalEvent) (world : HalWorld) (slot : Slot)
    (token : Int) (frame : Frame) (early : List HalEvent) (before : HalWorld) (event : HalEvent)
    (since : List HalEvent) (submitted : Submission) : Prop where
  accepted : Accepted start past world slot frame early before event since submitted
  carried : submitted.configurationToken = token
  current : 0 < token → (before.hal.slots slot).configuration = token
  readied : 0 < token → (before.hal.slots slot).capabilities.isSome = true →
    Readied start early slot token
  required : 0 < token → (before.hal.slots slot).capabilities.isSome = true →
    Configured start early slot token submitted.width submitted.height ∧ submitted.format = 1

structure Lifecycle (start : HalWorld) (past : List HalEvent) (world : HalWorld) : Prop where
  increasing : ∀ (event : HalEvent) (slot : Slot) (token : Int), event.issued world = some (slot, token) →
    ∀ (before : HalWorld) (earlier : HalEvent) (since : List HalEvent) (other : Slot) (old : Int),
      Happened Step start past before earlier since → earlier.issued before = some (other, old) → old < token
  retired : ∀ (slot : Slot) (token : Int), token ≠ 0 → (world.hal.slots slot).configuration = token →
    ∀ (gap rest : List HalEvent) (middle final : HalWorld), Run Step world gap middle →
      (middle.hal.slots slot).configuration ≠ token → Run Step middle rest final →
      (final.hal.slots slot).configuration ≠ token
  handedOut : ∀ (index : Int) (wantsFence wantsSequence : Bool) (afterSequence : Nat) (token : Int)
    (acquired : Acquired),
    (world.hal.acquireLatest index wantsFence wantsSequence afterSequence token).1 = some acquired →
    ∃ slot early before event since submitted, validSlot index = some slot ∧
      HandedOut start past world slot token (acquired.frame token) early before event since submitted
  -- A submission that waits through a reset is not accepted after it.
  waited : ∀ (op : ControlOp) (slot : Slot) (frame : Submission), op.resets world.hal slot = true →
    (slot, frame) ∈ world.waiting → (0 < frame.configurationToken ∨ op.reopens world.hal = false) →
    ∀ (rest : List HalEvent) (final : HalWorld) (event : HalEvent),
      Run Step (world.perform (.control op)) rest final → event.accepts final ≠ some (slot, frame)

theorem Traced.increasing (run : Run Step start past world) (slot : Slot)
    (issued : event.issued world = some (slot, token)) (before : HalWorld) (earlier : HalEvent)
    (since : List HalEvent) (other : Slot) (old : Int)
    (happened : Happened Step start past before earlier since)
    (issues : earlier.issued before = some (other, old)) : old < token := by
  obtain ⟨next, ⟨_, rfl⟩, rest⟩ := happened.rest run step_deterministic
  have grows := run_identity_le rest
  cases event with
  | control op =>
    cases earlier with
    | control first =>
      have late := (ControlOp.issued_eq issued).1
      have early : (first.run before.hal).nextIdentity = old := (ControlOp.issued_eq issues).2
      change (first.run before.hal).nextIdentity ≤ world.hal.nextIdentity at grows
      omega
    | _ => cases issues
  | _ => cases issued

theorem Traced.retired (traced : Traced start past world) (slot : Slot) (differs : token ≠ 0)
    (current : (world.hal.slots slot).configuration = token) (gap rest : List HalEvent)
    (middle final : HalWorld) (run : Run Step world gap middle)
    (replaced : (middle.hal.slots slot).configuration ≠ token) (later : Run Step middle rest final) :
    (final.hal.slots slot).configuration ≠ token := by
  have natural := traced.natural
  have grows := run_identity_le run
  have positive := (traced.entries slot).natural
  have bounded := (traced.entries slot).bounded
  have barred : Barred middle slot token := ⟨by omega, by omega, .inl ⟨by omega, replaced⟩⟩
  rcases (barred.run later).barred with ⟨_, still⟩ | ⟨untokened, _⟩
  · exact still
  · omega

theorem Traced.handed (traced : Traced start past world) {index : Int}
    {wantsFence wantsSequence : Bool} {afterSequence : Nat} {acquired : Acquired}
    (granted : (world.hal.acquireLatest index wantsFence wantsSequence afterSequence token).1 =
      some acquired) :
    ∃ slot early before event since submitted, validSlot index = some slot ∧
      Accepted start past world slot (acquired.frame token) early before event since submitted := by
  have read := acquireLatest_read world.hal index wantsFence wantsSequence afterSequence token
  generalize world.hal.acquireLatest index wantsFence wantsSequence afterSequence token = outcome
    at read granted
  cases read with
  | refused => cases granted
  | granted slot middle ahb fence kernel valid passes control carries current present live newer copied =>
    cases granted
    have offered : ¬ (middle.latest slot).Gone := by
      rintro (absent | retiring)
      · simp [present] at absent
      · simp [live] at retiring
    obtain ⟨before, ahb', timestamp, sequence, configuration⟩ := passes.offered slot offered
    obtain ⟨early, there, event, since, submitted, accepted⟩ := traced.offered slot before
    obtain ⟨same, timestamp', sequence', configuration'⟩ := accepted.same
    refine ⟨slot, early, there, event, since, submitted, valid, { accepted with same := ?_ }⟩
    refine ⟨?_, timestamp.trans timestamp', sequence.trans sequence', ?_⟩
    · exact present.symm.trans (ahb'.trans same)
    · exact carries.symm.trans (configuration.trans configuration')

theorem HandedOut.of_accepted {early since : List HalEvent} {before : HalWorld} {kept : Frame}
    {submitted : Submission} (traced : Traced start early before)
    (accepted : Accepted start past world slot kept early before event since submitted)
    (carries : kept.configurationToken = token) :
    HandedOut start past world slot token kept early before event since submitted := by
  have carried : submitted.configurationToken = token := accepted.same.2.2.2.symm.trans carries
  have admitted := accepts_stored accepted.accepts
  have tokened : 0 < token → (before.hal.slots slot).configuration = token ∧
      ((before.hal.slots slot).capabilities.isNone = true ∨ (before.hal.slots slot).ready = true ∧
        submitted.width = (before.hal.slots slot).sourceWidth ∧
        submitted.height = (before.hal.slots slot).sourceHeight ∧ submitted.format = 1) := by
    intro positive
    simpa [StableHal.admitted, carried, positive, and_assoc] using admitted
  have entry := traced.entries slot
  have produced : 0 < token → (before.hal.slots slot).capabilities.isSome = true →
      (before.hal.slots slot).configuration = token ∧ (before.hal.slots slot).ready = true ∧
        submitted.width = (before.hal.slots slot).sourceWidth ∧
        submitted.height = (before.hal.slots slot).sourceHeight ∧ submitted.format = 1 := by
    intro positive present
    obtain ⟨current, absent | required⟩ := tokened positive
    · rw [Option.isNone_iff_eq_none] at absent
      simp [absent] at present
    · exact ⟨current, required⟩
  refine ⟨accepted, carried, fun positive => (tokened positive).1, fun positive present => ?_,
    fun positive present => ?_⟩
  · obtain ⟨current, ready, _⟩ := produced positive present
    rw [← current] at positive ⊢
    exact entry.readied positive present ready
  · obtain ⟨current, ready, width, height, format⟩ := produced positive present
    rw [← current] at positive ⊢
    rw [width, height]
    exact ⟨entry.configured positive, format⟩

theorem Traced.barred (traced : Traced start past world) (op : ControlOp)
    (resets : op.resets world.hal slot = true) (waits : (slot, frame) ∈ world.waiting)
    (tokened : 0 < frame.configurationToken ∨ op.reopens world.hal = false) :
    Barred (world.perform (.control op)) slot frame.configurationToken := by
  have natural := traced.natural
  have grows := op.nextIdentity_le world.hal
  have waited := traced.waited slot frame waits
  have reset := op.resets_reset natural slot resets
  refine ⟨natural.trans grows, waited.trans grows, ?_⟩
  by_cases positive : 0 < frame.configurationToken
  · refine .inl ⟨positive, ?_⟩
    change ((op.run world.hal).slots slot).configuration ≠ frame.configurationToken
    rcases reset.configuration with clear | renewed <;> omega
  · exact .inr ⟨by omega, reset.owner (traced.entries slot).owned (tokened.resolve_left positive)⟩

theorem configuration_lifecycle (provider : Bool) (outcome : Nat → Bool) (events : List HalEvent)
    (world : HalWorld) (run : Run Step (boot provider outcome) events world) :
    Lifecycle (boot provider outcome) events world := by
  have reached := traced provider outcome
  have now := reached events world run
  refine ⟨?_, ?_, ?_, ?_⟩
  · intro event slot token issued
    exact Traced.increasing run slot issued
  · intro slot token
    exact now.retired slot
  · intro index wantsFence wantsSequence afterSequence token acquired granted
    obtain ⟨slot, early, before, event, since, submitted, valid, accepted⟩ := now.handed granted
    exact ⟨slot, early, before, event, since, submitted, valid,
      .of_accepted (reached early before accepted.run) accepted rfl⟩
  · intro op slot frame resets waits tokened rest final event later
    exact ((now.barred op resets waits tokened).run later).refuses

def producerEvents : List HalEvent :=
  [ .control (.setCallback (some 3) (some 6))
  , .control (.registerProducer 0 .diagnostic (some 3))
  , .control (.notifyStreamsConfigured 0 1 640 480 30)
  , .control (.setConfigurationReady 0 1 true)
  , .enqueue 0 true (some 5) 640 480 1 9 none 1
  , .acquire 0 true true 0 1
  , .enqueue 0 true (some 6) 640 480 1 10 none 1 ]

theorem configuration_lifecycle_producer :
    Lifecycle (boot true fun _ => true) producerEvents
      ((boot true fun _ => true).performAll producerEvents) :=
  configuration_lifecycle true (fun _ => true) producerEvents _ (Legal.run (by decide +kernel))

end HalWorld

end VirtualCamera
