import VirtualCamera.Hal.Bystanders
import VirtualCamera.Hal.TwinOperations

set_option autoImplicit false

namespace VirtualCamera

open Descriptors Renaming Runs StableHal

inductive Reply where
  | status (status : Status) (presence : List (Slot × Bool))
  | notified (token : Int) (message : Option (Binder × HalMessage))
  | enqueued (result : EnqueueResult)
  | acquired (result : Option Acquired)
  | done

inductive Reply.Alike (names : Names) (device : Point → Prop) (left right : Kernel) : Reply → Reply → Prop where
  | status (status : Status) (presence : List (Slot × Bool)) :
      Alike names device left right (.status status presence) (.status status presence)
  | notified {token other : Int} (named : (token, other) ∈ names.identities)
      {message message' : Option (Binder × HalMessage)}
      (messages : Option.Rel (MessageAlike names) message message') :
      Alike names device left right (.notified token message) (.notified other message')
  | enqueued {result other : EnqueueResult} (results : EnqueueResult.Alike names device left right result other) :
      Alike names device left right (.enqueued result) (.enqueued other)
  | acquired {result other : Option Acquired}
      (results : Option.Rel (Acquired.Alike names device left right) result other) :
      Alike names device left right (.acquired result) (.acquired other)
  | done : Alike names device left right .done .done

def ControlOp.reply (hal : StableHal) : ControlOp → Reply
  | .setCallback callback version =>
    .status (hal.setCallback callback version).1 (hal.setCallback callback version).2.1
  | .registerProducer slot descriptor owner =>
    .status (hal.registerProducer slot descriptor owner).1 (hal.registerProducer slot descriptor owner).2.1
  | .removeProducer slot registration owner =>
    .status (hal.removeProducer slot registration owner).1 (hal.removeProducer slot registration owner).2.1
  | .setConfigurationReady slot token ready => .status (hal.setConfigurationReady slot token ready).1 []
  | .setCameraPresent slot present => .status (hal.setCameraPresent slot present).1 []
  | .allocateSessionIdentity => .notified hal.allocateSessionIdentity.1 none
  | .notifyStreamsConfigured slot owner width height fps =>
    .notified (hal.notifyStreamsConfigured slot owner width height fps).1
      (hal.notifyStreamsConfigured slot owner width height fps).2.1
  | .notifyCameraClosed slot owner token => .notified 0 (hal.notifyCameraClosed slot owner token).1

namespace HalWorld

def reply (world : HalWorld) : HalEvent → Reply
  | .control op => op.reply world.hal
  | .enqueue slot handle imported width height format timestampNs acquireFence token =>
    .enqueued (world.hal.enqueue slot handle imported width height format timestampNs acquireFence token).1
  | .wake slot frame timedOut => .enqueued (world.hal.enqueueWake slot frame timedOut).1
  | .acquire slot wantsFence wantsSequence afterSequence token =>
    .acquired (world.hal.acquireLatest slot wantsFence wantsSequence afterSequence token).1
  | .release .. | .signal _ | .create _ | .close _ => .done

end HalWorld

section Calls

variable (names : Names) (device : Point → Prop) (slot : Slot)

def HalEvent.Elsewhere (world : HalWorld) : HalEvent → Prop
  | .control op => op.elsewhere slot = true
  | .enqueue chosen .. => slot ≠ chosen
  -- The condition variable is shared: a waiter may wake for the sake of another slot.
  | .wake chosen _ timedOut => slot ≠ chosen ∨ (timedOut = false ∧ (world.hal.latest chosen).inflight ≠ 0)
  | .acquire index .. => validSlot index ≠ some slot
  | .release reservation _ => slot ≠ reservation.slot
  | .signal point => ¬ device point
  | .create _ => True
  | .close _ => True

inductive SameCall (left right : HalWorld) : HalEvent → HalEvent → Prop where
  | setCallback (callback : Option Binder) (version : Option Int)
      (kept : (left.hal.setCallback callback version).1 = .ok →
        left.hal.callback = none ∨ left.hal.callback = callback) :
      SameCall left right (.control (.setCallback callback version)) (.control (.setCallback callback version))
  | registerProducer {index : Int} (here : validSlot index = some slot) (descriptor : ProducerCapabilities)
      (owner : Option Binder) :
      SameCall left right (.control (.registerProducer index descriptor owner))
        (.control (.registerProducer index descriptor owner))
  | removeProducer {index : Int} (here : validSlot index = some slot) (registration : Int)
      (owner : Option Binder) :
      SameCall left right (.control (.removeProducer index registration owner))
        (.control (.removeProducer index registration owner))
  | setConfigurationReady {index : Int} (here : validSlot index = some slot) {token other : Int}
      (tokens : (token, other) ∈ names.identities) (ready : Bool) :
      SameCall left right (.control (.setConfigurationReady index token ready))
        (.control (.setConfigurationReady index other ready))
  | setCameraPresent {index : Int} (here : validSlot index = some slot) (present : Bool) :
      SameCall left right (.control (.setCameraPresent index present)) (.control (.setCameraPresent index present))
  | allocateSessionIdentity :
      SameCall left right (.control .allocateSessionIdentity) (.control .allocateSessionIdentity)
  | notifyStreamsConfigured {index : Int} (here : validSlot index = some slot) {owner other : Int}
      (owners : (owner, other) ∈ names.identities) (width height fps : Int) :
      SameCall left right (.control (.notifyStreamsConfigured index owner width height fps))
        (.control (.notifyStreamsConfigured index other width height fps))
  | notifyCameraClosed {index : Int} (here : validSlot index = some slot) {owner owner' token token' : Int}
      (owners : (owner, owner') ∈ names.identities) (tokens : (token, token') ∈ names.identities) :
      SameCall left right (.control (.notifyCameraClosed index owner token))
        (.control (.notifyCameraClosed index owner' token'))
  | enqueue (handle : Bool) (imported : Option Ahb) (width height format timestampNs : Int)
      {fence other : Option Fd}
      (fences : Option.Rel (Kernel.Alike device left.hal.kernel right.hal.kernel) fence other) {token token' : Int}
      (tokens : (token, token') ∈ names.identities) :
      SameCall left right (.enqueue slot handle imported width height format timestampNs fence token)
        (.enqueue slot handle imported width height format timestampNs other token')
  | wake {frame other : Submission} (alike : frame.Alike names device left.hal.kernel right.hal.kernel other)
      (timedOut : Bool) : SameCall left right (.wake slot frame timedOut) (.wake slot other timedOut)
  | acquire {index : Int} (here : validSlot index = some slot) (wantsFence wantsSequence : Bool)
      {afterSequence other : Nat} (sequences : (afterSequence, other) ∈ names.sequences) {token token' : Int}
      (tokens : (token, token') ∈ names.identities) :
      SameCall left right (.acquire index wantsFence wantsSequence afterSequence token)
        (.acquire index wantsFence wantsSequence other token')
  | release {reservation other : Reservation} (here : reservation.slot = slot) (there : other.slot = slot)
      (ahb : reservation.ahb = other.ahb) {fences fences' : List Fd}
      (alike : List.Forall₂ (Kernel.Alike device left.hal.kernel right.hal.kernel) fences fences') :
      SameCall left right (.release reservation fences) (.release other fences')
  | signal (point : Point) : SameCall left right (.signal point) (.signal point)

end Calls

section Calls

variable {names : Names} {device : Point → Prop} {slot : Slot} {final : Nat} {left right : HalWorld}
  {event other : HalEvent}

theorem SameCall.mono {later : Names} (same : SameCall names device slot left right event other)
    (within : names.Within later) : SameCall later device slot left right event other := by
  cases same with
  | setCallback callback version kept => exact .setCallback callback version kept
  | registerProducer here descriptor owner => exact .registerProducer here descriptor owner
  | removeProducer here registration owner => exact .removeProducer here registration owner
  | setConfigurationReady here tokens ready => exact .setConfigurationReady here (within.identities tokens) ready
  | setCameraPresent here present => exact .setCameraPresent here present
  | allocateSessionIdentity => exact .allocateSessionIdentity
  | notifyStreamsConfigured here owners width height fps =>
    exact .notifyStreamsConfigured here (within.identities owners) width height fps
  | notifyCameraClosed here owners tokens =>
    exact .notifyCameraClosed here (within.identities owners) (within.identities tokens)
  | enqueue handle imported width height format timestampNs fences tokens =>
    exact .enqueue handle imported width height format timestampNs fences (within.identities tokens)
  | wake alike timedOut => exact .wake (alike.mono within) timedOut
  | acquire here wantsFence wantsSequence sequences tokens =>
    exact .acquire here wantsFence wantsSequence (within.sequences sequences) (within.identities tokens)
  | release here there ahb alike => exact .release here there ahb alike
  | signal point => exact .signal point

theorem SameCall.perform (same : SameCall names device slot left right event other) (ordered : names.Ordered)
    (twins : Twins names device slot left.hal right.hal)
    (identity : (left.perform event).hal.nextIdentity ≠ left.hal.nextIdentity →
      (left.hal.nextIdentity + 1, right.hal.nextIdentity + 1) ∈ names.identities)
    (sequence : (left.perform event).hal.framesReceived ≠ left.hal.framesReceived →
      (left.hal.framesReceived + 1, right.hal.framesReceived + 1) ∈ names.sequences)
    (room : left.hal.nextIdentity < int64Max) (room' : right.hal.nextIdentity < int64Max)
    (agrees : Kernel.Agrees final left.hal.kernel right.hal.kernel)
    (used : (left.perform event).hal.kernel.calls ≤ final) :
    Reply.Alike names device (left.perform event).hal.kernel (right.perform other).hal.kernel (left.reply event)
        (right.reply other) ∧
      Kept names device slot left.hal right.hal (left.perform event).hal (right.perform other).hal := by
  cases same with
  | setCallback callback version kept =>
    obtain ⟨status, presence, together⟩ := setCallback_twins twins callback version kept
    refine ⟨?_, together.kept⟩
    simp only [HalWorld.reply, ControlOp.reply, status, presence]
    exact .status _ _
  | registerProducer here descriptor owner =>
    obtain ⟨status, presence, together⟩ := registerProducer_twins twins ordered descriptor owner here
    refine ⟨?_, together.kept⟩
    simp only [HalWorld.reply, ControlOp.reply, status, presence]
    exact .status _ _
  | removeProducer here registration owner =>
    obtain ⟨status, presence, together⟩ :=
      removeProducer_twins twins ordered registration owner here identity room room' agrees used
    refine ⟨?_, together.kept⟩
    simp only [HalWorld.reply, ControlOp.reply, status, presence]
    exact .status _ _
  | setConfigurationReady here tokens ready =>
    obtain ⟨status, together⟩ := setConfigurationReady_twins twins ordered tokens ready here agrees used
    refine ⟨?_, together.kept⟩
    simp only [HalWorld.reply, ControlOp.reply, status]
    exact .status _ _
  | setCameraPresent here present =>
    obtain ⟨status, together⟩ :=
      setCameraPresent_twins twins ordered present here identity room room' agrees used
    refine ⟨?_, together.kept⟩
    simp only [HalWorld.reply, ControlOp.reply, status]
    exact .status _ _
  | allocateSessionIdentity =>
    obtain ⟨token, together⟩ := allocateSessionIdentity_twins twins identity room room'
    exact ⟨.notified token .none, together.kept⟩
  | notifyStreamsConfigured here owners width height fps =>
    obtain ⟨token, messages, together⟩ :=
      notifyStreamsConfigured_twins twins ordered owners width height fps here identity room room' agrees used
    exact ⟨.notified token messages, together.kept⟩
  | notifyCameraClosed here owners tokens =>
    obtain ⟨messages, together⟩ := notifyCameraClosed_twins twins ordered owners tokens here agrees used
    exact ⟨.notified ordered.none messages, together.kept⟩
  | enqueue handle imported width height format timestampNs fences tokens =>
    simp only [HalWorld.perform, HalWorld.answer_hal] at sequence used ⊢
    obtain ⟨results, together⟩ :=
      enqueue_twins twins ordered handle imported width height format timestampNs fences tokens sequence agrees used
    exact ⟨.enqueued results, together.kept⟩
  | wake alike timedOut =>
    simp only [HalWorld.perform, HalWorld.answer_hal] at sequence used ⊢
    obtain ⟨results, together⟩ := enqueueWake_twins twins ordered alike timedOut sequence agrees used
    exact ⟨.enqueued results, together.kept⟩
  | acquire here wantsFence wantsSequence sequences tokens =>
    simp only [HalWorld.perform, HalWorld.grant_hal] at used ⊢
    obtain ⟨results, together⟩ :=
      acquireLatest_twins twins ordered wantsFence wantsSequence sequences tokens here agrees used
    exact ⟨.acquired results, together.kept⟩
  | @release reservation reservation' here there ahb fences fences' alike =>
    have valid : validSlot (reservation.slot : Nat) = some slot := by rw [validSlot_coe, here]
    have together := releaseFrame_twins twins ordered reservation.ahb alike valid agrees used
    refine ⟨.done, ?_⟩
    simp only [HalWorld.perform, there, ← ahb]
    simp only [here] at together ⊢
    exact together.kept
  | signal point => exact ⟨.done, add_comm _ _, add_comm _ _, twins.signal point⟩

end Calls

namespace HalWorld

variable {device : Point → Prop} {slot : Slot} {world after : HalWorld} {event : HalEvent}

theorem received_le (next : Step world event after) : world.hal.framesReceived ≤ after.hal.framesReceived := by
  obtain ⟨_, rfl⟩ := next
  rcases world.perform_evolves event with ⟨op, rfl, same⟩ | ⟨_, quiet | ⟨_, _, _, _, _, counted⟩⟩
  · rw [same, (op.passes world.hal).framesReceived]
  · exact quiet.framesReceived.ge
  · rw [counted]
    exact Nat.le_succ _

theorem elsewhere_untouched (elsewhere : event.Elsewhere device slot world) :
    Untouched device slot world.hal (world.perform event).hal := by
  cases event with
  | control op => exact op.untouched elsewhere world.hal
  | enqueue =>
    rw [perform, answer_hal]
    exact enqueue_untouched world.hal elsewhere ..
  | wake chosen frame timedOut =>
    rw [perform, answer_hal]
    rcases elsewhere with differs | ⟨early, read⟩
    · exact (Untouched.refl world.hal).enqueueWake differs frame timedOut
    · simp only [StableHal.enqueueWake, early, beq_iff_eq, read, if_false, Bool.false_eq_true]
      exact .refl world.hal
  | acquire =>
    rw [perform, grant_hal]
    exact acquireLatest_untouched world.hal elsewhere ..
  | release reservation fences => exact releaseFrame_untouched world.hal elsewhere _ fences
  | signal point => exact ⟨rfl, rfl, rfl, rfl, Kernel.grown_signal _ elsewhere⟩
  | create points => exact (Untouched.refl world.hal).onward (Kernel.later_create _ points)
  | close fd => exact (Untouched.refl world.hal).onward (Kernel.later_close _ fd)

end HalWorld

structure HalPair where
  left : HalWorld
  right : HalWorld
  names : Names

inductive PairMove where
  | first (event : HalEvent)
  | second (event : HalEvent)
  | both (event other : HalEvent)

def PairMove.left : PairMove → List HalEvent
  | .first event => [event]
  | .second _ => []
  | .both event _ => [event]

def PairMove.right : PairMove → List HalEvent
  | .first _ => []
  | .second event => [event]
  | .both _ other => [other]

namespace HalPair

-- Both runs start with nothing stored; `given` names the numbers that no run has issued.
def boot (provider : Bool) (outcome outcome' : Nat → Bool) (given : Names) : HalPair where
  left := .boot provider outcome
  right := .boot provider outcome'
  names := given

def named (pair : HalPair) (left : HalWorld) : Names where
  identities :=
    if left.hal.nextIdentity = pair.left.hal.nextIdentity then pair.names.identities
    else (pair.left.hal.nextIdentity + 1, pair.right.hal.nextIdentity + 1) :: pair.names.identities
  sequences :=
    if left.hal.framesReceived = pair.left.hal.framesReceived then pair.names.sequences
    else (pair.left.hal.framesReceived + 1, pair.right.hal.framesReceived + 1) :: pair.names.sequences

def perform (pair : HalPair) : PairMove → HalPair
  | .first event => { pair with left := pair.left.perform event }
  | .second event => { pair with right := pair.right.perform event }
  | .both event other =>
    { left := pair.left.perform event
      right := pair.right.perform other
      names := pair.named (pair.left.perform event) }

-- The slot is called in both runs: what fails, fails in both, and the counters have room. A number that was guessed
-- before its issue is on the same side of the issued one in both.
structure Called (device : Point → Prop) (slot : Slot) (given : Names) (pair : HalPair)
    (event other : HalEvent) : Prop where
  first : pair.left.Allowed event
  second : pair.right.Allowed other
  same : SameCall pair.names device slot pair.left pair.right event other
  outcomes : Kernel.Agrees (pair.left.perform event).hal.kernel.calls pair.left.hal.kernel pair.right.hal.kernel
  room : pair.left.hal.nextIdentity < int64Max
  room' : pair.right.hal.nextIdentity < int64Max
  identities : (pair.left.perform event).hal.nextIdentity ≠ pair.left.hal.nextIdentity →
    Fits given.identities (pair.left.hal.nextIdentity + 1) (pair.right.hal.nextIdentity + 1)
  sequences : (pair.left.perform event).hal.framesReceived ≠ pair.left.hal.framesReceived →
    Fits given.sequences (pair.left.hal.framesReceived + 1) (pair.right.hal.framesReceived + 1)

def Permits (device : Point → Prop) (slot : Slot) (given : Names) (pair : HalPair) : PairMove → Prop
  | .first event => pair.left.Allowed event ∧ event.Elsewhere device slot pair.left
  | .second event => pair.right.Allowed event ∧ event.Elsewhere device slot pair.right
  | .both event other => Called device slot given pair event other

def Step (device : Point → Prop) (slot : Slot) (given : Names) (pair : HalPair) (move : PairMove)
    (after : HalPair) : Prop := pair.Permits device slot given move ∧ after = pair.perform move

structure Isolated (device : Point → Prop) (slot : Slot) (given : Names) (pair : HalPair) : Prop where
  ordered : pair.names.Ordered
  twins : Twins pair.names device slot pair.left.hal pair.right.hal
  identities : ∀ name ∈ pair.names.identities, name ∈ given.identities ∨
    name.1 ≤ pair.left.hal.nextIdentity ∧ name.2 ≤ pair.right.hal.nextIdentity
  sequences : ∀ name ∈ pair.names.sequences, name ∈ given.sequences ∨
    name.1 ≤ pair.left.hal.framesReceived ∧ name.2 ≤ pair.right.hal.framesReceived

variable {device : Point → Prop} {slot : Slot} {given : Names} {pair after : HalPair} {event other : HalEvent}
  {move : PairMove}

theorem boot_isolated (ordered : given.Ordered) (provider : Bool) (outcome outcome' : Nat → Bool) :
    Isolated device slot given (boot provider outcome outcome' given) where
  ordered := ordered
  twins :=
    { provider := rfl
      callback := rfl
      control := ⟨ordered.none, ordered.none, rfl, rfl, rfl, rfl, rfl⟩
      frame := ordered.empty_frame
      work := fun _ _ => rfl }
  identities _ member := .inl member
  sequences _ member := .inl member

theorem named_within (pair : HalPair) (left : HalWorld) : pair.names.Within (pair.named left) where
  identities name member := by
    simp only [named]
    split
    next => exact member
    next => exact List.mem_cons_of_mem _ member
  sequences name member := by
    simp only [named]
    split
    next => exact member
    next => exact List.mem_cons_of_mem _ member

theorem Isolated.first (isolated : Isolated device slot given pair) (allowed : pair.left.Allowed event)
    (elsewhere : event.Elsewhere device slot pair.left) :
    Isolated device slot given (pair.perform (.first event)) := by
  have identity := HalWorld.identity_le ⟨allowed, rfl⟩
  have received := HalWorld.received_le ⟨allowed, rfl⟩
  refine ⟨isolated.ordered, isolated.twins.first (HalWorld.elsewhere_untouched elsewhere), ?_, ?_⟩
  · exact fun name member => (isolated.identities name member).imp_right fun bounds =>
      ⟨bounds.1.trans identity, bounds.2⟩
  · exact fun name member => (isolated.sequences name member).imp_right fun bounds =>
      ⟨bounds.1.trans received, bounds.2⟩

theorem Isolated.second (isolated : Isolated device slot given pair) (allowed : pair.right.Allowed event)
    (elsewhere : event.Elsewhere device slot pair.right) :
    Isolated device slot given (pair.perform (.second event)) := by
  have identity := HalWorld.identity_le ⟨allowed, rfl⟩
  have received := HalWorld.received_le ⟨allowed, rfl⟩
  refine ⟨isolated.ordered, isolated.twins.second (HalWorld.elsewhere_untouched elsewhere), ?_, ?_⟩
  · exact fun name member => (isolated.identities name member).imp_right fun bounds =>
      ⟨bounds.1, bounds.2.trans identity⟩
  · exact fun name member => (isolated.sequences name member).imp_right fun bounds =>
      ⟨bounds.1, bounds.2.trans received⟩

theorem Called.ordered (called : Called device slot given pair event other)
    (isolated : Isolated device slot given pair) : (pair.named (pair.left.perform event)).Ordered := by
  have within := pair.named_within (pair.left.perform event)
  refine ⟨?_, ?_, within.identities isolated.ordered.none, within.sequences isolated.ordered.empty⟩
  · simp only [named]
    split
    next => exact isolated.ordered.identities
    next issued =>
      refine isolated.ordered.identities.cons fun name member => ?_
      rcases isolated.identities name member with guessed | ⟨first, second⟩
      · exact called.identities issued name guessed
      · constructor <;> constructor <;> intro less <;> omega
  · simp only [named]
    split
    next => exact isolated.ordered.sequences
    next stored =>
      refine isolated.ordered.sequences.cons fun name member => ?_
      rcases isolated.sequences name member with guessed | ⟨first, second⟩
      · exact called.sequences stored name guessed
      · constructor <;> constructor <;> intro less <;> omega

theorem Called.perform (called : Called device slot given pair event other)
    (isolated : Isolated device slot given pair) :
    Reply.Alike (pair.named (pair.left.perform event)) device (pair.left.perform event).hal.kernel
        (pair.right.perform other).hal.kernel (pair.left.reply event) (pair.right.reply other) ∧
      Kept (pair.named (pair.left.perform event)) device slot pair.left.hal pair.right.hal
        (pair.left.perform event).hal (pair.right.perform other).hal := by
  have within := pair.named_within (pair.left.perform event)
  refine (called.same.mono within).perform (called.ordered isolated) (isolated.twins.mono within) ?_ ?_ called.room
    called.room' called.outcomes le_rfl
  · intro issued
    simp only [named]
    rw [if_neg issued]
    exact List.mem_cons_self
  · intro stored
    simp only [named]
    rw [if_neg stored]
    exact List.mem_cons_self

theorem Called.isolated (called : Called device slot given pair event other)
    (isolated : Isolated device slot given pair) :
    Isolated device slot given (pair.perform (.both event other)) := by
  have kept := (called.perform isolated).2
  have identity := HalWorld.identity_le ⟨called.first, rfl⟩
  have received := HalWorld.received_le ⟨called.first, rfl⟩
  have counted := kept.identities
  have arrived := kept.received
  refine ⟨called.ordered isolated, kept.twins, ?_, ?_⟩
  · intro name member
    simp only [HalPair.perform, named] at member ⊢
    split at member
    next =>
      refine (isolated.identities name member).imp_right fun bounds => ?_
      omega
    next issued =>
      rcases List.mem_cons.mp member with rfl | earlier
      · right
        omega
      · refine (isolated.identities name earlier).imp_right fun bounds => ?_
        omega
  · intro name member
    simp only [HalPair.perform, named] at member ⊢
    split at member
    next =>
      refine (isolated.sequences name member).imp_right fun bounds => ?_
      omega
    next stored =>
      rcases List.mem_cons.mp member with rfl | earlier
      · right
        omega
      · refine (isolated.sequences name earlier).imp_right fun bounds => ?_
        omega

theorem Isolated.step (isolated : Isolated device slot given pair)
    (next : Step device slot given pair move after) :
    Isolated device slot given after := by
  obtain ⟨permits, rfl⟩ := next
  cases move with
  | first event => exact isolated.first permits.1 permits.2
  | second event => exact isolated.second permits.1 permits.2
  | both event other => exact Called.isolated permits isolated

theorem run_isolated {moves : List PairMove} (ordered : given.Ordered) {provider : Bool}
    {outcome outcome' : Nat → Bool}
    (run : Run (Step device slot given) (boot provider outcome outcome' given) moves pair) :
    Isolated device slot given pair :=
  run.invariant (fun _ => Isolated device slot given) (boot_isolated ordered provider outcome outcome')
    fun _ _ _ _ _ isolated next => isolated.step next

theorem sides_run {moves : List PairMove} {provider : Bool} {outcome outcome' : Nat → Bool}
    (run : Run (Step device slot given) (boot provider outcome outcome' given) moves pair) :
    Run HalWorld.Step (.boot provider outcome) (moves.flatMap PairMove.left) pair.left ∧
      Run HalWorld.Step (.boot provider outcome') (moves.flatMap PairMove.right) pair.right := by
  induction run with
  | refl => exact ⟨.refl, .refl⟩
  | @snoc moves middle final move run next ih =>
    obtain ⟨permits, rfl⟩ := next
    rw [List.flatMap_append, List.flatMap_append, List.flatMap_singleton, List.flatMap_singleton]
    cases move with
    | first event => exact ⟨ih.1.snoc ⟨permits.1, rfl⟩, by simpa [PairMove.right, HalPair.perform] using ih.2⟩
    | second event => exact ⟨by simpa [PairMove.left, HalPair.perform] using ih.1, ih.2.snoc ⟨permits.1, rfl⟩⟩
    | both event other => exact ⟨ih.1.snoc ⟨permits.first, rfl⟩, ih.2.snoc ⟨permits.second, rfl⟩⟩

theorem slot_isolation {moves : List PairMove} {provider : Bool} {outcome outcome' : Nat → Bool}
    (ordered : given.Ordered)
    (run : Run (Step device slot given) (boot provider outcome outcome' given) moves pair) :
    Run HalWorld.Step (.boot provider outcome) (moves.flatMap PairMove.left) pair.left ∧
      Run HalWorld.Step (.boot provider outcome') (moves.flatMap PairMove.right) pair.right ∧
      pair.names.Ordered ∧
      (pair.left.hal.slots slot).Alike pair.names (pair.right.hal.slots slot) ∧
      (pair.left.hal.latest slot).Alike pair.names device pair.left.hal.kernel pair.right.hal.kernel
        (pair.right.hal.latest slot) ∧
      SameAnswers pair.names slot pair.left.hal pair.right.hal ∧
      ∀ event other after, Step device slot given pair (.both event other) after →
        Reply.Alike after.names device after.left.hal.kernel after.right.hal.kernel (pair.left.reply event)
          (pair.right.reply other) := by
  have isolated := run_isolated ordered run
  have sides := sides_run run
  refine ⟨sides.1, sides.2, isolated.ordered, isolated.twins.control, isolated.twins.frame,
    isolated.twins.answers isolated.ordered, ?_⟩
  rintro event other after ⟨called, rfl⟩
  exact (Called.perform called isolated).1

theorem run_on {start : HalPair} {moves : List PairMove} (run : Run (Step device slot given) start moves pair)
    (move : PairMove) (permits : pair.Permits device slot given move) :
    Run (Step device slot given) start (moves ++ [move]) (pair.perform move) := run.snoc ⟨permits, rfl⟩

theorem slot_isolation_neighbour : ∃ pair : HalPair,
    (pair.left.hal.latest 1).ahb = some 7 ∧ (pair.right.hal.latest 1).ahb = none ∧
      (pair.left.hal.latest 0).sequence = 2 ∧ (pair.right.hal.latest 0).sequence = 1 ∧
      (pair.left.hal.latest 0).Alike pair.names (fun _ => True) pair.left.hal.kernel pair.right.hal.kernel
        (pair.right.hal.latest 0) := by
  have ordered : Names.Ordered ⟨[(0, 0)], [(0, 0)]⟩ := by
    refine ⟨?_, ?_, List.mem_singleton_self _, List.mem_singleton_self _⟩ <;> simp [InOrder]
  have start : Run (Step (fun _ => True) 0 ⟨[(0, 0)], [(0, 0)]⟩)
      (boot true (fun _ => true) (fun _ => true) ⟨[(0, 0)], [(0, 0)]⟩) [] _ := .refl
  have owned := run_on start (.first (.control .allocateSessionIdentity)) ⟨trivial, rfl⟩
  have opened := run_on owned (.first (.control (.notifyStreamsConfigured 1 1 640 480 30))) ⟨trivial, rfl⟩
  have differs : (0 : Slot) ≠ 1 := by decide
  have filled := run_on opened (.first (.enqueue 1 true (some 7) 640 480 1 5 none 2)) ⟨by decide, differs⟩
  have claimed := run_on filled (.both (.control .allocateSessionIdentity) (.control .allocateSessionIdentity))
    { first := trivial
      second := trivial
      same := .allocateSessionIdentity
      outcomes := fun _ _ => rfl
      room := by decide
      room' := by decide
      identities := fun _ => by unfold Fits; decide
      sequences := fun stored => absurd rfl stored }
  have configured := run_on claimed
    (.both (.control (.notifyStreamsConfigured 0 3 640 480 30))
      (.control (.notifyStreamsConfigured 0 1 640 480 30)))
    { first := trivial
      second := trivial
      same := .notifyStreamsConfigured rfl (by decide) 640 480 30
      outcomes := fun _ _ => rfl
      room := by decide
      room' := by decide
      identities := fun _ => by unfold Fits; decide
      sequences := fun stored => absurd rfl stored }
  have stored := run_on configured
    (.both (.enqueue 0 true (some 9) 640 480 1 6 none 4) (.enqueue 0 true (some 9) 640 480 1 6 none 2))
    { first := by decide
      second := by decide
      same := .enqueue true (some 9) 640 480 1 6 .none (by decide)
      outcomes := fun _ _ => rfl
      room := by decide
      room' := by decide
      identities := fun issued => absurd rfl issued
      sequences := fun _ => by unfold Fits; decide }
  exact ⟨_, by decide, by decide, by decide, by decide, (slot_isolation ordered stored).2.2.2.2.1⟩

end HalPair

end VirtualCamera
