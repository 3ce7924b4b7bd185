import VirtualCamera.Session.Ledger

set_option autoImplicit false

namespace VirtualCamera

open Interaction Interleaving Runs SessionSystem StableHal

namespace StableHal

-- The slot has passed to somebody newer, or its owner has closed.
def Outranked (hal : StableHal) (slot : Slot) (identity : Int) : Prop :=
  identity < (hal.slots slot).sessionOwner ∨
    identity = (hal.slots slot).sessionOwner ∧ (hal.slots slot).ownerClosed = true

variable {hal after : StableHal} {op : ControlOp} {slot : Slot} {identity : Int}

theorem Outranked.move (outranked : hal.Outranked slot identity) (bounded : identity ≤ hal.nextIdentity)
    (move : OwnerMove hal op slot after) : after.Outranked slot identity := by
  cases move with
  | kept owner closed configuration capabilities =>
    rw [Outranked, owner, closed]
    exact outranked
  | closed owner closed configuration capabilities =>
    rw [Outranked, owner, closed]
    exact outranked.imp_right fun same => ⟨same.1, rfl⟩
  | retired retired => exact .inl (bounded.trans_lt retired.fresh)
  | configured owner width height fps chosen positive permitted reply owns opened configuration capabilities next =>
    refine .inl ?_
    rw [owns]
    rcases outranked with older | ⟨same, closed⟩
    · rcases permitted with newer | ⟨equal, _⟩ <;> omega
    · rcases permitted with newer | ⟨_, open'⟩
      · omega
      · simp [closed] at open'

structure Issued (hal : StableHal) (slot : Slot) (owner : Int) (after : StableHal) : Prop where
  positive : 0 < owner
  ranked : ¬ hal.Outranked slot owner
  next : after.nextIdentity = hal.nextIdentity + 1
  owner : (after.slots slot).sessionOwner = owner
  opened : (after.slots slot).ownerClosed = false
  configuration : (after.slots slot).configuration = hal.nextIdentity + 1
  capabilities : (after.slots slot).capabilities = (hal.slots slot).capabilities
  others : ∀ other, other ≠ slot → after.slots other = hal.slots other

theorem notifyStreamsConfigured_answer (hal : StableHal) (slot : Slot) (owner width height fps : Int)
    (room : hal.nextIdentity < int64Max) :
    ((hal.notifyStreamsConfigured (slot : Nat) owner width height fps).1 = 0 ∧
        (hal.notifyStreamsConfigured (slot : Nat) owner width height fps).2.2 = hal ∧
        (owner ≤ 0 ∨ hal.Outranked slot owner)) ∨
      ((hal.notifyStreamsConfigured (slot : Nat) owner width height fps).1 = hal.nextIdentity + 1 ∧
        Issued hal slot owner (hal.notifyStreamsConfigured (slot : Nat) owner width height fps).2.2) := by
  have valid : validSlot (slot : Nat) = some slot := validSlot_coe slot
  by_cases refused : owner ≤ 0 ∨ owner < (hal.slots slot).sessionOwner ∨
      (owner = (hal.slots slot).sessionOwner ∧ (hal.slots slot).ownerClosed = true) ∨
        hal.nextIdentity = int64Max
  · refine .inl ⟨?_, ?_, ?_⟩
    · simp only [notifyStreamsConfigured, valid, if_pos refused]
    · simp only [notifyStreamsConfigured, valid, if_pos refused]
    · rcases refused with absent | older | closed | full
      · exact .inl absent
      · exact .inr (.inl older)
      · exact .inr (.inr closed)
      · omega
  · refine .inr ⟨?_, by omega, fun outranked => ?_, ?_, ?_, ?_, ?_, ?_, fun other differs => ?_⟩
    · simp only [notifyStreamsConfigured, valid, if_neg refused]
    · exact refused (.inr (outranked.imp_right .inl))
    all_goals simp only [notifyStreamsConfigured, valid, if_neg refused, dropLatestLocked_slots,
      dropLatestLocked_nextIdentity]
    · rfl
    · rw [setControl_self]
    · rw [setControl_self]
    · rw [setControl_self]
    · rw [setControl_self]
    · rw [setControl_other _ differs]

theorem notifyStreamsConfigured_number (hal : StableHal) (slot owner width height fps : Int) :
    (hal.notifyStreamsConfigured slot owner width height fps).1 = 0 ∨
      ((hal.notifyStreamsConfigured slot owner width height fps).1 = hal.nextIdentity + 1 ∧
        (hal.notifyStreamsConfigured slot owner width height fps).2.2.nextIdentity = hal.nextIdentity + 1) := by
  unfold notifyStreamsConfigured
  split
  next => exact .inl rfl
  next =>
    dsimp only
    split
    next => exact .inl rfl
    next => exact .inr ⟨rfl, dropLatestLocked_nextIdentity _ _⟩

end StableHal

-- Each token that a session knows was given out, and to it alone.
structure Dealt (hal : StableHal) (ledgers : Nat → Option Ledger) : Prop where
  natural : 0 ≤ hal.nextIdentity
  tokens : ∀ id ledger, ledgers id = some ledger → ∀ token ∈ ledger.tokens, 0 < token ∧ token ≤ hal.nextIdentity
  apart : ∀ first second left right, ledgers first = some left → ledgers second = some right →
    ∀ token ∈ left.tokens, token ∈ right.tokens → first = second

structure Authority (hal : StableHal) (ledgers : Nat → Option Ledger) : Prop extends Dealt hal ledgers where
  owners : ∀ slot, 0 ≤ (hal.slots slot).sessionOwner ∧ (hal.slots slot).sessionOwner ≤ hal.nextIdentity
  identities : ∀ id ledger, ledgers id = some ledger →
    0 ≤ ledger.identity ∧ ledger.identity ≤ hal.nextIdentity
  distinct : ∀ first second left right, ledgers first = some left → ledgers second = some right →
    0 < left.identity → left.identity = right.identity → first = second
  current : ∀ slot, (hal.slots slot).configuration ≠ 0 →
    (hal.slots slot).ownerClosed = false ∧ 0 < (hal.slots slot).sessionOwner ∧
      ∃ id ledger, ledgers id = some ledger ∧ ledger.slot = (slot : Nat) ∧
        ledger.identity = (hal.slots slot).sessionOwner ∧
        ledger.tokens.head? = some (hal.slots slot).configuration
  refused : ∀ id ledger, ledgers id = some ledger → ledger.refused = true →
    ∀ slot : Slot, ledger.slot = (slot : Nat) → ledger.identity = 0 ∨ hal.Outranked slot ledger.identity
  checked : ∀ id ledger, ledgers id = some ledger → ledger.checked = true →
    ∀ slot : Slot, ledger.slot = (slot : Nat) → ledger.identity < (hal.slots slot).sessionOwner ∨
      ∃ descriptor, (hal.slots slot).capabilities = some descriptor ∧
        ledger.registration = some descriptor.registration

inductive LedgerMove (hal : StableHal) (ledgers : Nat → Option Ledger) :
    StableHal → (Nat → Option Ledger) → Prop where
  | silent : LedgerMove hal ledgers hal ledgers
  | born (id : Nat) (options : SessionOptions) (absent : ledgers id = none) :
      LedgerMove hal ledgers hal (Function.update ledgers id (some (.fresh options)))
  | called (id : Nat) (ledger : Ledger) (call : HalCall) (found : ledgers id = some ledger)
      (permitted : ledger.permits ⟨.hal call, (call.answer hal).1⟩) :
      LedgerMove hal ledgers (call.answer hal).2
        (Function.update ledgers id (some (ledger.observe ⟨.hal call, (call.answer hal).1⟩)))
  | outside (world : HalWorld) (same : world.hal = hal) (event : HalEvent) (foreign : event.ofSession = false) :
      LedgerMove hal ledgers (world.perform event).hal ledgers

section Dealt

variable {hal after : StableHal} {ledgers moved : Nat → Option Ledger} {id : Nat}

theorem found_update {id other : Nat} {ledger found : Ledger}
    (present : Function.update ledgers id (some ledger) other = some found) :
    other = id ∧ found = ledger ∨ other ≠ id ∧ ledgers other = some found := by
  by_cases same : other = id
  · subst same
    rw [Function.update_self] at present
    exact .inl ⟨rfl, (Option.some.inj present).symm⟩
  · rw [Function.update_of_ne same] at present
    exact .inr ⟨same, present⟩

theorem Dealt.grows (dealt : Dealt hal ledgers) (grows : hal.nextIdentity ≤ after.nextIdentity) :
    Dealt after ledgers where
  natural := dealt.natural.trans grows
  tokens id ledger found token member :=
    (dealt.tokens id ledger found token member).imp_right fun bounded => bounded.trans grows
  apart := dealt.apart

theorem Dealt.update (dealt : Dealt hal ledgers) (grows : hal.nextIdentity ≤ after.nextIdentity) {ledger : Ledger}
    (told : ∀ token ∈ ledger.tokens, (∃ before, ledgers id = some before ∧ token ∈ before.tokens) ∨
      hal.nextIdentity < token ∧ token ≤ after.nextIdentity) :
    Dealt after (Function.update ledgers id (some ledger)) where
  natural := dealt.natural.trans grows
  tokens other kept present token member := by
    rcases found_update present with ⟨rfl, rfl⟩ | ⟨_, present⟩
    · rcases told token member with ⟨before, found, known⟩ | ⟨new, bounded⟩
      · exact (dealt.grows grows).tokens other before found token known
      · exact ⟨dealt.natural.trans_lt new, bounded⟩
    · exact (dealt.grows grows).tokens other kept present token member
  apart first second left right present present' token member member' := by
    have only : ∀ other kept, other ≠ id → ledgers other = some kept → token ∈ kept.tokens →
        token ∉ ledger.tokens := by
      intro other kept differs there known member
      rcases told token member with ⟨before, found, held⟩ | ⟨new, _⟩
      · exact differs (dealt.apart other id kept before there found token known held)
      · exact new.not_ge (dealt.tokens other kept there token known).2
    rcases found_update present with ⟨rfl, rfl⟩ | ⟨differs, early⟩ <;>
      rcases found_update present' with ⟨rfl, rfl⟩ | ⟨differs', late⟩
    · rfl
    · exact absurd member (only second right differs' late member')
    · exact absurd member' (only first left differs early member)
    · exact dealt.apart first second left right early late token member member'

theorem Dealt.called (dealt : Dealt hal ledgers) {ledger : Ledger} (found : ledgers id = some ledger)
    (call : HalCall) :
    Dealt (call.answer hal).2
      (Function.update ledgers id (some (ledger.observe ⟨.hal call, (call.answer hal).1⟩))) := by
  have grows : hal.nextIdentity ≤ (call.answer hal).2.nextIdentity := by
    rcases call.evolves hal with ⟨op, _, runs⟩ | ⟨_, quiet⟩
    · rw [runs]
      exact op.nextIdentity_le hal
    · exact (congrArg Control.nextIdentity quiet.control).ge
  refine dealt.update grows fun token member => ?_
  rcases ledger.observe_tokens ⟨.hal call, (call.answer hal).1⟩ with
    same | ⟨index, owner, width, height, fps, asked⟩
  · exact .inl ⟨ledger, found, same ▸ member⟩
  · cases asked
    change token ∈ (if 0 < (hal.notifyStreamsConfigured index owner width height fps).1 then
      { ledger with tokens := (hal.notifyStreamsConfigured index owner width height fps).1 :: ledger.tokens }
        else { ledger with refused := true }).tokens at member
    change _ ∨ _ ∧ token ≤ (hal.notifyStreamsConfigured index owner width height fps).2.2.nextIdentity
    rcases notifyStreamsConfigured_number hal index owner width height fps with none | ⟨number, next⟩
    · rw [none, if_neg (lt_irrefl 0)] at member
      exact .inl ⟨ledger, found, member⟩
    · split at member
      next =>
        rcases List.mem_cons.mp member with rfl | known
        · rw [number, next]
          exact .inr ⟨Int.lt_succ _, le_rfl⟩
        · exact .inl ⟨ledger, found, known⟩
      next => exact .inl ⟨ledger, found, member⟩

theorem Dealt.move (dealt : Dealt hal ledgers) (move : LedgerMove hal ledgers after moved) : Dealt after moved := by
  cases move with
  | silent => exact dealt
  | born id options absent => exact dealt.update le_rfl fun _ none => by cases none
  | called id ledger call found permitted => exact dealt.called found call
  | outside world same event foreign =>
    subst same
    refine dealt.grows ?_
    rcases world.perform_evolves event with ⟨op, _, runs⟩ | ⟨_, quiet | ⟨_, _, _, _, control⟩⟩
    · rw [runs]
      exact op.nextIdentity_le world.hal
    · exact (congrArg Control.nextIdentity quiet.control).ge
    · exact (congrArg Control.nextIdentity control).ge

end Dealt

namespace Authority

variable {hal after : StableHal} {ledgers : Nat → Option Ledger}

theorem of_control (authority : Authority hal ledgers) (control : after.control = hal.control) :
    Authority after ledgers := by
  have slots : after.slots = hal.slots := congrArg Control.slots control
  have next : after.nextIdentity = hal.nextIdentity := congrArg Control.nextIdentity control
  obtain ⟨dealt, owners, identities, distinct, current, refused, checked⟩ := authority
  rw [← next] at owners identities
  rw [← slots] at owners current checked
  refine ⟨dealt.grows next.ge, owners, identities, distinct, current, ?_, checked⟩
  intro id ledger found refuses slot same
  have before := refused id ledger found refuses slot same
  rwa [Outranked, slots]

theorem move (authority : Authority hal ledgers) (op : ControlOp) (grows : hal.nextIdentity ≤ after.nextIdentity)
    (moves : ∀ slot, OwnerMove hal op slot after)
    (other : ∀ (slot : Slot) owner width height fps, op ≠ .notifyStreamsConfigured
    (slot : Nat) owner width height fps) :
    Authority after ledgers := by
  refine ⟨authority.toDealt.grows grows, fun slot => ?_, fun id ledger found => ?_, authority.distinct,
    fun slot configured => ?_, fun id ledger found refuses slot same => ?_,
    fun id ledger found checks slot same => ?_⟩
  · obtain ⟨lower, upper⟩ := authority.owners slot
    cases moves slot with
    | kept owner closed configuration capabilities => omega
    | closed owner closed configuration capabilities => omega
    | retired retired =>
      have fresh := retired.fresh
      have bounded := retired.bounded
      omega
    | configured owner width height fps chosen => exact absurd chosen (other slot owner width height fps)
  · exact ⟨(authority.identities id ledger found).1, (authority.identities id ledger found).2.trans grows⟩
  · cases moves slot with
    | kept owner closed configuration capabilities =>
      have same := configuration.resolve_right configured
      rw [same] at configured ⊢
      rw [owner, closed]
      exact authority.current slot configured
    | closed owner closed configuration capabilities => exact absurd configuration configured
    | retired retired => exact absurd retired.configuration configured
    | configured owner width height fps chosen => exact absurd chosen (other slot owner width height fps)
  · exact (authority.refused id ledger found refuses slot same).imp_right fun outranked =>
      outranked.move (authority.identities id ledger found).2 (moves slot)
  · have bounded := (authority.identities id ledger found).2
    rcases authority.checked id ledger found checks slot same with older | ⟨descriptor, held, registered⟩
    · cases moves slot with
      | kept owner closed configuration capabilities => exact .inl (by omega)
      | closed owner closed configuration capabilities => exact .inl (by omega)
      | retired retired => exact .inl (bounded.trans_lt retired.fresh)
      | configured owner width height fps chosen => exact absurd chosen (other slot owner width height fps)
    · cases moves slot with
      | kept owner closed configuration capabilities => exact .inr ⟨descriptor, capabilities descriptor held, registered⟩
      | closed owner closed configuration capabilities => exact .inr ⟨descriptor, capabilities.trans held, registered⟩
      | retired retired => exact .inl (bounded.trans_lt retired.fresh)
      | configured owner width height fps chosen => exact absurd chosen (other slot owner width height fps)

theorem learn (authority : Authority hal ledgers) {id : Nat} {before ledger : Ledger}
    (found : ledgers id = some before) (slot : ledger.slot = before.slot)
    (identity : ledger.identity = before.identity) (tokens : ledger.tokens = before.tokens)
    (refused : ledger.refused = true → ∀ slot : Slot, ledger.slot = (slot : Nat) →
      ledger.identity = 0 ∨ hal.Outranked slot ledger.identity)
    (checked : ledger.checked = true → ∀ slot : Slot, ledger.slot = (slot : Nat) →
      ledger.identity < (hal.slots slot).sessionOwner ∨
        ∃ descriptor, (hal.slots slot).capabilities = some descriptor ∧
          ledger.registration = some descriptor.registration) :
    Authority hal (Function.update ledgers id (some ledger)) := by
  have earlier : ∀ other kept, Function.update ledgers id (some ledger) other = some kept →
      ∃ old, ledgers other = some old ∧ kept.identity = old.identity := by
    intro other kept present
    rcases found_update present with ⟨rfl, rfl⟩ | ⟨_, present⟩
    · exact ⟨before, found, identity⟩
    · exact ⟨kept, present, rfl⟩
  refine ⟨authority.toDealt.update le_rfl fun token member => .inl ⟨before, found, tokens ▸ member⟩,
    authority.owners, fun other kept present => ?_, fun first second left right => ?_, fun index configured => ?_,
    fun other kept present => ?_, fun other kept present => ?_⟩
  · obtain ⟨old, there, same⟩ := earlier other kept present
    rw [same]
    exact authority.identities other old there
  · intro present present'
    obtain ⟨old, there, same⟩ := earlier first left present
    obtain ⟨old', there', same'⟩ := earlier second right present'
    rw [same, same']
    exact authority.distinct first second old old' there there'
  · obtain ⟨opened, positive, other, old, there, named, owner, head⟩ := authority.current index configured
    refine ⟨opened, positive, other, ?_⟩
    by_cases same : other = id
    · subst same
      obtain rfl : before = old := Option.some.inj (found.symm.trans there)
      refine ⟨ledger, Function.update_self _ _ _, slot.trans named, identity.trans owner, ?_⟩
      rwa [tokens]
    · exact ⟨old, by rw [Function.update_of_ne same, there], named, owner, head⟩
  · rcases found_update present with ⟨rfl, rfl⟩ | ⟨_, present⟩
    · exact refused
    · exact authority.refused other kept present
  · rcases found_update present with ⟨rfl, rfl⟩ | ⟨_, present⟩
    · exact checked
    · exact authority.checked other kept present

theorem identify (authority : Authority hal ledgers) {id : Nat} {ledger : Ledger} {identity : Int}
    (found : ledgers id = some ledger) (untold : ledger.tokens = [])
    (unchecked : ledger.checked = false) (unrefused : ledger.refused = false) (positive : 0 < identity)
    (bounded : identity ≤ hal.nextIdentity)
    (new : ∀ other kept, ledgers other = some kept → kept.identity < identity) :
    Authority hal (Function.update ledgers id (some { ledger with identity })) := by
  refine ⟨authority.toDealt.update le_rfl fun token member => .inl ⟨ledger, found, member⟩, authority.owners,
    fun other kept present => ?_, fun first second left right present present' => ?_, fun index configured => ?_,
    fun other kept present => ?_, fun other kept present => ?_⟩
  · rcases found_update present with ⟨rfl, rfl⟩ | ⟨_, present⟩
    · exact ⟨positive.le, bounded⟩
    · exact authority.identities other kept present
  · rcases found_update present with ⟨rfl, rfl⟩ | ⟨_, early⟩ <;>
      rcases found_update present' with ⟨rfl, rfl⟩ | ⟨_, late⟩
    · exact fun _ _ => rfl
    · exact fun _ same => absurd same.symm (new second right late).ne
    · exact fun _ same => absurd same (new first left early).ne
    · exact authority.distinct first second left right early late
  · obtain ⟨opened, owned, other, old, there, named, owner, head⟩ := authority.current index configured
    refine ⟨opened, owned, other, old, ?_, named, owner, head⟩
    rw [Function.update_of_ne, there]
    rintro rfl
    obtain rfl : ledger = old := Option.some.inj (found.symm.trans there)
    simp [untold] at head
  · rcases found_update present with ⟨rfl, rfl⟩ | ⟨_, present⟩
    · exact fun refuses => by simp [unrefused] at refuses
    · exact authority.refused other kept present
  · rcases found_update present with ⟨rfl, rfl⟩ | ⟨_, present⟩
    · exact fun checks => by simp [unchecked] at checks
    · exact authority.checked other kept present

theorem issue (authority : Authority hal ledgers) {id : Nat} {ledger : Ledger} {slot : Slot}
    (found : ledgers id = some ledger) (named : ledger.slot = (slot : Nat))
    (issued : Issued hal slot ledger.identity after) :
    Authority after
      (Function.update ledgers id (some { ledger with tokens := (hal.nextIdentity + 1) :: ledger.tokens })) := by
  have natural := authority.natural
  have next := issued.next
  have owned := (authority.owners slot).2
  have overtakes : (hal.slots slot).sessionOwner ≤ ledger.identity := by
    by_contra older
    exact issued.ranked (.inl (not_le.mp older))
  refine ⟨authority.toDealt.update (by omega) fun token member => ?_, fun index => ?_,
    fun other kept present => ?_, fun first second left right present present' => ?_, fun index configured => ?_,
    fun other kept present refuses index same => ?_, fun other kept present checks index same => ?_⟩
  · rcases List.mem_cons.mp member with rfl | known
    · exact .inr ⟨Int.lt_succ _, next.ge⟩
    · exact .inl ⟨ledger, found, known⟩
  · by_cases same : index = slot
    · subst same
      rw [issued.owner]
      have identity := (authority.identities id ledger found).2
      have positive := issued.positive
      omega
    · rw [issued.others index same]
      have owners := authority.owners index
      omega
  · have identity : 0 ≤ kept.identity ∧ kept.identity ≤ hal.nextIdentity := by
      rcases found_update present with ⟨rfl, rfl⟩ | ⟨_, present⟩
      · exact authority.identities other ledger found
      · exact authority.identities other kept present
    omega
  · rcases found_update present with ⟨rfl, rfl⟩ | ⟨_, early⟩ <;>
      rcases found_update present' with ⟨rfl, rfl⟩ | ⟨_, late⟩
    · exact fun _ _ => rfl
    · exact authority.distinct first second ledger right found late
    · exact authority.distinct first second left ledger early found
    · exact authority.distinct first second left right early late
  · by_cases same : index = slot
    · subst same
      rw [issued.opened, issued.owner, issued.configuration]
      exact ⟨rfl, issued.positive, id, _, Function.update_self _ _ _, named, rfl, rfl⟩
    · rw [issued.others index same] at configured ⊢
      obtain ⟨opened, positive, other, old, there, labelled, owner, head⟩ := authority.current index configured
      refine ⟨opened, positive, other, old, ?_, labelled, owner, head⟩
      rw [Function.update_of_ne, there]
      rintro rfl
      obtain rfl : ledger = old := Option.some.inj (found.symm.trans there)
      exact same (Fin.ext (by omega))
  · rcases found_update present with ⟨rfl, rfl⟩ | ⟨differs, present⟩
    · obtain rfl : index = slot := Fin.ext (by simp only [named] at same; omega)
      rcases authority.refused other ledger found refuses index named with absent | outranked
      · exact .inl absent
      · exact absurd outranked issued.ranked
    · refine (authority.refused other kept present refuses index same).imp_right fun outranked => ?_
      by_cases here : index = slot
      · subst here
        refine .inl ?_
        rw [issued.owner]
        rcases outranked with older | ⟨equal, closed⟩
        · omega
        · refine lt_of_le_of_ne (by omega) fun tie => issued.ranked (.inr ⟨?_, closed⟩)
          omega
      · rwa [Outranked, issued.others index here]
  · have kept' : ∃ old, ledgers other = some old ∧ old.slot = kept.slot ∧ old.identity = kept.identity ∧
        old.registration = kept.registration ∧ old.checked = true := by
      rcases found_update present with ⟨rfl, rfl⟩ | ⟨_, present⟩
      · exact ⟨ledger, found, rfl, rfl, rfl, checks⟩
      · exact ⟨kept, present, rfl, rfl, rfl, checks⟩
    obtain ⟨old, there, slot', identity, registration, checked⟩ := kept'
    have before := authority.checked other old there checked index (slot'.trans same)
    rw [identity, registration] at before
    by_cases here : index = slot
    · subst here
      rw [issued.owner, issued.capabilities]
      exact before.imp_left fun older => by omega
    · rwa [issued.others index here]

theorem born (authority : Authority hal ledgers) {id : Nat} (options : SessionOptions) (absent : ledgers id = none) :
    Authority hal (Function.update ledgers id (some (.fresh options))) := by
  refine ⟨authority.toDealt.update le_rfl (fun _ none => by cases none), authority.owners,
    fun other kept present => ?_, fun first second left right present present' positive same => ?_,
    fun index configured => ?_, fun other kept present => ?_, fun other kept present => ?_⟩
  · rcases found_update present with ⟨rfl, rfl⟩ | ⟨_, present⟩
    · exact ⟨le_rfl, authority.natural⟩
    · exact authority.identities other kept present
  · rcases found_update present with ⟨rfl, rfl⟩ | ⟨_, early⟩
    · cases positive
    · rcases found_update present' with ⟨rfl, rfl⟩ | ⟨_, late⟩
      · rw [same] at positive
        cases positive
      · exact authority.distinct first second left right early late positive same
  · obtain ⟨opened, owned, other, old, there, named, owner, head⟩ := authority.current index configured
    refine ⟨opened, owned, other, old, ?_, named, owner, head⟩
    rw [Function.update_of_ne, there]
    rintro rfl
    simp [absent] at there
  · rcases found_update present with ⟨rfl, rfl⟩ | ⟨_, present⟩
    · exact fun refuses => by cases refuses
    · exact authority.refused other kept present
  · rcases found_update present with ⟨rfl, rfl⟩ | ⟨_, present⟩
    · exact fun checks => by cases checks
    · exact authority.checked other kept present

theorem called (authority : Authority hal ledgers) {id : Nat} {ledger : Ledger} {call : HalCall}
    (found : ledgers id = some ledger) (named : ∃ slot : Slot, ledger.slot = (slot : Nat))
    (permitted : ledger.permits ⟨.hal call, (call.answer hal).1⟩)
    (room : (call.answer hal).2.nextIdentity < int64Max) :
    Authority (call.answer hal).2
      (Function.update ledgers id (some (ledger.observe ⟨.hal call, (call.answer hal).1⟩))) := by
  have unmoved : ∀ after : StableHal, after.control = hal.control →
      Authority after (Function.update ledgers id (some ledger)) := by
    intro after control
    rw [Function.update_eq_self_iff.mpr found.symm]
    exact authority.of_control control
  cases call with
  | registrationCurrent index registration =>
    obtain ⟨named, enforced⟩ := permitted
    refine authority.learn found rfl rfl rfl (authority.refused id ledger found) fun checks slot same => ?_
    rcases Bool.or_eq_true_iff.mp checks with before | current
    · exact authority.checked id ledger found before slot same
    · change hal.registrationCurrent index registration = true at current
      rw [registrationCurrent, StableHal.capabilities, named.trans same, validSlot_coe] at current
      obtain ⟨descriptor, held, matches'⟩ := (Option.any_eq_true _ _).mp current
      exact .inr ⟨descriptor, held, enforced.trans (by rw [beq_iff_eq.mp matches'])⟩
  | allocateSessionIdentity =>
    obtain ⟨_, untold, unchecked, unrefused⟩ := permitted
    change hal.allocateSessionIdentity.2.nextIdentity < int64Max at room
    change Authority hal.allocateSessionIdentity.2
      (Function.update ledgers id (some { ledger with identity := hal.allocateSessionIdentity.1 }))
    unfold allocateSessionIdentity at room ⊢
    by_cases full : hal.nextIdentity = int64Max
    · rw [if_pos full] at room
      exact absurd full room.ne
    · rw [if_neg full]
      have natural := authority.natural
      have grown : Authority { hal with nextIdentity := hal.nextIdentity + 1 } ledgers :=
        authority.move .allocateSessionIdentity (Int.lt_succ _).le (fun slot => .same rfl) nofun
      refine grown.identify found untold unchecked unrefused (by omega) le_rfl fun other kept present => ?_
      have bounded := (authority.identities other kept present).2
      omega
  | notifyStreamsConfigured index owner width height fps =>
    obtain ⟨slot, named⟩ := named
    obtain ⟨here, rfl, _⟩ := permitted
    obtain rfl := here.trans named
    have grows := (ControlOp.notifyStreamsConfigured (slot : Nat) ledger.identity width height fps).nextIdentity_le hal
    change hal.nextIdentity ≤
      (hal.notifyStreamsConfigured (slot : Nat) ledger.identity width height fps).2.2.nextIdentity at grows
    change (hal.notifyStreamsConfigured (slot : Nat) ledger.identity width height fps).2.2.nextIdentity <
      int64Max at room
    have natural := authority.natural
    change Authority (hal.notifyStreamsConfigured (slot : Nat) ledger.identity width height fps).2.2
      (Function.update ledgers id (some
        (if 0 < (hal.notifyStreamsConfigured (slot : Nat) ledger.identity width height fps).1 then
          { ledger with tokens :=
              (hal.notifyStreamsConfigured (slot : Nat) ledger.identity width height fps).1 :: ledger.tokens }
        else { ledger with refused := true })))
    rcases notifyStreamsConfigured_answer hal slot ledger.identity width height fps (by omega) with
      ⟨none, same, refused⟩ | ⟨token, issued⟩
    · rw [none, same, if_neg (lt_irrefl 0)]
      refine authority.learn found rfl rfl rfl (fun _ index there => ?_) (authority.checked id ledger found)
      obtain rfl : index = slot := Fin.ext (by simp only [named] at there; omega)
      refine refused.imp_left fun absent => le_antisymm absent (authority.identities id ledger found).1
    · rw [token, if_pos (by omega)]
      exact authority.issue found named issued
  | notifyCameraClosed index owner token =>
    have grows := (ControlOp.notifyCameraClosed index owner token).nextIdentity_le hal
    have moved : Authority (hal.notifyCameraClosed index owner token).2 ledgers :=
      authority.move (.notifyCameraClosed index owner token) grows
        (fun slot => notifyCameraClosed_owns index owner token slot) nofun
    change Authority (hal.notifyCameraClosed index owner token).2 (Function.update ledgers id (some ledger))
    rwa [Function.update_eq_self_iff.mpr found.symm]
  | acquireLatest index afterSequence token =>
    exact unmoved _ (acquireLatest_read hal index true true afterSequence token).quiet.control
  | isFrameCurrent index buffer sequence token => exact unmoved _ rfl
  | releaseFrame index buffer fences => exact unmoved _ (releaseFrame_quiet hal index buffer fences).control

end Authority

theorem HalEvent.foreign_move (world : HalWorld) {event : HalEvent} (foreign : event.ofSession = false)
    {ledgers : Nat → Option Ledger} (authority : Authority world.hal ledgers)
    (room : (world.perform event).hal.nextIdentity < int64Max) :
    Authority (world.perform event).hal ledgers := by
  rcases world.perform_evolves event with ⟨op, rfl, same⟩ | ⟨_, quiet | ⟨_, _, _, _, control⟩⟩
  · rw [same] at room ⊢
    refine authority.move op (op.nextIdentity_le world.hal) (fun slot => op.owns world.hal slot room) ?_
    rintro slot owner width height fps rfl
    cases foreign
  · exact authority.of_control quiet.control
  · exact authority.of_control control

namespace SessionSystem

def ledger (activity : SessionActivity) : Ledger := activity.view Ledger.monitor Ledger.fresh

def ledgers (world : SessionWorld) (id : Nat) : Option Ledger := (world.objects id).map ledger

theorem ledgers_put (world : SessionWorld) (id : Nat) (activity : SessionActivity) (shared : Shared) :
    ledgers (world.put id activity shared) = Function.update (ledgers world) id (some (ledger activity)) := by
  funext other
  by_cases same : other = id
  · subst same
    simp [ledgers, World.put]
  · simp [ledgers, World.put, same]

structure Regular (world : SessionWorld) : Prop where
  follows : ∀ id activity, world.objects id = some activity →
    activity.Follows Ledger.monitor Ledger.fresh Ledger.Balanced
  reached : ∀ id activity, world.objects id = some activity → activity.Reached sessions

theorem regular (provider : Bool) (outcome : Nat → Bool) {labels : List SessionLabel} {world : SessionWorld}
    (run : Run sessions.Step (boot provider outcome) labels world) : Regular world := by
  have none : ∀ id, (boot provider outcome).objects id = none := fun _ => rfl
  refine ⟨Ledger.discipline.run run fun id activity found => ?_, System.run_reached run fun id activity found => ?_⟩
  · simp [none] at found
  · simp [none] at found

variable {world after : SessionWorld} {label : SessionLabel}

theorem silent_move {id : Nat} {activity moved : SessionActivity} {shared : Shared}
    (found : world.objects id = some activity) (same : ledger moved = ledger activity)
    (kept : shared.world = world.shared.world) :
    LedgerMove world.shared.hal (ledgers world) shared.hal (ledgers (world.put id moved shared)) := by
  have hal : shared.hal = world.shared.hal := congrArg HalWorld.hal kept
  rw [ledgers_put, same, Function.update_eq_self_iff.mpr (by simp [ledgers, found]), hal]
  exact .silent

theorem outside_move {change : SharedChange} {shared : Shared}
    (changes : SessionSystem.change world.shared change = some shared) :
    LedgerMove world.shared.hal (ledgers world) shared.hal (ledgers { world with shared }) := by
  cases change with
  | hal event =>
    simp only [SessionSystem.change] at changes
    split at changes
    next allowed =>
      obtain rfl := Option.some.inj changes
      exact .outside world.shared.world rfl event allowed.1
    next => cases changes
  | getCameraDeviceInterface slot =>
    obtain ⟨descriptor, _, rfl⟩ := Option.map_eq_some_iff.mp changes
    exact .silent

theorem Regular.call_move (regular : Regular world) {id : Nat} {activity : SessionActivity}
    {op : Option FrameworkCall}
    {call : Call} {next : call.Reply → Program Environment (FrameworkReply × VirtualCameraSession)}
    (choice : (call : Call) → call.Reply) (found : world.objects id = some activity)
    (serves : activity.serving = some (op, .call call next)) :
    LedgerMove world.shared.hal (ledgers world) (respond id world.shared choice call).2.hal
      (ledgers (world.put id
        { activity with
          serving := some (op, next (respond id world.shared choice call).1)
          trace := activity.trace ++ [⟨call, (respond id world.shared choice call).1⟩] }
        (respond id world.shared choice call).2)) := by
  by_cases asks : ∃ asked, call = .hal asked
  · obtain ⟨asked, rfl⟩ := asks
    have permitted := ((regular.follows id activity found).busy op _ serves (asked.answer world.shared.hal).1).1
    rw [ledgers_put, ledger, Activity.view_snoc]
    exact .called id (ledger activity) asked (by simp [ledgers, found]) permitted
  · have silent : ∀ asked, call ≠ .hal asked := fun asked same => asks ⟨asked, same⟩
    refine silent_move found ?_ (respond_same id world.shared choice call silent).1
    rw [ledger, Activity.view_snoc]
    cases call with
    | hal asked => exact absurd rfl (silent asked)
    | _ => rfl

theorem Regular.move (regular : Regular world) (next : sessions.Step world label after) :
    LedgerMove world.shared.hal (ledgers world) after.shared.hal (ledgers after) := by
  cases next with
  | create id options absent admitted =>
    rw [ledgers_put]
    exact .born id options (by simp [ledgers, absent])
  | enter id op activity found => exact silent_move found rfl rfl
  | request id index choice activity op request next found asks =>
    obtain ⟨events, reaches⟩ := (regular.reached id activity found).entering _ _ (List.mem_of_getElem? asks)
    have plain := request_plain reaches
    refine silent_move found rfl (respond_same id world.shared choice request ?_).1
    rintro asked rfl
    cases plain
  | lock id index activity op ticket found waits free => exact silent_move found rfl rfl
  | call id choice activity op request next found serves => exact regular.call_move choice found serves
  | leave id activity op value own found serves => exact silent_move found rfl rfl
  | outside change shared changes => exact outside_move changes

end SessionSystem

end VirtualCamera
