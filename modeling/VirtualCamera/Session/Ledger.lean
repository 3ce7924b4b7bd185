import VirtualCamera.Hal.Ownership
import VirtualCamera.Session.Bookkeeping

set_option autoImplicit false

namespace VirtualCamera

open Interaction Interaction.Process Interleaving Runs SessionSystem StableHal VirtualCameraSession

-- What a session's calls tell of its standing with the HAL; `tokens` has the newest one first.
structure Ledger where
  slot : Int
  registration : Option Int := none
  identity : Int := 0
  checked : Bool := false
  tokens : List Int := []
  refused : Bool := false
deriving DecidableEq, Repr

namespace Ledger

def fresh (options : SessionOptions) : Ledger :=
  { slot := (options.slot : Nat), registration := options.capabilities.map (·.registration) }

def observe (ledger : Ledger) : Event Environment → Ledger
  | ⟨.hal .allocateSessionIdentity, identity⟩ => { ledger with identity := (identity : Int) }
  | ⟨.hal (.registrationCurrent _ _), current⟩ =>
    { ledger with checked := ledger.checked || (current : Bool) }
  | ⟨.hal (.notifyStreamsConfigured _ _ _ _ _), token⟩ =>
    if 0 < (token : Int) then { ledger with tokens := (token : Int) :: ledger.tokens }
    else { ledger with refused := true }
  | _ => ledger

def permits (ledger : Ledger) : Event Environment → Prop
  | ⟨.hal .allocateSessionIdentity, _⟩ =>
    ledger.identity = 0 ∧ ledger.tokens = [] ∧ ledger.checked = false ∧ ledger.refused = false
  | ⟨.hal (.registrationCurrent slot registration), _⟩ =>
    slot = ledger.slot ∧ ledger.registration = some registration
  | ⟨.hal (.notifyStreamsConfigured slot owner _ _ _), _⟩ =>
    slot = ledger.slot ∧ owner = ledger.identity ∧
      (ledger.registration.isSome = true → ledger.checked = true)
  | ⟨.hal (.notifyCameraClosed slot owner token), _⟩ =>
    slot = ledger.slot ∧ owner = ledger.identity ∧
      (token = ledger.tokens.headD 0 ∨ ledger.refused = true)
  | _ => True

def monitor : Monitor Environment Ledger := { observe, permits }

-- A session whose last configuration was refused does not know a token, or an old one.
structure Balanced (session : VirtualCameraSession) (ledger : Ledger) : Prop where
  slot : session.slot = ledger.slot
  identity : session.sessionIdentity = ledger.identity
  registration : ledger.registration =
    if session.enforceCapabilities then some session.capabilities.registration else none
  token : session.configurationToken = ledger.tokens.headD 0 ∨ ledger.refused = true

theorem observe_birth (ledger : Ledger) (event : Event Environment) :
    (ledger.observe event).slot = ledger.slot ∧ (ledger.observe event).registration = ledger.registration := by
  unfold observe
  split
  · exact ⟨rfl, rfl⟩
  · exact ⟨rfl, rfl⟩
  · split <;> exact ⟨rfl, rfl⟩
  · exact ⟨rfl, rfl⟩

theorem follow_birth (ledger : Ledger) (events : List (Event Environment)) :
    (monitor.follow ledger events).slot = ledger.slot ∧
      (monitor.follow ledger events).registration = ledger.registration := by
  induction events generalizing ledger with
  | nil => exact ⟨rfl, rfl⟩
  | cons event events ih =>
    obtain ⟨slot, registration⟩ := ledger.observe_birth event
    rw [Monitor.follow_cons]
    exact ⟨(ih _).1.trans slot, (ih _).2.trans registration⟩

theorem observe_tokens (ledger : Ledger) (event : Event Environment) :
    (ledger.observe event).tokens = ledger.tokens ∨
      ∃ slot owner width height fps, event.1 = .hal (.notifyStreamsConfigured slot owner width height fps) := by
  unfold observe
  split
  · exact .inl rfl
  · exact .inl rfl
  · exact .inr ⟨_, _, _, _, _, rfl⟩
  · exact .inl rfl

theorem monitor_capturing (ledger : Ledger) : monitor.Ignores ledger Call.capturing := by
  intro call reply silent
  cases call with
  | hal call => cases call <;> first | exact ⟨trivial, rfl⟩ | cases silent
  | _ => exact ⟨trivial, rfl⟩

theorem monitor_housekeeping (ledger : Ledger) : monitor.Ignores ledger Call.housekeeping := by
  intro call reply silent
  cases call with
  | hal call => cases silent
  | _ => exact ⟨trivial, rfl⟩

theorem Balanced.congr {before after : VirtualCameraSession} {ledger : Ledger} (balanced : Balanced before ledger)
    (slot : after.slot = before.slot) (enforced : after.enforceCapabilities = before.enforceCapabilities)
    (capabilities : after.capabilities = before.capabilities)
    (identity : after.sessionIdentity = before.sessionIdentity)
    (token : after.configurationToken = before.configurationToken) : Balanced after ledger := by
  refine ⟨slot.trans balanced.slot, identity.trans balanced.identity, ?_, ?_⟩
  · rw [enforced, capabilities]
    exact balanced.registration
  · rw [token]
    exact balanced.token

theorem Balanced.of_account {before after : VirtualCameraSession} {ledger : Ledger}
    (balanced : Balanced before ledger) (same : after.account = before.account) : Balanced after ledger := by
  have slot := congrArg VirtualCameraSession.slot same
  have enforced := congrArg VirtualCameraSession.enforceCapabilities same
  have capabilities := congrArg VirtualCameraSession.capabilities same
  have identity := congrArg VirtualCameraSession.sessionIdentity same
  have token := congrArg VirtualCameraSession.configurationToken same
  exact balanced.congr slot enforced capabilities identity token

theorem Balanced.of_core (before after : VirtualCameraSession) (ledger : Ledger) (balanced : Balanced before ledger)
    (same : after.core = before.core) : Balanced after ledger := by
  have slot := congrArg VirtualCameraSession.slot same
  have enforced := congrArg VirtualCameraSession.enforceCapabilities same
  have capabilities := congrArg VirtualCameraSession.capabilities same
  have identity := congrArg VirtualCameraSession.sessionIdentity same
  have token := congrArg VirtualCameraSession.configurationToken same
  exact balanced.congr slot enforced capabilities identity token

theorem bookkeeping : Bookkeeping monitor Balanced fun ledger => ledger.checked = true := by
  refine ⟨fun _ => monitor_housekeeping _, Balanced.of_account, ?_, ?_, ?_, ?_, ?_⟩
  · intro session ledger balanced
    exact ⟨⟨balanced.slot, balanced.identity, balanced.token⟩, balanced⟩
  · intro session ledger current balanced enforced
    refine ⟨⟨balanced.slot, ?_⟩, ⟨balanced.slot, balanced.identity, balanced.registration, balanced.token⟩, ?_⟩
    · rw [balanced.registration, if_pos enforced]
    · rintro rfl
      exact Bool.or_true _
  · intro session ledger width height fps token balanced known
    have permitted : ledger.registration.isSome = true → ledger.checked = true := by
      intro enforces
      refine known ?_
      rw [balanced.registration] at enforces
      by_contra free
      simp [free] at enforces
    refine ⟨⟨balanced.slot, balanced.identity, permitted⟩, ?_, fun none => ?_⟩
    · by_cases issued : 0 < token
      · simp only [monitor, observe, if_pos issued]
        exact ⟨balanced.slot, balanced.identity, balanced.registration, .inl rfl⟩
      · simp only [monitor, observe, if_neg issued]
        exact ⟨balanced.slot, balanced.identity, balanced.registration, .inr rfl⟩
    · simp only [monitor, observe, if_neg (not_lt.mpr none)]
      exact ⟨balanced.slot, balanced.identity, balanced.registration, .inr rfl⟩
  · exact fun request pending => failUntouched_maintains monitor_capturing request pending
  · exact fun request cancelEpoch timestamp pending =>
      captureSource_maintains monitor_capturing (fun _ _ seen held same => Balanced.of_core _ _ seen held (core_of_frame same))
        request cancelEpoch timestamp pending

theorem discipline : sessions.Discipline monitor fresh Balanced := by
  refine ⟨fun shared options admitted => ?_, fun call wasClosed session ledger balanced => ?_⟩
  · have first : Balanced (sessions.initial options) (fresh options) := by
      refine ⟨rfl, rfl, ?_, .inl rfl⟩
      cases present : options.capabilities <;>
        simp [sessions, SessionSystem.initial, VirtualCameraSession.initial, fresh, present]
    change create.wp monitor _ _ fun _ final later => Balanced final later
    simp only [create, construct, wp_bind]
    refine unheard_ask (monitor_capturing _) .stableHal rfl _ _ fun hal => ?_
    cases hal
    case false => exact first
    case true =>
      simp only [if_true, wp_bind, askHal, wp_modify]
      intro identity
      refine ⟨⟨rfl, rfl, rfl, rfl⟩, ?_⟩
      exact ⟨first.slot, rfl, first.registration, first.token⟩
  · exact serve_maintains bookkeeping call wasClosed session ledger balanced

end Ledger

end VirtualCamera
