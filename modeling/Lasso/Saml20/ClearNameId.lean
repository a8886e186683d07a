import Lasso.Saml20.SingleSignOn

/-!
# NameIDs for a provider that wants them encrypted

An assertion tests the bit for NameIDs in the encryption mode of the provider. A logout request and
a request to rename test whether the mode is that bit alone, so that a provider which wants
assertions encrypted too gets its NameIDs in clear.

## Main results

* `hides_iff` — when a provider gets no NameID in clear.
-/

namespace Lasso.Saml20.ClearNameId

open SingleSignOn

/-! ## What a provider is sent -/

/-- A logout request that is started without error has an EncryptedID and no NameID. -/
def LogoutHides (cx : LogoutContext) (p : Provider) (logout : Logout) (httpMethod : HttpMethod)
    (uniqueId : String) : Prop :=
  (Logout.initRequest cx logout p httpMethod uniqueId).1 = .ok →
    ∃ r, (Logout.initRequest cx logout p httpMethod uniqueId).2.profile.request =
      some (.samlp2LogoutRequest r) ∧ r.encryptedId.isSome ∧ r.nameId = none

/-- A request to rename that is started without error has neither identifier in clear. -/
def ManageHides (cx : ManageContext) (profile : Profile) (remoteProviderId : String)
    (newNameId : Option String) (httpMethod : HttpMethod) (uniqueId : String) : Prop :=
  let result := NameIdManagement.initRequest cx profile remoteProviderId newNameId httpMethod uniqueId
  result.1 = .ok → ∃ r, result.2.request = some (.samlp2ManageNameIdRequest r) ∧
    r.nameId = none ∧ r.newId = none

/-- An assertion that is built without error has an EncryptedID and no NameID. -/
def AssertionHides (cx : LogoutContext) (login : Login) (assertionId uniqueId : String) : Prop :=
  ∀ built, buildAssertion cx login assertionId uniqueId = some (.ok, built) →
    ∃ assertion subject, placedAssertion built.profile = some assertion ∧
      assertion.subject = some subject ∧ subject.encryptedId.isSome ∧ subject.nameId = none

/-! ## What there is to send -/

/-- The part of a logout request that all requests share. -/
def startLogout (cx : LogoutContext) (p : Provider) (logout : Logout) (httpMethod : HttpMethod)
    (uniqueId : String) : Rc × Profile × Samlp2RequestAbstract :=
  Saml20.initRequest cx logout.profile p.providerId
    (fun request => .samlp2LogoutRequest { toSamlp2RequestAbstract := request }) uniqueId httpMethod
    "SingleLogoutService"

/-- The NameIDs of the session with the remote provider of a profile. -/
def sessionNameIds (profile : Profile) : List LassoNode :=
  ((profile.session.filter (!·.isEmpty)).getD {}).getNameIds (profile.remoteProviderId.getD "")

/-- A logout request can be started, and the session has a SAML 2.0 NameID for it. -/
def LogoutNames (cx : LogoutContext) (p : Provider) (logout : Logout) (httpMethod : HttpMethod)
    (uniqueId : String) : Prop :=
  (startLogout cx p logout httpMethod uniqueId).1 = .ok ∧
    ∃ nameId, (sessionNameIds (startLogout cx p logout httpMethod uniqueId).2.1).head? =
      some (.saml2NameId nameId)

/-- The part of a request to rename that all requests share. -/
def startManage (cx : LogoutContext) (profile : Profile) (remoteProviderId : String)
    (httpMethod : HttpMethod) (uniqueId : String) : Rc × Profile × Samlp2RequestAbstract :=
  Saml20.initRequest cx profile (some remoteProviderId)
    (fun request => .samlp2ManageNameIdRequest { toSamlp2RequestAbstract := request }) uniqueId
    httpMethod "ManageNameIDService"

/-- A request to rename can be started, and there is an old or a new identifier for it. -/
def ManageNames (cx : LogoutContext) (profile : Profile) (remoteProviderId : String)
    (newNameId : Option String) (httpMethod : HttpMethod) (uniqueId : String) : Prop :=
  (startManage cx profile remoteProviderId httpMethod uniqueId).1 = .ok ∧
    (newNameId.isSome ∨ (NameIdManagement.profileNameId
      (startManage cx profile remoteProviderId httpMethod uniqueId).2.1).isSome)

/-! ## When it is hidden -/

section

variable {cx : ManageContext} {p : Provider}

theorem logoutHides_iff (logout : Logout) (httpMethod : HttpMethod) (uniqueId : String) :
    LogoutHides cx.toLogoutContext p logout httpMethod uniqueId ↔
      p.encryptionMode = .nameId ∨
        ¬ LogoutNames cx.toLogoutContext p logout httpMethod uniqueId := by
  unfold LogoutHides LogoutNames Logout.initRequest
  rw [← startLogout]
  generalize startLogout cx.toLogoutContext p logout httpMethod uniqueId = started
  obtain ⟨rc, profile, request⟩ := started
  dsimp only
  by_cases hrc : rc = .ok
  · subst hrc
    rw [if_neg (not_not.mpr rfl), ← sessionNameIds]
    split
    · rename_i nameId hnameId
      rw [hnameId]
      by_cases hmode : p.encryptionMode = .nameId
      · rw [if_pos hmode]
        refine iff_of_true ?_ (.inl hmode)
        split
        · nofun
        · rename_i encryptedId _
          refine fun _ => ⟨_, rfl, ?_⟩
          generalize Session.getSessionIndexes _ _ _ = indexes
          cases indexes <;> exact ⟨rfl, rfl⟩
      · rw [if_neg hmode]
        refine iff_of_false (fun h => ?_) (by simp [hmode])
        obtain ⟨r, hr, -, hnone⟩ := h rfl
        cases hr
        generalize Session.getSessionIndexes _ _ _ = indexes at hnone
        cases indexes <;> cases hnone
    · rename_i hne
      exact iff_of_true nofun (.inr fun ⟨_, nameId, hnameId⟩ => hne nameId hnameId)
  · rw [if_pos hrc]
    exact iff_of_true (fun h => absurd h hrc) (.inr fun h => hrc h.1)

theorem manageHides_iff {profile : Profile} {remoteProviderId : String}
    (hp : profile.server.bind (·.getProvider (some remoteProviderId)) = some p)
    (newNameId : Option String) (httpMethod : HttpMethod) (uniqueId : String) :
    ManageHides cx profile remoteProviderId newNameId httpMethod uniqueId ↔
      p.encryptionMode = .nameId ∨
        ¬ ManageNames cx.toLogoutContext profile remoteProviderId newNameId httpMethod
          uniqueId := by
  unfold ManageHides ManageNames NameIdManagement.initRequest
  simp only [hp]
  rw [← startManage]
  generalize startManage cx.toLogoutContext profile remoteProviderId httpMethod uniqueId = started
  obtain ⟨rc, profile, request⟩ := started
  dsimp only
  by_cases hrc : rc = .ok
  · subst hrc
    rw [if_neg (not_not.mpr rfl)]
    unfold NameIdManagement.encryptOldNameId NameIdManagement.addNewId
    by_cases hmode : p.encryptionMode = .nameId
    · refine iff_of_true ?_ (.inl hmode)
      simp only [if_pos hmode]
      generalize Option.bind _ (cx.encryptNameId p) = encrypted
      cases encrypted with
      | none => exact nofun
      | some encryptedId =>
        rw [if_neg (not_not.mpr rfl)]
        cases newNameId with
        | none =>
          refine fun _ => ⟨{
            toSamlp2RequestAbstract := request
            encryptedId := some encryptedId
            terminate := true }, ?_, rfl, rfl⟩
          dsimp only
          split <;> rfl
        | some newNameId =>
          dsimp only
          cases cx.encryptText p newNameId with
          | none => exact nofun
          | some newEncryptedId => exact fun _ => ⟨_, rfl, rfl, rfl⟩
    · simp only [if_neg hmode]
      rw [if_neg (not_not.mpr rfl)]
      cases newNameId with
      | none =>
        cases hnameId : NameIdManagement.profileNameId profile with
        | none =>
          refine iff_of_true (fun _ => ⟨{
            toSamlp2RequestAbstract := request
            terminate := true }, ?_, rfl, rfl⟩) (.inr (by simp))
          dsimp only
          split <;> rfl
        | some nameId =>
          refine iff_of_false (fun h => ?_) (by simp [hmode])
          obtain ⟨r, hr, hnone, -⟩ := h rfl
          dsimp only at hr
          split at hr <;> cases hr <;> cases hnone
      | some newNameId =>
        refine iff_of_false (fun h => ?_) (by simp [hmode])
        obtain ⟨r, hr, -, hnone⟩ := h rfl
        cases hr
        cases hnone
  · rw [if_pos hrc]
    exact iff_of_true (fun h => absurd h hrc) (.inr fun h => hrc h.1)

theorem assertionHides {login : Login} {assertionId uniqueId : String}
    (hp : login.profile.remoteProvider = some p) (hbit : wantsEncryptedNameId p = true)
    (hkind : NameIdKind.ofFormat (policyFormat login.profile) ≠ .other) :
    AssertionHides cx.toLogoutContext login assertionId uniqueId := by
  intro built hbuild
  obtain ⟨server, nameId, encrypt, -, hasserted, hbuilt⟩ := buildAssertion_eq_ok hbuild
  have hencrypt : encrypt = true := by
    unfold assertedNameId at hasserted
    simp only [hp, Option.any_some, hbit, Bool.true_or] at hasserted
    split at hasserted
    · cases hasserted
      rfl
    · split at hasserted
      · cases hasserted
      · split at hasserted <;> cases hasserted <;> rfl
    · rename_i hother
      exact absurd hother hkind
  obtain ⟨assertion, subject, hplaced, hsubject, hsubjects⟩ := hbuilt.placed
  obtain ⟨hnone, _, _, -, hsome, -⟩ := hsubjects.encrypted hencrypt
  exact ⟨assertion, subject, hplaced, hsubject, by rw [hsome]; rfl, hnone⟩

/-- A provider with the bit for NameIDs gets them encrypted in assertions. It gets them encrypted in
requests if no other bit is set, or if there is none to send. -/
theorem hides_iff (hbit : wantsEncryptedNameId p = true) :
    (∀ logout httpMethod uniqueId,
      LogoutHides cx.toLogoutContext p logout httpMethod uniqueId ↔
        p.encryptionMode = .nameId ∨
          ¬ LogoutNames cx.toLogoutContext p logout httpMethod uniqueId) ∧
    (∀ profile remoteProviderId newNameId httpMethod uniqueId,
      profile.server.bind (·.getProvider (some remoteProviderId)) = some p →
        (ManageHides cx profile remoteProviderId newNameId httpMethod uniqueId ↔
          p.encryptionMode = .nameId ∨
            ¬ ManageNames cx.toLogoutContext profile remoteProviderId newNameId httpMethod
              uniqueId)) ∧
    (∀ login assertionId uniqueId, login.profile.remoteProvider = some p →
      NameIdKind.ofFormat (policyFormat login.profile) ≠ .other →
        AssertionHides cx.toLogoutContext login assertionId uniqueId) :=
  ⟨logoutHides_iff,
    fun _ _ newNameId httpMethod uniqueId hp => manageHides_iff hp newNameId httpMethod uniqueId,
    fun _ _ _ hp hkind => assertionHides hp hbit hkind⟩

end

/-- `sp.example`, which wants NameIDs and assertions encrypted. -/
def bothProvider : Provider where
  providerId := some "https://sp.example"
  role := .sp
  encryptionMode := .both
  endpoints := [{
    role := .sp, kind := "SingleLogoutService", binding := saml2MetadataBindingSoap
    url := "https://sp.example/slo" }, {
    role := .sp, kind := "ManageNameIDService", binding := saml2MetadataBindingSoap
    url := "https://sp.example/nim" }]

/-- The identity provider that knows it, in a session of `alice`. -/
def bothLogout : Logout where
  profile := {
    server := some {
      provider := { providerId := some "https://idp.example", role := .idp }
      providers := (∅ : AList (fun _ : String => Provider)).insert "https://sp.example"
        bothProvider }
    session := some {
      assertions := (∅ : AList (fun _ : String => LassoNode)).insert "https://sp.example"
        (.saml2Assertion {
          id := some "_a"
          subject := some { nameId := some aliceNameId }
          authnStatement := [{ sessionIndex := some "_a" }] })
      nidAndSessionIndexes := (∅ : AList (fun _ : String => List NidAndSessionIndex)).insert
        "https://sp.example" [{
          nameId := .saml2NameId aliceNameId
          assertionId := some "_a"
          sessionIndex := some "_a" }] } }

def bothCx : ManageContext :=
  { aliceCx with
    manageNameIdRequestInitFromXml := fun r _ => (.castFailed, r)
    manageNameIdResponseInitFromXml := fun r _ => (.castFailed, r)
    encryptText := fun _ text => some { encryptedData := text } }

/-- `alice` is asked to leave `sp.example`, and renamed there, in clear. -/
theorem alice_in_clear :
    wantsEncryptedNameId bothProvider = true ∧
      ¬ LogoutHides bothCx.toLogoutContext bothProvider bothLogout .soap "_r" ∧
      ¬ ManageHides bothCx bothLogout.profile "https://sp.example" (some "alice2") .soap "_r" := by
  refine ⟨rfl, ?_, ?_⟩
  · intro h
    obtain ⟨r, hr, -, hnone⟩ := h rfl
    cases hr
    cases hnone
  · intro h
    obtain ⟨r, hr, hnone, -⟩ := h rfl
    cases hr
    cases hnone

/-- A logout request for the same provider with the bit for NameIDs alone. -/
theorem alice_hidden :
    LogoutHides bothCx.toLogoutContext { bothProvider with encryptionMode := .nameId } bothLogout
      .soap "_r" := by
  have hbit : wantsEncryptedNameId { bothProvider with encryptionMode := .nameId } = true := rfl
  exact ((hides_iff hbit).1 bothLogout .soap "_r").mpr (.inl rfl)

end Lasso.Saml20.ClearNameId
