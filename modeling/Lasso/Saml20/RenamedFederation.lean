import Lasso.Saml20.NameIdAgreement

/-!
# A federation after a rename

The receiver of a request to rename makes the new NameID of a federation from the fields of the
request. A new identifier that is encrypted is not read, so that an identity provider which sends
one leaves the federation without content, and comparing with it compares NULL.

## Main definitions

* `Federation.verifyNonNull` — the comparison of a federation, where it compares no NULL.
* `Renaming` — a request to rename the principal of a federation.
* `KeepsUsable` — what is expected of the federation afterwards.

## Main results

* `keepsUsable_iff` — which requests keep the federation usable.
-/

namespace Lasso

/-! ## Comparisons without NULL -/

/-- `strcmp` of a stored content and the one that is looked for. There is no result for NULL, nor
for a stored identifier of the other protocol, which has another field in that place. -/
def strcmpContent : LassoNode → LassoNode → Option Bool
  | .samlNameIdentifier stored, .samlNameIdentifier nameIdentifier => do
    return (← stored.content) == (← nameIdentifier.content)
  | .saml2NameId stored, .saml2NameId nameId => do
    return (← stored.content) == (← nameId.content)
  | _, _ => none

/-- The test of one of the two identifiers of a federation; none does not match. -/
def matchesStored (stored : Option LassoNode) (nameIdentifier : LassoNode) : Option Bool :=
  match stored with
  | none => some false
  | some stored => strcmpContent stored nameIdentifier

/-- `lasso_federation_verify_name_identifier`, with a result only if it compares no NULL. -/
def Federation.verifyNonNull (f : Federation) (nameIdentifier : LassoNode) : Option Bool :=
  match nameIdentifier with
  | .samlNameIdentifier _ | .saml2NameId _ => do
    if ← matchesStored f.localNameIdentifier nameIdentifier then return true
    matchesStored f.remoteNameIdentifier nameIdentifier
  | _ => some false

section

variable {f : Federation} {new sought : Saml2NameId} {content soughtContent : String}

theorem strcmpContent_nameId (hnew : new.content = some content)
    (hsought : sought.content = some soughtContent) :
    strcmpContent (.saml2NameId new) (.saml2NameId sought) = some (content == soughtContent) := by
  simp [strcmpContent, hnew, hsought]

/-- The content of a stored identifier is that of the one that matches it. -/
theorem matchesStored_eq_true {stored : Option LassoNode} {nameIdentifier : LassoNode}
    (h : matchesStored stored nameIdentifier = some true) :
    ∃ content, nameIdentifier.nameContent = some content ∧
      stored.bind (·.nameContent) = some content := by
  cases stored with
  | none => cases h
  | some stored =>
    unfold matchesStored strcmpContent at h
    dsimp only at h
    split at h
    all_goals
      simp only [bind, Option.bind_eq_some_iff, pure, Option.some.injEq, beq_iff_eq,
        reduceCtorEq] at h
    all_goals
      obtain ⟨content, hstored, _, hsought, rfl⟩ := h
      exact ⟨content, hsought, hstored⟩

theorem matchesStored_eq_false {stored : Option LassoNode} {nameIdentifier : LassoNode}
    {content : String} (hcontent : nameIdentifier.nameContent = some content)
    (h : matchesStored stored nameIdentifier = some false) :
    stored.bind (·.nameContent) ≠ some content := by
  cases stored with
  | none => nofun
  | some stored =>
    unfold matchesStored strcmpContent at h
    dsimp only at h
    split at h
    all_goals
      simp only [bind, Option.bind_eq_some_iff, pure, Option.some.injEq, reduceCtorEq] at h
    all_goals
      obtain ⟨stored, hstored, sought, hsought, hne⟩ := h
      cases hcontent.symm.trans hsought
      intro heq
      cases hstored.symm.trans heq
      simp at hne

/-- Where no NULL is compared, the comparison is `verifyNameIdentifier`. -/
theorem Federation.verifyNonNull_eq {nameIdentifier : LassoNode} {accepted : Bool}
    (hcontent : nameIdentifier.nameContent.isSome)
    (h : f.verifyNonNull nameIdentifier = some accepted) :
    f.verifyNameIdentifier nameIdentifier = accepted := by
  obtain ⟨content, hcontent⟩ := Option.isSome_iff_exists.mp hcontent
  unfold verifyNameIdentifier
  rw [hcontent]
  dsimp only
  have hboth : (matchesStored f.localNameIdentifier nameIdentifier).bind (fun matched =>
      if matched then some true else matchesStored f.remoteNameIdentifier nameIdentifier) =
        some accepted := by
    unfold verifyNonNull at h
    split at h
    · exact h
    · exact h
    · rename_i hsaml hsaml2
      cases nameIdentifier with
      | samlNameIdentifier n => exact absurd rfl (hsaml n)
      | saml2NameId n => exact absurd rfl (hsaml2 n)
      | _ => cases hcontent
  obtain ⟨matched, hlocal, hremote⟩ := Option.bind_eq_some_iff.mp hboth
  cases matched with
  | true =>
    obtain ⟨_, hsame, hstored⟩ := matchesStored_eq_true hlocal
    cases hcontent.symm.trans hsame
    cases hremote
    simp [hstored]
  | false =>
    have hne := matchesStored_eq_false hcontent hlocal
    cases accepted with
    | true =>
      obtain ⟨_, hsame, hstored⟩ := matchesStored_eq_true hremote
      cases hcontent.symm.trans hsame
      simp [hstored]
    | false =>
      have hne' := matchesStored_eq_false hcontent hremote
      simp [hne, hne']

end

/-- Any content that is looked for can be compared with an identifier: there is none, or it is a
NameID with content. -/
def Comparable (stored : Option LassoNode) : Prop :=
  ∀ node, stored = some node → ∃ nameId content, node = .saml2NameId nameId ∧
    nameId.content = some content

theorem Comparable.matchesStored {stored : Option LassoNode} (h : Comparable stored)
    {sought : Saml2NameId} {content : String} (hsought : sought.content = some content) :
    Lasso.matchesStored stored (.saml2NameId sought) =
      some (stored.bind (·.nameContent) == some content) := by
  cases stored with
  | none => rfl
  | some node =>
    obtain ⟨nameId, storedContent, rfl, hstored⟩ := h node rfl
    refine (strcmpContent_nameId hstored hsought).trans (congrArg some ?_)
    rw [Option.bind_some, LassoNode.nameContent, hstored]
    rfl

/-- What cannot be compared with one content cannot be compared with any. -/
theorem comparable_of_matchesStored {stored : Option LassoNode} {sought : Saml2NameId}
    (h : (matchesStored stored (.saml2NameId sought)).isSome) : Comparable stored := by
  intro node hnode
  rw [hnode] at h
  cases node with
  | saml2NameId nameId =>
    obtain ⟨_, h⟩ := Option.isSome_iff_exists.mp h
    obtain ⟨content, hcontent, -⟩ := Option.bind_eq_some_iff.mp h
    exact ⟨nameId, content, rfl, hcontent⟩
  | _ => cases h

namespace Saml20.NameIdManagement

/-! ## A usable federation -/

/-- The new identifier that a request asks for, clear or encrypted. -/
def newIdentifier (decryptText : Saml2EncryptedElement → Option String)
    (request : Samlp2ManageNameIdRequest) : Option String :=
  request.newId.or (request.newEncryptedId.bind decryptText)

/-- A request to rename the principal of the federation with its issuer, whose local NameID is `old`
for the receiver. -/
structure Renaming (profile : Profile) (request : Samlp2ManageNameIdRequest)
    (requester : Provider) (nameId : Saml2NameId) (federation : Federation) (old : Saml2NameId) :
    Prop where
  request_eq : profile.request = some (.samlp2ManageNameIdRequest request)
  requester_eq : ∃ server issuer, profile.server = some server ∧ request.issuer = some issuer ∧
    server.getProvider issuer.content = some requester
  nameId_eq : request.nameId = some nameId
  terminate : request.terminate = false
  found : profile.federationWith requester.providerId = some federation
  local_eq : federation.localNameIdentifier = some (.saml2NameId old)
  content : old.content.isSome

/-- What is expected of the federation afterwards: its NameID has a content, its fields are those of
the request, with the new identifier where the role of the requester puts it, and any NameID with a
content can be compared with it. -/
structure KeepsUsable (decryptText : Saml2EncryptedElement → Option String)
    (request : Samlp2ManageNameIdRequest) (bySp : Bool) (nameId old new : Saml2NameId)
    (after : Federation) : Prop where
  local_eq : after.localNameIdentifier = some (.saml2NameId new)
  content : new.content.isSome
  content_eq : new.content = if bySp then old.content else newIdentifier decryptText request
  spProvidedId : bySp = true → new.spProvidedId = newIdentifier decryptText request
  format : new.format = nameId.format
  nameQualifier : new.nameQualifier = nameId.nameQualifier
  spNameQualifier : new.spNameQualifier = nameId.spNameQualifier
  verifies : ∀ (sought : Saml2NameId) (content : String), sought.content = some content →
    ∃ accepted, after.verifyNonNull (.saml2NameId sought) = some accepted ∧
      (accepted = true ↔ new.content = some content ∨
        after.remoteNameIdentifier.bind (·.nameContent) = some content)

/-- The requests that keep a federation usable: the new identifier is clear, and one of a service
provider may be missing, and names the principal by the local NameID; and a remote identifier of the
federation can be compared with. -/
structure ReadableRename (decryptText : Saml2EncryptedElement → Option String)
    (request : Samlp2ManageNameIdRequest) (bySp : Bool) (nameId old : Saml2NameId)
    (federation : Federation) : Prop where
  newId : request.newId.isSome ∨
    (bySp = true ∧ request.newEncryptedId.bind decryptText = none)
  sameContent : bySp = true → nameId.content = old.content
  remote : Comparable federation.remoteNameIdentifier

section

variable {decryptText : Saml2EncryptedElement → Option String} {bySp : Bool}
  {request : Samlp2ManageNameIdRequest} {nameId old new : Saml2NameId} {federation after : Federation}

/-- A usable federation compares a content that is not the local one with its remote identifier. -/
theorem KeepsUsable.remote (h : KeepsUsable decryptText request bySp nameId old new after) :
    Comparable after.remoteNameIdentifier := by
  obtain ⟨content, hcontent⟩ := Option.isSome_iff_exists.mp h.content
  obtain ⟨strange, hstrange⟩ : ∃ strange : String, strange ≠ content :=
    ⟨content.push 'x', fun h => by simpa using congrArg String.length h⟩
  obtain ⟨accepted, hverify, -⟩ := h.verifies { content := some strange } strange rfl
  have hlocal : matchesStored after.localNameIdentifier
      (.saml2NameId { content := some strange }) = some false := by
    rw [h.local_eq]
    refine (strcmpContent_nameId hcontent rfl).trans (congrArg some ?_)
    exact beq_eq_false_iff_ne.mpr hstrange.symm
  have hremote : matchesStored after.remoteNameIdentifier
      (.saml2NameId { content := some strange }) = some accepted := by
    have hboth := hverify
    unfold Federation.verifyNonNull at hboth
    dsimp only at hboth
    rwa [hlocal] at hboth
  exact comparable_of_matchesStored (by rw [hremote]; rfl)

/-- A renamed federation compares any content. -/
theorem verifyNonNull_of_comparable {content soughtContent : String} {sought : Saml2NameId}
    (hlocal : after.localNameIdentifier = some (.saml2NameId new))
    (hcontent : new.content = some content) (hremote : Comparable after.remoteNameIdentifier)
    (hsought : sought.content = some soughtContent) :
    after.verifyNonNull (.saml2NameId sought) =
      some (content == soughtContent ||
        after.remoteNameIdentifier.bind (·.nameContent) == some soughtContent) := by
  have hfirst : matchesStored after.localNameIdentifier (.saml2NameId sought) =
      some (content == soughtContent) := by
    rw [hlocal]
    exact strcmpContent_nameId hcontent hsought
  unfold Federation.verifyNonNull
  dsimp only
  rw [hfirst, hremote.matchesStored hsought]
  cases content == soughtContent <;> rfl

/-- The federation that a request leaves, by its fields. -/
theorem keepsUsable_renamed_iff (hnameId : nameId.content.isSome)
    (hafter : after = { federation with
      localNameIdentifier := some (.saml2NameId (renamed bySp nameId request.newId)) }) :
    (∃ new, KeepsUsable decryptText request bySp nameId old new after) ↔
      ReadableRename decryptText request bySp nameId old federation := by
  constructor
  · rintro ⟨new, h⟩
    have hremote := h.remote
    have hnew : new = renamed bySp nameId request.newId := by
      have hlocal := h.local_eq
      rw [hafter] at hlocal
      cases hlocal
      rfl
    rw [hafter] at hremote
    refine ⟨?_, fun hbySp => ?_, hremote⟩
    · cases hbySp : bySp with
      | false =>
        have hcontent := h.content
        rw [hnew, hbySp] at hcontent
        exact .inl hcontent
      | true =>
        have hspProvidedId := h.spProvidedId hbySp
        rw [hnew, hbySp] at hspProvidedId
        cases hnewId : request.newId with
        | some newId => exact .inl rfl
        | none =>
          simp only [renamed, newIdentifier, hnewId, Option.none_or, if_true] at hspProvidedId
          exact .inr ⟨rfl, hspProvidedId.symm⟩
    · have hcontent := h.content_eq
      rw [hnew, hbySp] at hcontent
      exact hcontent
  · intro h
    have hcontent : (renamed bySp nameId request.newId).content.isSome := by
      cases hbySp : bySp with
      | true => exact hnameId
      | false =>
        rcases h.newId with hnewId | ⟨hsp, -⟩
        · exact hnewId
        · rw [hbySp] at hsp
          cases hsp
    have hidentifier : newIdentifier decryptText request = request.newId := by
      cases hnewId : request.newId with
      | some newId => simp [newIdentifier, hnewId]
      | none =>
        have hencrypted := (h.newId.resolve_left (by simp [hnewId])).2
        simp [newIdentifier, hnewId, hencrypted]
    refine ⟨_, ⟨by rw [hafter], hcontent, ?_, fun hbySp => ?_, rfl, rfl, rfl,
      fun sought content hsought => ?_⟩⟩
    · rw [hidentifier]
      cases hbySp : bySp with
      | true => exact h.sameContent hbySp
      | false => rfl
    · rw [hidentifier, hbySp]
      rfl
    · obtain ⟨newContent, hnewContent⟩ := Option.isSome_iff_exists.mp hcontent
      have hremote : Comparable after.remoteNameIdentifier := by
        rw [hafter]
        exact h.remote
      refine ⟨_, verifyNonNull_of_comparable (by rw [hafter]) hnewContent hremote hsought, ?_⟩
      rw [hnewContent]
      simp

end

/-- A request that is validated without error names the principal of the federation, which is
renamed. -/
theorem changed_of_validateRequest {cx : ManageContext} {profile after : Profile}
    {request : Samlp2ManageNameIdRequest} {requester : Provider} {nameId old : Saml2NameId}
    {federation : Federation}
    (hrenaming : Renaming profile request requester nameId federation old)
    (hok : validateRequest cx profile = some (.ok, after)) :
    ∃ changed, after.federationWith requester.providerId = some changed ∧
      changed = { federation with
        localNameIdentifier := some (.saml2NameId
          (renamed (requester.role == .sp) nameId request.newId)) } ∧
      nameId.content.isSome := by
  obtain ⟨server, issuer, hserver, hissuer, hp⟩ := hrenaming.requester_eq
  obtain ⟨issuer', p, found, nameId', -, hissuer', hp', hfound, hnameId, hverify, hafter, -⟩ :=
    validateRequest_eq_ok hok hrenaming.request_eq hrenaming.terminate hserver
  cases hissuer.symm.trans hissuer'
  cases hp.symm.trans hp'
  cases hrenaming.found.symm.trans hfound
  cases hrenaming.nameId_eq.symm.trans hnameId
  refine ⟨_, hafter, rfl, ?_⟩
  cases hcontent : nameId.content with
  | some content => rfl
  | none => simp [Federation.verifyNameIdentifier, LassoNode.nameContent, hcontent] at hverify

/-- The identity provider asks the service provider to rename `alice`. -/
def renameRequest (newId : Option String) (newEncryptedId : Option Saml2EncryptedElement) :
    Samlp2ManageNameIdRequest where
  issuer := some { content := some "https://idp.example" }
  nameId := some aliceNameId
  newId
  newEncryptedId

/-- The service provider with such a request. -/
def requestedProfile (request : Samlp2ManageNameIdRequest) : Profile :=
  { aliceProfile agreeingSp "https://idp.example" with
    request := some (.samlp2ManageNameIdRequest request) }

/-- The federation of `alice`. -/
def aliceFederation : Federation where
  remoteProviderId := "https://idp.example"
  localNameIdentifier := some (.saml2NameId aliceNameId)

theorem renaming_alice (newId : Option String) (newEncryptedId : Option Saml2EncryptedElement) :
    Renaming (requestedProfile (renameRequest newId newEncryptedId))
      (renameRequest newId newEncryptedId) (agreeingProvider "https://idp.example" .idp)
      aliceNameId aliceFederation aliceNameId where
  request_eq := rfl
  requester_eq := ⟨agreeingSp, { content := some "https://idp.example" }, rfl, rfl, rfl⟩
  nameId_eq := rfl
  terminate := rfl
  found := rfl
  local_eq := rfl
  content := rfl

/-- The service provider after the request. -/
def aliceAnswered (request : Samlp2ManageNameIdRequest) : Profile :=
  ((validateRequest agreeingCx (requestedProfile request)).getD (.ok, {})).2

theorem validateRequest_alice (newId : Option String)
    (newEncryptedId : Option Saml2EncryptedElement) :
    validateRequest agreeingCx (requestedProfile (renameRequest newId newEncryptedId)) =
      some (.ok, aliceAnswered (renameRequest newId newEncryptedId)) := rfl

end Saml20.NameIdManagement

end Lasso
