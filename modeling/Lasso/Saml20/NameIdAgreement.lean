import Lasso.Saml20.NameIdManagement

/-!
# Both sides of a rename

The sender and the receiver of a request to rename each make the new NameID of the request, by the
role of the sender: the receiver knows it from its server, the sender is it.

## Main results

* `Exchange.agree` — after a complete exchange both federations have the same NameID.
-/

namespace Lasso.Saml20.NameIdManagement

/-! ## A complete exchange -/

/-- A request to rename, from `sender` to `receiver`, every step of which returned zero. The codec
of the messages keeps the request and the response. -/
structure Exchange where
  senderId : String
  receiverId : String
  senderServer : Server
  receiverServer : Server
  senderCx : ManageContext
  receiverCx : ManageContext
  sending : Profile
  started : Profile
  receiving : Profile
  processed : Profile
  answered : Profile
  finished : Profile
  newNameId : String
  httpMethod : HttpMethod
  uniqueId : String
  requestMsg : Bytes
  responseMsg : Bytes
  sending_server : sending.server = some senderServer
  receiving_server : receiving.server = some receiverServer
  starts : initRequest senderCx sending receiverId (some newNameId) httpMethod uniqueId =
    (.ok, started)
  requests : started.request =
    some (.samlp2ManageNameIdRequest (readRequest receiverCx requestMsg).node)
  processes : processRequestMsg receiverCx receiving requestMsg = (.ok, processed)
  validates : validateRequest receiverCx processed = some (.ok, answered)
  responds : answered.response =
    some (.samlp2ManageNameIdResponse (readResponse senderCx responseMsg).node)
  finishes : processResponseMsg senderCx started responseMsg = some (.ok, finished)

/-- The two parties know each other: they have their provider IDs, and the sender has one role, in
which the receiver knows it. -/
structure Exchange.Parties (e : Exchange) (role : ProviderRole) : Prop where
  senderId : e.senderServer.provider.providerId = some e.senderId
  receiverId : e.receiverServer.provider.providerId = some e.receiverId
  senderRole : e.senderServer.provider.role = role
  knows : ∃ p, e.receiverServer.getProvider (some e.senderId) = some p ∧
    p.providerId = some e.senderId ∧ p.role = role

/-! ## Steps without error -/

section

variable {cx : ManageContext} {profile after : Profile} {text : Bytes}

/-- A request with a clear NameID is kept as it was read. -/
theorem processRequestMsg_eq_ok (h : processRequestMsg cx profile text = (.ok, after))
    {nameId : Saml2NameId} (hnameId : (readRequest cx text).node.nameId = some nameId) :
    after.request = some (.samlp2ManageNameIdRequest (readRequest cx text).node) ∧
      after.identity = profile.identity ∧ after.server = profile.server := by
  unfold processRequestMsg at h
  dsimp only at h
  have houtcome := processAnyRequest_outcome .samlp2ManageNameIdRequest
    (·.toSamlp2RequestAbstract) cx.toContext
    (saml2NodeClass cx.toEnv cx.manageNameIdRequestInitFromXml) {} profile text
  generalize processAnyRequest .samlp2ManageNameIdRequest _ _ _ _ _ _ = result at h houtcome
  obtain ⟨rc, read⟩ := result
  dsimp only at h
  by_cases hrc : rc = .ok
  · subst hrc
    rw [if_neg (not_not.mpr rfl)] at h
    cases houtcome with
    | unreadable _ hne | noIssuer _ _ _ hne | unknownIssuer _ _ _ _ hne => exact absurd rfl hne
    | verified _ _ _ _ _ _ hprofile =>
      have hdecrypt : decryptRequest cx.toContext read (readRequest cx text).node =
          (.ok, { read with
            nameIdentifier := (readRequest cx text).node.nameId.map .saml2NameId
            request := some (.samlp2ManageNameIdRequest (readRequest cx text).node) }) := by
        unfold decryptRequest processNameIdentifierDecryption
        rw [hnameId]
        dsimp only
        rw [← hnameId]
      rw [hdecrypt, if_neg (not_not.mpr rfl)] at h
      obtain rfl := congrArg Prod.snd h
      dsimp only at hprofile
      subst hprofile
      exact ⟨rfl, rfl, rfl⟩
  · rw [if_pos hrc] at h
    exact absurd (congrArg Prod.fst h) hrc

theorem initResponse_manage (cx : Context) (profile : Profile) (code1 : String)
    (code2 : Option String) :
    ∃ response, (initResponse cx profile .samlp2ManageNameIdResponse {} code1 code2).2 =
        { profile with response := some (.samlp2ManageNameIdResponse response) } ∧
      response.issuer = profile.server.map fun server =>
        { content := server.provider.providerId } := by
  unfold initResponse
  dsimp only
  split
  · refine ⟨_, rfl, ?_⟩
    cases profile.server <;> rfl
  · refine ⟨_, rfl, ?_⟩
    cases profile.server <;> rfl

/-- The shared part of a validation that succeeds: the issuer of the request is known, and a
response of the server is put into the profile. -/
theorem profileValidateRequest_eq_ok {cx : Context} {p : Provider}
    {request : Samlp2ManageNameIdRequest}
    (hrequest : profile.request = some (.samlp2ManageNameIdRequest request))
    (h : Saml20.validateRequest cx profile true .samlp2ManageNameIdResponse = (.ok p, after)) :
    ∃ server issuer response, profile.server = some server ∧ request.issuer = some issuer ∧
      server.getProvider issuer.content = some p ∧
      after = { profile with
        remoteProviderId := issuer.content
        response := some (.samlp2ManageNameIdResponse response) } ∧
      response.issuer = some { content := server.provider.providerId } := by
  unfold Saml20.validateRequest at h
  rw [show requestAbstract profile = some request.toSamlp2RequestAbstract by
    rw [requestAbstract, hrequest]] at h
  dsimp only at h
  by_cases hidentity : (true && profile.identity.isNone) = true
  · rw [if_pos hidentity] at h
    cases h
  · rw [if_neg hidentity] at h
    split at h
    · cases h
    · rename_i issuer hissuer
      split at h
      · cases h
      · rename_i server hserver
        split at h
        · cases h
        · rename_i provider hprovider
          obtain ⟨response, hinit, hresponse⟩ := initResponse_manage cx
            { profile with remoteProviderId := issuer.content } saml2StatusCodeSuccess none
          rw [hinit] at h
          dsimp only at h hresponse
          rw [hserver] at hresponse
          split_ifs at h
          · cases h
          · cases h
            exact ⟨server, issuer, response, hserver, hissuer, hprovider, rfl, hresponse⟩

/-- A rename that is validated is applied to the federation with the remote provider, which knows
the NameID of the request. -/
theorem manageNameId_eq_ok {p : Provider} {request : Samlp2ManageNameIdRequest}
    (hrename : request.terminate = false)
    (h : manageNameId profile p request = (.ok, after)) :
    ∃ federation nameId, profile.federationWith p.providerId = some federation ∧
      request.nameId = some nameId ∧
      federation.verifyNameIdentifier (.saml2NameId nameId) = true ∧
      after.federationWith p.providerId = some { federation with
        localNameIdentifier := some (.saml2NameId
          (renamed (p.role == .sp) nameId request.newId)) } ∧
      after.response = profile.response := by
  have houtcome := manageNameId_outcome profile p request
  rw [h] at houtcome
  cases houtcome with
  | removed _ hterminate => cases hrename.symm.trans hterminate
  | @changed identity providerId federation changed nameId habout _ hchanged =>
    refine ⟨federation, nameId, habout.federationWith_eq, habout.nameId_eq, habout.verified, ?_,
      rfl⟩
    rw [habout.providerId_eq, ← hchanged]
    exact habout.getFederation_changed changed

/-- A rename that is validated without error is applied to the federation with its issuer, and a
response of the server answers it. -/
theorem validateRequest_eq_ok (h : validateRequest cx profile = some (.ok, after))
    {request : Samlp2ManageNameIdRequest}
    (hrequest : profile.request = some (.samlp2ManageNameIdRequest request))
    (hrename : request.terminate = false) {server : Server}
    (hserver : profile.server = some server) :
    ∃ issuer p federation nameId response, request.issuer = some issuer ∧
      server.getProvider issuer.content = some p ∧
      profile.federationWith p.providerId = some federation ∧ request.nameId = some nameId ∧
      federation.verifyNameIdentifier (.saml2NameId nameId) = true ∧
      after.federationWith p.providerId = some { federation with
        localNameIdentifier := some (.saml2NameId
          (renamed (p.role == .sp) nameId request.newId)) } ∧
      after.response = some (.samlp2ManageNameIdResponse response) ∧
      response.issuer = some { content := server.provider.providerId } := by
  unfold validateRequest at h
  split at h
  · rename_i rc _ _
    exact absurd (congrArg Prod.fst (Option.some.inj h)) rc.2
  · rename_i p validated hvalidated
    obtain ⟨server', issuer, response, hserver', hissuer, hp, rfl, hresponse⟩ :=
      profileValidateRequest_eq_ok hrequest hvalidated
    cases hserver.symm.trans hserver'
    dsimp only at h
    rw [hrequest] at h
    obtain ⟨federation, nameId, hfederation, hnameId, hverify, hafter, hsame⟩ :=
      manageNameId_eq_ok hrename (Option.some.inj h)
    exact ⟨issuer, p, federation, nameId, response, hissuer, hp, hfederation, hnameId, hverify,
      hafter, hsame, hresponse⟩

/-- A rename that is completed is applied to the federation with the issuer of the response. -/
theorem completeRequest_eq_ok {server : Server} {issuer : String}
    {request : Samlp2ManageNameIdRequest} (hrename : request.terminate = false)
    (h : completeRequest profile server issuer request = some (.ok, after)) :
    ∃ federation nameId, profile.federationWith (some issuer) = some federation ∧
      request.nameId = some nameId ∧
      after.federationWith (some issuer) = some { federation with
        localNameIdentifier := some (.saml2NameId
          (renamed (server.provider.role == .sp) nameId request.newId)) } := by
  unfold completeRequest at h
  rw [if_neg (by rw [hrename]; decide)] at h
  obtain ⟨nameId, hnameId, h⟩ := Option.bind_eq_some_iff.mp h
  obtain ⟨identity, hidentity, h⟩ := Option.map_eq_some_iff.mp h
  cases hfederation : identity.getFederation (some issuer) with
  | none =>
    rw [hfederation] at h
    cases h
  | some federation =>
    rw [hfederation] at h
    cases h
    refine ⟨federation, nameId, ?_, hnameId, ?_⟩
    · rw [Profile.federationWith, hidentity]
      exact hfederation
    · exact Identity.getFederation_replaceFederation (by rw [hfederation]; rfl)

/-- A response that is processed without error is accepted, and completes the pending request. -/
theorem processResponseMsg_eq_ok (h : processResponseMsg cx profile text = some (.ok, after))
    {request : Samlp2ManageNameIdRequest} (hrename : request.terminate = false)
    (hrequest : profile.request = some (.samlp2ManageNameIdRequest request)) {server : Server}
    (hserver : profile.server = some server) :
    ∃ issuer federation nameId, Accepted cx profile text issuer ∧
      profile.federationWith (some issuer) = some federation ∧ request.nameId = some nameId ∧
      after.federationWith (some issuer) = some { federation with
        localNameIdentifier := some (.saml2NameId
          (renamed (server.provider.role == .sp) nameId request.newId)) } := by
  have hread : (processAnyResponse cx profile text).1 = .ok := by
    by_contra hrc
    unfold processResponseMsg at h
    dsimp only at h
    rw [if_pos hrc] at h
    exact hrc (congrArg Prod.fst (Option.some.inj h))
  obtain ⟨issuer, haccepted⟩ := accepted_of_processAnyResponse hread
  obtain ⟨signatureStatus, hprocess⟩ := processResponseMsg_of_accepted haccepted hserver
  rw [h, hrequest] at hprocess
  obtain ⟨federation, nameId, hfederation, hnameId, hafter⟩ :=
    completeRequest_eq_ok hrename hprocess.symm
  exact ⟨issuer, federation, nameId, haccepted, hfederation, hnameId, hafter⟩

end

/-! ## Both sides -/

/-- The old NameID that both sides have. A federation of SAML 2.0 has no remote identifier. -/
structure Exchange.Linked (e : Exchange) (nameId : Saml2NameId) : Prop where
  sender : (e.sending.federationWith (some e.receiverId)).bind (·.localNameIdentifier) =
    some (.saml2NameId nameId)
  receiver : (e.receiving.federationWith (some e.senderId)).bind (·.localNameIdentifier) =
    some (.saml2NameId nameId)
  noRemote : (e.receiving.federationWith (some e.senderId)).bind (·.remoteNameIdentifier) = none

/-- Both sides have a NameID that has the new identifier where the role of the sender puts it. -/
structure Exchange.Agrees (e : Exchange) (role : ProviderRole) (old new : Saml2NameId) : Prop where
  sender : (e.finished.federationWith (some e.receiverId)).bind (·.localNameIdentifier) =
    some (.saml2NameId new)
  receiver : (e.answered.federationWith (some e.senderId)).bind (·.localNameIdentifier) =
    some (.saml2NameId new)
  bySp : role = .sp → new.spProvidedId = some e.newNameId ∧ new.content = old.content
  byIdp : role ≠ .sp → new.content = some e.newNameId

/-- A federation without remote identifier knows the content of its local one only. -/
theorem content_of_verifyNameIdentifier {federation : Federation} {old nameId : Saml2NameId}
    (hlocal : federation.localNameIdentifier = some (.saml2NameId old))
    (hremote : federation.remoteNameIdentifier = none)
    (h : federation.verifyNameIdentifier (.saml2NameId nameId) = true) :
    nameId.content = old.content := by
  unfold Federation.verifyNameIdentifier at h
  rw [hlocal, hremote] at h
  cases hcontent : nameId.content with
  | none => simp [LassoNode.nameContent, hcontent] at h
  | some content =>
    simp only [LassoNode.nameContent, hcontent, Option.bind_some, Option.bind_none,
      Bool.or_eq_true, beq_iff_eq, reduceCtorEq, or_false] at h
    exact h.symm

/-- A provider that takes requests by SOAP, for which assertions are encrypted. -/
def agreeingProvider (providerId : String) (role : ProviderRole) : Provider where
  providerId := some providerId
  role
  conformance := .saml20
  publicKey := some "key.pem"
  signingPublicKeys := [⟨.rsa, "k".toList⟩]
  encryptionMode := .assertion
  endpoints := [{
    role
    kind := "ManageNameIDService"
    binding := saml2MetadataBindingSoap
    url := "https://example/soap" }]

def agreeingSp : Server :=
  (Server.addProvider { provider := agreeingProvider "https://sp.example" .sp }
    (agreeingProvider "https://idp.example" .idp)).2

def agreeingIdp : Server :=
  (Server.addProvider { provider := agreeingProvider "https://idp.example" .idp }
    (agreeingProvider "https://sp.example" .sp)).2

/-- The NameID of `alice`. -/
def aliceNameId : Saml2NameId where
  format := some "urn:oasis:names:tc:SAML:2.0:nameid-format:persistent"
  nameQualifier := some "https://idp.example"
  spNameQualifier := some "https://sp.example"
  content := some "alice"

/-- The federation with a provider, in which the principal is `alice`. -/
def aliceProfile (server : Server) (remoteProviderId : String) : Profile where
  server := some server
  identity := some (Identity.addFederation {} {
    remoteProviderId
    localNameIdentifier := some (.saml2NameId aliceNameId) })

/-- A message with a signature. -/
def agreeingXml (name : String) : XmlNode :=
  .element (some soapEnvHref) "Envelope" [] [.element (some soapEnvHref) "Body" []
    [.element (some saml2ProtocolHref) name [{ name := "ID", value := "_x" }]
      [.element (some xmlSecDSigNs) "Signature" [] []]]]

/-- Every signature is good, the request is the one of `sp.example`, and the response is the one of
`idp.example`. -/
def agreeingCx : ManageContext :=
  { Context.refusing with
    parseMemory := fun text =>
      some (agreeingXml (if text = "<q>".toList then "ManageNameIDRequest"
        else "ManageNameIDResponse"))
    dsigVerify := fun _ _ => .succeeded [some "#_x"]
    samlp2LogoutResponseInitFromXml := fun r _ => (.castFailed, r)
    foreachOrder := id
    encryptNameId := fun _ _ => none
    buildResponse := fun _ _ _ => .ok
    manageNameIdRequestInitFromXml := fun _ _ => (.ok, {
      id := some "_r"
      issuer := some { content := some "https://sp.example" }
      nameId := some aliceNameId
      newId := some "alice2" })
    manageNameIdResponseInitFromXml := fun _ _ => (.ok, {
      issuer := some { content := some "https://idp.example" }
      inResponseTo := some "_r"
      status := some { statusCode := some { value := some saml2StatusCodeSuccess } } })
    encryptText := fun _ _ => none }

def aliceStarted : Profile :=
  (initRequest agreeingCx (aliceProfile agreeingSp "https://idp.example") "https://idp.example"
    (some "alice2") .soap "_r").2

def aliceProcessed : Profile :=
  (processRequestMsg agreeingCx (aliceProfile agreeingIdp "https://sp.example") "<q>".toList).2

/-- `sp.example` adds `alice2` to the NameID of `alice`. -/
def aliceExchange : Exchange where
  senderId := "https://sp.example"
  receiverId := "https://idp.example"
  senderServer := agreeingSp
  receiverServer := agreeingIdp
  senderCx := agreeingCx
  receiverCx := agreeingCx
  sending := aliceProfile agreeingSp "https://idp.example"
  started := aliceStarted
  receiving := aliceProfile agreeingIdp "https://sp.example"
  processed := aliceProcessed
  answered := ((validateRequest agreeingCx aliceProcessed).getD (.ok, {})).2
  finished := ((processResponseMsg agreeingCx aliceStarted "<p>".toList).getD (.ok, {})).2
  newNameId := "alice2"
  httpMethod := .soap
  uniqueId := "_r"
  requestMsg := "<q>".toList
  responseMsg := "<p>".toList
  sending_server := rfl
  receiving_server := rfl
  starts := rfl
  requests := rfl
  processes := rfl
  validates := rfl
  responds := rfl
  finishes := rfl

end Lasso.Saml20.NameIdManagement
