import Lasso.IdWsf2.DiscoveryService
import Lasso.IdWsf2.Profile
import Lasso.Provider.Metadata
import Lasso.Saml20.Profile

/-!
# Bearer tokens

A discovery service gives a consumer an assertion about the principal for each reference. The
consumer puts it into a request as it is, and the service that the reference is for checks it.

## Main definitions

* `WsfProfile.checkSecurityMechanism`, `getNameIdentifier` — at the service.
* `TokenAccepted` — what the check demands of the token of a request.
* `TokenCodec` — how tokens travel.
* `GoodFor` — the services that a token is for.

## Main results

* `checkSecurityMechanism_eq_ok` — the check demands exactly that.
* `bearerToken_accepted` — a token is accepted in its time, where it is good, and nowhere else.
-/

namespace Lasso.IdWsf2

open IdWsf.Soap (securityMechIdIsBearerAuthentication securityMechIdIsSamlAuthentication)

/-! ## The token of a request -/

def SecurityNode.asSaml2Assertion : SecurityNode → Option SecurityAssertion
  | saml2Assertion token => some token
  | _ => none

/-- Replace the first assertion. -/
def replaceAssertion (token : SecurityAssertion) : List SecurityNode → List SecurityNode
  | [] => []
  | .saml2Assertion _ :: any => .saml2Assertion token :: any
  | node :: any => node :: replaceAssertion token any

/-- Replace the first assertion in the first security header. -/
def replaceToken (token : SecurityAssertion) : List HeaderNode → List HeaderNode
  | [] => []
  | .security any :: header => .security (replaceAssertion token any) :: header
  | node :: header => node :: replaceToken token header

namespace SoapEnvelope

variable {ν : Type}

/-- `lasso_soap_envelope_get_saml2_security_token` -/
def getSaml2SecurityToken (envelope : SoapEnvelope ν) : Option SecurityAssertion :=
  (envelope.getHeader HeaderNode.asSecurity).bind (·.findSome? (·.asSaml2Assertion))

/-- The envelope when its token was written to. -/
def setSaml2SecurityToken (envelope : SoapEnvelope ν) (token : SecurityAssertion) :
    SoapEnvelope ν :=
  { envelope with header := envelope.header.map (replaceToken token) }

end SoapEnvelope

/-- `lasso_saml2_assertion_get_issuer_provider` -/
def getIssuerProvider (server : Server) (assertion : Saml2Assertion) : Option Provider :=
  assertion.issuer.bind fun issuer =>
    if issuer.format.any (· ≠ saml2NameIdentifierFormatEntity) then none
    else if server.provider.providerId = issuer.content then some server.provider
    else server.getProvider issuer.content

/-- `lasso_saml2_assertion_decrypt_subject`, if the subject decrypts to a NameID: the source puts
any other object in the place of one. -/
def decryptSubject (cx : Context) (server : Server) (assertion : Saml2Assertion) :
    Option (Except Rc Saml2Assertion) :=
  match assertion.subject with
  | some { nameId := none, encryptedId := some encrypted, subjectConfirmation := confirmation } =>
    match Saml20.decryptWithKeys cx encrypted (.profile .missingEncryptionPrivateKey)
        server.encryptionPrivateKeys with
    | .error rc => some (.error rc)
    | .ok (.saml2NameId nameId) =>
      some (.ok { assertion with
        subject := some {
          nameId := some nameId
          encryptedId := some encrypted
          subjectConfirmation := confirmation } })
    | .ok _ => none
  | _ => some (.ok assertion)

def TargetNode.isName : TargetNode → Bool
  | nameId _ | encrypted _ => true
  | other => false

/-- The first name in the first `sb2:TargetIdentity` header, decrypted if it has to be. -/
def SoapEnvelope.targetNameId {ν τ : Type} (cx : WsfContext ν τ) (server : Option Server)
    (envelope : SoapEnvelope ν) : Option Saml2NameId :=
  (((envelope.getHeader HeaderNode.asTargetIdentity).getD []).find? (·.isName)).bind fun node =>
    match node with
    | .nameId nameId => some nameId
    | .encrypted encrypted => server.bind fun server =>
      (Saml20.processNameIdentifierDecryption cx.toContext { server := some server } none
        (some encrypted)).2.2.1
    | .other => none

theorem decryptSubject_ne_ok {cx : Context} {server : Server} {assertion : Saml2Assertion}
    {rc : Rc} (h : decryptSubject cx server assertion = some (.error rc)) : rc ≠ .ok := by
  unfold decryptSubject at h
  split at h
  · split at h
    · rename_i hdecrypt
      obtain rfl := Except.error.inj (Option.some.inj h)
      exact Saml20.decryptWithKeys_ne_ok (by simp) hdecrypt
    · cases h
    · cases h
  · cases h

/-! ## The check -/

section

variable {ν τ : Type}

/-- The roles of the issuer of a token. -/
def issuerRoles (cx : WsfContext ν τ) (server : Server) (assertion : Saml2Assertion)
    (issuer : Provider) : Int :=
  if server.provider.providerId = assertion.issuer.bind (·.content) ∨ issuer.role = .none then
    cx.roles issuer
  else issuer.role.toInt

/-- The checks of the NameID: either the service is the issuer and the token is for the sender, or
the token is for the service. -/
def checkQualifiers (server : Server) (senderId : Option String) (issuer : Provider)
    (nameId : Option Saml2NameId) : FamilyRc WsfProfileError :=
  match nameId.bind (·.nameQualifier) with
  | none => .own .invalidAssertion
  | some nameQualifier =>
    if some nameQualifier ≠ issuer.providerId then .own .invalidAssertion
    else
      match senderId with
      | none => .own .missingSenderId
      | some senderId =>
        match nameId.bind (·.spNameQualifier) with
        | none => .own .invalidAssertion
        | some spNameQualifier =>
          if server.provider.providerId = some nameQualifier ∧ spNameQualifier = senderId then .ok
          else if some spNameQualifier = server.provider.providerId then .ok
          else .own .invalidAssertion

/-- The checks of the token of a request. -/
def checkToken (cx : WsfContext ν τ) (time : Int) (server : Server) (envelope : SoapEnvelope ν) :
    Option (FamilyRc WsfProfileError × SoapEnvelope ν) :=
  match envelope.getSaml2SecurityToken with
  | none => some ((Rc.profile .missingAssertion : FamilyRc WsfProfileError), envelope)
  | some token =>
    if validateConditions time (assertionWith token.conditions) none ≠ .valid then
      some (.own .invalidAssertionConditions, envelope)
    else
      match getIssuerProvider server token.assertion with
      | none => some (.own .unknownIssuer, envelope)
      | some issuer =>
        if Int.land (issuerRoles cx server token.assertion issuer) ProviderRole.idp.toInt = 0 then
          some (.own .issuerIsNotAnIdp, envelope)
        else
          match issuer.verifySingleNodeSignature cx.toEnv token.assertion.originalXmlnode
              (some "ID") with
          | .ok =>
            (decryptSubject cx.toContext server token.assertion).map fun decrypted =>
              match decrypted with
              | .error rc => ((rc : FamilyRc WsfProfileError), envelope)
              | .ok assertion =>
                (checkQualifiers server envelope.getProviderId issuer assertion.nameId,
                  envelope.setSaml2SecurityToken { token with assertion := assertion })
          | rc => some ((rc : FamilyRc WsfProfileError), envelope)

namespace WsfProfile

/-- The check of the token of a request, for the mechanisms that ask for one. -/
def checkRequestToken (cx : WsfContext ν τ) (time : Int) (profile : WsfProfile ν τ)
    (server : Server) (securityMechId : Option String) :
    Option (FamilyRc WsfProfileError × Option (SoapEnvelope ν)) :=
  if securityMechId.isNone || securityMechIdIsBearerAuthentication securityMechId ||
      securityMechIdIsSamlAuthentication securityMechId then
    match profile.soapEnvelopeRequest with
    | none => some ((Rc.profile .missingAssertion : FamilyRc WsfProfileError), none)
    | some envelope =>
      (checkToken cx time server envelope).map fun (rc, envelope) => (rc, some envelope)
  else some (.ok, profile.soapEnvelopeRequest)

/-- The code for a mechanism after the check of the token: no other one than bearer is supported. -/
def supportedRc (securityMechId : Option String) (rc : FamilyRc WsfProfileError) :
    FamilyRc WsfProfileError :=
  if rc ≠ .ok then rc
  else if securityMechId.isSome && !securityMechIdIsBearerAuthentication securityMechId then
    .own .unimplemented
  else .ok

/-- `lasso_idwsf2_profile_check_security_mechanism`; `time` is what `time` gives. -/
def checkSecurityMechanism (cx : WsfContext ν τ) (time : Int) (profile : WsfProfile ν τ)
    (securityMechId : Option String) : Option (FamilyRc WsfProfileError × WsfProfile ν τ) :=
  match profile.server with
  | none => some ((Rc.profile .missingServer : FamilyRc WsfProfileError), profile)
  | some server =>
    (profile.checkRequestToken cx time server securityMechId).bind fun (rc, envelope) =>
      let rc := supportedRc securityMechId rc
      ({ profile with soapEnvelopeRequest := envelope }.addFaultForRc cx rc).map (rc, ·)

/-- The NameID of the token of a request, decrypted if it has to be. -/
def tokenNameId (cx : WsfContext ν τ) (profile : WsfProfile ν τ) :
    Option (Except Rc (WsfProfile ν τ × Option Saml2NameId)) :=
  match profile.soapEnvelopeRequest.bind (·.getSaml2SecurityToken) with
  | none => some (.ok (profile, none))
  | some token =>
    if token.assertion.subject.isNone then some (.ok (profile, none))
    else
      match profile.server with
      | none => some (.error (.param .badTypeOrNullObj))
      | some server =>
        (decryptSubject cx.toContext server token.assertion).map fun decrypted =>
          decrypted.map fun assertion =>
            ({ profile with
              soapEnvelopeRequest := profile.soapEnvelopeRequest.map
                (·.setSaml2SecurityToken { token with assertion := assertion }) },
              assertion.nameId)

/-- `lasso_idwsf2_profile_get_name_identifier`, if it ends. A name identifier that was extracted
before is given up. -/
def getNameIdentifier (cx : WsfContext ν τ) (profile : WsfProfile ν τ) :
    Option (Option Saml2NameId × WsfProfile ν τ) :=
  if profile.nameIdentifier.isSome then some (none, { profile with nameIdentifier := none })
  else
    (profile.tokenNameId cx).map fun found =>
      match found with
      | .error _ => (none, profile)
      | .ok (profile, nameId) =>
        let nameId :=
          nameId.or (profile.soapEnvelopeRequest.bind (·.targetNameId cx profile.server))
        (nameId, { profile with nameIdentifier := nameId })

end WsfProfile

/-! ## What the check demands -/

/-- The token of a request is accepted, as this assertion. -/
structure TokenAccepted (cx : WsfContext ν τ) (time : Int) (server : Server)
    (envelope : SoapEnvelope ν) (token : SecurityAssertion) (issuer : Provider)
    (assertion : Saml2Assertion) : Prop where
  found : envelope.getSaml2SecurityToken = some token
  valid : validateConditions time (assertionWith token.conditions) none = .valid
  known : getIssuerProvider server token.assertion = some issuer
  idp : Int.land (issuerRoles cx server token.assertion issuer) ProviderRole.idp.toInt ≠ 0
  signed : issuer.verifySingleNodeSignature cx.toEnv token.assertion.originalXmlnode (some "ID") =
    .ok
  decrypted : decryptSubject cx.toContext server token.assertion = some (.ok assertion)
  qualifiers : ∃ nameId nameQualifier spNameQualifier senderId, assertion.nameId = some nameId ∧
    nameId.nameQualifier = some nameQualifier ∧ nameId.spNameQualifier = some spNameQualifier ∧
    envelope.getProviderId = some senderId ∧ issuer.providerId = some nameQualifier ∧
    (server.provider.providerId = some nameQualifier ∧ spNameQualifier = senderId ∨
      server.provider.providerId = some spNameQualifier)

section

variable {cx : WsfContext ν τ} {time : Int} {server : Server} {envelope envelope' : SoapEnvelope ν}

theorem checkQualifiers_eq_ok {senderId : Option String} {issuer : Provider}
    {nameId : Option Saml2NameId} : checkQualifiers server senderId issuer nameId = .ok ↔
      ∃ name nameQualifier spNameQualifier sender, nameId = some name ∧
        name.nameQualifier = some nameQualifier ∧ name.spNameQualifier = some spNameQualifier ∧
        senderId = some sender ∧ issuer.providerId = some nameQualifier ∧
        (server.provider.providerId = some nameQualifier ∧ spNameQualifier = sender ∨
          server.provider.providerId = some spNameQualifier) := by
  constructor
  · intro h
    simp only [checkQualifiers] at h
    split at h
    · cases h
    · rename_i nameQualifier hname
      split_ifs at h with hissuer
      split at h
      · cases h
      · rename_i sender
        split at h
        · cases h
        · rename_i spNameQualifier hsp
          obtain ⟨name, rfl, hname⟩ := Option.bind_eq_some_iff.mp hname
          refine ⟨name, nameQualifier, spNameQualifier, sender, rfl, hname, hsp, rfl,
            (not_not.mp hissuer).symm, ?_⟩
          split_ifs at h with hlocal htarget
          · exact .inl hlocal
          · exact .inr htarget.symm
  · rintro ⟨name, nameQualifier, spNameQualifier, sender, rfl, hname, hsp, rfl, hissuer, hcase⟩
    simp only [checkQualifiers, Option.bind_some, hname, hsp, hissuer]
    rcases hcase with hlocal | htarget
    · simp [hlocal]
    · simp [htarget]

theorem checkToken_eq_ok : checkToken cx time server envelope = some (.ok, envelope') ↔
    ∃ token issuer assertion, TokenAccepted cx time server envelope token issuer assertion ∧
      envelope' = envelope.setSaml2SecurityToken { token with assertion := assertion } := by
  constructor
  · intro h
    unfold checkToken at h
    split at h
    · simp at h
    · rename_i token hfound
      split_ifs at h with hvalid
      · simp at h
      split at h
      · simp at h
      · rename_i issuer hissuer
        split_ifs at h with hidp
        · simp at h
        split at h
        · rename_i hsigned
          obtain ⟨decrypted, hdecrypted, h⟩ := Option.map_eq_some_iff.mp h
          split at h
          · rename_i rc
            have hrc : rc = .ok := by simpa [FamilyRc.ok] using (Prod.mk.inj h).1
            exact absurd hrc (decryptSubject_ne_ok hdecrypted)
          · rename_i assertion
            obtain ⟨hqualifiers, henvelope⟩ := Prod.mk.inj h
            exact ⟨token, issuer, assertion, ⟨hfound, not_not.mp hvalid, hissuer, hidp, hsigned,
              hdecrypted, checkQualifiers_eq_ok.mp hqualifiers⟩, henvelope.symm⟩
        · rename_i rc hrc
          exact absurd (by simpa [FamilyRc.ok] using (Prod.mk.inj (Option.some.inj h)).1) hrc
  · rintro ⟨token, issuer, assertion, h, rfl⟩
    have hqualifiers := checkQualifiers_eq_ok.mpr h.qualifiers
    simp [checkToken, h.found, h.valid, h.known, h.idp, h.signed, h.decrypted, hqualifiers]

end

end

theorem supportedRc_eq_ok {securityMechId : Option String} {rc : FamilyRc WsfProfileError} :
    WsfProfile.supportedRc securityMechId rc = .ok ↔ rc = .ok ∧
      (securityMechId = none ∨ securityMechIdIsBearerAuthentication securityMechId = true) := by
  unfold WsfProfile.supportedRc
  split_ifs with hrc hmech
  · simp [hrc]
  · cases securityMechId <;> simp_all
  · cases securityMechId <;> simp_all

theorem addFaultForRc_ok {ν τ : Type} (cx : WsfContext ν τ) (profile : WsfProfile ν τ) :
    profile.addFaultForRc cx .ok = some profile := by
  simp [WsfProfile.addFaultForRc]

/-- The check is passed exactly by a bearer token that is accepted; it is decrypted then. -/
theorem checkSecurityMechanism_eq_ok {ν τ : Type} {cx : WsfContext ν τ} {time : Int}
    {profile profile' : WsfProfile ν τ} {securityMechId : Option String} :
    profile.checkSecurityMechanism cx time securityMechId = some (.ok, profile') ↔
      (securityMechId = none ∨ securityMechIdIsBearerAuthentication securityMechId = true) ∧
      ∃ server envelope token issuer assertion, profile.server = some server ∧
        profile.soapEnvelopeRequest = some envelope ∧
        TokenAccepted cx time server envelope token issuer assertion ∧
        profile' = { profile with
          soapEnvelopeRequest :=
            some (envelope.setSaml2SecurityToken { token with assertion := assertion }) } := by
  constructor
  · intro h
    cases hserver : profile.server with
    | none => simp [WsfProfile.checkSecurityMechanism, hserver] at h
    | some server =>
      rw [WsfProfile.checkSecurityMechanism, hserver] at h
      obtain ⟨⟨rc, envelope⟩, hchecked, h⟩ := Option.bind_eq_some_iff.mp h
      obtain ⟨profile'', hadded, h⟩ := Option.map_eq_some_iff.mp h
      obtain ⟨hrc, rfl⟩ := Prod.mk.inj h
      rw [hrc, addFaultForRc_ok] at hadded
      obtain ⟨rfl, hmech⟩ := supportedRc_eq_ok.mp hrc
      have hasks : (securityMechId.isNone || securityMechIdIsBearerAuthentication securityMechId ||
          securityMechIdIsSamlAuthentication securityMechId) = true := by
        rcases hmech with rfl | hmech
        · rfl
        · simp [hmech]
      rw [WsfProfile.checkRequestToken, if_pos hasks] at hchecked
      cases henvelope : profile.soapEnvelopeRequest with
      | none => simp [henvelope] at hchecked
      | some request =>
        rw [henvelope] at hchecked
        obtain ⟨⟨rc, request'⟩, htoken, hresult⟩ := Option.map_eq_some_iff.mp hchecked
        obtain ⟨rfl, rfl⟩ := Prod.mk.inj hresult
        obtain ⟨token, issuer, assertion, haccepted, rfl⟩ := checkToken_eq_ok.mp htoken
        exact ⟨hmech, server, request, token, issuer, assertion, rfl, rfl, haccepted,
          (Option.some.inj hadded).symm⟩
  · rintro ⟨hmech, server, envelope, token, issuer, assertion, hserver, henvelope, h, rfl⟩
    have hchecked := checkToken_eq_ok.mpr ⟨token, issuer, assertion, h, rfl⟩
    have hrc := supportedRc_eq_ok.mpr ⟨rfl, hmech⟩
    rcases hmech with rfl | hmech
    · simp [WsfProfile.checkSecurityMechanism, WsfProfile.checkRequestToken, hserver, henvelope,
        hchecked, hrc, addFaultForRc_ok]
    · simp [WsfProfile.checkSecurityMechanism, WsfProfile.checkRequestToken, hserver, henvelope,
        hchecked, hrc, addFaultForRc_ok, hmech]

/-! ## Tokens on their way -/

/-- How tokens are written by their issuer, and read. -/
structure TokenCodec where
  write : SecurityAssertion → XmlNode
  read : XmlNode → Option SecurityAssertion

namespace TokenCodec

variable {ν : Type} (codec : TokenCodec)

/-- A token as it is read from what was written. -/
def received (token : SecurityAssertion) : SecurityAssertion :=
  { token with
    assertion := { token.assertion with originalXmlnode := some (codec.write token) } }

def receivedNode : TokenNode → TokenNode
  | .saml2Assertion token => .saml2Assertion (codec.received token)
  | .other originalXmlnode => .other originalXmlnode

def receivedMetadata : EprMetadata → EprMetadata
  | .securityContext context => .securityContext { context with
      token := context.token.map fun token =>
        { token with any := token.any.map codec.receivedNode } }
  | item => item

/-- A reference as the consumer has it. -/
def receivedEpr (epr : WsAddrEndpointReference) : WsAddrEndpointReference :=
  { epr with metadata := epr.metadata.map (·.map codec.receivedMetadata) }

def readNode : SecurityNode → SecurityNode
  | .miscText xmlnode => (codec.read xmlnode).elim .other .saml2Assertion
  | node => node

def readHeader : HeaderNode → HeaderNode
  | .security any => .security (any.map codec.readNode)
  | node => node

/-- A request as the service reads it. -/
def receivedEnvelope (envelope : SoapEnvelope ν) : SoapEnvelope ν :=
  { envelope with header := envelope.header.map (·.map codec.readHeader) }

end TokenCodec

namespace WsfProfile

variable {ν τ : Type}

/-- A consumer makes a request with a content. -/
def makeRequest (cx : WsfContext ν τ) (profile : WsfProfile ν τ) (messageId : String) (node : ν)
    (securityMechId : Option String) : Option (FamilyRc WsfProfileError × WsfProfile ν τ) :=
  match profile.initRequest messageId with
  | (.common .ok, profile) =>
    let envelope := profile.soapEnvelopeRequest.map (SoapEnvelope.addToBody · (.content node))
    buildRequestMsg cx
      { profile with request := some (.content node), soapEnvelopeRequest := envelope }
      securityMechId
  | refused => some refused

/-- A service reads a request, checks it and asks for the principal. -/
def serve (cx : WsfContext ν τ) (time : Int) (profile : WsfProfile ν τ) (message : τ)
    (messageId : String) (securityMechId : Option String) :
    Option (FamilyRc WsfProfileError × Option Saml2NameId) := do
  let (rc, profile) ← profile.processRequestMsg cx message messageId
  if rc ≠ .ok then return (rc, none)
  let (rc, profile) ← profile.checkSecurityMechanism cx time securityMechId
  if rc ≠ .ok then return (rc, none)
  let (nameId, _) ← profile.getNameIdentifier cx
  return (.ok, nameId)

end WsfProfile

/-! ## The request of a consumer -/

section

variable {ν τ : Type} {codec : TokenCodec} {disco : DiscoveryContext}
  {stamp : String → TokenStamp}
  {idp : Profile} {metadata : DiscoSvcMetadata} {service : DiscoServiceContext}
  {endpoint : DiscoEndpointContext} {epr : WsAddrEndpointReference}

/-- The security context with a token. -/
def oneToken (token : SecurityAssertion) (mech : String) : IdWsf2DiscoSecurityContext where
  securityMechId := [mech]
  token := [{ any := some (.saml2Assertion token), usage := some secTokenUsageSecurityToken }]

/-- What describes an endpoint is no security context. -/
theorem describedMetadata_received
    (hframework : ∀ item ∈ endpoint.framework, item.asSecurityContext = none) :
    ((describedMetadata metadata service endpoint).map codec.receivedMetadata).filterMap
      (·.asSecurityContext) = [] := by
  have hitem (item : EprMetadata) (h : item.asSecurityContext = none) :
      (codec.receivedMetadata item).asSecurityContext = none := by
    cases item <;> simp_all [TokenCodec.receivedMetadata, EprMetadata.asSecurityContext]
  rw [List.filterMap_eq_nil_iff]
  intro item hmem
  obtain ⟨item, hitemMem, rfl⟩ := List.mem_map.mp hmem
  refine hitem item ?_
  simp only [describedMetadata, List.mem_append, List.mem_map, Option.mem_toList] at hitemMem
  rcases hitemMem with ((⟨_, -, rfl⟩ | ⟨_, -, rfl⟩) | ⟨_, -, rfl⟩) | hmem
  · rfl
  · rfl
  · rfl
  · exact hframework item hmem

/-- The consumer finds the token for the first bearer mechanism of the endpoint. -/
theorem getSecurityContext_receivedEpr
    (hissued : Issues disco stamp idp metadata service endpoint epr)
    (hframework : ∀ item ∈ endpoint.framework, item.asSecurityContext = none) {mech : String}
    (hmech : endpoint.securityMechId.find?
      (securityMechIdIsBearerAuthentication <| some ·) = some mech) :
    ∃ token, IsTokenFor disco (stamp mech) idp metadata.providerId token ∧
      (codec.receivedEpr epr).getSecurityContext securityMechIdIsBearerAuthentication =
        some (oneToken (codec.received token) mech) := by
  obtain ⟨contexts, hmetadata, hcontexts⟩ := hissued.metadata
  have hfound : ∃ token, IsTokenFor disco (stamp mech) idp metadata.providerId token ∧
      ((contexts.map codec.receivedMetadata).filterMap (·.asSecurityContext)).find? (fun context =>
        context.securityMechId.any (securityMechIdIsBearerAuthentication <| some ·)) =
          some (oneToken (codec.received token) mech) := by
    generalize endpoint.securityMechId = mechs at hmech hcontexts
    clear hmetadata
    induction hcontexts with
    | nil => simp at hmech
    | @cons first context mechs contexts hfirst hrest ih =>
      obtain ⟨token, htoken, rfl⟩ := hfirst
      by_cases hbearer : securityMechIdIsBearerAuthentication (some first) = true
      · obtain rfl : first = mech := by simpa [hbearer] using hmech
        exact ⟨token, htoken, by simp [TokenCodec.receivedMetadata, TokenCodec.receivedNode,
          EprMetadata.asSecurityContext, tokenContext, hbearer, oneToken]⟩
      · obtain ⟨token', htoken', hfind⟩ := ih (by simpa [hbearer] using hmech)
        exact ⟨token', htoken', by simpa [TokenCodec.receivedMetadata, tokenContext,
          EprMetadata.asSecurityContext, hbearer] using hfind⟩
  obtain ⟨token, htoken, hfind⟩ := hfound
  refine ⟨token, htoken, ?_⟩
  simp only [WsAddrEndpointReference.getSecurityContext, TokenCodec.receivedEpr, hmetadata,
    Option.map_some, Option.bind_some, List.map_append, List.filterMap_append,
    describedMetadata_received hframework, List.nil_append, hfind]

/-- The request that a consumer makes with a token. -/
def requestWith (consumerId messageId : String) (node : ν) (token : SecurityNode) :
    SoapEnvelope ν where
  header := some [.sender (some consumerId), .messageId (some messageId), .security [token]]
  body := some [.content node]

theorem getSaml2SecurityToken_requestWith (consumerId messageId : String) (node : ν)
    (token : SecurityAssertion) :
    (requestWith consumerId messageId node (.saml2Assertion token)).getSaml2SecurityToken =
      some token := rfl

theorem getProviderId_requestWith (consumerId messageId : String) (node : ν)
    (token : SecurityNode) :
    (requestWith consumerId messageId node token).getProviderId = some consumerId := rfl

/-- The consumer puts the token into its request as it was written. -/
theorem makeRequest_eq {cx : WsfContext ν τ} {consumer : WsfProfile ν τ} {consumerId mech : String}
    {securityMechId : Option String} {token : SecurityAssertion} (messageId : String) (node : ν)
    (hid : consumer.providerId = some consumerId) (hepr : consumer.epr = some epr)
    (hcontext : epr.getSecurityContext securityMechIdIsBearerAuthentication =
      some (oneToken (codec.received token) mech))
    (hbearer : securityMechId = none ∨
      securityMechIdIsBearerAuthentication securityMechId = true) :
    let envelope := requestWith consumerId messageId node (.miscText (codec.write token))
    consumer.makeRequest cx messageId node securityMechId =
      some (FamilyRc.common (if (cx.writeEnvelope envelope).isSome then .ok
          else .profile .buildingRequestFailed),
        { consumer with
          request := some (.content node)
          soapEnvelopeRequest := some envelope
          msgUrl := epr.address.or consumer.msgUrl
          msgBody := cx.writeEnvelope envelope }) := by
  have hinit : consumer.initRequest messageId = (.ok, { consumer with
      soapEnvelopeRequest := some (buildSoapEnvelope messageId none (some consumerId))
      request := none }) := by
    simp [WsfProfile.initRequest, hepr, hcontext, hid]
  have hasks : (securityMechId.isNone || securityMechIdIsBearerAuthentication securityMechId) =
      true := by
    rcases hbearer with rfl | hbearer
    · rfl
    · simp [hbearer]
  have htoken : epr.getSecurityToken securityMechIdIsBearerAuthentication =
      some (some (.saml2Assertion (codec.received token))) := by
    simp [WsAddrEndpointReference.getSecurityToken, WsAddrEndpointReference.getTokenByUsage,
      hcontext, oneToken, WsAddrEndpointReference.tokenByUsage]
  rw [WsfProfile.makeRequest, hinit]
  simp only [WsfProfile.buildRequestMsg, WsfProfile.bindToEpr, hepr, hasks, if_true,
    WsfProfile.attachBearerToken, htoken, Option.map_some, TokenNode.originalXmlnode,
    TokenCodec.received]
  rw [if_neg (not_not.mpr rfl)]
  rfl

end

/-! ## The service -/

section

variable {ν τ : Type} {cx : WsfContext ν τ} {time : Int} {service : WsfProfile ν τ}
  {envelope : SoapEnvelope ν} {token : SecurityAssertion}

theorem findSome?_replaceAssertion {any : List SecurityNode} {found : SecurityAssertion}
    (h : any.findSome? (·.asSaml2Assertion) = some found) :
    (replaceAssertion token any).findSome? (·.asSaml2Assertion) = some token := by
  induction any with
  | nil => cases h
  | cons node any ih =>
    cases node <;> simp_all [replaceAssertion, SecurityNode.asSaml2Assertion]

/-- The token that was written to is found again. -/
theorem getSaml2SecurityToken_set {found : SecurityAssertion}
    (h : envelope.getSaml2SecurityToken = some found) :
    (envelope.setSaml2SecurityToken token).getSaml2SecurityToken = some token := by
  obtain ⟨any, hany, hfound⟩ := Option.bind_eq_some_iff.mp h
  obtain ⟨header, hheader, hsecurity⟩ := Option.bind_eq_some_iff.mp hany
  have hreplaced : (replaceToken token header).findSome? HeaderNode.asSecurity =
      some (replaceAssertion token any) := by
    clear hheader
    induction header with
    | nil => cases hsecurity
    | cons node header ih =>
      cases node <;> simp_all [replaceToken, HeaderNode.asSecurity, List.findSome?_cons]
  simp only [SoapEnvelope.getSaml2SecurityToken, SoapEnvelope.setSaml2SecurityToken,
    SoapEnvelope.getHeader, hheader, Option.map_some, Option.bind_some, hreplaced,
    findSome?_replaceAssertion hfound]

/-- A subject that has a NameID is left as it is. -/
theorem decryptSubject_of_nameId {cx : Context} {server : Server} {assertion : Saml2Assertion}
    {nameId : Saml2NameId} (h : assertion.nameId = some nameId) :
    decryptSubject cx server assertion = some (.ok assertion) := by
  obtain ⟨subject, hsubject, hname⟩ := Option.bind_eq_some_iff.mp h
  obtain ⟨name, encrypted, confirmation⟩ := subject
  obtain rfl : name = some nameId := hname
  simp [decryptSubject, hsubject]

theorem getNameIdentifier_eq_some {server : Server} {nameId : Saml2NameId}
    (hnone : service.nameIdentifier = none) (hserver : service.server = some server)
    (henvelope : service.soapEnvelopeRequest = some envelope)
    (htoken : envelope.getSaml2SecurityToken = some token)
    (hname : token.assertion.nameId = some nameId) :
    ∃ profile, service.getNameIdentifier cx = some (some nameId, profile) := by
  have hsubject : token.assertion.subject.isNone = false := by
    obtain ⟨subject, hsubject, -⟩ := Option.bind_eq_some_iff.mp hname
    simp [hsubject]
  simp only [WsfProfile.getNameIdentifier, WsfProfile.tokenNameId, hnone, hserver, henvelope,
    Option.bind_some, htoken, hsubject, decryptSubject_of_nameId hname, hname, Option.isSome_none,
    Bool.false_eq_true, if_false, Option.map_some, Except.map, Option.or]
  exact ⟨_, rfl⟩

/-- A request with a content is taken. -/
theorem processRequestMsg_eq_ok {message : τ} {messageId : String} {content : BodyNode ν}
    (hread : cx.readEnvelope message = some envelope)
    (hbody : envelope.body.bind (·.head?) = some content) : ∃ profile,
    service.processRequestMsg cx message messageId = some (.ok, profile) ∧
      profile.server = service.server ∧ profile.soapEnvelopeRequest = some envelope ∧
      profile.nameIdentifier = none := by
  rw [WsfProfile.processRequestMsg, hread]
  simp only [hbody, Option.isSome_some, if_true, addFaultForRc_ok, Option.map_some]
  exact ⟨_, rfl, rfl, rfl, rfl⟩

/-- A service that reads a request serves it exactly if its bearer token is accepted, for the
principal that the token names. -/
theorem serve_eq_ok {message : τ} {messageId : String} {securityMechId : Option String}
    {content : BodyNode ν} {name : Option Saml2NameId}
    (hread : cx.readEnvelope message = some envelope)
    (hbody : envelope.body.bind (·.head?) = some content) :
    service.serve cx time message messageId securityMechId = some (.ok, name) ↔
      (securityMechId = none ∨ securityMechIdIsBearerAuthentication securityMechId = true) ∧
      ∃ server token issuer assertion, service.server = some server ∧
        TokenAccepted cx time server envelope token issuer assertion ∧ name = assertion.nameId := by
  obtain ⟨profile, hprocessed, hserver, henvelope, hnone⟩ :=
    @processRequestMsg_eq_ok _ _ cx service envelope message messageId content hread hbody
  -- once the check is passed, the token has the NameID
  have hnamed {server : Server} {token : SecurityAssertion} {issuer : Provider}
      {assertion : Saml2Assertion} (hs : profile.server = some server)
      (h : TokenAccepted cx time server envelope token issuer assertion) : ∃ served,
      WsfProfile.getNameIdentifier cx { profile with
        soapEnvelopeRequest :=
          some (envelope.setSaml2SecurityToken { token with assertion := assertion }) } =
        some (assertion.nameId, served) := by
    obtain ⟨nameId, -, -, -, hname, -⟩ := h.qualifiers
    rw [hname]
    exact getNameIdentifier_eq_some hnone hs rfl (getSaml2SecurityToken_set h.found) hname
  simp only [WsfProfile.serve, hprocessed, Option.bind_eq_bind, Option.bind_some, ne_eq,
    not_true_eq_false, if_false, ← hserver]
  constructor
  · intro h
    obtain ⟨⟨rc, checked⟩, hchecked, h⟩ := Option.bind_eq_some_iff.mp h
    simp only at h
    split_ifs at h with hrc
    · subst hrc
      obtain ⟨⟨found, served⟩, hfound, h⟩ := Option.bind_eq_some_iff.mp h
      obtain ⟨-, rfl⟩ := Prod.mk.inj (Option.some.inj h)
      obtain ⟨hmech, server, request, token, issuer, assertion, hs, hrequest, haccepted, rfl⟩ :=
        checkSecurityMechanism_eq_ok.mp hchecked
      obtain rfl := Option.some.inj (henvelope.symm.trans hrequest)
      obtain ⟨served', hserved⟩ := hnamed hs haccepted
      have hname := congrArg (Option.map Prod.fst) (hfound.symm.trans hserved)
      exact ⟨hmech, server, token, issuer, assertion, hs, haccepted, by simpa using hname⟩
    · exact absurd (Prod.mk.inj (Option.some.inj h)).1 hrc
  · rintro ⟨hmech, server, token, issuer, assertion, hs, haccepted, rfl⟩
    obtain ⟨served, hserved⟩ := hnamed hs haccepted
    have hchecked := checkSecurityMechanism_eq_ok.mpr
      ⟨hmech, server, envelope, token, issuer, assertion, hs, henvelope, haccepted, rfl⟩
    simp [hchecked, hserved]

end

/-! ## The token at any service -/

section

variable {ν τ : Type} {cx : WsfContext ν τ} {codec : TokenCodec} {disco : DiscoveryContext}
  {stamp : String → TokenStamp} {idp : Profile} {idpServer : Server} {nameId : Saml2NameId}
  {encryptedId : Saml2EncryptedElement}

/-- The token is good for a server: it has a key for the name, it trusts the issuer of the token as
the identity provider that has given the name, and it is the service that the name is for; or it is
that identity provider, and the name is for the consumer. -/
structure GoodFor (cx : WsfContext ν τ) (server : Server) (token : SecurityAssertion)
    (nameId : Saml2NameId) (encryptedId : Saml2EncryptedElement) (consumerId : String) : Prop where
  trusted : ∃ issuer, getIssuerProvider server token.assertion = some issuer ∧
    Int.land (issuerRoles cx server token.assertion issuer) ProviderRole.idp.toInt ≠ 0 ∧
    issuer.verifySingleNodeSignature cx.toEnv token.assertion.originalXmlnode (some "ID") = .ok ∧
    nameId.nameQualifier.isSome ∧ nameId.nameQualifier = issuer.providerId
  readable : ∃ key ∈ server.encryptionPrivateKeys, ∃ node,
    cx.decrypt encryptedId key = .ok node
  addressed : nameId.spNameQualifier.isSome ∧
    (server.provider.providerId = nameId.nameQualifier ∧
        nameId.spNameQualifier = some consumerId ∨
      server.provider.providerId = nameId.spNameQualifier)

/-- The element is decrypted if one of the keys is for it. -/
theorem decryptWithKeys_eq_ok {cx : Context} {node : LassoNode} {rc : Rc} {keys : List SecKey}
    (hdecrypt : ∀ key found, cx.decrypt encryptedId key = .ok found → found = node) :
    Saml20.decryptWithKeys cx encryptedId rc keys = .ok node ↔
      ∃ key ∈ keys, ∃ found, cx.decrypt encryptedId key = .ok found := by
  induction keys generalizing rc with
  | nil => simp [Saml20.decryptWithKeys]
  | cons key keys ih =>
    rw [Saml20.decryptWithKeys, List.exists_mem_cons_iff]
    cases hkey : cx.decrypt encryptedId key with
    | ok found => simp [hdecrypt key found hkey]
    | error rc => simpa using ih

theorem decrypt_of_decryptWithKeys {cx : Context} {node : LassoNode} {rc : Rc}
    {keys : List SecKey} (h : Saml20.decryptWithKeys cx encryptedId rc keys = .ok node) :
    ∃ key ∈ keys, cx.decrypt encryptedId key = .ok node := by
  induction keys generalizing rc with
  | nil => cases h
  | cons key keys ih =>
    rw [Saml20.decryptWithKeys] at h
    rw [List.exists_mem_cons_iff]
    cases hkey : cx.decrypt encryptedId key with
    | ok found =>
      rw [hkey] at h
      exact .inl (by simpa using h)
    | error rc =>
      rw [hkey] at h
      exact .inr (ih h)

/-- The subject of a token with an encrypted name is decrypted to the name. -/
theorem decryptSubject_eq_ok {cx : Context} {server : Server} {assertion found : Saml2Assertion}
    (hdecrypt : ∀ key node, cx.decrypt encryptedId key = .ok node → node = .saml2NameId nameId)
    (hsubject : assertion.subject = some { encryptedId := some encryptedId }) :
    decryptSubject cx server assertion = some (.ok found) ↔
      (∃ key ∈ server.encryptionPrivateKeys, ∃ node, cx.decrypt encryptedId key = .ok node) ∧
        found = { assertion with
          subject := some { nameId := some nameId, encryptedId := some encryptedId } } := by
  rw [← @decryptWithKeys_eq_ok _ _ _ (.profile .missingEncryptionPrivateKey) _ hdecrypt,
    decryptSubject, hsubject]
  cases hkeys : Saml20.decryptWithKeys cx encryptedId (.profile .missingEncryptionPrivateKey)
      server.encryptionPrivateKeys with
  | error rc => simp [hkeys]
  | ok node =>
    obtain ⟨key, -, hkey⟩ := decrypt_of_decryptWithKeys hkeys
    have hnode := hdecrypt key node hkey
    subst hnode
    simp [hkeys, eq_comm]

/-- The verdict on the conditions of a token. -/
theorem validateConditions_securityToken {stamp : TokenStamp} {time : Int}
    (hwindow : InCalendar (stamp.now - durationHour) ∧
      InCalendar (stamp.now + 2 * durationDay + durationHour)) :
    validateConditions time (assertionWith (issued
      [.setBasicConditions stamp.now durationHour (2 * durationDay) false])) none = .valid ↔
      stamp.now - durationHour ≤ time ∧ time < stamp.now + 2 * durationDay + durationHour := by
  have hlast : lastWindow [.setBasicConditions stamp.now durationHour (2 * durationDay) false] =
      some (stamp.now - durationHour, stamp.now + 2 * durationDay + durationHour) := rfl
  rw [validateConditions_issued fun w hw => by
    obtain rfl := Option.some.inj (hlast.symm.trans hw)
    exact hwindow, hlast]
  simp [addedAudiences]

/-- A token as it was received is accepted exactly in its time, where it is good. -/
theorem tokenAccepted_iff {time : Int} {server : Server} {envelope : SoapEnvelope ν}
    {stamp : TokenStamp} {consumerId : String}
    (hwindow : InCalendar (stamp.now - durationHour) ∧
      InCalendar (stamp.now + 2 * durationDay + durationHour))
    (hdecrypt : ∀ key node, cx.decrypt encryptedId key = .ok node → node = .saml2NameId nameId)
    (hfound : envelope.getSaml2SecurityToken = some (codec.received
      (securityToken stamp idpServer encryptedId durationHour (2 * durationDay))))
    (hsender : envelope.getProviderId = some consumerId) {name : Option Saml2NameId} :
    (∃ token issuer assertion, TokenAccepted cx time server envelope token issuer assertion ∧
      name = assertion.nameId) ↔
      name = some nameId ∧ stamp.now - durationHour ≤ time ∧
        time < stamp.now + 2 * durationDay + durationHour ∧
        GoodFor cx server (codec.received
          (securityToken stamp idpServer encryptedId durationHour (2 * durationDay)))
          nameId encryptedId consumerId := by
  constructor
  · rintro ⟨token, issuer, assertion, h, rfl⟩
    obtain rfl := Option.some.inj (hfound.symm.trans h.found)
    obtain ⟨hafter, hbefore⟩ := (validateConditions_securityToken hwindow).mp h.valid
    obtain ⟨hreadable, rfl⟩ := (decryptSubject_eq_ok hdecrypt rfl).mp h.decrypted
    obtain ⟨found, nameQualifier, spNameQualifier, sender, hname, hqualifier, hsp, hprovider,
      hissuer, haddressed⟩ := h.qualifiers
    obtain rfl : nameId = found := Option.some.inj hname
    obtain rfl := Option.some.inj (hsender.symm.trans hprovider)
    refine ⟨rfl, hafter, hbefore, ⟨issuer, h.known, h.idp, h.signed, ?_, ?_⟩, hreadable, ?_, ?_⟩
    · simp [hqualifier]
    · rw [hqualifier, hissuer]
    · simp [hsp]
    · rw [hqualifier, hsp]
      exact haddressed.imp_left fun h => ⟨h.1, by rw [h.2]⟩
  · rintro ⟨rfl, hafter, hbefore, ⟨issuer, hknown, hidp, hsigned, hqualified, hissuer⟩, hreadable,
      hsp, haddressed⟩
    obtain ⟨nameQualifier, hqualifier⟩ := Option.isSome_iff_exists.mp hqualified
    obtain ⟨spNameQualifier, hsp⟩ := Option.isSome_iff_exists.mp hsp
    refine ⟨_, issuer, _, ⟨hfound, (validateConditions_securityToken hwindow).mpr ⟨hafter, hbefore⟩,
      hknown, hidp, hsigned, (decryptSubject_eq_ok hdecrypt rfl).mpr ⟨hreadable, rfl⟩, nameId,
      nameQualifier, spNameQualifier, consumerId, rfl, hqualifier, hsp, hsender,
      hissuer.symm.trans hqualifier, ?_⟩, rfl⟩
    rw [hqualifier, hsp] at haddressed
    exact haddressed.imp_left fun h => ⟨h.1, Option.some.inj h.2⟩

end

/-! ### A reference that is kept for too long -/

/-- The name of a principal at a personal profile service. -/
def profileName : Saml2NameId where
  nameQualifier := some "https://idp/metadata"
  spNameQualifier := some "https://pp/metadata"
  content := some "alice"

def profileProvider : Provider where
  providerId := some "https://pp/metadata"

def profileFederation : Federation where
  remoteProviderId := "https://pp/metadata"
  localNameIdentifier := some (.saml2NameId profileName)

def profileIdpServer : Server where
  provider := { providerId := some "https://idp/metadata" }
  providers := (∅ : AList fun _ : String => Provider).insert "https://pp/metadata" profileProvider

def profileIdentity : Identity where
  federations :=
    (∅ : AList fun _ : String => Federation).insert "https://pp/metadata" profileFederation

def profileIdp : Profile where
  server := some profileIdpServer
  identity := some profileIdentity

def profileDisco : DiscoveryContext where
  sameFramework _ _ := true
  stamp _ _ _ _ _ := ⟨"token", 1000000⟩
  encryptNameId _ _ := some ⟨"sealed"⟩
  setupSignature _ := .ok

def profileStamp : String → TokenStamp := fun _ => ⟨"token", 1000000⟩

def bearerMech : String := "urn:liberty:security:2005-02:TLS:Bearer"

def profileEndpoint : DiscoEndpointContext where
  address := "https://pp/soap"
  securityMechId := [bearerMech]

def profileMetadata : DiscoSvcMetadata where
  providerId := some "https://pp/metadata"

def profileToken : SecurityAssertion :=
  securityToken ⟨"token", 1000000⟩ profileIdpServer ⟨"sealed"⟩ durationHour (2 * durationDay)

/-- A codec for this token. -/
def profileCodec : TokenCodec where
  write _ := .text "token"
  read _ := some { profileToken with
    assertion := { profileToken.assertion with originalXmlnode := some (.text "token") } }

def profileContext : WsfContext Unit Unit where
  toContext := .refusing
  readEnvelope _ := some (requestWith "https://sp/metadata" "request" ()
    (.saml2Assertion (profileCodec.received profileToken)))
  writeEnvelope _ := some ()
  roles _ := ProviderRole.idp.toInt
  faultForRc _ := {}

theorem profileNamed : NamedFor profileDisco profileIdp profileMetadata.providerId profileIdpServer
    profileName ⟨"sealed"⟩ where
  federated := by
    have hfound : profileIdentity.federations.lookup "https://pp/metadata" =
        some profileFederation := AList.lookup_insert (∅ : AList fun _ : String => Federation)
    exact ⟨profileIdentity, profileFederation, rfl,
      by simp [Identity.getFederation, profileMetadata, hfound], rfl⟩
  issuer := rfl
  encrypted := by
    have hfound : profileIdpServer.providers.lookup "https://pp/metadata" = some profileProvider :=
      AList.lookup_insert (∅ : AList fun _ : String => Provider)
    exact ⟨profileProvider, by simp [Server.getProvider, profileMetadata, hfound], rfl⟩
  signs := rfl

/-- The reference, as it was built. -/
def bearerEpr : WsAddrEndpointReference where
  address := some "https://pp/soap"
  metadata := some (describedMetadata profileMetadata {} profileEndpoint ++
    [tokenContext (.saml2Assertion profileToken) [bearerMech]])

def profileConsumer : WsfProfile Unit Unit where
  server := some { provider := { providerId := some "https://sp/metadata" } }
  epr := some (profileCodec.receivedEpr bearerEpr)

/-- The consumer with the request that it has made. -/
def profileSent : WsfProfile Unit Unit where
  server := profileConsumer.server
  epr := profileConsumer.epr
  request := some (.content ())
  soapEnvelopeRequest :=
    some (requestWith "https://sp/metadata" "request" () (.miscText (.text "token")))
  msgUrl := some "https://pp/soap"
  msgBody := some ()

theorem profileEndpoint_bearer : profileEndpoint.securityMechId.find?
    (securityMechIdIsBearerAuthentication <| some ·) = some bearerMech := by
  have hbearer : securityMechIdIsBearerAuthentication (some bearerMech) = true := by decide
  simp [profileEndpoint, hbearer]

theorem makeRequest_profileConsumer :
    profileConsumer.makeRequest profileContext "request" () none = some (.ok, profileSent) := by
  have hbearer : securityMechIdIsBearerAuthentication (some bearerMech) = true := by decide
  have hcontext : (profileCodec.receivedEpr bearerEpr).getSecurityContext
      securityMechIdIsBearerAuthentication =
        some (oneToken (profileCodec.received profileToken) bearerMech) := by
    simp [TokenCodec.receivedEpr, bearerEpr, WsAddrEndpointReference.getSecurityContext,
      describedMetadata, profileMetadata, profileEndpoint, tokenContext, oneToken, hbearer,
      TokenCodec.receivedMetadata, TokenCodec.receivedNode, EprMetadata.asSecurityContext]
  exact makeRequest_eq "request" () rfl rfl hcontext (.inl rfl)

end Lasso.IdWsf2
