import Lasso.IdFf.AuthnRequest
import Lasso.IdFf.ProtocolProfile

/-!
# ID-FF 1.2 assertions

The identity provider puts both name identifiers of a federation into the assertion of a sign-on,
and the service provider makes its own federation of them.

## Main definitions

* `buildAssertion` — the assertion, at the identity provider.
* `acceptSso` — what is recorded of it, at the service provider.
-/

namespace Lasso.IdFf

/-- What an assertion rests on besides. -/
structure AssertionContext extends Context where
  /-- `lasso_node_encrypt` of a NameIdentifier with the key of a provider -/
  encryptNameIdentifier : Provider → SamlNameIdentifier → Option Saml2EncryptedElement

/-- `LASSO_SAML_NAME_IDENTIFIER` -/
def asSamlNameIdentifier : LassoNode → Option SamlNameIdentifier
  | .samlNameIdentifier n => some n
  | _ => none

/-- `LASSO_SAMLP_REQUEST_ABSTRACT` -/
def asSamlpRequestAbstract : LassoNode → Option SamlpRequestAbstract
  | .samlpRequest r => some r.toSamlpRequestAbstract
  | .samlpRequestAbstract r => some r
  | .libAuthnRequest r => some r.toSamlpRequestAbstract
  | .libLogoutRequest r => some r.toSamlpRequestAbstract
  | _ => none

/-! ## At the identity provider -/

/-- `lasso_lib_authentication_statement_new_full` -/
def newAuthenticationStatement (spIdentifier : Option SamlNameIdentifier)
    (idpIdentifier : SamlNameIdentifier) : SamlSubjectStatement where
  isLibAuthenticationStatement := true
  subject := some {
    nameIdentifier := some (spIdentifier.getD idpIdentifier)
    isLibSubject := true
    idpProvidedNameIdentifier := spIdentifier.map fun _ => idpIdentifier }

/-- The identifier of a sign-on without federation. -/
def onetimeIdentifier (providerId uniqueId : String) : SamlNameIdentifier where
  nameQualifier := some providerId
  format := some "urn:liberty:iff:nameid:one-time"
  content := some uniqueId

/-- The federation that an assertion is about. -/
def usedFederation (profile : Profile) (identity : Identity) (nameIdPolicy : String) :
    Option Federation :=
  -- if NameIDPolicy is 'onetime', don't use a federation
  if nameIdPolicy = libNameidPolicyTypeOneTime then none
  else identity.getFederation profile.remoteProviderId

/-- The statement of an assertion, and the profile with its name identifier. A federation without
local identifier, or with identifiers of another class, does not return. -/
def buildStatement (profile : Profile) (federation : Option Federation)
    (providerId uniqueId : String) : Option (SamlSubjectStatement × Profile) :=
  match federation with
  | none =>
    let nameIdentifier := onetimeIdentifier providerId uniqueId
    some (newAuthenticationStatement none nameIdentifier,
      { profile with nameIdentifier := some (.samlNameIdentifier nameIdentifier) })
  | some federation =>
    (federation.localNameIdentifier.bind asSamlNameIdentifier).bind fun idpIdentifier =>
      match federation.remoteNameIdentifier with
      | none => some (newAuthenticationStatement none idpIdentifier, profile)
      | some remote =>
        (asSamlNameIdentifier remote).map fun spIdentifier =>
          (newAuthenticationStatement (some spIdentifier) idpIdentifier, profile)

/-- Encrypt the name identifier of a subject for a provider that wants it encrypted. -/
def encryptSubject (cx : AssertionContext) (provider : Option Provider) (subject : SamlSubject) :
    SamlSubject :=
  match provider.filter fun p => p.encryptionMode = .nameId ∨ p.encryptionMode = .both,
    subject.nameIdentifier with
  | some p, some nameIdentifier =>
    match cx.encryptNameIdentifier p nameIdentifier with
    | some encrypted =>
      { subject with nameIdentifier := none, encryptedNameIdentifier := some encrypted }
    | none => subject
  | _, _ => subject

/-- The session index of a statement: the ID of its assertion, if the provider supports logout. -/
def sessionIndex (server : Server) (provider : Option Provider) (assertionId : String) :
    Option (Option String × Server) :=
  match provider with
  | none => some (none, server)
  | some provider =>
    let (method, server) := server.getFirstHttpMethod provider .singleLogout
    method.map fun method => (if method ≠ .none then some assertionId else none, server)

/-- The name identifier in the form that ID-FF 1.1 knows: one without federation is bare. -/
def beforeIdff12 (profile : Profile) (federation : Option Federation) : Option SamlNameIdentifier :=
  (profile.nameIdentifier.bind asSamlNameIdentifier).map fun nameIdentifier =>
    if federation.isNone then { nameIdentifier with nameQualifier := none, format := none }
    else nameIdentifier

/-- `lasso_login_build_assertion` in an ID-FF profile; the unique identifiers that it makes up are
given. It does not return without a server that has a provider ID, a request, a name identifier
policy and a SAML response. -/
def buildAssertion (cx : AssertionContext) (login : Login) (assertionId uniqueId : String)
    (artifact : String) : Option (Rc × Login) :=
  match login.profile.identity with
  | none => some (.profile .identityNotFound, login)
  | some identity => do
    let profile := login.profile
    let server ← profile.server
    let providerId ← server.provider.providerId
    let request ← profile.request.bind asSamlpRequestAbstract
    let nameIdPolicy ← login.nameIdPolicy
    let federation := usedFederation profile identity nameIdPolicy
    let (statement, profile) ← buildStatement profile federation providerId uniqueId
    let provider := server.getProvider profile.remoteProviderId
    let statement := { statement with subject := statement.subject.map (encryptSubject cx provider) }
    -- add session index
    let (index, server) ← sessionIndex server provider assertionId
    let statement := { statement with sessionIndex := index }
    let profile := { profile with server := some server }
    match cx.loadSignatureContext server profile.remoteProviderId with
    | .ok =>
      let assertion (statement : SamlSubjectStatement) : SamlAssertion := {
        assertionId := some assertionId
        issuer := some providerId
        isLibAssertion := true
        inResponseTo := request.requestId
        authenticationStatement := some statement }
      let respond (profile : Profile) (a : SamlAssertion) : Option Profile :=
        match profile.response with
        | some (.samlpResponse r) =>
          some { profile with
            response := some (.samlpResponse { r with assertion := r.assertion ++ [a] }) }
        | _ => none
      -- store assertion in session object
      let (rc, session) := (profile.session.getD {}).addAssertion cx.toEnv profile.remoteProviderId
        (.samlAssertion (assertion statement))
      let profile := { profile with session := some session }
      if rc = .ok ∧ request.majorVersion = 1 ∧ request.minorVersion < 2 then
        -- pre-id-ff 1.2, saml 1.0
        let nameIdentifier := beforeIdff12 profile federation
        let a := assertion { statement with subject := some { nameIdentifier } }
        let profile := { profile with
          nameIdentifier := nameIdentifier.map .samlNameIdentifier
          artifact := some artifact
          session := some { session with
            assertions := session.assertions.replace (profile.remoteProviderId.getD "")
              (.samlAssertion a) } }
        let profile ← respond profile a
        return (.ok, { login with profile, assertionArtifact := some artifact })
      else
        let profile ← respond profile (assertion statement)
        return (rc, { login with profile })
    | rc => return (rc, { login with profile })

/-! ## At the service provider -/

/-- The federation that a service provider makes of the identifiers in an assertion. -/
def federationOf (remoteProviderId : String) (nameIdentifier : SamlNameIdentifier)
    (idpProvidedNameIdentifier : Option SamlNameIdentifier) : Federation :=
  match idpProvidedNameIdentifier with
  | some idpProvided => {
    remoteProviderId
    localNameIdentifier := some (.samlNameIdentifier nameIdentifier)
    remoteNameIdentifier := some (.samlNameIdentifier idpProvided) }
  | none => { remoteProviderId, remoteNameIdentifier := some (.samlNameIdentifier nameIdentifier) }

/-- The part of `lasso_login_accept_sso` about the subject of the assertion. -/
def acceptSubject (login : Login) (remoteProviderId : Option String) (identity : Identity)
    (subject : Option SamlSubject) : Option (Rc × Login) :=
  match subject with
  | none => some (.profile .nameIdentifierNotFound, login)
  | some subject =>
    match subject.nameIdentifier with
    | none => some (.profile .nameIdentifierNotFound, login)
    | some nameIdentifier =>
      let idpProvided := if subject.isLibSubject then subject.idpProvidedNameIdentifier else none
      -- create federation, only if nameidentifier format is Federated
      if nameIdentifier.format = some libNameIdentifierFormatFederated then
        remoteProviderId.map fun remoteProviderId =>
          let federation := federationOf remoteProviderId nameIdentifier idpProvided
          (.ok, { login with profile := { login.profile with
            identity := some (identity.addFederation federation) } })
      else some (.ok, login)

/-- `lasso_login_accept_sso` in an ID-FF profile; the code of `lasso_session_add_assertion` is not
looked at. It does not return for a response of another class, an assertion without authentication
statement, or a federated name identifier without a remote provider. -/
def acceptSso (cx : Context) (login : Login) : Option (Rc × Login) :=
  let identity := login.profile.identity.getD {}
  let session := login.profile.session.getD {}
  let profile := { login.profile with identity := some identity, session := some session }
  match profile.response with
  | none => some (.profile .missingResponse, { login with profile })
  | some (.samlpResponse response) =>
    match response.assertion with
    | [] => some (.profile .missingAssertion, { login with profile })
    | assertion :: _ =>
      let profile := { profile with
        session := some (session.addAssertion cx.toEnv profile.remoteProviderId
          (.samlAssertion assertion)).2 }
      assertion.authenticationStatement.bind fun statement =>
        acceptSubject { login with profile } profile.remoteProviderId identity statement.subject
  | some _ => none

end Lasso.IdFf
