import Lasso.Login
import Lasso.Saml20.Profile

/-!
# SAML 2.0 artifacts at the identity provider

`processArtifactResolve` reads the request for the message behind an artifact and checks its
signature; `buildArtifactResponse` puts the stored message into a response to the stored request.
The second looks neither at the code that the first returned nor at the signature status.
-/

namespace Lasso.Saml20

/-- `lasso_saml20_profile_process_artifact_resolve`. For a request without Issuer the source does
not return. -/
def processArtifactResolve (cx : Context) (profile : Profile) (msg : Bytes) : Rc × Profile :=
  match cx.newFromSoap msg with
  | none => (.profile .invalidMsg, { profile with request := none })
  | some (.samlp2ArtifactResolve request) =>
    let profile := { profile with
      request := some (.samlp2ArtifactResolve request)
      artifact := request.artifact }
    match request.issuer with
    | none => (.undefined, profile)
    | some issuer =>
      let profile := { profile with remoteProviderId := issuer.content }
      match profile.remoteProvider with
      | none => (.profile .unknownProvider, profile)
      | some remoteProvider =>
        let profile :=
          if profile.signatureVerifyHint = .ignore then profile
          else { profile with
            signatureStatus :=
              remoteProvider.verifySignature cx.toEnv (some msg) (some "ID") .soap }
        (checkSignatureStatus profile, profile)
  | some request => (.profile .invalidMsg, { profile with request := some request })

/-- `lasso_saml20_profile_build_artifact_response` -/
def buildArtifactResponse (cx : Context) (profile : Profile) : Rc × Profile :=
  match requestAbstract profile with
  | none => (.profile .missingRequest, profile)
  | some request =>
    let response (any : Option MiscTextNode) : Profile := { profile with
      response := some (.samlp2ArtifactResponse {
        issuer := profile.server.map fun server => { content := server.provider.providerId }
        inResponseTo := request.id
        any }) }
    let profile :=
      match profile.artifactMessage with
      -- if no artifact is present, it is a success anyway
      | none => (setResponseStatus (response none) saml2StatusCodeSuccess none).2
      | some content =>
        match cx.parseMemory content with
        | some node =>
          (setResponseStatus (response (some ⟨some node⟩)) saml2StatusCodeSuccess none).2
        | none =>
          (setResponseStatus (response none) saml2StatusCodeResponder
            (some privateStatusCodeFailedToRestoreArtifact)).2
    (setupMessageSignature cx profile, profile)

namespace Login

/-- `lasso_saml20_login_process_request_msg` -/
def processRequestMsg (cx : Context) (login : Login) (requestMsg : Bytes) : Rc × Login :=
  let (rc, profile) := processArtifactResolve cx login.profile requestMsg
  if rc ≠ .ok then (rc, { login with profile })
  -- compat with liberty id-ff code
  else (.ok, { login with profile, assertionArtifact := profile.artifact })

/-- `lasso_saml20_login_build_response_msg` for the protocol profiles other than LECP. -/
def buildResponseMsg (cx : Context) (login : Login) : Rc × Login :=
  let (rc, profile) := buildArtifactResponse cx login.profile
  (rc, { login with profile })

end Login

/-! ## What the calls leave in the profile -/

section

variable {cx : Context} {profile : Profile} {msg : Bytes}

/-- What a message leaves behind: the request that it is read as, and for an ArtifactResolve of a
known provider that provider and its verdict on the message. -/
structure ResolveOutcome (cx : Context) (before : Profile) (msg : Bytes) (after : Profile) :
    Prop where
  server : after.server = before.server
  signatureVerifyHint : after.signatureVerifyHint = before.signatureVerifyHint
  request : after.request = cx.newFromSoap msg
  verdict : ∀ request, after.request = some (.samlp2ArtifactResolve request) →
    ∀ p ∈ issuerProvider before request.toSamlp2RequestAbstract,
      after.remoteProvider = some p ∧ (before.signatureVerifyHint ≠ .ignore →
        after.signatureStatus = p.verifySignature cx.toEnv (some msg) (some "ID") .soap)

theorem processArtifactResolve_outcome (cx : Context) (profile : Profile) (msg : Bytes) :
    ResolveOutcome cx profile msg (processArtifactResolve cx profile msg).2 := by
  unfold processArtifactResolve
  split
  · rename_i hread
    exact ⟨rfl, rfl, hread.symm, fun request hrequest => nomatch hrequest⟩
  · rename_i request hread
    dsimp only
    split
    · rename_i hissuer
      refine ⟨rfl, rfl, hread.symm, fun request' hrequest p hp => ?_⟩
      cases hrequest
      simp [issuerProvider, hissuer] at hp
    · rename_i issuer hissuer
      split
      · rename_i hunknown
        refine ⟨rfl, rfl, hread.symm, fun request' hrequest p hp => ?_⟩
        cases hrequest
        rw [issuerProvider, hissuer] at hp
        exact absurd (hunknown.symm.trans hp) (by simp)
      · rename_i remoteProvider hknown
        by_cases hhint : profile.signatureVerifyHint = .ignore
        · rw [if_pos hhint]
          refine ⟨rfl, rfl, hread.symm, fun request' hrequest p hp => ?_⟩
          cases hrequest
          rw [issuerProvider, hissuer] at hp
          exact ⟨hp, fun hne => absurd hhint hne⟩
        · rw [if_neg hhint]
          refine ⟨rfl, rfl, hread.symm, fun request' hrequest p hp => ?_⟩
          cases hrequest
          rw [issuerProvider, hissuer] at hp
          obtain rfl : remoteProvider = p := Option.some.inj (hknown.symm.trans hp)
          exact ⟨hp, fun _ => rfl⟩
  · rename_i request hother hread
    refine ⟨rfl, rfl, hread.symm, fun request' hrequest => ?_⟩
    exact absurd (Option.some.inj hrequest) (hother request')

theorem processRequestMsg_profile (cx : Context) (login : Login) (requestMsg : Bytes) :
    (Login.processRequestMsg cx login requestMsg).2.profile =
      (processArtifactResolve cx login.profile requestMsg).2 := by
  unfold Login.processRequestMsg
  dsimp only
  split_ifs <;> rfl

/-- A response takes nothing of the profile away. -/
theorem buildArtifactResponse_eq (cx : Context) (profile : Profile) :
    ∃ response, (buildArtifactResponse cx profile).2 = { profile with response := response } := by
  unfold buildArtifactResponse
  split
  · exact ⟨_, rfl⟩
  · extract_lets response answered
    have hset (any : Option MiscTextNode) (code1 : String) (code2 : Option String) :
        ∃ node, (setResponseStatus (response any) code1 code2).2 =
          { profile with response := node } := by
      obtain ⟨node, hnode⟩ := setResponseStatus_eq (response any) code1 code2
      exact ⟨node, hnode⟩
    show ∃ node, answered = _
    unfold answered
    split
    · exact hset _ _ _
    · split <;> exact hset _ _ _

end

end Lasso.Saml20
