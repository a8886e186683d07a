import Lasso.Saml20.LogoutResponse

/-!
# ID-FF 1.2 protocol profiles

Two providers use an HTTP method for a protocol if the metadata of both lists the profile that is
named after the protocol, the role of the provider that initiates it, and the method. Asking for it
sets the role of the local provider to the opposite of the remote one.
-/

namespace Lasso

/-- `LassoMdProtocolType`, of the protocols of ID-FF. -/
inductive MdProtocolType where
  | federationTermination
  | nameIdentifierMapping
  | registerNameIdentifier
  | singleLogout
  | singleSignOn
deriving DecidableEq

namespace MdProtocolType

/-- `protocol_uris`; the single sign-on has none, and a null pointer is printed. -/
def uri : MdProtocolType → String
  | federationTermination => "http://projectliberty.org/profiles/fedterm"
  | nameIdentifierMapping => "http://projectliberty.org/profiles/nim"
  | registerNameIdentifier => "http://projectliberty.org/profiles/rni"
  | singleLogout => "http://projectliberty.org/profiles/slo"
  | singleSignOn => "(null)"

/-- `protocol_md_nodename` -/
def mdNodename : MdProtocolType → String
  | federationTermination => "FederationTerminationNotificationProtocolProfile"
  | nameIdentifierMapping => "NameIdentifierMappingProtocolProfile"
  | registerNameIdentifier => "RegisterNameIdentifierProtocolProfile"
  | singleLogout => "SingleLogoutProtocolProfile"
  | singleSignOn => "SingleSignOnProtocolProfile"

/-- `profile_names`, by which SAML 2.0 knows the protocols. -/
def profileName : MdProtocolType → String
  | federationTermination => ""
  | nameIdentifierMapping => "NameIDMappingService"
  | registerNameIdentifier => ""
  | singleLogout => "SingleLogoutService"
  | singleSignOn => "SingleSignOnService"

end MdProtocolType

/-- `protocol_methods`; a method without an entry is printed as a null pointer is. -/
def HttpMethod.protocolMethod : HttpMethod → String
  | none | any | idpInitiated | get | post => ""
  | redirect => "-http"
  | soap => "-soap"
  | artifactGet | artifactPost | paos => "(null)"

/-- `lasso_provider_has_protocol_profile` -/
def Provider.hasProtocolProfile (p : Provider) (protocolType : MdProtocolType)
    (protocolProfile : String) : Bool :=
  (p.getMetadataList protocolType.mdNodename).contains protocolProfile

namespace Server

/-- The role that the local provider takes towards a remote one. -/
def face (s : Server) (remoteProvider : Provider) : Server :=
  match remoteProvider.role with
  | .sp => s.setRole .idp
  | .idp => s.setRole .sp
  | _ => s

/-- `lasso_provider_accept_http_method`, for the local provider of a server -/
def acceptHttpMethod (s : Server) (remoteProvider : Provider) (protocolType : MdProtocolType)
    (httpMethod : HttpMethod) (initiateProfile : Bool) : Bool × Server :=
  if s.provider.conformance = .saml20 then
    (Saml20.acceptHttpMethod remoteProvider protocolType.profileName httpMethod, s)
  else
    let s := s.face remoteProvider
    let initiatingRole := if initiateProfile then s.provider.role else remoteProvider.role
    match initiatingRole.metadataHead with
    | none => (false, s)
    | some rolePrefix =>
      let protocolProfile :=
        protocolType.uri ++ "-" ++ rolePrefix ++ httpMethod.protocolMethod
      (s.provider.hasProtocolProfile protocolType protocolProfile &&
        remoteProvider.hasProtocolProfile protocolType protocolProfile, s)

/-- `lasso_provider_get_first_http_method`, for the local provider of a server. The source does not
return if the first common profile names neither method. -/
def getFirstHttpMethod (s : Server) (remoteProvider : Provider) (protocolType : MdProtocolType) :
    Option HttpMethod × Server :=
  if s.provider.conformance = .saml20 then
    (some (Saml20.getFirstHttpMethod s.provider remoteProvider protocolType.profileName), s)
  else
    let s := s.face remoteProvider
    match s.provider.role.metadataHead with
    | none => (some .none, s)
    | some rolePrefix =>
      let protocolProfilePrefix := (protocolType.uri ++ "-" ++ rolePrefix).toList
      let remoteSupportedProfiles := remoteProvider.getMetadataList protocolType.mdNodename
      match (s.provider.getMetadataList protocolType.mdNodename).find? fun profile =>
          protocolProfilePrefix.isPrefixOf profile.toList &&
            remoteSupportedProfiles.contains profile with
      | none => (some .none, s)
      | some profile =>
        if "http".toList.isSuffixOf profile.toList then (some .redirect, s)
        else if "soap".toList.isSuffixOf profile.toList then (some .soap, s)
        else (none, s)

/-! ## What asking for a method changes -/

section

variable {s : Server} {remoteProvider : Provider} {protocolType : MdProtocolType}

/-- Two servers that differ in the role of the local provider at most. -/
def SameButRole (s t : Server) : Prop := ∃ role, t = s.setRole role

theorem SameButRole.refl (s : Server) : SameButRole s s := ⟨s.provider.role, rfl⟩

theorem SameButRole.getProvider {t : Server} (h : SameButRole s t) (providerId : Option String) :
    t.getProvider providerId = s.getProvider providerId := by
  obtain ⟨role, rfl⟩ := h
  rfl

theorem SameButRole.providerId {t : Server} (h : SameButRole s t) :
    t.provider.providerId = s.provider.providerId := by
  obtain ⟨role, rfl⟩ := h
  rfl

theorem sameButRole_face (s : Server) (remoteProvider : Provider) :
    SameButRole s (s.face remoteProvider) := by
  unfold face
  split
  · exact ⟨_, rfl⟩
  · exact ⟨_, rfl⟩
  · exact .refl s

theorem sameButRole_acceptHttpMethod (s : Server) (remoteProvider : Provider)
    (protocolType : MdProtocolType) (httpMethod : HttpMethod) (initiateProfile : Bool) :
    SameButRole s
      (s.acceptHttpMethod remoteProvider protocolType httpMethod initiateProfile).2 := by
  unfold acceptHttpMethod
  split
  · exact .refl s
  · dsimp only
    split <;> exact sameButRole_face s remoteProvider

theorem sameButRole_getFirstHttpMethod (s : Server) (remoteProvider : Provider)
    (protocolType : MdProtocolType) :
    SameButRole s (s.getFirstHttpMethod remoteProvider protocolType).2 := by
  unfold getFirstHttpMethod
  split
  · exact .refl s
  · dsimp only
    split
    · exact sameButRole_face s remoteProvider
    · split
      · exact sameButRole_face s remoteProvider
      · split_ifs <;> exact sameButRole_face s remoteProvider

end

end Server

end Lasso
