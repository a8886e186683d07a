import Lasso.Saml20.SingleLogout
import Lasso.Profile.Dump

/-!
# The dump of a logout

An identity provider stores a logout between the messages that it exchanges with the service
providers. The flag for a partial logout is written to one attribute and read from another.

## Main definitions

* `LogoutObject.dump`, `LogoutObject.newFromDump` — the dump.
* `LogoutObject.Restores` — the dump keeps what the answer to the first provider depends on.

## Main results

* `LogoutObject.newFromDump_dump` — what comes back.
* `LogoutObject.restored_iff` — when it is enough.
-/

namespace Lasso

/-! ## The class -/

/-- `schema_snippets` of `LassoLogout` -/
def logoutSnippets : List Snippet := [
  Dump.nodeInChild "InitialRequest" "initial_request",
  Dump.nodeInChild "InitialResponse" "initial_response",
  Dump.content "InitialRemoteProviderID" "initial_remote_providerID",
  Dump.integer "InitialHttpRequestMethod" "initial_http_request_method",
  { name := "LogoutDumpVersion", kind := .attribute, field := none }]

/-- The `node_data` of `LassoLogout` -/
def logoutData : NodeClassData where
  nodeName := "Logout"
  ns := some lassoHref
  nsPrefix := some "lasso"
  snippets := some {
    snippets := logoutSnippets
    jump_inside := by decide
    miss_ahead := by decide }

/-- The end of `init_from_xml`: the flag for a partial logout. The name of the attribute is not the
one that `get_xmlNode` writes. -/
def partialLogoutStores (node : XmlNode) : List Store :=
  if node.getProp "PartiaLogout" = some "true" then [.content "partial_logout" "true"] else []

/-- The class `LassoLogout` with its `init_from_xml`. -/
def logoutClass : WritableClass where
  name := "LassoLogout"
  data := logoutData
  chain := [logoutData, profileData]
  init := .after fun node rc => .ok (rc.map (· ++ partialLogoutStores node))
  chain_base := by decide
  data_head := rfl
  subtype_ns := by decide
  version_ns := by decide

/-! ## The dump -/

/-- A `LassoLogout` with the members that only its dump reads. -/
structure LogoutObject extends Logout where
  msgUrl : Option String := none
  msgBody : Option String := none

namespace LogoutObject

variable (codec : NodeCodec LassoNode) (logout : LogoutObject)

/-- The `LassoProfile` of a logout. -/
def profileObject : ProfileObject where
  toProfile := logout.profile
  msgUrl := logout.msgUrl
  msgBody := logout.msgBody

/-- The members of a logout. -/
def members : List (String × MemberValue LassoNode) :=
  logout.profileObject.members ++ [
    ("initial_request", .node logout.initialRequest),
    ("initial_response", .node logout.initialResponse),
    ("initial_remote_providerID", .string logout.initialRemoteProviderId),
    ("initial_http_request_method", .integer logout.initialHttpRequestMethod.toInt)]

/-- The attributes that `get_xmlNode` sets. -/
def dumpAttributes (attrs : List XmlAttr) : List XmlAttr :=
  let attrs := setNsProp attrs { name := "LogoutDumpVersion", value := "2" }
  if logout.partialLogout then setNsProp attrs { name := "PartialLogout", value := "true" }
  else attrs

/-- `lasso_logout_dump` -/
def dump : XmlNode :=
  match buildXmlNode true logoutClass (Rows.encodeMembers codec logout.members) with
  | .element ns _ attrs children =>
    .element ns "Logout" (logout.dumpAttributes attrs) children
  | node => node

/-- `lasso_logout_new_from_dump` -/
def newFromDump (R : Registry) (searchNs : NsScope) (server : Option Server) (dump : XmlNode) :
    Option LogoutObject :=
  (Lasso.newFromDump R searchNs logoutClass dump).map fun object =>
    let profileObject := ProfileObject.ofNode codec server object
    { profile := profileObject.toProfile
      msgUrl := profileObject.msgUrl
      msgBody := profileObject.msgBody
      initialRequest := (object.subnode "initial_request").bind codec.decode
      initialResponse := (object.subnode "initial_response").bind codec.decode
      initialRemoteProviderId := object.content "initial_remote_providerID"
      initialHttpRequestMethod :=
        ((object.content "initial_http_request_method").map (readInteger false)).elim .none .ofInt
      partialLogout := (object.content "partial_logout").isSome }

/-- What is left of a logout in its dump, besides what is left of its objects: the flag for a
partial logout is lost, the method `LASSO_HTTP_METHOD_NONE` becomes zero, and the members without a
snippet are those of a new object. -/
def dumped (server : Option Server) : LogoutObject where
  profile := (logout.profileObject.dumped codec server).toProfile
  msgUrl := logout.msgUrl
  msgBody := logout.msgBody
  initialRequest := logout.initialRequest.bind codec.reread
  initialResponse := logout.initialResponse.bind codec.reread
  initialRemoteProviderId := logout.initialRemoteProviderId
  initialHttpRequestMethod :=
    if logout.initialHttpRequestMethod = .none then .any else logout.initialHttpRequestMethod

/-! ## What comes back -/

section

variable {codec : NodeCodec LassoNode} {R : Registry} {searchNs : NsScope} {logout : LogoutObject}

/-- The elements of the objects in a logout are read. -/
def NodesRead (codec : NodeCodec LassoNode) (R : Registry) (searchNs : NsScope)
    (logout : LogoutObject) : Prop :=
  ∀ member ∈ logout.members, ∀ node ∈ member.2.objects, codec.Reads R searchNs node

theorem plain_logoutClass : PlainSnippets logoutClass.snippets where
  names := by decide
  any := by decide
  mandatory := by decide
  jumpOnMatch := by decide
  jumpOnMiss := by decide

theorem suitsAll_members (logout : LogoutObject) :
    Rows.suitsAll logoutClass.snippets logout.members = true := rfl

theorem fits_members (hreads : logout.NodesRead codec R searchNs) :
    Rows.Fits codec R searchNs logoutClass.snippets (Rows.rowValue logout.members) :=
  .of_suitsAll plain_logoutClass (by decide) (by decide) (suitsAll_members logout) hreads

theorem dump_eq (codec : NodeCodec LassoNode) (logout : LogoutObject) :
    logout.dump codec = .element (some lassoHref) "Logout" (logout.dumpAttributes [])
      ((Rows.rows (Rows.rowValue logout.members) logoutClass.snippets).map
        (Rows.rowElement codec (some lassoHref))) := by
  unfold dump
  rw [Rows.buildXmlNode_eq plain_logoutClass (suitsAll_members logout) rfl (by decide)]
  rfl

/-- The attributes have no namespace, and none of them is the one that is read. -/
theorem dumpAttributes_eq (logout : LogoutObject) :
    (logout.dumpAttributes [] = [⟨"LogoutDumpVersion", none, "2"⟩] ∨
      logout.dumpAttributes [] =
        [⟨"LogoutDumpVersion", none, "2"⟩, ⟨"PartialLogout", none, "true"⟩]) := by
  unfold dumpAttributes
  split_ifs
  · exact .inr rfl
  · exact .inl rfl

theorem run_dump (hreads : logout.NodesRead codec R searchNs) :
    (ParseTask.mk logoutClass.toLassoNodeClass ⟨[], logout.dump codec⟩).run R searchNs =
      .ok (.ok ((Rows.rows (Rows.rowValue logout.members) logoutClass.snippets).flatMap
        (Rows.rowStores codec))) := by
  have himpl : implInit R searchNs logoutClass.toLassoNodeClass ⟨[], logout.dump codec⟩
      ((PlacedNode.mk [] (logout.dump codec)).children.map (·.result R searchNs)) =
        .ok (.ok ([] ++ (Rows.rows (Rows.rowValue logout.members) logoutClass.snippets).flatMap
          (Rows.rowStores codec))) := by
    rw [dump_eq]
    rcases logout.dumpAttributes_eq with hattrs | hattrs
    · rw [hattrs]
      exact (fits_members hreads).implInit_rows rfl (by decide) rfl rfl rfl rfl
    · rw [hattrs]
      exact (fits_members hreads).implInit_rows rfl (by decide) rfl rfl rfl rfl
  have hflag : partialLogoutStores (logout.dump codec) = [] := by
    rw [dump_eq]
    rcases logout.dumpAttributes_eq with hattrs | hattrs
    · rw [hattrs]
      exact if_neg (by simp [XmlNode.getProp, XmlNode.attrs])
    · rw [hattrs]
      exact if_neg (by simp [XmlNode.getProp, XmlNode.attrs])
  rw [ParseTask.run, initFromXml]
  change implInit R searchNs logoutClass.toLassoNodeClass _ _ >>= _ = _
  rw [himpl]
  change Except.ok (Except.ok (_ ++ partialLogoutStores (logout.dump codec))) = _
  rw [hflag, List.append_nil]
  rfl

theorem rowValue_profileSnippets (logout : LogoutObject) :
    ∀ snippet ∈ profileSnippets, snippet ∈ logoutClass.snippets ∧
      Rows.rowValue logout.members snippet =
        Rows.rowValue logout.profileObject.members snippet := by
  have hmem : ∀ snippet ∈ profileSnippets, snippet ∈ logoutClass.snippets := by decide
  have hvalue : ∀ snippet ∈ profileSnippets, Rows.rowValue logout.members snippet =
      Rows.rowValue logout.profileObject.members snippet := by
    simp only [profileSnippets, List.forall_mem_cons]
    exact ⟨rfl, rfl, rfl, rfl, rfl, rfl, rfl, rfl, rfl, rfl, by simp⟩
  exact fun snippet hsnippet => ⟨hmem snippet hsnippet, hvalue snippet hsnippet⟩

/-- A dump is read into what it keeps. -/
theorem newFromDump_dump (hR : Registered R logoutClass)
    (hreads : logout.NodesRead codec R searchNs) (server : Option Server) :
    newFromDump codec R searchNs server (logout.dump codec) =
      some (logout.dumped codec server) := by
  have hfits := fits_members hreads
  let object := ParsedNode.mk logoutClass.name
    ((Rows.rows (Rows.rowValue logout.members) logoutClass.snippets).flatMap
      (Rows.rowStores codec) ++ [])
  have hobject : Lasso.newFromDump R searchNs logoutClass (logout.dump codec) = some object := by
    have hrun := run_dump hreads
    rw [dump_eq] at hrun ⊢
    refine newFromDump_eq hR ?_ (hrun.trans (by rw [List.append_nil]))
    rcases logout.dumpAttributes_eq with hattrs | hattrs <;> simp [hattrs]
  have hprofile : ProfileObject.ofNode codec server object =
      logout.profileObject.dumped codec server :=
    ProfileObject.ofNode_rows hfits (rowValue_profileSnippets logout)
      (fun _ _ _ _ => ⟨rfl, rfl⟩) server
  have hnode (name field : String)
      (h : Dump.nodeInChild name field ∈ logoutClass.snippets) (node : Option LassoNode)
      (hrow : Rows.rowValue logout.members (Dump.nodeInChild name field) = node.map .node) :
      (object.subnode field).bind codec.decode = node.bind codec.reread :=
    hfits.subnode_rowStores h rfl hrow rfl
  have hprovider :
      object.content "initial_remote_providerID" = logout.initialRemoteProviderId :=
    have h : Dump.content "InitialRemoteProviderID" "initial_remote_providerID" ∈
      logoutClass.snippets := by decide
    hfits.content_rowStores h rfl rfl rfl
  have hmethod : object.content "initial_http_request_method" =
      some (toString logout.initialHttpRequestMethod.toInt) :=
    have h : Dump.integer "InitialHttpRequestMethod" "initial_http_request_method" ∈
      logoutClass.snippets := by decide
    hfits.content_rowStores h rfl (Dump.rowOfMember_integer _ _ _) rfl
  have hflag : object.content "partial_logout" = none := by
    have hnone : ∀ snippet ∈ logoutClass.snippets, snippet.field ≠ some "partial_logout" := by
      decide
    rw [ParsedNode.content_eq_getLast?, ParsedNode.contents, ParsedNode.stores,
      List.filterMap_append, Rows.contentOf_rowStores_eq_nil hnone]
    rfl
  unfold newFromDump
  rw [hobject, Option.map_some]
  dsimp only
  rw [hprofile, hprovider, hmethod, hflag,
    hnode "InitialRequest" "initial_request" (by decide) logout.initialRequest rfl,
    hnode "InitialResponse" "initial_response" (by decide) logout.initialResponse rfl,
    Option.map_some, Option.elim_some, HttpMethod.ofInt_readInteger]
  rfl

/-! ## What a restored logout goes on with -/

/-- What an application gives to a restored logout: the principal's identity and session, and its
own hints. -/
def resume (logout : LogoutObject) (before : Profile) : LogoutObject :=
  { logout with profile := { logout.profile with
    identity := before.identity
    session := before.session
    signatureHint := before.signatureHint
    signatureVerifyHint := before.signatureVerifyHint } }

/-- A restored logout has what the dumped one had for its last answer, and a logout that waits for
other providers ends with the same answer, whoever is asked and whatever they respond. -/
structure Continues (restored logout : LogoutObject) : Prop where
  initialRemoteProviderId : restored.initialRemoteProviderId = logout.initialRemoteProviderId
  initialRequest : restored.initialRequest = logout.initialRequest
  initialResponse : restored.initialResponse = logout.initialResponse
  initialHttpRequestMethod : restored.initialHttpRequestMethod = logout.initialHttpRequestMethod
  partialLogout : restored.partialLogout = logout.partialLogout
  answer : ∀ (cx : LogoutContext) (id : String) (r : Samlp2StatusResponse),
    Saml20.Logout.Waiting cx.toEnv logout.toLogout id r → ∀ asks : List Saml20.Logout.SloAsk,
      let answer (logout : Logout) :=
        (Saml20.Logout.buildResponseMsg cx (asks.foldl (Saml20.Logout.ask cx) logout)).2.profile
      (answer (restored.resume logout.profile).toLogout).remoteProviderId =
          (answer logout.toLogout).remoteProviderId ∧
        (answer (restored.resume logout.profile).toLogout).response =
          (answer logout.toLogout).response

/-- The dump of a logout restores it. -/
def Restores (codec : NodeCodec LassoNode) (R : Registry) (searchNs : NsScope)
    (logout : LogoutObject) : Prop :=
  ∃ restored, newFromDump codec R searchNs logout.profile.server (logout.dump codec) =
    some restored ∧ Continues restored logout

/-- What was put aside, and the session, is all that the answer is made of. -/
theorem answer_eq {before after : Logout} {cx : LogoutContext} {id : String}
    {r : Samlp2StatusResponse} (hbefore : Saml20.Logout.Waiting cx.toEnv before id r)
    (hafter : Saml20.Logout.Waiting cx.toEnv after id r) (asks : List Saml20.Logout.SloAsk) :
    let answer (logout : Logout) :=
      (Saml20.Logout.buildResponseMsg cx (asks.foldl (Saml20.Logout.ask cx) logout)).2.profile
    (answer after).remoteProviderId = (answer before).remoteProviderId ∧
      (answer after).response = (answer before).response := by
  dsimp only
  rw [(hbefore.foldl_ask asks).answer, (hafter.foldl_ask asks).answer]
  exact ⟨rfl, rfl⟩

end

/-! ### A provider that has refused the logout -/

/-- An identity provider waits for the other providers: the request of the first one has come over
SOAP. -/
def waiting (partialLogout : Bool) : LogoutObject where
  profile := { httpRequestMethod := .soap }
  initialRemoteProviderId := some "https://sp.example"
  initialHttpRequestMethod := .soap
  initialRequest := some (.samlp2LogoutRequest {})
  initialResponse := some (.samlp2LogoutResponse {})
  partialLogout

theorem nodesRead_waiting (partialLogout : Bool) :
    (waiting partialLogout).NodesRead emptyMessageCodec (dumpRegistry logoutClass)
      fun _ _ => none := by
  have hmembers : ∀ member ∈ (waiting partialLogout).members, ∀ node ∈ member.2.objects,
      ∃ name, (name, node) ∈ emptyMessages ∧ logoutClass.name ≠ "LassoSamlp2" ++ name := by
    simp [members, profileObject, ProfileObject.members, waiting, MemberValue.objects,
      emptyMessages, logoutClass]
  intro member hmember node hnode
  obtain ⟨name, hmessage, hne⟩ := hmembers member hmember node hnode
  exact (comesBack_emptyMessage hmessage hne).toReads

end LogoutObject

end Lasso
