import Lasso.Login
import Lasso.Profile.Dump

/-!
# The dump of a login

An identity provider stores a login between an authentication request and the answer to it. The
protocol profile is written and read by hand, by names that not every value has.

## Main definitions

* `LoginObject.dump`, `LoginObject.newFromDump` — the dump.
* `LoginObject.Restores` — the dump keeps what the answer depends on.

## Main results

* `LoginObject.newFromDump_dump` — what comes back.
* `LoginObject.restores_iff` — when it is enough.
-/

namespace Lasso

/-! ## The class -/

/-- The snippet of the protocol profile, which has no member. -/
def protocolProfileSnippet : Snippet where
  name := "ProtocolProfile"
  kind := .content
  field := none

/-- `schema_snippets` of `LassoLogin` -/
def loginSnippets : List Snippet := [
  Dump.content "AssertionArtifact" "assertionArtifact",
  Dump.content "NameIDPolicy" "nameIDPolicy",
  Dump.nodeInChild "Assertion" "assertion",
  Dump.content "RequestID" "request_id",
  { name := "LoginDumpVersion", kind := .attribute, field := none },
  protocolProfileSnippet]

/-- The `node_data` of `LassoLogin` -/
def loginData : NodeClassData where
  nodeName := "Login"
  ns := some lassoHref
  nsPrefix := some "lasso"
  snippets := some {
    snippets := loginSnippets
    jump_inside := by decide
    miss_ahead := by decide }

/-- The name of a protocol profile in a dump. -/
def LoginProtocolProfile.dumpName : LoginProtocolProfile → Option String
  | brwsArt => some "Artifact"
  | brwsPost => some "POST"
  | redirect => some "Redirect"
  | brwsLecp | none => Option.none

/-- The protocol profile with a name. -/
def LoginProtocolProfile.ofDumpName (name : String) : Option LoginProtocolProfile :=
  if name = "Artifact" then some brwsArt
  else if name = "POST" then some brwsPost
  else if name = "Redirect" then some redirect
  else Option.none

/-- The loop of `init_from_xml` over the children: the names of protocol profiles in them, as they
are stored one after the other. -/
def protocolProfileStores (node : XmlNode) : List Store :=
  node.children.filterMap fun child =>
    if child.elementName == some "ProtocolProfile" ∧
        (LoginProtocolProfile.ofDumpName child.textContent).isSome then
      some (.content "protocolProfile" child.textContent)
    else none

/-- The class `LassoLogin` with its `init_from_xml`. -/
def loginClass : WritableClass where
  name := "LassoLogin"
  data := loginData
  chain := [loginData, profileData]
  init := .after fun node rc => .ok (rc.map (· ++ protocolProfileStores node))
  chain_base := by decide
  data_head := rfl
  subtype_ns := by decide
  version_ns := by decide

/-! ## The dump -/

/-- A `LassoLogin` with the members that only its dump reads. `httpMethod` is the method of a service
provider for its request. -/
structure LoginObject extends Login where
  msgUrl : Option String := none
  msgBody : Option String := none
  assertion : Option LassoNode := none
  httpMethod : HttpMethod := .any

namespace LoginObject

variable (codec : NodeCodec LassoNode) (login : LoginObject)

/-- The `LassoProfile` of a login. -/
def profileObject : ProfileObject where
  toProfile := login.profile
  msgUrl := login.msgUrl
  msgBody := login.msgBody

/-- The members of a login. -/
def members : List (String × MemberValue LassoNode) :=
  login.profileObject.members ++ [
    ("assertionArtifact", .string login.assertionArtifact),
    ("nameIDPolicy", .string login.nameIdPolicy),
    ("assertion", .node login.assertion),
    ("request_id", .string login.requestId)]

/-- `lasso_login_dump` -/
def dump : XmlNode :=
  match buildXmlNode true loginClass (Rows.encodeMembers codec login.members) with
  | .element ns name attrs children =>
    .element ns name (setNsProp attrs { name := "LoginDumpVersion", value := "2" })
      (children ++ (login.protocolProfile.dumpName.map (newTextChild ns "ProtocolProfile")).toList)
  | node => node

/-- `lasso_login_new_from_dump` -/
def newFromDump (R : Registry) (searchNs : NsScope) (server : Option Server) (dump : XmlNode) :
    Option LoginObject :=
  (Lasso.newFromDump R searchNs loginClass dump).map fun object =>
    let profileObject := ProfileObject.ofNode codec server object
    { profile := profileObject.toProfile
      msgUrl := profileObject.msgUrl
      msgBody := profileObject.msgBody
      protocolProfile :=
        ((object.content "protocolProfile").bind LoginProtocolProfile.ofDumpName).getD .none
      assertionArtifact := object.content "assertionArtifact"
      nameIdPolicy := object.content "nameIDPolicy"
      assertion := (object.subnode "assertion").bind codec.decode
      requestId := object.content "request_id" }

/-- What is left of a login in its dump, besides what is left of its objects:
`LASSO_LOGIN_PROTOCOL_PROFILE_BRWS_LECP` has no name in it, and the members without a snippet are
those of a new object. -/
def dumped (server : Option Server) : LoginObject where
  profile := (login.profileObject.dumped codec server).toProfile
  msgUrl := login.msgUrl
  msgBody := login.msgBody
  protocolProfile :=
    if login.protocolProfile = .brwsLecp then .none else login.protocolProfile
  assertionArtifact := login.assertionArtifact
  nameIdPolicy := login.nameIdPolicy
  assertion := login.assertion.bind codec.reread
  requestId := login.requestId

/-! ## What comes back -/

section

variable {codec : NodeCodec LassoNode} {R : Registry} {searchNs : NsScope} {login : LoginObject}

/-- The elements of the objects in a login are read. -/
def NodesRead (codec : NodeCodec LassoNode) (R : Registry) (searchNs : NsScope)
    (login : LoginObject) : Prop :=
  ∀ member ∈ login.members, ∀ node ∈ member.2.objects, codec.Reads R searchNs node

/-- The objects in a login come back from their elements. -/
def NodesComeBack (codec : NodeCodec LassoNode) (R : Registry) (searchNs : NsScope)
    (login : LoginObject) : Prop :=
  ∀ member ∈ login.members, ∀ node ∈ member.2.objects, codec.ComesBack R searchNs node

theorem NodesComeBack.nodesRead (hback : login.NodesComeBack codec R searchNs) :
    login.NodesRead codec R searchNs :=
  fun member hmember node hnode => (hback member hmember node hnode).toReads

theorem loginClass_snippets : loginClass.snippets =
    (profileSnippets ++ loginSnippets.dropLast) ++ [protocolProfileSnippet] := rfl

theorem plain_loginClass : PlainSnippets loginClass.snippets where
  names := by decide
  any := by decide
  mandatory := by decide
  jumpOnMatch := by decide
  jumpOnMiss := by decide

theorem suitsAll_members (login : LoginObject) :
    Rows.suitsAll loginClass.snippets login.members = true := rfl

/-- The children of a dump: those of the members, and the one written by hand. -/
def rowValue (login : LoginObject) (snippet : Snippet) : Option (Rows.RowValue LassoNode) :=
  if snippet = protocolProfileSnippet then login.protocolProfile.dumpName.map .text
  else Rows.rowValue login.members snippet

theorem fits_rowValue (hreads : login.NodesRead codec R searchNs) :
    Rows.Fits codec R searchNs loginClass.snippets login.rowValue := by
  have hmembers : Rows.Fits codec R searchNs loginClass.snippets
      (Rows.rowValue login.members) :=
    .of_suitsAll plain_loginClass (by decide) (by decide) (suitsAll_members login) hreads
  refine ⟨plain_loginClass, hmembers.names, hmembers.fields, ?_, ?_⟩
  · intro snippet hmem text hvalue
    unfold rowValue at hvalue
    split_ifs at hvalue with hprotocol
    · rw [hprotocol]
      exact ⟨rfl, rfl⟩
    · exact hmembers.text snippet hmem text hvalue
  · intro snippet hmem node hvalue
    unfold rowValue at hvalue
    split_ifs at hvalue with hprotocol
    · cases hname : login.protocolProfile.dumpName <;> simp [hname] at hvalue
    · exact hmembers.node snippet hmem node hvalue

/-- The rows before the one that is written by hand. -/
def memberRows (login : LoginObject) : List (Snippet × Rows.RowValue LassoNode) :=
  Rows.rows (Rows.rowValue login.members) (profileSnippets ++ loginSnippets.dropLast)

theorem rows_rowValue (login : LoginObject) :
    Rows.rows login.rowValue loginClass.snippets = login.memberRows ++
      (login.protocolProfile.dumpName.map fun name =>
        (protocolProfileSnippet, .text name)).toList := by
  have hothers : ∀ snippet ∈ profileSnippets ++ loginSnippets.dropLast,
      snippet ≠ protocolProfileSnippet := by decide
  have hmembers : Rows.rows login.rowValue (profileSnippets ++ loginSnippets.dropLast) =
      login.memberRows := by
    unfold memberRows Rows.rows
    refine List.filterMap_congr fun snippet hmem => ?_
    rw [rowValue, if_neg (hothers snippet hmem)]
  rw [loginClass_snippets, Rows.rows, List.filterMap_append, ← Rows.rows, hmembers]
  cases hname : login.protocolProfile.dumpName <;> simp [rowValue, hname]

theorem dump_eq (codec : NodeCodec LassoNode) (login : LoginObject) :
    login.dump codec = .element (some lassoHref) "Login"
      [{ name := "LoginDumpVersion", value := "2" }]
      ((Rows.rows login.rowValue loginClass.snippets).map
        (Rows.rowElement codec (some lassoHref))) := by
  have hrows : Rows.rows (Rows.rowValue login.members) loginClass.snippets = login.memberRows := by
    rw [loginClass_snippets, Rows.rows, List.filterMap_append]
    exact List.append_nil _
  unfold dump
  rw [Rows.buildXmlNode_eq plain_loginClass (suitsAll_members login) rfl (by decide), hrows,
    rows_rowValue]
  dsimp only
  rw [List.map_append]
  cases login.protocolProfile.dumpName <;> rfl

theorem protocolProfileStores_rows (attrs : List XmlAttr) :
    protocolProfileStores (.element (some lassoHref) "Login" attrs
      ((Rows.rows login.rowValue loginClass.snippets).map
        (Rows.rowElement codec (some lassoHref)))) =
      (login.protocolProfile.dumpName.map (.content "protocolProfile")).toList := by
  have hmembers : (login.memberRows.map (Rows.rowElement codec (some lassoHref))).filterMap
      (fun child => if child.elementName == some "ProtocolProfile" ∧
          (LoginProtocolProfile.ofDumpName child.textContent).isSome then
        some (Store.content "protocolProfile" child.textContent) else none) = [] := by
    rw [List.filterMap_eq_nil_iff]
    intro child hchild
    obtain ⟨row, hrow, rfl⟩ := List.mem_map.mp hchild
    obtain ⟨children, hrow'⟩ := Rows.rowElement_eq codec (some lassoHref) row
    have hname : ∀ snippet ∈ profileSnippets ++ loginSnippets.dropLast,
        snippet.name ≠ "ProtocolProfile" := by decide
    rw [if_neg]
    rw [hrow']
    simp [XmlNode.elementName, hname row.1 (Rows.mem_rows.mp hrow).1]
  unfold protocolProfileStores
  rw [rows_rowValue, XmlNode.children, List.map_append, List.filterMap_append, hmembers]
  cases login.protocolProfile <;> rfl

theorem run_dump (hreads : login.NodesRead codec R searchNs) :
    (ParseTask.mk loginClass.toLassoNodeClass ⟨[], login.dump codec⟩).run R searchNs =
      .ok (.ok ((Rows.rows login.rowValue loginClass.snippets).flatMap (Rows.rowStores codec) ++
        (login.protocolProfile.dumpName.map (.content "protocolProfile")).toList)) := by
  have himpl : implInit R searchNs loginClass.toLassoNodeClass ⟨[], login.dump codec⟩
      ((PlacedNode.mk [] (login.dump codec)).children.map (·.result R searchNs)) =
        .ok (.ok ([] ++
          (Rows.rows login.rowValue loginClass.snippets).flatMap (Rows.rowStores codec))) := by
    rw [dump_eq]
    exact (fits_rowValue hreads).implInit_rows rfl (by decide) rfl rfl rfl rfl
  rw [ParseTask.run, initFromXml]
  change implInit R searchNs loginClass.toLassoNodeClass _ _ >>= _ = _
  have hstores : protocolProfileStores (login.dump codec) =
      (login.protocolProfile.dumpName.map (Store.content "protocolProfile")).toList := by
    rw [dump_eq]
    exact protocolProfileStores_rows _
  rw [himpl, ← hstores]
  rfl


/-- The store of the protocol profile writes to no other member. -/
theorem protocolProfile_stores {field : String} (hfield : field ≠ "protocolProfile")
    (name : Option String) :
    (name.map (Store.content "protocolProfile")).toList.filterMap (Store.contentOf field) = [] ∧
      (name.map (Store.content "protocolProfile")).toList.filterMap (Store.nodeOf field) = [] := by
  cases name <;> simp [Store.contentOf, Store.nodeOf, hfield.symm]

theorem rowValue_profileSnippets (login : LoginObject) :
    ∀ snippet ∈ profileSnippets, snippet ∈ loginClass.snippets ∧
      login.rowValue snippet = Rows.rowValue login.profileObject.members snippet := by
  have hmem : ∀ snippet ∈ profileSnippets,
      snippet ∈ loginClass.snippets ∧ snippet ≠ protocolProfileSnippet := by decide
  have hvalue : ∀ snippet ∈ profileSnippets,
      Rows.rowValue login.members snippet = Rows.rowValue login.profileObject.members snippet := by
    simp only [profileSnippets, List.forall_mem_cons]
    exact ⟨rfl, rfl, rfl, rfl, rfl, rfl, rfl, rfl, rfl, rfl, by simp⟩
  intro snippet hsnippet
  refine ⟨(hmem snippet hsnippet).1, ?_⟩
  rw [rowValue, if_neg (hmem snippet hsnippet).2, hvalue snippet hsnippet]

/-- The names of the protocol profiles that have one. -/
theorem ofDumpName_dumpName (protocolProfile : LoginProtocolProfile) :
    (protocolProfile.dumpName.bind LoginProtocolProfile.ofDumpName).getD .none =
      if protocolProfile = .brwsLecp then .none else protocolProfile := by
  cases protocolProfile <;> decide

/-- A dump is read into what it keeps. -/
theorem newFromDump_dump (hR : Registered R loginClass)
    (hreads : login.NodesRead codec R searchNs) (server : Option Server) :
    newFromDump codec R searchNs server (login.dump codec) =
      some (login.dumped codec server) := by
  have hfits := fits_rowValue hreads
  let extra := (login.protocolProfile.dumpName.map (Store.content "protocolProfile")).toList
  let object := ParsedNode.mk loginClass.name
    ((Rows.rows login.rowValue loginClass.snippets).flatMap (Rows.rowStores codec) ++ extra)
  have hobject : Lasso.newFromDump R searchNs loginClass (login.dump codec) = some object := by
    have hrun := run_dump hreads
    rw [dump_eq] at hrun ⊢
    exact newFromDump_eq hR (by simp) hrun
  have hfields : ∀ snippet ∈ loginClass.snippets, ∀ field ∈ snippet.field,
      field ≠ "protocolProfile" := by decide
  have hextra {snippet : Snippet} {field : String} (hsnippet : snippet ∈ loginClass.snippets)
      (hfield : snippet.field = some field) :=
    protocolProfile_stores (hfields snippet hsnippet field hfield) login.protocolProfile.dumpName
  have hprofile : ProfileObject.ofNode codec server object = login.profileObject.dumped codec server :=
    ProfileObject.ofNode_rows hfits (rowValue_profileSnippets login)
      (fun snippet hsnippet field hfield =>
        hextra (rowValue_profileSnippets login snippet hsnippet).1 hfield) server
  have hcontent (name field : String) (h : Dump.content name field ∈ loginClass.snippets)
      (text : Option String)
      (hrow : login.rowValue (Dump.content name field) = text.map .text) :
      object.content field = text :=
    hfits.content_rowStores h rfl hrow (hextra h rfl).1
  have hassertion : (object.subnode "assertion").bind codec.decode =
      login.assertion.bind codec.reread :=
    have h : Dump.nodeInChild "Assertion" "assertion" ∈ loginClass.snippets := by decide
    hfits.subnode_rowStores h rfl rfl (hextra h rfl).2
  have hprotocol : object.content "protocolProfile" = login.protocolProfile.dumpName := by
    have hnone : ∀ snippet ∈ loginClass.snippets, snippet.field ≠ some "protocolProfile" := by
      decide
    rw [ParsedNode.content_eq_getLast?, ParsedNode.contents, ParsedNode.stores,
      List.filterMap_append, Rows.contentOf_rowStores_eq_nil hnone, List.nil_append]
    cases hname : login.protocolProfile.dumpName <;> simp [extra, hname, Store.contentOf]
  unfold newFromDump
  rw [hobject, Option.map_some]
  dsimp only
  rw [hprofile, hassertion, hprotocol, ofDumpName_dumpName,
    hcontent "AssertionArtifact" "assertionArtifact" (by decide) login.assertionArtifact rfl,
    hcontent "NameIDPolicy" "nameIDPolicy" (by decide) login.nameIdPolicy rfl,
    hcontent "RequestID" "request_id" (by decide) login.requestId rfl]
  rfl

/-! ## What a restored login goes on with -/

/-- What an application gives to a restored login: the principal's identity and session, and its own
hints. -/
def resume (login : LoginObject) (before : Profile) : LoginObject :=
  { login with profile := { login.profile with
    identity := before.identity
    session := before.session
    signatureHint := before.signatureHint
    signatureVerifyHint := before.signatureVerifyHint } }

/-- A restored login is the one that was dumped, as far as the answer depends on it. What only one
call works with, `soapRequestMsg` and `saml2Assertion`, has not been set between the request and the
answer to it. -/
structure Continues (restored login : LoginObject) : Prop where
  protocolProfile : restored.protocolProfile = login.protocolProfile
  httpRequestMethod : restored.profile.httpRequestMethod = login.profile.httpRequestMethod
  httpMethod : restored.httpMethod = login.httpMethod
  nameIdPolicy : restored.nameIdPolicy = login.nameIdPolicy
  assertionArtifact : restored.assertionArtifact = login.assertionArtifact
  request : restored.profile.request = login.profile.request
  response : restored.profile.response = login.profile.response
  nameIdentifier : restored.profile.nameIdentifier = login.profile.nameIdentifier
  remoteProviderId : restored.profile.remoteProviderId = login.profile.remoteProviderId
  msgRelayState : restored.profile.msgRelayState = login.profile.msgRelayState
  signatureStatus : restored.profile.signatureStatus = login.profile.signatureStatus
  resume_eq : login.soapRequestMsg = none → login.saml2Assertion = none →
    restored.resume login.profile = login

/-- The dump of a login restores it. -/
def Restores (codec : NodeCodec LassoNode) (R : Registry) (searchNs : NsScope)
    (login : LoginObject) : Prop :=
  ∃ restored, newFromDump codec R searchNs login.profile.server (login.dump codec) =
    some restored ∧ Continues restored login

/-- The objects in a login, one by one. -/
theorem NodesComeBack.reread (hback : login.NodesComeBack codec R searchNs) :
    login.profile.request.bind codec.reread = login.profile.request ∧
      login.profile.response.bind codec.reread = login.profile.response ∧
      login.profile.nameIdentifier.bind codec.reread = login.profile.nameIdentifier ∧
      login.assertion.bind codec.reread = login.assertion := by
  have hnode (field : String) (node : Option LassoNode)
      (hmem : (field, .node node) ∈ login.members) : node.bind codec.reread = node :=
    NodeCodec.bind_reread fun value hvalue =>
      hback _ hmem value (by simp [MemberValue.objects, Option.mem_def.mp hvalue])
  refine ⟨hnode "request" _ ?_, hnode "response" _ ?_, hnode "nameIdentifier" _ ?_,
    hnode "assertion" _ ?_⟩
  all_goals simp [members, ProfileObject.members, profileObject]

end

/-! ### A request over PAOS -/

/-- An identity provider has received an authentication request, whose response is to have a
protocol profile. -/
def requested (protocolProfile : LoginProtocolProfile) (signatureStatus : Rc) : LoginObject where
  profile := {
    request := some (.samlp2AuthnRequest {})
    remoteProviderId := some "https://sp.example"
    httpRequestMethod := .redirect
    signatureStatus }
  protocolProfile
  requestId := some "_1"

theorem nodesComeBack_requested (protocolProfile : LoginProtocolProfile) (signatureStatus : Rc) :
    (requested protocolProfile signatureStatus).NodesComeBack emptyMessageCodec
      (dumpRegistry loginClass) fun _ _ => none := by
  have hmembers : ∀ member ∈ (requested protocolProfile signatureStatus).members,
      ∀ node ∈ member.2.objects, node = .samlp2AuthnRequest {} := by
    simp [members, profileObject, ProfileObject.members, requested, MemberValue.objects]
  intro member hmember node hnode
  rw [hmembers member hmember node hnode]
  have hrequest : ("AuthnRequest", .samlp2AuthnRequest {}) ∈ emptyMessages :=
    List.mem_cons_self
  exact comesBack_emptyMessage hrequest (by decide)

end LoginObject

end Lasso
