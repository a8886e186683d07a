import Lasso.Profile
import Lasso.Xml.Rows

/-!
# The dump of a profile

The part of a dump that the profile objects share: the snippets of `LassoProfile`, and what the
members hold. The server, the session and the identity are not dumped; an application has them from
elsewhere, and gives them to a restored object again.

## Main definitions

* `profileData` — the snippets of `LassoProfile`.
* `ProfileObject.dumped` — what is left of a profile in its dump.
* `newFromDump` — `lasso_node_new_from_dump`, for a class of dumps.
-/

namespace Lasso

/-- The values of `LassoHttpMethod`. -/
def HttpMethod.toInt : HttpMethod → Int
  | none => -1
  | any => 0
  | idpInitiated => 1
  | get => 2
  | post => 3
  | redirect => 4
  | soap => 5
  | artifactGet => 6
  | artifactPost => 7
  | paos => 8

/-- The method with a value; a number that has none is no method. -/
def HttpMethod.ofInt (value : Int) : HttpMethod :=
  ([any, idpInitiated, get, post, redirect, soap, artifactGet, artifactPost, paos].find?
    (·.toInt = value)).getD none

/-- A method comes back from its value in a dump, if it is one: the value of
`LASSO_HTTP_METHOD_NONE` is negative, and read as zero. -/
theorem HttpMethod.ofInt_readInteger (method : HttpMethod) :
    HttpMethod.ofInt (readInteger false (toString method.toInt)) =
      if method = .none then .any else method := by
  cases method <;> decide +kernel

/-! ## The snippets -/

namespace Dump

/-- A snippet for a string. -/
def content (name field : String) : Snippet where
  name
  kind := .content
  field := some field

/-- A snippet for an object. -/
def nodeInChild (name field : String) : Snippet where
  name
  kind := .nodeInChild
  field := some field

/-- A snippet for an `int`. -/
def integer (name field : String) : Snippet where
  name
  kind := .content
  field := some field
  integer := true

theorem rowOfMember_integer {α : Type} (name field : String) (value : Int) :
    Rows.rowOfMember (integer name field) (.integer value : MemberValue α) =
      (some (toString value)).map .text := by
  simp [Rows.rowOfMember, Snippet.text, integer]

end Dump

/-- `schema_snippets` of `LassoProfile` -/
def profileSnippets : List Snippet := [
  Dump.nodeInChild "Request" "request",
  Dump.nodeInChild "Response" "response",
  Dump.nodeInChild "NameIdentifier" "nameIdentifier",
  Dump.content "RemoteProviderID" "remote_providerID",
  Dump.content "MsgUrl" "msg_url",
  Dump.content "MsgBody" "msg_body",
  Dump.content "MsgRelayState" "msg_relayState",
  Dump.integer "HttpRequestMethod" "http_request_method",
  Dump.content "Artifact" "artifact",
  Dump.content "ArtifactMessage" "artifact_message"]

/-- The `node_data` of `LassoProfile` -/
def profileData : NodeClassData where
  nodeName := "Profile"
  ns := some lassoHref
  nsPrefix := some "lasso"
  snippets := some {
    snippets := profileSnippets
    jump_inside := by decide
    miss_ahead := by decide }

/-! ## Reading a dump -/

/-- A class that the parser comes to by the name of its elements. -/
structure Registered (R : Registry) (cls : WritableClass) : Prop where
  types : R.types cls.name = some cls.toLassoNodeClass
  typename : typeNameFromHrefAndNodename R lassoHref cls.nameData.nodeName = some cls.name

/-- `lasso_node_new_from_dump`, for an object of a class; a dump is taken for its element. -/
def newFromDump (R : Registry) (searchNs : NsScope) (cls : WritableClass) (dump : XmlNode) :
    Option ParsedNode :=
  match newWithType R searchNs ⟨[], dump⟩ none with
  | .ok (some object) => if object.className = cls.name then some object else none
  | _ => none

/-- The parser comes to the class by the name of the element. -/
theorem Registered.classFor_eq {R : Registry} {searchNs : NsScope} {cls : WritableClass}
    (hR : Registered R cls) {attrs : List XmlAttr} {children : List XmlNode}
    (hattrs : ∀ attr ∈ attrs, attr.ns = none) :
    classFor R searchNs ⟨[], .element (some lassoHref) cls.nameData.nodeName attrs children⟩ none =
      some cls.toLassoNodeClass := by
  have hxsi : xsiTypename R searchNs []
      (.element (some lassoHref) cls.nameData.nodeName attrs children) = none := by
    have hprop : attrs.find? (fun attr => attr.name == "type" && attr.ns == some xsiHref) =
        none := by
      rw [List.find?_eq_none]
      intro attr hattr
      simp [hattrs attr hattr]
    simp [xsiTypename, XmlNode.getNsProp, XmlNode.attrs, hprop]
  have hname : typenameByName R
      (.element (some lassoHref) cls.nameData.nodeName attrs children) = some cls.name :=
    hR.typename
  rw [classFor, Option.none_or, autoTypename, hxsi, Option.none_or, hname, Option.bind_some,
    hR.types]

/-- An element with the name of a class is read into a new object of it. -/
theorem newFromDump_eq {R : Registry} {searchNs : NsScope} {cls : WritableClass}
    (hR : Registered R cls) {attrs : List XmlAttr} {children : List XmlNode}
    (hattrs : ∀ attr ∈ attrs, attr.ns = none) {stores : List Store}
    (hrun : (ParseTask.mk cls.toLassoNodeClass
        ⟨[], .element (some lassoHref) cls.nameData.nodeName attrs children⟩).run R searchNs =
      .ok (.ok stores)) :
    newFromDump R searchNs cls (.element (some lassoHref) cls.nameData.nodeName attrs children) =
      some (.mk cls.name stores) := by
  unfold newFromDump
  rw [newWithType_eq, hR.classFor_eq hattrs]
  dsimp only
  rw [hrun]
  simp [Functor.map, Except.map, Except.toOption, ParsedNode.className]

/-! ## A registry for examples -/

/-- Messages without contents, by the names of their elements. -/
def emptyMessages : List (String × LassoNode) := [
  ("AuthnRequest", .samlp2AuthnRequest {}),
  ("LogoutRequest", .samlp2LogoutRequest {}),
  ("LogoutResponse", .samlp2LogoutResponse {})]

theorem noSnippets_jump_inside (i : Nat) (h : i < ([] : List Snippet).length) :
    (([] : List Snippet)[i].jumpOnMatch || ([] : List Snippet)[i].jumpOnMiss) = true →
      0 ≤ i + ([] : List Snippet)[i].jumpOffset ∧
        i + ([] : List Snippet)[i].jumpOffset ≤ ([] : List Snippet).length :=
  absurd h (Nat.not_lt_zero i)

theorem noSnippets_miss_ahead :
    ∀ snippet ∈ ([] : List Snippet), snippet.jumpOnMiss = true → 0 < snippet.jumpOffset := by simp

/-- The `node_data` of a message, without the snippets that one without contents does not use. -/
def emptyMessageData (nodeName : String) : NodeClassData where
  nodeName
  ns := some saml2ProtocolHref
  nsPrefix := some "samlp"
  snippets := some {
    snippets := []
    jump_inside := noSnippets_jump_inside
    miss_ahead := noSnippets_miss_ahead }

/-- The class of a message. -/
def emptyMessageClass (nodeName : String) : LassoNodeClass where
  name := "LassoSamlp2" ++ nodeName
  chain := [emptyMessageData nodeName]
  chain_base := fun _ => ⟨_, List.mem_singleton_self _, rfl⟩

/-- The types that the dump of a profile with such messages needs. -/
def dumpTypes (cls : WritableClass) : List LassoNodeClass :=
  cls.toLassoNodeClass :: emptyMessages.map (emptyMessageClass ·.1)

/-- The registry of these types. -/
def dumpRegistry (cls : WritableClass) : Registry where
  types typename := (dumpTypes cls).find? (·.name == typename)
  mapping _ _ := none
  wsfPrefix _ _ := none
  types_name typename _ h :=
    beq_iff_eq.mp (List.find?_some (p := fun cls : LassoNodeClass => cls.name == typename) h)

theorem registered_dumpRegistry {cls : WritableClass}
    (hname : cls.name = "Lasso" ++ cls.nameData.nodeName)
    (hother : cls.nameData.nodeName ≠ "SvcMD") : Registered (dumpRegistry cls) cls := by
  have htypes : (dumpRegistry cls).types cls.name = some cls.toLassoNodeClass := by
    simp [dumpRegistry, dumpTypes]
  have hmapping : (dumpRegistry cls).mapping lassoHref cls.nameData.nodeName = none := rfl
  refine ⟨htypes, ?_⟩
  rw [hname] at htypes
  simp [typeNameFromHrefAndNodename, prefixFromHrefAndNodename, hname, hother, htypes, hmapping]

/-- The name of the element of a message. -/
def emptyMessageName : LassoNode → String
  | .samlp2LogoutRequest _ => "LogoutRequest"
  | .samlp2LogoutResponse _ => "LogoutResponse"
  | _ => "AuthnRequest"

/-- How a message without contents is written and read. -/
def emptyMessageCodec : NodeCodec LassoNode where
  encode node := .element (some saml2ProtocolHref) (emptyMessageName node) [] []
  image node := some (.mk ("LassoSamlp2" ++ emptyMessageName node) [])
  decode object :=
    (emptyMessages.find? fun message => "LassoSamlp2" ++ message.1 == object.className).map (·.2)

/-- The element of a message leads to the class of it, which writes nothing. -/
theorem classFor_emptyMessage {cls : WritableClass} {message : String × LassoNode}
    (hmessage : message ∈ emptyMessages) (hname : cls.name ≠ "LassoSamlp2" ++ message.1)
    (path : List Nat) :
    classFor (dumpRegistry cls) (fun _ _ => none) ⟨path, emptyMessageCodec.encode message.2⟩ none =
      some (emptyMessageClass message.1) := by
  have hfind : ∀ message ∈ emptyMessages,
      (emptyMessages.map (emptyMessageClass ·.1)).find? (·.name == "LassoSamlp2" ++ message.1) =
        some (emptyMessageClass message.1) := by
    simp only [emptyMessages, List.forall_mem_cons]
    exact ⟨rfl, rfl, rfl, by simp⟩
  have htypename : ∀ message ∈ emptyMessages,
      autoTypename (dumpRegistry cls) (fun _ _ => none) path
        (emptyMessageCodec.encode message.2) = (some ("LassoSamlp2" ++ message.1)).filter
          fun name => ((dumpRegistry cls).types name).isSome := by
    simp only [emptyMessages, List.forall_mem_cons]
    exact ⟨rfl, rfl, rfl, by simp⟩
  have htypes : (dumpRegistry cls).types ("LassoSamlp2" ++ message.1) =
      some (emptyMessageClass message.1) :=
    (List.find?_cons_of_neg (by simpa using hname)).trans (hfind message hmessage)
  rw [classFor, Option.none_or, htypename message hmessage, Option.filter_some, htypes]
  exact htypes

theorem comesBack_emptyMessage {cls : WritableClass} {message : String × LassoNode}
    (hmessage : message ∈ emptyMessages) (hname : cls.name ≠ "LassoSamlp2" ++ message.1) :
    emptyMessageCodec.ComesBack (dumpRegistry cls) (fun _ _ => none) message.2 := by
  have hback : ∀ message ∈ emptyMessages,
      emptyMessageCodec.image message.2 = some (.mk ("LassoSamlp2" ++ message.1) []) ∧
      emptyMessageCodec.reread message.2 = some message.2 := by
    simp only [emptyMessages, List.forall_mem_cons]
    exact ⟨⟨rfl, rfl⟩, ⟨rfl, rfl⟩, ⟨rfl, rfl⟩, by simp⟩
  have hrun : ∀ path, ∀ message ∈ emptyMessages,
      (ParseTask.mk (emptyMessageClass message.1)
        ⟨path, emptyMessageCodec.encode message.2⟩).run (dumpRegistry cls) (fun _ _ => none) =
          .ok (.ok []) := by
    intro path
    simp only [emptyMessages, List.forall_mem_cons]
    exact ⟨rfl, rfl, rfl, by simp⟩
  obtain ⟨himage, hreread⟩ := hback message hmessage
  refine ⟨⟨rfl, fun path => ?_⟩, hreread⟩
  rw [newWithType_eq, classFor_emptyMessage hmessage hname, himage]
  dsimp only
  rw [hrun path message hmessage]
  rfl

namespace ProfileObject

variable (codec : NodeCodec LassoNode) (profile : ProfileObject)

/-- The members of a profile. -/
def members : List (String × MemberValue LassoNode) := [
  ("request", .node profile.request),
  ("response", .node profile.response),
  ("nameIdentifier", .node profile.nameIdentifier),
  ("remote_providerID", .string profile.remoteProviderId),
  ("msg_url", .string profile.msgUrl),
  ("msg_body", .string profile.msgBody),
  ("msg_relayState", .string profile.msgRelayState),
  ("http_request_method", .integer profile.httpRequestMethod.toInt),
  ("artifact", .string profile.artifact),
  ("artifact_message", .string (profile.artifactMessage.map String.ofList))]

/-- A new profile with a server and the members that were read. -/
def ofNode (server : Option Server) (object : ParsedNode) : ProfileObject where
  server
  request := (object.subnode "request").bind codec.decode
  response := (object.subnode "response").bind codec.decode
  nameIdentifier := (object.subnode "nameIdentifier").bind codec.decode
  remoteProviderId := object.content "remote_providerID"
  msgUrl := object.content "msg_url"
  msgBody := object.content "msg_body"
  msgRelayState := object.content "msg_relayState"
  httpRequestMethod :=
    .ofInt (((object.content "http_request_method").map (readInteger false)).getD 0)
  artifact := object.content "artifact"
  artifactMessage := (object.content "artifact_message").map String.toList

/-- What is left of a profile in its dump, besides what is left of its objects: the method
`LASSO_HTTP_METHOD_NONE` becomes zero, and the members without a snippet are those of a new
object. -/
def dumped (server : Option Server) : ProfileObject where
  server
  request := profile.request.bind codec.reread
  response := profile.response.bind codec.reread
  nameIdentifier := profile.nameIdentifier.bind codec.reread
  remoteProviderId := profile.remoteProviderId
  msgUrl := profile.msgUrl
  msgBody := profile.msgBody
  msgRelayState := profile.msgRelayState
  httpRequestMethod :=
    if profile.httpRequestMethod = .none then .any else profile.httpRequestMethod
  artifact := profile.artifact
  artifactMessage := profile.artifactMessage

variable {codec profile}

/-- The part of an object that the snippets of `LassoProfile` read. -/
theorem ofNode_rows {R : Registry} {searchNs : NsScope} {snippets : List Snippet}
    {value : Snippet → Option (Rows.RowValue LassoNode)} {className : String}
    (h : Rows.Fits codec R searchNs snippets value)
    (hvalue : ∀ snippet ∈ profileSnippets,
      snippet ∈ snippets ∧ value snippet = Rows.rowValue profile.members snippet)
    {extra : List Store} (hextra : ∀ snippet ∈ profileSnippets, ∀ field ∈ snippet.field,
      extra.filterMap (Store.contentOf field) = [] ∧ extra.filterMap (Store.nodeOf field) = [])
    (server : Option Server) :
    ofNode codec server (.mk className
        ((Rows.rows value snippets).flatMap (Rows.rowStores codec) ++ extra)) =
      profile.dumped codec server := by
  have htext {snippet : Snippet} {field : String} {text : Option String}
      (hmem : snippet ∈ profileSnippets) (hfield : snippet.field = some field)
      (hrow : Rows.rowValue profile.members snippet = text.map .text) :
      (ParsedNode.mk className ((Rows.rows value snippets).flatMap (Rows.rowStores codec) ++
        extra)).content field = text :=
    h.content_rowStores (hvalue snippet hmem).1 hfield ((hvalue snippet hmem).2.trans hrow)
      (hextra snippet hmem field hfield).1
  have hnode {snippet : Snippet} {field : String} {node : Option LassoNode}
      (hmem : snippet ∈ profileSnippets) (hfield : snippet.field = some field)
      (hrow : Rows.rowValue profile.members snippet = node.map .node) :
      ((ParsedNode.mk className ((Rows.rows value snippets).flatMap (Rows.rowStores codec) ++
        extra)).subnode field).bind codec.decode = node.bind codec.reread :=
    h.subnode_rowStores (hvalue snippet hmem).1 hfield ((hvalue snippet hmem).2.trans hrow)
      (hextra snippet hmem field hfield).2
  have hmethod : Rows.rowValue profile.members
      (Dump.integer "HttpRequestMethod" "http_request_method") =
        (some (toString profile.httpRequestMethod.toInt)).map .text :=
    Dump.rowOfMember_integer _ _ _
  have hartifact : ((profile.artifactMessage.map String.ofList).map String.toList) =
      profile.artifactMessage := by
    cases profile.artifactMessage <;> simp
  have hcontent (name field : String) (h : Dump.content name field ∈ profileSnippets)
      (text : Option String)
      (hrow : Rows.rowValue profile.members (Dump.content name field) = text.map .text) :=
    htext h rfl hrow
  have hobject (name field : String) (h : Dump.nodeInChild name field ∈ profileSnippets)
      (node : Option LassoNode)
      (hrow : Rows.rowValue profile.members (Dump.nodeInChild name field) = node.map .node) :=
    hnode h rfl hrow
  unfold ofNode dumped
  rw [hobject "Request" "request" (by decide) profile.request rfl,
    hobject "Response" "response" (by decide) profile.response rfl,
    hobject "NameIdentifier" "nameIdentifier" (by decide) profile.nameIdentifier rfl,
    hcontent "RemoteProviderID" "remote_providerID" (by decide) profile.remoteProviderId rfl,
    hcontent "MsgUrl" "msg_url" (by decide) profile.msgUrl rfl,
    hcontent "MsgBody" "msg_body" (by decide) profile.msgBody rfl,
    hcontent "MsgRelayState" "msg_relayState" (by decide) profile.msgRelayState rfl,
    htext (by decide) rfl hmethod,
    hcontent "Artifact" "artifact" (by decide) profile.artifact rfl,
    hcontent "ArtifactMessage" "artifact_message" (by decide)
      (profile.artifactMessage.map String.ofList) rfl, hartifact]
  rw [Option.map_some, Option.getD_some, HttpMethod.ofInt_readInteger]

end ProfileObject

end Lasso
