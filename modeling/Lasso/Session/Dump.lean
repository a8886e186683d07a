import Lasso.Session

/-!
# The dump of a session

`getXmlNode` writes the tables of a session into an element, `initFromXml` reads them back into a
session. The assertions bring their index entries with them when they are read, and the entries of
the index are read after them. How the nodes themselves are written and read is left to a codec.
The line breaks that xmlsec puts between elements are not modelled, since no reader looks at them.

## Main definitions

* `SessionCodec` — what the dump rests on.
* `Session.getXmlNode`, `Session.initFromXml` — the methods of `LassoSession`.
-/

namespace Lasso

/-- An element node. -/
abbrev XmlElement := { node : XmlNode // node.isElement = true }

/-- The functions that the dump calls on the nodes of a session. -/
structure SessionCodec extends Env where
  /-- `lasso_node_new_from_xmlNode` -/
  newFromXmlNode : XmlNode → Option LassoNode
  /-- `lasso_node_get_xmlNode`, given whether it is for a dump -/
  getXmlNode : LassoNode → Bool → XmlElement
  /-- `lasso_xmlnode_to_string` -/
  xmlnodeToString : XmlNode → Bytes
  /-- `xmlSecBase64Encode` -/
  base64Encode : Bytes → Bytes
  /-- `xmlParseMemory`, and the root element of the document -/
  xmlParseMemory : Bytes → Option XmlNode
  /-- the order in which `g_hash_table_foreach` visits the keys of a table -/
  foreachOrder : List String → List String

/-- `xmlNode_to_base64` -/
def xmlNodeToBase64 (codec : SessionCodec) (node : XmlNode) : Bytes :=
  codec.base64Encode (codec.xmlnodeToString node)

/-- `base64_to_xmlNode` -/
def base64ToXmlNode (codec : SessionCodec) (buffer : Bytes) : Option XmlNode :=
  let (size, decoded) := codec.base64Decode buffer (4 * buffer.length + 2)
  if size < 0 then none else codec.xmlParseMemory (decoded.take size.toNat)

/-- `xmlSetProp`: an attribute without a value reads as the empty string. -/
def xmlProp (name : String) (value : Option String) : XmlAttr :=
  { name := name, value := value.getD "" }

namespace XmlNode

/-- `xmlNodeGetContent` of an element that contains no elements. -/
def getContent (node : XmlNode) : Bytes :=
  node.children.flatMap fun
    | text content => content.toList
    | cdata content => content.toList
    | _ => []

end XmlNode

namespace Session

variable (codec : SessionCodec)

/-! ## Writing -/

/-- `add_assertion_childnode`, `add_status_childnode`: the element of an object under its key. -/
def objectChildnode (name key : String) (value : Option LassoNode) : XmlNode :=
  .element (some lassoHref) name [xmlProp "RemoteProviderID" (some key)]
    (value.toList.map fun value => (codec.getXmlNode value true).val)

/-- `add_assertion_by_id` -/
def assertionByIdChildnode (key : String) (value : XmlNode) : XmlNode :=
  .element (some lassoHref) "Assertion" [xmlProp "ID" (some key)]
    [.text (String.ofList (xmlNodeToBase64 codec value))]

/-- One turn of the loop in `xmlnode_add_assertion_nid_and_session_indexes`. -/
def nidAndSessionIndexChildnode (key : String) (e : NidAndSessionIndex) : XmlNode :=
  .element (some lassoHref) "NidAndSessionIndex"
    ([xmlProp "ProviderID" (some key), xmlProp "AssertionID" e.assertionId] ++
      (e.sessionIndex.toList.map fun sessionIndex => xmlProp "SessionIndex" (some sessionIndex)))
    [(codec.getXmlNode e.nameId false).val]

/-- `g_hash_table_foreach` with a function that adds children. -/
def foreachChildnode {β : Type} (table : AList fun _ : String => β)
    (childnodes : String → β → List XmlNode) : List XmlNode :=
  (codec.foreachOrder table.keys).flatMap fun key =>
    ((table.lookup key).map (childnodes key)).getD []

/-- `get_xmlNode` -/
def getXmlNode (s : Session) : XmlNode :=
  .element (some lassoHref) "Session" [xmlProp "Version" (some "2")]
    (foreachChildnode codec s.assertions (fun key value =>
        [objectChildnode codec "Assertion" key (some value)]) ++
      foreachChildnode codec s.status (fun key value =>
        [objectChildnode codec "Status" key value]) ++
      foreachChildnode codec s.assertionsById (fun key value =>
        [assertionByIdChildnode codec key value]) ++
      foreachChildnode codec s.nidAndSessionIndexes (fun key value =>
        value.map (nidAndSessionIndexChildnode codec key)))

/-! ## Reading -/

/-- `init_from_xml_nid_and_session_index` -/
def initFromXmlNidAndSessionIndex (s : Session) (node : XmlNode) : Session :=
  match node.getProp "ProviderID", node.getProp "AssertionID" with
  | some providerId, some assertionId =>
    match node.firstElement.bind codec.newFromXmlNode with
    | some nameId =>
      s.addNidAndSessionIndex providerId
        { nameId, assertionId := some assertionId, sessionIndex := node.getProp "SessionIndex" }
    | none => s
  | _, _ => s

/-- The branch of `init_from_xml` for an Assertion element. -/
def initFromXmlAssertion (s : Session) (t : XmlNode) : Session :=
  match t.firstElement with
  | some n =>
    match t.getProp "RemoteProviderID" with
    | some providerId =>
      match codec.newFromXmlNode n with
      | some assertion =>
        let s := (s.addAssertionSimple codec.toEnv (some providerId) assertion).2
        -- automatic upgrade from old session serialization to the new
        (s.addAssertionNidAndSessionIndex providerId assertion).2
      | none => s
    | none => s
  | none =>
    match t.getProp "ID" with
    | some assertionId =>
      match base64ToXmlNode codec t.getContent with
      | some assertion => (s.addAssertionWithId (some assertionId) assertion).2
      | none => s
    | none => s

/-- The branch of `init_from_xml` for a Status element. -/
def initFromXmlStatus (s : Session) (t : XmlNode) : Session :=
  match t.firstElement, t.getProp "RemoteProviderID" with
  -- the attribute is taken for granted: its value is the key of the table
  | some n, some providerId =>
    { s with status := s.status.insert providerId (codec.newFromXmlNode n) }
  | _, _ => s

/-- One turn of the loop in `init_from_xml`. -/
def initFromXmlChild (s : Session) (t : XmlNode) : Session :=
  let s := if t.elementName = some "Assertion" then s.initFromXmlAssertion codec t else s
  let s := if t.elementName = some "Status" then s.initFromXmlStatus codec t else s
  if t.isElementNode "NidAndSessionIndex" lassoHref then s.initFromXmlNidAndSessionIndex codec t
  else s

/-- `init_from_xml` -/
def initFromXml (s : Session) (xmlnode : XmlNode) : Session :=
  xmlnode.children.foldl (initFromXmlChild codec) s

/-- `lasso_session_new_from_dump`, given the root element of the dump. -/
def restore (xmlnode : XmlNode) : Session := initFromXml codec {} xmlnode

/-! ## Runs -/

/-- The operations on a session. -/
inductive Event where
  | addAssertion (providerId : Option String) (assertion : LassoNode)
  | addAssertionWithId (assertionId : Option String) (assertion : XmlNode)
  | addStatus (providerId : Option String) (status : LassoNode)
  | removeAssertion (providerId : Option String)
  | removeStatus (providerId : Option String)
  | restore (dump : XmlNode)

/-- The session after an operation. -/
def step (s : Session) : Event → Session
  | .addAssertion providerId assertion => (s.addAssertion codec.toEnv providerId assertion).2
  | .addAssertionWithId assertionId assertion => (s.addAssertionWithId assertionId assertion).2
  | .addStatus providerId status => (s.addStatus providerId status).2
  | .removeAssertion providerId => (s.removeAssertion providerId).2
  | .removeStatus providerId => (s.removeStatus providerId).2
  | .restore dump => restore codec dump

end Session

end Lasso
