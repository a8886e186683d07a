import Lasso.Xml.Soap
import Lasso.Xml.Query

/-!
# Reading a message

`initFromMessageWithFormat` detects the format of a message (base64, SOAP, XML or a query string)
and initialises a node from it. The class of the node is a parameter: what its `init_from_xml`
and `init_from_query` methods do to the node, and the code they return.
-/

namespace Lasso

/-- `LassoMessageFormat` -/
inductive MessageFormat where
  | xschemaError
  | error
  | unknown
  | xml
  | base64
  | query
  | soap
deriving DecidableEq

/-- The virtual methods of a class that initialise a node. A failed call may leave the node
partly initialised. -/
structure NodeClass (α : Type*) where
  initFromXml : α → Option XmlNode → Rc × α
  initFromQuery : α → List Bytes → Bool × α

/-- The class whose messages are all ill-formed. -/
def NodeClass.refusing {α : Type*} : NodeClass α where
  initFromXml node _ := (.castFailed, node)
  initFromQuery node _ := (false, node)

/-- `lasso_inflate` -/
def lassoInflate (env : Env) (input : Bytes) : Option Bytes := env.inflate input (input.length * 20)

/-- `lasso_node_init_from_deflated_query_part`; the code of `init_from_xml` is not looked at. -/
def initFromDeflatedQueryPart {α : Type*} (env : Env)
    (initFromXml : α → Option XmlNode → Rc × α) (node : α) (deflateString : Bytes) : Bool × α :=
  let b64 := env.uriUnescape deflateString
  let decoded := env.base64Decode b64 (b64.length * 4)
  if decoded.1 = -1 then (false, node)
  else
    match lassoInflate env decoded.2 with
    | none => (false, node)
    | some text => (true, (initFromXml node (env.parseMemory (cString text))).2)

/-- `lasso_node_init_from_saml2_query_fields` -/
def initFromSaml2QueryFields {α : Type*} (env : Env)
    (initFromXml : α → Option XmlNode → Rc × α) (node : α) (queryFields : List Bytes) : Bool × α :=
  match saml2QueryMessage queryFields with
  | none => (false, node)
  | some req => initFromDeflatedQueryPart env initFromXml node req

/-- The SAML 2.0 requests and responses, whose `init_from_query` reads a deflated message. -/
def saml2NodeClass {α : Type*} (env : Env) (initFromXml : α → Option XmlNode → Rc × α) :
    NodeClass α where
  initFromXml := initFromXml
  initFromQuery := initFromSaml2QueryFields env initFromXml

/-- `is_base64` -/
def isBase64 (message : Bytes) : Bool :=
  let c := message.dropWhile fun c =>
    c.isAlphanum || c == '+' || c == '/' || c == '\n' || c == '\r'
  (c.dropWhile fun c => c == '=' || c == '\n' || c == '\r').isEmpty

/-- What `lasso_node_init_from_message_with_format` returns: the format, the document and its
content node, and the node as it was initialised. -/
structure ParsedMessage (α : Type*) where
  format : MessageFormat
  doc : Option XmlNode := none
  root : Option NodeRef := none
  node : α

/-- `lasso_node_init_from_message_with_format` -/
def initFromMessageWithFormat {α : Type*} (env : Env) (cls : NodeClass α) (node : α)
    (message : Bytes) (constraint : MessageFormat) : ParsedMessage α :=
  let any := constraint == .unknown
  -- BASE64 case
  let decoded := env.base64Decode message message.length
  let b64 := (any || constraint == .base64) && !message.isEmpty && isBase64 message &&
    decide (0 ≤ decoded.1)
  let msg := if b64 then cString decoded.2 else message
  -- HTTP query case
  let query (doc : Option XmlNode) (root : Option NodeRef) : ParsedMessage α :=
    if (any || constraint == .query) && (msg.contains '&' || msg.contains '=') then
      match cls.initFromQuery node (urlencodedToStrings env msg) with
      | (false, node) => { format := .error, doc, root, node }
      | (true, node) => { format := .query, doc, root, node }
    else { format := .error, doc, root, node }
  -- XML case
  if (any || constraint == .xml || constraint == .base64 || constraint == .soap) &&
      msg.contains '<' then
    match env.parseMemory msg with
    | none => { format := .unknown, node }
    | some doc =>
      if any || constraint == .soap then
        let root := if doc.isSoap then doc.getSoapContent.bind (NodeRef.at? doc)
          else some (.ofRoot doc)
        match cls.initFromXml node (root.map (·.node)) with
        | (.ok, node) =>
          let format : MessageFormat := if doc.isSoap then .soap else if b64 then .base64 else .xml
          { format, doc := some doc, root, node }
        | (_, node) => { format := .xschemaError, doc := some doc, root, node }
      else query (some doc) (some (.ofRoot doc))
  else query none none

/-- A message that cannot be read leaves the node as it was, or as the failed query left it. -/
theorem initFromMessageWithFormat_failed {α : Type*} {env : Env} {cls : NodeClass α} {node : α}
    {message : Bytes} {constraint : MessageFormat} {m : ParsedMessage α}
    (hm : initFromMessageWithFormat env cls node message constraint = m)
    (h : m.format = .unknown ∨ m.format = .error) :
    m.node = node ∨ ∃ fields, cls.initFromQuery node fields = (false, m.node) := by
  unfold initFromMessageWithFormat at hm
  extract_lets any decoded b64 msg query at hm
  have hquery (doc : Option XmlNode) (root : Option NodeRef) (hm : query doc root = m) :
      m.node = node ∨ ∃ fields, cls.initFromQuery node fields = (false, m.node) := by
    unfold query at hm
    split at hm
    · split at hm <;> cases hm
      · exact .inr ⟨_, by assumption⟩
      · simp at h
    · cases hm
      exact .inl rfl
  clear_value msg b64 query
  split at hm
  · split at hm
    · cases hm
      exact .inl rfl
    · split at hm
      · dsimp only at hm
        split at hm
        · cases hm
          dsimp only at h
          split_ifs at h <;> simp at h
        · cases hm
          simp at h
      · exact hquery _ _ hm
  · exact hquery _ _ hm

/-- `lasso_get_relaystate_from_query` -/
def getRelaystateFromQuery (env : Env) (query : Bytes) : Option Bytes :=
  let head := fieldRelaystate.toList ++ ['=']
  let start :=
    if head.isPrefixOf query then some (query.drop head.length)
    else
      match breakOn ('&' :: head) query with
      | some (_, start) => some start
      | none => (breakOn (';' :: head) query).map (·.2)
  start.map fun start =>
    let value := start.takeWhile fun c => c != '&' && c != ';'
    if value = [] then [] else env.uriUnescape value

/-- A received message: its text, the format found and the content node of its document. -/
structure Received where
  text : Bytes
  format : MessageFormat
  content : Option NodeRef

def ParsedMessage.received {α : Type*} (m : ParsedMessage α) (text : Bytes) : Received where
  text := text
  format := m.format
  content := m.doc.bind fun _ => m.root

end Lasso
