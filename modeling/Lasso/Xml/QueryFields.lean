import Lasso.Xml.NodeObject
import Lasso.Xml.UriEscape

/-!
# Objects in queries

A class of ID-FF 1.2 has a second table, which says what a query of it contains: every row has a
path through the members of an object and the name of the field for the value found there. The
string of a member depends on the type in its snippet, in writing and in reading.

## Main definitions

* `QuerySnippet` — a row of the table.
* `findPath` — `find_path`.
* `buildQueryFromSnippets` — `lasso_node_build_query_from_snippets`.
* `initFromQueryFields` — `lasso_node_init_from_query_fields`.
-/

namespace Lasso

/-- `struct QuerySnippet` -/
structure QuerySnippet where
  path : String
  fieldName : Option String := none

namespace QuerySnippet

/-- The name of the field, which is the path if there is no other. -/
def name (row : QuerySnippet) : String := row.fieldName.getD row.path

/-- The names on the path, which is copied to a buffer of 100 bytes. -/
def steps (row : QuerySnippet) : List String :=
  ((row.path.toList.take 99).splitOn '/').map String.ofList

end QuerySnippet

/-- What goes wrong in the source beyond an error code: a `NULL` pointer read,
`g_assert_not_reached`, a member that is not there or is read as one of another type. -/
inductive QueryFault where
  | nullPointer | notReached | otherType
deriving DecidableEq

/-! ## Members by their path -/

/-- The object with another value in a member. -/
def NodeObject.setMember (field : String) (value : MemberValue NodeObject) :
    NodeObject → NodeObject
  | mk cls members =>
    mk cls (members.map fun member => if member.1 == field then (field, value) else member)

/-- `SNIPPET_STRUCT_MEMBER` -/
def NodeObject.structMember (node : NodeObject) (snippet : Snippet) :
    Except QueryFault (MemberValue NodeObject) :=
  match snippet.field.bind (List.lookup · node.members) with
  | some value => .ok value
  | none => .error .otherType

/-- The pointer in a member is `NULL`. -/
def NodeObject.isNull (node : NodeObject) (field : String) : Bool :=
  (node.members.lookup field).all (!·.isSet)

/-- A member that a path leads to: its snippet, what it holds, and the object at the start of the
path with another value in the member. -/
structure FoundMember where
  snippet : Snippet
  value : MemberValue NodeObject
  write : MemberValue NodeObject → NodeObject

/-- `find_path` -/
def findPath : List String → NodeObject → Except QueryFault (Option FoundMember)
  | [], _ => .ok none
  | [name], node =>
    match node.cls.findXmlSnippetByName name with
    | none => .ok none
    | some snippet => do
      let value ← node.structMember snippet
      return some { snippet, value, write := (node.setMember snippet.member ·) }
  | name :: path, node =>
    match node.cls.findXmlSnippetByName name with
    -- `G_TYPE_FROM_CLASS` of a class that is not there
    | none => .error .nullPointer
    | some snippet => do
      match ← node.structMember snippet with
      | .node none => return none
      | .node (some child) =>
        return (← findPath path child).map fun found =>
          { found with write := fun value =>
              node.setMember snippet.member (.node (some (found.write value))) }
      | _ => throw .otherType

/-- The type in the snippet is `kind`, without a flag. -/
def Snippet.isBare (snippet : Snippet) (kind : SnippetKind) : Bool :=
  snippet == {
    name := snippet.name
    kind
    field := snippet.field
    className := snippet.className
    nsName := snippet.nsName
    nsUri := snippet.nsUri }

/-- The methods of the classes of objects in members. -/
structure QueryMethods where
  /-- `lasso_node_build_query` -/
  buildQuery : NodeObject → Option Bytes
  /-- `init_from_query`, with one field -/
  initFromQuery : NodeObject → Bytes → NodeObject

/-- Objects in members have no methods. -/
def noMethods : QueryMethods := ⟨fun _ => none, fun node _ => node⟩

/-! ## Writing a query -/

/-- The field for a child of an extension: for an element with a text and without attributes. -/
def extensionField : XmlNode → Except QueryFault (Option Bytes)
  | .element _ name attrs children =>
    match children with
    | [] => .error .nullPointer
    | .text content :: rest =>
      if attrs = [] then
        .ok (some (name.toList ++
          '=' :: xmlUriEscapeStr (XmlNode.textContents (.text content :: rest)).toList []))
      else .ok none
    | _ :: _ => .ok none
  | _ => .ok none

/-- The part of `get_value_by_path` for `<lib:Extension>` -/
def extensionQuery (nodes : List XmlNode) : Except QueryFault (Option Bytes) := do
  let fields ← (nodes.flatMap (·.children)).mapM extensionField
  return if fields.reduceOption = [] then none else some (['&'].intercalate fields.reduceOption)

/-- The strings of a list with spaces between them, none for nothing at all. -/
def joinedValues (values : List Bytes) : Option Bytes :=
  let result := [' '].intercalate values
  if result = [] then none else some result

section

variable (methods : QueryMethods) (table : List QuerySnippet) (node : NodeObject)

/-- The value in `get_value_by_path`. The member is of the type that the snippet says, but only a
type without flags makes a list out of a list. -/
def FoundMember.queryValue (found : FoundMember) : Except QueryFault (Option Bytes) :=
  match found.value with
  | .boolean value => .ok (some (if value then "true" else "false").toList)
  | .integer value => .ok (some (toString value).toList)
  | .node value =>
    if found.snippet.isBare .node then .ok (value.bind methods.buildQuery)
    else .error .otherType
  | .xmlNodes nodes =>
    if found.snippet.isBare .extension then extensionQuery nodes else .error .otherType
  | .strings values =>
    if found.snippet.isBare .listContent then .ok (joinedValues (values.map (·.toList)))
    else .error .otherType
  | .string value => .ok (value.map (·.toList))
  | .nodes _ | .xmlNode _ => .error .otherType

/-- `get_value_by_path`: the snippet with the value -/
def getValueByPath (steps : List String) : Except QueryFault (Option (Snippet × Bytes)) := do
  match ← findPath steps node with
  | none => return none
  | some found => return (← found.queryValue methods).map (found.snippet, ·)

/-- One turn of the loop that builds a query. -/
def appendField (s : Bytes) (row : QuerySnippet) : Except QueryFault Bytes := do
  match ← getValueByPath methods node row.steps with
  | none => return s
  | some (snippet, value) =>
    let s := if s = [] then s else s ++ ['&']
    if snippet.isBare .extension then return s ++ value
    else return s ++ (row.name.toList ++ '=' :: xmlUriEscapeStr value [])

/-- `lasso_node_build_query_from_snippets`, with the table of the nearest class that has one -/
def buildQueryFromSnippets : Except QueryFault Bytes := table.foldlM (appendField methods node) []

/-! ## Reading a query -/

/-- `g_strsplit` at a space, which makes nothing of an empty string -/
def strsplit (text : Bytes) : List Bytes := if text = [] then [] else text.splitOn ' '

/-- The value that `set_value_at_path` puts into a member. -/
def FoundMember.assigned (found : FoundMember) (queryValue : Bytes) :
    Except QueryFault (MemberValue NodeObject) :=
  match found.value with
  | .integer _ => .ok (.integer (Decimal.atoi queryValue))
  | .boolean _ => .ok (.boolean (queryValue == "true".toList))
  | .node value =>
    if found.snippet.isBare .node then
      match value with
      | none => .error .notReached
      | some child => .ok (.node (some (methods.initFromQuery child queryValue)))
    else .error .otherType
  | .strings _ =>
    if found.snippet.isBare .listContent then
      .ok (.strings ((strsplit queryValue).map String.ofList))
    else .error .otherType
  | .string _ => .ok (.string (some (String.ofList queryValue)))
  | .nodes _ | .xmlNode _ | .xmlNodes _ => .error .otherType

/-- `set_value_at_path`; where the path leads nowhere, nothing is set. -/
def setValueAtPath (steps : List String) (queryValue : Bytes) : Except QueryFault NodeObject := do
  match ← findPath steps node with
  | none => return node
  | some found => return found.write (← found.assigned methods queryValue)

/-- The inner loop: the row with the name, and whether there was one for extensions before it. -/
def findQuerySnippet (name : Bytes) :
    List QuerySnippet → (hasExtension : Bool) → Option QuerySnippet × Bool
  | [], hasExtension => (none, hasExtension)
  | row :: rows, hasExtension =>
    if row.name = "Extension" then findQuerySnippet name rows true
    else if name = row.name.toList then (some row, hasExtension)
    else findQuerySnippet name rows hasExtension

/-- The extensions with a field in the first of them. -/
def addExtensionField (name value : Bytes) (nodes : List XmlNode) : List XmlNode :=
  let child := XmlNode.element none (String.ofList name) [] [.text (String.ofList value)]
  match nodes with
  | .element ns name attrs children :: nodes =>
    .element ns name attrs (children ++ [child]) :: nodes
  | [] => [.element (some libHref) "Extension" [] [child]]
  | nodes => nodes

/-- A field that no row is for goes to the extensions, if the class has them. -/
def buildExtension (name value : Bytes) : Except QueryFault NodeObject := do
  match ← findPath ["Extension"] node with
  | none => return node
  | some found =>
    match found.value with
    | .xmlNodes nodes => return found.write (.xmlNodes (addExtensionField name value nodes))
    | _ => throw .otherType

/-- One turn of the loop over the fields of a query. The flag stays set once an inner loop has come
by a row for extensions. -/
def initField (state : NodeObject × Bool) (field : Bytes) :
    Except QueryFault (NodeObject × Bool) :=
  match cutAtEq field with
  | none => .ok state
  | some (name, value) =>
    match findQuerySnippet name table state.2 with
    | (some row, hasExtension) => do
      return (← setValueAtPath methods state.1 row.steps value, hasExtension)
    | (none, hasExtension) =>
      if hasExtension ∧ name ≠ "SigAlg".toList ∧ name ≠ "Signature".toList then do
        return (← buildExtension state.1 name value, hasExtension)
      else .ok (state.1, hasExtension)

/-- `lasso_node_init_from_query_fields`, with the table of the nearest class that has one -/
def initFromQueryFields (queryFields : List Bytes) : Except QueryFault NodeObject := do
  return (← queryFields.foldlM (initField methods table) (node, false)).1

end

end Lasso
