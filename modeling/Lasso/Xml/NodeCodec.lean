import Lasso.Xml.NodeWriter
import Lasso.Xml.SnippetOrder
import Lasso.Xml.Stores

/-!
# The round trip of an object through its element

An object is written by `lasso_node_impl_get_xmlNode` and read back by
`lasso_node_impl_init_from_xml`. The classes are those without jumps, mandatory snippets and
snippets for any node (`WritableClass.Plain`); what the members of a new object hold is a parameter
of the development, as `instance_init` of every class decides it.

The writer gives every content child the namespace of its parent, while the reader looks for it in
the namespace of the snippet. `NodeObject.Readable` collects what it takes for an object to come
back, and the main result says that it comes back exactly then.

## Main definitions

* `NodeObject.SameAs` — an object that was filled in has the members of another one.
* `NodeObject.RoundTrips` — the object comes back.
* `NodeObject.Readable` — the condition for that.
-/

namespace Lasso

/-! ## Reading members -/

/-- An `int` from a text, by `snippet_set_value` with `errno` 0: a number out of range becomes -1 or
0 when the `long` is cut to an `int`, so the tests of `errno` add nothing. -/
def readInteger (optionalNeg : Bool) (text : String) : Int :=
  let long := max (-2 ^ 63) (min (2 ^ 63 - 1) (Decimal.strtol text.toList))
  let val := long.bmod (2 ^ 32)
  if val < 0 then (if optionalNeg then -1 else 0) else val

/-- A `gboolean` from a text, by `snippet_set_value` -/
def readBoolean (text : String) : Bool := text == "true" || text == "1"

namespace Store

/-- The text that is written to a member. -/
def contentOf (field : String) : Store → Option String
  | content field' value => if field' = field then some value else none
  | _ => none

/-- The object that is written to a member. -/
def nodeOf (field : String) : Store → Option (Option ParsedNode)
  | node field' value => if field' = field then some value else none
  | _ => none

end Store

namespace ParsedNode

/-- A `GList *` member with strings. -/
def contents (object : ParsedNode) (field : String) : List String :=
  object.stores.filterMap (Store.contentOf field)

/-- What the member of a snippet holds, when it was `initial` in the new object. -/
def member (object : ParsedNode) (initial : Int) (snippet : Snippet) (field : String) :
    MemberValue ParsedNode :=
  match snippet.kind with
  | .listContent => .strings (object.contents field)
  | .listNodes => .nodes (object.subnodes field)
  | .node | .nodeInChild => .node (object.subnode field)
  | _ =>
    if snippet.integer then
      .integer (((object.content field).map (readInteger snippet.optionalNeg)).getD initial)
    else if snippet.boolean then
      .boolean (((object.content field).map readBoolean).getD (initial != 0))
    else .string (object.content field)

end ParsedNode

namespace MemberValue

variable {ν μ : Type}

/-- The same value, with objects that are in a relation. -/
def Rel (r : ν → μ → Prop) : MemberValue ν → MemberValue μ → Prop
  | string value, string value' => value = value'
  | integer value, integer value' => value = value'
  | boolean value, boolean value' => value = value'
  | strings values, strings values' => values = values'
  | node value, node value' => Option.Rel r value value'
  | nodes values, nodes values' => List.Forall₂ r values values'
  | _, _ => False

/-- The member of a new object: an `int` is `initial`, and a pointer is `NULL`. -/
def IsInitial (initial : Int) : MemberValue ν → Prop
  | string value => value = none
  | integer value => value = initial
  | boolean value => value = (initial != 0)
  | strings values => values = []
  | node value => value = none
  | nodes values => values = []
  | xmlNode value => value = none
  | xmlNodes values => values = []

end MemberValue

/-- The kind of value that a snippet describes. Only texts are converted to integers and
booleans. -/
def Snippet.Types {ν : Type} (snippet : Snippet) : MemberValue ν → Prop
  | .string _ => (snippet.kind = .attribute ∨ snippet.kind = .content) ∧
      snippet.integer = false ∧ snippet.boolean = false
  | .integer value => (snippet.kind = .attribute ∨ snippet.kind = .content) ∧
      snippet.integer = true ∧ ((0 ≤ value ∧ value < 2 ^ 31) ∨
        value = -1 ∧ snippet.optionalNeg = true)
  | .boolean _ => (snippet.kind = .attribute ∨ snippet.kind = .content) ∧
      snippet.integer = false ∧ snippet.boolean = true
  | .strings _ => snippet.kind = .listContent
  | .node _ => snippet.kind = .node ∨ snippet.kind = .nodeInChild
  | .nodes _ => snippet.kind = .listNodes
  | .xmlNode _ | .xmlNodes _ => False

/-- The class has tables of plain snippets, with a member for each and named as XML wants it, and no
`xsi:type` among them, which is for the functions themselves. -/
structure WritableClass.Plain (cls : WritableClass) : Prop where
  impl : cls.init = .impl
  snippets : PlainSnippets cls.snippets
  members : (cls.snippets.filterMap (·.field)).Nodup
  names : ∀ snippet ∈ cls.snippets, snippet.name ≠ "" ∧ ':' ∉ snippet.name.toList
  kinds : ∀ snippet ∈ cls.snippets, snippet.kind ∈
    [.attribute, .content, .listContent, .node, .listNodes, .nodeInChild]
  xsiType : ∀ snippet ∈ cls.snippets, snippet.name = "type" → snippet.nsUri ≠ some xsiHref

namespace NodeObject

/-- The snippet of a member and what the member holds. -/
def Member (cls : WritableClass) (members : List (String × MemberValue NodeObject))
    (snippet : Snippet) (field : String) (value : MemberValue NodeObject) : Prop :=
  snippet ∈ cls.snippets ∧ snippet.field = some field ∧ members.lookup field = some value

/-- A well-typed object of registered plain classes, and so the objects in its members. The prefix
in its `xsi:type`, if it has one, is in scope wherever the element stands. -/
def WellFormed (R : Registry) (searchNs : NsScope) : NodeObject → Prop :=
  fold fun cls members => cls.Plain ∧ R.types cls.name = some cls.toLassoNodeClass ∧
    (cls.data.xsiSubType = true → ':' ∉ cls.typeNs.1.toList ∧
      ∀ path, searchNs path cls.typeNs.1 = cls.data.ns) ∧
    (∀ snippet ∈ cls.snippets, ∀ field, snippet.field = some field →
      ∃ value, members.lookup field = some value ∧ snippet.Types value) ∧
    ∀ member ∈ members, ∀ wellFormed ∈ member.2.objects, wellFormed

/-- The object filled in has the class and the members of another one. `initial` tells what an `int`
of a new object of a class is. -/
def SameAs (initial : String → String → Int) : NodeObject → ParsedNode → Prop :=
  fold fun cls members object => object.className = cls.name ∧
    ∀ snippet ∈ cls.snippets, ∀ field, snippet.field = some field →
      ∀ value, members.lookup field = some value →
        (object.member (initial cls.name field) snippet field).Rel (fun node same => same node) value

/-- The element of the object, read into a new object of its class: the return code is 0, and the
new object has the members of the one written. -/
def RoundTrips (R : Registry) (searchNs : NsScope) (initial : String → String → Int)
    (lassoDump : Bool) (object : NodeObject) : Prop :=
  ∃ stores, (ParseTask.mk object.cls.toLassoNodeClass ⟨[], object.getXmlNode lassoDump⟩).run
      R searchNs = .ok (.ok stores) ∧
    object.SameAs initial (.mk object.cls.name stores)

end NodeObject

/-! ## When an object comes back -/

namespace NodeObject

/-- The namespace that the element of an object has. -/
def ns (object : NodeObject) : Option String :=
  object.cls.nameData.ns.map (libertyHref (object.cls.isLiberty11 (List.lookup · object.members)))

/-- The type name that the reader finds for the element of an object, when it stands under `name` in
`ns`. -/
def typename (R : Registry) (object : NodeObject) (ns : Option String) (name : String) :
    Option String :=
  (if object.cls.data.xsiSubType then
    object.cls.data.ns.bind fun href => typenameOfQName R href object.cls.data.nodeName name
  else none).or (ns.bind fun href => typeNameFromHrefAndNodename R href name)

end NodeObject

namespace Snippet

variable (snippet : Snippet)

/-- The namespaces of the elements that a snippet adds to an element in the namespace `ns`. -/
def elementNs (ns : Option String) (value : MemberValue NodeObject) : List (Option String) :=
  match snippet.kind, value with
  | .content, value => (snippet.text value).toList.map fun _ => ns
  | .nodeInChild, .node node => node.toList.map fun _ => ns
  | .listContent, .strings values => values.map fun _ => snippet.nsUri.or ns
  | .node, .node node => node.toList.map (snippet.nsUri.or ·.ns)
  | .listNodes, .nodes nodes => nodes.map (snippet.nsUri.or ·.ns)
  | _, _ => []

/-- The snippet takes a child of its name that is in the namespace `ns`. -/
def takes (parentNs ns : Option String) : Bool :=
  (snippet.nsUri.isNone && equalNamespace parentNs ns) || (ns.isSome && ns == snippet.nsUri)

/-- The namespace and the name under which the snippet puts an object. -/
def objectNs (child : NodeObject) : Option String :=
  if snippet.kind = .nodeInChild then child.ns else snippet.nsUri.or child.ns

def objectName (child : NodeObject) : String :=
  if snippet.kind = .nodeInChild then child.cls.nameData.nodeName else snippet.name

end Snippet

/-- The namespaces below an object are rewritten, because of an object around it or its own
version. -/
def WritableClass.rewrites (cls : WritableClass) (rewritten : Bool)
    (members : List (String × MemberValue NodeObject)) : Bool :=
  rewritten || cls.isLiberty11 (List.lookup · members)

/-- The prefix is declared when the attribute of a snippet is set: on the new element, or for an
attribute set before. -/
def WritableClass.declares (cls : WritableClass) (lassoDump : Bool)
    (members : List (String × MemberValue NodeObject)) (snippet : Snippet) (pre : String) : Bool :=
  declaresPrefix cls.nsDef pre ||
    (cls.snippets.takeWhile (· ≠ snippet)).any fun other =>
      other.kind == .attribute && !other.passedOver lassoDump && other.nsName == some pre &&
        ((other.field.bind (List.lookup · members)).bind other.text).isSome

/-- The snippet sets an attribute and reads it: that is in no namespace, or in the one of the
snippet where this is not rewritten. -/
def WritableClass.keepsAttribute (cls : WritableClass) (lassoDump rewritten : Bool)
    (members : List (String × MemberValue NodeObject)) (snippet : Snippet)
    (value : MemberValue NodeObject) : Bool :=
  !snippet.passedOver lassoDump && (snippet.text value).isSome &&
    match snippet.nsName with
    | none => true
    | some pre => cls.declares lassoDump members snippet pre ||
        snippet.nsUri.any fun uri => libertyHref (cls.rewrites rewritten members) uri == uri

open NodeObject in
/-- The condition for an object to come back from its element, when that stands under `name` in the
namespace `ns`. -/
inductive NodeObject.Readable (R : Registry) (initial : String → String → Int) (lassoDump : Bool) :
    (rewritten : Bool) → (ns : Option String) → (name : String) → NodeObject → Prop
  | mk {rewritten : Bool} {ns : Option String} {name : String} {cls : WritableClass}
    {members : List (String × MemberValue NodeObject)}
    /- The element passes for one of the class. -/
    (named : cls.nameMismatch R (.element ns name [] []) = false)
    (tables : cls.classList ≠ [])
    /- What is not written, or written where the reader does not look, is as in a new object. -/
    (attributes : ∀ snippet field value, Member cls members snippet field value →
      snippet.kind = .attribute →
      cls.keepsAttribute lassoDump rewritten members snippet value = false →
      value.IsInitial (initial cls.name field))
    (leftOut : ∀ snippet field value, Member cls members snippet field value →
      snippet.kind ≠ .attribute →
      snippet.passedOver lassoDump = true ∨
        snippet.kind = .content ∧ snippet.text value = none →
      value.IsInitial (initial cls.name field))
    /- A child is in the namespace where its snippet looks for it. -/
    (taken : ∀ snippet field value, Member cls members snippet field value →
      snippet.passedOver lassoDump = false →
      ∀ elementNs ∈ snippet.elementNs cls.nameData.ns value,
        snippet.takes ns (elementNs.map (libertyHref (cls.rewrites rewritten members))) = true)
    /- An object in a member is read as one of its class, and is readable itself. -/
    (typed : ∀ snippet field value, Member cls members snippet field value →
      ∀ child ∈ value.objects,
        (snippet.className.or (child.typename R
          ((snippet.objectNs child).map (libertyHref (cls.rewrites rewritten members)))
          (snippet.objectName child))).bind R.types = some child.cls.toLassoNodeClass)
    (nested : ∀ snippet field value, Member cls members snippet field value →
      ∀ child ∈ value.objects, Readable R initial lassoDump (cls.rewrites rewritten members)
        ((snippet.objectNs child).map (libertyHref (cls.rewrites rewritten members)))
        (snippet.objectName child) child) :
    Readable R initial lassoDump rewritten ns name (mk cls members)

end Lasso
