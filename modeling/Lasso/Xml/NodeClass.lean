import Lasso.Library.Outcome
import Lasso.Strings
import Lasso.Xml.Snippet

/-!
# Node classes and their registry

What the parser reads of a class, and how it comes to the class of an element: by `xsi:type`, by a
registered mapping, or by the default rule that puts a prefix for the namespace before the name of
the element.

## Main definitions

* `ParsedNode` — an object that the parser has filled in.
* `LassoNodeClass` — a class with what it inherits from its parents.
* `LassoNodeClass.nameMismatch` — the check of an element's name against the class.
* `Registry` — the registered classes and mappings.
* `xsiTypename`, `typenameByName`, `autoTypename` — the class that an element asks for.
-/

namespace Lasso

/-! ## Objects -/

mutual

/-- An object filled in from an element: its class, and what was written to its members in the
order of writing. A plain member has the last value written to it, a list has them all. -/
inductive ParsedNode where
  | mk (className : String) (stores : List Store)

/-- A value written to a member of an object. -/
inductive Store where
  | content (field value : String)
  | node (field : String) (node : Option ParsedNode)
  | xmlNode (field : String) (node : XmlNode)
  | attribute (field key value : String)

end

/-- What stops the process, or leaves open what it does: `g_assert_not_reached`, a `NULL` pointer
read, a loop without end, a write behind the end of a buffer, a node read as one of another type. -/
inductive Fault where
  | notReached | nullPointer | endless | overrun | misread
deriving DecidableEq

/-- What an `init_from_xml` comes to: the members it wrote, or an error code. -/
abbrev InitResult := Except Fault (Except Int (List Store))

namespace ParsedNode

def className : ParsedNode → String
  | mk className _ => className

def stores : ParsedNode → List Store
  | mk _ stores => stores

end ParsedNode

/-! ## Classes -/

/-- `LassoNodeClassData` -/
structure NodeClassData where
  nodeName : String
  /-- `ns->href` -/
  ns : Option String
  /-- `ns->prefix` -/
  nsPrefix : Option String := none
  xsiSubType : Bool := false
  snippets : Option SnippetTable

/-- The `init_from_xml` of a class. -/
inductive InitMethod where
  /-- `lasso_node_impl_init_from_xml` -/
  | impl
  /-- a method of the class that goes on from what the parent's method returned -/
  | after (method : XmlNode → Except Int (List Store) → InitResult)
  /-- a method of the class that does not call the parent's -/
  | own (method : XmlNode → InitResult)
  /-- the method of `LassoMiscTextNode` -/
  | miscText

/-- A node class: `chain` is its `node_data` and those of its parents, nearest first. Without
`node_data` it is empty. The parents of a subtype for `xsi:type` end in the class of an element. -/
structure LassoNodeClass where
  name : String
  chain : List NodeClassData
  init : InitMethod := .impl
  chain_base : chain ≠ [] → ∃ data ∈ chain, data.xsiSubType = false

namespace LassoNodeClass

variable (cls : LassoNodeClass)

/-- `class_list`: the tables of the class and its parents, the oldest parent first. -/
def classList : List SnippetTable := cls.chain.reverse.filterMap (·.snippets)

def snippets : List Snippet := cls.classList.flatMap (·.snippets)

/-- `snippet_any`: the first one on the way from the class to its parents. -/
def snippetAny : Option Snippet :=
  ((cls.chain.filterMap (·.snippets)).flatMap (·.snippets)).find? fun snippet =>
    snippet.any &&
      match snippet.kind with
      | .attribute | .node | .signature | .textChild => false
      | .collectNamespaces => snippet.name != ""
      | _ => true

/-- `snippet_any_attribute`: the last one on that way. -/
def snippetAnyAttribute : Option Snippet :=
  ((cls.chain.filterMap (·.snippets)).flatMap (·.snippets)).findRev? fun snippet =>
    snippet.any && snippet.kind == .attribute

/-- `check_class->node_data`: the class itself, or the nearest parent that is no `xsi_sub_type`. -/
def checkData : Option NodeClassData := cls.chain.find? (!·.xsiSubType)

theorem missAhead_snippets : MissAhead cls.snippets := by
  intro snippet hmem
  obtain ⟨table, -, hsnippet⟩ := List.mem_flatMap.mp hmem
  exact table.miss_ahead snippet hsnippet

end LassoNodeClass

/-- The GLib types and the registry of mappings. `wsfPrefix` is the part of
`prefix_from_href_and_nodename` for the namespaces of the Web Services Framework. -/
structure Registry where
  types : String → Option LassoNodeClass
  /-- `lasso_registry_default_get_mapping` to `LASSO_LASSO_HREF` -/
  mapping : String → String → Option String
  wsfPrefix : String → String → Option String
  types_name : ∀ typename cls, types typename = some cls → cls.name = typename

/-- `xmlSearchNs`: the namespace that a prefix has at the node with a path. -/
abbrev NsScope := List Nat → String → Option String

/-! ## The name check -/

/-- The element has another name than `check_class` or another namespace. -/
def LassoNodeClass.dataMismatch (cls : LassoNodeClass) (node : XmlNode) : Bool :=
  match cls.checkData with
  | some data => node.elementName != some data.nodeName || !equalNamespace data.ns node.ns
  | none => true

/-- The check of the element's name and namespace at the start of
`lasso_node_impl_init_from_xml`: a registered mapping to the class makes up for a mismatch. -/
def LassoNodeClass.nameMismatch (R : Registry) (cls : LassoNodeClass) (node : XmlNode) : Bool :=
  cls.dataMismatch node &&
    match node.ns, node.elementName with
    | some href, some name => R.mapping href name != some cls.name
    | _, _ => true

theorem LassoNodeClass.dataMismatch_eq_false {cls : LassoNodeClass} {node : XmlNode} :
    cls.dataMismatch node = false ↔ ∃ data, cls.checkData = some data ∧
      node.elementName = some data.nodeName ∧ equalNamespace data.ns node.ns = true := by
  unfold dataMismatch
  cases cls.checkData with
  | none => simp
  | some data => simp

/-- A class passes the check by its name and namespace or by a mapping of the element to it. -/
theorem LassoNodeClass.nameMismatch_eq_false {R : Registry} {cls : LassoNodeClass}
    {node : XmlNode} :
    cls.nameMismatch R node = false ↔ cls.dataMismatch node = false ∨
      ∃ href name, node.ns = some href ∧ node.elementName = some name ∧
        R.mapping href name = some cls.name := by
  unfold nameMismatch
  rw [Bool.and_eq_false_iff]
  cases node.ns <;> cases node.elementName <;> simp

/-! ## The class of an element -/

/-- `prefix_from_href_and_nodename` -/
def prefixFromHrefAndNodename (R : Registry) (href nodename : String) : Option String :=
  if href == lassoHref then some ""
  else if href == samlAssertionHref then some "Saml"
  else if href == samlProtocolHref then some "Samlp"
  else if href == libHref then some "Lib"
  else if href == saml2AssertionHref then some "Saml2"
  else if href == saml2ProtocolHref then some "Samlp2"
  else if href == ecpHref then some "Ecp"
  else if href == paosHref then some "Paos"
  else if href == soapEnvHref then some "Soap"
  else if href == xmlSecDSigNs then some "Ds"
  else R.wsfPrefix href nodename

/-- `_type_name_from_href_and_nodename` -/
def typeNameFromHrefAndNodename (R : Registry) (href nodename : String) : Option String :=
  let pre := prefixFromHrefAndNodename R href nodename
  let typename :=
    if nodename == "SvcMD" then some "LassoIdWsf2DiscoSvcMetadata"
    else if pre == some "IdWsf2DstRef" && nodename == "Status" then some "LassoIdWsf2UtilStatus"
    else if pre == some "WsSec1" && nodename == "Security" then some "LassoWsSec1SecurityHeader"
    else if pre == some "Soap" && nodename == "detail" then some "LassoSoapDetail"
    else (R.mapping href nodename).or (pre.map fun p => "Lasso" ++ p ++ nodename)
  typename.filter fun name => (R.types name).isSome

/-- The prefix and the local part of a `QName` with a colon. -/
def splitQName (qname : String) : Option (String × String) :=
  match qname.toList.span (· != ':') with
  | (pre, _ :: localPart) => some (String.ofList pre, String.ofList localPart)
  | (_, []) => none

/-- The class that a resolved `xsi:type` names on an element called `nodename`. -/
def typenameOfQName (R : Registry) (href localPart nodename : String) : Option String :=
  if href == lassoHref then some localPart
  else (typeNameFromHrefAndNodename R href localPart).or
    (typeNameFromHrefAndNodename R href nodename)

/-- The part of `_lasso_node_new_from_xmlNode` that honours `xsi:type`. -/
def xsiTypename (R : Registry) (searchNs : NsScope) (path : List Nat) (node : XmlNode) :
    Option String := do
  let xsitype ← node.getNsProp "type" xsiHref
  let (pre, localPart) ← splitQName xsitype
  let href ← searchNs path pre
  let nodename ← node.elementName
  typenameOfQName R href localPart nodename

/-- The class by the namespace and the name of the element. -/
def typenameByName (R : Registry) (node : XmlNode) : Option String := do
  let href ← node.ns
  let nodename ← node.elementName
  typeNameFromHrefAndNodename R href nodename

/-- The `typename` of `_lasso_node_new_from_xmlNode`. -/
def autoTypename (R : Registry) (searchNs : NsScope) (path : List Nat) (node : XmlNode) :
    Option String :=
  (xsiTypename R searchNs path node).or (typenameByName R node)

end Lasso
