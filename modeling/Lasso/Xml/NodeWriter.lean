import Lasso.Xml.NodeObject

/-!
# Elements from objects

`lasso_node_impl_get_xmlNode` makes an element of an object: it has the name and the namespace of
the class, and an attribute or children for every snippet whose member holds something. The function
calls itself for the objects in the members; `buildXmlNode` is one level of it.

The objects have no custom element (`lasso_node_set_custom_nodename`) and no signature set up.

## Main definitions

* `writtenSnippets` — the snippets that `lasso_node_build_xmlNode_from_snippets` comes to.
* `snippetAttributes`, `snippetChildren` — what they become in the element.
* `NodeObject.getXmlNode` — `lasso_node_impl_get_xmlNode`.
-/

namespace Lasso

variable {ν : Type}

/-! ## Namespaces -/

/-- A declaration on an element. `href` is `none` for a snippet that gives a prefix only. -/
structure XmlNs where
  pre : String
  href : Option String

def declaresPrefix (nsDef : List XmlNs) (pre : String) : Bool := nsDef.any (·.pre == pre)

/-- The first of the prefixes `ns1`, `ns2`, … that is not in use. -/
def scratchPrefix (nsDef : List XmlNs) : String :=
  let number := Search.firstFree (· + 1) (fun i => declaresPrefix nsDef ("ns" ++ toString i))
    (nsDef.length + 1) 1
  "ns" ++ toString (number.getD 1)

/-- `get_or_define_ns` on an element without a parent: the prefix, and the declarations that the
element has then. -/
def getOrDefineNs (nsDef : List XmlNs) (href : String) (advisedPrefix : Option String) :
    String × List XmlNs :=
  match nsDef.find? (·.href == some href) with
  | some ns => (ns.pre, nsDef)
  | none =>
    let pre := (advisedPrefix.filter (!declaresPrefix nsDef ·)).getD (scratchPrefix nsDef)
    (pre, nsDef ++ [⟨pre, some href⟩])

/-- The namespace of ID-FF 1.1. -/
def liberty11Href : String := "http://projectliberty.org/schemas/core/2002/12"

/-- A namespace in a document that may have been rewritten for ID-FF 1.1. -/
def libertyHref (rewritten : Bool) (href : String) : String :=
  if rewritten && href == libHref then liberty11Href else href

def XmlAttr.rewriteLiberty (rewritten : Bool) (attr : XmlAttr) : XmlAttr :=
  { attr with ns := attr.ns.map (libertyHref rewritten) }

namespace XmlNode

variable (rewritten : Bool)

mutual

/-- The nodes of an element share the declaration of a namespace, so writing to the one of the
element changes them all. -/
def rewriteLiberty : XmlNode → XmlNode
  | element ns name attrs children =>
    element (ns.map (libertyHref rewritten)) name (attrs.map (·.rewriteLiberty rewritten))
      (rewriteLibertyList children)
  | text content => text content
  | cdata content => cdata content
  | comment content => comment content
  | pi target content => pi target content

def rewriteLibertyList : List XmlNode → List XmlNode
  | [] => []
  | node :: nodes => rewriteLiberty node :: rewriteLibertyList nodes

end

end XmlNode

/-! ## The loop over the snippets -/

namespace Snippet

/-- The member as a string, `none` for what is left out. -/
def text (snippet : Snippet) : MemberValue ν → Option String
  | .string value => value
  | .integer value =>
    if (value == 0 && snippet.optional) || (value == -1 && snippet.optionalNeg) then none
    else some (toString value)
  | .boolean value =>
    if !value && snippet.optional then none else some (if value then "true" else "false")
  | _ => none

/-- The snippet is passed over: `SNIPPET_LASSO_DUMP` outside of a dump, attributes with any name, and
the list behind the first item of a list. -/
def passedOver (snippet : Snippet) (lassoDump : Bool) : Bool :=
  (snippet.lassoDump && !lassoDump) || (snippet.any && snippet.kind == .attribute) ||
    (snippet.multiple && snippet.jumpOnMatch && 0 < snippet.jumpOffset)

/-- How many of the snippets that follow a written one are jumped over. -/
def jumped (snippet : Snippet) (value : MemberValue ν) : Nat :=
  if snippet.jumpOnMatch && 0 < snippet.jumpOffset && value.isSet then
    snippet.jumpOffset.toNat - 1
  else 0

/-- `apply_snippet_ns` -/
def applyNs (snippet : Snippet) : XmlNode → XmlNode
  | .element ns name attrs children =>
    .element (snippet.nsUri.or ns) (if snippet.any || snippet.name == "" then name else snippet.name)
      attrs children
  | node => node

end Snippet

/-- The loop over a table, with `jumped` snippets still to pass: the snippets that are written, each
with its member. -/
def writtenSnippets (lassoDump : Bool) (member : String → Option (MemberValue ν)) :
    (jumped : Nat) → List Snippet → List (Snippet × MemberValue ν)
  | _, [] => []
  | jumped + 1, _ :: snippets => writtenSnippets lassoDump member jumped snippets
  | 0, snippet :: snippets =>
    match snippet.field.bind member with
    | none => writtenSnippets lassoDump member 0 snippets
    | some value =>
      if snippet.passedOver lassoDump then writtenSnippets lassoDump member 0 snippets
      else (snippet, value) ::
        writtenSnippets lassoDump member (snippet.jumped value) snippets

/-- The attributes that are set, on an element with declarations. `xmlNewNs` gives no namespace for
a prefix that is declared already, and `xmlSetNsProp` sets nothing in a namespace without a URI. -/
def snippetAttributes : List XmlNs → List (Snippet × MemberValue ν) → List XmlAttr
  | _, [] => []
  | nsDef, (snippet, value) :: written =>
    match if snippet.kind = .attribute then snippet.text value else none, snippet.nsName with
    | none, _ => snippetAttributes nsDef written
    | some text, none => ⟨snippet.name, none, text⟩ :: snippetAttributes nsDef written
    | some text, some pre =>
      if declaresPrefix nsDef pre then
        ⟨snippet.name, none, text⟩ :: snippetAttributes nsDef written
      else
        (snippet.nsUri.map fun uri => ⟨snippet.name, some uri, text⟩).toList ++
          snippetAttributes (nsDef ++ [⟨pre, snippet.nsUri⟩]) written

/-- `xmlSetNsProp`: an attribute that the element has already gets the new value. -/
def setNsProp (attrs : List XmlAttr) (attr : XmlAttr) : List XmlAttr :=
  if attrs.any fun other => other.name == attr.name && other.ns == attr.ns then
    attrs.map fun other => if other.name == attr.name && other.ns == attr.ns then attr else other
  else attrs ++ [attr]

/-- `xmlNewTextChild` without a namespace: the child has the one of its parent. -/
def newTextChild (parentNs : Option String) (name text : String) : XmlNode :=
  .element parentNs name [] [.text text]

/-- The children that a snippet adds to an element in the namespace `ns`. -/
def snippetChildren (ns : Option String) (snippet : Snippet) (value : MemberValue XmlNode) :
    List XmlNode :=
  match snippet.kind, value with
  | .textChild, value => (snippet.text value).toList.map .text
  | .node, .node node => node.toList.map snippet.applyNs
  | .content, value => (snippet.text value).toList.map (newTextChild ns snippet.name)
  | .nodeInChild, .node node =>
    node.toList.map fun child => .element ns snippet.name [] [child]
  | .listNodes, .nodes nodes => nodes.map snippet.applyNs
  | .listContent, .strings values =>
    values.map fun value => snippet.applyNs (newTextChild ns snippet.name value)
  | .listXmlNodes, .xmlNodes nodes => nodes
  | .extension, .xmlNodes nodes => nodes
  | .xmlNode, .xmlNode node => node.toList
  | _, _ => []

/-! ## The element of an object -/

namespace WritableClass

variable (cls : WritableClass)

/-- The `node_data` of `node_name_class`. -/
def nameData : NodeClassData := cls.checkData.getD cls.data

/-- The declarations of the new element. -/
def ownNsDef : List XmlNs :=
  match cls.nameData.ns with
  | some href => (getOrDefineNs [] href cls.nameData.nsPrefix).2
  | none => []

/-- The prefix in the `xsi:type` of a subtype, and the declarations that `set_xsi_type` leaves. -/
def typeNs : String × List XmlNs :=
  getOrDefineNs (getOrDefineNs cls.ownNsDef xsiHref (some "xsi")).2 (cls.data.ns.getD "")
    cls.data.nsPrefix

def nsDef : List XmlNs := if cls.data.xsiSubType then cls.typeNs.2 else cls.ownNsDef

/-- `set_xsi_type` -/
def xsiType : List XmlAttr :=
  if cls.data.xsiSubType then
    [⟨"type", some xsiHref, cls.typeNs.1 ++ ":" ++ cls.data.nodeName⟩]
  else []

/-- A member named like a part of the version, read as an `int`. The outer `none` means that there
is no such snippet. -/
def versionPart (member : String → Option (MemberValue ν)) (name : String) : Option (Option Int) :=
  (cls.findXmlSnippetByName name).map fun snippet =>
    (snippet.field.bind member).bind (·.asInt)

/-- The object is a message of ID-FF 1.1. -/
def isLiberty11 (member : String → Option (MemberValue ν)) : Bool :=
  cls.nameData.ns == some libHref && cls.versionPart member "MajorVersion" == some (some 1) &&
    (cls.versionPart member "MinorVersion").getD (some 0) == some 0

/-- The snippets that are written, those of the oldest class first. -/
def written (lassoDump : Bool) (member : String → Option (MemberValue ν)) :
    List (Snippet × MemberValue ν) :=
  cls.classList.flatMap fun table => writtenSnippets lassoDump member 0 table.snippets

end WritableClass

/-- `lasso_node_impl_get_xmlNode` of an object whose members hold elements in place of objects. -/
def buildXmlNode (lassoDump : Bool) (cls : WritableClass)
    (members : List (String × MemberValue XmlNode)) : XmlNode :=
  let written := cls.written lassoDump (List.lookup · members)
  let attrs := (snippetAttributes cls.nsDef written).foldl setNsProp cls.xsiType
  let children := written.flatMap fun (snippet, value) =>
    snippetChildren cls.nameData.ns snippet value
  (XmlNode.element cls.nameData.ns cls.nameData.nodeName attrs children).rewriteLiberty
    (cls.isLiberty11 (List.lookup · members))

/-- `lasso_node_impl_get_xmlNode` -/
def NodeObject.getXmlNode (lassoDump : Bool) : NodeObject → XmlNode :=
  NodeObject.fold (buildXmlNode lassoDump)

end Lasso
