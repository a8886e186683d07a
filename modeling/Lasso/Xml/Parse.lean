import Lasso.Xml.NodeClass

/-!
# Objects from elements

`lasso_node_impl_init_from_xml` and the functions that make an object from an element. The parser
goes down the tree: what a child gives for any class that may be asked for is computed with the
child, and the loop over the children of an element picks from it.

## Main definitions

* `PlacedNode` — a node with its path.
* `implInit` — `lasso_node_impl_init_from_xml`.
* `initFromXml` — the `init_from_xml` of a class.
* `nodeResult` — `lasso_node_new_from_xmlNode_with_type` for a node and every `typename`.

## Main results

* `newWithType_eq` — making an object is filling in one of the class asked for.
-/

namespace Lasso

/-- A node with the child positions that lead to it. -/
structure PlacedNode where
  path : List Nat
  node : XmlNode

/-- The nodes of a list of children, from the position `i` on. -/
def placeFrom (path : List Nat) : Nat → List XmlNode → List PlacedNode
  | _, [] => []
  | i, node :: nodes => ⟨path ++ [i], node⟩ :: placeFrom path (i + 1) nodes

def PlacedNode.children (place : PlacedNode) : List PlacedNode :=
  placeFrom place.path 0 place.node.children

theorem placeFrom_map_node (path : List Nat) (i : Nat) (nodes : List XmlNode) :
    (placeFrom path i nodes).map (·.node) = nodes := by
  induction nodes generalizing i with
  | nil => rfl
  | cons node nodes ih => simp [placeFrom, ih]

theorem placeFrom_append (path : List Nat) (i : Nat) (nodes nodes' : List XmlNode) :
    placeFrom path i (nodes ++ nodes') =
      placeFrom path i nodes ++ placeFrom path (i + nodes.length) nodes' := by
  induction nodes generalizing i with
  | nil => rfl
  | cons node nodes ih =>
    rw [List.cons_append, placeFrom, ih, placeFrom, List.cons_append, List.length_cons,
      Nat.add_assoc, Nat.add_comm 1]

theorem mem_placeFrom {path : List Nat} {i : Nat} {nodes : List XmlNode} {child : PlacedNode}
    (h : child ∈ placeFrom path i nodes) : child.node ∈ nodes := by
  induction nodes generalizing i with
  | nil => cases h
  | cons node nodes ih =>
    rcases List.mem_cons.mp h with rfl | h
    · exact List.mem_cons_self
    · exact List.mem_cons_of_mem _ (ih h)

/-- A child of an element, with what it gives when an object of some class is made from it
(`withType`) or from its first element (`firstChild`). -/
structure ChildResult where
  node : XmlNode
  withType : Option String → Except Fault (Option ParsedNode)
  firstChild : Option (Option String → Except Fault (Option ParsedNode))

/-! ## Attributes -/

variable (R : Registry) (searchNs : NsScope) (cls : LassoNodeClass)

/-- The test of `xsi:type` against the class; it reads the namespace of the class once the prefix
has one. -/
def isOwnXsiType (data : NodeClassData) (path : List Nat) (attr : XmlAttr) : Except Fault Bool :=
  if attr.ns == some xsiHref && attr.name == "type" then
    match splitQName attr.value with
    | none => return false
    | some (pre, localPart) =>
      match searchNs path pre, data.ns with
      | none, _ => return false
      | some _, none => .error .nullPointer
      | some href, some ns => return href == ns && localPart == data.nodeName
  else return false

/-- The attribute snippet of a table that takes an attribute. -/
def attributeSnippet (node : XmlNode) (attr : XmlAttr) (table : SnippetTable) : Option Snippet :=
  (table.snippets.find? fun snippet =>
    snippet.kind == .attribute && attr.name == snippet.name).filter fun snippet =>
      attr.ns.isNone || (equalNamespace attr.ns node.ns && snippet.nsUri.isNone) ||
        (snippet.nsUri.isSome && attr.ns == snippet.nsUri)

/-- The key of an attribute that no snippet takes. -/
def anyAttributeKey (node : XmlNode) (attr : XmlAttr) (ns : String) : String :=
  if equalNamespace attr.ns node.ns then attr.name else "\x7b" ++ ns ++ "\x7d" ++ attr.name

/-- What one attribute writes. -/
def attributeStores (node : XmlNode) (attr : XmlAttr) : List Store :=
  match cls.classList.filterMap (attributeSnippet node attr), attr.ns, cls.snippetAnyAttribute with
  | [], some ns, some snippet =>
    [.attribute snippet.member (anyAttributeKey node attr ns) attr.value]
  | snippets, _, _ => snippets.filterMap fun snippet => snippet.field.map (.content · attr.value)

/-- The loop over the attributes. -/
def collectAttributes (data : NodeClassData) (path : List Nat) (node : XmlNode) :
    Except Fault (List Store) :=
  Outcome.gather (fun attr => do
    let own ← isOwnXsiType searchNs data path attr
    return if own then [] else attributeStores cls node attr) node.attrs

/-- The character data that the class takes as a whole. -/
def textChildStores (node : XmlNode) : List Store :=
  ((cls.chain.filterMap (·.snippets)).flatMap (·.snippets)).filterMap fun snippet =>
    if snippet.kind == .textChild then snippet.field.map (.content · node.textContent) else none

/-! ## Children -/

/-- What a child writes for the snippet it has matched. -/
def storeMatched (snippet : Snippet) (child : ChildResult) : Except Fault (List Store) :=
  match snippet.field with
  | none => return []
  | some field =>
    match snippet.kind with
    | .listNodes | .node => do
      let subnode ← child.withType snippet.className
      return subnode.toList.map (.node field <| some ·)
    | .nodeInChild =>
      match child.firstChild with
      | none => return []
      | some new => do
        let subnode ← new snippet.className
        return [.node field subnode]
    | .xmlNode | .listXmlNodes | .extension => return [.xmlNode field child.node]
    | .content | .listContent => return [.content field child.node.textContent]
    | .signature => return []
    | .textChild | .attribute | .collectNamespaces => .error .notReached

/-- What a text among the children writes. -/
def storeText (any : Option Snippet) (child : ChildResult) : Except Fault (List Store) :=
  match any with
  | none => return []
  | some snippet =>
    match snippet.kind with
    | .listXmlNodes => return [.xmlNode snippet.member child.node]
    | .listNodes =>
      if snippet.allowText then do
        let subnode ← child.withType (some "LassoMiscTextNode")
        return subnode.toList.map (.node snippet.member <| some ·)
      else return []
    | _ => return []

/-- `lasso_misc_text_node_new_with_xml_node` -/
def miscTextNodeNewWithXmlNode (node : XmlNode) : ParsedNode :=
  .mk "LassoMiscTextNode" [.xmlNode "xml_content" node]

/-- What a child past the last snippet writes to a list of objects. -/
def storeLeftover (snippet : Snippet) (child : ChildResult) : Except Fault (List Store) :=
  match child.node with
  | .text _ =>
    if snippet.allowText then do
      let subnode ← child.withType (some "LassoMiscTextNode")
      return subnode.toList.map (.node snippet.member <| some ·)
    else return []
  | .element .. => do
    let subnode ← child.withType snippet.className
    return [.node snippet.member (subnode.getD (miscTextNodeNewWithXmlNode child.node))]
  | _ => return []

/-- The children left when the cursor has run off the snippets. -/
def initLeftover (any : Option Snippet) (children : List ChildResult) : InitResult :=
  match any with
  | some snippet =>
    match snippet.kind with
    | .listXmlNodes => return .ok (children.map fun child => .xmlNode snippet.member child.node)
    | .listNodes => .ok <$> Outcome.gather (storeLeftover snippet) children
    | _ => .error .notReached
  | none => return if children.any (·.node.isElement) then .error 1 else .ok []

/-- The loop over the children, from a position of the cursor on. -/
def initChildren (snippets : List Snippet) (any : Option Snippet) (parent : XmlNode) :
    (cursor : Nat) → List ChildResult → InitResult
  | _, [] => return .ok []
  | cursor, child :: children =>
    if cursor < snippets.length then
      match child.node with
      | .text _ => do
        let stores ← storeText any child
        let rest ← initChildren snippets any parent cursor children
        return rest.map (stores ++ ·)
      | .comment _ | .pi .. => initChildren snippets any parent cursor children
      | .element .. =>
        match findSnippet snippets parent child.node (snippets.length + 1) cursor with
        | .found snippet cursor' => do
          let stores ← storeMatched snippet child
          let rest ← initChildren snippets any parent cursor' children
          return rest.map (stores ++ ·)
        | .missing => return .error 1
        | .endless => .error .endless
      | .cdata _ => .error .notReached
    else initLeftover any (child :: children)

/-- `lasso_node_impl_init_from_xml` -/
def implInit (place : PlacedNode) (children : List ChildResult) : InitResult :=
  match cls.chain with
  | [] => return .error 1
  | data :: _ =>
    if cls.nameMismatch R place.node then return .error 1
    else do
      let attributes ← collectAttributes searchNs cls data place.path place.node
      if cls.classList.isEmpty then .error .nullPointer
      else do
        let stores ← initChildren cls.snippets cls.snippetAny place.node
          (nextNodeSnippet cls.snippets 0) children
        return stores.map (textChildStores cls place.node ++ attributes ++ ·)

/-! ## Objects -/

/-- An element that `LassoMiscTextNode` fills itself in from: no attributes, and no child or a
text. -/
def isMiscText : XmlNode → Bool
  | .element _ _ [] [] => true
  | .element _ _ [] [.text _] => true
  | _ => false

/-- The members that tell what element a `LassoMiscTextNode` is. -/
def miscTextName (node : XmlNode) : List Store :=
  (node.ns.map (.content "ns_href")).toList ++ (node.elementName.map (.content "name")).toList

/-- The `init_from_xml` of a class. -/
def initFromXml (place : PlacedNode) (children : List ChildResult) : InitResult :=
  match cls.init with
  | .impl => implInit R searchNs cls place children
  | .after method => implInit R searchNs cls place children >>= method place.node
  | .own method => method place.node
  | .miscText =>
    match place.node with
    | .text content => return .ok [.content "content" content]
    | node =>
      if isMiscText node then do
        let stores ← implInit R searchNs cls place children
        return stores.map (· ++ miscTextName node)
      else return .ok [.xmlNode "xml_content" node]

/-- The class that `lasso_node_new_from_xmlNode_with_type` makes an object of. -/
def classFor (place : PlacedNode) (typename : Option String) : Option LassoNodeClass :=
  (typename.or (autoTypename R searchNs place.path place.node)).bind R.types

/-- `lasso_node_new_from_xmlNode_with_type` -/
def newFromXmlNodeWithType (place : PlacedNode) (children : List ChildResult)
    (typename : Option String) : Except Fault (Option ParsedNode) :=
  match classFor R searchNs place typename with
  | none => return none
  | some cls => do
    match ← initFromXml R searchNs cls place children with
    | .ok stores => return some (.mk cls.name stores)
    | .error _ => return none

/-- The object of a node, given the results of its children. -/
def childResult (place : PlacedNode) (children : List ChildResult) : ChildResult where
  node := place.node
  withType := newFromXmlNodeWithType R searchNs place children
  firstChild := (children.find? (·.node.isElement)).map (·.withType)

mutual

/-- The object of a node for every class that may be asked for. -/
def nodeResult (path : List Nat) : XmlNode → ChildResult
  | .element ns name attrs children =>
    childResult R searchNs ⟨path, .element ns name attrs children⟩ (nodeResults path 0 children)
  | .text content => childResult R searchNs ⟨path, .text content⟩ []
  | .cdata content => childResult R searchNs ⟨path, .cdata content⟩ []
  | .comment content => childResult R searchNs ⟨path, .comment content⟩ []
  | .pi target content => childResult R searchNs ⟨path, .pi target content⟩ []

def nodeResults (path : List Nat) (i : Nat) : List XmlNode → List ChildResult
  | [] => []
  | node :: nodes => nodeResult (path ++ [i]) node :: nodeResults path (i + 1) nodes

end

/-! ## The parser at a node -/

namespace PlacedNode

variable {R : Registry} {searchNs : NsScope} (place : PlacedNode)

def result (R : Registry) (searchNs : NsScope) (place : PlacedNode) : ChildResult :=
  nodeResult R searchNs place.path place.node

theorem nodeResults_eq_map (path : List Nat) (i : Nat) (nodes : List XmlNode) :
    nodeResults R searchNs path i nodes = (placeFrom path i nodes).map (·.result R searchNs) := by
  induction nodes generalizing i with
  | nil => rfl
  | cons node nodes ih => simp [nodeResults, placeFrom, result, ih]

/-- What a node gives is computed from what its children give. -/
theorem result_eq : place.result R searchNs =
    childResult R searchNs place (place.children.map (·.result R searchNs)) := by
  obtain ⟨path, node⟩ := place
  cases node <;> simp [result, nodeResult, nodeResults_eq_map, children, placeFrom,
    XmlNode.children]

@[simp] theorem result_node : (place.result R searchNs).node = place.node := by
  rw [result_eq, childResult]

end PlacedNode

/-- `lasso_node_new_from_xmlNode_with_type` at a node of the document. -/
def newWithType (place : PlacedNode) (typename : Option String) :
    Except Fault (Option ParsedNode) :=
  (place.result R searchNs).withType typename

/-- An object being filled in from a node. -/
structure ParseTask where
  cls : LassoNodeClass
  place : PlacedNode

/-- `lasso_node_init_from_xml` of the object. -/
def ParseTask.run (task : ParseTask) : InitResult :=
  initFromXml R searchNs task.cls task.place (task.place.children.map (·.result R searchNs))

variable {R searchNs cls}

/-! ## Attributes that are read -/

theorem returns_isOwnXsiType {data : NodeClassData} {path : List Nat} {attr : XmlAttr} :
    Outcome.Returns (isOwnXsiType searchNs data path attr) ↔
      (data.ns = none → attr.ns = some xsiHref → attr.name = "type" →
        ∀ pre localPart, splitQName attr.value = some (pre, localPart) →
          searchNs path pre = none) := by
  unfold isOwnXsiType
  by_cases hxsi : (attr.ns == some xsiHref && attr.name == "type") = true
  · obtain ⟨hns, hname⟩ : attr.ns = some xsiHref ∧ attr.name = "type" := by simpa using hxsi
    rw [if_pos hxsi]
    cases splitQName attr.value with
    | none => simp
    | some qname =>
      obtain ⟨pre, localPart⟩ := qname
      cases hsearch : searchNs path pre <;> cases data.ns <;> simp [hns, hname, hsearch]
  · rw [if_neg hxsi]
    simp only [Outcome.returns_pure, true_iff]
    intro _ hns hname
    simp [hns, hname] at hxsi

theorem returns_collectAttributes {data : NodeClassData} {path : List Nat} {node : XmlNode} :
    Outcome.Returns (collectAttributes searchNs cls data path node) ↔
      ∀ attr ∈ node.attrs, Outcome.Returns (isOwnXsiType searchNs data path attr) := by
  simp [collectAttributes, Outcome.returns_gather]

/-! ## Objects that are made -/

/-- Making an object is filling in one of the class asked for, and a failure leaves none. -/
theorem newWithType_eq (place : PlacedNode) (typename : Option String) :
    newWithType R searchNs place typename =
      match classFor R searchNs place typename with
      | none => .ok none
      | some cls =>
        (fun rc => rc.toOption.map (.mk cls.name)) <$> (ParseTask.mk cls place).run R searchNs := by
  rw [newWithType, PlacedNode.result_eq, childResult]
  simp only [newFromXmlNodeWithType]
  cases classFor R searchNs place typename with
  | none => rfl
  | some cls =>
    simp only [ParseTask.run]
    rcases initFromXml R searchNs cls place _ with fault | rc | stores <;> rfl

/-- The object made, and the class it was asked to be of. -/
theorem newWithType_eq_some {place : PlacedNode} {typename : Option String} {object : ParsedNode}
    (h : newWithType R searchNs place typename = .ok (some object)) :
    ∃ cls stores, classFor R searchNs place typename = some cls ∧
      object = .mk cls.name stores ∧
      (ParseTask.mk cls place).run R searchNs = .ok (.ok stores) := by
  rw [newWithType_eq] at h
  cases hcls : classFor R searchNs place typename with
  | none => simp [hcls] at h
  | some cls =>
    simp only [hcls] at h
    rcases hrun : (ParseTask.mk cls place).run R searchNs with fault | rc | stores
    · simp [hrun, Functor.map, Except.map] at h
    · simp [hrun, Functor.map, Except.map, Except.toOption] at h
    · refine ⟨cls, stores, rfl, ?_, hrun⟩
      simpa [hrun, Functor.map, Except.map, Except.toOption, eq_comm] using h

end Lasso
