import Mathlib.Data.List.Basic

/-!
# XML trees

A parsed document is the tree of its root element. Nodes are addressed by the list of child
positions that leads to them, so that two nodes with the same content stay different nodes.

## Main definitions

* `XmlNode` — the nodes of a parsed document.
* `XmlNode.at?` — the node at a path.
* `XmlNode.getProp` — `xmlGetProp`.
* `NodeRef` — a node together with its document, which an `xmlNode *` leads to.
-/

namespace Lasso

structure XmlAttr where
  name : String
  ns : Option String := none
  value : String
deriving DecidableEq

inductive XmlNode where
  | element (ns : Option String) (name : String) (attrs : List XmlAttr) (children : List XmlNode)
  | text (content : String)
  | cdata (content : String)
  | comment (content : String)
  | pi (target content : String)

namespace XmlNode

def isElement : XmlNode → Bool
  | element .. => true
  | _ => false

def children : XmlNode → List XmlNode
  | element _ _ _ children => children
  | _ => []

def attrs : XmlNode → List XmlAttr
  | element _ _ attrs _ => attrs
  | _ => []

/-- `node->name`, for an element. -/
def elementName : XmlNode → Option String
  | element _ name _ _ => some name
  | _ => none

/-- `xmlSecGetNextElementNode (node->children)` -/
def firstElement (node : XmlNode) : Option XmlNode := node.children.find? (·.isElement)

/-- `xmlSecGetNodeNsHref`; a document without a default namespace gives `none`. -/
def ns : XmlNode → Option String
  | element ns .. => ns
  | _ => none

/-- `lasso_xml_is_element_node`, and `xmlSecCheckNodeName`. -/
def isElementNode (name ns : String) : XmlNode → Bool
  | element ns' name' _ _ => name' == name && ns' == some ns
  | _ => false

theorem isElementNode_iff {node : XmlNode} {name ns : String} :
    node.isElementNode name ns = true ↔
      ∃ attrs children, node = .element (some ns) name attrs children := by
  cases node with
  | element ns' name' attrs children => simp [isElementNode, and_comm]
  | _ => simp [isElementNode]

/-- `xmlGetProp`: the first attribute with that local name, whatever its namespace. -/
def getProp (node : XmlNode) (name : String) : Option String :=
  (node.attrs.find? (·.name == name)).map (·.value)

/-- `xmlGetNsProp` -/
def getNsProp (node : XmlNode) (name ns : String) : Option String :=
  (node.attrs.find? fun attr => attr.name == name && attr.ns == some ns).map (·.value)

/-- `xmlSecFindChild` -/
def findChild (node : XmlNode) (name ns : String) : Option XmlNode :=
  node.children.find? (·.isElementNode name ns)

mutual

/-- `xmlNodeGetContent`: the character data at any depth. -/
def textContent : XmlNode → String
  | element _ _ _ children => textContents children
  | text content => content
  | cdata content => content
  | comment _ => ""
  | pi .. => ""

def textContents : List XmlNode → String
  | [] => ""
  | node :: nodes => textContent node ++ textContents nodes

end

theorem textContent_text (ns : Option String) (name : String) (attrs : List XmlAttr)
    (content : String) : (element ns name attrs [.text content]).textContent = content := by
  simp [textContent, textContents]

/-- The node that the child positions `path` lead to. -/
def at? (node : XmlNode) : List Nat → Option XmlNode
  | [] => some node
  | i :: path => node.children[i]?.bind (·.at? path)

@[simp] theorem at?_nil (node : XmlNode) : node.at? [] = some node := by
  cases node <;> rfl

@[simp] theorem at?_cons (node : XmlNode) (i : Nat) (path : List Nat) :
    node.at? (i :: path) = node.children[i]?.bind (·.at? path) := by
  cases node <;> rfl

theorem at?_append (node : XmlNode) (p q : List Nat) :
    node.at? (p ++ q) = (node.at? p).bind (·.at? q) := by
  induction p generalizing node with
  | nil => simp
  | cons i p ih =>
    rw [List.cons_append, at?_cons, at?_cons, Option.bind_assoc]
    exact congrArg _ (funext fun child => ih child)

/-- `lasso_xml_next_element_node` from the child at position `start`: the position of the first
element at or after it. -/
def nextElement (children : List XmlNode) (start : Nat) : Option Nat :=
  ((children.drop start).findIdx? isElement).map (start + ·)

theorem findIdx?_isElement_eq_some {l : List XmlNode} {k : Nat}
    (h : l.findIdx? isElement = some k) :
    ∃ gap node rest, l = gap ++ node :: rest ∧ gap.length = k ∧
      (∀ n ∈ gap, n.isElement = false) ∧ node.isElement = true := by
  induction l generalizing k with
  | nil => simp at h
  | cons node l ih =>
    cases hnode : node.isElement with
    | true =>
      simp only [List.findIdx?_cons, hnode, if_true, Option.some.injEq] at h
      exact ⟨[], node, l, rfl, h, by simp, hnode⟩
    | false =>
      simp only [List.findIdx?_cons, hnode, Bool.false_eq_true, if_false,
        Option.map_eq_some_iff] at h
      obtain ⟨k', hk', rfl⟩ := h
      obtain ⟨gap, node', rest, rfl, rfl, hgap, hel⟩ := ih hk'
      refine ⟨node :: gap, node', rest, rfl, rfl, ?_, hel⟩
      intro n hn
      rcases List.mem_cons.mp hn with rfl | hn
      · exact hnode
      · exact hgap n hn

/-- The next element is reached over nodes that are no elements. -/
theorem nextElement_eq_some {children : List XmlNode} {start i : Nat}
    (h : nextElement children start = some i) :
    ∃ gap node rest, children.drop start = gap ++ node :: rest ∧ start + gap.length = i ∧
      (∀ n ∈ gap, n.isElement = false) ∧ node.isElement = true := by
  obtain ⟨k, hk, rfl⟩ := Option.map_eq_some_iff.mp h
  obtain ⟨gap, node, rest, hdrop, rfl, hgap, hel⟩ := findIdx?_isElement_eq_some hk
  exact ⟨gap, node, rest, hdrop, rfl, hgap, hel⟩

end XmlNode

/-- A node of a document: the document's root element and the path of the node in it. -/
structure NodeRef where
  root : XmlNode
  path : List Nat
  node : XmlNode
  isAt : root.at? path = some node

namespace NodeRef

/-- The node at a path, if the document has one there. -/
def at? (root : XmlNode) (path : List Nat) : Option NodeRef :=
  match h : root.at? path with
  | some node => some ⟨root, path, node, h⟩
  | none => none

/-- The root element, or a detached node made the root of a document of its own. -/
def ofRoot (node : XmlNode) : NodeRef := ⟨node, [], node, node.at?_nil⟩

theorem at?_eq_some {root : XmlNode} {path : List Nat} {r : NodeRef}
    (h : at? root path = some r) : r.root = root ∧ r.path = path := by
  unfold at? at h
  split at h
  · cases h
    exact ⟨rfl, rfl⟩
  · cases h

theorem at?_of_at? {root node : XmlNode} {path : List Nat} (h : root.at? path = some node) :
    at? root path = some ⟨root, path, node, h⟩ := by
  unfold at?
  split
  · rename_i node' h'
    obtain rfl : node' = node := Option.some.inj (h'.symm.trans h)
    rfl
  · simp_all

end NodeRef

end Lasso
