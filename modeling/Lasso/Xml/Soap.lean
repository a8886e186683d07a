import Lasso.Strings
import Lasso.Xml.Node

/-!
# SOAP messages

The message of a SOAP envelope is found in two ways. The parsers follow the fixed path from the
Envelope over its optional Header to its Body (`getSoapContent`). The signature verification
evaluates the XPath expression `//s:Body/*` over the whole document and takes the first node of
the result (`xpathBodyChildren`). `head?_xpathBodyChildren` says what the second finds in terms of
the first.
-/

namespace Lasso

namespace XmlNode

/-- `lasso_xml_is_soap` -/
def isSoap (root : XmlNode) : Bool := root.isElementNode "Envelope" soapEnvHref

def isSoapBody (node : XmlNode) : Bool := node.isElementNode "Body" soapEnvHref

def isSoapHeader (node : XmlNode) : Bool := node.isElementNode "Header" soapEnvHref

/-- `lasso_xml_soap11_get_header`: the position of the Header among the envelope's children. -/
def soap11GetHeader (envelope : XmlNode) : Option Nat :=
  match nextElement envelope.children 0 with
  | some i => if envelope.children[i]?.any isSoapHeader then some i else none
  | none => none

/-- `lasso_xml_soap11_get_body`: the position of the Body among the envelope's children. -/
def soap11GetBody (envelope : XmlNode) : Option Nat :=
  -- optional Header node first
  let node := match soap11GetHeader envelope with
    | some i => nextElement envelope.children (i + 1)
    | none => nextElement envelope.children 0
  -- Body node is next
  match node with
  | some i => if envelope.children[i]?.any isSoapBody then some i else none
  | none => none

/-- `lasso_xml_get_soap_content`: the path of the message in the document. -/
def getSoapContent (root : XmlNode) : Option (List Nat) :=
  if root.isSoap then
    match soap11GetBody root with
    | some b =>
      match root.children[b]? with
      | some body => (nextElement body.children 0).map ([b, ·])
      | none => none
    | none => none
  else none

/-! ## The node set of `//s:Body/*` -/

mutual

/-- The paths, below a node, of the elements whose parent is a SOAP Body, in document order. -/
def bodyChildren : XmlNode → List (List Nat)
  | .element ns name attrs children =>
    bodyChildrenList (isSoapBody (.element ns name attrs children)) 0 children
  | .text _ | .cdata _ | .comment _ | .pi _ _ => []

/-- The same for consecutive children of one node, from position `i` on. -/
def bodyChildrenList (inBody : Bool) (i : Nat) : List XmlNode → List (List Nat)
  | [] => []
  | node :: nodes =>
    (if inBody && node.isElement then [[i]] else []) ++ node.bodyChildren.map (i :: ·) ++
      bodyChildrenList inBody (i + 1) nodes

end

/-- `xmlXPathEvalExpression("//s:Body/*")`: the node set, in document order. -/
def xpathBodyChildren (root : XmlNode) : List (List Nat) := root.bodyChildren

theorem bodyChildren_of_not_isElement {node : XmlNode} (h : node.isElement = false) :
    node.bodyChildren = [] := by
  cases node with
  | element => simp [isElement] at h
  | text | cdata | comment | pi => simp [bodyChildren]

theorem bodyChildren_eq (node : XmlNode) :
    node.bodyChildren = bodyChildrenList node.isSoapBody 0 node.children := by
  cases node with
  | element => simp [bodyChildren, children]
  | text | cdata | comment | pi => simp [bodyChildren, children, bodyChildrenList]

theorem bodyChildrenList_append (inBody : Bool) (i : Nat) (l l' : List XmlNode) :
    bodyChildrenList inBody i (l ++ l') =
      bodyChildrenList inBody i l ++ bodyChildrenList inBody (i + l.length) l' := by
  induction l generalizing i with
  | nil => simp [bodyChildrenList]
  | cons node l ih =>
    have hlen : i + 1 + l.length = i + (l.length + 1) := by omega
    simp [bodyChildrenList, ih, hlen]

theorem bodyChildrenList_eq_nil {inBody : Bool} {i : Nat} {l : List XmlNode}
    (h : ∀ node ∈ l, node.isElement = false) : bodyChildrenList inBody i l = [] := by
  induction l generalizing i with
  | nil => simp [bodyChildrenList]
  | cons node l ih =>
    have hnode : node.isElement = false := h node (by simp)
    have htail : ∀ node ∈ l, node.isElement = false := fun n hn => h n (by simp [hn])
    simp [bodyChildrenList, hnode, bodyChildren_of_not_isElement hnode, ih htail]

/-- Inside a Body the first element child comes first. -/
theorem head?_bodyChildrenList_body (i : Nat) (l : List XmlNode) :
    (bodyChildrenList true i l).head? = (l.findIdx? isElement).map (fun k => [i + k]) := by
  induction l generalizing i with
  | nil => simp [bodyChildrenList]
  | cons node l ih =>
    cases hnode : node.isElement with
    | true => simp [bodyChildrenList, hnode, List.findIdx?_cons]
    | false =>
      have hempty := bodyChildren_of_not_isElement hnode
      simp only [bodyChildrenList, hnode, hempty, List.findIdx?_cons]
      simp only [Bool.and_false, Bool.false_eq_true, if_false, List.map_nil, List.nil_append, ih,
        Option.map_map]
      congr 1
      funext k
      simp only [Function.comp, List.cons.injEq, and_true]
      omega

/-- Skipping to the next element skips nothing of the node set. -/
theorem bodyChildrenList_drop (inBody : Bool) {children : List XmlNode} {start i : Nat}
    (h : nextElement children start = some i) :
    ∃ node, children[i]? = some node ∧
      bodyChildrenList inBody start (children.drop start) =
        bodyChildrenList inBody i (node :: children.drop (i + 1)) := by
  obtain ⟨gap, node, rest, hdrop, rfl, hgap, -⟩ := nextElement_eq_some h
  have hsplit : children.drop (start + gap.length) = node :: rest := by
    rw [← List.drop_drop, hdrop, List.drop_left]
  have hrest : children.drop (start + gap.length + 1) = rest := by
    rw [← List.drop_drop, hsplit, List.drop_succ_cons, List.drop_zero]
  refine ⟨node, ?_, ?_⟩
  · rw [← Nat.add_zero (start + gap.length), ← List.getElem?_drop, hsplit]
    rfl
  · rw [hdrop, bodyChildrenList_append, bodyChildrenList_eq_nil hgap, hrest, List.nil_append]

/-- The first element child of a Body nested in the envelope's Header. -/
def headerBodyChild (envelope : XmlNode) : Option (List Nat) :=
  (soap11GetHeader envelope).bind fun h =>
    envelope.children[h]?.bind fun header => header.bodyChildren.head?.map (h :: ·)

/-- The first element child of a Body that follows the envelope's own Body. -/
def followingBodyChild (envelope : XmlNode) : Option (List Nat) :=
  (soap11GetBody envelope).bind fun b =>
    (bodyChildrenList false (b + 1) (envelope.children.drop (b + 1))).head?

/-- The first element child of a Body which `//s:Body/*` designates although the message is
another one: in the Header, or after the own Body when this one has no element. -/
def strayBodyChild (root : XmlNode) : Option (List Nat) :=
  (headerBodyChild root).or
    (if (getSoapContent root).isSome then none else followingBodyChild root)

theorem isSoapBody_of_isSoap {root : XmlNode} (h : root.isSoap) : root.isSoapBody = false := by
  cases root with
  | element ns name attrs children =>
    have hname : name = "Envelope" := by
      simp only [isSoap, isElementNode, Bool.and_eq_true, beq_iff_eq] at h
      exact h.1
    simp [isSoapBody, isElementNode, hname]
  | text | cdata | comment | pi => rfl

theorem soap11GetHeader_eq_some {envelope : XmlNode} {h : Nat}
    (hh : soap11GetHeader envelope = some h) : nextElement envelope.children 0 = some h := by
  unfold soap11GetHeader at hh
  split at hh
  · split_ifs at hh
    simp_all
  · cases hh

/-- Where the Body is found: right after the Header, if there is one. -/
theorem soap11GetBody_eq_some {envelope : XmlNode} {b : Nat}
    (hb : soap11GetBody envelope = some b) :
    nextElement envelope.children ((soap11GetHeader envelope).elim 0 (· + 1)) = some b ∧
      ∃ body, envelope.children[b]? = some body ∧ body.isSoapBody := by
  unfold soap11GetBody at hb
  have hstart : (match soap11GetHeader envelope with
      | some i => nextElement envelope.children (i + 1)
      | none => nextElement envelope.children 0) =
      nextElement envelope.children ((soap11GetHeader envelope).elim 0 (· + 1)) := by
    cases soap11GetHeader envelope <;> rfl
  simp only [hstart] at hb
  split at hb
  · rename_i i hi
    split_ifs at hb with hbody
    obtain rfl : i = b := by simpa using hb
    exact ⟨hi, by simpa [Option.any_eq_true] using hbody⟩
  · cases hb

/-- The Header comes before the Body. -/
theorem soap11GetHeader_lt {envelope : XmlNode} {h b : Nat}
    (hh : soap11GetHeader envelope = some h) (hb : soap11GetBody envelope = some b) : h < b := by
  have hnext := (soap11GetBody_eq_some hb).1
  obtain ⟨gap, -, -, -, hpos, -⟩ := nextElement_eq_some hnext
  simp only [hh, Option.elim_some] at hpos
  omega

theorem body_of_getSoapContent {root : XmlNode} {path : List Nat}
    (h : getSoapContent root = some path) :
    root.isSoap = true ∧ ∃ b, soap11GetBody root = some b := by
  unfold getSoapContent at h
  split_ifs at h with hsoap
  split at h
  · rename_i b hb
    exact ⟨hsoap, b, hb⟩
  · cases h

theorem getSoapContent_eq {root body : XmlNode} {b : Nat} (hsoap : root.isSoap)
    (hb : soap11GetBody root = some b) (hbody : root.children[b]? = some body) :
    getSoapContent root = (nextElement body.children 0).map ([b, ·]) := by
  simp [getSoapContent, hsoap, hb, hbody]

/-- The children of the envelope before the Body contribute what lies in the Header. -/
theorem head?_bodyChildrenList_envelope {root : XmlNode} {b : Nat}
    (hb : soap11GetBody root = some b) :
    (bodyChildrenList false 0 root.children).head? =
      (headerBodyChild root).or
        (bodyChildrenList false b (root.children.drop b)).head? := by
  have hnext := (soap11GetBody_eq_some hb).1
  have hbeyond : ∀ start, nextElement root.children start = some b →
      bodyChildrenList false start (root.children.drop start) =
        bodyChildrenList false b (root.children.drop b) := by
    intro start hstart
    obtain ⟨node, hnode, hlist⟩ := bodyChildrenList_drop false hstart
    obtain ⟨hlt, rfl⟩ := List.getElem?_eq_some_iff.mp hnode
    rw [hlist, List.drop_eq_getElem_cons hlt]
  cases hh : soap11GetHeader root with
  | none =>
    have hzero := hbeyond 0 (by simpa [hh] using hnext)
    rw [List.drop_zero] at hzero
    simp [headerBodyChild, hh, hzero]
  | some h =>
    obtain ⟨header, hheader, hlist⟩ :=
      bodyChildrenList_drop false (soap11GetHeader_eq_some hh)
    rw [List.drop_zero] at hlist
    have hrest := hbeyond (h + 1) (by simpa [hh] using hnext)
    simp [hlist, bodyChildrenList, headerBodyChild, hh, hheader, hrest]

/-- What the XPath expression designates first: an element nested in the Header, then the message
itself, then an element of a later Body. -/
theorem head?_xpathBodyChildren {root : XmlNode} {b : Nat} (hsoap : root.isSoap)
    (hb : soap11GetBody root = some b) :
    (xpathBodyChildren root).head? =
      (headerBodyChild root).or ((getSoapContent root).or (followingBodyChild root)) := by
  obtain ⟨-, body, hbody, hisBody⟩ := soap11GetBody_eq_some hb
  obtain ⟨hlt, rfl⟩ := List.getElem?_eq_some_iff.mp hbody
  rw [xpathBodyChildren, bodyChildren_eq, isSoapBody_of_isSoap hsoap,
    head?_bodyChildrenList_envelope hb, getSoapContent_eq hsoap hb hbody,
    List.drop_eq_getElem_cons hlt]
  congr 1
  have hown : (bodyChildren root.children[b]).head? =
      (nextElement root.children[b].children 0).map ([·]) := by
    rw [bodyChildren_eq, hisBody, head?_bodyChildrenList_body]
    simp [nextElement]
  simp [bodyChildrenList, followingBodyChild, hb, hown, Function.comp_def]

theorem head?_xpathBodyChildren_of_stray {root : XmlNode} {b : Nat} {p : List Nat}
    (hsoap : root.isSoap) (hb : soap11GetBody root = some b) (hp : strayBodyChild root = some p) :
    (xpathBodyChildren root).head? = some p := by
  rw [head?_xpathBodyChildren hsoap hb]
  unfold strayBodyChild at hp
  cases hhead : headerBodyChild root <;> cases hcontent : getSoapContent root <;> simp_all

theorem head?_xpathBodyChildren_of_not_stray {root : XmlNode} {b : Nat}
    (hsoap : root.isSoap) (hb : soap11GetBody root = some b) (hp : strayBodyChild root = none) :
    (xpathBodyChildren root).head? = getSoapContent root := by
  rw [head?_xpathBodyChildren hsoap hb]
  unfold strayBodyChild at hp
  cases hhead : headerBodyChild root <;> cases hcontent : getSoapContent root <;> simp_all

/-- A stray element is never the message. -/
theorem getSoapContent_ne_stray {root : XmlNode} {b : Nat} {p : List Nat}
    (hsoap : root.isSoap) (hb : soap11GetBody root = some b) (hp : strayBodyChild root = some p) :
    getSoapContent root ≠ some p := by
  intro hcontent
  obtain ⟨-, body, hbody, -⟩ := soap11GetBody_eq_some hb
  have hheader : headerBodyChild root = some p := by
    simpa [strayBodyChild, hcontent] using hp
  unfold headerBodyChild at hheader
  obtain ⟨h, hh, hrest⟩ := Option.bind_eq_some_iff.mp hheader
  obtain ⟨header, -, hmap⟩ := Option.bind_eq_some_iff.mp hrest
  obtain ⟨q, -, rfl⟩ := Option.map_eq_some_iff.mp hmap
  rw [getSoapContent_eq hsoap hb hbody] at hcontent
  obtain ⟨c, -, heq⟩ := Option.map_eq_some_iff.mp hcontent
  have hlt := soap11GetHeader_lt hh hb
  have hbh : b = h := by simpa using congrArg List.head? heq
  omega

end XmlNode

end Lasso
