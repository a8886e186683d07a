import Lasso.Xml.InitCalls
import Lasso.Xml.NodeClass

/-!
# The issuer of a message before it is parsed

`getIssuer` and `getInResponseTo` look for the issuer and the InResponseTo of a message in the first
elements that an XML reader comes to. An application asks them which server is to process the
message.

## Main definitions

* `getIssuer`, `getInResponseTo` — `lasso_profile_get_issuer`, `lasso_profile_get_in_response_to`.
* `LookAheadAgrees` — they give what the parsed message has.
* `InView` — what is asked for is among the first elements.

## Main results

* `getIssuer_of_soap` — the issuer of a SOAP message without Header is never found.
* `lookAheadAgrees_iff` — for which messages they agree with the parser.
-/

namespace Lasso

/-! ## Elements in document order -/

namespace XmlNode

mutual

/-- The elements of a tree in document order. -/
def elements : XmlNode → List XmlNode
  | element ns name attrs children => element ns name attrs children :: elementsList children
  | text _ | cdata _ | comment _ | pi _ _ => []

def elementsList : List XmlNode → List XmlNode
  | [] => []
  | node :: nodes => node.elements ++ elementsList nodes

end

/-- `xmlGetNoNsProp` -/
def getNoNsProp (node : XmlNode) (name : String) : Option String :=
  (node.attrs.find? fun attr => attr.name == name && attr.ns == none).map (·.value)

theorem elements_of_isElement {node : XmlNode} (h : node.isElement = true) :
    node.elements = node :: elementsList node.children := by
  cases node with
  | element => rfl
  | _ => cases h

theorem elements_of_not_isElement {node : XmlNode} (h : node.isElement = false) :
    node.elements = [] := by
  cases node with
  | element => cases h
  | _ => rfl

theorem elementsList_append (l l' : List XmlNode) :
    elementsList (l ++ l') = elementsList l ++ elementsList l' := by
  induction l with
  | nil => rfl
  | cons node l ih => rw [List.cons_append, elementsList, elementsList, ih, List.append_assoc]

mutual

theorem isElement_of_mem_elements : ∀ (node : XmlNode), ∀ e ∈ node.elements, e.isElement = true
  | element ns name attrs children, e, he => by
    rw [elements] at he
    rcases List.mem_cons.mp he with rfl | he
    · rfl
    · exact isElement_of_mem_elementsList children e he
  | text _, e, he | cdata _, e, he | comment _, e, he | pi _ _, e, he => by
    cases he

theorem isElement_of_mem_elementsList :
    ∀ (nodes : List XmlNode), ∀ e ∈ elementsList nodes, e.isElement = true
  | [], e, he => by
    cases he
  | node :: nodes, e, he => by
    rw [elementsList] at he
    rcases List.mem_append.mp he with he | he
    · exact isElement_of_mem_elements node e he
    · exact isElement_of_mem_elementsList nodes e he

end

end XmlNode

/-! ## The reader -/

/-- A node that `xmlTextReaderRead` comes to: the start of an element, with what
`xmlTextReaderExpand` makes of it, or something else. -/
inductive ReaderNode where
  | element (name : String) (ns : Option String) (attrs : List XmlAttr) (expanded : Option XmlNode)
  | other

namespace ReaderNode

/-- `xmlTextReaderNodeType (reader) == 1` -/
def isElement : ReaderNode → Bool
  | element .. => true
  | other => false

/-- The start of an element of a document. -/
def ofXmlNode (node : XmlNode) : ReaderNode :=
  match node with
  | .element ns name attrs _ => element name ns attrs (some node)
  | _ => other

end ReaderNode

/-- `xmlReaderForMemory`, and the nodes that `xmlTextReaderRead` comes to before it ends or
fails. -/
structure TextReader where
  nodes : Bytes → List ReaderNode

/-- The reader comes to the elements of a well-formed document in their order. -/
structure TextReader.Documented (reader : TextReader) (env : Env) : Prop where
  elements : ∀ text doc, env.parseMemory text = some doc →
    (reader.nodes text).filter (·.isElement) = doc.elements.map .ofXmlNode

/-! ## The look-ahead -/

/-- `extract_issuer`; `strcmp` of a missing namespace reads a `NULL` pointer. -/
def extractIssuer (name : String) (ns : Option String) (expanded : Option XmlNode) :
    Except Fault (Option String) :=
  if name ≠ "Issuer" then .ok none
  else
    match ns with
    | none => .error .nullPointer
    | some nsUri =>
      if nsUri ≠ saml2AssertionHref then .ok none else .ok (expanded.map (·.textContent))

/-- The loop of `lasso_profile_get_issuer`, which gives up after three elements. -/
def scanIssuer (count : Nat) : List ReaderNode → Except Fault (Option String)
  | [] => .ok none
  | .element name ns _ expanded :: nodes =>
    match extractIssuer name ns expanded with
    | .error fault => .error fault
    | .ok (some issuer) => .ok (some issuer)
    | .ok none => if count + 1 = 3 then .ok none else scanIssuer (count + 1) nodes
  | .other :: nodes => if count = 3 then .ok none else scanIssuer count nodes

/-- `lasso_profile_get_issuer` -/
def getIssuer (env : Env) (reader : TextReader) (message : Bytes) :
    Except Fault (Option String) :=
  match (xmltextreaderFromMessage env message).document with
  | none => .ok none
  | some text => scanIssuer 0 (reader.nodes text)

/-- `lasso_profile_get_in_response_to`, which stops at the first element. -/
def getInResponseTo (env : Env) (reader : TextReader) (message : Bytes) : Option String :=
  match (xmltextreaderFromMessage env message).document with
  | none => none
  | some text =>
    match (reader.nodes text).find? (·.isElement) with
    | some (.element _ _ attrs _) =>
      (attrs.find? fun attr => attr.name == "InResponseTo" && attr.ns == none).map (·.value)
    | _ => none

/-! ## The parsed message -/

/-- The element that a node was initialised from by a message that was read. -/
def messageElement {α : Type*} (env : Env) (initFromXml : α → Option XmlNode → Rc × α) (node : α)
    (message : Bytes) : Option XmlNode :=
  let m := readMessage env initFromXml node message
  match m.format with
  | .xml | .soap | .base64 => m.root.map (·.node)
  | .query => (nodeDocument env initFromXml node message).bind env.parseMemory
  | .xschemaError | .error | .unknown => none

/-- The content of the Issuer child of a request or response. -/
def XmlNode.issuer (root : XmlNode) : Option String :=
  (root.findChild "Issuer" saml2AssertionHref).map (·.textContent)

/-- The look-ahead gives what the parsed request or response has. -/
def LookAheadAgrees {α : Type*} (env : Env) (reader : TextReader)
    (initFromXml : α → Option XmlNode → Rc × α) (node : α) (message : Bytes) : Prop :=
  ∀ root, messageElement env initFromXml node message = some root →
    root.ns = some saml2ProtocolHref →
      getIssuer env reader message = .ok root.issuer ∧
        getInResponseTo env reader message = root.getNoNsProp "InResponseTo"

/-! ## What is in view -/

/-- The content of an Issuer that can be expanded. -/
def ReaderNode.issuer : ReaderNode → Option String
  | element name (some ns) _ (some expanded) =>
    if name = "Issuer" ∧ ns = saml2AssertionHref then some expanded.textContent else none
  | _ => none

/-- An Issuer without a namespace. -/
def ReaderNode.isBare : ReaderNode → Bool
  | element name none _ _ => name == "Issuer"
  | _ => false

/-- An element that the scan passes over. -/
def ReaderNode.IsPassed (node : ReaderNode) : Prop := node.issuer = none ∧ node.isBare = false

/-- The first Issuer among the elements, if there is any, has this content. -/
def FirstIssuer (elements : List ReaderNode) : Option String → Prop
  | none => ∀ node ∈ elements, node.IsPassed
  | some content => ∃ before node after, elements = before ++ node :: after ∧
      (∀ node ∈ before, node.IsPassed) ∧ node.issuer = some content

/-- The elements in front of the Issuer child, without the root. -/
def XmlNode.beforeIssuer (root : XmlNode) : List XmlNode :=
  XmlNode.elementsList
    (root.children.takeWhile fun child => !child.isElementNode "Issuer" saml2AssertionHref)

/-- The Issuer child is the second or third element. An Issuer in front of it, within another
element, does no harm if it says the same. -/
def IssuerInView (root : XmlNode) : Prop :=
  let before := root.beforeIssuer.map .ofXmlNode
  (root.issuer.isSome ∧ before.length ≤ 1 ∧ ∀ node ∈ before, node.IsPassed) ∨
    FirstIssuer (before.take 2) root.issuer

/-- The first three elements that the reader of a message comes to. -/
def readerView (env : Env) (reader : TextReader) (message : Bytes) : List ReaderNode :=
  match (xmltextreaderFromMessage env message).document with
  | none => []
  | some text => ((reader.nodes text).filter (·.isElement)).take 3

def ReaderNode.inResponseTo : ReaderNode → Option String
  | element _ _ attrs _ =>
    (attrs.find? fun attr => attr.name == "InResponseTo" && attr.ns == none).map (·.value)
  | other => none

/-- The reader is made of a document with this root. -/
def ReadsRoot (env : Env) (message : Bytes) (root : XmlNode) : Prop :=
  ∃ text, (xmltextreaderFromMessage env message).document = some text ∧
    env.parseMemory text = some root

/-- What the look-ahead is asked for is in view. In the document of a request or response this is
about the Issuer only. A SOAP message shows its envelope instead, and a message that the reader
takes for something else shows nothing or another document: there is nothing to be found then,
unless the first elements say the same by chance. -/
structure InView (env : Env) (reader : TextReader) (message : Bytes) (root : XmlNode) : Prop where
  own : ReadsRoot env message root → IssuerInView root
  other : ¬ ReadsRoot env message root →
    FirstIssuer (readerView env reader message) root.issuer ∧
      (readerView env reader message).head?.bind (·.inResponseTo) =
        root.getNoNsProp "InResponseTo"

/-! ## The scan -/

section Scan

variable {elements : List ReaderNode} {node : ReaderNode} {issuer : Option String}

theorem firstIssuer_nil : FirstIssuer [] issuer ↔ issuer = none := by
  cases issuer with
  | none => simp [FirstIssuer]
  | some content => simp [FirstIssuer]

/-- Either the first element has the Issuer, or it is passed over. -/
theorem firstIssuer_cons :
    FirstIssuer (node :: elements) issuer ↔
      node.IsPassed ∧ FirstIssuer elements issuer ∨
        node.issuer.isSome ∧ issuer = node.issuer := by
  cases issuer with
  | none =>
    rw [FirstIssuer, FirstIssuer, List.forall_mem_cons]
    constructor
    · exact .inl
    · rintro (h | ⟨hsome, hnone⟩)
      · exact h
      · rw [← hnone] at hsome
        cases hsome
  | some content =>
    constructor
    · rintro ⟨before, found, after, heq, hbefore, hfound⟩
      cases before with
      | nil =>
        obtain ⟨rfl, -⟩ := List.cons.inj heq
        exact .inr ⟨by rw [hfound]; rfl, hfound.symm⟩
      | cons _ before =>
        obtain ⟨rfl, rfl⟩ := List.cons.inj heq
        obtain ⟨hpassed, hbefore⟩ := List.forall_mem_cons.mp hbefore
        exact .inl ⟨hpassed, before, found, after, rfl, hbefore, hfound⟩
    · rintro (⟨hpassed, before, found, after, rfl, hbefore, hfound⟩ | ⟨-, hissuer⟩)
      · exact ⟨node :: before, found, after, rfl, List.forall_mem_cons.mpr ⟨hpassed, hbefore⟩,
          hfound⟩
      · exact ⟨[], node, elements, rfl, by simp, hissuer.symm⟩

theorem firstIssuer_passed (h : node.IsPassed) :
    FirstIssuer (node :: elements) issuer ↔ FirstIssuer elements issuer := by
  rw [firstIssuer_cons, h.1]
  simp [h]

theorem firstIssuer_issuer {content : String} (h : node.issuer = some content) :
    FirstIssuer (node :: elements) issuer ↔ issuer = some content := by
  rw [firstIssuer_cons, ReaderNode.IsPassed, h]
  simp

theorem not_firstIssuer_bare (h : node.isBare = true) :
    ¬ FirstIssuer (node :: elements) issuer := by
  have hissuer : node.issuer = none := by
    cases node with
    | element name ns attrs expanded =>
      cases ns with
      | none => rfl
      | some ns => cases h
    | other => rfl
  rw [firstIssuer_cons, ReaderNode.IsPassed, hissuer, h]
  simp

/-- What the scan makes of one element. -/
theorem extractIssuer_cases (name : String) (ns : Option String) (attrs : List XmlAttr)
    (expanded : Option XmlNode) :
    let node := ReaderNode.element name ns attrs expanded
    (node.isBare = true ∧ extractIssuer name ns expanded = .error .nullPointer) ∨
      (node.IsPassed ∧ extractIssuer name ns expanded = .ok none) ∨
        ∃ content, node.issuer = some content ∧
          extractIssuer name ns expanded = .ok (some content) := by
  by_cases hname : name = "Issuer"
  · subst hname
    cases ns with
    | none => exact .inl ⟨rfl, rfl⟩
    | some ns =>
      by_cases hns : ns = saml2AssertionHref
      · subst hns
        cases expanded with
        | none => exact .inr (.inl ⟨⟨rfl, rfl⟩, rfl⟩)
        | some expanded => exact .inr (.inr ⟨expanded.textContent, rfl, rfl⟩)
      · refine .inr (.inl ⟨⟨?_, rfl⟩, ?_⟩)
        · cases expanded <;> simp [ReaderNode.issuer, hns]
        · simp [extractIssuer, hns]
  · refine .inr (.inl ⟨⟨?_, ?_⟩, if_pos hname⟩)
    · cases ns <;> cases expanded <;> simp [ReaderNode.issuer, hname]
    · cases ns <;> simp [ReaderNode.isBare, hname]

/-- The scan gives the first Issuer among the elements that are left to it. -/
theorem scanIssuer_eq_ok_iff (nodes : List ReaderNode) {count : Nat} (hcount : count < 3)
    (issuer : Option String) :
    scanIssuer count nodes = .ok issuer ↔
      FirstIssuer ((nodes.filter (·.isElement)).take (3 - count)) issuer := by
  induction nodes generalizing count with
  | nil =>
    rw [List.filter_nil, List.take_nil, firstIssuer_nil, scanIssuer]
    simp [eq_comm]
  | cons node nodes ih =>
    cases node with
    | other =>
      rw [scanIssuer, if_neg (by omega), ih hcount]
      rfl
    | element name ns attrs expanded =>
      have htake : ((ReaderNode.element name ns attrs expanded :: nodes).filter
          (·.isElement)).take (3 - count) = .element name ns attrs expanded ::
            (nodes.filter (·.isElement)).take (3 - (count + 1)) := by
        rw [List.filter_cons_of_pos rfl, show 3 - count = 3 - (count + 1) + 1 by omega,
          List.take_succ_cons]
      rw [htake, scanIssuer]
      obtain ⟨hbare, hextract⟩ | ⟨hpassed, hextract⟩ | ⟨content, hissuer, hextract⟩ :=
        extractIssuer_cases name ns attrs expanded
      · rw [hextract]
        exact iff_of_false nofun (not_firstIssuer_bare hbare)
      · rw [hextract, firstIssuer_passed hpassed]
        dsimp only
        split_ifs with hthird
        · rw [show 3 - (count + 1) = 0 by omega, List.take_zero, firstIssuer_nil]
          simp [eq_comm]
        · exact ih (by omega)
      · rw [hextract, firstIssuer_issuer hissuer]
        simp [eq_comm]

theorem getIssuer_eq_ok_iff {env : Env} {reader : TextReader} {message : Bytes} :
    getIssuer env reader message = .ok issuer ↔
      FirstIssuer (readerView env reader message) issuer := by
  unfold getIssuer readerView
  cases (xmltextreaderFromMessage env message).document with
  | none =>
    rw [firstIssuer_nil]
    simp [eq_comm]
  | some text => exact scanIssuer_eq_ok_iff _ (by decide) _

theorem getInResponseTo_eq {env : Env} {reader : TextReader} {message : Bytes} :
    getInResponseTo env reader message =
      (readerView env reader message).head?.bind (·.inResponseTo) := by
  unfold getInResponseTo readerView
  cases (xmltextreaderFromMessage env message).document with
  | none => rfl
  | some text =>
    dsimp only
    rw [← List.head?_filter, List.head?_take, if_neg (by decide)]
    cases ((reader.nodes text).filter (·.isElement)).head? with
    | none => rfl
    | some node => cases node <;> rfl

end Scan

/-! ## The message's own document -/

section Own

variable {root : XmlNode}

theorem XmlNode.mem_of_elementsList_eq_singleton {nodes : List XmlNode} {e : XmlNode}
    (h : elementsList nodes = [e]) : e ∈ nodes := by
  induction nodes with
  | nil => cases h
  | cons node nodes ih =>
    rw [elementsList] at h
    cases hnode : node.isElement with
    | true =>
      rw [elements_of_isElement hnode, List.cons_append] at h
      obtain ⟨rfl, -⟩ := List.cons.inj h
      exact List.mem_cons_self
    | false =>
      rw [elements_of_not_isElement hnode, List.nil_append] at h
      exact List.mem_cons_of_mem _ (ih h)

/-- Each element is passed over, or is an Issuer with or without a namespace. -/
theorem ReaderNode.passed_or (node : ReaderNode) :
    node.IsPassed ∨ node.isBare = true ∨ ∃ content, node.issuer = some content := by
  rcases hbare : node.isBare with _ | _
  · rcases hissuer : node.issuer with _ | content
    · exact .inl ⟨hissuer, hbare⟩
    · exact .inr (.inr ⟨content, rfl⟩)
  · exact .inr (.inl rfl)

theorem isIssuer_of_issuer {node : XmlNode} {content : String}
    (h : (ReaderNode.ofXmlNode node).issuer = some content) :
    node.isElementNode "Issuer" saml2AssertionHref = true := by
  cases node with
  | element ns name attrs children =>
    cases ns with
    | none => cases h
    | some ns =>
      simp only [ReaderNode.ofXmlNode, ReaderNode.issuer, Option.ite_none_right_eq_some] at h
      simp [XmlNode.isElementNode, h.1]
  | _ => cases h

theorem issuer_of_isIssuer {node : XmlNode}
    (h : node.isElementNode "Issuer" saml2AssertionHref = true) :
    (ReaderNode.ofXmlNode node).issuer = some node.textContent := by
  obtain ⟨attrs, children, rfl⟩ := XmlNode.isElementNode_iff.mp h
  rfl

/-- The root of a request or response is passed over. -/
theorem passed_of_protocol (hns : root.ns = some saml2ProtocolHref) :
    (ReaderNode.ofXmlNode root).IsPassed := by
  cases root with
  | element ns name attrs children =>
    obtain rfl : ns = some saml2ProtocolHref := hns
    refine ⟨?_, rfl⟩
    have hne : saml2ProtocolHref ≠ saml2AssertionHref := by decide
    simp [ReaderNode.ofXmlNode, ReaderNode.issuer, hne]
  | _ => cases hns

theorem isElement_of_protocol (hns : root.ns = some saml2ProtocolHref) :
    root.isElement = true := by
  cases root with
  | element => rfl
  | _ => cases hns

/-- A root without an Issuer child has all elements in front of it. -/
theorem beforeIssuer_of_none (h : root.findChild "Issuer" saml2AssertionHref = none) :
    root.beforeIssuer = XmlNode.elementsList root.children := by
  have hall : root.children.takeWhile
      (fun child => !child.isElementNode "Issuer" saml2AssertionHref) = root.children := by
    rw [List.takeWhile_eq_self_iff]
    intro child hchild
    have hnot := List.find?_eq_none.mp h child hchild
    simpa using hnot
  rw [XmlNode.beforeIssuer, hall]

/-- The elements below a root with an Issuer child. -/
theorem elementsList_of_some {issuer : XmlNode}
    (h : root.findChild "Issuer" saml2AssertionHref = some issuer) :
    issuer.isElementNode "Issuer" saml2AssertionHref = true ∧
      (∀ e, root.beforeIssuer = [e] → e.isElementNode "Issuer" saml2AssertionHref = false) ∧
        ∃ rest, XmlNode.elementsList root.children = root.beforeIssuer ++ issuer :: rest := by
  obtain ⟨hissuer, before, after, hchildren, hbefore⟩ := List.find?_eq_some_iff_append.mp h
  have hfront : root.beforeIssuer = XmlNode.elementsList before := by
    rw [XmlNode.beforeIssuer, hchildren, List.takeWhile_append_of_pos hbefore,
      List.takeWhile_cons_of_neg (by simp [hissuer]), List.append_nil]
  have helement : issuer.isElement = true := by
    obtain ⟨attrs, children, rfl⟩ := XmlNode.isElementNode_iff.mp hissuer
    rfl
  refine ⟨hissuer, ?_, ?_⟩
  · intro e he
    rw [hfront] at he
    simpa using hbefore e (XmlNode.mem_of_elementsList_eq_singleton he)
  · rw [hfront, hchildren, XmlNode.elementsList_append, XmlNode.elementsList,
      XmlNode.elements_of_isElement helement, List.cons_append]
    exact ⟨_, rfl⟩

/-- In its own document the issuer of a request or response is found just if it is in view. -/
theorem firstIssuer_own_iff (hns : root.ns = some saml2ProtocolHref) :
    FirstIssuer ((root.elements.map .ofXmlNode).take 3) root.issuer ↔ IssuerInView root := by
  rw [XmlNode.elements_of_isElement (isElement_of_protocol hns), List.map_cons,
    List.take_succ_cons, firstIssuer_passed (passed_of_protocol hns)]
  unfold IssuerInView XmlNode.issuer
  cases hfind : root.findChild "Issuer" saml2AssertionHref with
  | none =>
    rw [beforeIssuer_of_none hfind]
    simp
  | some issuer =>
    obtain ⟨hissuer, hfront, rest, hlist⟩ := elementsList_of_some hfind
    have hcontent := issuer_of_isIssuer hissuer
    rw [hlist, List.map_append, List.map_cons]
    dsimp only
    rw [Option.map_some]
    generalize hbefore : root.beforeIssuer = before at hfront ⊢
    match before with
    | [] =>
      refine iff_of_true ?_ (.inl ⟨rfl, by simp, by simp⟩)
      exact (firstIssuer_issuer hcontent).mpr rfl
    | [e] =>
      rw [List.map_singleton, List.singleton_append, List.take_succ_cons, List.take_succ_cons]
      have hnone : (ReaderNode.ofXmlNode e).issuer = none := by
        cases hsome : (ReaderNode.ofXmlNode e).issuer with
        | none => rfl
        | some content =>
          have hnot := hfront e rfl
          rw [isIssuer_of_issuer hsome] at hnot
          cases hnot
      rcases (ReaderNode.ofXmlNode e).passed_or with hpassed | hbare | ⟨content, hsome⟩
      · rw [firstIssuer_passed hpassed, firstIssuer_issuer hcontent]
        exact iff_of_true rfl (.inl ⟨rfl, by simp, by simpa using hpassed⟩)
      · refine iff_of_false (not_firstIssuer_bare hbare) ?_
        rintro (⟨-, -, hpassed⟩ | hfirst)
        · have hfalse := (hpassed _ List.mem_cons_self).2
          rw [hbare] at hfalse
          cases hfalse
        · exact not_firstIssuer_bare hbare hfirst
      · rw [hnone] at hsome
        cases hsome
    | e :: e' :: before =>
      simp

theorem readerView_of_readsRoot {env : Env} {reader : TextReader} (hreader : reader.Documented env)
    {message : Bytes} (h : ReadsRoot env message root) :
    readerView env reader message = (root.elements.map .ofXmlNode).take 3 := by
  obtain ⟨text, htext, hparse⟩ := h
  rw [readerView, htext]
  dsimp only
  rw [hreader.elements text root hparse]

/-- The root of the document is the first element. -/
theorem inResponseTo_own (hns : root.ns = some saml2ProtocolHref) :
    ((root.elements.map ReaderNode.ofXmlNode).take 3).head?.bind (·.inResponseTo) =
      root.getNoNsProp "InResponseTo" := by
  rw [XmlNode.elements_of_isElement (isElement_of_protocol hns), List.map_cons,
    List.take_succ_cons, List.head?_cons, Option.bind_some]
  cases root with
  | element => rfl
  | _ => cases hns

end Own

/-! ## SOAP messages -/

section Soap

variable {env : Env} {reader : TextReader} {message text : Bytes} {doc : XmlNode}

/-- The elements from the next element on. -/
theorem elementsList_of_nextElement {children : List XmlNode} {i : Nat}
    (h : XmlNode.nextElement children 0 = some i) :
    ∃ node rest, children[i]? = some node ∧ node.isElement = true ∧
      XmlNode.elementsList children = node :: (XmlNode.elementsList node.children ++ rest) := by
  obtain ⟨gap, node, rest, hdrop, rfl, hgap, hnode⟩ := XmlNode.nextElement_eq_some h
  rw [List.drop_zero] at hdrop
  have hempty : ∀ l : List XmlNode, (∀ n ∈ l, n.isElement = false) →
      XmlNode.elementsList l = [] := by
    intro l hl
    induction l with
    | nil => rfl
    | cons n l ih =>
      rw [XmlNode.elementsList, XmlNode.elements_of_not_isElement (hl n List.mem_cons_self),
        ih fun m hm => hl m (List.mem_cons_of_mem _ hm)]
      rfl
  refine ⟨node, XmlNode.elementsList rest, ?_, hnode, ?_⟩
  · rw [hdrop, Nat.zero_add, List.getElem?_append_right (Nat.le_refl _), Nat.sub_self]
    rfl
  · rw [hdrop, XmlNode.elementsList_append, hempty gap hgap, XmlNode.elementsList,
      XmlNode.elements_of_isElement hnode, List.nil_append, List.cons_append]

/-- A SOAP message without Header has its request or response as the third element. -/
theorem elements_of_soap (hheader : doc.soap11GetHeader = none) {content : NodeRef}
    (hsoap : doc.isSoap = true) (hcontent : messageRoot doc = some content) :
    ∃ body rest, body.isSoapBody = true ∧ doc.elements = doc :: body :: content.node :: rest := by
  rw [messageRoot, if_pos hsoap] at hcontent
  obtain ⟨path, hpath, hat⟩ := Option.bind_eq_some_iff.mp hcontent
  obtain ⟨-, b, hb⟩ := XmlNode.body_of_getSoapContent hpath
  obtain ⟨hnext, body, hchild, hbody⟩ := XmlNode.soap11GetBody_eq_some hb
  rw [hheader, Option.elim_none] at hnext
  rw [XmlNode.getSoapContent_eq hsoap hb hchild] at hpath
  obtain ⟨k, hk, rfl⟩ := Option.map_eq_some_iff.mp hpath
  obtain ⟨body', rest, hbody', -, hlist⟩ := elementsList_of_nextElement hnext
  obtain rfl : body = body' := Option.some.inj (hchild.symm.trans hbody')
  obtain ⟨root, rest', hroot, -, hlist'⟩ := elementsList_of_nextElement hk
  have hnode : content.node = root := by
    have hat' : doc.at? [b, k] = some root := by
      rw [XmlNode.at?_cons, hchild, Option.bind_some, XmlNode.at?_cons, hroot, Option.bind_some,
        XmlNode.at?_nil]
    rw [NodeRef.at?_of_at? hat'] at hat
    exact (congrArg NodeRef.node (Option.some.inj hat)).symm
  have helement : doc.isElement = true := by
    obtain ⟨attrs, children, rfl⟩ := XmlNode.isElementNode_iff.mp hsoap
    rfl
  refine ⟨body, XmlNode.elementsList root.children ++ rest' ++ rest, hbody, ?_⟩
  rw [XmlNode.elements_of_isElement helement, hlist, hlist', hnode, List.cons_append]

theorem passed_of_name {node : XmlNode} {name ns : String}
    (h : node.isElementNode name ns = true) (hne : name ≠ "Issuer") :
    (ReaderNode.ofXmlNode node).IsPassed := by
  obtain ⟨attrs, children, rfl⟩ := XmlNode.isElementNode_iff.mp h
  refine ⟨?_, rfl⟩
  simp [ReaderNode.ofXmlNode, ReaderNode.issuer, hne]

/-- The issuer of a SOAP message without Header is never found. -/
theorem getIssuer_of_soap (hreader : reader.Documented env)
    (htext : (xmltextreaderFromMessage env message).document = some text)
    (hdoc : env.parseMemory text = some doc) (hsoap : doc.isSoap = true)
    (hheader : doc.soap11GetHeader = none) {content : NodeRef}
    (hcontent : messageRoot doc = some content)
    (hns : content.node.ns = some saml2ProtocolHref) :
    getIssuer env reader message = .ok none := by
  obtain ⟨body, rest, hbody, helements⟩ := elements_of_soap hheader hsoap hcontent
  rw [getIssuer_eq_ok_iff, readerView_of_readsRoot hreader ⟨text, htext, hdoc⟩, helements,
    List.map_cons, List.map_cons, List.map_cons, List.take_succ_cons, List.take_succ_cons,
    List.take_succ_cons, List.take_zero,
    firstIssuer_passed (passed_of_name hsoap (by decide)),
    firstIssuer_passed (passed_of_name hbody (by decide)),
    firstIssuer_passed (passed_of_protocol hns), firstIssuer_nil]

end Soap

/-! ## The messages -/

/-- The look-ahead agrees with the parser on exactly the messages that have in view what it is
asked for. -/
theorem lookAheadAgrees_iff {α : Type*} {env : Env} {reader : TextReader}
    (hreader : reader.Documented env) (initFromXml : α → Option XmlNode → Rc × α) (node : α)
    (message : Bytes) :
    LookAheadAgrees env reader initFromXml node message ↔
      ∀ root, messageElement env initFromXml node message = some root →
        root.ns = some saml2ProtocolHref → InView env reader message root := by
  refine forall_congr' fun root => forall_congr' fun _ => forall_congr' fun hns => ?_
  rw [getIssuer_eq_ok_iff, getInResponseTo_eq]
  by_cases hown : ReadsRoot env message root
  · rw [readerView_of_readsRoot hreader hown, firstIssuer_own_iff hns, inResponseTo_own hns]
    constructor
    · rintro ⟨hview, -⟩
      exact ⟨fun _ => hview, fun hnot => absurd hown hnot⟩
    · intro hview
      exact ⟨hview.own hown, rfl⟩
  · constructor
    · intro hsame
      exact ⟨fun h => absurd h hown, fun _ => hsame⟩
    · intro hview
      exact hview.other hown

/-! ## A posted message, and one in an envelope -/

/-- The element of a message that is a document, with or without an envelope. -/
theorem messageElement_of_document {α : Type*} {env : Env}
    {initFromXml : α → Option XmlNode → Rc × α} {node : α} {message : Bytes} {doc : XmlNode}
    (hmarkup : (messageText env message).contains '<' = true)
    (hparse : env.parseMemory (messageText env message) = some doc)
    (haccepted : (initFromXml node ((messageRoot doc).map (·.node))).1 = .ok) :
    messageElement env initFromXml node message = (messageRoot doc).map (·.node) := by
  have htext : takenText env message .unknown = messageText env message := if_pos (.inl rfl)
  have htakes : takesMarkup .unknown (messageText env message) = true := by
    rw [takesMarkup, hmarkup]
    rfl
  unfold messageElement readMessage
  rw [initFromMessageWithFormat_eq]
  dsimp only
  rw [htext, if_pos htakes, hparse]
  dsimp only [saml2NodeClass]
  rw [if_pos (.inl rfl)]
  generalize initFromXml node ((messageRoot doc).map (·.node)) = result at haccepted
  obtain ⟨rc, node'⟩ := result
  obtain rfl : rc = .ok := haccepted
  dsimp only
  unfold documentFormat
  split_ifs <;> rfl

def requestText : Bytes :=
  "<LogoutRequest".toList ++ (" xmlns=\"urn:oasis:names:tc:SAML:2.0:protocol\">".toList ++
    "<Issuer xmlns=\"urn:oasis:names:tc:SAML:2.0:assertion\">sp</Issuer></LogoutRequest>".toList)

def requestElement : XmlNode :=
  .element (some saml2ProtocolHref) "LogoutRequest" []
    [.element (some saml2AssertionHref) "Issuer" [] [.text "sp"]]

/-- The same request in a SOAP message. -/
def soapText : Bytes :=
  "<Envelope".toList ++ (" xmlns=\"http://schemas.xmlsoap.org/soap/envelope/\"><Body>".toList ++
    (requestText ++ "</Body></Envelope>".toList))

def soapElement : XmlNode :=
  .element (some soapEnvHref) "Envelope" []
    [.element (some soapEnvHref) "Body" [] [requestElement]]

/-- An environment with the base64 codec and a parser for these two. -/
def lookAheadEnv : Env :=
  { Env.refusing with
    base64Decode := base64DecodeLines
    parseMemory := fun text =>
      if text = requestText then some requestElement
      else if text = soapText then some soapElement
      else none }

/-- The reader that goes through what the parser makes of a text. -/
def lookAheadReader : TextReader where
  nodes text := ((lookAheadEnv.parseMemory text).map fun doc =>
    doc.elements.map ReaderNode.ofXmlNode).getD []

theorem lookAheadReader_documented : lookAheadReader.Documented lookAheadEnv where
  elements text doc hdoc := by
    have hnodes : lookAheadReader.nodes text = doc.elements.map .ofXmlNode := by
      simp [lookAheadReader, hdoc]
    rw [hnodes, List.filter_eq_self]
    intro node hnode
    obtain ⟨element, helement, rfl⟩ := List.mem_map.mp hnode
    cases element with
    | element => rfl
    | _ => cases XmlNode.isElement_of_mem_elements doc _ helement

def postedRequest : Bytes := Base64.encode (requestText.map Char.toNat)

theorem requestText_cString : ∀ c ∈ requestText, c ≠ '\x00' ∧ c.toNat < 256 :=
  cString_of_all (by decide +kernel)

theorem decode_postedRequest :
    lookAheadEnv.base64Decode postedRequest postedRequest.length =
      ((requestText.length : Int), requestText) := by
  have hlength := Base64.length_le_encode (requestText.map Char.toNat)
  rw [List.length_map] at hlength
  have hdecode : lookAheadEnv.base64Decode = base64DecodeLines := rfl
  rw [hdecode, postedRequest,
    base64DecodeLines_encode (fun c hc => (requestText_cString c hc).2) hlength]

/-- A posted request shows its issuer. -/
theorem lookAheadAgrees_iff_posted :
    LookAheadAgrees lookAheadEnv lookAheadReader acceptsXml () postedRequest := by
  have hbegins : beginsXml requestText = true := rfl
  have hletters : (!postedRequest.isEmpty && isBase64 postedRequest &&
      !looksRedirect postedRequest) = true := by
    decide +kernel
  simp only [Bool.and_eq_true, Bool.not_eq_true'] at hletters
  obtain ⟨⟨hnonempty, hbase64⟩, hredirect⟩ := hletters
  have hdecoded : isDecoded lookAheadEnv postedRequest = true := by
    unfold isDecoded
    rw [hnonempty, hbase64, decode_postedRequest]
    rfl
  have htext : messageText lookAheadEnv postedRequest = requestText := by
    rw [messageText_of_decoded hdecoded, decode_postedRequest, cString_eq_self_iff]
    exact fun hzero => (requestText_cString _ hzero).1 rfl
  have hreader : (xmltextreaderFromMessage lookAheadEnv postedRequest).document =
      some requestText := by
    rw [reader_of_decoded hdecoded, hredirect, decode_postedRequest, if_neg Bool.false_ne_true]
    exact Option.filter_eq_some_iff.mpr ⟨rfl, hbegins⟩
  have hparse : lookAheadEnv.parseMemory requestText = some requestElement := by
    simp [lookAheadEnv]
  have hmarkup := contains_of_beginsXml hbegins
  apply (lookAheadAgrees_iff lookAheadReader_documented acceptsXml () _).mpr
  intro root hroot _
  have helement := @messageElement_of_document _ lookAheadEnv acceptsXml () postedRequest
    requestElement (by rw [htext]; exact hmarkup) (by rw [htext]; exact hparse) rfl
  obtain rfl : requestElement = root := Option.some.inj (helement.symm.trans hroot)
  have hown : ReadsRoot lookAheadEnv postedRequest requestElement := ⟨requestText, hreader, hparse⟩
  refine ⟨fun _ => .inl ⟨rfl, Nat.zero_le 1, ?_⟩, fun hnot => absurd hown hnot⟩
  rintro node hnode
  cases hnode

/-- The same request in an envelope does not. -/
theorem envelope_hides_issuer : lookAheadReader.Documented lookAheadEnv ∧
    ¬ LookAheadAgrees lookAheadEnv lookAheadReader acceptsXml () soapText := by
  have hparse : lookAheadEnv.parseMemory soapText = some soapElement := by
    have hne : soapText ≠ requestText := by
      intro heq
      have hsecond : soapText[1]? = requestText[1]? := by rw [heq]
      cases hsecond
    simp [lookAheadEnv, hne]
  have htext : messageText lookAheadEnv soapText = soapText :=
    messageText_of_not_decoded (isDecoded_of_beginsXml rfl)
  have hmarkup : soapText.contains '<' = true := contains_of_beginsXml rfl
  refine ⟨lookAheadReader_documented, fun hagrees => ?_⟩
  have helement := @messageElement_of_document _ lookAheadEnv acceptsXml () soapText soapElement
    (by rw [htext]; exact hmarkup) (by rw [htext]; exact hparse) rfl
  have hfound := (hagrees requestElement helement rfl).1
  rw [@getIssuer_of_soap lookAheadEnv lookAheadReader soapText soapText soapElement
    lookAheadReader_documented rfl hparse rfl rfl ⟨soapElement, [0, 0], requestElement, rfl⟩ rfl
    rfl] at hfound
  cases hfound

end Lasso
