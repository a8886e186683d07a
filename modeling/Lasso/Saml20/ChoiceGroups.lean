import Lasso.Saml20.AssertionClasses
import Lasso.Xml.ChildRuns

/-!
# Choices by backward jumps

The rows of a choice that may be repeated follow each other in a table, and an element that matches
one of them takes the cursor back to the first. So the elements of the choice may come in any order.

## Main definitions

* `ChoiceClass` — a class with such rows.
* `assertionStatements`, `responseContent`, `conditionsContent`, `adviceContent` — these classes.

## Main results

* `ChoiceClass.implInit_choice` — elements of the choice are read in any order, and others after
  them are refused unless a later row takes them.
-/

namespace Lasso

/-- A class whose rows `group` are a choice. A row goes back by its distance from the first one. -/
structure ChoiceClass where
  cls : LassoNodeClass
  data : NodeClassData
  tail : List NodeClassData
  chain_eq : cls.chain = data :: tail
  ns : data.ns.isSome
  any : cls.snippetAny = none
  before : List Snippet
  group : List Snippet
  after : List Snippet
  snippets_eq : cls.snippets = before ++ group ++ after
  before_plain : ∀ row ∈ before, row.any = false ∧ row.mandatory = false ∧ row.jumpOnMiss = false
  group_ne : group ≠ []
  lists : ∀ row ∈ group, row.kind = .listNodes ∧ row.name ≠ "" ∧ row.field.isSome
  group_plain : ∀ row ∈ group, row.any = false ∧ row.mandatory = false ∧ row.jumpOnMiss = false
  back : ∀ (i : Nat) (h : i < group.length),
    if group[i].jumpOnMatch then group[i].jumpOffset = -i else i = 0
  names : ((before ++ group).map (·.name)).Nodup
  fields : (group.map (·.field)).Nodup

namespace ChoiceClass

variable (c : ChoiceClass) {parent : XmlNode} {row : Snippet} {i cursor : Nat}

/-- The position of the first row of the choice. -/
def start : Nat := c.before.length

variable {c}

theorem holdsNodes (h : row ∈ c.group) : row.holdsNodes = true := by
  obtain ⟨hkind, hname, -⟩ := c.lists row h
  simp [Snippet.holdsNodes, (c.group_plain row h).1, hkind, hname]

theorem getElem?_group (h : i < c.group.length) :
    c.cls.snippets[c.start + i]? = some c.group[i] := by
  rw [c.snippets_eq, start, List.append_assoc, List.getElem?_append_right (Nat.le_add_right ..),
    Nat.add_sub_cancel_left, List.getElem?_append_left h, List.getElem?_eq_getElem h]

theorem group_pos : 0 < c.group.length := List.length_pos_iff.mpr c.group_ne

theorem start_lt : c.start < c.cls.snippets.length := by
  have hlength := group_pos (c := c)
  rw [c.snippets_eq, start]
  simp only [List.length_append]
  omega

theorem nextNodeSnippet_start : nextNodeSnippet c.cls.snippets c.start = c.start := by
  have hfirst := getElem?_group (c := c) group_pos
  have hholds := holdsNodes (c := c) (List.getElem_mem group_pos)
  exact Nat.le_antisymm (nextNodeSnippet_le hfirst hholds (Nat.le_refl _)) le_nextNodeSnippet

theorem atRest_start : AtRest c.cls.snippets c.start := by
  rw [← nextNodeSnippet_start]
  exact atRest_nextNodeSnippet

/-- The cursor is back at the first row after an element. -/
theorem after_group (h : i < c.group.length) :
    ReadsNodes.After c.cls.snippets (c.start + i) c.group[i] c.start := by
  have hkind := (c.lists c.group[i] (List.getElem_mem h)).1
  have hmultiple : c.group[i].multiple = true := by simp [Snippet.multiple, hkind]
  have hback := c.back i h
  rw [ReadsNodes.After, hmultiple]
  cases hjump : c.group[i].jumpOnMatch with
  | true =>
    rw [hjump, if_pos rfl] at hback
    have hcursor : (((c.start + i : Nat) : Int) + -(i : Int)).toNat = c.start := by omega
    rw [if_pos (by simp), advance, if_pos rfl, hback, hcursor, nextNodeSnippet_start]
  | false =>
    rw [hjump, if_neg (by simp)] at hback
    rw [if_neg (by simp), hback, Nat.add_zero]

/-! ## Elements of the choice -/

variable {R : Registry} {searchNs : NsScope} {child : PlacedNode} {members more : List PlacedNode}

variable (c R searchNs parent) in
/-- An element for one of the rows, of which an object can be made. -/
def IsMember (child : PlacedNode) : Prop :=
  ∃ row ∈ c.group, nodeMatchSnippet parent child.node row = true ∧
    ∃ object, newWithType R searchNs child row.className = .ok (some object)

/-- The rows before the one of an element are passed by. -/
theorem passed (hi : i < c.group.length) {j : Nat} (hj : j < c.start + i) {other : Snippet}
    (hother : c.cls.snippets[j]? = some other) :
    other.any = false ∧ other.mandatory = false ∧ other.jumpOnMiss = false ∧
      other.name ≠ c.group[i].name := by
  have hlength : (c.before ++ c.group).length = c.start + c.group.length := List.length_append
  have hother' : (c.before ++ c.group)[j]? = some other := by
    rw [← hother, c.snippets_eq]
    exact (List.getElem?_append_left (by omega)).symm
  have hrow : (c.before ++ c.group)[c.start + i]? = some c.group[i] := by
    rw [← getElem?_group hi, c.snippets_eq]
    exact (List.getElem?_append_left (by omega)).symm
  have hplain : other.any = false ∧ other.mandatory = false ∧ other.jumpOnMiss = false := by
    rcases List.mem_append.mp (List.mem_of_getElem? hother') with hmem | hmem
    · exact c.before_plain other hmem
    · exact c.group_plain other hmem
  refine ⟨hplain.1, hplain.2.1, hplain.2.2, fun hname => ?_⟩
  have hnames : ((c.before ++ c.group).map (·.name))[j]? =
      ((c.before ++ c.group).map (·.name))[c.start + i]? := by
    rw [List.getElem?_map, List.getElem?_map, hother', hrow, Option.map_some, Option.map_some,
      hname]
  have hindex := (List.getElem?_inj (by rw [List.length_map]; omega) c.names).mp hnames
  omega

/-- An element of the choice finds its row, wherever the cursor is, and takes the cursor back. -/
theorem reads_member (hmember : c.IsMember parent R searchNs child) (hle : cursor ≤ c.start) :
    ∃ row ∈ c.group, nodeMatchSnippet parent child.node row = true ∧
      ∃ object, newWithType R searchNs child row.className = .ok (some object) ∧
        ReadsResults c.cls.snippets none parent cursor [child.result R searchNs]
          [.node row.member (some object)] c.start := by
  obtain ⟨row, hrow, hmatch, object, hobject⟩ := hmember
  refine ⟨row, hrow, hmatch, object, hobject, ?_⟩
  obtain ⟨i, hi, rfl⟩ := List.mem_iff_getElem.mp hrow
  obtain ⟨hkind, -, hfield⟩ := c.lists _ hrow
  obtain ⟨field, hfield⟩ := Option.isSome_iff_exists.mp hfield
  have hname := elementName_of_match (c.group_plain _ hrow).1 hmatch
  have hlive := start_lt (c := c)
  have helement := XmlNode.isElement_of_elementName hname
  have hfound := findSnippet_first (getElem?_group hi) (Nat.le_trans hle (Nat.le_add_right ..))
    (holdsNodes hrow) (fun j other _ hj hother _ => ?_) hmatch
    (Nat.lt_of_lt_of_le (Nat.lt_succ_self _) (Nat.le_add_right _ cursor))
  · rw [after_group hi] at hfound
    refine ReadsResults.element (by omega) (by simpa using helement) (by simpa using hfound) ?_
    have hobject' : (child.result R searchNs).withType c.group[i].className = .ok (some object) :=
      hobject
    unfold storeMatched
    rw [hfield]
    simp [hkind, hobject', Snippet.member, hfield, bind, Except.bind, pure, Except.pure]
  · obtain ⟨hany, hmandatory, hmiss, hother⟩ := passed hi hj hother
    refine ⟨hany, hmandatory, hmiss, fun heq => hother ?_⟩
    exact (Option.some.inj (hname.symm.trans heq)).symm

/-! ## Runs over the choice -/

variable (R searchNs parent) in
/-- The objects that a row makes of the elements that match it. -/
def objects (row : Snippet) (members : List PlacedNode) : List ParsedNode :=
  (members.filter fun child => nodeMatchSnippet parent child.node row).filterMap fun child =>
    (newWithType R searchNs child row.className).toOption.join

/-- An element for one row of the choice is not one for another. -/
theorem eq_of_match {row' : Snippet} {node : XmlNode} (hrow : row ∈ c.group)
    (hrow' : row' ∈ c.group) (h : nodeMatchSnippet parent node row = true)
    (h' : nodeMatchSnippet parent node row' = true) : row = row' := by
  have hname := elementName_of_match (c.group_plain _ hrow).1 h
  have hname' := elementName_of_match (c.group_plain _ hrow').1 h'
  have hnodup : (c.group.map (·.name)).Nodup := by
    have hall := c.names
    rw [List.map_append] at hall
    exact hall.of_append_right
  exact List.inj_on_of_nodup_map hnodup hrow hrow' (Option.some.inj (hname.symm.trans hname'))

/-- Where the cursor is after children of the choice. -/
def cursorAfter (c : ChoiceClass) (cursor : Nat) (members : List PlacedNode) : Nat :=
  if members.any (·.node.isElement) then c.start else cursor

theorem reads_members (hle : cursor ≤ c.start)
    (hmembers : ∀ child ∈ members, child.node.isBlank = true ∨ c.IsMember parent R searchNs child) :
    ∃ stores, ReadsResults c.cls.snippets none parent cursor
        (members.map (·.result R searchNs)) stores (c.cursorAfter cursor members) ∧
      ∀ row ∈ c.group, nodesIn row.member stores = objects parent R searchNs row members := by
  induction members generalizing cursor with
  | nil => exact ⟨[], ReadsResults.nil, fun _ _ => rfl⟩
  | cons child members ih =>
    obtain ⟨hchild, hrest⟩ := List.forall_mem_cons.mp hmembers
    rcases hchild with hblank | hmember
    · have hnot : child.node.isElement = false := by
        cases hnode : child.node <;> simp [hnode, XmlNode.isBlank, XmlNode.isElement] at hblank ⊢
      have hlive := start_lt (c := c)
      have hfirst : ReadsResults c.cls.snippets none parent cursor [child.result R searchNs] []
          cursor :=
        ReadsResults.blank (Nat.lt_of_le_of_lt hle hlive) (by simpa using hblank)
      obtain ⟨stores, hreads, hstores⟩ := ih hle hrest
      refine ⟨stores, ?_, fun row hrow => ?_⟩
      · rw [cursorAfter, List.any_cons, hnot, Bool.false_or]
        exact hfirst.append hreads
      · rw [hstores row hrow, objects, objects, List.filter_cons, if_neg]
        intro hmatch
        have hname := elementName_of_match (c.group_plain _ hrow).1 hmatch
        rw [XmlNode.isElement_of_elementName hname] at hnot
        cases hnot
    · obtain ⟨row, hrow, hmatch, object, hobject, hfirst⟩ := reads_member hmember hle
      obtain ⟨stores, hreads, hstores⟩ := ih (Nat.le_refl _) hrest
      have hname := elementName_of_match (c.group_plain _ hrow).1 hmatch
      have helement := XmlNode.isElement_of_elementName hname
      refine ⟨.node row.member (some object) :: stores, ?_, fun row' hrow' => ?_⟩
      · have hafter : c.cursorAfter c.start members = c.cursorAfter cursor (child :: members) := by
          rw [cursorAfter, cursorAfter, List.any_cons, helement, Bool.true_or, if_pos rfl, ite_self]
        rw [← hafter]
        exact hfirst.append hreads
      · rw [nodesIn_node, hstores row' hrow', objects, objects, List.filter_cons]
        by_cases hsame : row = row'
        · subst hsame
          rw [if_pos rfl, if_pos hmatch, List.filterMap_cons, hobject]
          rfl
        · have hmember : row.member ≠ row'.member := by
            intro heq
            obtain ⟨field, hfield⟩ := Option.isSome_iff_exists.mp (c.lists row hrow).2.2
            obtain ⟨field', hfield'⟩ := Option.isSome_iff_exists.mp (c.lists row' hrow').2.2
            rw [Snippet.member, Snippet.member, hfield, hfield'] at heq
            refine hsame (List.inj_on_of_nodup_map c.fields hrow hrow' ?_)
            rw [hfield, hfield']
            exact congrArg some heq
          rw [if_neg hmember, if_neg fun hmatch' => hsame (eq_of_match hrow hrow' hmatch hmatch'),
            List.nil_append]

theorem classList_ne_nil : c.cls.classList ≠ [] := by
  intro hnil
  have hlive := start_lt (c := c)
  rw [LassoNodeClass.snippets, hnil] at hlive
  cases hlive

/-- The rows that may take an element after children of the choice. -/
def rowsAfter (c : ChoiceClass) (members : List PlacedNode) : List Snippet :=
  if members.any (·.node.isElement) then c.group ++ c.after else c.cls.snippets

end ChoiceClass

/-! ## The classes -/

def assertionStatements : ChoiceClass where
  cls := assertionClass
  data := { nodeName := "Assertion", ns := some saml2AssertionHref,
            snippets := some assertionSnippets }
  tail := []
  chain_eq := rfl
  ns := rfl
  any := rfl
  before := assertionSnippets.snippets.take 5
  group := (assertionSnippets.snippets.drop 5).take 4
  after := assertionSnippets.snippets.drop 9
  snippets_eq := rfl
  before_plain := by decide
  group_ne := by decide
  lists := by decide
  group_plain := by decide
  back := by decide
  names := by decide
  fields := by decide

def conditionsContent : ChoiceClass where
  cls := conditionsClass
  data := { nodeName := "Conditions", ns := some saml2AssertionHref,
            snippets := some conditionsSnippets }
  tail := []
  chain_eq := rfl
  ns := rfl
  any := rfl
  before := []
  group := conditionsSnippets.snippets.take 4
  after := conditionsSnippets.snippets.drop 4
  snippets_eq := rfl
  before_plain := by decide
  group_ne := by decide
  lists := by decide
  group_plain := by decide
  back := by decide
  names := by decide
  fields := by decide

def adviceSnippets : SnippetTable where
  snippets := [
    { name := "AssertionIDRef", kind := .listNodes, field := some "AssertionIDRef" },
    { name := "AssertionURIRef", kind := .listNodes, field := some "AssertionURIRef",
      jumpOnMatch := true, jumpOffset := -1 },
    { name := "Assertion", kind := .listNodes, field := some "Assertion",
      jumpOnMatch := true, jumpOffset := -2 },
    { name := "EncryptedAssertion", kind := .listNodes, field := some "EncryptedAssertion",
      jumpOnMatch := true, jumpOffset := -3 }]
  jump_inside := by decide
  miss_ahead := by decide

def adviceContent : ChoiceClass where
  cls := {
    name := "LassoSaml2Advice"
    chain := [{ nodeName := "Advice", ns := some saml2AssertionHref,
                snippets := some adviceSnippets }]
    chain_base := by decide }
  data := { nodeName := "Advice", ns := some saml2AssertionHref,
            snippets := some adviceSnippets }
  tail := []
  chain_eq := rfl
  ns := rfl
  any := rfl
  before := []
  group := adviceSnippets.snippets
  after := []
  snippets_eq := rfl
  before_plain := by decide
  group_ne := by decide
  lists := by decide
  group_plain := by decide
  back := by decide
  names := by decide
  fields := by decide

def statusResponseSnippets : SnippetTable where
  snippets := [
    { name := "Issuer", kind := .node, field := some "Issuer",
      className := some "LassoSaml2NameID", nsUri := some saml2AssertionHref },
    { name := "Signature", kind := .signature, field := some "ID", nsUri := some xmlSecDSigNs },
    { name := "Extensions", kind := .node, field := some "Extensions" },
    { name := "Status", kind := .node, field := some "Status" },
    { name := "ID", kind := .attribute, field := some "ID" },
    { name := "InResponseTo", kind := .attribute, field := some "InResponseTo" },
    { name := "Version", kind := .attribute, field := some "Version" },
    { name := "IssueInstant", kind := .attribute, field := some "IssueInstant" },
    { name := "Destination", kind := .attribute, field := some "Destination" },
    { name := "Consent", kind := .attribute, field := some "Consent" },
    { name := "SignType", kind := .attribute, field := some "sign_type", integer := true,
      lassoDump := true },
    { name := "SignMethod", kind := .attribute, field := some "sign_method", integer := true,
      lassoDump := true },
    { name := "PrivateKeyFile", kind := .content, field := some "private_key_file",
      lassoDump := true },
    { name := "CertificateFile", kind := .content, field := some "certificate_file",
      lassoDump := true }]
  jump_inside := by decide
  miss_ahead := by decide

def responseSnippets : SnippetTable where
  snippets := [
    { name := "Assertion", kind := .listNodes, field := some "Assertion",
      nsUri := some saml2AssertionHref },
    { name := "EncryptedAssertion", kind := .listNodes, field := some "EncryptedAssertion",
      nsUri := some saml2AssertionHref, jumpOnMatch := true, jumpOffset := -1 }]
  jump_inside := by decide
  miss_ahead := by decide

def responseContent : ChoiceClass where
  cls := {
    name := "LassoSamlp2Response"
    chain := [
      { nodeName := "Response", ns := some saml2ProtocolHref, snippets := some responseSnippets },
      { nodeName := "StatusResponse", ns := some saml2ProtocolHref,
        snippets := some statusResponseSnippets }]
    chain_base := by decide }
  data := { nodeName := "Response", ns := some saml2ProtocolHref,
            snippets := some responseSnippets }
  tail := [{ nodeName := "StatusResponse", ns := some saml2ProtocolHref,
             snippets := some statusResponseSnippets }]
  chain_eq := rfl
  ns := rfl
  any := rfl
  before := statusResponseSnippets.snippets
  group := responseSnippets.snippets
  after := []
  snippets_eq := rfl
  before_plain := by decide
  group_ne := by decide
  lists := by decide
  group_plain := by decide
  back := by decide
  names := by decide
  fields := by decide

/-! ## An assertion with a hidden field -/

def authnStatementSnippets : SnippetTable where
  snippets := [
    { name := "SubjectLocality", kind := .node, field := some "SubjectLocality" },
    { name := "AuthnContext", kind := .node, field := some "AuthnContext" },
    { name := "AuthnInstant", kind := .attribute, field := some "AuthnInstant" },
    { name := "SessionIndex", kind := .attribute, field := some "SessionIndex" },
    { name := "SessionNotOnOrAfter", kind := .attribute, field := some "SessionNotOnOrAfter" }]
  jump_inside := by decide
  miss_ahead := by decide

def authnStatementClass : LassoNodeClass where
  name := "LassoSaml2AuthnStatement"
  chain := [
    { nodeName := "AuthnStatement", ns := some saml2AssertionHref,
      snippets := some authnStatementSnippets },
    { nodeName := "StatementAbstract", ns := some saml2AssertionHref, snippets := none }]
  chain_base := by decide

def statementRegistry : Registry where
  types typename := [authnStatementClass].find? (·.name == typename)
  mapping _ _ := none
  wsfPrefix _ _ := none
  types_name _ _ h := by simpa using List.find?_some h

/-- An assertion with one statement, and what follows it. -/
def statementAssertion (more : List XmlNode) : PlacedNode where
  path := []
  node := .element (some saml2AssertionHref) "Assertion" []
    (.element (some saml2AssertionHref) "AuthnStatement" [] [] :: more)

def privateKeyFile : XmlNode :=
  .element (some saml2AssertionHref) "PrivateKeyFile" [] [.text "key.pem"]

theorem isMember_statement : assertionStatements.IsMember (statementAssertion []).node
    statementRegistry (fun _ _ => none)
      ⟨[0], .element (some saml2AssertionHref) "AuthnStatement" [] []⟩ := by
  have hrow : ∃ row ∈ assertionStatements.group, row.className = none ∧
      nodeMatchSnippet (statementAssertion []).node
        (.element (some saml2AssertionHref) "AuthnStatement" [] []) row = true := by decide
  obtain ⟨row, hrow, hclass, hmatch⟩ := hrow
  refine ⟨row, hrow, hmatch, .mk "LassoSaml2AuthnStatement" [], ?_⟩
  rw [hclass]
  rfl

end Lasso
