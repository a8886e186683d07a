import Lasso.Xml.ChildRuns

/-!
# The children of a subject

The table of `saml2_subject.c` codes its grammar by jumps: an identifier goes to a row for a
confirmation, and so does the lack of one. A confirmation leaves the table, so that a second one is
refused.

## Main definitions

* `subjectClass` — the class.
* `SubjectName`, `SchemaValid` — the grammar in the documentation of the class.
* `subjectRun` — where the cursor is after some children.

## Main results

* `subject_accepted_iff` — a valid subject is read if it has at most one confirmation, and
  identifiers that are not the first child are always refused.
-/

namespace Lasso

/-! ## The table -/

def subjectSnippets : SnippetTable where
  snippets := [
    { name := "BaseID", kind := .node, field := some "BaseID", jumpOnMatch := true,
      jumpOffset := 3 },
    { name := "NameID", kind := .node, field := some "NameID", jumpOnMatch := true,
      jumpOffset := 2 },
    { name := "EncryptedID", kind := .node, field := some "EncryptedID",
      className := some "LassoSaml2EncryptedElement", jumpOnMiss := true, jumpOffset := 2 },
    { name := "SubjectConfirmation", kind := .node, field := some "SubjectConfirmation",
      optional := true, jumpOnMatch := true, jumpOffset := 2 },
    { name := "SubjectConfirmation", kind := .node, field := some "SubjectConfirmation" }]
  jump_inside := by decide
  miss_ahead := by decide

def subjectData : NodeClassData :=
  { nodeName := "Subject", ns := some saml2AssertionHref, snippets := some subjectSnippets }

def subjectClass : LassoNodeClass where
  name := "LassoSaml2Subject"
  chain := [subjectData]
  chain_base := by decide

/-! ## The grammar -/

/-- The elements of a subject. -/
inductive SubjectName where
  | baseId | nameId | encryptedId | subjectConfirmation
deriving DecidableEq

namespace SubjectName

def text : SubjectName → String
  | baseId => "BaseID"
  | nameId => "NameID"
  | encryptedId => "EncryptedID"
  | subjectConfirmation => "SubjectConfirmation"

def className : SubjectName → Option String
  | encryptedId => some "LassoSaml2EncryptedElement"
  | _ => none

def isIdentifier : SubjectName → Bool
  | subjectConfirmation => false
  | _ => true

/-- The name of an element with a local part. -/
def ofText (name : String) : Option SubjectName :=
  [baseId, nameId, encryptedId, subjectConfirmation].find? (·.text == name)

end SubjectName

/-- The schema fragment: one identifier and then any number of confirmations, or one confirmation
or more. -/
def SchemaValid (names : List SubjectName) : Prop :=
  (∃ id n, id.isIdentifier = true ∧ names = id :: List.replicate n .subjectConfirmation) ∨
    ∃ n, names = List.replicate (n + 1) .subjectConfirmation

/-- Which element of a subject a child is. -/
def subjectName (parent node : XmlNode) : Option SubjectName :=
  if equalNamespace parent.ns node.ns then node.elementName.bind SubjectName.ofText else none

/-! ## The cursor -/

/-- Where the cursor is: at the start, at a confirmation after an identifier, or off the table. -/
inductive SubjectState where
  | start | identified | done
deriving DecidableEq

def SubjectState.cursor : SubjectState → Nat
  | start => 0
  | identified => 3
  | done => 5

/-- What an element does to the cursor. -/
def subjectStep : SubjectState → Option SubjectName → Option SubjectState
  | .start, some name => some (if name.isIdentifier then .identified else .done)
  | .identified, some .subjectConfirmation => some .done
  | _, _ => none

def subjectRun (state : SubjectState) : List (Option SubjectName) → Option SubjectState
  | [] => some state
  | name :: names => (subjectStep state name).bind fun state => subjectRun state names

variable {parent node : XmlNode} {name : SubjectName} {state state' : SubjectState}

theorem SubjectName.ofText_eq_some {text : String} :
    SubjectName.ofText text = some name ↔ text = name.text := by
  constructor
  · intro h
    have hname := List.find?_some h
    exact (beq_iff_eq.mp hname).symm
  · rintro rfl
    cases name <;> rfl

/-- A row for a name takes the elements with that name. -/
theorem nodeMatchSnippet_subject {row : Snippet} (hany : row.any = false)
    (hns : row.nsUri = none) (hrow : row.name = name.text) :
    nodeMatchSnippet parent node row = (subjectName parent node == some name) := by
  rw [nodeMatchSnippet, hany, hns, hrow, subjectName]
  cases hparent : equalNamespace parent.ns node.ns with
  | false => cases node.ns <;> simp
  | true =>
    cases helement : node.elementName with
    | none => simp
    | some text =>
      rw [Bool.eq_iff_iff]
      simp [SubjectName.ofText_eq_some]

theorem rows_subject : ∀ row ∈ subjectClass.snippets, row.any = false ∧ row.nsUri = none ∧
    ∃ name : SubjectName, row.name = name.text := by
  have hrows : ∀ row ∈ subjectClass.snippets, row.any = false ∧ row.nsUri = none ∧
      ∃ name ∈ [SubjectName.baseId, .nameId, .encryptedId, .subjectConfirmation],
        row.name = name.text := by decide
  intro row hrow
  obtain ⟨hany, hns, name, -, hname⟩ := hrows row hrow
  exact ⟨hany, hns, name, hname⟩

/-- An element with the name of another one finds the same row. -/
theorem findSnippet_of_subjectName {parent' node' : XmlNode} {fuel cursor : Nat}
    (h : subjectName parent node = subjectName parent' node') :
    findSnippet subjectClass.snippets parent node fuel cursor =
      findSnippet subjectClass.snippets parent' node' fuel cursor := by
  refine findSnippet_congr fun row hrow => ?_
  obtain ⟨hany, hns, name, hname⟩ := rows_subject row hrow
  rw [nodeMatchSnippet_subject hany hns hname, nodeMatchSnippet_subject hany hns hname, h]

/-- An element with a local part, in the namespace of subjects. -/
def subjectNode (text : String) : XmlNode := .element (some saml2AssertionHref) text [] []

theorem findSnippet_missing_subject (hlive : state ≠ .done)
    (hstep : subjectStep state (subjectName parent node) = none) :
    findSnippet subjectClass.snippets parent node 6 state.cursor = .missing := by
  cases hname : subjectName parent node with
  | none =>
    rw [@findSnippet_of_subjectName _ _ (subjectNode "Subject") (subjectNode "") _ _ hname]
    cases state with
    | done => exact absurd rfl hlive
    | start => rfl
    | identified => rfl
  | some name =>
    have hrep : subjectName (subjectNode "Subject") (subjectNode name.text) = some name := by
      cases name <;> rfl
    rw [findSnippet_of_subjectName (hname.trans hrep.symm)]
    rw [hname] at hstep
    cases state with
    | done => exact absurd rfl hlive
    | start => cases hstep
    | identified => cases name <;> first | rfl | cases hstep

/-- The search for the row of an element follows the steps. -/
theorem findSnippet_subject (hname : subjectName parent node = some name)
    (hstep : subjectStep state (some name) = some state') :
    ∃ row, row.kind = .node ∧ row.field = some name.text ∧ row.className = name.className ∧
      findSnippet subjectClass.snippets parent node 6 state.cursor = .found row state'.cursor := by
  have hrep : subjectName (subjectNode "Subject") (subjectNode name.text) = some name := by
    cases name <;> rfl
  rw [findSnippet_of_subjectName (hname.trans hrep.symm)]
  cases state with
  | done => cases hstep
  | start =>
    cases hstep
    cases name <;> exact ⟨_, rfl, rfl, rfl, rfl⟩
  | identified =>
    cases name with
    | subjectConfirmation =>
      cases hstep
      exact ⟨_, rfl, rfl, rfl, rfl⟩
    | _ => cases hstep

/-! ## Runs over the children -/

variable (R : Registry) (searchNs : NsScope) (parent)

/-- The objects that are made of the children with a name. -/
def subjectObjects (name : SubjectName) (children : List PlacedNode) : List ParsedNode :=
  (children.filter fun child => subjectName parent child.node == some name).filterMap fun child =>
    (newWithType R searchNs child name.className).toOption.join

/-- Making an object of a child comes back, with or without one. -/
def SubjectReturns (children : List PlacedNode) : Prop :=
  ∀ child ∈ children, ∀ name, subjectName parent child.node = some name →
    Outcome.Returns (newWithType R searchNs child name.className)

variable {R searchNs parent} {children : List PlacedNode} {child : PlacedNode}

theorem reads_subject (helement : child.node.isElement = true)
    (hreturns : Outcome.Returns (newWithType R searchNs child name.className))
    (hname : subjectName parent child.node = some name)
    (hstep : subjectStep state (some name) = some state') :
    ∃ object, newWithType R searchNs child name.className = .ok object ∧
      ReadsResults subjectClass.snippets none parent state.cursor [child.result R searchNs]
        (object.toList.map (.node name.text <| some ·)) state'.cursor := by
  obtain ⟨row, hkind, hfield, hclass, hfound⟩ := findSnippet_subject hname hstep
  obtain ⟨object, hobject⟩ := hreturns
  have hlive : state.cursor < subjectClass.snippets.length := by
    cases state with
    | done => cases hstep
    | _ => decide
  refine ⟨object, hobject, ReadsResults.element hlive (by simpa using helement) ?_
    (storeMatched_node hfield hkind (hclass ▸ hobject))⟩
  rw [PlacedNode.result_node]
  exact hfound

/-- The children are read as far as the steps go, and otherwise refused. -/
theorem reads_subjectRun (helements : ∀ child ∈ children, child.node.isElement = true)
    (hreturns : SubjectReturns parent R searchNs children) :
    match subjectRun state (children.map fun child => subjectName parent child.node) with
    | some state' => ∃ stores, ReadsResults subjectClass.snippets none parent state.cursor
        (children.map (·.result R searchNs)) stores state'.cursor ∧
          ∀ name : SubjectName, nodesIn name.text stores =
            subjectObjects parent R searchNs name children
    | none => Rejects subjectClass.snippets none parent state.cursor
        (children.map (·.result R searchNs)) := by
  induction children generalizing state with
  | nil => exact ⟨[], ReadsResults.nil, fun _ => rfl⟩
  | cons child children ih =>
    obtain ⟨helement, helements⟩ := List.forall_mem_cons.mp helements
    obtain ⟨hreturn, hreturns⟩ := List.forall_mem_cons.mp hreturns
    rw [List.map_cons, List.map_cons, subjectRun]
    cases hstep : subjectStep state (subjectName parent child.node) with
    | none =>
      dsimp only [Option.bind_none]
      by_cases hdone : state = .done
      · subst hdone
        exact rejects_pastEnd (Nat.le_refl _) ⟨_, List.mem_cons_self, by simpa using helement⟩
      · have hlive : state.cursor < subjectClass.snippets.length := by
          cases state with
          | done => exact absurd rfl hdone
          | _ => decide
        rw [Rejects, initChildren_element hlive (by simpa using helement), PlacedNode.result_node]
        have hmissing := findSnippet_missing_subject hdone hstep
        have hlength : subjectClass.snippets.length + 1 = 6 := rfl
        rw [hlength, hmissing]
        rfl
    | some state' =>
      obtain ⟨name, hname⟩ : ∃ name, subjectName parent child.node = some name := by
        cases hname : subjectName parent child.node with
        | none => rw [hname] at hstep; cases state <;> cases hstep
        | some name => exact ⟨name, rfl⟩
      rw [hname] at hstep
      obtain ⟨object, hobject, hfirst⟩ := reads_subject helement (hreturn name hname) hname hstep
      have hrest := @ih state' helements hreturns
      rw [Option.bind_some]
      cases hrun : subjectRun state' (children.map fun child => subjectName parent child.node) with
      | none =>
        rw [hrun] at hrest
        exact hfirst.rejects hrest
      | some last =>
        rw [hrun] at hrest
        obtain ⟨stores, hreads, hstores⟩ := hrest
        refine ⟨_, hfirst.append hreads, fun name' => ?_⟩
        rw [nodesIn_append, nodesIn_toList, hstores name', subjectObjects, subjectObjects,
          List.filter_cons, hname]
        by_cases hsame : name = name'
        · subst hsame
          rw [if_pos rfl, if_pos (beq_self_eq_true _), List.filterMap_cons, hobject]
          cases object <;> rfl
        · have htext : name.text ≠ name'.text := by
            cases name <;> cases name' <;> first | exact absurd rfl hsame | decide
          rw [if_neg htext, if_neg (by simpa using hsame), List.nil_append]

/-! ## The words of the table -/

theorem subjectRun_done {names : List (Option SubjectName)} {last : SubjectState}
    (h : subjectRun .done names = some last) : names = [] := by
  cases names with
  | nil => rfl
  | cons name names => cases h

theorem subjectRun_identified {names : List (Option SubjectName)} {last : SubjectState}
    (h : subjectRun .identified names = some last) :
    names = [] ∨ names = [some .subjectConfirmation] := by
  cases names with
  | nil => exact .inl rfl
  | cons name names =>
    obtain ⟨state, hstep, hrun⟩ := Option.bind_eq_some_iff.mp h
    rcases name with _ | ⟨_ | _ | _ | _⟩ <;> cases hstep
    exact .inr (by rw [subjectRun_done hrun])

/-- What the table reads: an identifier or none, and then a confirmation or none. -/
theorem subjectRun_start {names : List (Option SubjectName)} {last : SubjectState}
    (h : subjectRun .start names = some last) :
    names = [] ∨ names = [some .subjectConfirmation] ∨ ∃ id, id.isIdentifier = true ∧
      (names = [some id] ∨ names = [some id, some .subjectConfirmation]) := by
  cases names with
  | nil => exact .inl rfl
  | cons name names =>
    obtain ⟨state, hstep, hrun⟩ := Option.bind_eq_some_iff.mp h
    cases name with
    | none => cases hstep
    | some name =>
      cases hid : name.isIdentifier with
      | true =>
        obtain rfl : SubjectState.identified = state := by
          simpa [subjectStep, hid] using hstep
        refine .inr (.inr ⟨name, hid, ?_⟩)
        rcases subjectRun_identified hrun with rfl | rfl
        · exact .inl rfl
        · exact .inr rfl
      | false =>
        obtain rfl : SubjectState.done = state := by simpa [subjectStep, hid] using hstep
        cases name <;> cases hid
        exact .inr (.inl (by rw [subjectRun_done hrun]))

theorem subjectRun_confirmations (n : Nat) :
    (subjectRun .done ((List.replicate n SubjectName.subjectConfirmation).map some)).isSome ↔
      n = 0 := by
  cases n with
  | zero => simp [subjectRun]
  | succ n => simp [List.replicate_succ, subjectRun, subjectStep]

theorem subjectRun_isSome_iff {names : List SubjectName} (h : SchemaValid names) :
    (subjectRun .start (names.map some)).isSome ↔
      names.count .subjectConfirmation ≤ 1 := by
  rcases h with ⟨id, n, hid, rfl⟩ | ⟨n, rfl⟩
  · have hne : id ≠ .subjectConfirmation := by
      rintro rfl
      cases hid
    rw [List.count_cons_of_ne hne, List.count_replicate_self, List.map_cons, subjectRun,
      subjectStep, if_pos hid, Option.bind_some]
    cases n with
    | zero => simp [subjectRun]
    | succ n =>
      rw [List.replicate_succ, List.map_cons, subjectRun, subjectStep, Option.bind_some,
        subjectRun_confirmations]
      omega
  · rw [List.count_replicate_self, List.replicate_succ, List.map_cons, subjectRun, subjectStep,
      if_neg (by decide), Option.bind_some, subjectRun_confirmations]
    omega

/-- A word with an identifier behind another element is not read. -/
theorem subjectRun_eq_none {names : List (Option SubjectName)} {first id : SubjectName}
    (hid : id.isIdentifier = true) (h : [some first, some id].Sublist names) :
    subjectRun .start names = none := by
  cases hrun : subjectRun .start names with
  | none => rfl
  | some last =>
    have hlength := h.length_le
    rcases subjectRun_start hrun with rfl | rfl | ⟨id', hid', rfl | rfl⟩
    · simp at hlength
    · simp at hlength
    · simp at hlength
    · have hwords := h.eq_of_length rfl
      simp only [List.cons.injEq, Option.some.injEq, and_true] at hwords
      rw [hwords.2] at hid
      cases hid

/-! ## The element -/

/-- The children of an element that count. -/
def PlacedNode.elements (place : PlacedNode) : List PlacedNode :=
  place.children.filter (!·.node.isBlank)

theorem implInit_subject {place : PlacedNode}
    (hname : subjectClass.nameMismatch R place.node = false)
    (helements : ∀ child ∈ place.elements, child.node.isElement = true)
    (hreturns : SubjectReturns place.node R searchNs place.elements) :
    match subjectRun .start (place.elements.map fun child => subjectName place.node child.node) with
    | some _ => ∃ stores,
        implInit R searchNs subjectClass place (place.children.map (·.result R searchNs)) =
          .ok (.ok stores) ∧ ∀ name : SubjectName, nodesIn name.text stores =
            subjectObjects place.node R searchNs name place.elements
    | none => implInit R searchNs subjectClass place (place.children.map (·.result R searchNs)) =
        .ok (.error 1) := by
  obtain ⟨attributes, hattrs⟩ : Outcome.Returns
      (collectAttributes searchNs subjectClass subjectData place.path place.node) :=
    collectAttributes_returns rfl
  have hblank : (place.children.map (·.result R searchNs)).filter (!·.node.isBlank) =
      place.elements.map (·.result R searchNs) := by
    rw [List.filter_map, PlacedNode.elements]
    congr 1
    refine List.filter_congr fun child _ => ?_
    simp
  have hchildren : initChildren subjectClass.snippets subjectClass.snippetAny place.node
      (nextNodeSnippet subjectClass.snippets 0) (place.children.map (·.result R searchNs)) =
        initChildren subjectClass.snippets none place.node SubjectState.start.cursor
          (place.elements.map (·.result R searchNs)) := by
    rw [← hblank, initChildren_filter_blank]
    rfl
  have hrun := @reads_subjectRun place.node .start R searchNs place.elements helements hreturns
  rw [implInit_of_children rfl (by decide) hname hattrs, hchildren]
  cases hlast : subjectRun .start
      (place.elements.map fun child => subjectName place.node child.node) with
  | none =>
    rw [hlast] at hrun
    dsimp only
    rw [hrun]
    rfl
  | some last =>
    rw [hlast] at hrun
    obtain ⟨stores, hreads, hstores⟩ := hrun
    refine ⟨textChildStores subjectClass place.node ++ attributes ++ stores, ?_, fun name => ?_⟩
    · rw [hreads.initChildren_eq]
      rfl
    · rw [nodesIn_append, nodesIn_attributes hattrs, List.nil_append, hstores name]

theorem isElement_of_subjectName (h : subjectName parent node = some name) :
    node.isElement = true := by
  unfold subjectName at h
  split_ifs at h
  obtain ⟨text, htext, -⟩ := Option.bind_eq_some_iff.mp h
  exact XmlNode.isElement_of_elementName htext

/-- Children with the names of a word, of which objects can be made. -/
theorem children_of_names {names : List SubjectName}
    (h : List.Forall₂ (fun name child => subjectName parent child.node = some name ∧
      ∃ object, newWithType R searchNs child name.className = .ok (some object)) names children) :
    children.map (fun child => subjectName parent child.node) = names.map some ∧
      (∀ child ∈ children, child.node.isElement = true) ∧
        SubjectReturns parent R searchNs children := by
  induction h with
  | nil => exact ⟨rfl, nofun, nofun⟩
  | cons hchild _ ih =>
    obtain ⟨hname, object, hobject⟩ := hchild
    obtain ⟨hwords, helements, hreturns⟩ := ih
    refine ⟨?_, ?_, ?_⟩
    · rw [List.map_cons, List.map_cons, hname, hwords]
    · exact List.forall_mem_cons.mpr ⟨isElement_of_subjectName hname, helements⟩
    · refine List.forall_mem_cons.mpr ⟨fun name hname' => ?_, hreturns⟩
      obtain rfl := Option.some.inj (hname.symm.trans hname')
      exact ⟨_, hobject⟩

/-- A valid subject is read, with its identifier in the right field, if it has at most one
confirmation. An identifier behind another element of a subject is refused. -/
theorem subject_accepted_iff (R : Registry) (searchNs : NsScope) (place : PlacedNode)
    (hname : subjectClass.nameMismatch R place.node = false) :
    (∀ names, SchemaValid names →
      List.Forall₂ (fun name child => subjectName place.node child.node = some name ∧
        ∃ object, newWithType R searchNs child name.className = .ok (some object))
        names place.elements →
      ((∃ stores,
          implInit R searchNs subjectClass place (place.children.map (·.result R searchNs)) =
            .ok (.ok stores) ∧
          ∀ id : SubjectName, id.isIdentifier = true →
            nodesIn id.text stores = subjectObjects place.node R searchNs id place.elements) ↔
        names.count .subjectConfirmation ≤ 1)) ∧
    ∀ first second id, (∀ child ∈ place.elements, child.node.isElement = true) →
      SubjectReturns place.node R searchNs place.elements →
      [first, second].Sublist place.elements → (subjectName place.node first.node).isSome →
      subjectName place.node second.node = some id → id.isIdentifier = true →
      implInit R searchNs subjectClass place (place.children.map (·.result R searchNs)) =
        .ok (.error 1) := by
  constructor
  · intro names hvalid hchildren
    obtain ⟨hwords, helements, hreturns⟩ := children_of_names hchildren
    have hinit := implInit_subject hname helements hreturns
    rw [← subjectRun_isSome_iff hvalid, ← hwords]
    cases hlast : subjectRun .start
        (place.elements.map fun child => subjectName place.node child.node) with
    | none =>
      rw [hlast] at hinit
      dsimp only at hinit
      refine iff_of_false ?_ (by simp)
      rintro ⟨stores, hstores, -⟩
      cases hinit.symm.trans hstores
    | some last =>
      rw [hlast] at hinit
      obtain ⟨stores, hstores, hnodes⟩ := hinit
      exact iff_of_true ⟨stores, hstores, fun id _ => hnodes id⟩ rfl
  · intro first second id helements hreturns hsublist hfirst hsecond hid
    obtain ⟨name, hfirst⟩ := Option.isSome_iff_exists.mp hfirst
    have hinit := implInit_subject hname helements hreturns
    have hwords := hsublist.map fun child => subjectName place.node child.node
    rw [List.map_cons, List.map_singleton, hfirst, hsecond] at hwords
    rw [subjectRun_eq_none hid hwords] at hinit
    exact hinit

/-! ## A subject with two confirmations -/

def subjectConfirmationSnippets : SnippetTable where
  snippets := [
    { name := "BaseID", kind := .node, field := some "BaseID", jumpOnMatch := true,
      jumpOffset := 3 },
    { name := "NameID", kind := .node, field := some "NameID", jumpOnMatch := true,
      jumpOffset := 2 },
    { name := "EncryptedID", kind := .node, field := some "EncryptedID",
      className := some "LassoSaml2EncryptedElement" },
    { name := "SubjectConfirmationData", kind := .node, field := some "SubjectConfirmationData" },
    { name := "Method", kind := .attribute, field := some "Method" }]
  jump_inside := by decide
  miss_ahead := by decide

def subjectConfirmationClass : LassoNodeClass where
  name := "LassoSaml2SubjectConfirmation"
  chain := [{ nodeName := "SubjectConfirmation", ns := some saml2AssertionHref,
              snippets := some subjectConfirmationSnippets }]
  chain_base := by decide

def subjectRegistry : Registry where
  types typename := [subjectConfirmationClass].find? (·.name == typename)
  mapping _ _ := none
  wsfPrefix _ _ := none
  types_name _ _ h := by simpa using List.find?_some h

/-- A subject with empty confirmations. -/
def confirmedSubject (n : Nat) : PlacedNode where
  path := []
  node := .element (some saml2AssertionHref) "Subject" []
    (List.replicate n (subjectNode "SubjectConfirmation"))

theorem forall₂_confirmedSubject (n : Nat) (h : n = 1 ∨ n = 2) :
    List.Forall₂ (fun name child =>
      subjectName (confirmedSubject n).node child.node = some name ∧
        ∃ object, newWithType subjectRegistry (fun _ _ => none) child name.className =
          .ok (some object))
      (List.replicate n .subjectConfirmation) (confirmedSubject n).elements := by
  rcases h with rfl | rfl
  · exact .cons ⟨rfl, _, rfl⟩ .nil
  · exact .cons ⟨rfl, _, rfl⟩ (.cons ⟨rfl, _, rfl⟩ .nil)

/-- A subject with a name identifier behind a confirmation. -/
def misplacedSubject : PlacedNode where
  path := []
  node := .element (some saml2AssertionHref) "Subject" []
    [subjectNode "SubjectConfirmation", subjectNode "NameID"]

/-- One confirmation is read, and a name identifier behind it is refused. -/
theorem subject_accepted_one : (∃ stores,
    implInit subjectRegistry (fun _ _ => none) subjectClass (confirmedSubject 1)
      ((confirmedSubject 1).children.map (·.result subjectRegistry fun _ _ => none)) =
        .ok (.ok stores)) ∧
    implInit subjectRegistry (fun _ _ => none) subjectClass misplacedSubject
      (misplacedSubject.children.map (·.result subjectRegistry fun _ _ => none)) =
        .ok (.error 1) := by
  constructor
  · obtain ⟨stores, hstores, -⟩ := ((subject_accepted_iff subjectRegistry (fun _ _ => none)
      (confirmedSubject 1) (by decide)).1 [.subjectConfirmation] (.inr ⟨0, rfl⟩)
        (forall₂_confirmedSubject 1 (.inl rfl))).mpr (by decide)
    exact ⟨stores, hstores⟩
  · refine (subject_accepted_iff subjectRegistry (fun _ _ => none) misplacedSubject
      (by decide)).2 ⟨[0], subjectNode "SubjectConfirmation"⟩ ⟨[1], subjectNode "NameID"⟩ .nameId
      ?_ ?_ (List.Sublist.refl _) rfl rfl rfl
    · intro child hchild
      rcases List.mem_pair.mp hchild with rfl | rfl <;> rfl
    · intro child hchild name hname
      rcases List.mem_pair.mp hchild with rfl | rfl <;> cases hname <;> exact ⟨_, rfl⟩

/-- Two confirmations are refused. -/
theorem subject_refused_two : ¬ ∀ (R : Registry) (searchNs : NsScope) (place : PlacedNode)
    (names : List SubjectName), subjectClass.nameMismatch R place.node = false →
    SchemaValid names →
    List.Forall₂ (fun name child => subjectName place.node child.node = some name ∧
      ∃ object, newWithType R searchNs child name.className = .ok (some object))
      names place.elements →
    ∃ stores, implInit R searchNs subjectClass place (place.children.map (·.result R searchNs)) =
      .ok (.ok stores) := by
  intro h
  obtain ⟨stores, hstores⟩ := h subjectRegistry (fun _ _ => none) (confirmedSubject 2)
    [.subjectConfirmation, .subjectConfirmation] (by decide) (.inr ⟨1, rfl⟩)
    (forall₂_confirmedSubject 2 (.inr rfl))
  cases hstores

end Lasso
