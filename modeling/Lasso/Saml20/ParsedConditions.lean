import Lasso.Saml20.AssertionClasses
import Lasso.Saml20.Conditions

/-!
# Parsed conditions

What the parser makes of conditions that are as the schema has them. It takes the single conditions
in any order, but drops an audience restriction with more than one audience, since the snippet of
the audience takes a single element.

## Main definitions

* `SchemaConditions`, `SchemaRestriction` — conditions as the schema has them.
* `ConditionsRead` — what parsed conditions hold of their element.

## Main results

* `audienceRestriction_parsed` — only a restriction with one audience becomes an object.
* `conditions_parsed` — conditions are parsed, with the restrictions that are.
-/

namespace Lasso

/-! ## The elements -/

/-- An element of the assertion namespace. -/
def PlacedNode.isSaml2 (place : PlacedNode) (name : String) : Bool :=
  place.node.isElementNode name saml2AssertionHref

/-- The audiences of an audience restriction. -/
def audiences (restriction : XmlNode) : List String :=
  (restriction.children.filter (·.isElementNode "Audience" saml2AssertionHref)).map
    (·.textContent)

/-- An `xsi:type` on the element names no class, or the one for the element's name. -/
def KeepsClass (R : Registry) (searchNs : NsScope) (place : PlacedNode) : Prop :=
  ∀ typename, xsiTypename R searchNs place.path place.node = some typename →
    typenameByName R place.node = some typename

/-- An audience restriction as the schema has it. -/
structure SchemaRestriction (R : Registry) (searchNs : NsScope) (restriction : PlacedNode) :
    Prop where
  keepsClass : KeepsClass R searchNs restriction
  nonempty : audiences restriction.node ≠ []
  only : ∀ child ∈ restriction.node.children, child.isElement = true →
    child.isElementNode "Audience" saml2AssertionHref = true

/-- Conditions as the schema has them. -/
structure SchemaConditions (R : Registry) (searchNs : NsScope) (conditions : PlacedNode) :
    Prop where
  keepsClass : KeepsClass R searchNs conditions
  attrs_unique : ∀ attr ∈ conditions.node.attrs, ∀ attr' ∈ conditions.node.attrs,
    attr.name = attr'.name → attr.ns = attr'.ns → attr = attr'
  attrs_unqualified : ∀ attr ∈ conditions.node.attrs, attr.ns ≠ some saml2AssertionHref
  choice : ∀ child ∈ conditions.children, child.node.isElement = true →
    ∃ name ∈ ["Condition", "AudienceRestriction", "OneTimeUse", "ProxyRestriction"],
      child.isSaml2 name = true
  restrictions : ∀ child ∈ conditions.children, child.isSaml2 "AudienceRestriction" = true →
    SchemaRestriction R searchNs child

/-! ## The classes -/

section Classes

variable {R : AssertionRegistry} {searchNs : NsScope} {place : PlacedNode}

theorem typeName_saml2 {name : String} {cls : LassoNodeClass} (hsvc : name ≠ "SvcMD")
    (hmapping : R.mapping saml2AssertionHref name = none)
    (htypes : R.types ("LassoSaml2" ++ name) = some cls) :
    typeNameFromHrefAndNodename R.toRegistry saml2AssertionHref name =
      some ("LassoSaml2" ++ name) := by
  have hpre : prefixFromHrefAndNodename R.toRegistry saml2AssertionHref name = some "Saml2" := rfl
  simp [typeNameFromHrefAndNodename, hpre, hsvc, hmapping, htypes]

theorem classFor_of_keepsClass {name : String} {cls : LassoNodeClass} (hsvc : name ≠ "SvcMD")
    (hmapping : R.mapping saml2AssertionHref name = none)
    (htypes : R.types ("LassoSaml2" ++ name) = some cls) (hname : place.isSaml2 name = true)
    (hkeeps : KeepsClass R.toRegistry searchNs place) :
    classFor R.toRegistry searchNs place none = some cls := by
  obtain ⟨attrs, children, hnode⟩ := XmlNode.isElementNode_iff.mp hname
  have hby : typenameByName R.toRegistry place.node = some ("LassoSaml2" ++ name) := by
    rw [hnode]
    exact typeName_saml2 hsvc hmapping htypes
  have hauto : autoTypename R.toRegistry searchNs place.path place.node =
      some ("LassoSaml2" ++ name) := by
    rw [autoTypename]
    cases hxsi : xsiTypename R.toRegistry searchNs place.path place.node with
    | none => simpa using hby
    | some typename =>
      have := hkeeps typename hxsi
      rw [hby] at this
      simpa using this.symm
  rw [classFor, Option.none_or, hauto]
  exact htypes

theorem nameMismatch_saml2 {name : String} {cls : LassoNodeClass} {data : NodeClassData}
    (hdata : cls.checkData = some data) (hns : data.ns = some saml2AssertionHref)
    (hnodeName : data.nodeName = name) (hname : place.isSaml2 name = true) :
    cls.nameMismatch R.toRegistry place.node = false := by
  obtain ⟨attrs, children, hnode⟩ := XmlNode.isElementNode_iff.mp hname
  rw [LassoNodeClass.nameMismatch_eq_false, LassoNodeClass.dataMismatch_eq_false, hnode]
  refine .inl ⟨data, hdata, by simp [XmlNode.elementName, hnodeName], ?_⟩
  simp [equalNamespace, hns, XmlNode.ns]

end Classes

/-! ## Audience restrictions -/

section Restriction

variable {R : Registry} {searchNs : NsScope}

/-- The audiences among placed children. -/
def audiencesOf (children : List PlacedNode) : List String :=
  (children.filter (·.isSaml2 "Audience")).map (·.node.textContent)

theorem audiencesOf_children (place : PlacedNode) :
    audiencesOf place.children = audiences place.node := by
  rw [audiences, ← placeFrom_map_node place.path 0 place.node.children, List.filter_map,
    List.map_map]
  rfl

theorem isSaml2_of_not_isElement {place : PlacedNode} (name : String)
    (h : place.node.isElement = false) : place.isSaml2 name = false := by
  unfold PlacedNode.isSaml2
  cases hnode : place.node with
  | element ns name attrs children => simp [hnode, XmlNode.isElement] at h
  | _ => rfl

theorem audiencesOf_cons {child : PlacedNode} {children : List PlacedNode}
    (h : child.isSaml2 "Audience" = true) :
    audiencesOf (child :: children) = child.node.textContent :: audiencesOf children := by
  simp [audiencesOf, h]

theorem audiencesOf_cons_of_not_isElement {child : PlacedNode} {children : List PlacedNode}
    (h : child.node.isElement = false) : audiencesOf (child :: children) = audiencesOf children := by
  simp [audiencesOf, isSaml2_of_not_isElement "Audience" h]

def audienceSnippet : Snippet := { name := "Audience", kind := .content, field := some "Audience" }

/-- Children whose elements are audiences have an element if they have an audience. -/
theorem any_isElement {children : List PlacedNode}
    (honly : ∀ child ∈ children, child.node.isElement = true → child.isSaml2 "Audience" = true) :
    (children.map (·.result R searchNs)).any (·.node.isElement) =
      !(audiencesOf children).isEmpty := by
  induction children with
  | nil => rfl
  | cons child children ih =>
    have hrest := ih fun other hother => honly other (List.mem_cons_of_mem _ hother)
    rw [List.map_cons, List.any_cons, hrest, PlacedNode.result_node]
    cases helement : child.node.isElement with
    | true =>
      rw [audiencesOf_cons (honly child List.mem_cons_self helement)]
      rfl
    | false =>
      rw [audiencesOf_cons_of_not_isElement helement]
      rfl

/-- The loop over the children of an audience restriction: the snippet of the audience is used up
by the first one. -/
theorem initChildren_audiences {attrs : List XmlAttr} {nodes : List XmlNode}
    {children : List PlacedNode} {rc : Except Int (List Store)}
    (honly : ∀ child ∈ children, child.node.isElement = true → child.isSaml2 "Audience" = true)
    (h : initChildren audienceRestrictionClass.snippets none
      (.element (some saml2AssertionHref) "AudienceRestriction" attrs nodes) 0
      (children.map (·.result R searchNs)) = .ok rc) :
    rc = match audiencesOf children with
      | [] => .ok []
      | [audience] => .ok [.content "Audience" audience]
      | _ => .error 1 := by
  induction children generalizing rc with
  | nil => exact (Except.ok.inj h).symm
  | cons child children ih =>
    have hrest : ∀ child ∈ children,
        child.node.isElement = true → child.isSaml2 "Audience" = true :=
      fun other hother => honly other (List.mem_cons_of_mem _ hother)
    have hlive : 0 < audienceRestrictionClass.snippets.length := by decide
    rw [List.map_cons, initChildren, if_pos hlive, PlacedNode.result_node] at h
    cases hnode : child.node with
    | text content =>
      simp only [hnode] at h
      obtain ⟨part, hpart, h⟩ := Outcome.bind_eq_ok.mp h
      obtain ⟨result, hresult, h⟩ := Outcome.bind_eq_ok.mp h
      obtain rfl : part = [] := (Except.ok.inj hpart).symm
      obtain rfl : result.map ([] ++ ·) = rc := Except.ok.inj h
      rw [audiencesOf_cons_of_not_isElement (by rw [hnode]; rfl), ← ih hrest hresult]
      cases result <;> rfl
    | comment content | pi target content =>
      simp only [hnode] at h
      rw [audiencesOf_cons_of_not_isElement (by rw [hnode]; rfl), ← ih hrest h]
    | cdata content => simp [hnode] at h
    | element ns name attrs' nodes' =>
      have haudience := honly child List.mem_cons_self (by simp [hnode, XmlNode.isElement])
      obtain ⟨attrs', nodes', hnode⟩ := XmlNode.isElementNode_iff.mp haudience
      have hfind : findSnippet audienceRestrictionClass.snippets
          (.element (some saml2AssertionHref) "AudienceRestriction" attrs nodes)
          (.element (some saml2AssertionHref) "Audience" attrs' nodes')
          (audienceRestrictionClass.snippets.length + 1) 0 = .found audienceSnippet 1 := rfl
      have hstore : storeMatched audienceSnippet (child.result R searchNs) =
          .ok [.content "Audience" child.node.textContent] := by
        simp [storeMatched, audienceSnippet, pure, Except.pure]
      have hpast : ¬ 1 < audienceRestrictionClass.snippets.length := by decide
      rw [hnode] at h
      dsimp only at h
      rw [hfind] at h
      dsimp only at h
      rw [hstore, initChildren_past hpast, any_isElement hrest] at h
      rw [audiencesOf_cons haudience]
      cases haudiences : audiencesOf children with
      | nil =>
        rw [haudiences] at h
        exact (Except.ok.inj h).symm
      | cons audience others =>
        rw [haudiences] at h
        exact (Except.ok.inj h).symm

/-- What the attributes of an element have written. -/
theorem mem_attributes {cls : LassoNodeClass} {data : NodeClassData} {path : List Nat}
    {node : XmlNode} {attributes : List Store}
    (h : collectAttributes searchNs cls data path node = .ok attributes) {store : Store} :
    store ∈ attributes ↔
      ∃ attr ∈ node.attrs, isOwnXsiType searchNs data path attr = .ok false ∧
        store ∈ attributeStores cls node attr := by
  rw [Outcome.mem_gather h]
  refine exists_congr fun attr => and_congr_right fun _ => ?_
  rcases hown : isOwnXsiType searchNs data path attr with fault | own
  · simp [bind, Except.bind]
  · cases own <;> simp [bind, Except.bind, pure, Except.pure]

/-- An attribute without a namespace is no `xsi:type`. -/
theorem isOwnXsiType_of_ns_none {data : NodeClassData} {path : List Nat} {attr : XmlAttr}
    (h : attr.ns = none) : isOwnXsiType searchNs data path attr = .ok false := by
  simp [isOwnXsiType, h, pure, Except.pure]

end Restriction

section Parsed

variable {R : AssertionRegistry} {searchNs : NsScope}

/-- Only a restriction with one audience becomes an object. -/
theorem audienceRestriction_parsed {restriction : PlacedNode} {result : Option ParsedNode}
    (hname : restriction.isSaml2 "AudienceRestriction" = true)
    (hschema : SchemaRestriction R.toRegistry searchNs restriction)
    (h : newWithType R.toRegistry searchNs restriction none = .ok result) :
    (∀ audience, audiences restriction.node = [audience] →
      ∃ object, result = some object ∧ object.content "Audience" = some audience) ∧
    (2 ≤ (audiences restriction.node).length → result = none) := by
  have hcls := classFor_of_keepsClass (by decide) R.mapping_audienceRestriction
    R.types_audienceRestriction hname hschema.keepsClass
  have hmatch : audienceRestrictionClass.nameMismatch R.toRegistry restriction.node = false :=
    nameMismatch_saml2 rfl rfl rfl hname
  obtain ⟨rc, hrun, rfl⟩ := newWithType_eq_ok hcls h
  obtain ⟨attributes, loop, hattributes, hloop, rfl⟩ := implInit_eq_ok rfl hmatch hrun
  have hnone : attributes = [] := by
    refine List.eq_nil_iff_forall_not_mem.mpr fun store hstore => ?_
    obtain ⟨attr, -, -, hmem⟩ := (mem_attributes hattributes).mp hstore
    have hwrites : attributeStores audienceRestrictionClass restriction.node attr = [] := by
      unfold attributeStores
      cases attr.ns <;> rfl
    rw [hwrites] at hmem
    cases hmem
  have honly : ∀ child ∈ restriction.children, child.node.isElement = true →
      child.isSaml2 "Audience" = true :=
    fun child hchild => hschema.only child.node (mem_placeFrom hchild)
  obtain ⟨attrs, nodes, hnode⟩ := XmlNode.isElementNode_iff.mp hname
  rw [hnode] at hloop
  have hread := initChildren_audiences honly hloop
  rw [audiencesOf_children] at hread
  subst hnone
  constructor
  · intro audience haudience
    rw [haudience] at hread
    subst hread
    exact ⟨_, rfl, rfl⟩
  · intro hmany
    cases haudiences : audiences restriction.node with
    | nil => simp [haudiences] at hmany
    | cons audience others =>
      cases others with
      | nil => simp [haudiences] at hmany
      | cons audience' others =>
        rw [haudiences] at hread
        subst hread
        rfl

/-! ## Conditions -/

/-- What parsed conditions hold of their element. -/
structure ConditionsRead (R : Registry) (searchNs : NsScope) (place : PlacedNode)
    (conditions : ParsedNode) : Prop where
  times : ∀ name ∈ ["NotBefore", "NotOnOrAfter"], ∀ value,
    conditions.content name = some value ↔
      ∃ attr ∈ place.node.attrs, attr.ns = none ∧ attr.name = name ∧ attr.value = value
  restrictions : ∀ object, object ∈ conditions.subnodes "AudienceRestriction" ↔
    ∃ child ∈ place.children, child.isSaml2 "AudienceRestriction" = true ∧
      newWithType R searchNs child none = .ok (some object)
  answered : ∀ child ∈ place.children, child.isSaml2 "AudienceRestriction" = true →
    ∃ result, newWithType R searchNs child none = .ok result

def notBeforeSnippet : Snippet :=
  { name := "NotBefore", kind := .attribute, field := some "NotBefore" }

def notOnOrAfterSnippet : Snippet :=
  { name := "NotOnOrAfter", kind := .attribute, field := some "NotOnOrAfter" }

theorem attributeSnippet_conditions {node : XmlNode} {attr : XmlAttr}
    (hother : equalNamespace attr.ns node.ns = false) :
    attributeSnippet node attr conditionsSnippets =
      if attr.ns = none then
        [notBeforeSnippet, notOnOrAfterSnippet].find? (attr.name == ·.name)
      else none := by
  have hfind : (conditionsSnippets.snippets.find? fun snippet =>
      snippet.kind == .attribute && attr.name == snippet.name) =
      [notBeforeSnippet, notOnOrAfterSnippet].find? (attr.name == ·.name) := rfl
  rw [attributeSnippet, hfind]
  cases hns : attr.ns with
  | none =>
    rw [if_pos rfl]
    cases [notBeforeSnippet, notOnOrAfterSnippet].find? (attr.name == ·.name) <;> rfl
  | some ns =>
    rw [hns] at hother
    simp only [hother, List.find?_cons]
    cases attr.name == notBeforeSnippet.name <;>
      cases attr.name == notOnOrAfterSnippet.name <;> rfl

/-- The attributes of conditions that are written. -/
theorem mem_attributeStores_conditions {node : XmlNode} {attr : XmlAttr}
    (hnode : node.ns = some saml2AssertionHref) (hattr : attr.ns ≠ some saml2AssertionHref)
    {field value : String} :
    .content field value ∈ attributeStores conditionsClass node attr ↔
      attr.ns = none ∧ attr.name = field ∧ attr.value = value ∧
        field ∈ ["NotBefore", "NotOnOrAfter"] := by
  have hlist : conditionsClass.classList = [conditionsSnippets] := rfl
  have hany : conditionsClass.snippetAnyAttribute = none := rfl
  have hother : equalNamespace attr.ns node.ns = false := by
    rw [hnode]
    simpa [equalNamespace] using fun _ => hattr
  rw [attributeStores, hlist, hany, List.filterMap_cons, attributeSnippet_conditions hother]
  cases hns : attr.ns with
  | some ns => simp
  | none =>
    simp only [if_true, List.find?_cons]
    by_cases hbefore : attr.name = "NotBefore"
    · simp [hbefore, notBeforeSnippet]
      grind
    · by_cases hafter : attr.name = "NotOnOrAfter"
      · simp [hafter, notBeforeSnippet, notOnOrAfterSnippet]
        grind
      · simp [notBeforeSnippet, notOnOrAfterSnippet]
        grind

/-- Whatever the order of the single conditions, the loop takes them all. -/
theorem initChildren_conditions {attrs : List XmlAttr} {nodes : List XmlNode}
    {children : List PlacedNode} {rc : Except Int (List Store)}
    (hchoice : ∀ child ∈ children, child.node.isElement = true →
      ∃ name ∈ ["Condition", "AudienceRestriction", "OneTimeUse", "ProxyRestriction"],
        child.isSaml2 name = true)
    (h : initChildren conditionsClass.snippets none
      (.element (some saml2AssertionHref) "Conditions" attrs nodes) 0
      (children.map (·.result R.toRegistry searchNs)) = .ok rc) :
    ∃ stores, rc = .ok stores := by
  refine initChildren_stays (by decide) ?_ h
  intro child hchild helement
  obtain ⟨name, hname, hsaml2⟩ := hchoice child hchild helement
  obtain ⟨attrs', nodes', hnode⟩ := XmlNode.isElementNode_iff.mp hsaml2
  rw [hnode]
  simp only [List.mem_cons, List.not_mem_nil, or_false] at hname
  rcases hname with rfl | rfl | rfl | rfl
  · exact ⟨_, rfl⟩
  · exact ⟨_, rfl⟩
  · exact ⟨_, rfl⟩
  · exact ⟨_, rfl⟩

def audienceRestrictionSnippet : Snippet :=
  { name := "AudienceRestriction", kind := .listNodes, field := some "AudienceRestriction",
    jumpOnMatch := true, jumpOffset := -1 }

theorem storesUnder_audienceRestriction :
    StoresUnder conditionsClass.snippets audienceRestrictionSnippet where
  kind := .inr rfl
  field := rfl
  className := rfl
  nsUri := rfl
  only := by decide

/-- No attribute is stored as an object. -/
theorem node_notMem_attributeStores {cls : LassoNodeClass} {node : XmlNode} {attr : XmlAttr}
    {field : String} {object : Option ParsedNode} :
    .node field object ∉ attributeStores cls node attr := by
  unfold attributeStores
  split
  · simp
  · simp only [List.mem_filterMap, Option.map_eq_some_iff, not_exists, not_and]
    rintro snippet - name - ⟨⟩

/-- The children of conditions write objects only. -/
theorem content_notMem_conditions {parent : XmlNode} {child : PlacedNode} {part : List Store}
    {field value : String}
    (h : WrotePart R.toRegistry searchNs conditionsClass.snippets parent child part) :
    .content field value ∉ part := by
  unfold WrotePart at h
  split_ifs at h
  · obtain ⟨snippet, hsnippet, hholds, -, hpart⟩ := h
    have hkind : ∀ snippet ∈ conditionsClass.snippets, snippet.holdsNodes = true →
        snippet.kind = .listNodes ∧ snippet.field = some snippet.name := by decide
    obtain ⟨hlist, hfield⟩ := hkind snippet hsnippet hholds
    obtain ⟨result, -, rfl⟩ := storeMatched_node_eq_ok hfield (.inr hlist) hpart
    simp
  · simp [h]

/-- Conditions as the schema has them are parsed, with their times and with the audience
restrictions that are. -/
theorem conditions_parsed {place : PlacedNode} {result : Option ParsedNode}
    (hname : place.isSaml2 "Conditions" = true)
    (hschema : SchemaConditions R.toRegistry searchNs place)
    (h : newWithType R.toRegistry searchNs place none = .ok result) :
    ∃ conditions, result = some conditions ∧
      ConditionsRead R.toRegistry searchNs place conditions := by
  have hcls := classFor_of_keepsClass (by decide) R.mapping_conditions R.types_conditions hname
    hschema.keepsClass
  have hmatch : conditionsClass.nameMismatch R.toRegistry place.node = false :=
    nameMismatch_saml2 rfl rfl rfl hname
  obtain ⟨rc, hrun, rfl⟩ := newWithType_eq_ok hcls h
  obtain ⟨attributes, loop, hattributes, hloop, rfl⟩ := implInit_eq_ok rfl hmatch hrun
  obtain ⟨attrs, nodes, hnode⟩ := XmlNode.isElementNode_iff.mp hname
  have hns : place.node.ns = some saml2AssertionHref := by rw [hnode]; rfl
  have hstart : nextNodeSnippet conditionsClass.snippets 0 = 0 := rfl
  have hrest : AtRest conditionsClass.snippets (nextNodeSnippet conditionsClass.snippets 0) :=
    atRest_nextNodeSnippet
  rw [hstart] at hrest
  have hany : conditionsClass.snippetAny = none := rfl
  rw [hany, hstart] at hloop
  obtain ⟨stores, rfl⟩ := initChildren_conditions hschema.choice (hnode ▸ hloop)
  refine ⟨.mk _ (attributes ++ stores), rfl, ?_, ?_, ?_⟩
  · intro name hmember value
    have hwritten : ∀ value', .content name value' ∈ attributes ++ stores ↔
        ∃ attr ∈ place.node.attrs, attr.ns = none ∧ attr.name = name ∧ attr.value = value' := by
      intro value'
      have hloose : .content name value' ∉ stores := by
        intro hstore
        obtain ⟨child, -, part, hwrote, hmem⟩ := (initChildren_eq_ok hrest hloop).2 _ hstore
        exact content_notMem_conditions hwrote hmem
      rw [List.mem_append, or_iff_left hloose, mem_attributes hattributes]
      constructor
      · rintro ⟨attr, hattr, -, hmem⟩
        obtain ⟨hnone, hattrName, hvalue, -⟩ :=
          (mem_attributeStores_conditions hns (hschema.attrs_unqualified attr hattr)).mp hmem
        exact ⟨attr, hattr, hnone, hattrName, hvalue⟩
      · rintro ⟨attr, hattr, hnone, hattrName, hvalue⟩
        refine ⟨attr, hattr, isOwnXsiType_of_ns_none hnone, ?_⟩
        exact (mem_attributeStores_conditions hns (hschema.attrs_unqualified attr hattr)).mpr
          ⟨hnone, hattrName, hvalue, hmember⟩
    rw [← hwritten]
    constructor
    · exact ParsedNode.content_mem
    · intro hmem
      refine (ParsedNode.content_eq_some_iff fun value' hmem' => ?_).mpr hmem
      obtain ⟨attr, hattr, hnone, hattrName, rfl⟩ := (hwritten value).mp hmem
      obtain ⟨attr', hattr', hnone', hattrName', rfl⟩ := (hwritten value').mp hmem'
      rw [hschema.attrs_unique attr' hattr' attr hattr (hattrName'.trans hattrName.symm)
        (hnone'.trans hnone.symm)]
  · intro object
    have hloose : .node "AudienceRestriction" (some object) ∉ attributes := by
      intro hstore
      obtain ⟨attr, -, -, hmem⟩ := (mem_attributes hattributes).mp hstore
      exact node_notMem_attributeStores hmem
    have hstored := mem_stored_iff storesUnder_audienceRestriction hns hrest hloop (some object)
    rw [ParsedNode.mem_subnodes]
    change .node "AudienceRestriction" (some object) ∈ attributes ++ stores ↔ _
    rw [List.mem_append, or_iff_right hloose]
    refine hstored.trans ?_
    simp [PlacedNode.isSaml2, audienceRestrictionSnippet]
  · exact fun child hchild hchildName =>
      answered_of_stored storesUnder_audienceRestriction hrest hloop hchild hchildName

end Parsed

end Lasso
