import Lasso.Saml20.ParsedConditions
import Mathlib.Tactic.Linarith

/-!
# Conditions from the element to the verdict

An assertion is judged by the object that the parser has made of its conditions. A restriction that
the parser drops is not checked, and of those that it keeps the check asks for one that names the
relying party, where the conditions ask for all of them. Times are compared to the second.

## Main definitions

* `SchemaAssertion` — the conditions of an assertion are as the schema has them.
* `Honoured` — the conditions of an element hold for a relying party.
* `ReadAsWritten` — the conditions mean the same to the code.

## Main results

* `honoured_iff_readAsWritten` — when the verdict means that the conditions hold.
-/

namespace Lasso

/-- An assertion whose conditions are as the schema has them. -/
structure SchemaAssertion (R : Registry) (searchNs : NsScope) (assertion : PlacedNode) : Prop where
  name : assertion.isSaml2 "Assertion" = true
  one : ∀ child ∈ assertion.children, ∀ child' ∈ assertion.children,
    child.isSaml2 "Conditions" = true → child'.isSaml2 "Conditions" = true → child = child'
  conditions : ∀ child ∈ assertion.children, child.isSaml2 "Conditions" = true →
    SchemaConditions R searchNs child

/-! ## From the element to the verdict -/

/-- The conditions hold at a time for a relying party. -/
structure Honoured (time : Int) (rp : String) (conditions : PlacedNode) : Prop where
  notBefore : ∀ attr ∈ conditions.node.attrs, attr.ns = none → attr.name = "NotBefore" →
    ∃ instant, xsdInstant attr.value = some instant ∧ instant ≤ time
  notOnOrAfter : ∀ attr ∈ conditions.node.attrs, attr.ns = none → attr.name = "NotOnOrAfter" →
    ∃ instant, xsdInstant attr.value = some instant ∧ time < instant
  audience : ∀ child ∈ conditions.children, child.isSaml2 "AudienceRestriction" = true →
    rp ∈ audiences child.node

/-- Where the code reads the conditions otherwise than they are written, it makes no difference: a
start within the current second has no fraction, the restrictions that are dropped name the relying
party, and those that are kept name one audience. -/
structure ReadAsWritten (time : Int) (rp : String) (conditions : PlacedNode) : Prop where
  notBefore : ∀ attr ∈ conditions.node.attrs, attr.ns = none → attr.name = "NotBefore" →
    iso8601GmtToTimeT attr.value = time → xsdFraction attr.value = some 0
  dropped : ∀ child ∈ conditions.children, child.isSaml2 "AudienceRestriction" = true →
    2 ≤ (audiences child.node).length → rp ∈ audiences child.node
  kept : ∀ child ∈ conditions.children, child.isSaml2 "AudienceRestriction" = true →
    ∀ child' ∈ conditions.children, child'.isSaml2 "AudienceRestriction" = true →
      ∀ audience audience', audiences child.node = [audience] →
        audiences child'.node = [audience'] → audience = audience'

section Verdict

variable {R : AssertionRegistry} {searchNs : NsScope} {time : Int} {rp : String}

/-- A start to the second that is past is past with its fraction, unless it is within the current
second. -/
theorem notBefore_iff {xsdtime : String} (hread : iso8601GmtToTimeT xsdtime ≠ -1)
    (hpast : iso8601GmtToTimeT xsdtime ≤ time) :
    (∃ instant, xsdInstant xsdtime = some instant ∧ instant ≤ time) ↔
      (iso8601GmtToTimeT xsdtime = time → xsdFraction xsdtime = some 0) := by
  obtain ⟨fraction, hfraction, hnonneg, hlt, hinstant⟩ := xsdInstant_of_iso8601 hread
  simp only [hinstant, hfraction, Option.some.injEq, exists_eq_left']
  constructor
  · rintro hle heq
    rw [heq] at hle
    linarith
  · intro hzero
    rcases hpast.eq_or_lt with heq | hlt'
    · rw [hzero heq, heq, add_zero]
    · have hcast : (iso8601GmtToTimeT xsdtime : ℚ) + 1 ≤ time := by exact_mod_cast hlt'
      linarith

theorem notOnOrAfter_of_read {xsdtime : String} (hread : iso8601GmtToTimeT xsdtime ≠ -1)
    (hafter : time < iso8601GmtToTimeT xsdtime) :
    ∃ instant, xsdInstant xsdtime = some instant ∧ time < instant := by
  obtain ⟨fraction, -, hnonneg, -, hinstant⟩ := xsdInstant_of_iso8601 hread
  refine ⟨_, hinstant, ?_⟩
  have hcast : (time : ℚ) < iso8601GmtToTimeT xsdtime := by exact_mod_cast hafter
  linarith

/-- A restriction with one audience is among the parsed ones. -/
theorem kept_of_audiences {place : PlacedNode} {conditions : ParsedNode}
    (hschema : SchemaConditions R.toRegistry searchNs place)
    (hread : ConditionsRead R.toRegistry searchNs place conditions) {child : PlacedNode}
    (hchild : child ∈ place.children) (hname : child.isSaml2 "AudienceRestriction" = true)
    {audience : String} (haudience : audiences child.node = [audience]) :
    ∃ object ∈ conditions.subnodes "AudienceRestriction",
      object.content "Audience" = some audience := by
  obtain ⟨result, hresult⟩ := hread.answered child hchild hname
  obtain ⟨hone, -⟩ :=
    audienceRestriction_parsed hname (hschema.restrictions child hchild hname) hresult
  obtain ⟨object, rfl, hcontent⟩ := hone audience haudience
  exact ⟨object, (hread.restrictions object).mpr ⟨child, hchild, hname, hresult⟩, hcontent⟩

/-- The parsed restrictions are those with one audience. -/
theorem audiences_of_kept {place : PlacedNode} {conditions : ParsedNode}
    (hschema : SchemaConditions R.toRegistry searchNs place)
    (hread : ConditionsRead R.toRegistry searchNs place conditions) {object : ParsedNode}
    (hobject : object ∈ conditions.subnodes "AudienceRestriction") :
    ∃ child ∈ place.children, child.isSaml2 "AudienceRestriction" = true ∧
      ∃ audience, audiences child.node = [audience] ∧
        object.content "Audience" = some audience := by
  obtain ⟨child, hchild, hname, hresult⟩ := (hread.restrictions object).mp hobject
  have hrestriction := hschema.restrictions child hchild hname
  obtain ⟨hone, hmany⟩ := audienceRestriction_parsed hname hrestriction hresult
  refine ⟨child, hchild, hname, ?_⟩
  cases haudiences : audiences child.node with
  | nil => exact absurd haudiences hrestriction.nonempty
  | cons audience others =>
    cases others with
    | nil =>
      obtain ⟨object', hobject', hcontent⟩ := hone audience haudiences
      obtain rfl := Option.some.inj hobject'
      exact ⟨audience, rfl, hcontent⟩
    | cons audience' others =>
      have hnone := hmany (by simp [haudiences])
      cases hnone

/-- The conditions of a valid assertion hold just if the code reads them as they are written. -/
theorem honoured_iff_of_read {place : PlacedNode} {conditions : ParsedNode}
    (hschema : SchemaConditions R.toRegistry searchNs place)
    (hread : ConditionsRead R.toRegistry searchNs place conditions)
    (hbefore : ∀ xsdtime, conditions.content "NotBefore" = some xsdtime →
      iso8601GmtToTimeT xsdtime ≠ -1 ∧ iso8601GmtToTimeT xsdtime ≤ time)
    (hafter : ∀ xsdtime, conditions.content "NotOnOrAfter" = some xsdtime →
      iso8601GmtToTimeT xsdtime ≠ -1 ∧ time < iso8601GmtToTimeT xsdtime)
    (haudience : conditions.subnodes "AudienceRestriction" = [] ∨
      ∃ restriction ∈ conditions.subnodes "AudienceRestriction",
        restriction.content "Audience" = some rp) :
    Honoured time rp place ↔ ReadAsWritten time rp place := by
  have hbefore' : ∀ attr ∈ place.node.attrs, attr.ns = none → attr.name = "NotBefore" →
      iso8601GmtToTimeT attr.value ≠ -1 ∧ iso8601GmtToTimeT attr.value ≤ time :=
    fun attr hattr hns hname =>
      hbefore _ ((hread.times "NotBefore" (by simp) _).mpr ⟨attr, hattr, hns, hname, rfl⟩)
  constructor
  · intro h
    refine ⟨fun attr hattr hns hname => ?_,
      fun child hchild hname _ => h.audience child hchild hname, ?_⟩
    · obtain ⟨hread', hpast⟩ := hbefore' attr hattr hns hname
      exact (notBefore_iff hread' hpast).mp (h.notBefore attr hattr hns hname)
    · intro child hchild hname child' hchild' hname' audience audience' haud haud'
      have hmem := h.audience child hchild hname
      have hmem' := h.audience child' hchild' hname'
      rw [haud, List.mem_singleton] at hmem
      rw [haud', List.mem_singleton] at hmem'
      exact hmem.symm.trans hmem'
  · intro h
    refine ⟨fun attr hattr hns hname => ?_, fun attr hattr hns hname => ?_, ?_⟩
    · obtain ⟨hread', hpast⟩ := hbefore' attr hattr hns hname
      exact (notBefore_iff hread' hpast).mpr (h.notBefore attr hattr hns hname)
    · obtain ⟨hread', hlater⟩ := hafter _
        ((hread.times "NotOnOrAfter" (by simp) _).mpr ⟨attr, hattr, hns, hname, rfl⟩)
      exact notOnOrAfter_of_read hread' hlater
    · intro child hchild hname
      cases haudiences : audiences child.node with
      | nil => exact absurd haudiences (hschema.restrictions child hchild hname).nonempty
      | cons audience others =>
        cases others with
        | nil =>
          -- a restriction is kept, so one of those kept names the relying party
          obtain ⟨object, hobject, -⟩ := kept_of_audiences hschema hread hchild hname haudiences
          have hne : conditions.subnodes "AudienceRestriction" ≠ [] :=
            List.ne_nil_of_mem hobject
          obtain ⟨named, hnamed, hrp⟩ := haudience.resolve_left hne
          obtain ⟨child', hchild', hname', audience', haudiences', hcontent⟩ :=
            audiences_of_kept hschema hread hnamed
          obtain rfl : audience' = rp := Option.some.inj (hcontent.symm.trans hrp)
          rw [h.kept child hchild hname child' hchild' hname' _ _ haudiences haudiences']
          exact List.mem_singleton_self _
        | cons audience' others =>
          rw [← haudiences]
          exact h.dropped child hchild hname (by simp [haudiences])

theorem storesUnder_conditions : StoresUnder assertionClass.snippets conditionsSnippet where
  kind := .inl rfl
  field := rfl
  className := rfl
  nsUri := rfl
  only := by decide

/-- The conditions of a parsed assertion are what its element with the name gave. -/
theorem assertion_parsed {place : PlacedNode} {typename : Option String} {object : ParsedNode}
    (hschema : SchemaAssertion R.toRegistry searchNs place)
    (hparse : newWithType R.toRegistry searchNs place typename = .ok (some object))
    (hclass : object.className = "LassoSaml2Assertion") {child : PlacedNode}
    (hchild : child ∈ place.children) (hname : child.isSaml2 "Conditions" = true) :
    ∃ conditions, object.subnode "Conditions" = some conditions ∧
      ConditionsRead R.toRegistry searchNs child conditions := by
  obtain ⟨cls, stores, hcls, rfl, hrun⟩ := newWithType_eq_some hparse
  obtain ⟨typename', -, htypes⟩ := Option.bind_eq_some_iff.mp hcls
  obtain rfl : typename' = "LassoSaml2Assertion" :=
    (R.types_name typename' cls htypes).symm.trans hclass
  obtain rfl : cls = assertionClass :=
    Option.some.inj (htypes.symm.trans R.types_assertion)
  have hmatch : assertionClass.nameMismatch R.toRegistry place.node = false :=
    nameMismatch_saml2 rfl rfl rfl hschema.name
  obtain ⟨attributes, loop, hattributes, hloop, hstores⟩ := implInit_eq_ok rfl hmatch hrun
  obtain ⟨written, rfl, rfl⟩ := map_append_eq_ok hstores.symm
  obtain ⟨attrs, nodes, hnode⟩ := XmlNode.isElementNode_iff.mp hschema.name
  have hns : place.node.ns = some saml2AssertionHref := by rw [hnode]; rfl
  obtain ⟨result, hresult⟩ :=
    answered_of_stored storesUnder_conditions atRest_nextNodeSnippet hloop hchild hname
  obtain ⟨conditions, rfl, hread⟩ := conditions_parsed hname (hschema.conditions child hchild hname)
    hresult
  have hstored := mem_stored_iff storesUnder_conditions hns atRest_nextNodeSnippet hloop
  refine ⟨conditions, ParsedNode.subnode_eq_some ?_ ?_, hread⟩
  · exact List.mem_append_right _ ((hstored _).mpr ⟨child, hchild, hname, rfl, hresult⟩)
  · intro node hnodeStored
    have hwritten : .node conditionsSnippet.name node ∈ written := by
      refine (List.mem_append.mp hnodeStored).resolve_left fun hattr => ?_
      obtain ⟨attr, -, -, hmem⟩ := (mem_attributes hattributes).mp hattr
      exact node_notMem_attributeStores hmem
    obtain ⟨child', hchild', hname', -, hresult'⟩ := (hstored node).mp hwritten
    obtain rfl : child = child' := hschema.one child hchild child' hchild' hname hname'
    exact Except.ok.inj (hresult'.symm.trans hresult)

/-- The conditions of an assertion that is valid for a relying party hold just if the code reads
them as they are written. -/
theorem honoured_iff_readAsWritten {place : PlacedNode} {typename : Option String}
    {object : ParsedNode} (hschema : SchemaAssertion R.toRegistry searchNs place)
    (hparse : newWithType R.toRegistry searchNs place typename = .ok (some object))
    (hclass : object.className = "LassoSaml2Assertion")
    (hvalid : validateConditions time object (some rp) = .valid) :
    (∀ child ∈ place.children, child.isSaml2 "Conditions" = true → Honoured time rp child) ↔
      ∀ child ∈ place.children, child.isSaml2 "Conditions" = true →
        ReadAsWritten time rp child := by
  refine forall_congr' fun child => forall_congr' fun hchild => forall_congr' fun hname => ?_
  obtain ⟨conditions, hconditions, hread⟩ := assertion_parsed hschema hparse hclass hchild hname
  obtain ⟨hbefore, hafter, haudience⟩ := (validateConditions_eq_valid hconditions).mp hvalid
  exact honoured_iff_of_read (hschema.conditions child hchild hname) hread hbefore hafter haudience

end Verdict

/-! ## Assertions with audience restrictions -/

/-- An element of the assertion namespace. -/
def saml2Element (name : String) (attrs : List XmlAttr) (children : List XmlNode) : XmlNode :=
  .element (some saml2AssertionHref) name attrs children

def audienceRestriction (audiences : List String) : XmlNode :=
  saml2Element "AudienceRestriction" []
    (audiences.map fun audience => saml2Element "Audience" [] [.text audience])

/-- The conditions of an assertion that is valid in 2024. -/
def conditionsOf (restrictions : List (List String)) : XmlNode :=
  saml2Element "Conditions"
    [{ name := "NotBefore", value := "2024-01-01T00:00:00Z" },
     { name := "NotOnOrAfter", value := "2025-01-01T00:00:00Z" }]
    (restrictions.map audienceRestriction)

def assertionOf (restrictions : List (List String)) : PlacedNode :=
  ⟨[], saml2Element "Assertion" [] [saml2Element "Issuer" [] [.text "https://idp"],
    conditionsOf restrictions]⟩

def noScope : NsScope := fun _ _ => none

theorem keepsClass_of_getNsProp {R : Registry} {searchNs : NsScope} {place : PlacedNode}
    (h : place.node.getNsProp "type" xsiHref = none) : KeepsClass R searchNs place := by
  intro typename hxsi
  simp [xsiTypename, h] at hxsi

theorem audiences_audienceRestriction (names : List String) :
    audiences (audienceRestriction names) = names := by
  induction names with
  | nil => rfl
  | cons name names ih =>
    have htext : XmlNode.textContent (saml2Element "Audience" [] [.text name]) = name :=
      XmlNode.textContent_text _ _ _ _
    have hcons : audiences (audienceRestriction (name :: names)) =
        XmlNode.textContent (saml2Element "Audience" [] [.text name]) ::
          audiences (audienceRestriction names) := rfl
    rw [hcons, htext, ih]

theorem schemaRestriction_of_node {R : Registry} {place : PlacedNode} {names : List String}
    (hnode : place.node = audienceRestriction names) (hne : names ≠ []) :
    SchemaRestriction R noScope place where
  keepsClass := keepsClass_of_getNsProp (by rw [hnode]; rfl)
  nonempty := by rwa [hnode, audiences_audienceRestriction]
  only := by
    intro child hchild helement
    rw [hnode] at hchild
    obtain ⟨name, -, rfl⟩ := List.mem_map.mp hchild
    rfl

theorem schemaConditions_conditionsOf {R : Registry} {path : List Nat}
    {restrictions : List (List String)} (h : ∀ names ∈ restrictions, names ≠ []) :
    SchemaConditions R noScope ⟨path, conditionsOf restrictions⟩ := by
  have hchild : ∀ child ∈ PlacedNode.children ⟨path, conditionsOf restrictions⟩,
      ∃ names ∈ restrictions, audienceRestriction names = child.node :=
    fun child hchild => List.mem_map.mp (mem_placeFrom hchild)
  refine ⟨keepsClass_of_getNsProp rfl, ?_, ?_, ?_, ?_⟩
  · simp [conditionsOf, saml2Element, XmlNode.attrs]
  · simp [conditionsOf, saml2Element, XmlNode.attrs]
  · intro child hmem helement
    obtain ⟨names, -, hnode⟩ := hchild child hmem
    refine ⟨"AudienceRestriction", by simp, ?_⟩
    rw [PlacedNode.isSaml2, ← hnode]
    rfl
  · intro child hmem hname
    obtain ⟨names, hnames, hnode⟩ := hchild child hmem
    exact schemaRestriction_of_node hnode.symm (h names hnames)

theorem conditions_of_assertionOf {restrictions : List (List String)} {child : PlacedNode}
    (hchild : child ∈ (assertionOf restrictions).children)
    (hname : child.isSaml2 "Conditions" = true) : child = ⟨[1], conditionsOf restrictions⟩ := by
  have hchildren : (assertionOf restrictions).children =
      [⟨[0], saml2Element "Issuer" [] [.text "https://idp"]⟩,
        ⟨[1], conditionsOf restrictions⟩] := rfl
  rw [hchildren, List.mem_cons, List.mem_singleton] at hchild
  rcases hchild with rfl | rfl
  · cases hname
  · rfl

theorem schemaAssertion_assertionOf {R : Registry} {restrictions : List (List String)}
    (h : ∀ names ∈ restrictions, names ≠ []) :
    SchemaAssertion R noScope (assertionOf restrictions) := by
  refine ⟨rfl, fun child hchild child' hchild' hname hname' => ?_, fun child hchild hname => ?_⟩
  · rw [conditions_of_assertionOf hchild hname, conditions_of_assertionOf hchild' hname']
  · rw [conditions_of_assertionOf hchild hname]
    exact schemaConditions_conditionsOf h

/-- A valid assertion for the one relying party that it is restricted to. -/
theorem honoured_assertionOf :
    Honoured 1709164800 "https://sp" ⟨[1], conditionsOf [["https://sp"]]⟩ := by
  obtain ⟨object, hparse, hclass, hvalid⟩ : ∃ object,
      newWithType assertionRegistry.toRegistry noScope (assertionOf [["https://sp"]]) none =
        .ok (some object) ∧ object.className = "LassoSaml2Assertion" ∧
      validateConditions 1709164800 object (some "https://sp") = .valid :=
    ⟨_, rfl, rfl, by decide⟩
  refine (honoured_iff_readAsWritten (schemaAssertion_assertionOf (by simp)) hparse hclass
    hvalid).mpr (fun child hchild hname => ?_) _ (.tail _ (.head _)) rfl
  rw [conditions_of_assertionOf hchild hname]
  have honly : ∀ child ∈ PlacedNode.children ⟨[1], conditionsOf [["https://sp"]]⟩,
      audiences child.node = ["https://sp"] := by
    intro child hchild
    obtain rfl := List.mem_singleton.mp hchild
    rfl
  refine ⟨?_, fun child hchild _ hmany => ?_, fun child hchild _ child' hchild' _ _ _ h h' => ?_⟩
  · intro attr hattr _ hattrName hnow
    rcases List.mem_cons.mp hattr with rfl | hattr
    · exact absurd hnow (by decide)
    · obtain rfl := List.mem_singleton.mp hattr
      exact absurd hattrName (by decide)
  · simp [honly child hchild] at hmany
  · rw [honly child hchild] at h
    rw [honly child' hchild'] at h'
    exact (List.cons.inj (h.symm.trans h')).1

/-- An assertion that is restricted to `https://a` and `https://b`, to `https://c` and to
`https://d` is valid for `https://c`. -/
theorem assertionOf_valid_not_honoured :
    ∃ object, SchemaAssertion assertionRegistry.toRegistry noScope
        (assertionOf [["https://a", "https://b"], ["https://c"], ["https://d"]]) ∧
      newWithType assertionRegistry.toRegistry noScope
        (assertionOf [["https://a", "https://b"], ["https://c"], ["https://d"]]) none =
        .ok (some object) ∧ object.className = "LassoSaml2Assertion" ∧
      validateConditions 1709164800 object (some "https://c") = .valid ∧
      ¬ ∀ child ∈
        (assertionOf [["https://a", "https://b"], ["https://c"], ["https://d"]]).children,
        child.isSaml2 "Conditions" = true → Honoured 1709164800 "https://c" child := by
  refine ⟨_, schemaAssertion_assertionOf (by simp), rfl, rfl, by decide, fun h => ?_⟩
  have hhonoured := h _ (.tail _ (.head _)) rfl
  have hmem := hhonoured.audience _ (.head _) rfl
  exact absurd hmem (by decide)

end Lasso
