import Lasso.Saml20.AssertionClasses

/-!
# The class of a parsed element

An element that a snippet leaves to be recognised becomes an object of the class that its
`xsi:type` names, or of the class for its name. The class compares itself with the element in
`lasso_node_impl_init_from_xml`, so a class with a method of its own may leave the comparison out.

## Main definitions

* `Designated` — the class stands for the element's name.
* `XsiTypeChecked` — what `xsi:type` asks for is compared with the element's name, or agrees with
  it.

## Main results

* `designated_iff_xsiTypeChecked` — when an object has a class that stands for its element.
-/

namespace Lasso

/-- The class is the one for the element's namespace and name, by the default rule or a registered
mapping, or its `xsi_sub_type` parents end in a class with that namespace and name. -/
def Designated (R : Registry) (node : XmlNode) (className : String) : Prop :=
  typenameByName R node = some className ∨
    (∃ href name, node.ns = some href ∧ node.elementName = some name ∧
      R.mapping href name = some className) ∨
    ∃ cls data, R.types className = some cls ∧ cls.checkData = some data ∧
      node.elementName = some data.nodeName ∧ equalNamespace data.ns node.ns = true

/-- The method makes the name check on the node, and fails when the check does. -/
def InitMethod.ChecksName (node : XmlNode) : InitMethod → Prop
  | .impl => True
  | .after method => ∀ rc stores, method node (.error rc) ≠ .ok (.ok stores)
  | .own _ => False
  | .miscText => isMiscText node = true

/-- The class that `xsi:type` picks, if there is one, is the class for the element's name, makes the
name check on the element, or would pass it. -/
def XsiTypeChecked (R : Registry) (searchNs : NsScope) (place : PlacedNode) : Prop :=
  ∀ typename cls, xsiTypename R searchNs place.path place.node = some typename →
    R.types typename = some cls →
      typenameByName R place.node = some typename ∨ cls.init.ChecksName place.node ∨
        cls.nameMismatch R place.node = false

/-! ## The name check -/

section NameCheck

variable {R : Registry} {searchNs : NsScope} {cls : LassoNodeClass} {node : XmlNode}

theorem implInit_checks_name {place : PlacedNode} {children : List ChildResult}
    {stores : List Store} (h : implInit R searchNs cls place children = .ok (.ok stores)) :
    cls.nameMismatch R place.node = false := by
  unfold implInit at h
  cases hmismatch : cls.nameMismatch R place.node with
  | false => rfl
  | true =>
    split at h
    · cases h
    · rw [if_pos hmismatch] at h
      cases h

/-- A class that makes the name check fills an object in only if the check passes. -/
theorem initFromXml_checks_name {place : PlacedNode} {children : List ChildResult}
    {stores : List Store} (hchecks : cls.init.ChecksName place.node)
    (h : initFromXml R searchNs cls place children = .ok (.ok stores)) :
    cls.nameMismatch R place.node = false := by
  unfold initFromXml at h
  cases hinit : cls.init with
  | impl =>
    rw [hinit] at h
    exact implInit_checks_name h
  | after method =>
    rw [hinit] at h hchecks
    obtain ⟨result, himpl, hmethod⟩ := Outcome.bind_eq_ok.mp h
    rcases result with rc | parent
    · exact absurd hmethod (hchecks rc stores)
    · exact implInit_checks_name himpl
  | own method =>
    rw [hinit] at hchecks
    exact hchecks.elim
  | miscText =>
    rw [hinit] at h hchecks
    have hmisc : isMiscText place.node = true := hchecks
    dsimp only at h
    split at h
    · rename_i htext
      simp [htext, isMiscText] at hmisc
    · rw [if_pos hmisc] at h
      obtain ⟨result, himpl, hresult⟩ := Outcome.bind_eq_ok.mp h
      rcases result with rc | parent
      · cases hresult
      · exact implInit_checks_name himpl

/-- A class stands for the element if it is the one for its name or passes the name check. -/
theorem designated_iff (hcls : R.types cls.name = some cls) :
    Designated R node cls.name ↔
      typenameByName R node = some cls.name ∨ cls.nameMismatch R node = false := by
  simp only [Designated, hcls, LassoNodeClass.nameMismatch_eq_false,
    LassoNodeClass.dataMismatch_eq_false, Option.some.injEq, exists_and_left, exists_eq_left']
  rw [or_comm (b := ∃ href, _)]

end NameCheck

/-! ## The class of an object and its element -/

/-- An object made of an element for a snippet without a class has a class that stands for the
element just if what `xsi:type` asks for was compared with the element's name or agrees with it. -/
theorem designated_iff_xsiTypeChecked {R : Registry} {searchNs : NsScope} {place : PlacedNode}
    {snippet : Snippet} {object : ParsedNode} (hclass : snippet.className = none)
    (h : newWithType R searchNs place snippet.className = .ok (some object)) :
    Designated R place.node object.className ↔ XsiTypeChecked R searchNs place := by
  rw [hclass] at h
  obtain ⟨cls, stores, hcls, rfl, hrun⟩ := newWithType_eq_some h
  obtain ⟨typename, hauto, htypes⟩ := Option.bind_eq_some_iff.mp hcls
  rw [Option.none_or] at hauto
  obtain rfl : cls.name = typename := R.types_name typename cls htypes
  change Designated R place.node cls.name ↔ _
  rw [designated_iff htypes]
  constructor
  · intro hdesignated typename cls' hxsi htypes'
    obtain rfl : typename = cls.name := by
      simpa [autoTypename, hxsi] using hauto
    obtain rfl : cls' = cls := Option.some.inj (htypes'.symm.trans htypes)
    rcases hdesignated with hname | hmatch
    · exact .inl hname
    · exact .inr (.inr hmatch)
  · intro hchecked
    cases hxsi : xsiTypename R searchNs place.path place.node with
    | none =>
      exact .inl (by simpa [autoTypename, hxsi] using hauto)
    | some typename =>
      obtain rfl : typename = cls.name := by
        simpa [autoTypename, hxsi] using hauto
      rcases hchecked _ cls hxsi htypes with hname | hchecks | hmatch
      · exact .inl hname
      · exact .inr (initFromXml_checks_name hchecks hrun)
      · exact .inr hmatch

/-- The prefix `lasso` at every node. -/
def lassoScope : NsScope := fun _ pre => if pre == "lasso" then some lassoHref else none

/-- `<saml:Conditions/>`, as a child of an assertion. -/
def emptyConditions : PlacedNode := ⟨[0], .element (some saml2AssertionHref) "Conditions" [] []⟩

theorem designated_emptyConditions :
    Designated assertionRegistry.toRegistry emptyConditions.node "LassoSaml2Conditions" := by
  have hnew : newWithType assertionRegistry.toRegistry lassoScope emptyConditions
      conditionsSnippet.className = .ok (some (.mk "LassoSaml2Conditions" [])) := rfl
  refine (designated_iff_xsiTypeChecked rfl hnew).mpr ?_
  intro typename cls hxsi
  cases hxsi

/-- `<saml:Conditions xsi:type="lasso:LassoMiscTextNode"/>`, as a child of an assertion. -/
def miscTextConditions : PlacedNode :=
  ⟨[0], .element (some saml2AssertionHref) "Conditions"
    [{ name := "type", ns := some xsiHref, value := "lasso:LassoMiscTextNode" }] []⟩

/-- The assertion stores a `LassoMiscTextNode` as its conditions. -/
theorem miscTextConditions_stored :
    conditionsSnippet ∈ assertionClass.snippets ∧ conditionsSnippet.any = false ∧
      conditionsSnippet.className = none ∧
      (∀ attrs children, nodeMatchSnippet
        (.element (some saml2AssertionHref) "Assertion" attrs children)
        miscTextConditions.node conditionsSnippet = true) ∧
      newWithType assertionRegistry.toRegistry lassoScope miscTextConditions
          conditionsSnippet.className =
        .ok (some (.mk "LassoMiscTextNode" [.xmlNode "xml_content" miscTextConditions.node])) ∧
      storeMatched conditionsSnippet
          (miscTextConditions.result assertionRegistry.toRegistry lassoScope) =
        .ok [.node "Conditions"
          (some (.mk "LassoMiscTextNode" [.xmlNode "xml_content" miscTextConditions.node]))] ∧
      ¬ Designated assertionRegistry.toRegistry miscTextConditions.node "LassoMiscTextNode" := by
  refine ⟨by decide, rfl, rfl, fun _ _ => rfl, rfl, rfl, ?_⟩
  intro hdesignated
  have htypes : assertionRegistry.types miscTextNodeClass.name = some miscTextNodeClass := rfl
  exact absurd ((designated_iff htypes).mp hdesignated) (by decide)

end Lasso
