import Lasso.Xml.NamespaceSearch
import Lasso.Xml.NodeClass

/-!
# Attributes with a QName

`set_qname_attribute` sets an attribute whose value is a name in a namespace, as `xsi:type` has one.
Both the attribute and its value need a prefix, and the namespace that is found for one of them may
be the default namespace.

## Main definitions

* `OpenElement.setQnameAttribute` — the function.
* `writtenAttr`, `resolveQName` — what an attribute and its value mean where they are written.
* `OpenElement.SetsQName` — what is expected of the function.

## Main results

* `OpenElement.setsQName_iff` — on which elements it does that.
-/

namespace Lasso

open DomNode (resolves)

/-! ## What is written -/

/-- The name and the value that a reader finds for an attribute. -/
def writtenAttr (scope : List NsDecl) (attr : DomAttr) : XmlAttr :=
  PrefixedNode.resolveAttr (scope.map (·.binding)) ⟨attr.ns.bind (·.pre), attr.name, attr.value⟩

/-- The namespace and the local part of a `QName`. Without a prefix it is in the default
namespace. -/
def resolveQName (scope : List NsDecl) (value : String) : Option (String × String) :=
  match splitQName value with
  | some (pre, localPart) => (resolves scope (some pre)).map fun href => (href, localPart)
  | none => (resolves scope none).map fun href => (href, value)

namespace OpenElement

/-- `set_qname_attribute`. `printf` writes `(null)` for the prefix of the default namespace. -/
def setQnameAttribute (fresh : Nat) (node : OpenElement) (attributeNsPrefix : Option String)
    (attributeNsHref attributeName : String) (pre : Option String) (href name : String) :
    Option OpenElement := do
  let (xsiNs, node) ← node.getOrDefineNs fresh attributeNsHref attributeNsPrefix
  let (typeNs, node) ← node.getOrDefineNs fresh href pre
  let value := typeNs.pre.getD "(null)" ++ ":" ++ name
  return node.setNsProp (some xsiNs) attributeName value

/-- `set_xsi_type` -/
def setXsiType (fresh : Nat) (node : OpenElement) (typeNsPrefix : Option String)
    (typeNsHref typeName : String) : Option OpenElement :=
  node.setQnameAttribute fresh (some "xsi") xsiHref "type" typeNsPrefix typeNsHref typeName

end OpenElement

/-- A prefix that may be declared. -/
def IsHint (pre : Option String) : Prop :=
  ∀ p, pre = some p → isNcName p = true ∧ p ≠ "xmlns"

/-- The arguments of `set_qname_attribute`: prefixes that may be declared, and URIs. -/
structure QNameRequest where
  attributeNsPrefix : Option String
  attributeNsHref : String
  attributeName : String
  pre : Option String
  href : String
  name : String
  attributeHint : IsHint attributeNsPrefix
  hint : IsHint pre
  attributeNsHref_ne : attributeNsHref ≠ ""
  href_ne : href ≠ ""

namespace OpenElement

def setQName (fresh : Nat) (node : OpenElement) (q : QNameRequest) : Option OpenElement :=
  node.setQnameAttribute fresh q.attributeNsPrefix q.attributeNsHref q.attributeName q.pre q.href
    q.name

/-- The element has the attribute in its namespace, with a value that means the name in the other
namespace there, and every prefix means what it meant before. -/
structure SetsQName (q : QNameRequest) (before after : OpenElement) : Prop where
  resolves : ∃ value,
    ⟨q.attributeName, some q.attributeNsHref, value⟩ ∈
        after.properties.map (writtenAttr after.scope) ∧
      resolveQName after.scope value = some (q.href, q.name)
  keeps : ∀ pre href, DomNode.resolves before.scope pre = some href →
    DomNode.resolves after.scope pre = some href

/-- The namespace that is found for a URI, if any, has a prefix. -/
def FoundPrefixed (e : OpenElement) (href : String) : Prop :=
  ∀ ns, e.xmlSearchNsByHref href = some ns → ns.pre.isSome

/-! ## Attributes -/

variable {e : OpenElement} {ns : Option NsDecl} {name value : String}

@[simp] theorem scope_setNsProp (e : OpenElement) (ns : Option NsDecl) (name value : String) :
    (e.setNsProp ns name value).scope = e.scope := by
  unfold setNsProp
  dsimp only
  split_ifs <;> rfl

/-- The attributes after one was set: that one, and those with other names. -/
theorem mem_setNsProp {attr : DomAttr} :
    attr ∈ (e.setNsProp ns name value).properties ↔ attr = ⟨name, ns, value⟩ ∨
      attr ∈ e.properties ∧ ¬(attr.name = name ∧ attr.ns.map (·.href) = ns.map (·.href)) := by
  have hsame : ∀ old : DomAttr, (old.name == name && old.ns.map (·.href) == ns.map (·.href)) =
      true ↔ old.name = name ∧ old.ns.map (·.href) = ns.map (·.href) := by simp
  unfold setNsProp
  dsimp only
  split_ifs with hany
  · obtain ⟨old, hold, hmatch⟩ := List.any_eq_true.mp hany
    rw [List.mem_map]
    constructor
    · rintro ⟨other, hother, rfl⟩
      split_ifs with h
      · exact .inl (by rw [← ((hsame other).mp h).1])
      · exact .inr ⟨hother, fun h' => h ((hsame other).mpr h')⟩
    · rintro (rfl | ⟨hmem, hne⟩)
      · refine ⟨old, hold, ?_⟩
        rw [if_pos hmatch, ((hsame old).mp hmatch).1]
      · exact ⟨attr, hmem, if_neg fun h => hne ((hsame attr).mp h)⟩
  · have hnone : ∀ old ∈ e.properties,
        ¬(old.name = name ∧ old.ns.map (·.href) = ns.map (·.href)) :=
      fun old hold h => hany (List.any_eq_true.mpr ⟨old, hold, (hsame old).mpr h⟩)
    rw [List.mem_append, List.mem_singleton]
    constructor
    · rintro (hmem | rfl)
      · exact .inr ⟨hmem, hnone attr hmem⟩
      · exact .inl rfl
    · rintro (rfl | ⟨hmem, -⟩)
      · exact .inr rfl
      · exact .inl hmem

theorem resolves_of_inScope {scope : List NsDecl} {d : NsDecl} (h : d.InScope scope) :
    resolves scope d.pre = some d.href := by
  rw [DomNode.resolves_eq]
  exact congrArg (Option.map (·.href)) h

/-- An attribute with a prefix in scope is read in its namespace. -/
theorem writtenAttr_of_prefixed {scope : List NsDecl} {p : NsDecl} (h : p.InScope scope)
    (hhref : p.href ≠ "") (hpre : p.pre.isSome) :
    writtenAttr scope ⟨name, some p, value⟩ = ⟨name, some p.href, value⟩ := by
  obtain ⟨q, hq⟩ := Option.isSome_iff_exists.mp hpre
  have hlookup : (scope.map (·.binding)).lookup (some q) = some p.href := by
    rw [← hq]
    exact resolves_of_inScope h
  have hresolve : PrefixedNode.resolve (scope.map (·.binding)) (some q) name =
      (some p.href, name) :=
    (PrefixedNode.resolve_eq_iff hhref).mpr hlookup
  rw [writtenAttr, Option.bind_some, hq]
  simp only [PrefixedNode.resolveAttr, hresolve]

/-- An attribute without a prefix is read without a namespace. -/
theorem writtenAttr_of_unprefixed {scope : List NsDecl} {attr : DomAttr}
    (h : attr.ns.bind (·.pre) = none) :
    writtenAttr scope attr = ⟨attr.name, none, attr.value⟩ := by
  rw [writtenAttr, h]
  rfl

/-- The prefixes in scope are names. -/
theorem isNcName_of_mem_chainScope {chain : List DomAncestor} {d : NsDecl} (h : ChainScoped chain)
    (hd : d ∈ chainScope chain) {pre : String} (hpre : d.pre = some pre) :
    isNcName pre = true := by
  induction chain with
  | nil =>
    obtain rfl := List.mem_singleton.mp hd
    cases hpre
    decide
  | cons node chain ih =>
    rcases List.mem_append.mp hd with hd | hd
    · exact (h.1.names d hd pre hpre).1
    · exact ih h.2 hd

/-- A prefix that means something is a name. -/
theorem isNcName_of_resolves (h : ChainScoped e.chain) {pre href : String}
    (hresolves : resolves e.scope (some pre) = some href) : isNcName pre = true := by
  rw [DomNode.resolves_eq] at hresolves
  obtain ⟨d, hd, -⟩ := Option.map_eq_some_iff.mp hresolves
  exact isNcName_of_mem_chainScope h (List.mem_of_find?_eq_some hd) (DomNode.pre_of_xmlSearchNs hd)

theorem splitQName_append {pre localPart : String} (h : ':' ∉ pre.toList) :
    splitQName (pre ++ ":" ++ localPart) = some (pre, localPart) := by
  have hlist : (pre ++ ":" ++ localPart).toList = pre.toList ++ ':' :: localPart.toList := by
    simp [String.toList_append]
  have hspan : (pre.toList ++ ':' :: localPart.toList).span (· != ':') =
      (pre.toList, ':' :: localPart.toList) := by
    rw [List.span_eq_takeWhile_dropWhile, List.takeWhile_append_of_pos,
      List.dropWhile_append_of_pos]
    · simp
    · intro c hc
      exact bne_iff_ne.mpr fun heq => h (heq ▸ hc)
    · intro c hc
      exact bne_iff_ne.mpr fun heq => h (heq ▸ hc)
  rw [splitQName, hlist, hspan]
  simp

theorem isNcName_of_isHint {advised : Option String} (h : IsHint advised) {d : NsDecl}
    (hd : ∃ pre, d.pre = some pre ∧ (advised = some pre ∨ ∃ i, pre = numberedPrefix i)) :
    ∀ pre, d.pre = some pre → isNcName pre = true := by
  intro pre hpre
  obtain ⟨pre', hpre', horigin⟩ := hd
  cases hpre.symm.trans hpre'
  rcases horigin with hadvised | ⟨i, rfl⟩
  · exact (h pre hadvised).1
  · exact isNcName_numberedPrefix i

/-- The element and its ancestors stay in scope. -/
theorem chainScoped_getOrDefineNs {fresh : Nat} {e' : OpenElement} {uri : String} {d : NsDecl}
    {advised : Option String} (hscoped : ChainScoped e.chain) (huri : uri ≠ "")
    (hhint : IsHint advised) (h : e.getOrDefineNs fresh uri advised = some (d, e')) :
    ChainScoped e'.chain := by
  obtain ⟨hdefines, hpre⟩ := definesNs_getOrDefineNs h
  rcases hpre with hfound | hnew
  · have hsame : e' = e := by
      unfold getOrDefineNs at h
      rw [hfound] at h
      cases h
      rfl
    rw [hsame]
    exact hscoped
  · exact hdefines.chain hscoped huri (isNcName_of_isHint hhint hnew)

/-! ## The two namespaces -/

/-- What `set_qname_attribute` has found or defined before it sets the attribute. -/
structure DefinesBoth (q : QNameRequest) (e : OpenElement) (xsiNs typeNs : NsDecl)
    (e' : OpenElement) : Prop where
  chain : ChainScoped e'.chain
  properties : e'.properties = e.properties
  inScope : ∀ p : NsDecl, p.InScope e.scope → p.InScope e'.scope
  keeps : ∀ pre href, resolves e.scope pre = some href → resolves e'.scope pre = some href
  xsiFound : xsiNs.href = q.attributeNsHref ∧ xsiNs.InScope e'.scope
  typeFound : typeNs.href = q.href ∧ typeNs.InScope e'.scope
  xsiPrefixed : xsiNs.pre.isSome ↔ e.FoundPrefixed q.attributeNsHref
  typePrefixed : typeNs.pre.isSome ↔ e.FoundPrefixed q.href

theorem DefinesNs.prefixed_iff {e' : OpenElement} {uri : String} {d : NsDecl}
    (h : DefinesNs e uri d e') : d.pre.isSome ↔ e.FoundPrefixed uri := by
  constructor
  · intro hsome found hfound
    rcases h.pre with hsame | ⟨hnone, -⟩
    · cases hsame.symm.trans hfound
      exact hsome
    · cases hnone.symm.trans hfound
  · intro hfound
    rcases h.pre with hsame | ⟨-, hsome⟩
    · exact hfound d hsame
    · exact hsome

/-- What is declared has a prefix. -/
theorem DefinesNs.foundPrefixed_iff {e' : OpenElement} {uri href : String} {d : NsDecl}
    (h : DefinesNs e uri d e') : e'.FoundPrefixed href ↔ e.FoundPrefixed href := by
  by_cases hsame : href = uri
  · rw [hsame, ← h.prefixed_iff, FoundPrefixed, h.found]
    simp
  · rw [FoundPrefixed, FoundPrefixed, h.others href hsame]

theorem setQName_eq (fresh : Nat) (q : QNameRequest) (h : ChainScoped e.chain) :
    ∃ xsiNs typeNs e', DefinesBoth q e xsiNs typeNs e' ∧
      e.setQName fresh q = some (e'.setNsProp (some xsiNs) q.attributeName
        (typeNs.pre.getD "(null)" ++ ":" ++ q.name)) := by
  obtain ⟨⟨xsiNs, e1⟩, h1⟩ := Option.isSome_iff_exists.mp
    (getOrDefineNs_isSome fresh e q.attributeNsHref q.attributeNsPrefix)
  obtain ⟨⟨typeNs, e2⟩, h2⟩ := Option.isSome_iff_exists.mp
    (getOrDefineNs_isSome fresh e1 q.href q.pre)
  have hchain1 := chainScoped_getOrDefineNs h q.attributeNsHref_ne q.attributeHint h1
  have hchain2 := chainScoped_getOrDefineNs hchain1 q.href_ne q.hint h2
  obtain ⟨hdefines1, -⟩ := definesNs_getOrDefineNs h1
  obtain ⟨hdefines2, -⟩ := definesNs_getOrDefineNs h2
  obtain ⟨hhref1, hscope1⟩ := xmlSearchNsByHref_eq_some hchain1 hdefines1.found
  refine ⟨xsiNs, typeNs, e2, ⟨hchain2, hdefines2.same.2.1.trans hdefines1.same.2.1,
    fun p hp => hdefines2.inScope p (hdefines1.inScope p hp),
    fun pre href hpre => hdefines2.resolves pre href (hdefines1.resolves pre href hpre),
    ⟨hhref1, hdefines2.inScope xsiNs hscope1⟩,
    xmlSearchNsByHref_eq_some hchain2 hdefines2.found, hdefines1.prefixed_iff, ?_⟩, ?_⟩
  · rw [hdefines2.prefixed_iff, hdefines1.foundPrefixed_iff]
  · rw [setQName, setQnameAttribute, h1]
    simp only [bind, Option.bind_some, h2]
    rfl

/-- Without a prefix, the value does not mean anything. -/
theorem prefixed_of_resolveQName (h : ChainScoped e.chain) {d : NsDecl} {localPart : String}
    {href : String}
    (hresolves : resolveQName e.scope (d.pre.getD "(null)" ++ ":" ++ localPart) =
      some (href, localPart)) : d.pre.isSome := by
  cases hpre : d.pre with
  | some pre => rfl
  | none =>
    rw [hpre, Option.getD_none, resolveQName, splitQName_append (by decide)] at hresolves
    obtain ⟨found, hfound, -⟩ := Option.map_eq_some_iff.mp hresolves
    exact absurd (isNcName_of_resolves h hfound) (by decide)

/-- The attribute and its value mean what they should exactly if the namespaces that are found have
prefixes. -/
theorem setsQName_iff (fresh : Nat) (q : QNameRequest) (hscoped : e.WellScoped) :
    (∃ e', e.setQName fresh q = some e' ∧ SetsQName q e e') ↔
      e.FoundPrefixed q.attributeNsHref ∧ e.FoundPrefixed q.href := by
  obtain ⟨xsiNs, typeNs, e2, hdefines, hset⟩ := setQName_eq fresh q hscoped.chain
  obtain ⟨hxsiHref, hxsiScope⟩ := hdefines.xsiFound
  obtain ⟨htypeHref, htypeScope⟩ := hdefines.typeFound
  rw [← hdefines.xsiPrefixed, ← hdefines.typePrefixed]
  constructor
  · rintro ⟨e', he', hresolves, -⟩
    cases hset.symm.trans he'
    obtain ⟨value, hmem, hvalue⟩ := hresolves
    rw [scope_setNsProp] at hmem hvalue
    obtain ⟨attr, hattr, hwritten⟩ := List.mem_map.mp hmem
    rcases mem_setNsProp.mp hattr with rfl | ⟨hold, hother⟩
    · have hxsi : xsiNs.pre.isSome := by
        by_contra hnone
        rw [writtenAttr_of_unprefixed (by simpa using hnone)] at hwritten
        cases hwritten
      obtain rfl : typeNs.pre.getD "(null)" ++ ":" ++ q.name = value := by
        rw [writtenAttr_of_prefixed hxsiScope (by rw [hxsiHref]; exact q.attributeNsHref_ne)
          hxsi] at hwritten
        exact congrArg XmlAttr.value hwritten
      exact ⟨hxsi, prefixed_of_resolveQName hdefines.chain hvalue⟩
    · rw [hdefines.properties] at hold
      -- an older attribute has another name
      obtain ⟨oldName, oldNs, oldValue⟩ := attr
      cases oldNs with
      | none =>
        rw [writtenAttr_of_unprefixed rfl] at hwritten
        cases hwritten
      | some p =>
        obtain ⟨hp, hphref, hppre⟩ := hscoped.attributes _ hold p rfl
        rw [writtenAttr_of_prefixed (hdefines.inScope p hp) hphref hppre] at hwritten
        refine absurd ⟨congrArg XmlAttr.name hwritten, ?_⟩ hother
        rw [Option.map_some, Option.map_some, hxsiHref]
        exact congrArg XmlAttr.ns hwritten
  · rintro ⟨hxsi, htype⟩
    obtain ⟨pre, hpre⟩ := Option.isSome_iff_exists.mp htype
    have hresolves : resolves e2.scope (some pre) = some q.href := by
      rw [← hpre, ← htypeHref]
      exact resolves_of_inScope htypeScope
    have hcolon : ':' ∉ pre.toList :=
      notMem_of_isNcName (isNcName_of_resolves hdefines.chain hresolves) (by decide)
    refine ⟨_, hset, ⟨⟨pre ++ ":" ++ q.name,
      List.mem_map.mpr ⟨_, mem_setNsProp.mpr (.inl rfl), ?_⟩, ?_⟩, ?_⟩⟩
    · rw [scope_setNsProp, writtenAttr_of_prefixed hxsiScope
        (by rw [hxsiHref]; exact q.attributeNsHref_ne) hxsi, hxsiHref, hpre, Option.getD_some]
    · rw [scope_setNsProp, resolveQName, splitQName_append hcolon]
      dsimp only
      rw [hresolves]
      rfl
    · rw [scope_setNsProp]
      exact hdefines.keeps

/-! ## A type in the default namespace -/

/-- `<t:value xmlns:t="urn:t"/>`, or the same with the default namespace. -/
def typedElement (pre : Option String) : OpenElement where
  ns := some ⟨1, pre, "urn:t"⟩
  nsDef := [⟨1, pre, "urn:t"⟩]

/-- `set_xsi_type` for the type `urn:t` `T`, with the hint `t`. -/
def typeRequest : QNameRequest where
  attributeNsPrefix := some "xsi"
  attributeNsHref := xsiHref
  attributeName := "type"
  pre := some "t"
  href := "urn:t"
  name := "T"
  attributeHint := by
    rintro p ⟨⟩
    decide
  hint := by
    rintro p ⟨⟩
    decide
  attributeNsHref_ne := by decide
  href_ne := by decide

theorem typedElement_wellScoped {pre : Option String} (h : pre = none ∨ pre = some "t") :
    (typedElement pre).WellScoped := by
  refine ⟨⟨⟨by simp [typedElement], fun d hd q hq => ?_, nofun⟩, trivial⟩, nofun,
    by simp [typedElement]⟩
  obtain rfl := List.mem_singleton.mp hd
  rcases h with rfl | rfl
  · cases hq
  · cases hq
    decide

/-- With a prefix for `urn:t` the type is written with it. -/
theorem setsQName_prefixed : ∃ e', (typedElement (some "t")).setQName 2 typeRequest = some e' ∧
    SetsQName typeRequest (typedElement (some "t")) e' := by
  refine (setsQName_iff 2 typeRequest (typedElement_wellScoped (.inr rfl))).mpr ⟨?_, ?_⟩
  · rintro ns ⟨⟩
  · rintro ns ⟨⟩
    rfl

/-- With the default namespace the type is `(null):T`. -/
theorem setsQName_default :
    ¬ ∀ (fresh : Nat) (e : OpenElement) (q : QNameRequest), e.WellScoped →
      ∃ e', e.setQName fresh q = some e' ∧ SetsQName q e e' := by
  intro h
  obtain ⟨e', hset, hresolves, -⟩ :=
    h 2 (typedElement none) typeRequest (typedElement_wellScoped (.inl rfl))
  obtain ⟨value, hmem, hvalue⟩ := hresolves
  cases hset
  obtain rfl : value = "(null):T" := by
    obtain ⟨attr, hattr, hwritten⟩ := List.mem_map.mp hmem
    obtain rfl := List.mem_singleton.mp hattr
    exact (congrArg XmlAttr.value hwritten).symm.trans (by decide)
  exact absurd hvalue (by decide)

end OpenElement

end Lasso
