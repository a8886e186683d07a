import Mathlib.Data.List.Find
import Lasso.Library.Decimal
import Lasso.Library.Search
import Lasso.Xml.OriginalXmlnode

/-!
# Looking up and defining namespaces

A name that is written needs a declaration of its namespace. `get_or_define_ns` takes one that is in
scope for the URI, or else declares it, with the advised prefix or with the first of `ns1`, `ns2`, …
that is not in use. The one in scope may be the default namespace, which has no prefix.

## Main definitions

* `isNcName` — names without a colon.
* `OpenElement` — an element in its document.
* `OpenElement.xmlSearchNsByHref`, `OpenElement.getOrDefineNs` — the functions.
* `OpenElement.WellScoped` — the names of the element and its ancestors are in scope.

## Main results

* `OpenElement.getOrDefineNs_isSome` — the search for a prefix ends.
* `OpenElement.definesNs_getOrDefineNs` — what the function does to the declarations.
-/

namespace Lasso

/-! ## Names -/

/-- The first characters that are allowed in a name, apart from the colon. -/
def isNameStartChar (c : Char) : Bool :=
  c == '_' || ('A' ≤ c && c ≤ 'Z') || ('a' ≤ c && c ≤ 'z') ||
    [(0xC0, 0xD6), (0xD8, 0xF6), (0xF8, 0x2FF), (0x370, 0x37D), (0x37F, 0x1FFF), (0x200C, 0x200D),
      (0x2070, 0x218F), (0x2C00, 0x2FEF), (0x3001, 0xD7FF), (0xF900, 0xFDCF), (0xFDF0, 0xFFFD),
      (0x10000, 0xEFFFF)].any fun (low, high) => low ≤ c.toNat && c.toNat ≤ high

def isNameChar (c : Char) : Bool :=
  isNameStartChar c || c == '-' || c == '.' || c.isDigit || c.toNat == 0xB7 ||
    [(0x300, 0x36F), (0x203F, 0x2040)].any fun (low, high) => low ≤ c.toNat && c.toNat ≤ high

/-- An `NCName` -/
def isNcName (name : String) : Bool :=
  match name.toList with
  | [] => false
  | c :: cs => isNameStartChar c && cs.all isNameChar

theorem isNameChar_of_mem {name : String} (h : isNcName name = true) {c : Char}
    (hc : c ∈ name.toList) : isNameChar c = true := by
  unfold isNcName at h
  split at h
  · cases h
  · rename_i first rest hname
    rw [Bool.and_eq_true] at h
    rw [hname] at hc
    rcases List.mem_cons.mp hc with rfl | hc
    · simp [isNameChar, h.1]
    · exact List.all_eq_true.mp h.2 c hc

theorem notMem_of_isNcName {name : String} (h : isNcName name = true) {c : Char}
    (hc : isNameChar c = false) : c ∉ name.toList := by
  intro hmem
  rw [isNameChar_of_mem h hmem] at hc
  cases hc

/-- The prefix with a number, as `sprintf` writes it. -/
def numberedPrefix (i : Nat) : String := "ns" ++ toString i

theorem toList_numberedPrefix (i : Nat) :
    (numberedPrefix i).toList = 'n' :: 's' :: Nat.toDigits 10 i := by
  simp [numberedPrefix, String.toList_append, Nat.repr]

theorem numberedPrefix_injective : Function.Injective numberedPrefix := by
  intro i j h
  have hlist := congrArg String.toList h
  rw [toList_numberedPrefix, toList_numberedPrefix] at hlist
  have hdigits : Nat.toDigits 10 i = Nat.toDigits 10 j := (List.cons.inj (List.cons.inj hlist).2).2
  rw [← Decimal.leadingDigits_toDigits i, hdigits, Decimal.leadingDigits_toDigits]

theorem isNcName_numberedPrefix (i : Nat) : isNcName (numberedPrefix i) = true := by
  unfold isNcName
  rw [toList_numberedPrefix]
  simp only [Bool.and_eq_true, List.all_cons, List.all_eq_true]
  refine ⟨by decide, by decide, fun c hc => ?_⟩
  have hdigit : c.isDigit = true := Nat.isDigit_of_mem_toDigits (by omega) (by omega) hc
  simp [isNameChar, hdigit]

/-! ## An element in its document -/

/-- An ancestor of an element: its declarations, and the namespace of its name. -/
structure DomAncestor where
  nsDef : List NsDecl
  ns : Option NsDecl

/-- The namespaces that a search comes to at an ancestor. -/
def DomAncestor.visited (node : DomAncestor) : List NsDecl := node.nsDef ++ node.ns.toList

/-- The declarations in scope at the first node of a chain, the nearest first. -/
def chainScope : List DomAncestor → List NsDecl
  | [] => [xmlDecl]
  | node :: chain => node.nsDef ++ chainScope chain

/-- The loop of `xmlSearchNsByHref`, on the way up. `inner` has the declarations below, by which
`xmlNsInScope` finds out that a prefix is declared again. -/
def searchHref (href : String) (inner : List NsDecl) : List DomAncestor → Option NsDecl
  | [] => none
  | node :: chain =>
    (node.visited.find? fun ns => ns.href == href && inner.all (·.pre != ns.pre)).or
      (searchHref href (inner ++ node.nsDef) chain)

/-- An element, without its children, in a document. -/
structure OpenElement where
  ns : Option NsDecl := none
  nsDef : List NsDecl := []
  properties : List DomAttr := []
  ancestors : List DomAncestor := []

namespace OpenElement

/-- The element and its ancestors. The namespace of its own name is not looked at. -/
def chain (e : OpenElement) : List DomAncestor := ⟨e.nsDef, none⟩ :: e.ancestors

def scope (e : OpenElement) : List NsDecl := chainScope e.chain

/-- The namespaces in the order in which a search comes to them. -/
def visited (e : OpenElement) : List NsDecl := e.chain.flatMap (·.visited) ++ [xmlDecl]

/-- `xmlSearchNs` -/
def xmlSearchNs (e : OpenElement) (pre : Option String) : Option NsDecl :=
  Lasso.xmlSearchNs e.visited pre

/-- `xmlSearchNsByHref` -/
def xmlSearchNsByHref (e : OpenElement) (href : String) : Option NsDecl :=
  if href = xmlDecl.href then some xmlDecl else searchHref href [] e.chain

/-- `xmlNewNs` on the element, with a prefix that is not in use. -/
def newNs (fresh : Nat) (e : OpenElement) (uri pre : String) : NsDecl × OpenElement :=
  (⟨fresh + e.nsDef.length, some pre, uri⟩,
    { e with nsDef := xmlNewNs fresh e.nsDef uri (some pre) })

/-- The loop that creates a prefix from scratch. -/
def scratchPrefix (e : OpenElement) : Option String :=
  (Search.firstFree (· + 1) (fun i => (e.xmlSearchNs (some (numberedPrefix i))).isSome)
    (e.visited.length + 1) 1).map numberedPrefix

/-- `get_or_define_ns`, which has no result if the loop does not end. -/
def getOrDefineNs (fresh : Nat) (e : OpenElement) (nsUri : String)
    (advisedPrefix : Option String) : Option (NsDecl × OpenElement) :=
  match e.xmlSearchNsByHref nsUri with
  | some ns => some (ns, e)
  | none =>
    -- try with the advised prefix
    match advisedPrefix.filter fun pre => (e.xmlSearchNs (some pre)).isNone with
    | some pre => some (e.newNs fresh nsUri pre)
    | none => e.scratchPrefix.map (e.newNs fresh nsUri)

/-- `xmlSetNsProp`: an attribute of that name gets the value. -/
def setNsProp (e : OpenElement) (ns : Option NsDecl) (name value : String) : OpenElement :=
  let same (attr : DomAttr) : Bool := attr.name == name && attr.ns.map (·.href) == ns.map (·.href)
  if e.properties.any same then
    { e with properties := e.properties.map fun attr =>
        if same attr then { attr with ns, value } else attr }
  else { e with properties := e.properties ++ [⟨name, ns, value⟩] }

end OpenElement

/-! ## Scopes -/

/-- The declarations of a node are distinct and have names for prefixes, and its own namespace is in
scope. -/
structure DomAncestor.Scoped (node : DomAncestor) (above : List NsDecl) : Prop where
  distinct : (node.nsDef.map (·.pre)).Nodup
  names : ∀ d ∈ node.nsDef, ∀ pre, d.pre = some pre →
    isNcName pre = true ∧ pre ≠ "xml" ∧ d.href ≠ ""
  ns : ∀ p, node.ns = some p → p.InScope (node.nsDef ++ above)

def ChainScoped : List DomAncestor → Prop
  | [] => True
  | node :: chain => node.Scoped (chainScope chain) ∧ ChainScoped chain

/-- The names of the element and its ancestors are in scope, and its attributes are distinct. -/
structure OpenElement.WellScoped (e : OpenElement) : Prop where
  chain : ChainScoped e.chain
  attributes : ∀ attr ∈ e.properties, ∀ p, attr.ns = some p →
    p.InScope e.scope ∧ p.href ≠ "" ∧ p.pre.isSome
  distinct : (e.properties.map fun attr => (attr.name, attr.ns.map (·.href))).Nodup

/-! ## What a search finds -/

section

variable {href : String} {inner : List NsDecl} {chain : List DomAncestor} {d : NsDecl}

theorem find?_of_nodup {nsDef : List NsDecl} (h : (nsDef.map (·.pre)).Nodup) (hd : d ∈ nsDef) :
    nsDef.find? (·.pre == d.pre) = some d := by
  induction nsDef with
  | nil => cases hd
  | cons d' nsDef ih =>
    obtain ⟨hfirst, hrest⟩ := List.nodup_cons.mp h
    rw [List.find?_cons]
    rcases List.mem_cons.mp hd with rfl | hd
    · simp
    · have hne : d'.pre ≠ d.pre := fun heq => hfirst (List.mem_map.mpr ⟨d, hd, heq.symm⟩)
      rw [beq_eq_false_iff_ne.mpr hne]
      exact ih hrest hd

theorem NsDecl.InScope.append {nsDef above : List NsDecl}
    (h : d.InScope above) (hne : ∀ d' ∈ nsDef, d'.pre ≠ d.pre) : d.InScope (nsDef ++ above) := by
  have hnone : nsDef.find? (·.pre == d.pre) = none := by simpa using hne
  rw [NsDecl.InScope, List.find?_append, hnone, Option.none_or]
  exact h

/-- A namespace that is found for a URI has it, and its declaration is in scope. -/
theorem searchHref_eq_some (hscoped : ChainScoped chain)
    (h : searchHref href inner chain = some d) :
    d.href = href ∧ d.InScope (inner ++ chainScope chain) := by
  induction chain generalizing inner with
  | nil => cases h
  | cons node chain ih =>
    obtain ⟨hnode, hchain⟩ := hscoped
    rw [searchHref] at h
    rcases Option.or_eq_some_iff.mp h with hfound | ⟨-, hfound⟩
    · have hd := List.find?_some hfound
      simp only [Bool.and_eq_true, beq_iff_eq, List.all_eq_true, bne_iff_ne, ne_eq] at hd
      refine ⟨hd.1, NsDecl.InScope.append ?_ hd.2⟩
      rcases List.mem_append.mp (List.mem_of_find?_eq_some hfound) with hmem | hmem
      · rw [chainScope, NsDecl.InScope, List.find?_append, find?_of_nodup hnode.distinct hmem]
        rfl
      · exact hnode.ns d (by simpa using hmem)
    · rw [chainScope, ← List.append_assoc]
      exact ih hchain hfound

/-- Only the prefixes of the inner declarations count. -/
theorem searchHref_congr {inner' : List NsDecl}
    (h : ∀ node ∈ chain, ∀ ns ∈ node.visited,
      inner.all (·.pre != ns.pre) = inner'.all (·.pre != ns.pre)) :
    searchHref href inner chain = searchHref href inner' chain := by
  induction chain generalizing inner inner' with
  | nil => rfl
  | cons node chain ih =>
    have hrest : searchHref href (inner ++ node.nsDef) chain =
        searchHref href (inner' ++ node.nsDef) chain := ih fun node' hnode' ns hns => by
      rw [List.all_append, List.all_append, h node' (List.mem_cons_of_mem _ hnode') ns hns]
    rw [searchHref, searchHref, hrest]
    congr 1
    exact List.find?_congr fun ns hns => by rw [h node List.mem_cons_self ns hns]

theorem noXml_of_chainScoped (h : ChainScoped chain) :
    ∃ decls, chainScope chain = decls ++ [xmlDecl] ∧ ∀ d ∈ decls, d.pre ≠ some "xml" := by
  induction chain with
  | nil => exact ⟨[], rfl, nofun⟩
  | cons node chain ih =>
    obtain ⟨decls, hdecls, hxml⟩ := ih h.2
    refine ⟨node.nsDef ++ decls, by rw [chainScope, hdecls, List.append_assoc], fun d hd hpre => ?_⟩
    rcases List.mem_append.mp hd with hd | hd
    · exact (h.1.names d hd "xml" hpre).2.1 rfl
    · exact hxml d hd hpre

end

namespace OpenElement

variable {e : OpenElement} {href : String} {d : NsDecl}

theorem xmlDecl_inScope (h : ChainScoped e.chain) : xmlDecl.InScope e.scope := by
  obtain ⟨decls, hscope, hxml⟩ := noXml_of_chainScoped h
  rw [scope, hscope]
  exact NsDecl.InScope.append rfl hxml

theorem xmlSearchNsByHref_eq_some (h : ChainScoped e.chain)
    (hfound : e.xmlSearchNsByHref href = some d) : d.href = href ∧ d.InScope e.scope := by
  unfold xmlSearchNsByHref at hfound
  split_ifs at hfound with hxml
  · cases hfound
    exact ⟨hxml.symm, xmlDecl_inScope h⟩
  · have hchain := searchHref_eq_some h hfound
    exact hchain

/-- A prefix that is not found is not one of the visited namespaces. -/
theorem xmlSearchNs_eq_none {pre : Option String} :
    e.xmlSearchNs pre = none ↔ ∀ ns ∈ e.visited, ns.pre ≠ pre := by
  simp [xmlSearchNs, Lasso.xmlSearchNs]

/-- The search for a prefix from scratch ends with one that is not in use. -/
theorem scratchPrefix_eq_some (e : OpenElement) : ∃ i, e.scratchPrefix = some (numberedPrefix i) ∧
    e.xmlSearchNs (some (numberedPrefix i)) = none := by
  have hiterate (n : Nat) : (· + 1)^[n] 1 = 1 + n := by
    induction n with
    | zero => rfl
    | succ n ih => rw [Function.iterate_succ_apply', ih, Nat.add_assoc]
  have hdistinct : Set.InjOn (fun n => some (numberedPrefix ((· + 1)^[n] 1)))
      {n | n < e.visited.length + 1} := by
    intro m _ n _ hsame
    have hnumber := numberedPrefix_injective (Option.some.inj hsame)
    simpa [hiterate] using hnumber
  have htaken (i : Nat) (htaken : (e.xmlSearchNs (some (numberedPrefix i))).isSome = true) :
      some (numberedPrefix i) ∈ e.visited.map (·.pre) := by
    obtain ⟨ns, hns⟩ := Option.isSome_iff_exists.mp htaken
    exact List.mem_map.mpr ⟨ns, List.mem_of_find?_eq_some hns, DomNode.pre_of_xmlSearchNs hns⟩
  have hsome := Search.firstFree_isSome hdistinct htaken (by simp)
  obtain ⟨i, hi⟩ := Option.isSome_iff_exists.mp hsome
  refine ⟨i, by rw [scratchPrefix, hi]; rfl, ?_⟩
  simpa using Search.firstFree_free hi

/-- `get_or_define_ns` ends. -/
theorem getOrDefineNs_isSome (fresh : Nat) (e : OpenElement) (nsUri : String)
    (advisedPrefix : Option String) : (e.getOrDefineNs fresh nsUri advisedPrefix).isSome := by
  unfold getOrDefineNs
  split
  · rfl
  · split
    · rfl
    · obtain ⟨i, hi, -⟩ := e.scratchPrefix_eq_some
      rw [hi]
      rfl

/-! ## What `get_or_define_ns` does -/

/-- The namespace for a URI is one that was found, or is declared under a prefix that was not in use.
The declarations in scope stay in scope. -/
structure DefinesNs (e : OpenElement) (uri : String) (ns : NsDecl) (e' : OpenElement) : Prop where
  same : e'.ns = e.ns ∧ e'.properties = e.properties ∧ e'.ancestors = e.ancestors
  found : e'.xmlSearchNsByHref uri = some ns
  pre : e.xmlSearchNsByHref uri = some ns ∨ e.xmlSearchNsByHref uri = none ∧ ns.pre.isSome
  others : ∀ href, href ≠ uri → e'.xmlSearchNsByHref href = e.xmlSearchNsByHref href
  inScope : ∀ p : NsDecl, p.InScope e.scope → p.InScope e'.scope
  resolves : ∀ pre href, DomNode.resolves e.scope pre = some href →
    DomNode.resolves e'.scope pre = some href
  chain : ChainScoped e.chain → uri ≠ "" → (∀ pre, ns.pre = some pre → isNcName pre = true) →
    ChainScoped e'.chain

theorem mem_visited_of_mem_scope (h : d ∈ e.scope) : d ∈ e.visited := by
  have hchain : ∀ chain, d ∈ chainScope chain → d ∈ chain.flatMap (·.visited) ++ [xmlDecl] := by
    intro chain h
    induction chain with
    | nil => exact h
    | cons node chain ih =>
      rw [List.flatMap_cons, List.append_assoc]
      rcases List.mem_append.mp h with h | h
      · exact List.mem_append_left _ (List.mem_append_left _ h)
      · exact List.mem_append_right _ (ih h)
  exact hchain e.chain h

/-- The element with one more declaration. -/
def declare (e : OpenElement) (ns : NsDecl) : OpenElement := { e with nsDef := e.nsDef ++ [ns] }

theorem scope_eq (e : OpenElement) : e.scope = e.nsDef ++ chainScope e.ancestors := rfl

theorem scope_declare (e : OpenElement) (ns : NsDecl) :
    (e.declare ns).scope = e.nsDef ++ ([ns] ++ chainScope e.ancestors) :=
  List.append_assoc e.nsDef [ns] _

theorem xmlSearchNsByHref_eq (e : OpenElement) (h : href ≠ xmlDecl.href) :
    e.xmlSearchNsByHref href = (e.nsDef.find? (·.href == href)).or
      (searchHref href e.nsDef e.ancestors) := by
  rw [xmlSearchNsByHref, if_neg h, chain, searchHref]
  simp [DomAncestor.visited]

/-- A declaration with a new prefix is found for its URI, and changes nothing else. -/
theorem definesNs_declare {ns : NsDecl} {uri pre : String} (hpre : ns.pre = some pre)
    (huri : ns.href = uri) (hfree : e.xmlSearchNs (some pre) = none)
    (hnone : e.xmlSearchNsByHref uri = none) : DefinesNs e uri ns (e.declare ns) := by
  subst huri
  have hunused : ∀ d ∈ e.visited, d.pre ≠ ns.pre := by
    rw [hpre]
    exact xmlSearchNs_eq_none.mp hfree
  have hxml : ns.href ≠ xmlDecl.href := by
    intro heq
    rw [xmlSearchNsByHref, if_pos heq] at hnone
    cases hnone
  have hnone' := hnone
  rw [xmlSearchNsByHref_eq e hxml] at hnone'
  refine ⟨⟨rfl, rfl, rfl⟩, ?_, .inr ⟨hnone, by rw [hpre]; rfl⟩, fun href hne => ?_, fun p hp => ?_,
    fun q href hq => ?_, fun hscoped huri hname => ?_⟩
  · rw [xmlSearchNsByHref_eq _ hxml, declare, List.find?_append,
      (Option.or_eq_none_iff.mp hnone').1]
    simp
  · by_cases hhref : href = xmlDecl.href
    · rw [xmlSearchNsByHref, xmlSearchNsByHref, if_pos hhref, if_pos hhref]
    · have hfirst : [ns].find? (·.href == href) = none := by simpa using hne.symm
      rw [xmlSearchNsByHref_eq _ hhref, xmlSearchNsByHref_eq _ hhref, declare, List.find?_append,
        hfirst, Option.or_none]
      congr 1
      refine searchHref_congr fun node hnode d hd => ?_
      have hmem : d ∈ e.visited := List.mem_append_left _
        (List.mem_flatMap.mpr ⟨node, List.mem_cons_of_mem _ hnode, hd⟩)
      simpa [List.all_append] using fun _ => (hunused d hmem).symm
  · have hne := hunused p (mem_visited_of_mem_scope (List.mem_of_find?_eq_some hp))
    have hlast : [ns].find? (·.pre == p.pre) = none := by simpa using hne.symm
    rw [NsDecl.InScope, scope_eq, List.find?_append] at hp
    rw [NsDecl.InScope, scope_declare, List.find?_append, List.find?_append, hlast, Option.none_or]
    exact hp
  · have hlast : DomNode.resolves [ns] q = none := by
      rw [DomNode.resolves_eq] at hq
      obtain ⟨d, hd, -⟩ := Option.map_eq_some_iff.mp hq
      have hne := hunused d (mem_visited_of_mem_scope (List.mem_of_find?_eq_some hd))
      rw [DomNode.pre_of_xmlSearchNs hd] at hne
      exact DomNode.resolves_eq_none (by simpa using hne.symm)
    rw [scope_eq, DomNode.resolves_append] at hq
    rw [scope_declare, DomNode.resolves_append, DomNode.resolves_append, hlast, Option.none_or]
    exact hq
  · obtain ⟨hnode, hchain⟩ := hscoped
    refine ⟨⟨?_, fun d hd q hq => ?_, nofun⟩, hchain⟩
    · show ((e.nsDef ++ [ns]).map (·.pre)).Nodup
      rw [List.map_append, List.nodup_append]
      refine ⟨hnode.distinct, by simp, fun q hq q' hq' heq => ?_⟩
      obtain ⟨d, hd, rfl⟩ := List.mem_map.mp hq
      rw [List.map_singleton, List.mem_singleton] at hq'
      exact hunused d (mem_visited_of_mem_scope (List.mem_append_left _ hd)) (heq.trans hq')
    · rcases List.mem_append.mp hd with hd | hd
      · exact hnode.names d hd q hq
      · obtain rfl := List.mem_singleton.mp hd
        refine ⟨hname q hq, ?_, huri⟩
        rintro rfl
        exact hunused xmlDecl (List.mem_append_right _ List.mem_cons_self) hq.symm

theorem newNs_eq (fresh : Nat) {uri pre : String} (h : e.xmlSearchNs (some pre) = none) :
    e.newNs fresh uri pre = (⟨fresh + e.nsDef.length, some pre, uri⟩,
      e.declare ⟨fresh + e.nsDef.length, some pre, uri⟩) := by
  have hunused : e.nsDef.any (·.pre == some pre) = false := by
    rw [Bool.eq_false_iff, ne_eq, List.any_eq_true]
    rintro ⟨d, hd, hpre⟩
    have hvisited : d ∈ e.visited := mem_visited_of_mem_scope (List.mem_append_left _ hd)
    exact xmlSearchNs_eq_none.mp h d hvisited (by simpa using hpre)
  rw [newNs, xmlNewNs, hunused]
  rfl

/-- What `get_or_define_ns` returns, and does to the element. A prefix that it declares is the
advised one or one from scratch. -/
theorem definesNs_getOrDefineNs {fresh : Nat} {e' : OpenElement} {uri : String} {ns : NsDecl}
    {advisedPrefix : Option String}
    (h : e.getOrDefineNs fresh uri advisedPrefix = some (ns, e')) :
    DefinesNs e uri ns e' ∧ (e.xmlSearchNsByHref uri = some ns ∨
      ∃ pre, ns.pre = some pre ∧ (advisedPrefix = some pre ∨ ∃ i, pre = numberedPrefix i)) := by
  unfold getOrDefineNs at h
  split at h
  · rename_i found hfound
    cases h
    exact ⟨⟨⟨rfl, rfl, rfl⟩, hfound, .inl hfound, fun _ _ => rfl, fun _ => id, fun _ _ => id,
      fun hchain _ _ => hchain⟩, .inl hfound⟩
  · rename_i hnone
    split at h
    · rename_i pre hpre
      obtain ⟨hadvised, hfree⟩ := Option.filter_eq_some_iff.mp hpre
      rw [Option.isNone_iff_eq_none] at hfree
      rw [newNs_eq fresh hfree] at h
      cases h
      exact ⟨definesNs_declare rfl rfl hfree hnone, .inr ⟨pre, rfl, .inl hadvised⟩⟩
    · obtain ⟨i, hi, hfree⟩ := e.scratchPrefix_eq_some
      rw [hi, Option.map_some, newNs_eq fresh hfree] at h
      cases h
      exact ⟨definesNs_declare rfl rfl hfree hnone, .inr ⟨_, rfl, .inr ⟨i, rfl⟩⟩⟩

end OpenElement

end Lasso
