import Lasso.Xml.QNameAttributes

/-!
# Writing a table of attributes

A class may keep the attributes that none of its snippets takes in a table. The key of an attribute
in the namespace of the element is its name, any other one is `{uri}name`. `snippet_dump_any` writes
such a table again, and takes a key without a URI for an attribute without a namespace.

## Main definitions

* `ExtraKey` — the keys of the table.
* `OpenElement.snippetDumpAny`, `OpenElement.dumpAny` — writing the table.
* `OpenElement.dumped` — the attribute that becomes of an entry.

## Main results

* `OpenElement.dumpsTable_dumpAny` — what is written of a table.
-/

namespace Lasso

/-! ## Keys -/

/-- The key of an extra attribute: `name`, or `{uri}name`. -/
inductive ExtraKey where
  | own (name : String)
  | qualified (uri name : String)
deriving DecidableEq

namespace ExtraKey

def text : ExtraKey → String
  | own name => name
  | qualified uri name => "\x7b" ++ uri ++ "\x7d" ++ name

/-- The names in the key are ones. -/
def Valid : ExtraKey → Prop
  | own name => isNcName name = true
  | qualified uri name => isNcName name = true ∧ uri ≠ "" ∧ '}' ∉ uri.toList

def name : ExtraKey → String
  | own name => name
  | qualified _ name => name

/-- The namespace that a key gives itself. -/
def uri : ExtraKey → Option String
  | own _ => none
  | qualified uri _ => some uri

/-- The attribute that a key stands for on an element in a namespace. -/
def expand (ns : Option String) : ExtraKey → Option String × String
  | own name => (ns, name)
  | qualified uri name => (some uri, name)

end ExtraKey

/-- What `snippet_dump_any` makes of a key; it has no use for one with a brace that stays open. -/
def splitKey (key : String) : Option ExtraKey :=
  match key.toList with
  | '{' :: rest =>
    match rest.span (· != '}') with
    | (uri, _ :: name) => some (.qualified (String.ofList uri) (String.ofList name))
    | (_, []) => none
  | _ => some (.own key)

/-- What a key stands for. -/
def expandKey (ns : Option String) (key : String) : Option (Option String × String) :=
  (splitKey key).map (·.expand ns)

theorem splitKey_text {key : ExtraKey} (h : key.Valid) : splitKey key.text = some key := by
  cases key with
  | own name =>
    have hopen : '{' ∉ name.toList := notMem_of_isNcName h (by decide)
    unfold splitKey ExtraKey.text
    split
    · rename_i hlist
      rw [hlist] at hopen
      exact absurd List.mem_cons_self hopen
    · rfl
  | qualified uri name =>
    obtain ⟨-, -, hclose⟩ := h
    have hlist : (ExtraKey.qualified uri name).text.toList =
        '{' :: (uri.toList ++ '}' :: name.toList) := by
      simp [ExtraKey.text, String.toList_append]
    have hspan : (uri.toList ++ '}' :: name.toList).span (· != '}') =
        (uri.toList, '}' :: name.toList) := by
      rw [List.span_eq_takeWhile_dropWhile, List.takeWhile_append_of_pos,
        List.dropWhile_append_of_pos]
      · simp
      · intro c hc
        exact bne_iff_ne.mpr fun heq => hclose (heq ▸ hc)
      · intro c hc
        exact bne_iff_ne.mpr fun heq => hclose (heq ▸ hc)
    unfold splitKey
    rw [hlist]
    simp only [hspan, String.ofList_toList]

theorem ExtraKey.text_injective {key key' : ExtraKey} (h : key.Valid) (h' : key'.Valid)
    (heq : key.text = key'.text) : key = key' := by
  have hsplit := splitKey_text h
  rw [heq, splitKey_text h'] at hsplit
  exact (Option.some.inj hsplit).symm

/-! ## Writing a table -/

namespace OpenElement

/-- `snippet_dump_any`. A key without a URI goes to `xmlSetProp`. -/
def snippetDumpAny (fresh : Nat) (key value : String) (xmlnode : OpenElement) :
    Option OpenElement :=
  match splitKey key with
  | none => some xmlnode
  | some (.own name) => some (xmlnode.setNsProp none name value)
  | some (.qualified uri name) => do
    let (ns, xmlnode) ← xmlnode.getOrDefineNs fresh uri none
    return xmlnode.setNsProp (some ns) name value

/-- The end of `lasso_node_build_xmlNode_from_snippets`: the table is written entry by entry, in the
order in which the hash table gives them. -/
def dumpAny (fresh : Nat) : List (String × String) → OpenElement → Option OpenElement
  | [], xmlnode => some xmlnode
  | (key, value) :: extra, xmlnode =>
    (xmlnode.snippetDumpAny fresh key value).bind (dumpAny fresh extra)

/-- The attributes as a reader finds them. -/
def written (e : OpenElement) : List XmlAttr := e.properties.map (writtenAttr e.scope)

/-- The element as a reader finds it. -/
def xmlNode (name : String) (children : List XmlNode) (e : OpenElement) : XmlNode :=
  .element (e.ns.map (·.href)) name e.written children

end OpenElement

/-! ### What is written -/

namespace OpenElement

variable {e : OpenElement} {key : ExtraKey} {value : String}

instance (e : OpenElement) (href : String) : Decidable (e.FoundPrefixed href) :=
  decidable_of_iff ((e.xmlSearchNsByHref href).all (·.pre.isSome) = true) (by
    rw [FoundPrefixed, Option.all_eq_true])

/-- The attribute that becomes of an entry. -/
def dumped (e : OpenElement) (key : ExtraKey) (value : String) : XmlAttr :=
  ⟨key.name, key.uri.filter fun uri => decide (e.FoundPrefixed uri), value⟩

theorem dumped_qualified {uri name : String} (h : e.FoundPrefixed uri) :
    e.dumped (.qualified uri name) value = ⟨name, some uri, value⟩ := by
  simp [dumped, ExtraKey.uri, ExtraKey.name, Option.filter, h]

theorem dumped_of_not_foundPrefixed {uri name : String} (h : ¬ e.FoundPrefixed uri) :
    e.dumped (.qualified uri name) value = ⟨name, none, value⟩ := by
  simp [dumped, ExtraKey.uri, ExtraKey.name, Option.filter, h]

/-- The namespaces of the attributes are in scope. -/
def AttributesScoped (e : OpenElement) : Prop :=
  ∀ attr ∈ e.properties, ∀ p, attr.ns = some p → p.InScope e.scope ∧ p.href ≠ ""

/-- An attribute is read the same way wherever its namespace is in scope. -/
theorem writtenAttr_of_inScope {scope scope' : List NsDecl} {attr : DomAttr}
    (h : ∀ p, attr.ns = some p → p.InScope scope ∧ p.href ≠ "")
    (hscope : ∀ p : NsDecl, p.InScope scope → p.InScope scope') :
    writtenAttr scope' attr = writtenAttr scope attr := by
  obtain ⟨name, ns, value⟩ := attr
  cases hpre : ns.bind (·.pre) with
  | none => rw [writtenAttr_of_unprefixed hpre, writtenAttr_of_unprefixed hpre]
  | some pre =>
    obtain ⟨p, rfl, hp⟩ := Option.bind_eq_some_iff.mp hpre
    obtain ⟨hin, hhref⟩ := h p rfl
    have hsome : p.pre.isSome := by rw [hp]; rfl
    rw [writtenAttr_of_prefixed hin hhref hsome,
      writtenAttr_of_prefixed (hscope p hin) hhref hsome]

/-- What an entry does to an element. -/
structure DumpsEntry (e : OpenElement) (key : ExtraKey) (value : String) (e' : OpenElement) :
    Prop where
  chain : ChainScoped e'.chain
  ns : e'.ns = e.ns
  found : ∀ uri, e'.FoundPrefixed uri ↔ e.FoundPrefixed uri
  inScope : ∀ p : NsDecl, p.InScope e.scope → p.InScope e'.scope
  added : ∃ new : DomAttr, (new.name = key.name ∧ new.ns.map (·.href) = key.uri) ∧
    (∀ p, new.ns = some p → p.InScope e'.scope ∧ p.href ≠ "") ∧
    writtenAttr e'.scope new = e.dumped key value ∧
    ∀ attr, attr ∈ e'.properties ↔ attr = new ∨
      attr ∈ e.properties ∧ ¬(attr.name = key.name ∧ attr.ns.map (·.href) = key.uri)

theorem chain_setNsProp (e : OpenElement) (ns : Option NsDecl) (name value : String) :
    (e.setNsProp ns name value).chain = e.chain := by
  unfold setNsProp
  dsimp only
  split_ifs <;> rfl

theorem ns_setNsProp (e : OpenElement) (ns : Option NsDecl) (name value : String) :
    (e.setNsProp ns name value).ns = e.ns := by
  unfold setNsProp
  dsimp only
  split_ifs <;> rfl

theorem foundPrefixed_setNsProp {ns : Option NsDecl} {name uri : String} :
    (e.setNsProp ns name value).FoundPrefixed uri ↔ e.FoundPrefixed uri := by
  unfold FoundPrefixed xmlSearchNsByHref
  rw [chain_setNsProp]

theorem dumpsEntry_snippetDumpAny (fresh : Nat) (value : String) (hchain : ChainScoped e.chain)
    (hvalid : key.Valid) :
    ∃ e', e.snippetDumpAny fresh key.text value = some e' ∧ DumpsEntry e key value e' := by
  unfold snippetDumpAny
  rw [splitKey_text hvalid]
  cases key with
  | own name =>
    refine ⟨_, rfl, ⟨by rw [chain_setNsProp]; exact hchain, ns_setNsProp .., fun uri =>
      foundPrefixed_setNsProp, fun p hp => by rw [scope_setNsProp]; exact hp,
      ⟨name, none, value⟩, ⟨rfl, rfl⟩, nofun, writtenAttr_of_unprefixed rfl, fun attr => ?_⟩⟩
    exact mem_setNsProp
  | qualified uri name =>
    obtain ⟨⟨d, e1⟩, h⟩ := Option.isSome_iff_exists.mp (getOrDefineNs_isSome fresh e uri none)
    obtain ⟨hdefines, -⟩ := definesNs_getOrDefineNs h
    have hhint : IsHint none := by
      rintro p ⟨⟩
    have hchain1 := chainScoped_getOrDefineNs hchain hvalid.2.1 hhint h
    obtain ⟨rfl, hscope⟩ := xmlSearchNsByHref_eq_some hchain1 hdefines.found
    refine ⟨e1.setNsProp (some d) name value, by simp only [h]; rfl,
      ⟨by rw [chain_setNsProp]; exact hchain1, (ns_setNsProp ..).trans hdefines.same.1, fun uri =>
      foundPrefixed_setNsProp.trans hdefines.foundPrefixed_iff, fun p hp => ?_,
      ⟨name, some d, value⟩, ⟨rfl, rfl⟩, ?_, ?_, fun attr => ?_⟩⟩
    · rw [scope_setNsProp]
      exact hdefines.inScope p hp
    · rintro p ⟨⟩
      rw [scope_setNsProp]
      exact ⟨hscope, hvalid.2.1⟩
    · rw [scope_setNsProp]
      by_cases hfound : e.FoundPrefixed d.href
      · rw [dumped_qualified hfound]
        exact writtenAttr_of_prefixed hscope hvalid.2.1 (hdefines.prefixed_iff.mpr hfound)
      · have hnone : d.pre = none := by
          simpa using mt hdefines.prefixed_iff.mp hfound
        rw [dumped_of_not_foundPrefixed hfound]
        exact writtenAttr_of_unprefixed hnone
    · rw [mem_setNsProp, hdefines.same.2.1]
      rfl

/-- What a table does to an element. -/
structure DumpsTable (e : OpenElement) (extra : List (ExtraKey × String)) (e' : OpenElement) :
    Prop where
  ns : e'.ns = e.ns
  inScope : ∀ p : NsDecl, p.InScope e.scope → p.InScope e'.scope
  origin : ∀ attr ∈ e'.written, attr ∈ e.written ∨ ∃ entry ∈ extra, attr = e.dumped entry.1 entry.2
  keeps : ∀ attr ∈ e.properties, (∀ entry ∈ extra,
    ¬(attr.name = entry.1.name ∧ attr.ns.map (·.href) = entry.1.uri)) → attr ∈ e'.properties
  present : ∀ entry ∈ extra, e.dumped entry.1 entry.2 ∈ e'.written

theorem ExtraKey.eq_of_name_uri {key key' : ExtraKey} (hname : key.name = key'.name)
    (huri : key.uri = key'.uri) : key = key' := by
  cases key <;> cases key' <;> simp_all [ExtraKey.name, ExtraKey.uri]

/-- Every entry becomes an attribute, and stays one, as the keys are distinct. -/
theorem dumpsTable_dumpAny (fresh : Nat) {extra : List (ExtraKey × String)}
    (hchain : ChainScoped e.chain) (hattrs : e.AttributesScoped)
    (hvalid : ∀ entry ∈ extra, entry.1.Valid) (hdistinct : (extra.map Prod.fst).Nodup) :
    ∃ e', e.dumpAny fresh (extra.map fun entry => (entry.1.text, entry.2)) = some e' ∧
      DumpsTable e extra e' := by
  induction extra generalizing e with
  | nil =>
    exact ⟨e, rfl, rfl, fun _ => id, fun _ => .inl, fun _ hattr _ => hattr, nofun⟩
  | cons entry extra ih =>
    obtain ⟨key, value⟩ := entry
    obtain ⟨hkey, hrest⟩ := List.forall_mem_cons.mp hvalid
    obtain ⟨hnotMem, hdistinct⟩ := List.nodup_cons.mp hdistinct
    obtain ⟨e1, hstep, hentry⟩ := dumpsEntry_snippetDumpAny fresh value hchain hkey
    obtain ⟨new, ⟨hname, huri⟩, hnew, hwritten, hmem⟩ := hentry.added
    have hattrs1 : e1.AttributesScoped := by
      intro attr hattr
      rcases (hmem attr).mp hattr with rfl | ⟨hold, -⟩
      · exact hnew
      · exact fun p hp => ⟨hentry.inScope p (hattrs attr hold p hp).1, (hattrs attr hold p hp).2⟩
    obtain ⟨e', hrun, htable⟩ := ih hentry.chain hattrs1 hrest hdistinct
    have hdumped : ∀ key value, e1.dumped key value = e.dumped key value := by
      intro key value
      simp only [dumped, hentry.found]
    refine ⟨e', ?_, htable.ns.trans hentry.ns,
      fun p hp => htable.inScope p (hentry.inScope p hp), ?_, ?_, ?_⟩
    · rw [List.map_cons, dumpAny, hstep]
      exact hrun
    · intro attr hattr
      rcases htable.origin attr hattr with hold | ⟨entry, hmemEntry, rfl⟩
      · obtain ⟨p, hp, rfl⟩ := List.mem_map.mp hold
        rcases (hmem p).mp hp with rfl | ⟨hfirst, -⟩
        · exact .inr ⟨_, List.mem_cons_self, hwritten⟩
        · refine .inl (List.mem_map.mpr ⟨p, hfirst, ?_⟩)
          exact (writtenAttr_of_inScope (hattrs p hfirst) hentry.inScope).symm
      · exact .inr ⟨entry, List.mem_cons_of_mem _ hmemEntry, hdumped ..⟩
    · intro attr hattr hother
      obtain ⟨hfirst, hothers⟩ := List.forall_mem_cons.mp hother
      exact htable.keeps attr ((hmem attr).mpr (.inr ⟨hattr, hfirst⟩)) hothers
    · intro entry hentryMem
      rcases List.mem_cons.mp hentryMem with rfl | hmemEntry
      · have hkeep : new ∈ e'.properties := by
          refine htable.keeps new ((hmem new).mpr (.inl rfl)) fun entry hmemEntry hsame => ?_
          have hsameKey : key = entry.1 := ExtraKey.eq_of_name_uri (hname.symm.trans hsame.1)
            (huri.symm.trans hsame.2)
          exact hnotMem (List.mem_map.mpr ⟨entry, hmemEntry, hsameKey.symm⟩)
        refine List.mem_map.mpr ⟨new, hkeep, ?_⟩
        exact (writtenAttr_of_inScope hnew htable.inScope).trans hwritten
      · rw [← hdumped]
        exact htable.present entry hmemEntry

end OpenElement

end Lasso
