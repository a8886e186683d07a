import Lasso.Xml.SnippetOrder

/-!
# Children that take the cursor along

What some children write, and where they leave the cursor, whatever comes after them. Children are
put together piece by piece, for tables with jumps and with several snippets for one name.

## Main definitions

* `ReadsResults` — some children are read, from one position of the cursor to another.
* `ReadsNodes` — the same for nodes, wherever they stand.

## Main results

* `findSnippet_first` — the first snippet with the name of an element is found.
* `ReadsResults.append`, `.element`, `.blank` — how children are put together.
-/

namespace Lasso

variable {snippets : List Snippet} {any : Option Snippet} {parent node : XmlNode}
  {snippet : Snippet} {cursor cursor' : Nat}

/-- The snippets for nodes that stand between the cursor and the one of an element have other names,
and are passed one by one. -/
theorem findSnippet_first {i fuel : Nat} (hi : snippets[i]? = some snippet) (hle : cursor ≤ i)
    (hholds : snippet.holdsNodes = true)
    (hpassed : ∀ j other, cursor ≤ j → j < i → snippets[j]? = some other →
      j = cursor ∨ other.holdsNodes = true → other.any = false ∧ other.mandatory = false ∧
        other.jumpOnMiss = false ∧ node.elementName ≠ some other.name)
    (hmatch : nodeMatchSnippet parent node snippet = true)
    (hfuel : snippets.length < fuel + cursor) :
    findSnippet snippets parent node fuel cursor = .found snippet
      (if !snippet.multiple || snippet.jumpOnMatch then
        advance snippets i snippet snippet.jumpOnMatch
      else i) := by
  have hlt : i < snippets.length := (List.getElem?_eq_some_iff.mp hi).1
  induction fuel generalizing cursor with
  | zero => omega
  | succ fuel ih =>
    rw [findSnippet]
    rcases Nat.lt_or_eq_of_le hle with hlt' | rfl
    · have hs : snippets[cursor]? = some snippets[cursor] := List.getElem?_eq_getElem (by omega)
      obtain ⟨hany, hmandatory, hmiss, hname⟩ :=
        hpassed cursor _ (Nat.le_refl _) hlt' hs (.inl rfl)
      have hnomatch : nodeMatchSnippet parent node snippets[cursor] = false := by
        simp [nodeMatchSnippet, hany, hname]
      have hnext : cursor + 1 ≤ nextNodeSnippet snippets (cursor + 1) := le_nextNodeSnippet
      have hreaches : nextNodeSnippet snippets (cursor + 1) ≤ i :=
        nextNodeSnippet_le hi hholds (by omega)
      rw [hs]
      dsimp only
      have hadvance : advance snippets cursor snippets[cursor] false =
          nextNodeSnippet snippets (cursor + 1) := by simp [advance]
      rw [if_neg (by simp [hnomatch]), if_neg (by simp [hmandatory]), hmiss, hadvance]
      refine ih hreaches (fun j other hj hji hother hreached => ?_) ?_
      · refine hpassed j other (by omega) hji hother (.inr ?_)
        rcases hreached with rfl | hholds
        · exact atRest_nextNodeSnippet other hother
        · exact hholds
      · omega
    · rw [hi]
      dsimp only
      rw [if_pos hmatch]

/-- A child in the namespace of its parent. -/
theorem nodeMatchSnippet_of_parent {href : String} (hns : parent.ns = some href)
    (hname : node.elementName = some snippet.name) (hnode : node.ns = some href)
    (hsnippet : snippet.nsUri = none) : nodeMatchSnippet parent node snippet = true := by
  simp [nodeMatchSnippet, hns, hname, hnode, hsnippet, equalNamespace]

variable {R : Registry} {searchNs : NsScope}

/-! ## What a child writes, wherever it stands -/

section Stored

variable {field : String} {path : List Nat}

theorem storeMatched_none (h : snippet.field = none) :
    storeMatched snippet (PlacedNode.result R searchNs ⟨path, node⟩) = .ok [] := by
  unfold storeMatched
  rw [h]
  rfl

theorem storeMatched_xmlNode (h : snippet.field = some field)
    (hkind : snippet.kind = .xmlNode ∨ snippet.kind = .listXmlNodes) :
    storeMatched snippet (PlacedNode.result R searchNs ⟨path, node⟩) =
      .ok [.xmlNode field node] := by
  unfold storeMatched
  rw [h]
  rcases hkind with hkind | hkind <;> simp [hkind, pure, Except.pure]

theorem storeMatched_extension (h : snippet.field = some field)
    (hkind : snippet.kind = .extension) :
    storeMatched snippet (PlacedNode.result R searchNs ⟨path, node⟩) =
      .ok [.xmlNode field node] := by
  unfold storeMatched
  rw [h]
  simp [hkind, pure, Except.pure]

theorem storeMatched_content (h : snippet.field = some field) (hkind : snippet.kind = .content) :
    storeMatched snippet (PlacedNode.result R searchNs ⟨path, node⟩) =
      .ok [.content field node.textContent] := by
  unfold storeMatched
  rw [h]
  simp [hkind, pure, Except.pure]

theorem storeMatched_listContent (h : snippet.field = some field)
    (hkind : snippet.kind = .listContent) :
    storeMatched snippet (PlacedNode.result R searchNs ⟨path, node⟩) =
      .ok [.content field node.textContent] := by
  unfold storeMatched
  rw [h]
  simp [hkind, pure, Except.pure]

theorem storeMatched_signature (hkind : snippet.kind = .signature) :
    storeMatched snippet (PlacedNode.result R searchNs ⟨path, node⟩) = .ok [] := by
  unfold storeMatched
  cases snippet.field <;> simp [hkind, pure, Except.pure]

theorem storeMatched_node {object : Option ParsedNode} (h : snippet.field = some field)
    (hkind : snippet.kind = .node)
    (hread : newWithType R searchNs ⟨path, node⟩ snippet.className = .ok object) :
    storeMatched snippet (PlacedNode.result R searchNs ⟨path, node⟩) =
      .ok (object.toList.map (.node field <| some ·)) := by
  have hread' : (PlacedNode.result R searchNs ⟨path, node⟩).withType snippet.className =
    .ok object := hread
  unfold storeMatched
  rw [h]
  simp [hkind, hread', bind, Except.bind, pure, Except.pure]

end Stored

/-! ## Runs of children -/

section ReadsResults

variable {cursor'' : Nat} {child : ChildResult} {children more : List ChildResult}
  {stores stores' : List Store}

/-- Whatever comes after them, the children write their stores and take the cursor along. -/
def ReadsResults (snippets : List Snippet) (any : Option Snippet) (parent : XmlNode) (cursor : Nat)
    (children : List ChildResult) (stores : List Store) (cursor' : Nat) : Prop :=
  ∀ more, initChildren snippets any parent cursor (children ++ more) =
    (initChildren snippets any parent cursor' more).map (·.map (stores ++ ·))

/-- A node that the loop passes by when no text is wanted. -/
def XmlNode.isBlank : XmlNode → Bool
  | .text _ | .comment _ | .pi .. => true
  | _ => false

namespace ReadsResults

theorem nil : ReadsResults snippets any parent cursor [] [] cursor := by
  intro more
  rw [List.nil_append]
  rcases initChildren snippets any parent cursor more with fault | rc | stores <;>
    simp [Except.map]

theorem append (h : ReadsResults snippets any parent cursor children stores cursor')
    (h' : ReadsResults snippets any parent cursor' more stores' cursor'') :
    ReadsResults snippets any parent cursor (children ++ more) (stores ++ stores') cursor'' := by
  intro rest
  rw [List.append_assoc, h, h']
  rcases initChildren snippets any parent cursor'' rest with fault | rc | written <;>
    simp [Except.map]

/-- An element that has found its snippet. -/
theorem element (hlive : cursor < snippets.length) (helement : child.node.isElement = true)
    (hfound : findSnippet snippets parent child.node (snippets.length + 1) cursor =
      .found snippet cursor')
    (hstored : storeMatched snippet child = .ok stores) :
    ReadsResults snippets any parent cursor [child] stores cursor' := by
  intro more
  rw [List.singleton_append, initChildren_element hlive helement, hfound]
  dsimp only
  rw [hstored]
  rfl

theorem blank (hlive : cursor < snippets.length) (hblank : child.node.isBlank = true) :
    ReadsResults snippets none parent cursor [child] [] cursor := by
  intro more
  rw [List.singleton_append, initChildren, if_pos hlive]
  cases hnode : child.node with
  | element ns name attrs nodes => simp [hnode, XmlNode.isBlank] at hblank
  | cdata content => simp [hnode, XmlNode.isBlank] at hblank
  | text content => rfl
  | comment content =>
    rcases initChildren snippets none parent cursor more with fault | rc | stores <;>
      simp [Except.map]
  | pi target content =>
    rcases initChildren snippets none parent cursor more with fault | rc | stores <;>
      simp [Except.map]

/-- The loop, when there are no other children. -/
theorem initChildren_eq (h : ReadsResults snippets any parent cursor children stores cursor') :
    initChildren snippets any parent cursor children = .ok (.ok stores) := by
  have hall := h []
  rw [List.append_nil] at hall
  rw [hall, initChildren]
  simp [Except.map, pure, Except.pure]

end ReadsResults

end ReadsResults

/-! ## Pieces of an element -/

/-- Wherever the nodes stand and whatever comes after them, they write their stores and take the
cursor along. -/
def ReadsNodes (R : Registry) (searchNs : NsScope) (snippets : List Snippet) (any : Option Snippet)
    (parent : XmlNode) (cursor : Nat) (nodes : List XmlNode) (stores : List Store)
    (cursor' : Nat) : Prop :=
  ∀ path i more, initChildren snippets any parent cursor
      ((placeFrom path i nodes).map (·.result R searchNs) ++ more) =
    (initChildren snippets any parent cursor' more).map (·.map (stores ++ ·))

namespace ReadsNodes

variable {nodes more : List XmlNode} {stores stores' : List Store}

theorem nil : ReadsNodes R searchNs snippets any parent cursor [] [] cursor :=
  fun _ _ => ReadsResults.nil

theorem append {cursor'' : Nat}
    (h : ReadsNodes R searchNs snippets any parent cursor nodes stores cursor')
    (h' : ReadsNodes R searchNs snippets any parent cursor' more stores' cursor'') :
    ReadsNodes R searchNs snippets any parent cursor (nodes ++ more) (stores ++ stores')
      cursor'' := by
  intro path i
  rw [placeFrom_append, List.map_append]
  exact ReadsResults.append (h path i) (h' path _)

/-- An element that has found its snippet. -/
theorem element (hlive : cursor < snippets.length) (helement : node.isElement = true)
    (hfound : findSnippet snippets parent node (snippets.length + 1) cursor =
      .found snippet cursor')
    (hstored : ∀ path, storeMatched snippet (PlacedNode.result R searchNs ⟨path, node⟩) =
      .ok stores) :
    ReadsNodes R searchNs snippets any parent cursor [node] stores cursor' := by
  intro path i
  exact ReadsResults.element hlive (by simpa using helement) (by simpa using hfound) (hstored _)

/-- Where the cursor goes from a snippet that an element has matched. -/
abbrev After (snippets : List Snippet) (i : Nat) (snippet : Snippet) (cursor' : Nat) : Prop :=
  (if !snippet.multiple || snippet.jumpOnMatch then
    advance snippets i snippet snippet.jumpOnMatch
  else i) = cursor'

/-- An element with the name of a snippet that none of the snippets before has. -/
theorem named {i : Nat} (hi : snippets[i]? = some snippet)
    (hafter : After snippets i snippet cursor') (hholds : snippet.holdsNodes = true)
    (hpassed : ∀ other ∈ snippets.take i, other.any = false ∧ other.mandatory = false ∧
      other.jumpOnMiss = false ∧ other.name ≠ snippet.name)
    (hname : node.elementName = some snippet.name)
    (hmatch : nodeMatchSnippet parent node snippet = true)
    (hstored : ∀ path, storeMatched snippet (PlacedNode.result R searchNs ⟨path, node⟩) =
      .ok stores) (hle : cursor ≤ i) :
    ReadsNodes R searchNs snippets any parent cursor [node] stores cursor' := by
  have hlt : i < snippets.length := (List.getElem?_eq_some_iff.mp hi).1
  have helement : node.isElement = true := by
    cases node <;> simp [XmlNode.elementName, XmlNode.isElement] at hname ⊢
  refine element (by omega) helement ?_ hstored
  rw [← hafter]
  refine findSnippet_first hi hle hholds (fun j other _ hj hother _ => ?_) hmatch (by omega)
  have hmem : other ∈ snippets.take i :=
    List.mem_iff_getElem?.mpr ⟨j, by rw [List.getElem?_take_of_lt hj, hother]⟩
  obtain ⟨hany, hmandatory, hmiss, hother⟩ := hpassed other hmem
  refine ⟨hany, hmandatory, hmiss, fun heq => hother ?_⟩
  rw [hname] at heq
  exact (Option.some.inj heq).symm

/-- An element that may be missing. -/
theorem option {i : Nat} {node : Option XmlNode} {Q : Store → Prop}
    (h : ∀ node' ∈ node, ∃ stores, (∀ store ∈ stores, Q store) ∧ ∀ c ≤ i,
      ReadsNodes R searchNs snippets any parent c [node'] stores cursor')
    (hnext : i ≤ cursor') (hle : cursor ≤ i) :
    ∃ c ≤ cursor', ∃ stores, (∀ store ∈ stores, Q store) ∧
      ReadsNodes R searchNs snippets any parent cursor node.toList stores c := by
  cases node with
  | none => exact ⟨cursor, by omega, [], by simp, nil⟩
  | some node' =>
    obtain ⟨stores, hstores, hreads⟩ := h node' rfl
    exact ⟨cursor', Nat.le_refl _, stores, hstores, hreads cursor hle⟩

/-- Elements for one snippet, at which the cursor stays. -/
theorem list {i : Nat} {Q : Store → Prop}
    (h : ∀ node ∈ nodes, ∃ stores, (∀ store ∈ stores, Q store) ∧ ∀ c ≤ i,
      ReadsNodes R searchNs snippets any parent c [node] stores i) (hle : cursor ≤ i) :
    ∃ c ≤ i, ∃ stores, (∀ store ∈ stores, Q store) ∧
      ReadsNodes R searchNs snippets any parent cursor nodes stores c := by
  induction nodes generalizing cursor with
  | nil => exact ⟨cursor, hle, [], by simp, nil⟩
  | cons node nodes ih =>
    obtain ⟨hnode, hnodes⟩ := List.forall_mem_cons.mp h
    obtain ⟨stores, hstores, hreads⟩ := hnode
    obtain ⟨c, hc, rest, hrest, hreads'⟩ := ih hnodes (Nat.le_refl i)
    refine ⟨c, hc, stores ++ rest, ?_, (hreads cursor hle).append hreads'⟩
    exact List.forall_mem_append.mpr ⟨hstores, hrest⟩

section Map

variable {α : Type} {f : α → XmlNode} {g : α → Store} {i : Nat}

/-- Elements for one snippet, each with what it writes, from the snippet on. -/
theorem stay {as : List α}
    (h : ∀ a ∈ as, ReadsNodes R searchNs snippets any parent i [f a] [g a] i) :
    ReadsNodes R searchNs snippets any parent i (as.map f) (as.map g) i := by
  induction as with
  | nil => exact nil
  | cons a as ih =>
    obtain ⟨ha, has⟩ := List.forall_mem_cons.mp h
    exact ha.append (ih has)

/-- Elements for one snippet, from a position before it. -/
theorem map {as : List α}
    (h : ∀ a ∈ as, ∀ c ≤ i, ReadsNodes R searchNs snippets any parent c [f a] [g a] i)
    (hle : cursor ≤ i) :
    ∃ c ≤ i, ReadsNodes R searchNs snippets any parent cursor (as.map f) (as.map g) c := by
  cases as with
  | nil => exact ⟨cursor, hle, nil⟩
  | cons a as =>
    obtain ⟨ha, has⟩ := List.forall_mem_cons.mp h
    have hstay := stay fun a' ha' => has a' ha' i (Nat.le_refl i)
    exact ⟨i, Nat.le_refl i, (ha cursor hle).append hstay⟩

/-- An element that may be missing, with what it writes. -/
theorem mapOption {a : Option α}
    (h : ∀ a' ∈ a, ∀ c ≤ i, ReadsNodes R searchNs snippets any parent c [f a'] [g a'] cursor')
    (hnext : i ≤ cursor') (hle : cursor ≤ i) :
    ∃ c ≤ cursor', ReadsNodes R searchNs snippets any parent cursor (a.toList.map f)
      (a.toList.map g) c := by
  cases a with
  | none => exact ⟨cursor, Nat.le_trans hle hnext, nil⟩
  | some a => exact ⟨cursor', Nat.le_refl _, h a rfl cursor hle⟩

end Map

/-- A child with a text, in the namespace of its parent. -/
theorem textChild {i : Nat} {href field : String} (hns : parent.ns = some href)
    (hi : snippets[i]? = some snippet) (hafter : After snippets i snippet cursor')
    (hholds : snippet.holdsNodes = true)
    (hpassed : ∀ other ∈ snippets.take i, other.any = false ∧ other.mandatory = false ∧
      other.jumpOnMiss = false ∧ other.name ≠ snippet.name)
    (hkind : snippet.kind = .content ∨ snippet.kind = .listContent)
    (hsnippet : snippet.nsUri = none) (hfield : snippet.field = some field) (text : String)
    (hle : cursor ≤ i) :
    ReadsNodes R searchNs snippets any parent cursor
      [.element (some href) snippet.name [] [.text text]] [.content field text] cursor' := by
  refine .named hi hafter hholds hpassed rfl (nodeMatchSnippet_of_parent hns rfl rfl hsnippet)
    (fun path => ?_) hle
  rcases hkind with hkind | hkind
  · rw [storeMatched_content hfield hkind, XmlNode.textContent_text]
  · rw [storeMatched_listContent hfield hkind, XmlNode.textContent_text]

/-- A text that nothing is made of. -/
theorem text (hlive : cursor < snippets.length) (content : String) :
    ReadsNodes R searchNs snippets none parent cursor [.text content] [] cursor := by
  intro path i
  exact ReadsResults.blank hlive (by rw [PlacedNode.result_node]; rfl)

/-- The loop over the children, when there are no others. -/
theorem initChildren_eq (h : ReadsNodes R searchNs snippets any parent cursor nodes stores cursor')
    (path : List Nat) :
    initChildren snippets any parent cursor
      ((placeFrom path 0 nodes).map (·.result R searchNs)) = .ok (.ok stores) :=
  ReadsResults.initChildren_eq (h path 0)

end ReadsNodes

/-! ## The other parts of an element -/

/-- There is no `xsi:type` among the attributes. -/
def NoXsiType (attrs : List XmlAttr) : Prop :=
  ∀ attr ∈ attrs, attr.name = "type" → attr.ns ≠ some xsiHref

theorem noXsiType_of_ns {attrs : List XmlAttr} (h : ∀ attr ∈ attrs, attr.ns = none) :
    NoXsiType attrs := by
  intro attr hattr _
  rw [h attr hattr]
  exact nofun

section

variable {cls : LassoNodeClass} {data : NodeClassData} {place : PlacedNode} {path : List Nat}

theorem collectAttributes_eq (h : NoXsiType node.attrs) :
    collectAttributes searchNs cls data path node =
      .ok (node.attrs.flatMap (attributeStores cls node)) := by
  refine Outcome.gather_eq_flatMap fun attr hattr => ?_
  have hown : isOwnXsiType searchNs data path attr = .ok false := by
    have hnot : ¬ (attr.ns = some xsiHref ∧ attr.name = "type") := fun ⟨hns, hname⟩ =>
      h attr hattr hname hns
    unfold isOwnXsiType
    rw [if_neg (by simpa using hnot)]
    rfl
  rw [hown]
  rfl

/-- An attribute is stored under the member of a snippet for attributes. -/
theorem mem_attributeStores {attr : XmlAttr} {store : Store}
    (hany : cls.snippetAnyAttribute = none) (h : store ∈ attributeStores cls node attr) :
    ∃ snippet ∈ cls.snippets, snippet.kind = .attribute ∧
      ∃ field ∈ snippet.field, store = .content field attr.value := by
  have hstores : store ∈ (cls.classList.filterMap (attributeSnippet node attr)).filterMap
      fun snippet => snippet.field.map (.content · attr.value) := by
    unfold attributeStores at h
    rw [hany] at h
    split at h
    · contradiction
    · exact h
  obtain ⟨snippet, hsnippet, hstore⟩ := List.mem_filterMap.mp hstores
  obtain ⟨field, hfield, rfl⟩ := Option.map_eq_some_iff.mp hstore
  obtain ⟨table, htable, hfind⟩ := List.mem_filterMap.mp hsnippet
  unfold attributeSnippet at hfind
  obtain ⟨hfind, -⟩ := Option.filter_eq_some_iff.mp hfind
  have hkind := List.find?_some hfind
  simp only [Bool.and_eq_true, beq_iff_eq] at hkind
  exact ⟨snippet, List.mem_flatMap.mpr ⟨table, htable, List.mem_of_find?_eq_some hfind⟩, hkind.1,
    field, hfield, rfl⟩

theorem xsiTypename_eq_none (h : NoXsiType node.attrs) :
    xsiTypename R searchNs path node = none := by
  have hprop : node.getNsProp "type" xsiHref = none := by
    unfold XmlNode.getNsProp
    rw [List.find?_eq_none.mpr, Option.map_none]
    intro attr hattr htype
    obtain ⟨hname, hns⟩ : attr.name = "type" ∧ attr.ns = some xsiHref := by simpa using htype
    exact h attr hattr hname hns
  unfold xsiTypename
  rw [hprop]
  rfl

/-- What is left of `lasso_node_impl_init_from_xml`, for an element that passes for one of the
class. -/
theorem implInit_of_children {tail : List NodeClassData} {attributes : List Store}
    {children : List ChildResult}
    (hchain : cls.chain = data :: tail) (htables : cls.classList ≠ [])
    (hname : cls.nameMismatch R place.node = false)
    (hattrs : collectAttributes searchNs cls data place.path place.node = .ok attributes) :
    implInit R searchNs cls place children =
      (initChildren cls.snippets cls.snippetAny place.node (nextNodeSnippet cls.snippets 0)
        children).map (·.map (textChildStores cls place.node ++ attributes ++ ·)) := by
  unfold implInit
  rw [hchain]
  dsimp only
  rw [hname, if_neg (by simp), hattrs]
  dsimp only [bind, Except.bind]
  rw [if_neg (by simpa using htables)]
  generalize initChildren _ _ _ _ _ = result
  cases result <;> rfl

theorem implInit_eq {tail : List NodeClassData} (hchain : cls.chain = data :: tail)
    (htables : cls.classList ≠ []) (hname : cls.nameMismatch R place.node = false)
    (hattrs : NoXsiType place.node.attrs) :
    implInit R searchNs cls place (place.children.map (·.result R searchNs)) =
      (initChildren cls.snippets cls.snippetAny place.node (nextNodeSnippet cls.snippets 0)
        (place.children.map (·.result R searchNs))).map
          (·.map (textChildStores cls place.node ++
            place.node.attrs.flatMap (attributeStores cls place.node) ++ ·)) :=
  implInit_of_children hchain htables hname (collectAttributes_eq hattrs)

/-- An object of a class without a method of its own. -/
theorem newWithType_of_implInit {typename : Option String} {stores : List Store}
    (hclass : classFor R searchNs place typename = some cls) (hinit : cls.init = .impl)
    (himpl : implInit R searchNs cls place (place.children.map (·.result R searchNs)) =
      .ok (.ok stores)) :
    newWithType R searchNs place typename = .ok (some (.mk cls.name stores)) := by
  rw [newWithType_eq, hclass]
  dsimp only
  unfold ParseTask.run initFromXml
  rw [hinit]
  dsimp only
  rw [himpl]
  rfl

/-- An element of such a class is read if its children are. -/
theorem newWithType_of_initChildren {typename : Option String} {tail : List NodeClassData}
    {stores : List Store} (hclass : classFor R searchNs ⟨path, node⟩ typename = some cls)
    (hinit : cls.init = .impl) (hchain : cls.chain = data :: tail) (htables : cls.classList ≠ [])
    (hname : cls.nameMismatch R node = false) (hattrs : NoXsiType node.attrs)
    (hchildren : initChildren cls.snippets cls.snippetAny node (nextNodeSnippet cls.snippets 0)
      ((placeFrom path 0 node.children).map (·.result R searchNs)) = .ok (.ok stores)) :
    newWithType R searchNs ⟨path, node⟩ typename = .ok (some (.mk cls.name
      (textChildStores cls node ++ node.attrs.flatMap (attributeStores cls node) ++ stores))) := by
  have himpl := @implInit_eq R searchNs cls data ⟨path, node⟩ tail hchain htables hname hattrs
  have hchildren' : initChildren cls.snippets cls.snippetAny node (nextNodeSnippet cls.snippets 0)
      ((PlacedNode.mk path node).children.map (·.result R searchNs)) = .ok (.ok stores) := hchildren
  dsimp only at himpl
  rw [hchildren'] at himpl
  exact newWithType_of_implInit hclass hinit himpl

/-- The class by the name of an element without an `xsi:type`. -/
theorem classFor_of_name {href name typename : String} {attrs : List XmlAttr}
    {children : List XmlNode} (hattrs : NoXsiType attrs)
    (htypename : typeNameFromHrefAndNodename R href name = some typename)
    (htypes : R.types typename = some cls) :
    classFor R searchNs ⟨path, .element (some href) name attrs children⟩ none = some cls := by
  have hattrs' : NoXsiType (XmlNode.element (some href) name attrs children).attrs := hattrs
  have hname : typenameByName R (.element (some href) name attrs children) = some typename :=
    htypename
  rw [classFor, Option.none_or, autoTypename, xsiTypename_eq_none hattrs', Option.none_or, hname,
    Option.bind_some, htypes]

end

end Lasso
