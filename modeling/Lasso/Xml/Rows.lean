import Lasso.Xml.NodeRoundTrip

/-!
# Elements with at most one child for a snippet

The dumps of the profile objects: every snippet has one child or none, with a text or with an object
that was written before, and the children come in the order of the snippets. A child may also be
written by hand, in the place of a snippet without a member.

## Main definitions

* `NodeCodec` — how objects are written and read.
* `rows`, `rowElement`, `rowStores` — the children of an element, and what reading them writes.

## Main results

* `implInit_rows` — reading the element.
* `content_rowStores`, `subnode_rowStores` — the members that are read.
-/

namespace Lasso

variable {α : Type}

/-- How objects are written to elements and read from them. -/
structure NodeCodec (α : Type) where
  /-- `lasso_node_get_xmlNode` in a dump -/
  encode : α → XmlNode
  /-- what the parser makes of the element -/
  image : α → Option ParsedNode
  /-- the object that the parser has filled in -/
  decode : ParsedNode → Option α

namespace NodeCodec

variable (codec : NodeCodec α) (R : Registry) (searchNs : NsScope) (node : α)

/-- What is left of an object that is written and read. -/
def reread : Option α := (codec.image node).bind codec.decode

/-- The element of an object is read wherever it stands. -/
structure Reads : Prop where
  isElement : (codec.encode node).isElement = true
  read : ∀ path, newWithType R searchNs ⟨path, codec.encode node⟩ none = .ok (codec.image node)

/-- An object comes back from its element. -/
structure ComesBack : Prop extends codec.Reads R searchNs node where
  reread : codec.reread node = some node

/-- An object that may be missing comes back from its element. -/
theorem bind_reread {codec : NodeCodec α} {R : Registry} {searchNs : NsScope} {node : Option α}
    (h : ∀ value ∈ node, codec.ComesBack R searchNs value) : node.bind codec.reread = node := by
  cases node with
  | none => rfl
  | some node => exact (h node rfl).reread

end NodeCodec

namespace Rows

/-- What stands in the child of a snippet. -/
inductive RowValue (α : Type) where
  | text (value : String)
  | node (value : α)

/-- The children of an element: the snippet and what its child holds. -/
def rows (value : Snippet → Option (RowValue α)) (snippets : List Snippet) :
    List (Snippet × RowValue α) :=
  snippets.filterMap fun snippet => (value snippet).map (snippet, ·)

/-- The child of a snippet, in the namespace of its parent. -/
def rowElement (codec : NodeCodec α) (ns : Option String) : Snippet × RowValue α → XmlNode
  | (snippet, .text value) => newTextChild ns snippet.name value
  | (snippet, .node value) => .element ns snippet.name [] [codec.encode value]

/-- What a child writes when it is read. -/
def rowStores (codec : NodeCodec α) : Snippet × RowValue α → List Store
  | (snippet, .text value) => snippet.field.toList.map (.content · value)
  | (snippet, .node value) => snippet.field.toList.map (.node · (codec.image value))

/-- The values fit the snippets, and the objects among them come back. -/
structure Fits (codec : NodeCodec α) (R : Registry) (searchNs : NsScope) (snippets : List Snippet)
    (value : Snippet → Option (RowValue α)) : Prop where
  plain : PlainSnippets snippets
  names : ∀ snippet ∈ snippets, snippet.name ≠ "" ∧ snippet.kind ≠ .textChild
  fields : (snippets.filterMap (·.field)).Nodup
  text : ∀ snippet ∈ snippets, ∀ text, value snippet = some (.text text) →
    snippet.kind = .content ∧ snippet.nsUri = none
  node : ∀ snippet ∈ snippets, ∀ node, value snippet = some (.node node) →
    snippet.kind = .nodeInChild ∧ snippet.nsUri = none ∧ snippet.className = none ∧
      codec.Reads R searchNs node

variable {codec : NodeCodec α} {R : Registry} {searchNs : NsScope} {snippets : List Snippet}
  {value : Snippet → Option (RowValue α)} {snippet : Snippet} {field : String}

theorem mem_rows {row : Snippet × RowValue α} :
    row ∈ rows value snippets ↔ row.1 ∈ snippets ∧ value row.1 = some row.2 := by
  obtain ⟨snippet, content⟩ := row
  unfold rows
  rw [List.mem_filterMap]
  constructor
  · rintro ⟨other, hmem, h⟩
    obtain ⟨content', hvalue, heq⟩ := Option.map_eq_some_iff.mp h
    cases heq
    exact ⟨hmem, hvalue⟩
  · rintro ⟨hmem, hvalue⟩
    exact ⟨snippet, hmem, by simp [show value snippet = some content from hvalue]⟩

theorem rows_fst_sublist : ((rows value snippets).map (·.1)).Sublist snippets :=
  map_fst_filterMap_sublist value snippets

/-! ## Reading the children -/

theorem rowElement_eq (codec : NodeCodec α) (ns : Option String) (row : Snippet × RowValue α) :
    ∃ children, rowElement codec ns row = .element ns row.1.name [] children := by
  obtain ⟨snippet, value | value⟩ := row
  · exact ⟨_, rfl⟩
  · exact ⟨_, rfl⟩

theorem Fits.holdsNodes (h : Fits codec R searchNs snippets value) {row : Snippet × RowValue α}
    (hrow : row ∈ rows value snippets) : row.1.holdsNodes = true ∧ row.1.nsUri = none := by
  obtain ⟨hmem, hvalue⟩ := mem_rows.mp hrow
  have hany := h.plain.any _ hmem
  have hname := (h.names _ hmem).1
  cases hcontent : row.2 with
  | text text =>
    obtain ⟨hkind, hns⟩ := h.text _ hmem text (by rw [hvalue, hcontent])
    exact ⟨by simp [Snippet.holdsNodes, hany, hname, hkind], hns⟩
  | node node =>
    obtain ⟨hkind, hns, -⟩ := h.node _ hmem node (by rw [hvalue, hcontent])
    exact ⟨by simp [Snippet.holdsNodes, hany, hname, hkind], hns⟩

/-- What one child writes, wherever it stands. -/
theorem Fits.storeMatched_row (h : Fits codec R searchNs snippets value)
    {row : Snippet × RowValue α} (hrow : row ∈ rows value snippets) (ns : Option String)
    (path : List Nat) :
    storeMatched row.1 (PlacedNode.result R searchNs ⟨path, rowElement codec ns row⟩) =
      .ok (rowStores codec row) := by
  obtain ⟨hmem, hvalue⟩ := mem_rows.mp hrow
  obtain ⟨snippet, content⟩ := row
  cases content with
  | text text =>
    obtain ⟨hkind, -⟩ := h.text _ hmem text hvalue
    dsimp only at hkind
    unfold storeMatched
    cases hfield : snippet.field with
    | none => simp [rowStores, hfield, pure, Except.pure]
    | some field =>
      simp [rowStores, hfield, hkind, pure, Except.pure, rowElement, newTextChild,
        XmlNode.textContent_text]
  | node node =>
    obtain ⟨hkind, -, hclass, hreads⟩ := h.node _ hmem node hvalue
    dsimp only at hkind hclass
    unfold storeMatched
    cases hfield : snippet.field with
    | none => simp [rowStores, hfield, pure, Except.pure]
    | some field =>
      have hchildren : (PlacedNode.mk path (rowElement codec ns (snippet, .node node))).children =
          [⟨path ++ [0], codec.encode node⟩] := rfl
      rw [PlacedNode.result_eq, hchildren]
      have hread := hreads.read (path ++ [0])
      unfold newWithType at hread
      simp [childResult, hreads.isElement, hkind, hclass, hread, rowStores, hfield, bind,
        Except.bind, pure, Except.pure]

/-! ### Children in the order of their snippets -/

section Items

variable {ι : Type} {snippetOf : ι → Snippet} {elementOf : ι → XmlNode}
  {storesOf : ι → List Store} {items : List ι}

/-- The items with their elements, each where it stands. -/
def placedItems (elementOf : ι → XmlNode) (path : List Nat) (i : Nat) :
    List ι → List (ι × PlacedNode)
  | [] => []
  | item :: items => (item, ⟨path ++ [i], elementOf item⟩) :: placedItems elementOf path (i + 1) items

theorem placedItems_map_fst (path : List Nat) (i : Nat) (items : List ι) :
    (placedItems elementOf path i items).map (·.1) = items := by
  induction items generalizing i with
  | nil => rfl
  | cons item items ih => rw [placedItems, List.map_cons, ih]

theorem placedItems_map_snd (path : List Nat) (i : Nat) (items : List ι) :
    (placedItems elementOf path i items).map (·.2) =
      placeFrom path i (items.map elementOf) := by
  induction items generalizing i with
  | nil => rfl
  | cons item items ih => rw [placedItems, List.map_cons, ih]; rfl

theorem mem_placedItems {path : List Nat} {i : Nat} {placed : ι × PlacedNode}
    (h : placed ∈ placedItems elementOf path i items) :
    placed.1 ∈ items ∧ placed.2.node = elementOf placed.1 := by
  induction items generalizing i with
  | nil => cases h
  | cons item items ih =>
    rcases List.mem_cons.mp h with rfl | h
    · exact ⟨List.mem_cons_self, rfl⟩
    · obtain ⟨hmem, hnode⟩ := ih h
      exact ⟨List.mem_cons_of_mem _ hmem, hnode⟩

/-- The children of an element, each with its snippet and what it writes. -/
structure Children (R : Registry) (searchNs : NsScope) (snippets : List Snippet)
    (snippetOf : ι → Snippet) (elementOf : ι → XmlNode) (storesOf : ι → List Store)
    (ns : String) (items : List ι) : Prop where
  plain : PlainSnippets snippets
  order : (items.map snippetOf).Sublist snippets
  holdsNodes : ∀ item ∈ items, (snippetOf item).holdsNodes = true ∧ (snippetOf item).nsUri = none
  element : ∀ item ∈ items, ∃ children,
    elementOf item = .element (some ns) (snippetOf item).name [] children
  stored : ∀ item ∈ items, ∀ path,
    storeMatched (snippetOf item) (PlacedNode.result R searchNs ⟨path, elementOf item⟩) =
      .ok (storesOf item)

/-- The children are all taken, and write what they write alone. -/
theorem Children.initChildren {ns : String}
    (h : Children R searchNs snippets snippetOf elementOf storesOf ns items) {parent : XmlNode}
    (hns : parent.ns = some ns) (any : Option Snippet) (path : List Nat) :
    Lasso.initChildren snippets any parent (nextNodeSnippet snippets 0)
        ((placeFrom path 0 (items.map elementOf)).map (·.result R searchNs)) =
      .ok (.ok (items.flatMap storesOf)) := by
  set placed := placedItems elementOf path 0 items with hplaced
  have hresults : (placeFrom path 0 (items.map elementOf)).map (·.result R searchNs) =
      (placed.map fun p => (snippetOf p.1, p.2.result R searchNs)).map (·.2) := by
    rw [← placedItems_map_snd, List.map_map, List.map_map]
    rfl
  have hnamed : ∀ p ∈ placed, IsNamedAfter snippets (snippetOf p.1) (p.2.result R searchNs) := by
    intro p hp
    obtain ⟨hitem, hnode⟩ := mem_placedItems hp
    obtain ⟨children, helement⟩ := h.element p.1 hitem
    exact ⟨h.order.subset (List.mem_map_of_mem hitem), (h.holdsNodes p.1 hitem).1, _, _, _,
      (PlacedNode.result_node _).trans (hnode.trans helement)⟩
  have horder : placed.Pairwise fun p p' => (snippetOf p.1).Before snippets (snippetOf p'.1) := by
    have hpairs : ((placed.map (·.1)).map snippetOf).Pairwise fun snippet other =>
        ∃ i j : Nat, i < j ∧ snippets[i]? = some snippet ∧ snippets[j]? = some other := by
      rw [hplaced, placedItems_map_fst]
      refine List.Pairwise.sublist h.order ?_
      rw [List.pairwise_iff_getElem]
      intro i j hi hj hlt
      exact ⟨i, j, hlt, List.getElem?_eq_getElem hi, List.getElem?_eq_getElem hj⟩
    rw [List.map_map, List.pairwise_map] at hpairs
    exact hpairs.imp fun hbefore => .inr hbefore
  rw [hresults, initChildren_ordered h.plain]
  · constructor
    · rw [List.forall_mem_map]
      intro p hp
      obtain ⟨hitem, hnode⟩ := mem_placedItems hp
      obtain ⟨children, helement⟩ := h.element p.1 hitem
      simp only [nodeMatchSnippet, PlacedNode.result_node, hnode, helement,
        (h.holdsNodes p.1 hitem).2, hns]
      simp [XmlNode.elementName, XmlNode.ns, equalNamespace]
    · rw [Outcome.gather_map, Outcome.gather_eq_flatMap (g := fun p => storesOf p.1)]
      · rw [← List.flatMap_map, hplaced, placedItems_map_fst]
      · intro p hp
        obtain ⟨hitem, hnode⟩ := mem_placedItems hp
        obtain ⟨item, path, node⟩ := p
        dsimp only at hitem hnode ⊢
        rw [hnode]
        exact h.stored item hitem path
  · rw [List.forall_mem_map]
    exact hnamed
  · rw [List.pairwise_map]
    exact horder
  · exact atRest_nextNodeSnippet
  · intro pair hpair i hi
    obtain ⟨p, hp, rfl⟩ := List.mem_map.mp hpair
    exact nextNodeSnippet_le hi (hnamed p hp).holdsNodes (Nat.zero_le i)

/-- Reading an element whose attributes write `attributes`, and whose children are the items. -/
theorem Children.implInit {cls : LassoNodeClass} {data : NodeClassData}
    {tail : List NodeClassData} {ns : String}
    (h : Children R searchNs cls.snippets snippetOf elementOf storesOf ns items)
    (hkinds : ∀ snippet ∈ cls.snippets, snippet.kind ≠ .textChild)
    (hchain : cls.chain = data :: tail) (htables : cls.classList ≠ []) {place : PlacedNode}
    (hname : cls.nameMismatch R place.node = false) (hns : place.node.ns = some ns)
    {attributes : List Store}
    (hattributes : collectAttributes searchNs cls data place.path place.node = .ok attributes)
    (hchildren : place.node.children = items.map elementOf) :
    Lasso.implInit R searchNs cls place (place.children.map (·.result R searchNs)) =
      .ok (.ok (attributes ++ items.flatMap storesOf)) := by
  have htext : textChildStores cls place.node = [] := by
    rw [textChildStores, List.filterMap_eq_nil_iff]
    intro snippet hsnippet
    have hmem : snippet ∈ cls.snippets := by
      simpa [LassoNodeClass.snippets, LassoNodeClass.classList] using hsnippet
    rw [if_neg]
    exact fun hkind => hkinds snippet hmem (beq_iff_eq.mp hkind)
  have hplaces : place.children = placeFrom place.path 0 (items.map elementOf) := by
    rw [PlacedNode.children, hchildren]
  rw [Lasso.implInit, hchain]
  dsimp only
  rw [hname, hattributes, hplaces, if_neg (by simp)]
  simp only [bind, Except.bind]
  rw [if_neg (by simpa using htables), h.initChildren hns, htext]
  rfl

end Items

/-- The rows are children in the order of their snippets. -/
theorem Fits.children (h : Fits codec R searchNs snippets value) (ns : String) :
    Children R searchNs snippets (·.1) (rowElement codec (some ns)) (rowStores codec) ns
      (rows value snippets) where
  plain := h.plain
  order := rows_fst_sublist
  holdsNodes _ hrow := h.holdsNodes hrow
  element row _ := rowElement_eq codec (some ns) row
  stored _ hrow path := h.storeMatched_row hrow (some ns) path

/-- Reading an element whose attributes write `attributes`, and whose children are the rows. -/
theorem Fits.implInit_rows {cls : LassoNodeClass} {data : NodeClassData}
    {tail : List NodeClassData} (h : Fits codec R searchNs cls.snippets value)
    (hchain : cls.chain = data :: tail) (htables : cls.classList ≠ []) {place : PlacedNode}
    (hname : cls.nameMismatch R place.node = false) {ns : String} (hns : place.node.ns = some ns)
    {attributes : List Store}
    (hattributes : collectAttributes searchNs cls data place.path place.node = .ok attributes)
    (hchildren : place.node.children =
      (rows value cls.snippets).map (rowElement codec (some ns))) :
    implInit R searchNs cls place (place.children.map (·.result R searchNs)) =
      .ok (.ok (attributes ++ (rows value cls.snippets).flatMap (rowStores codec))) :=
  (h.children ns).implInit (fun snippet hmem => (h.names snippet hmem).2) hchain htables hname hns
    hattributes hchildren

/-! ## The members that are read -/

section Members

variable {className : String}

/-- Only the child of the snippet writes to its member. -/
theorem Fits.filterMap_rowStores {β : Type} (h : Fits codec R searchNs snippets value)
    (hmem : snippet ∈ snippets) (hfield : snippet.field = some field) {g : Store → Option β}
    (hg : ∀ store b, g store = some b → (∃ text, store = .content field text) ∨
      ∃ node, store = .node field node) :
    ((rows value snippets).flatMap (rowStores codec)).filterMap g =
      ((value snippet).toList.flatMap fun content =>
        rowStores codec (snippet, content)).filterMap g := by
  have hnodup : snippets.Nodup := List.Nodup.of_map _ h.plain.names
  have hother : ∀ other ∈ snippets, other ≠ snippet → ∀ content,
      (rowStores codec (other, content)).filterMap g = [] := by
    intro other hother hne content
    rw [List.filterMap_eq_nil_iff]
    intro store hstore
    have hfields : ∀ field', other.field = some field' → field' ≠ field := by
      rintro field' hfield' rfl
      have hdistinct := List.pairwise_filterMap.mp h.fields
      have hsymm : Std.Symm fun snippet other : Snippet =>
          ∀ field, snippet.field = some field → ∀ field', other.field = some field' →
            field ≠ field' :=
        ⟨fun _ _ h field hf field' hf' heq => h field' hf' field hf heq.symm⟩
      exact hdistinct.forall hother hmem hne _ hfield' _ hfield rfl
    by_contra hsome
    obtain ⟨b, hb⟩ := Option.ne_none_iff_exists'.mp hsome
    cases content with
    | text text =>
      obtain ⟨field', hfield', rfl⟩ := List.mem_map.mp hstore
      rcases hg _ b hb with ⟨_, heq⟩ | ⟨_, heq⟩
      · cases heq
        exact hfields _ (Option.mem_toList.mp hfield') rfl
      · cases heq
    | node node =>
      obtain ⟨field', hfield', rfl⟩ := List.mem_map.mp hstore
      rcases hg _ b hb with ⟨_, heq⟩ | ⟨_, heq⟩
      · cases heq
      · cases heq
        exact hfields _ (Option.mem_toList.mp hfield') rfl
  have hrows : (rows value snippets).flatMap (rowStores codec) =
      snippets.flatMap fun other => (value other).toList.flatMap fun content =>
        rowStores codec (other, content) := by
    unfold rows
    rw [List.filterMap_eq_flatMap_toList, List.flatMap_assoc]
    refine List.flatMap_congr fun other _ => ?_
    cases value other with
    | none => rfl
    | some content => simp
  rw [hrows, List.filterMap_flatMap]
  refine flatMap_eq_of_only hmem hnodup fun other hmem' hne => ?_
  cases value other with
  | none => rfl
  | some content => simpa using hother other hmem' hne content

/-- A member without a snippet is not written. -/
theorem contentOf_rowStores_eq_nil (h : ∀ snippet ∈ snippets, snippet.field ≠ some field) :
    ((rows value snippets).flatMap (rowStores codec)).filterMap (Store.contentOf field) = [] := by
  rw [List.filterMap_eq_nil_iff]
  intro store hstore
  obtain ⟨⟨snippet, content⟩, hrow, hstore⟩ := List.mem_flatMap.mp hstore
  have hfield := h snippet (mem_rows.mp hrow).1
  cases content with
  | text text =>
    obtain ⟨field', hfield', rfl⟩ := List.mem_map.mp hstore
    have hne : field' ≠ field := fun heq => hfield (heq ▸ Option.mem_toList.mp hfield')
    simp [Store.contentOf, hne]
  | node node =>
    obtain ⟨field', -, rfl⟩ := List.mem_map.mp hstore
    rfl

/-- The text of a member, which the stores behind those of the children leave as it is. -/
theorem Fits.content_rowStores (h : Fits codec R searchNs snippets value)
    (hmem : snippet ∈ snippets) (hfield : snippet.field = some field)
    {text : Option String} (hvalue : value snippet = text.map .text) {extra : List Store}
    (hextra : extra.filterMap (Store.contentOf field) = []) :
    (ParsedNode.mk className ((rows value snippets).flatMap (rowStores codec) ++ extra)).content
      field = text := by
  rw [ParsedNode.content_eq_getLast?, ParsedNode.contents, ParsedNode.stores,
    List.filterMap_append, hextra, List.append_nil, h.filterMap_rowStores hmem hfield, hvalue]
  · cases text with
    | none => rfl
    | some text => simp [rowStores, hfield, Store.contentOf]
  · intro store b hstore
    cases store with
    | content field' value =>
      by_cases hname : field' = field
      · exact .inl ⟨value, by rw [hname]⟩
      · simp [Store.contentOf, hname] at hstore
    | _ => simp [Store.contentOf] at hstore

theorem Fits.subnode_rowStores (h : Fits codec R searchNs snippets value)
    (hmem : snippet ∈ snippets) (hfield : snippet.field = some field)
    {node : Option α} (hvalue : value snippet = node.map .node) {extra : List Store}
    (hextra : extra.filterMap (Store.nodeOf field) = []) :
    ((ParsedNode.mk className ((rows value snippets).flatMap (rowStores codec) ++ extra)).subnode
      field).bind codec.decode = node.bind codec.reread := by
  rw [ParsedNode.subnode_eq_getLast?, ParsedNode.stores, List.filterMap_append, hextra,
    List.append_nil, h.filterMap_rowStores hmem hfield, hvalue]
  · cases node with
    | none => rfl
    | some node =>
      simp [rowStores, hfield, Store.nodeOf, NodeCodec.reread]
  · intro store b hstore
    cases store with
    | node field' value =>
      by_cases hname : field' = field
      · exact .inr ⟨value, by rw [hname]⟩
      · simp [Store.nodeOf, hname] at hstore
    | _ => simp [Store.nodeOf] at hstore

end Members

/-! ## Writing the children -/

section Writing

/-- The child of a snippet, for what its member holds. -/
def rowOfMember (snippet : Snippet) : MemberValue α → Option (RowValue α)
  | .node value => value.map .node
  | value => (snippet.text value).map .text

/-- The child of a snippet, for the members of an object. -/
def rowValue (members : List (String × MemberValue α)) (snippet : Snippet) : Option (RowValue α) :=
  (snippet.field.bind (List.lookup · members)).bind (rowOfMember snippet)

/-- The snippet is for a member that holds such a value. -/
def suits (snippet : Snippet) : MemberValue α → Bool
  | .node _ => snippet.kind == .nodeInChild && snippet.className.isNone
  | .string _ | .integer _ | .boolean _ => snippet.kind == .content
  | _ => false

/-- The snippets with a member make at most one child each, in the namespace of its parent. -/
def suitsAll (snippets : List Snippet) (members : List (String × MemberValue α)) : Bool :=
  snippets.all fun snippet => !snippet.passedOver true && snippet.nsUri.isNone &&
    (snippet.field.bind (List.lookup · members)).all (suits snippet)

/-- The members, with the elements of the objects in them. -/
def encodeMembers (codec : NodeCodec α) (members : List (String × MemberValue α)) :
    List (String × MemberValue XmlNode) :=
  members.map fun member => (member.1, member.2.map codec.encode)

variable {members : List (String × MemberValue α)} {cls : WritableClass}

theorem suits_of_suitsAll (h : suitsAll snippets members = true) (hmem : snippet ∈ snippets) :
    snippet.passedOver true = false ∧ snippet.nsUri = none ∧
      ∀ value, snippet.field.bind (List.lookup · members) = some value →
        suits snippet value = true := by
  have hsnippet := List.all_eq_true.mp h snippet hmem
  simp only [Bool.and_eq_true, Bool.not_eq_true', Option.isNone_iff_eq_none] at hsnippet
  refine ⟨hsnippet.1.1, hsnippet.1.2, fun value hvalue => ?_⟩
  simpa [hvalue] using hsnippet.2

/-- The members that an object has fit its snippets. -/
theorem Fits.of_suitsAll (hplain : PlainSnippets snippets)
    (hnames : ∀ snippet ∈ snippets, snippet.name ≠ "" ∧ snippet.kind ≠ .textChild)
    (hfields : (snippets.filterMap (·.field)).Nodup) (h : suitsAll snippets members = true)
    (hreads : ∀ member ∈ members, ∀ node ∈ member.2.objects, codec.Reads R searchNs node) :
    Fits codec R searchNs snippets (rowValue members) := by
  refine ⟨hplain, hnames, hfields, ?_, ?_⟩
  · intro snippet hmem text hvalue
    obtain ⟨-, hns, hsuits⟩ := suits_of_suitsAll h hmem
    obtain ⟨value, hlookup, hrow⟩ := Option.bind_eq_some_iff.mp hvalue
    refine ⟨?_, hns⟩
    have hkind := hsuits value hlookup
    cases value with
    | node node => cases node <;> cases hrow
    | string _ | integer _ | boolean _ => exact beq_iff_eq.mp hkind
    | strings _ | nodes _ | xmlNode _ | xmlNodes _ => cases hkind
  · intro snippet hmem node hvalue
    obtain ⟨-, hns, hsuits⟩ := suits_of_suitsAll h hmem
    obtain ⟨value, hlookup, hrow⟩ := Option.bind_eq_some_iff.mp hvalue
    have hkind := hsuits value hlookup
    cases value with
    | node node' =>
      obtain ⟨rfl⟩ : node' = some node := by
        cases node' with
        | none => cases hrow
        | some node' => cases hrow; rfl
      obtain ⟨field, -, hfield⟩ := Option.bind_eq_some_iff.mp hlookup
      simp only [suits, Bool.and_eq_true, beq_iff_eq, Option.isNone_iff_eq_none] at hkind
      exact ⟨hkind.1, hns, hkind.2,
        hreads _ (NodeObject.mem_of_lookup hfield) node (by simp [MemberValue.objects])⟩
    | string value | integer value | boolean value =>
      obtain ⟨text, -, hrow⟩ := Option.map_eq_some_iff.mp hrow
      cases hrow
    | strings _ | nodes _ | xmlNode _ | xmlNodes _ => cases hkind

theorem snippetChildren_eq {value' : MemberValue α} (h : suits snippet value' = true)
    (ns : Option String) :
    snippetChildren ns snippet (value'.map codec.encode) =
      (rowOfMember snippet value').toList.map fun content =>
        rowElement codec ns (snippet, content) := by
  cases value' with
  | node node =>
    simp only [suits, Bool.and_eq_true, beq_iff_eq] at h
    cases node <;> simp [snippetChildren, h.1, MemberValue.map, rowOfMember, rowElement]
  | string value | integer value | boolean value =>
    have hkind : snippet.kind = .content := beq_iff_eq.mp h
    simp only [snippetChildren, hkind, MemberValue.map, rowOfMember, Option.toList_map,
      List.map_map]
    rfl
  | strings _ | nodes _ | xmlNode _ | xmlNodes _ => cases h

/-- The snippets that are written are those with a member. -/
theorem written_eq (hplain : PlainSnippets cls.snippets)
    (h : suitsAll cls.snippets members = true) :
    cls.written true (List.lookup · (encodeMembers codec members)) =
      cls.snippets.filterMap fun snippet =>
        ((snippet.field.bind (List.lookup · members)).map (·.map codec.encode)).map
          (snippet, ·) := by
  rw [WritableClass.written, LassoNodeClass.snippets, List.filterMap_flatMap]
  refine List.flatMap_congr fun table htable => ?_
  have hmem : ∀ {snippet}, snippet ∈ table.snippets → snippet ∈ cls.snippets := fun hsnippet =>
    List.mem_flatMap.mpr ⟨table, htable, hsnippet⟩
  rw [writtenSnippets_eq fun snippet hsnippet => hplain.jumpOnMatch snippet (hmem hsnippet)]
  refine List.filterMap_congr fun snippet hsnippet => ?_
  obtain ⟨hpassed, -, -⟩ := suits_of_suitsAll h (hmem hsnippet)
  congr 1
  cases snippet.field with
  | none => rfl
  | some field =>
    rw [Option.bind_some, Option.bind_some, encodeMembers, lookup_map_snd]
    cases List.lookup field members <;> simp [Option.filter, hpassed]

theorem snippetAttributes_eq_nil (nsDef : List XmlNs)
    {written : List (Snippet × MemberValue XmlNode)}
    (h : ∀ part ∈ written, part.1.kind ≠ .attribute) : snippetAttributes nsDef written = [] := by
  induction written with
  | nil => rfl
  | cons part written ih =>
    obtain ⟨hpart, hwritten⟩ := List.forall_mem_cons.mp h
    rw [snippetAttributes, if_neg hpart]
    exact ih hwritten

/-- The element of an object whose members make at most one child each. -/
theorem buildXmlNode_eq (hplain : PlainSnippets cls.snippets)
    (h : suitsAll cls.snippets members = true) (hsub : cls.data.xsiSubType = false)
    (hns : cls.nameData.ns ≠ some libHref) :
    buildXmlNode true cls (encodeMembers codec members) =
      .element cls.nameData.ns cls.nameData.nodeName []
        ((rows (rowValue members) cls.snippets).map (rowElement codec cls.nameData.ns)) := by
  have hliberty : cls.isLiberty11 (List.lookup · (encodeMembers codec members)) = false := by
    simp [WritableClass.isLiberty11, hns]
  have hkinds : ∀ part ∈ cls.written true (List.lookup · (encodeMembers codec members)),
      part.1.kind ≠ .attribute := by
    rw [written_eq hplain h]
    intro part hpart hkind
    obtain ⟨snippet, hmem, hpart⟩ := List.mem_filterMap.mp hpart
    obtain ⟨value', hvalue', rfl⟩ := Option.map_eq_some_iff.mp hpart
    obtain ⟨value, hvalue, rfl⟩ := Option.map_eq_some_iff.mp hvalue'
    obtain ⟨-, -, hsuits⟩ := suits_of_suitsAll h hmem
    have hsuit := hsuits value hvalue
    dsimp only at hkind
    cases value <;> simp [suits, hkind] at hsuit
  have hchildren : (cls.written true (List.lookup · (encodeMembers codec members))).flatMap
      (fun part => snippetChildren cls.nameData.ns part.1 part.2) =
        (rows (rowValue members) cls.snippets).map (rowElement codec cls.nameData.ns) := by
    rw [written_eq hplain h, rows, List.filterMap_eq_flatMap_toList,
      List.filterMap_eq_flatMap_toList, List.flatMap_assoc, List.map_flatMap]
    refine List.flatMap_congr fun snippet hmem => ?_
    obtain ⟨-, -, hsuits⟩ := suits_of_suitsAll h hmem
    cases hvalue : snippet.field.bind (List.lookup · members) with
    | none => simp [rowValue, hvalue]
    | some value =>
      simp only [rowValue, hvalue, Option.map_some, Option.toList_some, List.flatMap_singleton,
        Option.bind_some, snippetChildren_eq (hsuits value hvalue), Option.toList_map,
        List.map_map]
      rfl
  unfold buildXmlNode
  dsimp only
  rw [hliberty, snippetAttributes_eq_nil _ hkinds, hchildren]
  rw [XmlNode.rewriteLiberty_false]
  simp [WritableClass.xsiType, hsub]

end Writing

end Rows

end Lasso
