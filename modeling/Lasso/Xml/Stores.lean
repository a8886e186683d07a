import Lasso.Library.Search
import Lasso.Xml.Parse

/-!
# What a successful parse has written

## Main definitions

* `ParsedNode.content`, `ParsedNode.subnode`, `ParsedNode.subnodes` — the members of an object.

## Main results

* `implInit_eq_ok` — the parts of an object that was filled in.
* `initChildren_eq_ok` — every element has matched a snippet, and only elements have written.
* `content_eq_some_iff`, `subnode_eq_some` — the members of such an object.
-/

namespace Lasso

open Search

namespace ParsedNode

variable (object : ParsedNode) (field : String)

/-- A `char *` member. -/
def content : Option String :=
  lastSome (fun
    | .content field' value => if field' = field then some value else none
    | _ => none) none object.stores

/-- A `LassoNode *` member. -/
def subnode : Option ParsedNode :=
  (lastSome (fun
    | .node field' node => if field' = field then some node else none
    | _ => none) none object.stores).join

/-- A `GList *` member with objects. -/
def subnodes : List ParsedNode :=
  object.stores.filterMap fun
    | .node field' node => if field' = field then node else none
    | _ => none

theorem mem_subnodes {object node : ParsedNode} {field : String} :
    node ∈ object.subnodes field ↔ .node field (some node) ∈ object.stores := by
  rw [subnodes, List.mem_filterMap]
  constructor
  · rintro ⟨store, hmem, hstore⟩
    cases store with
    | node field' node' =>
      obtain ⟨rfl, rfl⟩ : field' = field ∧ node' = some node := by simpa using hstore
      exact hmem
    | _ => cases hstore
  · intro hmem
    exact ⟨_, hmem, by simp⟩

theorem content_mem {object : ParsedNode} {field value : String}
    (h : object.content field = some value) : .content field value ∈ object.stores := by
  obtain ⟨before, store, after, hstores, hstore, -⟩ := lastSome_eq_some h
  have hmem : store ∈ object.stores := by simp [hstores]
  cases store with
  | content field' value' =>
    obtain ⟨rfl, rfl⟩ : field' = field ∧ value' = value := by simpa using hstore
    exact hmem
  | _ => cases hstore

theorem content_eq_some_iff {object : ParsedNode} {field value : String}
    (hunique : ∀ value', .content field value' ∈ object.stores → value' = value) :
    object.content field = some value ↔ .content field value ∈ object.stores := by
  refine ⟨content_mem, fun hmem => lastSome_eq_of_unique ⟨_, hmem, by simp⟩ ?_⟩
  intro store hstore value' hvalue
  cases store with
  | content field' value'' =>
    obtain ⟨rfl, rfl⟩ : field' = field ∧ value'' = value' := by simpa using hvalue
    exact hunique _ hstore
  | _ => cases hvalue

theorem subnode_eq_some {object node : ParsedNode} {field : String}
    (hmem : .node field (some node) ∈ object.stores)
    (hunique : ∀ node', .node field node' ∈ object.stores → node' = some node) :
    object.subnode field = some node := by
  have hlast : lastSome (fun
      | .node field' node => if field' = field then some node else none
      | _ => none) none object.stores = some (some node) := by
    refine lastSome_eq_of_unique ⟨_, hmem, by simp⟩ ?_
    intro store hstore node' hnode
    cases store with
    | node field' node'' =>
      obtain ⟨rfl, rfl⟩ : field' = field ∧ node'' = node' := by simpa using hnode
      exact hunique _ hstore
    | _ => cases hnode
  rw [subnode, hlast, Option.join_some]

end ParsedNode

/-! ## What was written -/

section Parsed

variable {R : Registry} {searchNs : NsScope} {cls : LassoNodeClass} {snippets : List Snippet}
  {parent : XmlNode} {cursor : Nat}

/-- Making an object that comes back comes from filling it in. -/
theorem newWithType_eq_ok {place : PlacedNode} {typename : Option String}
    {result : Option ParsedNode} (hcls : classFor R searchNs place typename = some cls)
    (h : newWithType R searchNs place typename = .ok result) :
    ∃ rc, (ParseTask.mk cls place).run R searchNs = .ok rc ∧
      result = rc.toOption.map (.mk cls.name) := by
  rw [newWithType_eq, hcls] at h
  rcases hrun : (ParseTask.mk cls place).run R searchNs with fault | rc
  · simp [hrun, Functor.map, Except.map] at h
  · exact ⟨rc, rfl, by simpa [hrun, Functor.map, Except.map, eq_comm] using h⟩

/-- The parts of an object that `lasso_node_impl_init_from_xml` has filled in, or failed to. -/
theorem implInit_eq_ok {place : PlacedNode} {children : List ChildResult}
    {data : NodeClassData} {rest : List NodeClassData} {rc : Except Int (List Store)}
    (hchain : cls.chain = data :: rest) (hmatch : cls.nameMismatch R place.node = false)
    (h : implInit R searchNs cls place children = .ok rc) :
    ∃ attributes result,
      collectAttributes searchNs cls data place.path place.node = .ok attributes ∧
      initChildren cls.snippets cls.snippetAny place.node (nextNodeSnippet cls.snippets 0)
        children = .ok result ∧
      rc = result.map (textChildStores cls place.node ++ attributes ++ ·) := by
  unfold implInit at h
  rw [hchain] at h
  simp only [hmatch, Bool.false_eq_true, if_false] at h
  obtain ⟨attributes, hattributes, h⟩ := Outcome.bind_eq_ok.mp h
  split_ifs at h
  obtain ⟨result, hresult, h⟩ := Outcome.bind_eq_ok.mp h
  exact ⟨attributes, result, hattributes, hresult, (Except.ok.inj h).symm⟩

/-- A child that was stored as an object. -/
theorem storeMatched_node_eq_ok {snippet : Snippet} {child : PlacedNode} {field : String}
    {part : List Store} (hfield : snippet.field = some field)
    (hkind : snippet.kind = .node ∨ snippet.kind = .listNodes)
    (h : storeMatched snippet (child.result R searchNs) = .ok part) :
    ∃ result, newWithType R searchNs child snippet.className = .ok result ∧
      part = result.toList.map (.node field <| some ·) := by
  unfold storeMatched at h
  simp only [hfield] at h
  rcases hkind with hkind | hkind <;>
  · simp only [hkind] at h
    obtain ⟨result, hresult, h⟩ := Outcome.bind_eq_ok.mp h
    exact ⟨result, hresult, (Except.ok.inj h).symm⟩

/-- What a child has written: an element what the snippet that it matches stores, another node
nothing. -/
def WrotePart (R : Registry) (searchNs : NsScope) (snippets : List Snippet) (parent : XmlNode)
    (child : PlacedNode) (part : List Store) : Prop :=
  if child.node.isElement then
    ∃ snippet ∈ snippets, snippet.holdsNodes = true ∧
      nodeMatchSnippet parent child.node snippet = true ∧
      storeMatched snippet (child.result R searchNs) = .ok part
  else part = []

theorem map_append_eq_ok {part stores : List Store} {result : Except Int (List Store)}
    (h : result.map (part ++ ·) = .ok stores) :
    ∃ rest, result = .ok rest ∧ stores = part ++ rest := by
  rcases result with rc | rest
  · cases h
  · exact ⟨rest, rfl, (Except.ok.inj h).symm⟩

/-- Past the last snippet a class without a snippet for any node takes no element. -/
theorem initChildren_past (hend : ¬ cursor < snippets.length) (children : List ChildResult) :
    initChildren snippets none parent cursor children =
      .ok (if children.any (·.node.isElement) then .error 1 else .ok []) := by
  cases children with
  | nil => rfl
  | cons child children => rw [initChildren, if_neg hend, initLeftover]; rfl

theorem initChildren_past_eq_ok (hend : ¬ cursor < snippets.length) {children : List PlacedNode}
    {stores : List Store}
    (h : initChildren snippets none parent cursor (children.map (·.result R searchNs)) =
      .ok (.ok stores)) :
    stores = [] ∧ ∀ child ∈ children, child.node.isElement = false := by
  rw [initChildren_past hend] at h
  have h := Except.ok.inj h
  split_ifs at h with helement
  refine ⟨(Except.ok.inj h).symm, fun child hchild => ?_⟩
  simp only [List.any_map, List.any_eq_true, not_exists, not_and, Bool.not_eq_true,
    Function.comp_apply, PlacedNode.result_node] at helement
  exact helement child hchild

/-- The first child of a loop that succeeds. -/
theorem initChildren_cons_eq_ok (hrest : AtRest snippets cursor) {child : PlacedNode}
    {children : List PlacedNode} {stores : List Store}
    (h : initChildren snippets none parent cursor
      ((child :: children).map (·.result R searchNs)) = .ok (.ok stores)) :
    ∃ cursor₁ part rest, AtRest snippets cursor₁ ∧
      WrotePart R searchNs snippets parent child part ∧ stores = part ++ rest ∧
      initChildren snippets none parent cursor₁ (children.map (·.result R searchNs)) =
        .ok (.ok rest) := by
  by_cases hlive : cursor < snippets.length
  · rw [List.map_cons, initChildren, if_pos hlive, PlacedNode.result_node] at h
    cases hnode : child.node with
    | text content =>
      simp only [hnode] at h
      obtain ⟨part, hpart, h⟩ := Outcome.bind_eq_ok.mp h
      obtain ⟨result, hresult, h⟩ := Outcome.bind_eq_ok.mp h
      obtain ⟨rest, rfl, rfl⟩ := map_append_eq_ok (Except.ok.inj h)
      obtain rfl : part = [] := (Except.ok.inj hpart).symm
      exact ⟨cursor, [], rest, hrest, by simp [WrotePart, hnode, XmlNode.isElement], rfl, hresult⟩
    | comment content | pi target content =>
      simp only [hnode] at h
      exact ⟨cursor, [], stores, hrest, by simp [WrotePart, hnode, XmlNode.isElement], rfl, h⟩
    | cdata content => simp [hnode] at h
    | element ns name attrs nodes =>
      rw [hnode] at h
      dsimp only at h
      rw [← hnode] at h
      split at h
      · rename_i snippet cursor₁ hfind
        obtain ⟨hmem, hholds, hmatch, hrest₁⟩ := findSnippet_found hrest hfind
        obtain ⟨part, hpart, h⟩ := Outcome.bind_eq_ok.mp h
        obtain ⟨result, hresult, h⟩ := Outcome.bind_eq_ok.mp h
        obtain ⟨rest, rfl, rfl⟩ := map_append_eq_ok (Except.ok.inj h)
        refine ⟨cursor₁, part, rest, hrest₁, ?_, rfl, hresult⟩
        rw [WrotePart, hnode, XmlNode.isElement, if_pos rfl, ← hnode]
        exact ⟨snippet, hmem, hholds, hmatch, hpart⟩
      · cases Except.ok.inj h
      · cases h
  · obtain ⟨rfl, hnone⟩ := initChildren_past_eq_ok hlive h
    have hchild : WrotePart R searchNs snippets parent child [] := by
      simp [WrotePart, hnone child List.mem_cons_self]
    refine ⟨cursor, [], [], hrest, hchild, rfl, ?_⟩
    rw [initChildren_past hlive, if_neg]
    simp only [List.any_map, List.any_eq_true, not_exists, not_and, Bool.not_eq_true,
      Function.comp_apply, PlacedNode.result_node]
    exact fun other hother => hnone other (List.mem_cons_of_mem _ hother)

/-- In a class without a snippet for any node, a loop that succeeds has matched every element, and
keeps what the children have written and nothing else. -/
theorem initChildren_eq_ok (hrest : AtRest snippets cursor) {children : List PlacedNode}
    {stores : List Store}
    (h : initChildren snippets none parent cursor (children.map (·.result R searchNs)) =
      .ok (.ok stores)) :
    (∀ child ∈ children, ∃ part, WrotePart R searchNs snippets parent child part ∧
      part ⊆ stores) ∧
    ∀ store ∈ stores, ∃ child ∈ children, ∃ part,
      WrotePart R searchNs snippets parent child part ∧ store ∈ part := by
  induction children generalizing cursor stores with
  | nil =>
    obtain rfl : stores = [] := (Except.ok.inj (Except.ok.inj h)).symm
    simp
  | cons child children ih =>
    obtain ⟨cursor₁, part, rest, hrest₁, hpart, rfl, htail⟩ := initChildren_cons_eq_ok hrest h
    obtain ⟨hkept, honly⟩ := ih hrest₁ htail
    constructor
    · rw [List.forall_mem_cons]
      refine ⟨⟨part, hpart, List.subset_append_left ..⟩, fun other hother => ?_⟩
      obtain ⟨part', hpart', hsub⟩ := hkept other hother
      exact ⟨part', hpart', List.Subset.trans hsub (List.subset_append_right ..)⟩
    · intro store hstore
      rcases List.mem_append.mp hstore with hmem | hmem
      · exact ⟨child, List.mem_cons_self, part, hpart, hmem⟩
      · obtain ⟨other, hother, hwrote⟩ := honly store hmem
        exact ⟨other, List.mem_cons_of_mem _ hother, hwrote⟩

/-- A loop in which every element matches without moving the cursor does not fail. -/
theorem initChildren_stays (hlive : cursor < snippets.length) {children : List PlacedNode}
    {rc : Except Int (List Store)}
    (hstays : ∀ child ∈ children, child.node.isElement = true →
      ∃ snippet, findSnippet snippets parent child.node (snippets.length + 1) cursor =
        .found snippet cursor)
    (h : initChildren snippets none parent cursor (children.map (·.result R searchNs)) = .ok rc) :
    ∃ stores, rc = .ok stores := by
  induction children generalizing rc with
  | nil => exact ⟨[], (Except.ok.inj h).symm⟩
  | cons child children ih =>
    obtain ⟨hchild, hothers⟩ := List.forall_mem_cons.mp hstays
    have hrest : ∀ x : Except Fault (List Store),
        (x >>= fun stores => initChildren snippets none parent cursor
          (children.map (·.result R searchNs)) >>= fun rest => pure (rest.map (stores ++ ·))) =
          .ok rc → ∃ stores, rc = .ok stores := by
      intro x h
      obtain ⟨part, -, h⟩ := Outcome.bind_eq_ok.mp h
      obtain ⟨result, hresult, h⟩ := Outcome.bind_eq_ok.mp h
      obtain ⟨stores, rfl⟩ := ih hothers hresult
      exact ⟨_, (Except.ok.inj h).symm⟩
    rw [List.map_cons, initChildren, if_pos hlive, PlacedNode.result_node] at h
    cases hnode : child.node with
    | text content =>
      rw [hnode] at h
      exact hrest _ h
    | comment content | pi target content =>
      rw [hnode] at h
      exact ih hothers h
    | cdata content => simp [hnode] at h
    | element ns name attrs nodes =>
      rw [hnode] at h hchild
      obtain ⟨snippet, hfind⟩ := hchild rfl
      dsimp only at h
      rw [hfind] at h
      exact hrest _ h

/-! ## Objects under a name -/

/-- The snippet stores objects under its name, and no other snippet for nodes has the name or
stores under it. -/
structure StoresUnder (snippets : List Snippet) (target : Snippet) : Prop where
  kind : target.kind = .node ∨ target.kind = .listNodes
  field : target.field = some target.name
  className : target.className = none
  nsUri : target.nsUri = none
  only : ∀ snippet ∈ snippets, snippet.holdsNodes = true → snippet.any = false ∧
    (snippet.name = target.name ∨ snippet.field = some target.name → snippet = target)

theorem storeMatched_field {snippet : Snippet} {child : ChildResult} {part : List Store}
    {field : String} {node : Option ParsedNode} (h : storeMatched snippet child = .ok part)
    (hmem : .node field node ∈ part) : snippet.field = some field := by
  unfold storeMatched at h
  cases hfield : snippet.field with
  | none =>
    rw [hfield] at h
    obtain rfl : part = [] := (Except.ok.inj h).symm
    cases hmem
  | some field' =>
    simp only [hfield] at h
    split at h
    · obtain ⟨result, -, h⟩ := Outcome.bind_eq_ok.mp h
      obtain rfl := Except.ok.inj h
      obtain ⟨object, -, heq⟩ := List.mem_map.mp hmem
      rw [(Store.node.inj heq).1]
    · obtain ⟨result, -, h⟩ := Outcome.bind_eq_ok.mp h
      obtain rfl := Except.ok.inj h
      obtain ⟨object, -, heq⟩ := List.mem_map.mp hmem
      rw [(Store.node.inj heq).1]
    · split at h
      · obtain rfl := Except.ok.inj h
        cases hmem
      · obtain ⟨result, -, h⟩ := Outcome.bind_eq_ok.mp h
        obtain rfl := Except.ok.inj h
        rw [(Store.node.inj (List.mem_singleton.mp hmem)).1]
    all_goals cases h
    all_goals simp at hmem

theorem nodeMatchSnippet_iff {snippet : Snippet} {node : XmlNode} {ns : String}
    (hany : snippet.any = false) (hns : snippet.nsUri = none) (hparent : parent.ns = some ns) :
    nodeMatchSnippet parent node snippet = true ↔ node.isElementNode snippet.name ns = true := by
  cases node with
  | element ns' name attrs children =>
    rw [nodeMatchSnippet, hparent, hany, hns]
    cases ns' with
    | none => simp [equalNamespace, XmlNode.ns, XmlNode.isElementNode]
    | some ns' =>
      simp only [equalNamespace, XmlNode.ns, XmlNode.elementName, XmlNode.isElementNode]
      grind
  | _ => simp [nodeMatchSnippet, hany, XmlNode.elementName, XmlNode.isElementNode]

/-- An element with the name has been stored by the snippet of the name. -/
theorem snippet_of_wrotePart {target : Snippet} (htarget : StoresUnder snippets target)
    {ns : String} {child : PlacedNode} {part : List Store}
    (hname : child.node.isElementNode target.name ns = true)
    (hwrote : WrotePart R searchNs snippets parent child part) :
    storeMatched target (child.result R searchNs) = .ok part := by
  obtain ⟨attrs, nodes, hnode⟩ := XmlNode.isElementNode_iff.mp hname
  rw [WrotePart, if_pos (by simp [hnode, XmlNode.isElement])] at hwrote
  obtain ⟨snippet, hsnippet, hholds, hmatch, hpart⟩ := hwrote
  obtain ⟨hany, huniq⟩ := htarget.only snippet hsnippet hholds
  have helement : child.node.elementName = some snippet.name := by
    simp only [nodeMatchSnippet, hany, Bool.false_or, Bool.and_eq_true, beq_iff_eq] at hmatch
    exact hmatch.1
  have hsame : snippet.name = target.name := by
    simpa [hnode, XmlNode.elementName, eq_comm] using helement
  rwa [huniq (.inl hsame)] at hpart

/-- The objects stored under a name are those made of the elements with the name. -/
theorem mem_stored_iff {target : Snippet} (htarget : StoresUnder snippets target) {ns : String}
    (hparent : parent.ns = some ns) (hrest : AtRest snippets cursor) {children : List PlacedNode}
    {stores : List Store}
    (h : initChildren snippets none parent cursor (children.map (·.result R searchNs)) =
      .ok (.ok stores)) (node : Option ParsedNode) :
    .node target.name node ∈ stores ↔
      ∃ child ∈ children, child.node.isElementNode target.name ns = true ∧ node.isSome = true ∧
        newWithType R searchNs child none = .ok node := by
  obtain ⟨hkept, honly⟩ := initChildren_eq_ok hrest h
  constructor
  · intro hstore
    obtain ⟨child, hchild, part, hwrote, hmem⟩ := honly _ hstore
    unfold WrotePart at hwrote
    split_ifs at hwrote with helement
    · obtain ⟨snippet, hsnippet, hholds, hmatch, hpart⟩ := hwrote
      obtain ⟨hany, huniq⟩ := htarget.only snippet hsnippet hholds
      obtain rfl : snippet = target := huniq (.inr (storeMatched_field hpart hmem))
      obtain ⟨result, hnew, rfl⟩ := storeMatched_node_eq_ok htarget.field htarget.kind hpart
      obtain ⟨object, hobject, heq⟩ := List.mem_map.mp hmem
      obtain rfl := (Store.node.inj heq).2
      rw [htarget.className] at hnew
      refine ⟨child, hchild, (nodeMatchSnippet_iff hany htarget.nsUri hparent).mp hmatch, rfl, ?_⟩
      rw [hnew, Option.mem_toList.mp hobject]
    · rw [hwrote] at hmem
      cases hmem
  · rintro ⟨child, hchild, hname, hsome, hnew⟩
    obtain ⟨part, hwrote, hsub⟩ := hkept child hchild
    have hpart := snippet_of_wrotePart htarget hname hwrote
    obtain ⟨result, hresult, rfl⟩ := storeMatched_node_eq_ok htarget.field htarget.kind hpart
    rw [htarget.className, hnew] at hresult
    obtain rfl := Except.ok.inj hresult
    obtain ⟨object, rfl⟩ := Option.isSome_iff_exists.mp hsome
    exact hsub (by simp)

/-- An element with the name has been made an object, or failed to be one. -/
theorem answered_of_stored {target : Snippet} (htarget : StoresUnder snippets target) {ns : String}
    (hrest : AtRest snippets cursor) {children : List PlacedNode} {stores : List Store}
    (h : initChildren snippets none parent cursor (children.map (·.result R searchNs)) =
      .ok (.ok stores)) {child : PlacedNode} (hchild : child ∈ children)
    (hname : child.node.isElementNode target.name ns = true) :
    ∃ result, newWithType R searchNs child none = .ok result := by
  obtain ⟨part, hwrote, hsub⟩ := (initChildren_eq_ok hrest h).1 child hchild
  obtain ⟨result, hresult, -⟩ := storeMatched_node_eq_ok htarget.field htarget.kind
    (snippet_of_wrotePart htarget hname hwrote)
  rw [htarget.className] at hresult
  exact ⟨result, hresult⟩

end Parsed

end Lasso
