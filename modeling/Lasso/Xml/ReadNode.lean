import Lasso.Xml.ReadAttributes

/-!
# The element of an object, read

The element of an object of a plain class, read by the class. Its children come in the order of the
snippets, so each is taken by its own snippet or the element is refused.

## Main results

* `children_ordered` — the children come in the order of the snippets.
* `run_shown` — when the element is read without an error, and what it writes.
-/

namespace Lasso

open NodeObject

variable {R : Registry} {searchNs : NsScope} {initial : String → String → Int}
  {lassoDump rewritten : Bool} {cls : WritableClass}
  {members : List (String × MemberValue NodeObject)} {snippet : Snippet} {field : String}
  {value : MemberValue NodeObject}

/-! ## The children of a snippet -/

namespace Snippet.Types

theorem exists_strings (h : snippet.Types value) (hkind : snippet.kind = .listContent) :
    ∃ values, value = .strings values := by
  cases value with
  | strings values => exact ⟨values, rfl⟩
  | _ => simp [Snippet.Types, hkind] at h

theorem exists_node (h : snippet.Types value)
    (hkind : snippet.kind = .node ∨ snippet.kind = .nodeInChild) :
    ∃ node, value = .node node := by
  cases value with
  | node node => exact ⟨node, rfl⟩
  | _ => rcases hkind with hkind | hkind <;> simp [Snippet.Types, hkind] at h

theorem exists_nodes (h : snippet.Types value) (hkind : snippet.kind = .listNodes) :
    ∃ nodes, value = .nodes nodes := by
  cases value with
  | nodes nodes => exact ⟨nodes, rfl⟩
  | _ => simp [Snippet.Types, hkind] at h

end Snippet.Types

theorem Snippet.applyNs_newTextChild (hany : snippet.any = false) (hname : snippet.name ≠ "")
    (ns : Option String) (text : String) :
    snippet.applyNs (newTextChild ns snippet.name text) =
      newTextChild (snippet.nsUri.or ns) snippet.name text := by
  simp [applyNs, newTextChild, hany, hname]

theorem snippetChildren_attribute (hkind : snippet.kind = .attribute) (ns : Option String)
    (value : MemberValue XmlNode) : snippetChildren ns snippet value = [] := by
  simp [snippetChildren, hkind]

theorem snippetChildren_content (hkind : snippet.kind = .content) (ns : Option String) :
    snippetChildren ns snippet (value.map (getXmlNode lassoDump)) =
      (snippet.text value).toList.map (newTextChild ns snippet.name) := by
  simp [snippetChildren, hkind]

theorem snippetChildren_listContent (hplain : cls.Plain) (hmem : snippet ∈ cls.snippets)
    (hkind : snippet.kind = .listContent) (ns : Option String) (values : List String) :
    snippetChildren ns snippet (.strings values) =
      values.map (newTextChild (snippet.nsUri.or ns) snippet.name) := by
  have happly := Snippet.applyNs_newTextChild (hplain.snippets.any snippet hmem)
    (hplain.names snippet hmem).1
  simp [snippetChildren, hkind, happly]

/-- The objects of a member, with the names and namespaces that the snippet gives them. -/
theorem snippetChildren_objects (hplain : cls.Plain) (hmem : snippet ∈ cls.snippets)
    (hkind : snippet.kind = .node ∨ snippet.kind = .listNodes) (htypes : snippet.Types value)
    (ns : Option String) :
    snippetChildren ns snippet (value.map (getXmlNode lassoDump)) =
      value.objects.map fun child =>
        child.shown lassoDump false (snippet.nsUri.or child.ns) snippet.name := by
  have happly : ∀ child : NodeObject, snippet.applyNs (child.getXmlNode lassoDump) =
      child.shown lassoDump false (snippet.nsUri.or child.ns) snippet.name := by
    intro child
    rw [getXmlNode_eq, Snippet.applyNs_shown (hplain.snippets.any snippet hmem)
      (hplain.names snippet hmem).1]
  rcases hkind with hkind | hkind
  · obtain ⟨node, rfl⟩ := htypes.exists_node (.inl hkind)
    cases node <;> simp [snippetChildren, hkind, MemberValue.map, MemberValue.objects, happly]
  · obtain ⟨nodes, rfl⟩ := htypes.exists_nodes hkind
    simp [snippetChildren, hkind, MemberValue.map, MemberValue.objects, happly]

theorem snippetChildren_nodeInChild (hkind : snippet.kind = .nodeInChild)
    (htypes : snippet.Types value) (ns : Option String) :
    snippetChildren ns snippet (value.map (getXmlNode lassoDump)) =
      value.objects.map fun child => .element ns snippet.name []
        [child.shown lassoDump false child.ns child.cls.nameData.nodeName] := by
  obtain ⟨node, rfl⟩ := htypes.exists_node (.inr hkind)
  cases node <;> simp [snippetChildren, hkind, MemberValue.map, MemberValue.objects, getXmlNode_eq]

theorem elementNs_objects (hkind : snippet.kind = .node ∨ snippet.kind = .listNodes)
    (htypes : snippet.Types value) (ns : Option String) :
    snippet.elementNs ns value = value.objects.map (snippet.nsUri.or ·.ns) := by
  rcases hkind with hkind | hkind
  · obtain ⟨node, rfl⟩ := htypes.exists_node (.inl hkind)
    simp [Snippet.elementNs, hkind, MemberValue.objects]
  · obtain ⟨nodes, rfl⟩ := htypes.exists_nodes hkind
    simp [Snippet.elementNs, hkind, MemberValue.objects]

theorem elementNs_nodeInChild (hkind : snippet.kind = .nodeInChild)
    (htypes : snippet.Types value) (ns : Option String) :
    snippet.elementNs ns value = value.objects.map fun _ => ns := by
  obtain ⟨node, rfl⟩ := htypes.exists_node (.inr hkind)
  simp [Snippet.elementNs, hkind, MemberValue.objects]

/-- A child of a snippet is an element with its name, in one of its namespaces. -/
theorem map_ns_snippetChildren (hplain : cls.Plain) (hmem : snippet ∈ cls.snippets)
    (htypes : snippet.Types value) (ns : Option String) :
    (snippetChildren ns snippet (value.map (getXmlNode lassoDump))).map
      (fun node => (node.elementName, node.ns)) =
        (snippet.elementNs ns value).map (some snippet.name, ·) := by
  have hshown : ∀ (child : NodeObject) (rewritten : Bool) (ns : Option String) (name : String),
      ((child.shown lassoDump rewritten ns name).elementName,
        (child.shown lassoDump rewritten ns name).ns) = (some name, ns) := by
    rintro ⟨cls, members⟩ rewritten ns name
    rfl
  have hkinds := hplain.kinds snippet hmem
  simp only [List.mem_cons, List.not_mem_nil, or_false] at hkinds
  rcases hkinds with hkind | hkind | hkind | hkind | hkind | hkind
  · simp [snippetChildren, Snippet.elementNs, hkind]
  · simp only [snippetChildren_content hkind, Snippet.elementNs, hkind, List.map_map,
      Function.comp_def]
    rfl
  · obtain ⟨values, rfl⟩ := htypes.exists_strings hkind
    simp only [MemberValue.map, snippetChildren_listContent hplain hmem hkind, Snippet.elementNs,
      hkind, List.map_map, Function.comp_def]
    rfl
  · rw [snippetChildren_objects hplain hmem (.inl hkind) htypes,
      elementNs_objects (.inl hkind) htypes]
    simp [hshown]
  · rw [snippetChildren_objects hplain hmem (.inr hkind) htypes,
      elementNs_objects (.inr hkind) htypes]
    simp [hshown]
  · rw [snippetChildren_nodeInChild hkind htypes, elementNs_nodeInChild hkind htypes, List.map_map,
      List.map_map]
    rfl

/-! ## The children of an object -/

theorem mem_children (hplain : cls.Plain) {node : XmlNode} :
    (snippet, node) ∈ children lassoDump cls members ↔ ∃ field value,
      Member cls members snippet field value ∧ snippet.passedOver lassoDump = false ∧
        node ∈ snippetChildren cls.nameData.ns snippet (value.map (getXmlNode lassoDump)) := by
  unfold children
  rw [List.mem_flatMap]
  constructor
  · rintro ⟨⟨other, value⟩, hpart, hnode⟩
    obtain ⟨node', hnode', heq⟩ := List.mem_map.mp hnode
    obtain ⟨rfl, rfl⟩ := Prod.mk.inj heq
    obtain ⟨hmem, ⟨field, hfield, hvalue⟩, hpassed⟩ := hplain.mem_written.mp hpart
    exact ⟨field, value, ⟨hmem, hfield, hvalue⟩, hpassed, hnode'⟩
  · rintro ⟨field, value, ⟨hmem, hfield, hvalue⟩, hpassed, hnode⟩
    exact ⟨(snippet, value), hplain.mem_written.mpr ⟨hmem, ⟨field, hfield, hvalue⟩, hpassed⟩,
      List.mem_map.mpr ⟨node, hnode, rfl⟩⟩

theorem holdsNodes_of_kind (hplain : cls.Plain) (hmem : snippet ∈ cls.snippets)
    (hkind : snippet.kind ≠ .attribute) : snippet.holdsNodes = true := by
  have hkinds := hplain.kinds snippet hmem
  simp only [List.mem_cons, List.not_mem_nil, or_false] at hkinds
  have hname := (hplain.names snippet hmem).1
  rcases hkinds with hkind' | hkind' | hkind' | hkind' | hkind' | hkind'
  · exact absurd hkind' hkind
  all_goals simp [Snippet.holdsNodes, hplain.snippets.any snippet hmem, hname, hkind']

/-- A snippet that is no list has one child at most. -/
theorem length_snippetChildren (hplain : cls.Plain) (hmem : snippet ∈ cls.snippets)
    (htypes : snippet.Types value) (hmultiple : snippet.multiple = false) (ns : Option String) :
    (snippetChildren ns snippet (value.map (getXmlNode lassoDump))).length ≤ 1 := by
  have hoption : ∀ {α : Type} (o : Option α), o.toList.length ≤ 1 := by
    intro α o
    cases o <;> simp
  have hkinds := hplain.kinds snippet hmem
  simp only [List.mem_cons, List.not_mem_nil, or_false] at hkinds
  rcases hkinds with hkind | hkind | hkind | hkind | hkind | hkind
  · simp [snippetChildren_attribute hkind]
  · rw [snippetChildren_content hkind, List.length_map]
    exact hoption _
  · simp [Snippet.multiple, hkind] at hmultiple
  · obtain ⟨node, rfl⟩ := htypes.exists_node (.inl hkind)
    rw [snippetChildren_objects hplain hmem (.inl hkind) htypes, List.length_map]
    exact hoption _
  · simp [Snippet.multiple, hkind] at hmultiple
  · obtain ⟨node, rfl⟩ := htypes.exists_node (.inr hkind)
    rw [snippetChildren_nodeInChild hkind htypes, List.length_map]
    exact hoption _

/-- Every member is of the kind that its snippet describes. -/
def WellTyped (cls : WritableClass) (members : List (String × MemberValue NodeObject)) : Prop :=
  ∀ snippet field value, Member cls members snippet field value → snippet.Types value

/-- The children come in the order of the snippets. -/
theorem children_ordered (hplain : cls.Plain) (htyped : WellTyped cls members) :
    (children lassoDump cls members).Pairwise fun child child' =>
      child.1.Before cls.snippets child'.1 := by
  have horder : cls.snippets.Pairwise fun snippet other =>
      ∃ i j : Nat, i < j ∧ cls.snippets[i]? = some snippet ∧ cls.snippets[j]? = some other := by
    rw [List.pairwise_iff_getElem]
    intro i j hi hj hlt
    exact ⟨i, j, hlt, List.getElem?_eq_getElem hi, List.getElem?_eq_getElem hj⟩
  unfold children
  rw [List.pairwise_flatMap]
  constructor
  · rintro ⟨snippet, value⟩ hpart
    obtain ⟨hmem, ⟨field, hfield, hvalue⟩, -⟩ := hplain.mem_written.mp hpart
    rw [List.pairwise_map]
    cases hmultiple : snippet.multiple with
    | true =>
      refine List.pairwise_of_forall fun _ _ => .inl ⟨rfl, hmultiple⟩
    | false =>
      have hlength : (snippetChildren cls.nameData.ns snippet
          (value.map (getXmlNode lassoDump))).length ≤ 1 :=
        length_snippetChildren hplain hmem (htyped snippet field value ⟨hmem, hfield, hvalue⟩)
          hmultiple _
      match hchildren : snippetChildren cls.nameData.ns snippet
        (value.map (getXmlNode lassoDump)) with
      | [] => exact List.Pairwise.nil
      | [_] => exact List.pairwise_singleton _ _
      | _ :: _ :: _ => simp [hchildren] at hlength
  · have hsub : ((cls.written lassoDump (List.lookup · members)).map (·.1)).Sublist
        cls.snippets := hplain.written_sublist
    refine (List.pairwise_map.mp (horder.sublist hsub)).imp fun {part part'} hbefore => ?_
    intro child hchild child' hchild'
    obtain ⟨node, -, rfl⟩ := List.mem_map.mp hchild
    obtain ⟨node', -, rfl⟩ := List.mem_map.mp hchild'
    exact .inr hbefore

/-- The children of one snippet. -/
theorem children_filter (hplain : cls.Plain) (hmember : Member cls members snippet field value) :
    (children lassoDump cls members).filter (·.1 = snippet) =
      if snippet.passedOver lassoDump then []
      else (snippetChildren cls.nameData.ns snippet (value.map (getXmlNode lassoDump))).map
        (snippet, ·) := by
  have hfilter : ∀ part : Snippet × MemberValue NodeObject,
      ((snippetChildren cls.nameData.ns part.1 (part.2.map (getXmlNode lassoDump))).map
        (part.1, ·)).filter (·.1 = snippet) =
      if part.1 = snippet then
        (snippetChildren cls.nameData.ns part.1 (part.2.map (getXmlNode lassoDump))).map
          (part.1, ·)
      else [] := by
    intro part
    rw [List.filter_map]
    split
    · simp_all [Function.comp_def]
    · simp_all [Function.comp_def]
  obtain ⟨hmem, hfield, hvalue⟩ := hmember
  unfold children
  rw [List.filter_flatMap]
  simp only [hfilter]
  split
  · rename_i hpassed
    rw [List.flatMap_eq_nil_iff]
    rintro ⟨other, value'⟩ hpart
    rw [if_neg]
    rintro rfl
    simp [(hplain.mem_written.mp hpart).2.2] at hpassed
  · rename_i hpassed
    have hwritten : (snippet, value) ∈ cls.written lassoDump (List.lookup · members) :=
      hplain.mem_written.mpr ⟨hmem, ⟨field, hfield, hvalue⟩, by simpa using hpassed⟩
    have hnodup : (cls.written lassoDump (List.lookup · members)).Nodup :=
      List.Nodup.of_map _ (hplain.written_sublist.nodup hplain.nodup_snippets)
    rw [flatMap_eq_of_only hwritten hnodup, if_pos rfl]
    rintro ⟨other, value'⟩ hpart hne
    rw [if_neg]
    rintro rfl
    obtain ⟨-, ⟨field', hfield', hvalue'⟩, -⟩ := hplain.mem_written.mp hpart
    obtain rfl := Option.some.inj (hfield.symm.trans hfield')
    exact hne (by rw [Option.some.inj (hvalue.symm.trans hvalue')])

/-! ## Reading the element -/

/-- The children of the element at a place, each with the snippet that it was written for. -/
def childPlaces (lassoDump : Bool) (cls : WritableClass)
    (members : List (String × MemberValue NodeObject)) (place : PlacedNode) :
    List (Snippet × PlacedNode) :=
  ((children lassoDump cls members).map (·.1)).zip place.children

/-- What the attributes of the element write. -/
def attributeWrites (lassoDump rewritten : Bool) (cls : WritableClass)
    (members : List (String × MemberValue NodeObject)) (node : XmlNode) : List Store :=
  (snippetAttributes cls.nsDef (cls.written lassoDump (List.lookup · members))).flatMap fun attr =>
    attributeStores cls.toLassoNodeClass node
      (attr.rewriteLiberty (cls.rewrites rewritten members))

section Shown

variable {place : PlacedNode} {ns : Option String} {name : String}

theorem childPlaces_map_node
    (hnode : place.node = shown lassoDump rewritten ns name (.mk cls members)) :
    (childPlaces lassoDump cls members place).map (fun pair => (pair.1, pair.2.node)) =
      (children lassoDump cls members).map fun child =>
        (child.1, child.2.rewriteLiberty (cls.rewrites rewritten members)) := by
  have hchildren : place.children.map (·.node) = (children lassoDump cls members).map
      (·.2.rewriteLiberty (cls.rewrites rewritten members)) := by
    rw [PlacedNode.children, placeFrom_map_node, hnode]
    rfl
  calc (childPlaces lassoDump cls members place).map (fun pair => (pair.1, pair.2.node))
      = ((children lassoDump cls members).map (·.1)).zip (place.children.map (·.node)) :=
        List.zip_map_right.symm
    _ = ((children lassoDump cls members).map (·.1)).zip ((children lassoDump cls members).map
        (·.2.rewriteLiberty (cls.rewrites rewritten members))) := by rw [hchildren]
    _ = _ := List.zip_map'

theorem childPlaces_map_snd
    (hnode : place.node = shown lassoDump rewritten ns name (.mk cls members)) :
    (childPlaces lassoDump cls members place).map (·.2) = place.children := by
  refine List.map_snd_zip ?_
  have hlength : (place.children.map (·.node)).length = (children lassoDump cls members).length := by
    rw [PlacedNode.children, placeFrom_map_node, hnode, shown, XmlNode.children, List.length_map]
  rw [List.length_map] at hlength ⊢
  omega

theorem mem_childPlaces (hnode : place.node = shown lassoDump rewritten ns name (.mk cls members))
    {pair : Snippet × PlacedNode} (hpair : pair ∈ childPlaces lassoDump cls members place) :
    ∃ node, (pair.1, node) ∈ children lassoDump cls members ∧
      pair.2.node = node.rewriteLiberty (cls.rewrites rewritten members) := by
  have hmem : (pair.1, pair.2.node) ∈
      (childPlaces lassoDump cls members place).map fun pair => (pair.1, pair.2.node) :=
    List.mem_map_of_mem hpair
  rw [childPlaces_map_node hnode] at hmem
  obtain ⟨child, hchild, heq⟩ := List.mem_map.mp hmem
  obtain ⟨hfst, hsnd⟩ := Prod.mk.inj heq
  exact ⟨child.2, hfst ▸ hchild, hsnd.symm⟩

/-- What a child is: an element named after its snippet, in one of the namespaces of that. -/
theorem child_named (hplain : cls.Plain) (htyped : WellTyped cls members) {node : XmlNode}
    (hchild : (snippet, node) ∈ children lassoDump cls members) :
    snippet ∈ cls.snippets ∧ snippet.kind ≠ .attribute ∧
      ∃ ns attrs nodes, node = .element ns snippet.name attrs nodes := by
  obtain ⟨field, value, hmember, -, hnode⟩ := (mem_children hplain).mp hchild
  have hmem := List.mem_map_of_mem (f := fun node => (node.elementName, node.ns)) hnode
  rw [map_ns_snippetChildren hplain hmember.1 (htyped snippet field value hmember)] at hmem
  obtain ⟨ns, -, heq⟩ := List.mem_map.mp hmem
  refine ⟨hmember.1, ?_, ?_⟩
  · intro hkind
    simp [snippetChildren_attribute hkind] at hnode
  · cases node with
    | element ns name attrs nodes =>
      obtain rfl : snippet.name = name := by simpa [XmlNode.elementName] using (Prod.mk.inj heq).1
      exact ⟨ns, attrs, nodes, rfl⟩
    | _ => simp [XmlNode.elementName] at heq

theorem nodeMatchSnippet_eq_takes (hany : snippet.any = false) {parent node : XmlNode}
    (hname : node.elementName = some snippet.name) :
    nodeMatchSnippet parent node snippet = snippet.takes parent.ns node.ns := by
  simp [nodeMatchSnippet, Snippet.takes, hany, hname]

/-- A child place has an element that is named after its snippet. -/
theorem childPlaces_named (hplain : cls.Plain) (htyped : WellTyped cls members)
    (hnode : place.node = shown lassoDump rewritten ns name (.mk cls members))
    {pair : Snippet × PlacedNode} (hpair : pair ∈ childPlaces lassoDump cls members place) :
    IsNamedAfter cls.snippets pair.1 (pair.2.result R searchNs) := by
  obtain ⟨node, hchild, hplace⟩ := mem_childPlaces hnode hpair
  obtain ⟨hmem, hkind, ns', attrs, nodes, rfl⟩ := child_named hplain htyped hchild
  refine ⟨hmem, holdsNodes_of_kind hplain hmem hkind, ?_⟩
  rw [PlacedNode.result_node, hplace, XmlNode.rewriteLiberty_element]
  exact ⟨_, _, _, rfl⟩

theorem childPlaces_ordered (hplain : cls.Plain) (htyped : WellTyped cls members)
    (hnode : place.node = shown lassoDump rewritten ns name (.mk cls members)) :
    (childPlaces lassoDump cls members place).Pairwise fun pair pair' =>
      pair.1.Before cls.snippets pair'.1 := by
  have hpairs : ((childPlaces lassoDump cls members place).map
      fun pair => (pair.1, pair.2.node)).Pairwise fun child child' =>
        child.1.Before cls.snippets child'.1 := by
    rw [childPlaces_map_node hnode]
    exact List.pairwise_map.mpr (children_ordered hplain htyped)
  rw [List.pairwise_map] at hpairs
  exact hpairs

/-- The children are matched by their snippets if these take them in their namespaces. -/
theorem childPlaces_match_iff (hplain : cls.Plain) (htyped : WellTyped cls members)
    (hnode : place.node = shown lassoDump rewritten ns name (.mk cls members)) :
    (∀ pair ∈ childPlaces lassoDump cls members place,
      nodeMatchSnippet place.node (pair.2.result R searchNs).node pair.1 = true) ↔
      ∀ child ∈ children lassoDump cls members,
        child.1.takes ns (child.2.ns.map (libertyHref (cls.rewrites rewritten members))) = true := by
  have hns : place.node.ns = ns := by
    rw [hnode]
    rfl
  have hmatch : ∀ pair ∈ childPlaces lassoDump cls members place,
      nodeMatchSnippet place.node (pair.2.result R searchNs).node pair.1 =
        pair.1.takes ns pair.2.node.ns := by
    intro pair hpair
    have hnamed : IsNamedAfter cls.snippets pair.1 (pair.2.result R searchNs) :=
      childPlaces_named hplain htyped hnode hpair
    obtain ⟨hmem, -, ns', attrs, nodes, hchild⟩ := hnamed
    have hname : pair.2.node.elementName = some pair.1.name := by
      rw [PlacedNode.result_node] at hchild
      rw [hchild]
      rfl
    rw [PlacedNode.result_node, nodeMatchSnippet_eq_takes (hplain.snippets.any _ hmem) hname, hns]
  have hmap : (∀ child ∈ (childPlaces lassoDump cls members place).map
      fun pair => (pair.1, pair.2.node), child.1.takes ns child.2.ns = true) ↔
      ∀ child ∈ (children lassoDump cls members).map fun child =>
        (child.1, child.2.rewriteLiberty (cls.rewrites rewritten members)),
        child.1.takes ns child.2.ns = true := by
    rw [childPlaces_map_node hnode]
  rw [List.forall_mem_map, List.forall_mem_map] at hmap
  simp only [XmlNode.ns_rewriteLiberty] at hmap
  rw [← hmap]
  exact forall₂_congr fun pair hpair => by rw [hmatch pair hpair]

/-- The loop over the children of the element ends without an error if every child is taken. -/
theorem initChildren_shown (hplain : cls.Plain) (htyped : WellTyped cls members)
    (hnode : place.node = shown lassoDump rewritten ns name (.mk cls members))
    {stores : List Store} :
    initChildren cls.snippets cls.snippetAny place.node (nextNodeSnippet cls.snippets 0)
        (place.children.map (·.result R searchNs)) = .ok (.ok stores) ↔
      (∀ child ∈ children lassoDump cls members,
        child.1.takes ns (child.2.ns.map (libertyHref (cls.rewrites rewritten members))) = true) ∧
      Outcome.gather (fun pair => storeMatched pair.1 (pair.2.result R searchNs))
        (childPlaces lassoDump cls members place) = .ok stores := by
  have hresults : place.children.map (·.result R searchNs) =
      ((childPlaces lassoDump cls members place).map fun pair =>
        (pair.1, pair.2.result R searchNs)).map (·.2) := by
    rw [← childPlaces_map_snd hnode, List.map_map, List.map_map]
    rfl
  rw [hresults, initChildren_ordered hplain.snippets, Outcome.gather_map, List.forall_mem_map,
    childPlaces_match_iff hplain htyped hnode]
  · rw [List.forall_mem_map]
    exact fun pair hpair => childPlaces_named hplain htyped hnode hpair
  · rw [List.pairwise_map]
    exact childPlaces_ordered hplain htyped hnode
  · exact atRest_nextNodeSnippet
  · intro pair hpair i hi
    obtain ⟨pair', hpair', rfl⟩ := List.mem_map.mp hpair
    have hnamed : IsNamedAfter cls.snippets pair'.1 (pair'.2.result R searchNs) :=
      childPlaces_named hplain htyped hnode hpair'
    exact nextNodeSnippet_le hi hnamed.holdsNodes (Nat.zero_le i)

/-- The element is read without an error when the class accepts its name, has tables, and takes every
child; it writes what the attributes and the children do. -/
theorem run_shown (hplain : cls.Plain) (htyped : WellTyped cls members)
    (hscope : cls.data.xsiSubType = true → ':' ∉ cls.typeNs.1.toList ∧
      searchNs place.path cls.typeNs.1 = cls.data.ns)
    (hnode : place.node = shown lassoDump rewritten ns name (.mk cls members))
    {stores : List Store} :
    (ParseTask.mk cls.toLassoNodeClass place).run R searchNs = .ok (.ok stores) ↔
      cls.nameMismatch R (.element ns name [] []) = false ∧ cls.classList ≠ [] ∧
      (∀ child ∈ children lassoDump cls members,
        child.1.takes ns (child.2.ns.map (libertyHref (cls.rewrites rewritten members))) = true) ∧
      ∃ rest, Outcome.gather (fun pair => storeMatched pair.1 (pair.2.result R searchNs))
          (childPlaces lassoDump cls members place) = .ok rest ∧
        stores = attributeWrites lassoDump rewritten cls members place.node ++ rest := by
  obtain ⟨tail, hchain⟩ : ∃ tail, cls.chain = cls.data :: tail := by
    have hhead := cls.data_head
    cases hchain : cls.chain with
    | nil => simp [hchain] at hhead
    | cons data tail =>
      rw [hchain] at hhead
      exact ⟨tail, by rw [Option.some.inj hhead]⟩
  have hmismatch : cls.nameMismatch R place.node = cls.nameMismatch R (.element ns name [] []) := by
    rw [hnode]
    rfl
  have htext : textChildStores cls.toLassoNodeClass place.node = [] := by
    rw [textChildStores, List.filterMap_eq_nil_iff]
    intro snippet hsnippet
    have hmem : snippet ∈ cls.snippets := by
      simpa [LassoNodeClass.snippets, LassoNodeClass.classList] using hsnippet
    have hkinds := hplain.kinds snippet hmem
    rw [if_neg]
    intro hkind
    simp [beq_iff_eq.mp hkind] at hkinds
  have hattributes : collectAttributes searchNs cls.toLassoNodeClass cls.data place.path
      place.node = .ok (attributeWrites lassoDump rewritten cls members place.node) := by
    rw [attributeWrites, hnode]
    exact collectAttributes_shown hplain hscope ns name
  rw [ParseTask.run, initFromXml, hplain.impl]
  dsimp only
  rw [implInit, hchain]
  dsimp only
  rw [hmismatch, hattributes, htext]
  cases hname : cls.nameMismatch R (.element ns name [] []) with
  | true => simp [pure, Except.pure]
  | false =>
    by_cases htables : cls.classList = []
    · simp [htables, bind, Except.bind]
    · have hsome : ¬cls.classList.isEmpty = true := by simpa using htables
      constructor
      · intro h
        obtain ⟨attributes, hread, h⟩ := Outcome.bind_eq_ok.mp h
        obtain rfl := Except.ok.inj hread
        rw [if_neg hsome] at h
        obtain ⟨result, hresult, h⟩ := Outcome.bind_eq_ok.mp h
        obtain ⟨rest, rfl, rfl⟩ := map_append_eq_ok (Except.ok.inj h)
        obtain ⟨htakes, hgather⟩ := (initChildren_shown hplain htyped hnode).mp hresult
        exact ⟨rfl, htables, htakes, rest, hgather, rfl⟩
      · rintro ⟨-, -, htakes, rest, hgather, rfl⟩
        refine Outcome.bind_eq_ok.mpr ⟨_, rfl, ?_⟩
        rw [if_neg hsome]
        exact Outcome.bind_eq_ok.mpr
          ⟨_, (initChildren_shown hplain htyped hnode).mpr ⟨htakes, hgather⟩, rfl⟩

end Shown

end Lasso
