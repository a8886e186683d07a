import Lasso.IdWsf.Answers
import Lasso.Library.TreeEdit

/-!
# One modification of the resource of a data service

New data replace the node that a modification selects, or are appended to it; without new data the
selected nodes are removed. The new nodes that replace a node are put behind it one after the other,
each of them directly behind it, so that they come in the reverse order; and libxml2 joins a text
with a text that it is put next to.

## Main definitions

* `IdWsf.xmlAddNextSibling`, `IdWsf.xmlAddChild`, `IdWsf.xmlUnlinkNodes` — the functions of libxml2.
* `IdWsf.applyModification` — the function of `data_service.c`.
* `IdWsf.specified` — what a modification is for.

## Main results

* `IdWsf.keepsMeaning_iff` — when that is what it does.
-/

namespace Lasso

namespace IdWsf

open TreeEdit

/-! ## Documents -/

/-- The type of a node, with its name or its content. -/
inductive NodeType where
  | document
  | element (ns : Option String) (name : String)
  | attribute (ns : Option String) (name : String)
  | text (content : String)
  | cdata (content : String)
  | comment (content : String)
  | pi (target content : String)
deriving DecidableEq

namespace NodeType

def isElement : NodeType → Bool
  | element .. => true
  | _ => false

def isText : NodeType → Bool
  | text _ => true
  | _ => false

/-- `content`, which is `NULL` for some types. -/
def content : NodeType → String
  | text content | cdata content | comment content | pi _ content => content
  | _ => ""

end NodeType

/-- `xmlNode`, of which `xmlAttr` and `xmlDoc` are variants. -/
abbrev DocNode := OrdTree NodeType

/-- The root element of a document. -/
abbrev RootElement := { node : DocNode // node.label.isElement = true }

/-- A document for resource data. -/
def document (data : Option RootElement) : DocNode :=
  .mk .document [] (data.toList.map (·.val))

/-- Where a root element stands in a document. -/
def rootPath : NodePath := [⟨.child, 0⟩]

/-- What an XPath expression designates: a node of the document, or a namespace, which is given as a
copy. -/
inductive XPathNode where
  | node (path : NodePath)
  | namespaceNode

def XPathNode.path? : XPathNode → Option NodePath
  | node path => some path
  | namespaceNode => none

/-- `xmlDocGetRootElement` -/
def xmlDocGetRootElement (doc : DocNode) : Option RootElement :=
  (doc.list .child).findSome? fun node =>
    if h : node.label.isElement = true then some ⟨node, h⟩ else none

/-- `xmlDocSetRootElement` -/
def xmlDocSetRootElement (root : DocNode) (doc : DocNode) : DocNode :=
  doc.mapList .child fun nodes =>
    match nodes.findIdx? (·.label.isElement) with
    | some i => nodes.set i root
    | none => nodes ++ [root]

/-- `xmlUnlinkNode`, for all nodes of a set. -/
def xmlUnlinkNodes (targets : List XPathNode) (doc : DocNode) : DocNode :=
  removeEach (targets.filterMap (·.path?)) some doc

/-- `xmlNodeAddContent` of a text -/
def addContent (content : String) : DocNode → DocNode
  | .mk (.text text) attributes children => .mk (.text (text ++ content)) attributes children
  | node => node

/-- The node behind place `i`, in a list of children: a text is joined with the one at place `i`. -/
def addNext (new : DocNode) (i : Nat) (nodes : List DocNode) : List DocNode :=
  match nodes[i]? with
  | none => nodes
  | some target =>
    if target.label.isText && new.label.isText then
      nodes.set i (addContent new.label.content target)
    else nodes.insertIdx (i + 1) new

/-- `xmlAddNextSibling`. Behind a namespace or the document a node is in no document; behind an
attribute it is taken for another attribute. -/
def xmlAddNextSibling (target : XPathNode) (new doc : DocNode) : Except Fault DocNode :=
  match target with
  | .namespaceNode => .ok doc
  | .node path =>
    match path.getLast? with
    | none => .ok doc
    | some ⟨.attr, _⟩ => .error .misread
    | some ⟨.child, _⟩ => .ok (editSiblings (addNext new) path doc)

/-- A node at the end of a list of children: a text is joined with a last text. -/
def addLast (children : List DocNode) (new : DocNode) : List DocNode :=
  match children.getLast? with
  | none => children ++ [new]
  | some last =>
    if last.label.isText && new.label.isText then
      children.dropLast ++ [addContent new.label.content last]
    else children ++ [new]

/-- What becomes of the parent. A text has no children: it only takes the content of the node. -/
def addChild (parent new : DocNode) : DocNode :=
  if parent.label.isText then addContent new.label.content parent
  else parent.mapList .child (addLast · new)

/-- `xmlAddChild` -/
def xmlAddChild (target : XPathNode) (new doc : DocNode) : DocNode :=
  match target with
  | .namespaceNode => doc
  | .node path => edit (addChild · new) path doc

/-! ## Modifications -/

/-- `LassoDstModification`, with the nodes of its NewData. -/
structure DstModification where
  select : Option String
  newData : Option (List DocNode) := none
  id : Option String := none
  overrideAllowed : Bool := false

/-- `LassoDstModifyResponse`, with the codes of its status, from the outermost one on. -/
structure DstModifyResponse where
  status : List String

/-- The evaluation of XPath expressions in documents. -/
structure ModifyContext where
  /-- `lasso_eval_xpath_expression` -/
  evalXPath : DocNode → String → XPathResult XPathNode

/-- New data for a node: the document that becomes of `document data`, or a failure code. -/
def applyNewData (overrideAllowed : Bool) (data : Option RootElement) (target : XPathNode)
    (newNodes : List DocNode) : Except Fault (Except String DocNode) :=
  let doc := document data
  if target.path? = some rootPath ∧ data.isSome ∧ overrideAllowed then
    match newNodes with
    | [] => .error .nullPointer
    | [node] => .ok (.ok (xmlDocSetRootElement node doc))
    | _ :: _ :: _ => .ok (.error "cannot replace root node by multiple nodes")
  else if overrideAllowed then do
    let doc ← newNodes.foldlM (fun doc new => xmlAddNextSibling target new doc) doc
    return .ok (xmlUnlinkNodes [target] doc)
  else .ok (.ok (newNodes.foldl (fun doc new => xmlAddChild target new doc) doc))

section

variable (cx : ModifyContext)

/-- The document after a modification, or a failure code. An expression that cannot be evaluated
leaves the document alone. -/
def modifyDocument (modification : DstModification) (data : Option RootElement) :
    Except Fault (Except String DocNode) :=
  match modification.select with
  | none => .ok (.error "MissingSelect")
  | some select =>
    if (modification.newData.getD []).isEmpty && !modification.overrideAllowed then
      .ok (.error "MissingNewDataElement")
    else
      match cx.evalXPath (document data) select with
      | .error _ => .ok (.ok (document data))
      | .value _ => .ok (.error "InvalidSelect")
      | .nodes [] => .ok (.error "too few or too much targets")
      | .nodes (target :: targets) =>
        match modification.newData with
        | none => .ok (.ok (xmlUnlinkNodes (target :: targets) (document data)))
        | some newNodes =>
          if targets.isEmpty then
            applyNewData modification.overrideAllowed data target newNodes
          else .ok (.error "too few or too much targets")

/-- `lasso_data_service_apply_modification`: the code, the response, and the resource data. -/
def applyModification (modification : DstModification) (response : DstModifyResponse)
    (data : Option RootElement) : Except Fault (Rc × DstModifyResponse × Option RootElement) := do
  match ← modifyDocument cx modification data with
  | .ok doc => return (.ok, response, xmlDocGetRootElement doc)
  | .error failureCode =>
    return (.dst .modifyFailed, { status := ["Failed", failureCode] }, data)

end

/-! ## What a modification is for -/

/-- The nodes take the place of the node at a path. -/
def replaceNode (new : List DocNode) : NodePath → DocNode → DocNode :=
  editSiblings fun i nodes => nodes.take i ++ new ++ nodes.drop (i + 1)

/-- The nodes come behind the children of the node at a path. -/
def appendNodes (new : List DocNode) : NodePath → DocNode → DocNode :=
  edit (·.mapList .child (· ++ new))

/-- The document that is asked for, given the paths of the designated nodes. -/
def specified (modification : DstModification) (paths : List NodePath) (doc : DocNode) : DocNode :=
  match modification.newData, paths with
  | none, paths => prune (fun path => decide (path ∈ paths)) doc
  | some _, [] => doc
  | some new, path :: _ =>
    if modification.overrideAllowed then replaceNode new path doc else appendNodes new path doc

/-- When zero is returned, the resource data are as specified. What is read as a node of another
type is no resource data at all. -/
def KeepsMeaning (cx : ModifyContext) (modification : DstModification)
    (response : DstModifyResponse) (root : RootElement) (paths : List NodePath) : Prop :=
  match applyModification cx modification response (some root) with
  | .ok (rc, _, data) => rc = .ok →
    data.toList.map (·.val) =
      (specified modification paths (document (some root))).list .child
  | .error fault => fault ≠ .misread

/-- No text comes next to another one. -/
def Apart (nodes : List DocNode) : Prop :=
  nodes.IsChain fun a b => (a.label.isText && b.label.isText) = false

/-- Nothing is lost, joined or turned round: the new root is an element; there are no nodes for an
attribute; nodes that replace another one are the same in both directions, and no texts if that one
is a text; nodes are not appended to a text, and no text next to another one. -/
def GoesWell (overrideAllowed : Bool) (new : List DocNode) (path : NodePath) (target : DocNode) :
    Prop :=
  if overrideAllowed then
    if path = rootPath then ∀ node, new = [node] → node.label.isElement = true
    else if path.getLast?.map (·.branch) = some .attr then new = []
    else (new.filter fun node => !(target.label.isText && node.label.isText)).reverse = new
  else new ≠ [] →
    target.label.isText = false ∧ Apart ((target.list .child).getLast?.toList ++ new)

/-! ## Lists of siblings -/

theorem isText_addContent (content : String) (node : DocNode) :
    (addContent content node).label.isText = node.label.isText := by
  unfold addContent
  split <;> rfl

theorem addNext_split (before after : List DocNode) (target new : DocNode) :
    addNext new before.length (before ++ target :: after) =
      if target.label.isText && new.label.isText then
        before ++ addContent new.label.content target :: after
      else before ++ target :: new :: after := by
  have htarget : (before ++ target :: after)[before.length]? = some target := by simp
  unfold addNext
  rw [htarget]
  dsimp only
  split_ifs with htexts
  · simp
  · induction before with
    | nil => rfl
    | cons first before ih => simpa using ih (by simp)

/-- The nodes that are put directly behind another one come in the reverse order, without those that
are joined with it. -/
theorem foldl_addNext (before after : List DocNode) (target : DocNode) (new : List DocNode) :
    ∃ joined : DocNode, new.foldl (fun nodes node => addNext node before.length nodes)
        (before ++ target :: after) =
      before ++ joined ::
        ((new.filter fun node => !(target.label.isText && node.label.isText)).reverse ++
          after) := by
  induction new generalizing target after with
  | nil => exact ⟨target, rfl⟩
  | cons node new ih =>
    rw [List.foldl_cons, addNext_split]
    by_cases htexts : (target.label.isText && node.label.isText) = true
    · obtain ⟨joined, h⟩ := ih after (addContent node.label.content target)
      refine ⟨joined, ?_⟩
      rw [if_pos htexts, h, isText_addContent, List.filter_cons_of_neg (by simp [htexts])]
    · obtain ⟨joined, h⟩ := ih (node :: after) target
      refine ⟨joined, ?_⟩
      rw [if_neg htexts, h, List.filter_cons_of_pos (by simp [htexts])]
      simp

/-- Without the node itself, they are as they should be just if they are the same in both
directions. -/
theorem eraseIdx_foldl_addNext (before after : List DocNode) (target : DocNode)
    (new : List DocNode) :
    (new.foldl (fun nodes node => addNext node before.length nodes)
        (before ++ target :: after)).eraseIdx before.length =
        (before ++ target :: after).take before.length ++ new ++
          (before ++ target :: after).drop (before.length + 1) ↔
      (new.filter fun node => !(target.label.isText && node.label.isText)).reverse = new := by
  obtain ⟨joined, hjoined⟩ := foldl_addNext before after target new
  rw [hjoined, List.eraseIdx_append_of_length_le (Nat.le_refl _)]
  simp

theorem apart_cons_cons {last node : DocNode} {nodes : List DocNode} :
    Apart (last :: node :: nodes) ↔
      (last.label.isText && node.label.isText) = false ∧ Apart (node :: nodes) :=
  List.isChain_cons_cons

theorem addLast_length (children : List DocNode) (new : DocNode) :
    (addLast children new).length ≤ children.length + 1 := by
  unfold addLast
  cases children.getLast? with
  | none => simp
  | some last =>
    dsimp only
    split_ifs <;> simp

theorem foldl_addLast_length (new children : List DocNode) :
    (new.foldl addLast children).length ≤ children.length + new.length := by
  induction new generalizing children with
  | nil => simp
  | cons node new ih =>
    have hlast := addLast_length children node
    have hrest := ih (addLast children node)
    rw [List.foldl_cons, List.length_cons]
    omega

/-- The nodes are appended as they are just if no two texts come together. -/
theorem foldl_addLast_eq_append (new children : List DocNode) :
    new.foldl addLast children = children ++ new ↔
      Apart (children.getLast?.toList ++ new) := by
  induction new generalizing children with
  | nil => cases h : children.getLast? <;> simp [Apart]
  | cons node new ih =>
    rw [List.foldl_cons]
    cases hlast : children.getLast? with
    | none =>
      obtain rfl := List.getLast?_eq_none_iff.mp hlast
      exact ih [node]
    | some last =>
      by_cases htexts : (last.label.isText && node.label.isText) = true
      · refine iff_of_false (fun heq => ?_) ?_
        · -- a joined text is missing
          have hadd : addLast children node =
              children.dropLast ++ [addContent node.label.content last] := by
            unfold addLast
            rw [hlast]
            exact if_pos htexts
          have hlength := foldl_addLast_length new (addLast children node)
          have hne : children ≠ [] := by
            rintro rfl
            cases hlast
          have hpos := List.length_pos_iff.mpr hne
          rw [heq, hadd] at hlength
          simp only [List.length_append, List.length_cons, List.length_dropLast,
            List.length_nil] at hlength
          omega
        · rw [Option.toList_some, List.singleton_append, apart_cons_cons, htexts]
          simp
      · have hadd : addLast children node = children ++ [node] := by
          unfold addLast
          rw [hlast]
          exact if_neg htexts
        have hnode : (children ++ [node]).getLast? = some node := by simp
        have hih := ih (children ++ [node])
        rw [hnode, List.append_assoc] at hih
        rw [hadd, Option.toList_some, List.singleton_append, apart_cons_cons,
          Bool.eq_false_iff.mpr htexts]
        simpa using hih

/-! ## Parents -/

/-- What is added to a text is joined with it. -/
theorem foldl_addChild_text {parent : DocNode} (h : parent.label.isText = true)
    (new : List DocNode) : (new.foldl addChild parent).list .child = parent.list .child := by
  induction new generalizing parent with
  | nil => rfl
  | cons node new ih =>
    have hadd : addChild parent node = addContent node.label.content parent := if_pos h
    rw [List.foldl_cons, hadd, ih ((isText_addContent _ parent).trans h)]
    unfold addContent
    split <;> rfl

theorem foldl_addChild {parent : DocNode} (h : parent.label.isText = false) (new : List DocNode) :
    new.foldl addChild parent = parent.mapList .child (new.foldl addLast ·) := by
  induction new generalizing parent with
  | nil => exact (parent.mapList_id .child).symm
  | cons node new ih =>
    have hadd : addChild parent node = parent.mapList .child (addLast · node) :=
      if_neg (by simp [h])
    rw [List.foldl_cons, hadd, ih (by simpa using h), OrdTree.mapList_mapList]
    rfl

theorem foldl_addChild_eq {parent : DocNode} {new : List DocNode} (hnew : new ≠ []) :
    new.foldl addChild parent = parent.mapList .child (· ++ new) ↔
      parent.label.isText = false ∧ Apart ((parent.list .child).getLast?.toList ++ new) := by
  cases htext : parent.label.isText with
  | true =>
    refine iff_of_false (fun heq => ?_) (by simp)
    have hchildren := congrArg (OrdTree.list .child) heq
    rw [foldl_addChild_text htext] at hchildren
    have happend : (parent.mapList .child (· ++ new)).list .child = parent.list .child ++ new := by
      cases parent
      rfl
    rw [happend, List.self_eq_append_right] at hchildren
    exact hnew hchildren
  | false =>
    rw [foldl_addChild htext, OrdTree.mapList_inj, foldl_addLast_eq_append]
    simp

theorem isElement_foldl_addChild (new : List DocNode) {parent : DocNode}
    (h : parent.label.isElement = true) :
    (new.foldl addChild parent).label.isElement = true := by
  have htext : parent.label.isText = false := by
    cases hlabel : parent.label <;> simp_all [NodeType.isElement, NodeType.isText]
  rw [foldl_addChild htext, OrdTree.label_mapList]
  exact h

/-! ## Documents with a root element -/

theorem toList_xmlDocGetRootElement (nodes : List DocNode) (h : nodes.length ≤ 1) :
    (xmlDocGetRootElement (.mk .document [] nodes)).toList.map (·.val) =
      nodes.filter (·.label.isElement) := by
  match nodes, h with
  | [], _ => rfl
  | [node], _ =>
    unfold xmlDocGetRootElement
    by_cases helement : node.label.isElement = true
    · simp [OrdTree.list, helement]
    · simp [OrdTree.list, helement]

@[simp] theorem xmlDocGetRootElement_document (data : Option RootElement) :
    xmlDocGetRootElement (document data) = data := by
  cases data with
  | none => rfl
  | some root => simp [xmlDocGetRootElement, document, OrdTree.list, root.property]

/-- A node of the resource tree is the root element or below it. -/
theorem exists_of_at?_document {root : RootElement} {path : NodePath} {target : DocNode}
    (hpath : path ≠ []) (h : at? path (document (some root)) = some target) :
    ∃ q, path = ⟨.child, 0⟩ :: q ∧ at? q root.val = some target := by
  match path, hpath with
  | ⟨.attr, _⟩ :: _, _ => cases h
  | ⟨.child, 0⟩ :: q, _ => exact ⟨q, rfl, h⟩
  | ⟨.child, _ + 1⟩ :: _, _ => cases h

theorem editSiblings_document (f : Nat → List DocNode → List DocNode) {q : NodePath} (h : q ≠ [])
    {root : RootElement} : editSiblings f (⟨.child, 0⟩ :: q) (document (some root)) =
      .mk .document [] [editSiblings f q root.val] := by
  rw [editSiblings_cons f h]
  rfl

theorem label_prune (P : NodePath → Bool) (node : DocNode) : (prune P node).label = node.label := by
  cases node
  rw [prune]
  rfl

/-- What is left of a root element is one. -/
theorem prune_document (P : NodePath → Bool) (root : RootElement) :
    ∃ data, prune P (document (some root)) = document data := by
  by_cases hroot : P rootPath = true
  · refine ⟨none, ?_⟩
    have hroot : P [⟨.child, 0⟩] = true := hroot
    simp [document, prune, pruneFrom, hroot]
  · refine ⟨some ⟨prune (fun q => P (⟨.child, 0⟩ :: q)) root.val,
      (congrArg _ (label_prune _ _)).trans root.property⟩, ?_⟩
    have hroot : P [⟨.child, 0⟩] = false := Bool.eq_false_iff.mpr hroot
    simp [document, prune, pruneFrom, hroot]

theorem isElement_edit {f : DocNode → DocNode}
    (hf : ∀ node, node.label.isElement = true → (f node).label.isElement = true) (path : NodePath)
    {node : DocNode} (h : node.label.isElement = true) :
    (edit f path node).label.isElement = true := by
  cases path with
  | nil => exact hf node h
  | cons step path =>
    rw [edit, OrdTree.label_mapList]
    exact h

/-! ## One modification -/

section

variable {cx : ModifyContext} {modification : DstModification} {response : DstModifyResponse}
  {data : Option RootElement} {root : RootElement} {paths : List NodePath}

theorem applyModification_of_failure {failureCode : String}
    (h : modifyDocument cx modification data = .ok (.error failureCode)) :
    applyModification cx modification response data =
      .ok (.dst .modifyFailed, { status := ["Failed", failureCode] }, data) := by
  unfold applyModification
  rw [h]
  rfl

theorem applyModification_of_fault {fault : Fault}
    (h : modifyDocument cx modification data = .error fault) :
    applyModification cx modification response data = .error fault := by
  unfold applyModification
  rw [h]
  rfl

theorem applyModification_of_document {doc : DocNode}
    (h : modifyDocument cx modification data = .ok (.ok doc)) :
    applyModification cx modification response data =
      .ok (.ok, response, xmlDocGetRootElement doc) := by
  unfold applyModification
  rw [h]
  rfl

theorem keepsMeaning_of_failure {failureCode : String}
    (h : modifyDocument cx modification (some root) = .ok (.error failureCode)) :
    KeepsMeaning cx modification response root paths := by
  unfold KeepsMeaning
  rw [applyModification_of_failure h]
  exact nofun

theorem keepsMeaning_of_fault {fault : Fault}
    (h : modifyDocument cx modification (some root) = .error fault) :
    KeepsMeaning cx modification response root paths ↔ fault ≠ .misread := by
  unfold KeepsMeaning
  rw [applyModification_of_fault h]

theorem keepsMeaning_of_document {doc : DocNode}
    (h : modifyDocument cx modification (some root) = .ok (.ok doc)) :
    KeepsMeaning cx modification response root paths ↔
      (xmlDocGetRootElement doc).toList.map (·.val) =
        (specified modification paths (document (some root))).list .child := by
  unfold KeepsMeaning
  rw [applyModification_of_document h]
  exact ⟨fun hkeeps => hkeeps rfl, fun heq _ => heq⟩

/-- A root element that is changed -/
theorem keepsMeaning_of_element {node node' : DocNode} (helement : node.label.isElement = true)
    (h : modifyDocument cx modification (some root) = .ok (.ok (.mk .document [] [node])))
    (hspecified : specified modification paths (document (some root)) =
      .mk .document [] [node']) :
    KeepsMeaning cx modification response root paths ↔ node = node' := by
  rw [keepsMeaning_of_document h, hspecified, toList_xmlDocGetRootElement _ (by simp)]
  simp [helement, OrdTree.list]

section

variable {select : String}

theorem xmlUnlinkNodes_node (paths : List NodePath) (doc : DocNode) :
    xmlUnlinkNodes (paths.map .node) doc = prune (fun path => decide (path ∈ paths)) doc := by
  have hpaths : (paths.map XPathNode.node).filterMap (·.path?) = paths := by
    rw [List.filterMap_map]
    exact List.filterMap_some
  rw [xmlUnlinkNodes, hpaths, removeEach_eq_prune]

/-- Without new data the designated nodes are removed. -/
theorem keepsMeaning_remove (hselect : modification.select = some select)
    (heval : cx.evalXPath (document (some root)) select = .nodes (paths.map .node))
    (hnew : modification.newData = none) :
    KeepsMeaning cx modification response root paths := by
  cases hoverride : modification.overrideAllowed with
  | false =>
    have hfailure : modifyDocument cx modification (some root) =
        .ok (.error "MissingNewDataElement") := by
      simp [modifyDocument, hselect, hnew, hoverride]
    exact keepsMeaning_of_failure hfailure
  | true =>
    cases paths with
    | nil =>
      have hfailure : modifyDocument cx modification (some root) =
          .ok (.error "too few or too much targets") := by
        simp [modifyDocument, hselect, hnew, hoverride, heval]
      exact keepsMeaning_of_failure hfailure
    | cons path paths =>
      have hdocument : modifyDocument cx modification (some root) =
          .ok (.ok (xmlUnlinkNodes ((path :: paths).map .node) (document (some root)))) := by
        simp [modifyDocument, hselect, hnew, hoverride, heval]
      obtain ⟨data, hdata⟩ :=
        prune_document (fun q => decide (q ∈ path :: paths)) root
      have hspecified : specified modification (path :: paths) (document (some root)) =
          prune (fun q => decide (q ∈ path :: paths)) (document (some root)) := by
        unfold specified
        rw [hnew]
      rw [keepsMeaning_of_document hdocument, xmlUnlinkNodes_node, hspecified, hdata,
        xmlDocGetRootElement_document]
      rfl

/-- There are new data for one node only. -/
theorem keepsMeaning_many {new : List DocNode} (hselect : modification.select = some select)
    (heval : cx.evalXPath (document (some root)) select = .nodes (paths.map .node))
    (hnew : modification.newData = some new) (hpaths : paths.length ≠ 1) :
    KeepsMeaning cx modification response root paths := by
  by_cases hmissing : (new.isEmpty && !modification.overrideAllowed) = true
  · have hfailure : modifyDocument cx modification (some root) =
        .ok (.error "MissingNewDataElement") := by
      simp [modifyDocument, hselect, hnew, hmissing]
    exact keepsMeaning_of_failure hfailure
  · have hfailure : modifyDocument cx modification (some root) =
        .ok (.error "too few or too much targets") := by
      unfold modifyDocument
      match paths, hpaths with
      | [], _ => simp [hselect, hnew, hmissing, heval]
      | _ :: _ :: _, _ => simp [hselect, hnew, hmissing, heval]
    exact keepsMeaning_of_failure hfailure

/-- New nodes are appended. -/
theorem keepsMeaning_append {new : List DocNode} {q : NodePath} {target : DocNode}
    (hselect : modification.select = some select)
    (heval : cx.evalXPath (document (some root)) select = .nodes [.node (⟨.child, 0⟩ :: q)])
    (hnew : modification.newData = some new) (hoverride : modification.overrideAllowed = false)
    (htarget : at? q root.val = some target) :
    KeepsMeaning cx modification response root [⟨.child, 0⟩ :: q] ↔
      (new ≠ [] →
        target.label.isText = false ∧ Apart ((target.list .child).getLast?.toList ++ new)) := by
  by_cases hempty : new = []
  · have hfailure : modifyDocument cx modification (some root) =
        .ok (.error "MissingNewDataElement") := by
      simp [modifyDocument, hselect, hnew, hoverride, hempty]
    exact iff_of_true (keepsMeaning_of_failure hfailure) fun hne => absurd hempty hne
  · have hdocument : modifyDocument cx modification (some root) =
        .ok (.ok (.mk .document []
          [edit (fun node => new.foldl addChild node) q root.val])) := by
      have hfold := foldl_edit (fun new node => addChild node new) (⟨.child, 0⟩ :: q) new
        (document (some root))
      simp [modifyDocument, applyNewData, hselect, hnew, hoverride, heval, hempty]
      exact hfold
    have hspecified : specified modification [⟨.child, 0⟩ :: q] (document (some root)) =
        .mk .document [] [edit (·.mapList .child (· ++ new)) q root.val] := by
      unfold specified
      rw [hnew, hoverride]
      rfl
    have helement := isElement_edit (fun _ => isElement_foldl_addChild new) q root.property
    rw [keepsMeaning_of_element helement hdocument hspecified, edit_inj htarget,
      foldl_addChild_eq hempty]
    exact ⟨fun h _ => h, fun h => h hempty⟩

theorem xmlAddNextSibling_attr {path : NodePath} (h : path.getLast?.map (·.branch) = some .attr)
    (new doc : DocNode) : xmlAddNextSibling (.node path) new doc = .error .misread := by
  obtain ⟨⟨branch, i⟩, hlast, hbranch⟩ := Option.map_eq_some_iff.mp h
  obtain rfl : branch = .attr := hbranch
  simp only [xmlAddNextSibling, hlast]

theorem foldlM_xmlAddNextSibling {path : NodePath} {new : List DocNode}
    (h : new = [] ∨ path.getLast?.map (·.branch) = some .child) (doc : DocNode) :
    new.foldlM (fun doc node => xmlAddNextSibling (.node path) node doc) doc =
      .ok (new.foldl (fun doc node => editSiblings (addNext node) path doc) doc) := by
  rcases h with rfl | hchild
  · rfl
  · obtain ⟨⟨branch, i⟩, hlast, hbranch⟩ := Option.map_eq_some_iff.mp hchild
    obtain rfl : branch = .child := hbranch
    induction new generalizing doc with
    | nil => rfl
    | cons node new ih =>
      have hnext : xmlAddNextSibling (.node path) node doc =
          .ok (editSiblings (addNext node) path doc) := by
        simp only [xmlAddNextSibling, hlast]
      rw [List.foldlM_cons, hnext]
      exact ih _

/-- A new root takes the place of the old one. -/
theorem keepsMeaning_replaceRoot {new : List DocNode} (hselect : modification.select = some select)
    (heval : cx.evalXPath (document (some root)) select = .nodes [.node rootPath])
    (hnew : modification.newData = some new) (hoverride : modification.overrideAllowed = true) :
    KeepsMeaning cx modification response root [rootPath] ↔
      ∀ node, new = [node] → node.label.isElement = true := by
  rcases new with _ | ⟨node, _ | ⟨next, rest⟩⟩
  · have hfault : modifyDocument cx modification (some root) = .error .nullPointer := by
      simp [modifyDocument, applyNewData, hselect, hnew, hoverride, heval, XPathNode.path?]
    exact iff_of_true ((keepsMeaning_of_fault hfault).mpr (by simp)) (by simp)
  · have hset : xmlDocSetRootElement node (document (some root)) = .mk .document [] [node] := by
      simp [xmlDocSetRootElement, document, OrdTree.mapList, root.property]
    have hdocument : modifyDocument cx modification (some root) =
        .ok (.ok (.mk .document [] [node])) := by
      simp [modifyDocument, applyNewData, hselect, hnew, hoverride, heval, XPathNode.path?, hset]
    have hspecified : specified modification [rootPath] (document (some root)) =
        .mk .document [] [node] := by
      unfold specified
      rw [hnew, hoverride]
      rfl
    rw [keepsMeaning_of_document hdocument, hspecified, toList_xmlDocGetRootElement _ (by simp)]
    simp [OrdTree.list]
  · have hfailure : modifyDocument cx modification (some root) =
        .ok (.error "cannot replace root node by multiple nodes") := by
      simp [modifyDocument, applyNewData, hselect, hnew, hoverride, heval, XPathNode.path?]
    exact iff_of_true (keepsMeaning_of_failure hfailure) (by simp)

/-- New nodes take the place of a node below the root. -/
theorem keepsMeaning_replace {new : List DocNode} {q : NodePath} {target : DocNode}
    (hselect : modification.select = some select)
    (heval : cx.evalXPath (document (some root)) select = .nodes [.node (⟨.child, 0⟩ :: q)])
    (hnew : modification.newData = some new) (hoverride : modification.overrideAllowed = true)
    (hbelow : q ≠ []) (htarget : at? q root.val = some target) :
    KeepsMeaning cx modification response root [⟨.child, 0⟩ :: q] ↔
      if q.getLast?.map (·.branch) = some .attr then new = []
      else (new.filter fun node => !(target.label.isText && node.label.isText)).reverse = new := by
  obtain ⟨step, before, after, hlast, hlength, hsiblings⟩ := exists_siblings hbelow htarget
  have hlast' : (⟨.child, 0⟩ :: q : NodePath).getLast? = some step := by
    obtain ⟨next, q, rfl⟩ := List.exists_cons_of_ne_nil hbelow
    rwa [List.getLast?_cons_cons]
  have hrun : modifyDocument cx modification (some root) = (do
      let doc ← new.foldlM (fun doc node => xmlAddNextSibling (.node (⟨.child, 0⟩ :: q)) node doc)
        (document (some root))
      return .ok (remove (⟨.child, 0⟩ :: q) doc)) := by
    have hroot : ¬ (⟨.child, 0⟩ :: q : NodePath) = rootPath := fun h => hbelow (List.cons.inj h).2
    simp [modifyDocument, applyNewData, hselect, hnew, hoverride, heval, XPathNode.path?, hroot]
    rfl
  by_cases hgood : new = [] ∨ step.branch = .child
  · have hdocument : modifyDocument cx modification (some root) =
        .ok (.ok (.mk .document [] [editSiblings (fun i nodes =>
          (new.foldl (fun nodes node => addNext node i nodes) nodes).eraseIdx i) q root.val])) := by
      rw [hrun, foldlM_xmlAddNextSibling (by simpa [hlast'] using hgood), foldl_editSiblings,
        ← editSiblings_document _ hbelow,
        ← editSiblings_editSiblings (fun i nodes => nodes.eraseIdx i)
          fun i nodes => new.foldl (fun nodes node => addNext node i nodes) nodes]
      rfl
    have hspecified : specified modification [⟨.child, 0⟩ :: q] (document (some root)) =
        .mk .document [] [editSiblings (fun i nodes =>
          nodes.take i ++ new ++ nodes.drop (i + 1)) q root.val] := by
      rw [← editSiblings_document _ hbelow]
      unfold specified
      rw [hnew, hoverride]
      rfl
    have helement : (editSiblings (fun i nodes =>
        (new.foldl (fun nodes node => addNext node i nodes) nodes).eraseIdx i)
        q root.val).label.isElement = true := by
      rw [label_editSiblings]
      exact root.property
    rw [keepsMeaning_of_element helement hdocument hspecified, hsiblings, ← hlength,
      eraseIdx_foldl_addNext, hlast]
    rcases hgood with rfl | hchild
    · simp
    · simp [hchild]
  · obtain ⟨hne, hchild⟩ := not_or.mp hgood
    have hattr : step.branch = .attr := by
      cases hbranch : step.branch with
      | attr => rfl
      | child => exact absurd hbranch hchild
    have hfault : modifyDocument cx modification (some root) = .error .misread := by
      obtain ⟨node, new, rfl⟩ := List.exists_cons_of_ne_nil hne
      rw [hrun, List.foldlM_cons,
        xmlAddNextSibling_attr ((congrArg _ hlast').trans (congrArg some hattr))]
      rfl
    rw [keepsMeaning_of_fault hfault, hlast, Option.map_some, hattr, if_pos rfl]
    exact iff_of_false (fun h => h rfl) hne

/-- A modification that selects nodes of the resource does what it is for just if, with new data for
one node, these go well there. -/
theorem keepsMeaning_iff (hselect : modification.select = some select)
    (heval : cx.evalXPath (document (some root)) select = .nodes (paths.map .node))
    (hpaths : ∀ path ∈ paths, path ≠ [] ∧ (at? path (document (some root))).isSome) :
    KeepsMeaning cx modification response root paths ↔
      ∀ path target new, paths = [path] → at? path (document (some root)) = some target →
        modification.newData = some new →
          GoesWell modification.overrideAllowed new path target := by
  cases hnew : modification.newData with
  | none => exact iff_of_true (keepsMeaning_remove hselect heval hnew) nofun
  | some new =>
    by_cases hone : paths.length = 1
    · obtain ⟨path, rfl⟩ := List.length_eq_one_iff.mp hone
      obtain ⟨hpath, hsome⟩ := hpaths path (List.mem_singleton_self path)
      obtain ⟨target, htarget⟩ := Option.isSome_iff_exists.mp hsome
      have hall : (∀ path' target' new', [path] = [path'] →
          at? path' (document (some root)) = some target' → some new = some new' →
            GoesWell modification.overrideAllowed new' path' target') ↔
          GoesWell modification.overrideAllowed new path target := by
        constructor
        · intro hall
          exact hall path target new rfl htarget rfl
        · rintro hgoes _ target' _ ⟨⟩ htarget' ⟨⟩
          obtain rfl := Option.some.inj (htarget.symm.trans htarget')
          exact hgoes
      rw [hall]
      obtain ⟨q, rfl, hq⟩ := exists_of_at?_document hpath htarget
      unfold GoesWell
      cases hoverride : modification.overrideAllowed with
      | false => exact keepsMeaning_append hselect heval hnew hoverride hq
      | true =>
        rw [if_pos rfl]
        cases q with
        | nil => exact keepsMeaning_replaceRoot hselect heval hnew hoverride
        | cons step q =>
          have hroot : ¬ (⟨.child, 0⟩ :: step :: q : NodePath) = rootPath := by simp [rootPath]
          rw [if_neg hroot, List.getLast?_cons_cons]
          exact keepsMeaning_replace hselect heval hnew hoverride (by simp) hq
    · refine iff_of_true (keepsMeaning_many hselect heval hnew hone) ?_
      rintro path _ _ rfl
      exact absurd rfl hone

end

end

/-! ### A node that is replaced by two -/

/-- An element without attributes and content. -/
def emptyElement (name : String) : DocNode := .mk (.element none name) [] []

/-- A resource with one entry. -/
def oneEntry : RootElement := ⟨.mk (.element none "r") [] [emptyElement "x"], rfl⟩

/-- Every expression designates the entry. -/
def entryContext : ModifyContext where
  evalXPath _ _ := .nodes [.node [⟨.child, 0⟩, ⟨.child, 0⟩]]

/-- The entry is replaced by some nodes. -/
def replaceEntry (new : List DocNode) : DstModification where
  select := some "/r/x"
  newData := some new
  overrideAllowed := true

theorem entry_isSome : ∀ path ∈ ([[⟨.child, 0⟩, ⟨.child, 0⟩]] : List NodePath),
    path ≠ [] ∧ (at? path (document (some oneEntry))).isSome := by
  rintro path hmem
  obtain rfl := List.mem_singleton.mp hmem
  exact ⟨by simp, rfl⟩

theorem keepsMeaning_one :
    KeepsMeaning entryContext (replaceEntry [emptyElement "a"]) { status := ["OK"] } oneEntry
      [[⟨.child, 0⟩, ⟨.child, 0⟩]] := by
  have hselect : (replaceEntry [emptyElement "a"]).select = some "/r/x" := rfl
  refine (keepsMeaning_iff hselect rfl entry_isSome).mpr ?_
  intro path target new hpath htarget hnew
  cases hpath
  cases htarget
  cases hnew
  simp [GoesWell, replaceEntry, rootPath, emptyElement, OrdTree.label, NodeType.isText]

/-- Two nodes come in the other order. -/
theorem not_keepsMeaning :
    ¬ ∀ (cx : ModifyContext) (modification : DstModification) (response : DstModifyResponse)
      (root : RootElement) (paths : List NodePath) (select : String),
      modification.select = some select →
        cx.evalXPath (document (some root)) select = .nodes (paths.map .node) →
          (∀ path ∈ paths, path ≠ [] ∧ (at? path (document (some root))).isSome) →
            KeepsMeaning cx modification response root paths := by
  intro hall
  have hkeeps := hall entryContext (replaceEntry [emptyElement "a", emptyElement "b"])
    { status := ["OK"] } oneEntry [[⟨.child, 0⟩, ⟨.child, 0⟩]] "/r/x" rfl rfl entry_isSome
  have hchildren := congrArg (List.flatMap fun node => (node.list .child).map (·.label))
    (hkeeps rfl)
  exact absurd hchildren (by decide)

end IdWsf

end Lasso
