import Lasso.Library.Descent
import Lasso.Saml20.AssertionClasses

/-!
# When the parser comes back

The loop over the children of an element is an automaton whose positions depend on the names of
the children only. What can stop the process is a child of an unexpected kind at such a position, a
class without what the code reads of it, or an object that the loop asks for.

## Main definitions

* `Reads` — the positions that the loop comes to.
* `ParseTask.HandsOn` — an object that filling in another one asks for.
* `ParseTask.Harmless` — nothing in the element itself stops the process.

## Main results

* `returns_initChildren` — the loop comes back if it is safe at each of its positions.
* `returns_implInit_iff` — when `lasso_node_impl_init_from_xml` comes back.
-/

namespace Lasso

open Outcome

/-! ## The positions of the loop -/

/-- The cursor after a child that does not end the loop. -/
def nextCursor (snippets : List Snippet) (parent : XmlNode) (cursor : Nat) (node : XmlNode) :
    Option Nat :=
  if cursor < snippets.length then
    match node with
    | .element .. =>
      match findSnippet snippets parent node (snippets.length + 1) cursor with
      | .found _ cursor' => some cursor'
      | _ => none
    | .cdata _ => none
    | _ => some cursor
  else none

/-- The loop over the children comes from a cursor and the children left to another. -/
inductive Reads (snippets : List Snippet) (parent : XmlNode) :
    Nat → List PlacedNode → Nat → List PlacedNode → Prop where
  | here (cursor : Nat) (children : List PlacedNode) :
      Reads snippets parent cursor children cursor children
  | next {cursor cursor₁ cursor' : Nat} {child : PlacedNode} {children rest : List PlacedNode}
      (hnext : nextCursor snippets parent cursor child.node = some cursor₁)
      (h : Reads snippets parent cursor₁ children cursor' rest) :
      Reads snippets parent cursor (child :: children) cursor' rest

/-- An object asked for: the node to make it from, and the class if it is forced. -/
abbrev ParseRequest := PlacedNode × Option String

/-- The objects that storing a matched child asks for. -/
def matchedRequests (snippet : Snippet) (child : PlacedNode) : List ParseRequest :=
  if snippet.field.isNone then []
  else match snippet.kind with
    | .listNodes | .node => [(child, snippet.className)]
    | .nodeInChild =>
      ((child.children.find? (·.node.isElement)).map fun first =>
        (first, snippet.className)).toList
    | _ => []

/-- The objects that a text among the children asks for. -/
def textRequests (any : Option Snippet) (child : PlacedNode) : List ParseRequest :=
  match any with
  | none => []
  | some snippet =>
    if snippet.kind = .listNodes ∧ snippet.allowText = true then
      [(child, some "LassoMiscTextNode")]
    else []

/-- The object that a child past the last snippet asks for. -/
def leftoverRequest (snippet : Snippet) (child : PlacedNode) : List ParseRequest :=
  match child.node with
  | .text _ => if snippet.allowText then [(child, some "LassoMiscTextNode")] else []
  | .element .. => [(child, snippet.className)]
  | _ => []

/-- The objects that the loop asks for at a position with a child left. -/
def requests (snippets : List Snippet) (any : Option Snippet) (parent : XmlNode) (cursor : Nat)
    (child : PlacedNode) (rest : List PlacedNode) : List ParseRequest :=
  if cursor < snippets.length then
    match child.node with
    | .text _ => textRequests any child
    | .element .. =>
      match findSnippet snippets parent child.node (snippets.length + 1) cursor with
      | .found snippet _ => matchedRequests snippet child
      | _ => []
    | _ => []
  else match any with
    | some snippet =>
      if snippet.kind = .listNodes then (child :: rest).flatMap (leftoverRequest snippet) else []
    | none => []

/-- The children past the last snippet have a list to go to, or there is no snippet for any. -/
def TakesLeftover (any : Option Snippet) : Prop :=
  ∀ snippet, any = some snippet → snippet.kind = .listXmlNodes ∨ snippet.kind = .listNodes

def XmlNode.isCData : XmlNode → Bool
  | .cdata _ => true
  | _ => false

/-- No child at this position is of a kind that the loop does not expect. -/
def ExpectedAt (snippets : List Snippet) (any : Option Snippet) (cursor : Nat)
    (child : PlacedNode) : Prop :=
  (cursor < snippets.length → child.node.isCData = false) ∧
    (snippets.length ≤ cursor → TakesLeftover any)

section Loop

variable {R : Registry} {searchNs : NsScope} {snippets : List Snippet} {any : Option Snippet}
  {parent : XmlNode} {cursor : Nat} {child : PlacedNode} {children : List PlacedNode}

/-- The object asked for is made, or is found to fail. -/
def Answered (R : Registry) (searchNs : NsScope) (request : ParseRequest) : Prop :=
  Returns (newWithType R searchNs request.1 request.2)

/-- A statement about all positions is one about the first and about those after it. -/
theorem forall_reads_cons {P : Nat → PlacedNode → List PlacedNode → Prop} :
    (∀ cursor' child' rest,
      Reads snippets parent cursor (child :: children) cursor' (child' :: rest) →
        P cursor' child' rest) ↔
    P cursor child children ∧
      ∀ cursor₁, nextCursor snippets parent cursor child.node = some cursor₁ →
        ∀ cursor' child' rest, Reads snippets parent cursor₁ children cursor' (child' :: rest) →
          P cursor' child' rest := by
  constructor
  · intro h
    refine ⟨h _ _ _ (.here _ _), fun cursor₁ hnext cursor' child' rest hreads => ?_⟩
    exact h _ _ _ (.next hnext hreads)
  · rintro ⟨hhere, hlater⟩ cursor' child' rest (_ | ⟨hnext, hreads⟩)
    · exact hhere
    · exact hlater _ hnext _ _ _ hreads

theorem firstChild_result : (child.result R searchNs).firstChild =
    (child.children.find? (·.node.isElement)).map fun first => newWithType R searchNs first := by
  rw [PlacedNode.result_eq, childResult, List.find?_map]
  simp only [Function.comp_def, PlacedNode.result_node, Option.map_map]
  rfl

theorem returns_storeMatched {snippet : Snippet} (hholds : snippet.holdsNodes = true) :
    Returns (storeMatched snippet (child.result R searchNs)) ↔
      ∀ request ∈ matchedRequests snippet child, Answered R searchNs request := by
  unfold storeMatched matchedRequests
  cases snippet.field with
  | none => simp
  | some field =>
    cases hkind : snippet.kind with
    | node | listNodes => simp [Answered, newWithType]
    | nodeInChild =>
      rw [firstChild_result]
      cases child.children.find? (·.node.isElement) with
      | none => simp
      | some first => simp [Answered]
    | _ => simp_all [Snippet.holdsNodes]

theorem returns_storeText : Returns (storeText any (child.result R searchNs)) ↔
    ∀ request ∈ textRequests any child, Answered R searchNs request := by
  cases any with
  | none => simp [storeText, textRequests]
  | some snippet =>
    cases hkind : snippet.kind with
    | listNodes =>
      cases htext : snippet.allowText with
      | true => simp [storeText, textRequests, hkind, htext, Answered, newWithType]
      | false => simp [storeText, textRequests, hkind, htext]
    | _ => simp [storeText, textRequests, hkind]

theorem returns_storeLeftover {snippet : Snippet} :
    Returns (storeLeftover snippet (child.result R searchNs)) ↔
      ∀ request ∈ leftoverRequest snippet child, Answered R searchNs request := by
  unfold storeLeftover leftoverRequest
  rw [PlacedNode.result_node]
  cases child.node with
  | text content =>
    cases snippet.allowText with
    | true => simp [Answered, newWithType]
    | false => simp
  | element ns name attrs children => simp [Answered, newWithType]
  | _ => simp

variable (parent) in
theorem returns_initLeftover {rest : List PlacedNode} (hend : snippets.length ≤ cursor) :
    Returns (initLeftover any ((child :: rest).map (·.result R searchNs))) ↔
      ExpectedAt snippets any cursor child ∧
        ∀ request ∈ requests snippets any parent cursor child rest,
          Answered R searchNs request := by
  have hlive : ¬ cursor < snippets.length := by omega
  simp only [ExpectedAt, requests, hlive, hend, if_false, false_implies, true_implies, true_and]
  cases any with
  | none => simp [initLeftover, TakesLeftover]
  | some snippet =>
    cases hkind : snippet.kind with
    | listNodes =>
      simp only [initLeftover, hkind, TakesLeftover, Option.some.injEq, forall_eq', returns_map,
        returns_gather, List.forall_mem_map, returns_storeLeftover, if_true, List.mem_flatMap,
        or_true, true_and]
      grind
    | _ => simp [initLeftover, hkind, TakesLeftover]

/-- Reading on after what the first child has written. -/
theorem returns_stores_append {x : Except Fault (List Store)} {y : InitResult} :
    Returns (x >>= fun stores => y >>= fun rest => pure (rest.map (stores ++ ·))) ↔
      Returns x ∧ Returns y :=
  returns_bind_of_const fun stores => by simp

/-- The loop comes back just if no position that it comes to has an unexpected child, and what it
asks for at these positions is answered. -/
theorem returns_initChildren (hmiss : MissAhead snippets) (hrest : AtRest snippets cursor) :
    Returns (initChildren snippets any parent cursor (children.map (·.result R searchNs))) ↔
      ∀ cursor' child rest, Reads snippets parent cursor children cursor' (child :: rest) →
        ExpectedAt snippets any cursor' child ∧
          ∀ request ∈ requests snippets any parent cursor' child rest,
            Answered R searchNs request := by
  induction children generalizing cursor with
  | nil =>
    simp only [List.map_nil, initChildren, returns_pure, true_iff]
    rintro cursor' child rest ⟨⟩
  | cons child children ih =>
    rw [forall_reads_cons]
    by_cases hlive : cursor < snippets.length
    · rw [List.map_cons, initChildren, if_pos hlive, PlacedNode.result_node]
      have hexpected : ExpectedAt snippets any cursor child ↔ child.node.isCData = false := by
        simp [ExpectedAt, hlive, Nat.not_le.mpr hlive]
      rw [hexpected]
      cases hnode : child.node with
      | text content =>
        have hnext : nextCursor snippets parent cursor (.text content) = some cursor := by
          simp [nextCursor, hlive]
        have hasks :
            requests snippets any parent cursor child children = textRequests any child := by
          simp [requests, hlive, hnode]
        simp only [returns_stores_append, ih hrest, returns_storeText, hnext, hasks]
        simp [XmlNode.isCData]
      | comment content | pi target content =>
        have hnext : nextCursor snippets parent cursor child.node = some cursor := by
          simp [nextCursor, hlive, hnode]
        rw [hnode] at hnext
        have hasks : requests snippets any parent cursor child children = [] := by
          simp [requests, hlive, hnode]
        simp only [ih hrest, hnext, hasks]
        simp [XmlNode.isCData]
      | cdata content => simp [XmlNode.isCData]
      | element ns name attrs nodes =>
        cases hfind : findSnippet snippets parent (.element ns name attrs nodes)
            (snippets.length + 1) cursor with
        | found snippet cursor₁ =>
          obtain ⟨-, hholds, -, hrest₁⟩ := findSnippet_found hrest hfind
          have hnext : nextCursor snippets parent cursor (.element ns name attrs nodes) =
              some cursor₁ := by
            simp [nextCursor, hlive, hfind]
          have hasks : requests snippets any parent cursor child children =
              matchedRequests snippet child := by
            simp [requests, hlive, hnode, hfind]
          dsimp only
          rw [returns_stores_append, ih hrest₁, returns_storeMatched hholds]
          simp only [hnext, hasks]
          simp [XmlNode.isCData]
        | missing =>
          have hnext : nextCursor snippets parent cursor (.element ns name attrs nodes) = none := by
            simp [nextCursor, hlive, hfind]
          have hasks : requests snippets any parent cursor child children = [] := by
            simp [requests, hlive, hnode, hfind]
          simp [hnext, hasks, XmlNode.isCData]
        | endless => exact absurd hfind (findSnippet_ne_endless hmiss (by omega) (by omega))
    · have hend : snippets.length ≤ cursor := by omega
      rw [List.map_cons, initChildren, if_neg hlive, ← List.map_cons,
        returns_initLeftover parent hend]
      simp [nextCursor, hlive]

end Loop

/-! ## Filling in one object -/

/-- Nothing in the element itself stops `lasso_node_impl_init_from_xml` past the name check. -/
structure ImplHarmless (searchNs : NsScope) (cls : LassoNodeClass) (place : PlacedNode) : Prop where
  /-- a class without a namespace is not compared with an `xsi:type` that resolves -/
  xsiType : ∀ data rest, cls.chain = data :: rest → data.ns = none →
    ∀ attr ∈ place.node.attrs, attr.ns = some xsiHref → attr.name = "type" →
      ∀ pre localPart, splitQName attr.value = some (pre, localPart) →
        searchNs place.path pre = none
  /-- the class or a parent has a table -/
  tables : cls.classList ≠ []
  /-- the loop meets no child that it does not expect -/
  expected : ∀ cursor child rest,
    Reads cls.snippets place.node (nextNodeSnippet cls.snippets 0) place.children
      cursor (child :: rest) →
    ExpectedAt cls.snippets cls.snippetAny cursor child

/-- The object is one that the loop over the children of an element asks for. -/
def ImplAsks (cls : LassoNodeClass) (place : PlacedNode) (request : ParseRequest) : Prop :=
  ∃ cursor child rest,
    Reads cls.snippets place.node (nextNodeSnippet cls.snippets 0) place.children
      cursor (child :: rest) ∧
    request ∈ requests cls.snippets cls.snippetAny place.node cursor child rest

/-- The class has data, and passes the name check. -/
def PassesChecks (R : Registry) (cls : LassoNodeClass) (node : XmlNode) : Prop :=
  cls.chain ≠ [] ∧ cls.nameMismatch R node = false

section Impl

variable {R : Registry} {searchNs : NsScope} {cls : LassoNodeClass} {place : PlacedNode}

/-- `lasso_node_impl_init_from_xml` comes back if it fails at once, or if nothing in the element
stops it and what it asks for is answered. -/
theorem returns_implInit :
    Returns (implInit R searchNs cls place (place.children.map (·.result R searchNs))) ↔
      (PassesChecks R cls place.node → ImplHarmless searchNs cls place ∧
        ∀ request, ImplAsks cls place request → Answered R searchNs request) := by
  unfold implInit
  cases hchain : cls.chain with
  | nil => simp [PassesChecks, hchain]
  | cons data rest =>
    cases hmismatch : cls.nameMismatch R place.node with
    | true => simp [PassesChecks, hmismatch]
    | false =>
      have hpasses : PassesChecks R cls place.node := ⟨by simp [hchain], hmismatch⟩
      have hrest : ∀ attributes : List Store,
          Returns (if cls.classList.isEmpty then .error .nullPointer
            else do
              let stores ← initChildren cls.snippets cls.snippetAny place.node
                (nextNodeSnippet cls.snippets 0) (place.children.map (·.result R searchNs))
              return stores.map (textChildStores cls place.node ++ attributes ++ ·)) ↔
          cls.classList ≠ [] ∧ Returns (initChildren cls.snippets cls.snippetAny place.node
            (nextNodeSnippet cls.snippets 0) (place.children.map (·.result R searchNs))) := by
        intro attributes
        cases cls.classList <;> simp
      simp only [Bool.false_eq_true, if_false]
      rw [returns_bind_of_const hrest, returns_collectAttributes,
        returns_initChildren cls.missAhead_snippets atRest_nextNodeSnippet]
      simp only [returns_isOwnXsiType]
      constructor
      · rintro ⟨hattrs, htables, hloop⟩ -
        refine ⟨⟨?_, htables, fun cursor child rest hreads => (hloop _ _ _ hreads).1⟩, ?_⟩
        · rintro data' rest' hchain' hns attr hattr
          obtain ⟨rfl, rfl⟩ := List.cons.inj (hchain.symm.trans hchain')
          exact hattrs attr hattr hns
        · rintro request ⟨cursor, child, rest, hreads, hrequest⟩
          exact (hloop _ _ _ hreads).2 request hrequest
      · intro h
        obtain ⟨hharmless, hasks⟩ := h hpasses
        refine ⟨fun attr hattr hns => hharmless.xsiType _ _ hchain hns attr hattr,
          hharmless.tables, fun cursor child rest hreads => ⟨hharmless.expected _ _ _ hreads, ?_⟩⟩
        exact fun request hrequest => hasks request ⟨cursor, child, rest, hreads, hrequest⟩

end Impl

/-! ## Filling in objects of objects -/

/-- The class calls `lasso_node_impl_init_from_xml` on the node. -/
def InitMethod.CallsImpl (node : XmlNode) : InitMethod → Prop
  | .impl | .after _ => True
  | .own _ => False
  | .miscText => isMiscText node = true

namespace ParseTask

/-- Filling in the first object asks for the second to be filled in. -/
def HandsOn (R : Registry) (searchNs : NsScope) (task task' : ParseTask) : Prop :=
  task.cls.init.CallsImpl task.place.node ∧ PassesChecks R task.cls task.place.node ∧
    ∃ request, ImplAsks task.cls task.place request ∧
      classFor R searchNs request.1 request.2 = some task'.cls ∧ task'.place = request.1

/-- A method that the class has besides `lasso_node_impl_init_from_xml` comes back. -/
def OwnMethodReturns (R : Registry) (searchNs : NsScope) (task : ParseTask) : Prop :=
  match task.cls.init with
  | .after method => ∀ result,
      implInit R searchNs task.cls task.place (task.place.children.map (·.result R searchNs)) =
        .ok result → Returns (method task.place.node result)
  | .own method => Returns (method task.place.node)
  | .impl | .miscText => True

/-- Nothing in the element itself stops the process. -/
structure Harmless (R : Registry) (searchNs : NsScope) (task : ParseTask) : Prop where
  impl : task.cls.init.CallsImpl task.place.node → PassesChecks R task.cls task.place.node →
    ImplHarmless searchNs task.cls task.place
  ownMethod : task.OwnMethodReturns R searchNs

end ParseTask

section Task

variable {R : Registry} {searchNs : NsScope}

theorem answered_iff {request : ParseRequest} : Answered R searchNs request ↔
    ∀ cls, classFor R searchNs request.1 request.2 = some cls →
      Returns ((ParseTask.mk cls request.1).run R searchNs) := by
  rw [Answered, newWithType_eq]
  cases classFor R searchNs request.1 request.2 <;> simp

/-- Filling in comes back if the class's part and `lasso_node_impl_init_from_xml` do. -/
theorem returns_run (task : ParseTask) : Returns (task.run R searchNs) ↔
    task.OwnMethodReturns R searchNs ∧ (task.cls.init.CallsImpl task.place.node →
      Returns (implInit R searchNs task.cls task.place
        (task.place.children.map (·.result R searchNs)))) := by
  obtain ⟨⟨name, chain, init, hbase⟩, path, node⟩ := task
  unfold ParseTask.run initFromXml ParseTask.OwnMethodReturns
  cases init with
  | impl => simp [InitMethod.CallsImpl]
  | after method =>
    simp only [InitMethod.CallsImpl, true_implies, returns_bind]
    constructor
    · rintro ⟨result, himpl, hmethod⟩
      refine ⟨fun result' himpl' => ?_, result, himpl⟩
      obtain rfl : result = result' := Except.ok.inj (himpl.symm.trans himpl')
      exact hmethod
    · rintro ⟨hmethod, result, himpl⟩
      exact ⟨result, himpl, hmethod result himpl⟩
  | own method => simp [InitMethod.CallsImpl]
  | miscText =>
    cases node with
    | text content => simp [InitMethod.CallsImpl, isMiscText]
    | element ns name' attrs children =>
      by_cases hmisc : isMiscText (.element ns name' attrs children) = true
      · simp [InitMethod.CallsImpl, hmisc]
      · simp [InitMethod.CallsImpl, hmisc]
    | _ => simp [InitMethod.CallsImpl, isMiscText]

/-- Filling in comes back just if nothing in the element stops it and all it asks for comes
back. -/
theorem returns_run_iff (task : ParseTask) : Returns (task.run R searchNs) ↔
    task.Harmless R searchNs ∧
      ∀ task', task.HandsOn R searchNs task' → Returns (task'.run R searchNs) := by
  simp only [returns_run task, returns_implInit, answered_iff]
  constructor
  · rintro ⟨hown, himpl⟩
    refine ⟨⟨fun hcalls hpasses => (himpl hcalls hpasses).1, hown⟩, ?_⟩
    rintro ⟨cls, place⟩ ⟨hcalls, hpasses, request, hasks, hcls, rfl⟩
    exact (himpl hcalls hpasses).2 request hasks cls hcls
  · rintro ⟨hharmless, hhands⟩
    refine ⟨hharmless.ownMethod, fun hcalls hpasses => ⟨hharmless.impl hcalls hpasses, ?_⟩⟩
    intro request hasks cls hcls
    exact hhands ⟨cls, request.1⟩ ⟨hcalls, hpasses, request, hasks, hcls, rfl⟩

/-! ## Descent -/

theorem sizeOf_child {place child : PlacedNode} (h : child ∈ place.children) :
    sizeOf child.node < sizeOf place.node := by
  have hmem := mem_placeFrom h
  cases hnode : place.node with
  | element ns name attrs children =>
    rw [hnode] at hmem
    have := List.sizeOf_lt_of_mem hmem
    simp only [XmlNode.children, XmlNode.element.sizeOf_spec] at this ⊢
    omega
  | _ => simp [hnode, XmlNode.children] at hmem

theorem Reads.subset {snippets : List Snippet} {parent : XmlNode} {cursor cursor' : Nat}
    {children rest : List PlacedNode} (h : Reads snippets parent cursor children cursor' rest) :
    rest ⊆ children := by
  induction h with
  | here => exact fun _ h => h
  | next _ _ ih => exact fun _ h => List.mem_cons_of_mem _ (ih h)

theorem place_of_mem_matchedRequests {snippet : Snippet} {child : PlacedNode}
    {request : ParseRequest} (h : request ∈ matchedRequests snippet child) :
    request.1 = child ∨ request.1 ∈ child.children := by
  unfold matchedRequests at h
  split_ifs at h
  · cases h
  · split at h
    · exact .inl (by rw [List.mem_singleton.mp h])
    · exact .inl (by rw [List.mem_singleton.mp h])
    · obtain ⟨first, hfirst, rfl⟩ := Option.map_eq_some_iff.mp (Option.mem_toList.mp h)
      exact .inr (List.mem_of_find?_eq_some hfirst)
    · cases h

theorem place_of_mem_leftoverRequest {snippet : Snippet} {child : PlacedNode}
    {request : ParseRequest} (h : request ∈ leftoverRequest snippet child) :
    request.1 = child := by
  unfold leftoverRequest at h
  split at h
  · split_ifs at h
    · rw [List.mem_singleton.mp h]
    · cases h
  · rw [List.mem_singleton.mp h]
  · cases h

/-- What is asked for at a child is made from the child or from a child of it. -/
theorem place_of_mem_requests {snippets : List Snippet} {any : Option Snippet} {parent : XmlNode}
    {cursor : Nat} {child : PlacedNode} {rest : List PlacedNode} {request : ParseRequest}
    (h : request ∈ requests snippets any parent cursor child rest) :
    request.1 ∈ child :: rest ∨ request.1 ∈ child.children := by
  unfold requests at h
  split_ifs at h with hlive
  · cases hnode : child.node with
    | text content =>
      simp only [hnode, textRequests] at h
      split at h
      · cases h
      · split_ifs at h
        · obtain rfl := List.mem_singleton.mp h
          exact .inl List.mem_cons_self
        · cases h
    | element ns name attrs nodes =>
      simp only [hnode] at h
      split at h
      · rcases place_of_mem_matchedRequests h with hself | hchild
        · exact .inl (hself ▸ List.mem_cons_self)
        · exact .inr hchild
      · cases h
    | _ => simp [hnode] at h
  · split at h
    · split_ifs at h
      · obtain ⟨child', hmem, hrequest⟩ := List.mem_flatMap.mp h
        exact .inl (place_of_mem_leftoverRequest hrequest ▸ hmem)
      · cases h
    · cases h

theorem sizeOf_handsOn {task task' : ParseTask} (h : task.HandsOn R searchNs task') :
    sizeOf task'.place.node < sizeOf task.place.node := by
  obtain ⟨-, -, request, ⟨cursor, child, rest, hreads, hrequest⟩, -, hplace⟩ := h
  rw [hplace]
  have hsub := hreads.subset
  rcases place_of_mem_requests hrequest with hmem | hmem
  · exact sizeOf_child (hsub hmem)
  · exact Nat.lt_trans (sizeOf_child hmem) (sizeOf_child (hsub List.mem_cons_self))

theorem wellFounded_handsOn : WellFounded (flip (ParseTask.HandsOn R searchNs)) :=
  Subrelation.wf (fun h => sizeOf_handsOn h)
    (measure fun task : ParseTask => sizeOf task.place.node).wf

end Task

/-- `<saml:Conditions><![CDATA[ ]]></saml:Conditions>` -/
def cdataConditions : PlacedNode :=
  ⟨[], .element (some saml2AssertionHref) "Conditions" [] [.cdata " "]⟩

end Lasso
