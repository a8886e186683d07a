import Lasso.Xml.ReadNode
import Mathlib.Data.List.Forall2
import Mathlib.Data.List.ReduceOption

/-!
# The members of the new object

What the members of the object hold that was read from the element of another one, snippet by
snippet: texts come from attributes and contents, and objects are made at the places of the
children.

## Main results

* `member_rel_text`, `contentOf_rest_content`, `contentOf_rest_listContent` — members with texts.
* `member_rel_objects`, `holdsObject_ownPlaces` — members with objects.
-/

namespace Lasso

open NodeObject

variable {R : Registry} {searchNs : NsScope} {initial : String → String → Int}
  {lassoDump rewritten : Bool} {cls : WritableClass}
  {members : List (String × MemberValue NodeObject)} {snippet : Snippet} {field : String}
  {value : MemberValue NodeObject}

/-! ## Texts -/

/-- What becomes of an integer that was written. -/
theorem readInteger_toString_eq (optionalNeg : Bool) {n : Int} (h : -2 ^ 31 ≤ n ∧ n < 2 ^ 31) :
    readInteger optionalNeg (toString n) =
      if n < 0 then (if optionalNeg then -1 else 0) else n := by
  have hlong : max (-2 ^ 63) (min (2 ^ 63 - 1) n) = n := by omega
  have hval : n.bmod (2 ^ 32) = n := Int.bmod_eq_of_le (by omega) (by omega)
  rw [readInteger, Decimal.strtol_toString, hlong, hval]

/-- An integer that was written is read back. -/
theorem readInteger_toString (optionalNeg : Bool) {n : Int} (hlow : 0 ≤ n) (hhigh : n < 2 ^ 31) :
    readInteger optionalNeg (toString n) = n := by
  rw [readInteger_toString_eq optionalNeg ⟨by omega, hhigh⟩, if_neg (by omega)]

/-- An integer that is negative becomes 0. -/
theorem readInteger_toString_max {n : Int} (h : -2 ^ 31 ≤ n ∧ n < 2 ^ 31) :
    readInteger false (toString n) = max 0 n := by
  rw [readInteger_toString_eq false h]
  simp only [Bool.false_eq_true, if_false]
  split <;> omega

/-- The member of an attribute or a content, when one text or none was written to it. -/
theorem member_rel_text (htypes : snippet.Types value)
    (hkind : snippet.kind = .attribute ∨ snippet.kind = .content) {object : ParsedNode} {init : Int}
    {r : ParsedNode → NodeObject → Prop}
    (hcontents : ∀ text ∈ object.contents field, snippet.text value = some text) :
    (object.member init snippet field).Rel r value ↔
      (object.contents field = [] → value.IsInitial init) := by
  have hmember : object.member init snippet field =
      if snippet.integer then
        .integer (((object.content field).map (readInteger snippet.optionalNeg)).getD init)
      else if snippet.boolean then
        .boolean (((object.content field).map readBoolean).getD (init != 0))
      else .string (object.content field) := by
    unfold ParsedNode.member
    rcases hkind with hkind | hkind <;> rw [hkind]
  rw [hmember, ParsedNode.content_eq_getLast?]
  rcases List.eq_nil_or_concat (object.contents field) with hnil | ⟨texts, text, hlast⟩
  · cases value with
    | string value =>
      obtain ⟨-, hinteger, hboolean⟩ := htypes
      simp [hnil, hinteger, hboolean, MemberValue.Rel, MemberValue.IsInitial, eq_comm]
    | integer value =>
      obtain ⟨-, hinteger, -⟩ := htypes
      simp [hnil, hinteger, MemberValue.Rel, MemberValue.IsInitial, eq_comm]
    | boolean value =>
      obtain ⟨-, hinteger, hboolean⟩ := htypes
      simp [hnil, hinteger, hboolean, MemberValue.Rel, MemberValue.IsInitial, eq_comm]
    | _ => rcases hkind with hkind | hkind <;> simp [Snippet.Types, hkind] at htypes
  · have htext := hcontents text (by simp [hlast])
    have hne : object.contents field ≠ [] := by simp [hlast]
    have hget : (object.contents field).getLast? = some text := by simp [hlast]
    rw [hget]
    simp only [hne, false_implies, iff_true]
    cases value with
    | string value =>
      obtain ⟨-, hinteger, hboolean⟩ := htypes
      obtain rfl : value = some text := htext
      simp [hinteger, hboolean, MemberValue.Rel]
    | integer value =>
      obtain ⟨-, hinteger, hrange⟩ := htypes
      simp only [Snippet.text] at htext
      split at htext
      · cases htext
      · rename_i hkept
        obtain rfl := Option.some.inj htext
        obtain ⟨hlow, hhigh⟩ : 0 ≤ value ∧ value < 2 ^ 31 := by
          rcases hrange with hrange | ⟨rfl, hneg⟩
          · exact hrange
          · simp [hneg] at hkept
        rw [if_pos hinteger]
        exact readInteger_toString _ hlow hhigh
    | boolean value =>
      obtain ⟨-, hinteger, hboolean⟩ := htypes
      simp only [Snippet.text] at htext
      split at htext
      · cases htext
      · obtain rfl := Option.some.inj htext
        cases value <;> simp [hinteger, hboolean, MemberValue.Rel, readBoolean]
    | _ => rcases hkind with hkind | hkind <;> simp [Snippet.Types, hkind] at htypes

/-! ## What the children write -/

/-- A snippet writes to its own member. -/
theorem storeMatched_other {child : ChildResult} {part : List Store}
    (hfield : snippet.field ≠ some field)
    (h : storeMatched snippet child = .ok part) :
    part.filterMap (Store.contentOf field) = [] ∧ part.filterMap (Store.nodeOf field) = [] := by
  unfold storeMatched at h
  cases hother : snippet.field with
  | none =>
    rw [hother] at h
    obtain rfl : part = [] := (Except.ok.inj h).symm
    exact ⟨rfl, rfl⟩
  | some field' =>
    have hne : field' ≠ field := fun heq => hfield (heq ▸ hother)
    simp only [hother] at h
    split at h
    · obtain ⟨node, -, h⟩ := Outcome.bind_eq_ok.mp h
      obtain rfl := Except.ok.inj h
      cases node <;> simp [Store.contentOf, Store.nodeOf, hne]
    · obtain ⟨node, -, h⟩ := Outcome.bind_eq_ok.mp h
      obtain rfl := Except.ok.inj h
      cases node <;> simp [Store.contentOf, Store.nodeOf, hne]
    · split at h
      · obtain rfl := Except.ok.inj h
        exact ⟨rfl, rfl⟩
      · obtain ⟨node, -, h⟩ := Outcome.bind_eq_ok.mp h
        obtain rfl := Except.ok.inj h
        simp [Store.contentOf, Store.nodeOf, hne]
    all_goals cases h
    all_goals simp [Store.contentOf, Store.nodeOf, hne]

section Children

variable {place : PlacedNode} {ns : Option String} {name : String} {rest : List Store}

/-- The places of the children of one snippet. -/
def ownPlaces (lassoDump : Bool) (cls : WritableClass)
    (members : List (String × MemberValue NodeObject)) (place : PlacedNode) (snippet : Snippet) :
    List PlacedNode :=
  ((childPlaces lassoDump cls members place).filter (·.1 = snippet)).map (·.2)

theorem ownPlaces_map_node (hplain : cls.Plain)
    (hmember : Member cls members snippet field value)
    (hnode : place.node = shown lassoDump rewritten ns name (.mk cls members)) :
    (ownPlaces lassoDump cls members place snippet).map (·.node) =
      if snippet.passedOver lassoDump then []
      else (snippetChildren cls.nameData.ns snippet (value.map (getXmlNode lassoDump))).map
        (·.rewriteLiberty (cls.rewrites rewritten members)) := by
  have hfilter : ((childPlaces lassoDump cls members place).map
      fun pair => (pair.1, pair.2.node)).filter (·.1 = snippet) =
      ((children lassoDump cls members).filter (·.1 = snippet)).map fun child =>
        (child.1, child.2.rewriteLiberty (cls.rewrites rewritten members)) := by
    rw [childPlaces_map_node hnode, List.filter_map]
    rfl
  rw [children_filter hplain hmember, List.filter_map] at hfilter
  have hnodes := congrArg (List.map Prod.snd) hfilter
  rw [List.map_map, List.map_map] at hnodes
  rw [ownPlaces, List.map_map]
  refine hnodes.trans ?_
  split
  · rfl
  · rw [List.map_map]
    rfl

/-- What the children write to the member of a snippet comes from the children of that snippet. -/
theorem filterMap_rest {α : Type} {g : Store → Option α} {h : PlacedNode → List α}
    (hplain : cls.Plain) (hmember : Member cls members snippet field value)
    (hother : ∀ {other child part}, other.field ≠ some field → storeMatched other child = .ok part →
      part.filterMap g = [])
    (hrest : Outcome.gather (fun pair => storeMatched pair.1 (pair.2.result R searchNs))
      (childPlaces lassoDump cls members place) = .ok rest)
    (hown : ∀ child ∈ ownPlaces lassoDump cls members place snippet, ∀ part,
      storeMatched snippet (child.result R searchNs) = .ok part → part.filterMap g = h child)
    (hnode : place.node = shown lassoDump rewritten ns name (.mk cls members)) :
    rest.filterMap g = (ownPlaces lassoDump cls members place snippet).flatMap h := by
  have hparts : ∀ pair ∈ childPlaces lassoDump cls members place, ∀ part,
      storeMatched pair.1 (pair.2.result R searchNs) = .ok part →
      part.filterMap g = if pair.1 = snippet then h pair.2 else [] := by
    intro pair hpair part hpart
    split
    · rename_i heq
      refine hown pair.2 ?_ part (heq ▸ hpart)
      exact List.mem_map.mpr ⟨pair, List.mem_filter.mpr ⟨hpair, by simpa using heq⟩, rfl⟩
    · rename_i hne
      refine hother ?_ hpart
      intro hfield
      obtain ⟨node, hchild, -⟩ := mem_childPlaces hnode hpair
      obtain ⟨_, _, ⟨hmem, -, -⟩, -⟩ := (mem_children hplain).mp hchild
      exact hne (hplain.eq_of_field hmem hmember.1 hfield hmember.2.1)
  rw [Outcome.filterMap_gather hrest hparts, ownPlaces, List.flatMap_map]
  induction childPlaces lassoDump cls members place with
  | nil => rfl
  | cons pair pairs ih =>
    rw [List.flatMap_cons, List.filter_cons, ih]
    by_cases heq : pair.1 = snippet <;> simp [heq]

/-- The texts that the children write to a member with contents are theirs. -/
theorem contentOf_rest (hplain : cls.Plain) (hmember : Member cls members snippet field value)
    (hkind : snippet.kind = .content ∨ snippet.kind = .listContent)
    (hnode : place.node = shown lassoDump rewritten ns name (.mk cls members))
    (hrest : Outcome.gather (fun pair => storeMatched pair.1 (pair.2.result R searchNs))
      (childPlaces lassoDump cls members place) = .ok rest) :
    rest.filterMap (Store.contentOf field) =
      ((ownPlaces lassoDump cls members place snippet).map (·.node)).map (·.textContent) := by
  have hown : ∀ child ∈ ownPlaces lassoDump cls members place snippet, ∀ part,
      storeMatched snippet (child.result R searchNs) = .ok part →
      part.filterMap (Store.contentOf field) = [child.node.textContent] := by
    intro child _ part hpart
    have hstore : storeMatched snippet (child.result R searchNs) =
        .ok [.content field child.node.textContent] := by
      unfold storeMatched
      rcases hkind with hkind | hkind <;> simp [hmember.2.1, hkind, pure, Except.pure]
    obtain rfl := Except.ok.inj (hstore.symm.trans hpart)
    simp [Store.contentOf]
  rw [filterMap_rest hplain hmember (fun hne hpart => (storeMatched_other hne hpart).1) hrest hown
    hnode, List.map_map, List.map_eq_flatMap]
  rfl

theorem textContent_newTextChild (parentNs : Option String) (name text : String) :
    ((newTextChild parentNs name text).rewriteLiberty rewritten).textContent = text := by
  exact XmlNode.textContent_text _ _ _ _

/-- The texts that the children write to the member of a content. -/
theorem contentOf_rest_content (hplain : cls.Plain)
    (hmember : Member cls members snippet field value) (hkind : snippet.kind = .content)
    (hnode : place.node = shown lassoDump rewritten ns name (.mk cls members))
    (hrest : Outcome.gather (fun pair => storeMatched pair.1 (pair.2.result R searchNs))
      (childPlaces lassoDump cls members place) = .ok rest) :
    rest.filterMap (Store.contentOf field) =
      if snippet.passedOver lassoDump then [] else (snippet.text value).toList := by
  rw [contentOf_rest hplain hmember (.inl hkind) hnode hrest,
    ownPlaces_map_node hplain hmember hnode, snippetChildren_content hkind]
  split
  · rfl
  · simp [Function.comp_def, textContent_newTextChild]

/-- The texts that the children write to a list of strings. -/
theorem contentOf_rest_listContent (hplain : cls.Plain) {values : List String}
    (hmember : Member cls members snippet field (.strings values))
    (hkind : snippet.kind = .listContent)
    (hnode : place.node = shown lassoDump rewritten ns name (.mk cls members))
    (hrest : Outcome.gather (fun pair => storeMatched pair.1 (pair.2.result R searchNs))
      (childPlaces lassoDump cls members place) = .ok rest) :
    rest.filterMap (Store.contentOf field) =
      if snippet.passedOver lassoDump then [] else values := by
  rw [contentOf_rest hplain hmember (.inr hkind) hnode hrest,
    ownPlaces_map_node hplain hmember hnode, MemberValue.map,
    snippetChildren_listContent hplain hmember.1 hkind]
  split
  · rfl
  · simp [Function.comp_def, textContent_newTextChild]

/-- The children write nothing to the member of an attribute. -/
theorem filterMap_rest_attribute {α : Type} {g : Store → Option α} (hplain : cls.Plain)
    (hmember : Member cls members snippet field value) (hkind : snippet.kind = .attribute)
    (hother : ∀ {other child part}, other.field ≠ some field → storeMatched other child = .ok part →
      part.filterMap g = [])
    (hnode : place.node = shown lassoDump rewritten ns name (.mk cls members))
    (hrest : Outcome.gather (fun pair => storeMatched pair.1 (pair.2.result R searchNs))
      (childPlaces lassoDump cls members place) = .ok rest) :
    rest.filterMap g = [] := by
  have hnone : ownPlaces lassoDump cls members place snippet = [] := by
    have hnodes := ownPlaces_map_node hplain hmember hnode
    rw [snippetChildren_attribute hkind] at hnodes
    simpa using hnodes
  have hparts := filterMap_rest (h := fun _ => []) hplain hmember hother hrest
    (by simp [hnone]) hnode
  simpa [hnone] using hparts

/-! ## The objects that are made -/

/-- The object that a snippet makes of a child. -/
def Snippet.make (snippet : Snippet) (child : ChildResult) : Except Fault (Option ParsedNode) :=
  if snippet.kind = .nodeInChild then
    match child.firstChild with
    | none => .ok none
    | some new => new snippet.className
  else child.withType snippet.className

/-- The snippet is for objects. -/
def Snippet.TakesObjects (snippet : Snippet) : Prop :=
  snippet.kind = .node ∨ snippet.kind = .listNodes ∨ snippet.kind = .nodeInChild

/-- What is written for the object that was made. -/
theorem storeMatched_objects {child : ChildResult} {part : List Store}
    (hfield : snippet.field = some field) (hkind : snippet.TakesObjects)
    (h : storeMatched snippet child = .ok part) :
    ∃ made, snippet.make child = .ok made ∧
      part.filterMap (fun store => (store.nodeOf field).join) = made.toList ∧
      ((part.filterMap (Store.nodeOf field)).getLast?).join = made := by
  have hwithType : snippet.kind ≠ .nodeInChild →
      (do
        let subnode ← child.withType snippet.className
        return subnode.toList.map (Store.node field <| some ·)) = Except.ok part →
      ∃ made, snippet.make child = .ok made ∧
        part.filterMap (fun store => (store.nodeOf field).join) = made.toList ∧
        ((part.filterMap (Store.nodeOf field)).getLast?).join = made := by
    intro hne h
    obtain ⟨made, hmade, h⟩ := Outcome.bind_eq_ok.mp h
    obtain rfl := Except.ok.inj h
    refine ⟨made, by rw [Snippet.make, if_neg hne, hmade], ?_⟩
    cases made <;> simp [Store.nodeOf]
  unfold storeMatched at h
  rcases hkind with hkind | hkind | hkind
  · simp only [hfield, hkind] at h
    exact hwithType (by simp [hkind]) h
  · simp only [hfield, hkind] at h
    exact hwithType (by simp [hkind]) h
  · simp only [hfield, hkind] at h
    rw [Snippet.make, if_pos hkind]
    cases hfirst : child.firstChild with
    | none =>
      rw [hfirst] at h
      obtain rfl := Except.ok.inj h
      exact ⟨none, rfl, rfl, rfl⟩
    | some new =>
      rw [hfirst] at h
      obtain ⟨made, hmade, h⟩ := Outcome.bind_eq_ok.mp h
      obtain rfl := Except.ok.inj h
      refine ⟨made, hmade, ?_⟩
      cases made <;> simp [Store.nodeOf]

/-- Storing what a child is for comes back when making the object does. -/
theorem returns_storeMatched_of_make {child : ChildResult}
    (hkind : snippet.kind = .content ∨ snippet.kind = .listContent ∨ snippet.TakesObjects)
    (hmake : snippet.TakesObjects → ∃ made, snippet.make child = .ok made) :
    Outcome.Returns (storeMatched snippet child) := by
  have hwithType : snippet.kind ≠ .nodeInChild → snippet.TakesObjects →
      ∀ store : ParsedNode → Store, Outcome.Returns (do
        let subnode ← child.withType snippet.className
        return subnode.toList.map store) := by
    intro hne hobjects store
    obtain ⟨made, hmade⟩ := hmake hobjects
    rw [Snippet.make, if_neg hne] at hmade
    exact ⟨_, Outcome.bind_eq_ok.mpr ⟨made, hmade, rfl⟩⟩
  unfold storeMatched
  cases snippet.field with
  | none => exact Outcome.returns_pure _
  | some field =>
    rcases hkind with hkind | hkind | hobjects
    · simp [hkind]
    · simp [hkind]
    · rcases id hobjects with hkind | hkind | hkind
      · simp only [hkind]
        exact hwithType (by simp [hkind]) hobjects _
      · simp only [hkind]
        exact hwithType (by simp [hkind]) hobjects _
      · obtain ⟨made, hmade⟩ := hmake hobjects
        simp only [hkind]
        rw [Snippet.make, if_pos hkind] at hmade
        cases hfirst : child.firstChild with
        | none => exact Outcome.returns_pure _
        | some new =>
          rw [hfirst] at hmade
          exact ⟨_, Outcome.bind_eq_ok.mpr ⟨made, hmade, rfl⟩⟩

/-- As many objects as there are places were made, so one was made at each. -/
theorem forall₂_filterMap {α β γ : Type} {f : α → Option β} {r : β → γ → Prop} {as : List α}
    {cs : List γ} (hlength : as.length ≤ cs.length) :
    List.Forall₂ r (as.filterMap f) cs ↔
      List.Forall₂ (fun a c => ∃ b, f a = some b ∧ r b c) as cs := by
  induction as generalizing cs with
  | nil => cases cs <;> simp
  | cons a as ih =>
    cases cs with
    | nil => simp at hlength
    | cons c cs =>
      have hlength' : as.length ≤ cs.length := by simpa using hlength
      rw [List.forall₂_cons, ← ih hlength', List.filterMap_cons]
      cases hf : f a with
      | none =>
        have hshort : ¬List.Forall₂ r (as.filterMap f) (c :: cs) := by
          intro hall
          have hlen := hall.length_eq
          have hle := List.length_filterMap_le f as
          simp only [List.length_cons] at hlen
          omega
        simp [hshort]
      | some b => simp

theorem length_ownPlaces (hplain : cls.Plain) (hmember : Member cls members snippet field value)
    (hkind : snippet.TakesObjects) (htypes : snippet.Types value)
    (hnode : place.node = shown lassoDump rewritten ns name (.mk cls members)) :
    (ownPlaces lassoDump cls members place snippet).length =
      if snippet.passedOver lassoDump then 0 else value.objects.length := by
  have hlength := congrArg List.length (ownPlaces_map_node hplain hmember hnode)
  rw [List.length_map] at hlength
  rw [hlength]
  split
  · rfl
  · rw [List.length_map]
    rcases hkind with hkind | hkind | hkind
    · rw [snippetChildren_objects hplain hmember.1 (.inl hkind) htypes, List.length_map]
    · rw [snippetChildren_objects hplain hmember.1 (.inr hkind) htypes, List.length_map]
    · rw [snippetChildren_nodeInChild hkind htypes, List.length_map]

/-- One object at most was made, and at its place. -/
theorem optionRel_bind {α β γ : Type} {f : α → Option β} {r : β → γ → Prop} {as : List α}
    {c : Option γ} (hlength : as.length ≤ c.toList.length) :
    Option.Rel r (as.head?.bind f) c ↔
      List.Forall₂ (fun a c => ∃ b, f a = some b ∧ r b c) as c.toList := by
  cases c with
  | none =>
    obtain rfl : as = [] := by simpa using hlength
    simp
  | some c =>
    match as with
    | [] => exact ⟨nofun, nofun⟩
    | [a] => cases hf : f a <;> simp [hf]
    | _ :: _ :: _ => simp at hlength

/-- The object that a snippet makes at a place. -/
def madeAt (R : Registry) (searchNs : NsScope) (snippet : Snippet) (own : PlacedNode) :
    Option ParsedNode :=
  (snippet.make (own.result R searchNs)).toOption.join

theorem madeAt_eq_some {own : PlacedNode} {node : ParsedNode} :
    madeAt R searchNs snippet own = some node ↔
      snippet.make (own.result R searchNs) = .ok (some node) := by
  rw [madeAt]
  cases snippet.make (own.result R searchNs) <;> simp [Except.toOption]

section Objects

variable (hplain : cls.Plain) (hmember : Member cls members snippet field value)
  (hkind : snippet.TakesObjects) {attributes : List Store}
  (hattributes : attributes.filterMap (Store.nodeOf field) = [])
  (hnode : place.node = shown lassoDump rewritten ns name (.mk cls members))
  (hrest : Outcome.gather (fun pair => storeMatched pair.1 (pair.2.result R searchNs))
    (childPlaces lassoDump cls members place) = .ok rest)

include hmember hkind hrest in
/-- The object made at each place is written. -/
theorem storeMatched_ownPlaces {own : PlacedNode}
    (hown : own ∈ ownPlaces lassoDump cls members place snippet) :
    ∃ part, storeMatched snippet (own.result R searchNs) = .ok part ∧
      part.filterMap (fun store => (store.nodeOf field).join) =
        (madeAt R searchNs snippet own).toList ∧
      ((part.filterMap (Store.nodeOf field)).getLast?).join = madeAt R searchNs snippet own := by
  obtain ⟨pair, hpair, rfl⟩ := List.mem_map.mp hown
  obtain ⟨hmem, heq⟩ := List.mem_filter.mp hpair
  obtain ⟨part, hpart⟩ := Outcome.returns_gather.mp ⟨rest, hrest⟩ pair hmem
  rw [of_decide_eq_true heq] at hpart
  obtain ⟨made, hmake, hparts⟩ := storeMatched_objects hmember.2.1 hkind hpart
  have hmade : madeAt R searchNs snippet pair.2 = made := by
    simp [madeAt, hmake, Except.toOption]
  exact ⟨part, hpart, hmade ▸ hparts⟩

include hplain hmember hkind hattributes hnode hrest in
theorem subnodes_shown (className : String) :
    (ParsedNode.mk className (attributes ++ rest)).subnodes field =
      (ownPlaces lassoDump cls members place snippet).filterMap (madeAt R searchNs snippet) := by
  have hnone : attributes.filterMap (fun store => (store.nodeOf field).join) = [] := by
    rw [List.filterMap_eq_nil_iff] at hattributes ⊢
    intro store hstore
    rw [hattributes store hstore, Option.join_none]
  have hother : ∀ {other : Snippet} {child part}, other.field ≠ some field →
      storeMatched other child = .ok part →
      part.filterMap (fun store => (store.nodeOf field).join) = [] := by
    intro other child part hfield hpart
    have hpart' := (storeMatched_other hfield hpart).2
    rw [List.filterMap_eq_nil_iff] at hpart' ⊢
    intro store hstore
    rw [hpart' store hstore, Option.join_none]
  have hown : ∀ own ∈ ownPlaces lassoDump cls members place snippet, ∀ part,
      storeMatched snippet (own.result R searchNs) = .ok part →
      part.filterMap (fun store => (store.nodeOf field).join) =
        (madeAt R searchNs snippet own).toList := by
    intro own hown part hpart
    obtain ⟨part', hpart', hmade, -⟩ := storeMatched_ownPlaces hmember hkind hrest hown
    obtain rfl := Except.ok.inj (hpart.symm.trans hpart')
    exact hmade
  rw [ParsedNode.subnodes_eq_filterMap, ParsedNode.stores, List.filterMap_append, hnone,
    List.nil_append, filterMap_rest hplain hmember hother hrest hown hnode]
  exact (List.filterMap_eq_flatMap_toList _ _).symm

include hplain hmember hkind hattributes hnode hrest in
theorem subnode_shown (className : String)
    (hlength : (ownPlaces lassoDump cls members place snippet).length ≤ 1) :
    (ParsedNode.mk className (attributes ++ rest)).subnode field =
      (ownPlaces lassoDump cls members place snippet).head?.bind
        (madeAt R searchNs snippet) := by
  have hown : ∀ own ∈ ownPlaces lassoDump cls members place snippet, ∀ part,
      storeMatched snippet (own.result R searchNs) = .ok part →
      part.filterMap (Store.nodeOf field) =
        match storeMatched snippet (own.result R searchNs) with
        | .ok part => part.filterMap (Store.nodeOf field)
        | .error _ => [] := by
    intro own _ part hpart
    rw [hpart]
  rw [ParsedNode.subnode_eq_getLast?, ParsedNode.stores, List.filterMap_append, hattributes,
    List.nil_append,
    filterMap_rest hplain hmember (fun hne hpart => (storeMatched_other hne hpart).2) hrest hown
      hnode]
  match howns : ownPlaces lassoDump cls members place snippet with
  | [] => rfl
  | [own] =>
    obtain ⟨part, hpart, -, hmade⟩ := storeMatched_ownPlaces hmember hkind hrest
      (howns ▸ List.mem_singleton_self own)
    simpa [hpart] using hmade
  | _ :: _ :: _ => simp [howns] at hlength

include hplain hmember hkind hattributes hnode hrest in
/-- A member with objects holds what it should when each object was made at its place. -/
theorem member_rel_objects (htypes : snippet.Types value) {className : String} {init : Int}
    {r : ParsedNode → NodeObject → Prop} :
    ((ParsedNode.mk className (attributes ++ rest)).member init snippet field).Rel r value ↔
      List.Forall₂ (fun own child => ∃ made,
          snippet.make (own.result R searchNs) = .ok (some made) ∧ r made child)
        (ownPlaces lassoDump cls members place snippet) value.objects := by
  have hlength : (ownPlaces lassoDump cls members place snippet).length ≤ value.objects.length := by
    rw [length_ownPlaces hplain hmember hkind htypes hnode]
    split <;> omega
  have hsingle : ∀ node : Option NodeObject, node.toList.length ≤ 1 := by
    intro node
    cases node <;> simp
  simp only [← madeAt_eq_some]
  rcases hkind with hkind' | hkind' | hkind'
  · obtain ⟨node, rfl⟩ := htypes.exists_node (.inl hkind')
    have hsubnode := subnode_shown hplain hmember (.inl hkind') hattributes hnode hrest className
      (Nat.le_trans hlength (hsingle node))
    rw [ParsedNode.member, hkind']
    dsimp only [MemberValue.Rel]
    rw [hsubnode]
    exact optionRel_bind hlength
  · obtain ⟨nodes, rfl⟩ := htypes.exists_nodes hkind'
    have hsubnodes := subnodes_shown hplain hmember (.inr (.inl hkind')) hattributes hnode
      hrest className
    rw [ParsedNode.member, hkind']
    dsimp only [MemberValue.Rel]
    rw [hsubnodes]
    exact forall₂_filterMap hlength
  · obtain ⟨node, rfl⟩ := htypes.exists_node (.inr hkind')
    have hsubnode := subnode_shown hplain hmember (.inr (.inr hkind')) hattributes hnode
      hrest className (Nat.le_trans hlength (hsingle node))
    rw [ParsedNode.member, hkind']
    dsimp only [MemberValue.Rel]
    rw [hsubnode]
    exact optionRel_bind hlength

end Objects

/-- What the snippet makes of a child at a place, it makes of the element of an object. -/
def HoldsObject (R : Registry) (searchNs : NsScope) (lassoDump rewritten : Bool)
    (snippet : Snippet) (own : PlacedNode) (child : NodeObject) : Prop :=
  ∃ inner : PlacedNode,
    snippet.make (own.result R searchNs) = newWithType R searchNs inner snippet.className ∧
    inner.node = child.shown lassoDump rewritten ((snippet.objectNs child).map
      (libertyHref rewritten)) (snippet.objectName child)

theorem shown_isElement (ns : Option String) (name : String) (object : NodeObject) :
    (object.shown lassoDump rewritten ns name).isElement = true := by
  obtain ⟨cls, members⟩ := object
  rfl

/-- The places of the children of a snippet hold its objects one by one. -/
theorem holdsObject_ownPlaces (hplain : cls.Plain)
    (hmember : Member cls members snippet field value) (hkind : snippet.TakesObjects)
    (htypes : snippet.Types value) (hpassed : snippet.passedOver lassoDump = false)
    (hnode : place.node = shown lassoDump rewritten ns name (.mk cls members)) :
    List.Forall₂ (HoldsObject R searchNs lassoDump (cls.rewrites rewritten members) snippet)
      (ownPlaces lassoDump cls members place snippet) value.objects := by
  have hnodes := ownPlaces_map_node hplain hmember hnode
  rw [hpassed, if_neg Bool.false_ne_true] at hnodes
  have hforall : ∀ {places : List PlacedNode} {objects : List NodeObject}
      {f : NodeObject → XmlNode}, places.map (·.node) = objects.map f →
      List.Forall₂ (fun own child => own.node = f child) places objects := by
    intro places objects f heq
    rw [← List.forall₂_eq_eq_eq, List.forall₂_map_left_iff, List.forall₂_map_right_iff] at heq
    exact heq
  have hdirect : snippet.kind = .node ∨ snippet.kind = .listNodes →
      List.Forall₂ (HoldsObject R searchNs lassoDump (cls.rewrites rewritten members) snippet)
        (ownPlaces lassoDump cls members place snippet) value.objects := by
    intro hkind
    rw [snippetChildren_objects hplain hmember.1 hkind htypes, List.map_map] at hnodes
    refine (hforall hnodes).imp fun own child hown => ⟨own, ?_, ?_⟩
    · rw [Snippet.make, if_neg (by rcases hkind with hkind | hkind <;> simp [hkind])]
      rfl
    · have hne : snippet.kind ≠ .nodeInChild := by rcases hkind with hkind | hkind <;> simp [hkind]
      rw [hown, Function.comp_apply, shown_rewriteLiberty, Bool.or_false, Snippet.objectNs,
        Snippet.objectName, if_neg hne, if_neg hne]
  rcases hkind with hkind | hkind | hkind
  · exact hdirect (.inl hkind)
  · exact hdirect (.inr hkind)
  · rw [snippetChildren_nodeInChild hkind htypes, List.map_map] at hnodes
    refine (hforall hnodes).imp fun own child hown => ?_
    let inner : PlacedNode := ⟨own.path ++ [0], child.shown lassoDump
      (cls.rewrites rewritten members) (child.ns.map (libertyHref (cls.rewrites rewritten members)))
      child.cls.nameData.nodeName⟩
    refine ⟨inner, ?_, ?_⟩
    · have hchildren : own.children = [inner] := by
        rw [PlacedNode.children, hown]
        simp [placeFrom, XmlNode.children, inner, shown_rewriteLiberty]
      rw [Snippet.make, if_pos hkind, PlacedNode.result_eq, childResult, hchildren]
      simp [shown_isElement, inner, newWithType]
    · rw [Snippet.objectNs, Snippet.objectName, if_pos hkind, if_pos hkind]

end Children

end Lasso
