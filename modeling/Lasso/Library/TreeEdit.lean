import Mathlib.Data.List.Basic

/-!
# Editing a tree at a path

The nodes of an ordered tree have a label, attributes and children, and are known by paths from the
root. A node is edited where it stands, or taken out of the list that it stands in. When nodes are
removed one after the other, the paths of those that remain change; what is left in the end does
not depend on that: it is the tree without the nodes that were named in the beginning.

## Main definitions

* `TreeEdit.edit`, `TreeEdit.editSiblings` — change a node, or the list that it stands in.
* `TreeEdit.removeEach` — remove nodes one after the other.
* `TreeEdit.prune` — leave nodes out.

## Main results

* `TreeEdit.removeEach_eq_prune` — both give the same tree.
-/

namespace TreeEdit

universe u

/-- An ordered tree. -/
inductive OrdTree (κ : Type u) where
  | mk (label : κ) (attributes children : List (OrdTree κ))

/-- The two lists of a node. -/
inductive Branch where
  | attr | child
deriving DecidableEq

/-- A place in one of the lists. -/
structure Step where
  branch : Branch
  index : Nat
deriving DecidableEq

/-- A path from the root, which is at the empty one. -/
abbrev NodePath := List Step

variable {κ : Type u}

namespace OrdTree

def label : OrdTree κ → κ
  | mk label _ _ => label

def list : Branch → OrdTree κ → List (OrdTree κ)
  | .attr, mk _ attributes _ => attributes
  | .child, mk _ _ children => children

/-- Change one of the lists. -/
def mapList : Branch → (List (OrdTree κ) → List (OrdTree κ)) → OrdTree κ → OrdTree κ
  | .attr, f, mk label attributes children => mk label (f attributes) children
  | .child, f, mk label attributes children => mk label attributes (f children)

@[simp] theorem label_mapList (branch : Branch) (f : List (OrdTree κ) → List (OrdTree κ))
    (t : OrdTree κ) : (t.mapList branch f).label = t.label := by
  cases t
  cases branch <;> rfl

@[simp] theorem mapList_mapList (branch : Branch) (f g : List (OrdTree κ) → List (OrdTree κ))
    (t : OrdTree κ) :
    (t.mapList branch g).mapList branch f = t.mapList branch fun ts => f (g ts) := by
  cases t
  cases branch <;> rfl

@[simp] theorem mapList_id (branch : Branch) (t : OrdTree κ) :
    (t.mapList branch fun ts => ts) = t := by
  cases t
  cases branch <;> rfl

theorem mapList_inj {branch : Branch} {f g : List (OrdTree κ) → List (OrdTree κ)} {t : OrdTree κ} :
    t.mapList branch f = t.mapList branch g ↔ f (t.list branch) = g (t.list branch) := by
  cases t
  cases branch <;> simp [mapList, list]

end OrdTree

/-! ## Paths -/

/-- The node at a path. -/
def at? : NodePath → OrdTree κ → Option (OrdTree κ)
  | [], t => some t
  | step :: path, t => (t.list step.branch)[step.index]?.bind (at? path)

/-- Change the node at a path. -/
def edit (f : OrdTree κ → OrdTree κ) : NodePath → OrdTree κ → OrdTree κ
  | [], t => f t
  | step :: path, t => t.mapList step.branch fun ts => ts.modify step.index (edit f path)

theorem edit_id (path : NodePath) (t : OrdTree κ) : edit (fun n => n) path t = t := by
  induction path generalizing t with
  | nil => rfl
  | cons step path ih =>
    have hmodify (ts : List (OrdTree κ)) : ts.modify step.index (edit (fun n => n) path) = ts := by
      rw [funext ih]
      exact List.modify_id step.index ts
    rw [edit]
    simp only [hmodify, OrdTree.mapList_id]

theorem edit_edit (f g : OrdTree κ → OrdTree κ) (path : NodePath) (t : OrdTree κ) :
    edit f path (edit g path t) = edit (fun n => f (g n)) path t := by
  induction path generalizing t with
  | nil => rfl
  | cons step path ih =>
    rw [edit, edit, edit, OrdTree.mapList_mapList]
    congr 1
    funext ts
    rw [List.modify_modify_eq]
    congr 1
    funext n
    exact ih n

/-- Two changes of a node that is there give the same tree just if they give the same node. -/
theorem edit_inj {f g : OrdTree κ → OrdTree κ} {path : NodePath} {t n : OrdTree κ}
    (h : at? path t = some n) : edit f path t = edit g path t ↔ f n = g n := by
  induction path generalizing t with
  | nil =>
    obtain rfl := Option.some.inj h
    rfl
  | cons step path ih =>
    obtain ⟨next, hnext, hrest⟩ := Option.bind_eq_some_iff.mp h
    rw [edit, edit, OrdTree.mapList_inj, ← ih hrest]
    constructor
    · intro heq
      have helem := congrArg (·[step.index]?) heq
      simpa [hnext] using helem
    · intro heq
      apply List.ext_getElem?
      intro i
      by_cases hi : step.index = i
      · subst hi
        simp [hnext, heq]
      · simp [hi]

/-- Changes of one node, one after the other. -/
theorem foldl_edit {α : Type*} (f : α → OrdTree κ → OrdTree κ) (path : NodePath) (xs : List α)
    (t : OrdTree κ) :
    xs.foldl (fun t x => edit (f x) path t) t =
      edit (fun n => xs.foldl (fun n x => f x n) n) path t := by
  induction xs generalizing t with
  | nil => exact (edit_id path t).symm
  | cons x xs ih =>
    rw [List.foldl_cons, ih, edit_edit]
    rfl

/-- Change the list that the node at a path stands in; the root stands in none. -/
def editSiblings (f : Nat → List (OrdTree κ) → List (OrdTree κ)) (path : NodePath)
    (t : OrdTree κ) : OrdTree κ :=
  match path.getLast? with
  | none => t
  | some step => edit (·.mapList step.branch (f step.index)) path.dropLast t

section

variable (f g : Nat → List (OrdTree κ) → List (OrdTree κ)) {path : NodePath}

theorem editSiblings_cons (h : path ≠ []) (step : Step) (t : OrdTree κ) :
    editSiblings f (step :: path) t =
      t.mapList step.branch fun ts => ts.modify step.index (editSiblings f path) := by
  cases path with
  | nil => contradiction
  | cons next path =>
    have hlast : (step :: next :: path).getLast? = (next :: path).getLast? :=
      List.getLast?_cons_cons
    unfold editSiblings
    rw [hlast]
    cases hstep : (next :: path).getLast? with
    | none => simp at hstep
    | some last => rfl

@[simp] theorem label_editSiblings (path : NodePath) (t : OrdTree κ) :
    (editSiblings f path t).label = t.label := by
  cases path with
  | nil => rfl
  | cons step path =>
    cases path with
    | nil => exact OrdTree.label_mapList step.branch (f step.index) t
    | cons next path => rw [editSiblings_cons f (by simp), OrdTree.label_mapList]

theorem editSiblings_editSiblings (path : NodePath) (t : OrdTree κ) :
    editSiblings f path (editSiblings g path t) =
      editSiblings (fun i ts => f i (g i ts)) path t := by
  unfold editSiblings
  cases path.getLast? with
  | none => rfl
  | some step =>
    dsimp only
    rw [edit_edit]
    simp only [OrdTree.mapList_mapList]

/-- Changes of one list, one after the other. -/
theorem foldl_editSiblings {α : Type*} (f : α → Nat → List (OrdTree κ) → List (OrdTree κ))
    (path : NodePath) (xs : List α) (t : OrdTree κ) :
    xs.foldl (fun t x => editSiblings (f x) path t) t =
      editSiblings (fun i ts => xs.foldl (fun ts x => f x i ts) ts) path t := by
  induction xs generalizing t with
  | nil =>
    unfold editSiblings
    cases path.getLast? with
    | none => rfl
    | some step =>
      simp only [List.foldl_nil, OrdTree.mapList_id]
      exact (edit_id path.dropLast t).symm
  | cons x xs ih =>
    rw [List.foldl_cons, ih, editSiblings_editSiblings]
    rfl

/-- The list that a node stands in, split at the node. -/
theorem exists_siblings {t n : OrdTree κ} (hpath : path ≠ []) (h : at? path t = some n) :
    ∃ step before after, path.getLast? = some step ∧ before.length = step.index ∧
      ∀ f g : Nat → List (OrdTree κ) → List (OrdTree κ),
        editSiblings f path t = editSiblings g path t ↔
          f step.index (before ++ n :: after) = g step.index (before ++ n :: after) := by
  induction path generalizing t with
  | nil => contradiction
  | cons step path ih =>
    obtain ⟨next, hnext, hrest⟩ := Option.bind_eq_some_iff.mp h
    cases path with
    | nil =>
      obtain rfl := Option.some.inj hrest
      obtain ⟨hindex, rfl⟩ := List.getElem?_eq_some_iff.mp hnext
      refine ⟨step, (t.list step.branch).take step.index,
        (t.list step.branch).drop (step.index + 1), rfl,
        List.length_take_of_le (Nat.le_of_lt hindex), fun f g => ?_⟩
      rw [← List.drop_eq_getElem_cons hindex, List.take_append_drop]
      exact OrdTree.mapList_inj
    | cons second path =>
      obtain ⟨last, before, after, hlast, hlength, heq⟩ := ih (by simp) hrest
      refine ⟨last, before, after, by rwa [List.getLast?_cons_cons], hlength, fun f g => ?_⟩
      have hstep : at? [step] t = some next := Option.bind_eq_some_iff.mpr ⟨next, hnext, rfl⟩
      rw [editSiblings_cons f (by simp), editSiblings_cons g (by simp), ← heq f g]
      exact edit_inj hstep

end

/-- Take the node at a path out of its list. -/
def remove : NodePath → OrdTree κ → OrdTree κ := editSiblings fun i ts => ts.eraseIdx i

/-! ## Leaving nodes out -/

mutual

/-- The tree without the nodes whose paths have a property, and without what is below them. -/
def prune (P : NodePath → Bool) : OrdTree κ → OrdTree κ
  | .mk label attributes children =>
    .mk label (pruneFrom P .attr 0 attributes) (pruneFrom P .child 0 children)

/-- The same for the nodes of a list from place `i` on. -/
def pruneFrom (P : NodePath → Bool) (branch : Branch) (i : Nat) :
    List (OrdTree κ) → List (OrdTree κ)
  | [] => []
  | t :: ts =>
    if P [⟨branch, i⟩] then pruneFrom P branch (i + 1) ts
    else prune (fun q => P (⟨branch, i⟩ :: q)) t :: pruneFrom P branch (i + 1) ts

end

section

variable {P Q : NodePath → Bool} {branch : Branch} {i n : Nat} {ts : List (OrdTree κ)}
  {t : OrdTree κ}

theorem pruneFrom_congr (h : ∀ j q, i ≤ j → P (⟨branch, j⟩ :: q) = Q (⟨branch, j⟩ :: q)) :
    pruneFrom P branch i ts = pruneFrom Q branch i ts := by
  induction ts generalizing i with
  | nil => rw [pruneFrom, pruneFrom]
  | cons t ts ih =>
    rw [pruneFrom, pruneFrom, h i [] (Nat.le_refl i), funext fun q => h i q (Nat.le_refl i),
      ih fun j q hj => h j q (by omega)]

/-- The root is never left out. -/
theorem prune_congr (h : ∀ step q, P (step :: q) = Q (step :: q)) : prune P t = prune Q t := by
  cases t
  rw [prune, prune, pruneFrom_congr fun j q _ => h ⟨.attr, j⟩ q,
    pruneFrom_congr fun j q _ => h ⟨.child, j⟩ q]

theorem pruneFrom_shift
    (h : ∀ j q, i ≤ j → P (⟨branch, j + 1⟩ :: q) = Q (⟨branch, j⟩ :: q)) :
    pruneFrom P branch (i + 1) ts = pruneFrom Q branch i ts := by
  induction ts generalizing i with
  | nil => rw [pruneFrom, pruneFrom]
  | cons t ts ih =>
    rw [pruneFrom, pruneFrom, h i [] (Nat.le_refl i), funext fun q => h i q (Nat.le_refl i),
      ih fun j q hj => h j q (by omega)]

/-- A node that is left out can be erased, if the ones behind it are known by their new places. -/
theorem pruneFrom_eraseIdx (hP : P [⟨branch, i + n⟩] = true)
    (hbefore : ∀ j q, j < i + n → P (⟨branch, j⟩ :: q) = Q (⟨branch, j⟩ :: q))
    (hafter : ∀ j q, i + n ≤ j → P (⟨branch, j + 1⟩ :: q) = Q (⟨branch, j⟩ :: q)) :
    pruneFrom P branch i ts = pruneFrom Q branch i (ts.eraseIdx n) := by
  induction ts generalizing i n with
  | nil => simp [pruneFrom]
  | cons t ts ih =>
    cases n with
    | zero =>
      rw [Nat.add_zero] at hP hafter
      rw [pruneFrom, if_pos hP, List.eraseIdx_cons_zero]
      exact pruneFrom_shift hafter
    | succ n =>
      rw [List.eraseIdx_cons_succ, pruneFrom, pruneFrom, hbefore i [] (by omega),
        funext fun q => hbefore i q (by omega)]
      have hplace : i + 1 + n = i + (n + 1) := by omega
      rw [ih (i := i + 1) (n := n) (by rwa [hplace]) (fun j q hj => hbefore j q (by omega))
        (fun j q hj => hafter j q (by omega))]

/-- A node can be changed by what leaves nodes out of it. -/
theorem pruneFrom_modify {f : OrdTree κ → OrdTree κ}
    (hother : ∀ j q, j ≠ i + n → P (⟨branch, j⟩ :: q) = Q (⟨branch, j⟩ :: q))
    (hsame : P [⟨branch, i + n⟩] = Q [⟨branch, i + n⟩])
    (hf : ∀ t, prune (fun q => P (⟨branch, i + n⟩ :: q)) t =
      prune (fun q => Q (⟨branch, i + n⟩ :: q)) (f t)) :
    pruneFrom P branch i ts = pruneFrom Q branch i (ts.modify n f) := by
  induction ts generalizing i n with
  | nil => simp [pruneFrom]
  | cons t ts ih =>
    cases n with
    | zero =>
      simp only [Nat.add_zero] at hother hsame hf
      rw [List.modify_zero_cons, pruneFrom, pruneFrom, ← hf t, ← hsame,
        pruneFrom_congr fun j q hj => hother j q (by omega)]
    | succ n =>
      rw [List.modify_succ_cons, pruneFrom, pruneFrom, hother i [] (by omega),
        funext fun q => hother i q (by omega)]
      have hplace : i + 1 + n = i + (n + 1) := by omega
      rw [ih (i := i + 1) (n := n) (fun j q hj => hother j q (by omega)) (by rwa [hplace])
        (by rwa [hplace])]

end

mutual

theorem prune_false : (t : OrdTree κ) → prune (fun _ => false) t = t
  | .mk label attributes children => by rw [prune, pruneFrom_false, pruneFrom_false]

theorem pruneFrom_false : (branch : Branch) → (i : Nat) → (ts : List (OrdTree κ)) →
    pruneFrom (fun _ => false) branch i ts = ts
  | branch, i, [] => by rw [pruneFrom]
  | branch, i, t :: ts => by
    rw [pruneFrom, if_neg (by simp), prune_false t, pruneFrom_false branch (i + 1) ts]

end

/-! ## Removing one after the other -/

/-- Where the node at a path stands after another one was removed, if it is still in the tree. -/
def relocate : NodePath → NodePath → Option NodePath
  | [], path => some path
  | _ :: _, [] => some []
  | [step], next :: path =>
    if next = step then none
    else if next.branch = step.branch ∧ step.index < next.index then
      some ({ next with index := next.index - 1 } :: path)
    else some (next :: path)
  | step :: removed :: rest, next :: path =>
    if next = step then (relocate (removed :: rest) path).map (next :: ·)
    else some (next :: path)

/-- Where the node at a path stood before another one was removed. -/
def unrelocate : NodePath → NodePath → NodePath
  | [], path => path
  | _ :: _, [] => []
  | [step], next :: path =>
    if next.branch = step.branch ∧ step.index ≤ next.index then
      { next with index := next.index + 1 } :: path
    else next :: path
  | step :: removed :: rest, next :: path =>
    if next = step then next :: unrelocate (removed :: rest) path else next :: path

theorem relocate_eq_some (removed path path' : NodePath) :
    relocate removed path = some path' ↔ unrelocate removed path' = path := by
  induction removed generalizing path path' with
  | nil => simp [relocate, unrelocate, eq_comm]
  | cons step rest ih =>
    cases path with
    | nil => cases path' <;> cases rest <;> simp [relocate, unrelocate] <;> split_ifs <;> simp
    | cons next path =>
      cases path' with
      | nil => cases rest <;> simp [relocate, unrelocate] <;> split_ifs <;> simp
      | cons next' path' =>
        cases rest with
        | nil =>
          -- the places behind the removed one move up
          obtain ⟨branch, index⟩ := step
          obtain ⟨branch₁, index₁⟩ := next
          obtain ⟨branch₂, index₂⟩ := next'
          simp only [relocate, unrelocate, Step.mk.injEq]
          grind
        | cons removed rest =>
          simp only [relocate, unrelocate]
          by_cases hnext : next = step
          · rw [if_pos hnext, Option.map_eq_some_iff]
            constructor
            · rintro ⟨below, hbelow, heq⟩
              obtain ⟨rfl, rfl⟩ := List.cons.inj heq
              rw [if_pos hnext, (ih path below).mp hbelow]
            · intro heq
              split_ifs at heq with hnext'
              · obtain ⟨rfl, hbelow⟩ := List.cons.inj heq
                exact ⟨path', (ih path path').mpr hbelow, rfl⟩
              · exact absurd ((List.cons.inj heq).1.trans hnext) hnext'
          · rw [if_neg hnext, Option.some.injEq]
            split_ifs with hnext'
            · refine iff_of_false (fun heq => hnext ((List.cons.inj heq).1.trans hnext'))
                fun heq => hnext ((List.cons.inj heq).1.symm.trans hnext')
            · exact eq_comm

theorem relocate_self {path : NodePath} (h : path ≠ []) : relocate path path = none := by
  induction path with
  | nil => contradiction
  | cons step path ih =>
    cases path with
    | nil => simp [relocate]
    | cons next path => simp [relocate, ih]

theorem prune_mapList {P Q : NodePath → Bool} {branch : Branch}
    {f : List (OrdTree κ) → List (OrdTree κ)} {t : OrdTree κ}
    (hlist : pruneFrom P branch 0 (t.list branch) = pruneFrom Q branch 0 (f (t.list branch)))
    (hother : ∀ other ≠ branch, ∀ j q, P (⟨other, j⟩ :: q) = Q (⟨other, j⟩ :: q)) :
    prune P t = prune Q (t.mapList branch f) := by
  obtain ⟨label, attributes, children⟩ := t
  cases branch with
  | attr =>
    have hlist : pruneFrom P .attr 0 attributes = pruneFrom Q .attr 0 (f attributes) :=
      hlist
    rw [OrdTree.mapList, prune, prune, hlist, pruneFrom_congr fun j q _ => hother .child nofun j q]
  | child =>
    have hlist : pruneFrom P .child 0 children = pruneFrom Q .child 0 (f children) := hlist
    rw [OrdTree.mapList, prune, prune, hlist, pruneFrom_congr fun j q _ => hother .attr nofun j q]

/-- What is left out may be removed first. -/
theorem prune_remove {P : NodePath → Bool} {path : NodePath} (hpath : path ≠ [])
    (hP : P path = true) (t : OrdTree κ) :
    prune P t = prune (fun q => P (unrelocate path q)) (remove path t) := by
  induction path generalizing P t with
  | nil => contradiction
  | cons step path ih =>
    obtain ⟨branch, index⟩ := step
    cases path with
    | nil =>
      have hremove : remove [⟨branch, index⟩] t = t.mapList branch (·.eraseIdx index) := rfl
      rw [hremove]
      apply prune_mapList
      · refine pruneFrom_eraseIdx (by rwa [Nat.zero_add]) ?_ ?_
        · intro j q hj
          have hlt : ¬ index ≤ j := by omega
          simp [unrelocate, hlt]
        · intro j q hj
          have hle : index ≤ j := by omega
          simp [unrelocate, hle]
      · intro other hother j q
        simp [unrelocate, hother]
    | cons next path =>
      rw [remove, editSiblings_cons _ (by simp)]
      apply prune_mapList
      · refine pruneFrom_modify ?_ ?_ ?_
        · intro j q hj
          rw [Nat.zero_add] at hj
          have hne : (⟨branch, j⟩ : Step) ≠ ⟨branch, index⟩ := fun heq =>
            hj (congrArg Step.index heq)
          simp only [unrelocate, if_neg hne]
        · simp [unrelocate]
        · intro t
          rw [Nat.zero_add]
          refine (ih (by simp) hP t).trans (prune_congr fun step q => ?_)
          simp [unrelocate]
      · intro other hother j q
        have hne : (⟨other, j⟩ : Step) ≠ ⟨branch, index⟩ := by simp [hother]
        simp only [unrelocate, if_neg hne]

/-- Remove the nodes at some paths one after the other. `locate` tells where the nodes that were in
the tree at the beginning stand by now. -/
def removeEach : List NodePath → (NodePath → Option NodePath) → OrdTree κ → OrdTree κ
  | [], _, t => t
  | path :: paths, locate, t =>
    match locate path with
    | none => removeEach paths locate t
    | some now => removeEach paths (fun q => (locate q).bind (relocate now)) (remove now t)

theorem removeEach_eq (paths : List NodePath) (locate : NodePath → Option NodePath)
    (t : OrdTree κ) :
    removeEach paths locate t =
      prune (fun q => decide (∃ path ∈ paths, locate path = some q)) t := by
  induction paths generalizing locate t with
  | nil =>
    rw [removeEach]
    simpa using (prune_false t).symm
  | cons path paths ih =>
    rw [removeEach]
    cases hnow : locate path with
    | none =>
      rw [ih]
      exact prune_congr fun step q => by simp [hnow]
    | some now =>
      have hpaths (q : NodePath) : (∃ path ∈ paths, (locate path).bind (relocate now) = some q) ↔
          ∃ path ∈ paths, locate path = some (unrelocate now q) := by
        refine exists_congr fun path => and_congr_right fun _ => ?_
        simp [Option.bind_eq_some_iff, relocate_eq_some]
      dsimp only
      rw [ih]
      simp only [hpaths]
      cases now with
      | nil =>
        refine prune_congr fun step q => decide_eq_decide.mpr ?_
        simp [hnow, unrelocate]
      | cons step now =>
        have hleft : decide (∃ p ∈ path :: paths, locate p = some (step :: now)) = true := by
          simp [hnow]
        rw [prune_remove (by simp) hleft t]
        refine prune_congr fun next q => ?_
        -- no node stands where the removed one stood
        have hgone : step :: now ≠ unrelocate (step :: now) (next :: q) := by
          intro heq
          have hself := (relocate_eq_some (step :: now) (step :: now) (next :: q)).mpr heq.symm
          rw [relocate_self (by simp)] at hself
          cases hself
        simp [hnow, hgone]

/-- The order in which nodes are removed makes no difference. -/
theorem removeEach_eq_prune (paths : List NodePath) (t : OrdTree κ) :
    removeEach paths some t = prune (fun q => decide (q ∈ paths)) t := by
  rw [removeEach_eq]
  simp

end TreeEdit
