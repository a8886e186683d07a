import Lasso.Library.Tables
import Lasso.Xml.CleanNs

/-!
# Collected namespaces

`_lasso_node_collect_namespaces` goes from an element to the top of its document and puts the
declarations on the way into a table, by their prefixes. A declaration further out replaces the one
of its prefix that is there already.

## Main definitions

* `collectNamespaces` — the function.
* `nearest`, `outermost` — the declaration of a prefix that is in scope, and the last one.
* `CollectsInScope` — the table has the bindings that are in scope.

## Main results

* `collectsInScope_iff` — for which chains of ancestors it has them.
-/

namespace Lasso

/-- A node on the way from an element to the top of its document. A declaration without `href`
declares nothing, and is left out here. -/
inductive ChainNode where
  | element (nsDef : List NsDecl)
  | document

/-- The declarations of a node. -/
def ChainNode.nsDef : ChainNode → List NsDecl
  | element nsDef => nsDef
  | document => []

/-- The loop of `_lasso_node_collect_namespaces` over the declarations of an element. -/
def collectNsDef (namespaces : AList fun _ : String => String) :
    List NsDecl → AList fun _ : String => String
  | [] => namespaces
  | ns :: nsDef =>
    let namespaces := match ns.pre with
      | some pre => namespaces.insert pre ns.href
      | none => namespaces
    collectNsDef namespaces nsDef

/-- `_lasso_node_collect_namespaces`, with the node itself first. -/
def collectNamespaces (namespaces : AList fun _ : String => String) :
    List ChainNode → AList fun _ : String => String
  | [] => namespaces
  | .element nsDef :: chain => collectNamespaces (collectNsDef namespaces nsDef) chain
  | .document :: chain => collectNamespaces namespaces chain

/-! ## The declarations of a chain -/

/-- The declarations on the way, the nearest first. -/
def declared (chain : List ChainNode) : List NsDecl := chain.flatMap (·.nsDef)

/-- The declaration that a prefix has at the first node. -/
def nearest (chain : List ChainNode) (pre : String) : Option NsDecl :=
  (declared chain).find? (·.pre == some pre)

/-- The last declaration of a prefix on the way. -/
def outermost (chain : List ChainNode) (pre : String) : Option NsDecl :=
  (declared chain).reverse.find? (·.pre == some pre)

/-- The table has the prefixes in scope, with the URIs that they are bound to, and no others. -/
def CollectsInScope (chain : List ChainNode) : Prop :=
  ∀ pre, (collectNamespaces ∅ chain).lookup pre = (nearest chain pre).map (·.href)

/-! ## The table -/

/-- What a declaration puts into the table. -/
def NsDecl.entry (ns : NsDecl) : Option (String × String) := ns.pre.map fun pre => (pre, ns.href)

theorem collectNsDef_eq (namespaces : AList fun _ : String => String) (nsDef : List NsDecl) :
    collectNsDef namespaces nsDef =
      Tables.insertEntries namespaces (nsDef.filterMap (·.entry)) := by
  induction nsDef generalizing namespaces with
  | nil => rfl
  | cons ns nsDef ih =>
    rw [collectNsDef, ih, List.filterMap_cons, NsDecl.entry]
    cases ns.pre <;> rfl

/-- The entries are inserted from the inner ones to the outer ones. -/
theorem collectNamespaces_eq (namespaces : AList fun _ : String => String)
    (chain : List ChainNode) : collectNamespaces namespaces chain =
      Tables.insertEntries namespaces ((declared chain).filterMap (·.entry)) := by
  induction chain generalizing namespaces with
  | nil => rfl
  | cons node chain ih =>
    cases node with
    | element nsDef =>
      have hdeclared : declared (.element nsDef :: chain) = nsDef ++ declared chain := rfl
      rw [collectNamespaces, ih, collectNsDef_eq, hdeclared, List.filterMap_append]
      exact (List.foldl_append ..).symm
    | document => exact ih namespaces

theorem lookup_filterMap_entry (decls : List NsDecl) (pre : String) :
    (decls.filterMap (·.entry)).lookup pre =
      (decls.find? (·.pre == some pre)).map (·.href) := by
  induction decls with
  | nil => rfl
  | cons ns decls ih =>
    rw [List.filterMap_cons, List.find?_cons, NsDecl.entry]
    cases hpre : ns.pre with
    | none => exact ih
    | some pre' =>
      by_cases hsame : pre = pre'
      · subst hsame
        simp
      · rw [Option.map_some, Scopes.lookup_cons_of_ne hsame, ih,
          beq_eq_false_iff_ne.mpr fun heq => hsame (Option.some.inj heq).symm]

/-- The outermost declaration of a prefix is the one that stays in the table. -/
theorem lookup_collectNamespaces (chain : List ChainNode) (pre : String) :
    (collectNamespaces ∅ chain).lookup pre = (outermost chain pre).map (·.href) := by
  rw [collectNamespaces_eq, Tables.lookup_insertEntries, ← List.filterMap_reverse,
    lookup_filterMap_entry, AList.lookup_empty, Option.or_none]
  rfl

/-- For every element and all its ancestors, the table has the bindings in scope exactly if the
nearest and the outermost declaration of each prefix have the same URI. -/
theorem collectsInScope_iff (chain : List ChainNode) :
    CollectsInScope chain ↔
      ∀ pre, (nearest chain pre).map (·.href) = (outermost chain pre).map (·.href) := by
  unfold CollectsInScope
  refine forall_congr' fun pre => ?_
  rw [lookup_collectNamespaces]
  exact eq_comm

/-- `<r xmlns:q="h1"><a xmlns:q="h2"/></r>`, from the inner element. -/
def reboundChain : List ChainNode :=
  [.element [DomNode.qDecl 2 "h2"], .element [DomNode.qDecl 1 "h1"], .document]

/-- The prefix gets the URI that it has further out. -/
theorem collects_rebound : ¬ ∀ chain, CollectsInScope chain := by
  intro h
  have hlookup := h reboundChain "q"
  rw [lookup_collectNamespaces] at hlookup
  exact absurd hlookup (by decide)

end Lasso
