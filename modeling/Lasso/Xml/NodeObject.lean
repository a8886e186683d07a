import Lasso.Library.Decimal
import Lasso.Library.Search
import Lasso.Xml.NodeClass

/-!
# Objects

An object is a class with what its members hold, and a member may hold other objects.

## Main definitions

* `NodeObject`, `MemberValue` — an object and what its members hold.
* `WritableClass` — the class of an object that can be written to an element.
* `NodeObject.fold` — recursion over the objects in the members.
-/

namespace Lasso

/-! ## Objects -/

/-- What a member holds; the objects in it are of type `ν`. -/
inductive MemberValue (ν : Type) where
  | string (value : Option String)
  | integer (value : Int)
  | boolean (value : Bool)
  | strings (values : List String)
  | node (value : Option ν)
  | nodes (values : List ν)
  | xmlNode (value : Option XmlNode)
  | xmlNodes (values : List XmlNode)

namespace MemberValue

variable {ν μ : Type}

def map (f : ν → μ) : MemberValue ν → MemberValue μ
  | string value => string value
  | integer value => integer value
  | boolean value => boolean value
  | strings values => strings values
  | node value => node (value.map f)
  | nodes values => nodes (values.map f)
  | xmlNode value => xmlNode value
  | xmlNodes values => xmlNodes values

/-- The objects that a member holds. -/
def objects : MemberValue ν → List ν
  | node value => value.toList
  | nodes values => values
  | _ => []

/-- The member is a pointer that is not `NULL`. -/
def isSet : MemberValue ν → Bool
  | string value => value.isSome
  | integer _ => false
  | boolean _ => false
  | strings values => !values.isEmpty
  | node value => value.isSome
  | nodes values => !values.isEmpty
  | xmlNode value => value.isSome
  | xmlNodes values => !values.isEmpty

/-- The member read as an `int`: `NULL` is 0, and an address no number in particular. -/
def asInt : MemberValue ν → Option Int
  | integer value => some value
  | boolean value => some (if value then 1 else 0)
  | value => if value.isSet then none else some 0

end MemberValue

namespace LassoNodeClass

variable (cls : LassoNodeClass)

/-- `find_xml_snippet_by_name` -/
def findXmlSnippetByName (name : String) : Option Snippet :=
  ((cls.chain.filterMap (·.snippets)).flatMap (·.snippets)).find? (·.name == name)

end LassoNodeClass

/-- A class with `node_data` of its own. A subtype for `xsi:type` has a namespace, and so has the
element of a class with a version. -/
structure WritableClass extends LassoNodeClass where
  data : NodeClassData
  data_head : chain.head? = some data
  subtype_ns : data.xsiSubType = true → data.ns.isSome
  version_ns : (toLassoNodeClass.findXmlSnippetByName "MajorVersion").isSome →
    ∃ base, toLassoNodeClass.checkData = some base ∧ base.ns.isSome

/-- A `LassoNode`: its class, and the members that the snippets of the class lead to. -/
inductive NodeObject where
  | mk (cls : WritableClass) (members : List (String × MemberValue NodeObject))

namespace NodeObject

def cls : NodeObject → WritableClass
  | mk cls _ => cls

def members : NodeObject → List (String × MemberValue NodeObject)
  | mk _ members => members

section Fold

variable {α : Type} (f : WritableClass → List (String × MemberValue α) → α)

mutual

/-- Compute from an object by `f`, which gets what was computed from the objects in its members. -/
def fold : NodeObject → α
  | mk cls members => f cls (foldMembers members)

def foldMembers : List (String × MemberValue NodeObject) → List (String × MemberValue α)
  | [] => []
  | (field, value) :: members => (field, foldValue value) :: foldMembers members

def foldValue : MemberValue NodeObject → MemberValue α
  | .string value => .string value
  | .integer value => .integer value
  | .boolean value => .boolean value
  | .strings values => .strings values
  | .node none => .node none
  | .node (some node) => .node (some (fold node))
  | .nodes values => .nodes (foldNodes values)
  | .xmlNode value => .xmlNode value
  | .xmlNodes values => .xmlNodes values

def foldNodes : List NodeObject → List α
  | [] => []
  | node :: nodes => fold node :: foldNodes nodes

end

variable {f}

theorem foldNodes_eq_map (nodes : List NodeObject) : foldNodes f nodes = nodes.map (fold f) := by
  induction nodes with
  | nil => rfl
  | cons node nodes ih => rw [foldNodes, ih, List.map_cons]

theorem foldValue_eq_map (value : MemberValue NodeObject) :
    foldValue f value = value.map (fold f) := by
  cases value with
  | node value => cases value <;> rfl
  | nodes values => rw [foldValue, foldNodes_eq_map]; rfl
  | _ => rfl

theorem foldMembers_eq_map (members : List (String × MemberValue NodeObject)) :
    foldMembers f members = members.map fun member => (member.1, member.2.map (fold f)) := by
  induction members with
  | nil => rfl
  | cons member members ih => rw [foldMembers, foldValue_eq_map, ih]; rfl

theorem fold_mk (cls : WritableClass) (members : List (String × MemberValue NodeObject)) :
    fold f (mk cls members) =
      f cls (members.map fun member => (member.1, member.2.map (fold f))) := by
  rw [fold, foldMembers_eq_map]

end Fold

mutual

/-- What holds of an object when it does of the objects in its members holds of every object. -/
theorem induct {P : NodeObject → Prop}
    (h : ∀ cls members, (∀ member ∈ members, ∀ node ∈ member.2.objects, P node) →
      P (mk cls members)) : ∀ object, P object
  | mk cls members => h cls members (induct_members h members)

theorem induct_members {P : NodeObject → Prop}
    (h : ∀ cls members, (∀ member ∈ members, ∀ node ∈ member.2.objects, P node) →
      P (mk cls members)) :
    ∀ members : List (String × MemberValue NodeObject),
      ∀ member ∈ members, ∀ node ∈ member.2.objects, P node
  | [] => by simp
  | (_, value) :: members => by
    rw [List.forall_mem_cons]
    exact ⟨induct_value h value, induct_members h members⟩

theorem induct_value {P : NodeObject → Prop}
    (h : ∀ cls members, (∀ member ∈ members, ∀ node ∈ member.2.objects, P node) →
      P (mk cls members)) :
    ∀ value : MemberValue NodeObject, ∀ node ∈ value.objects, P node
  | .node none => by simp [MemberValue.objects]
  | .node (some node) => by simpa [MemberValue.objects] using induct h node
  | .nodes nodes => induct_nodes h nodes
  | .string _ | .integer _ | .boolean _ | .strings _ | .xmlNode _ | .xmlNodes _ => by
    simp [MemberValue.objects]

theorem induct_nodes {P : NodeObject → Prop}
    (h : ∀ cls members, (∀ member ∈ members, ∀ node ∈ member.2.objects, P node) →
      P (mk cls members)) : ∀ nodes : List NodeObject, ∀ node ∈ nodes, P node
  | [] => by simp
  | node :: nodes => by
    rw [List.forall_mem_cons]
    exact ⟨induct h node, induct_nodes h nodes⟩

end

end NodeObject

end Lasso
