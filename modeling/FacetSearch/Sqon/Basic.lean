import FacetSearch.Json.Basic
import FacetSearch.Text.Ascii

namespace FacetSearch

/-!
# Filter trees

A SQON filter is a tree of combinators over leaves, each leaf testing one
named field.  Pruning a field removes every leaf on it, together with the
combinators that this empties.
-/

/-- How the children of a node are combined. -/
inductive Combinator where
  | and
  | or
  | not
  deriving DecidableEq, Repr, Inhabited

/-- The test that a leaf makes. -/
inductive Operator where
  | isIn
  | notIn
  | between
  | atLeast
  | atMost
  | exists
  | missing
  | contains
  deriving DecidableEq, Repr, Inhabited

namespace Combinator

/-- The name of a combinator. -/
def name : Combinator → String
  | .and => "and"
  | .or => "or"
  | .not => "not"

/-- The combinator of a name in any ASCII case. -/
def ofName? (name : String) : Option Combinator :=
  match Text.lower name with
  | "and" => some .and
  | "or" => some .or
  | "not" => some .not
  | _ => none

end Combinator

namespace Operator

/-- The canonical name of an operator. -/
def name : Operator → String
  | .isIn => "in"
  | .notIn => "not-in"
  | .between => "between"
  | .atLeast => ">="
  | .atMost => "<="
  | .exists => "exists"
  | .missing => "missing"
  | .contains => "contains"

/-- The operator of a name or alias in any ASCII case. -/
def ofName? (name : String) : Option Operator :=
  match Text.lower name with
  | "in" => some .isIn
  | "not-in" | "not_in" | "notin" => some .notIn
  | "between" => some .between
  | ">=" | "gte" => some .atLeast
  | "<=" | "lte" => some .atMost
  | "exists" => some .exists
  | "missing" => some .missing
  | "contains" => some .contains
  | _ => none

/-- Presence tests take no value. -/
def isPresence : Operator → Bool
  | .exists | .missing => true
  | _ => false

end Operator

/-- A test of one field. -/
structure Leaf where
  op : Operator
  field : String
  value : Json
  deriving DecidableEq, Repr, Inhabited

/-- A filter tree. -/
inductive Sqon where
  | leaf (condition : Leaf)
  | combine (op : Combinator) (content : List Sqon)
  deriving Repr, Inhabited

namespace Sqon

/-- Every child holds. -/
def all (content : List Sqon) : Sqon :=
  .combine .and content

/-- Some child holds. -/
def any (content : List Sqon) : Sqon :=
  .combine .or content

/-- The child does not hold. -/
def negate (child : Sqon) : Sqon :=
  .combine .not [child]

/-- A leaf of the given parts. -/
def test
    (op : Operator)
    (field : String)
    (value : Json) :
    Sqon :=
  .leaf { op, field, value }

/-- The field has one of the values. -/
def inValues
    (field : String)
    (values : List Json) :
    Sqon :=
  test .isIn field (.array values)

/-- The field lies between two bounds, each of which may be left out. -/
def between
    (field : String)
    (lower upper : Option Json) :
    Sqon :=
  test .between field
    (.object (Json.optionalMember "from" id lower ++ Json.optionalMember "to" id upper))

/-- The field has a value. -/
def present (field : String) : Sqon :=
  test .exists field .null

/-- The field has no value. -/
def absent (field : String) : Sqon :=
  test .missing field .null

/-- The field contains a text. -/
def contains
    (field : String)
    (text : String) :
    Sqon :=
  test .contains field (.string text)

mutual
/-- The leaves of a tree, from left to right. -/
def leaves : Sqon → List Leaf
  | .leaf condition => [condition]
  | .combine _ content => leavesOf content

/-- The leaves of a list of trees. -/
def leavesOf : List Sqon → List Leaf
  | [] => []
  | child :: rest => child.leaves ++ leavesOf rest
end

/-- A leaf of a list of trees is one of some tree in it. -/
theorem mem_leavesOf_iff
    {condition : Leaf}
    {content : List Sqon} :
    condition ∈ leavesOf content ↔ ∃ child ∈ content, condition ∈ child.leaves := by
  induction content with
  | nil =>
      simp [leavesOf]
  | cons child rest inductionHypothesis =>
      simp [leavesOf, inductionHypothesis]

/-- The fields that a tree tests, in tree order and with repetitions. -/
def fields (sqon : Sqon) : List String :=
  sqon.leaves.map Leaf.field

/-- Whether a tree tests a field. -/
def references
    (sqon : Sqon)
    (field : String) :
    Bool :=
  sqon.fields.contains field

mutual
/--
Remove every leaf on a field.  A combinator that loses all its children goes
too; one that had none stays.
-/
def without?
    (field : String) :
    Sqon → Option Sqon
  | .leaf condition => if condition.field = field then none else some (.leaf condition)
  | .combine op content =>
      let kept := withoutAll field content
      if kept.isEmpty && !content.isEmpty then none
      else some (.combine op kept)

/-- Prune every tree of a list and keep what is left. -/
def withoutAll
    (field : String) :
    List Sqon → List Sqon
  | [] => []
  | child :: rest =>
      match without? field child with
      | some kept => kept :: withoutAll field rest
      | none => withoutAll field rest
end

mutual
/-- The number of nodes on the longest way down a tree. -/
def depth : Sqon → Nat
  | .leaf _ => 1
  | .combine _ content => depthOf content + 1

/-- The greatest depth in a list of trees. -/
def depthOf : List Sqon → Nat
  | [] => 0
  | child :: rest => max child.depth (depthOf rest)
end

end Sqon

end FacetSearch
