import FacetSearch.Clause.Basic

namespace FacetSearch

/-!
# What clauses say about documents

A document is an object with objects of its nested fields below it.  What a
condition on a single field says about an object is left open; the connectives
and the scopes get their meaning from that.
-/

/-- An object of a document, with the objects of its nested fields. -/
inductive DocumentTree (α : Type) where
  | object (content : α) (nested : List (String × DocumentTree α))

namespace DocumentTree

variable {α : Type}

/-- The objects directly below an object at the path of a nested field. -/
def children (path : String) : DocumentTree α → List (DocumentTree α)
  | .object _ nested => (nested.filter fun entry => entry.1 == path).map Prod.snd

end DocumentTree

/-- What the conditions on single fields say about objects. -/
abbrev ObjectTest (α : Type) := Clause → DocumentTree α → Bool

namespace Clause

variable {α : Type}

mutual
/-- Whether a clause holds of an object. -/
def holds
    (test : ObjectTest α) :
    Clause → DocumentTree α → Bool
  | .matchAll, _ => true
  | .and clauses, object => allHold test clauses object
  | .or clauses, object => someHold test clauses object
  | .not clause, object => !clause.holds test object
  | .nested path clause, object => (object.children path).any fun child => clause.holds test child
  | .term field values, object => test (.term field values) object
  | .range field lower upper, object => test (.range field lower upper) object
  | .present field, object => test (.present field) object
  | .wildcard field pattern caseInsensitive, object =>
      test (.wildcard field pattern caseInsensitive) object

/-- Whether every clause of a list holds of an object. -/
def allHold
    (test : ObjectTest α) :
    List Clause → DocumentTree α → Bool
  | [], _ => true
  | clause :: rest, object => clause.holds test object && allHold test rest object

/-- Whether some clause of a list holds of an object. -/
def someHold
    (test : ObjectTest α) :
    List Clause → DocumentTree α → Bool
  | [], _ => false
  | clause :: rest, object => clause.holds test object || someHold test rest object
end

/-- Every clause of a list holds exactly when each of its members does. -/
theorem allHold_eq_all
    (test : ObjectTest α)
    (clauses : List Clause)
    (object : DocumentTree α) :
    allHold test clauses object = clauses.all fun clause => clause.holds test object := by
  induction clauses with
  | nil => rfl
  | cons clause rest inductionHypothesis =>
      simp [allHold, inductionHypothesis]

/-- Some clause of a list holds exactly when one of its members does. -/
theorem someHold_eq_any
    (test : ObjectTest α)
    (clauses : List Clause)
    (object : DocumentTree α) :
    someHold test clauses object = clauses.any fun clause => clause.holds test object := by
  induction clauses with
  | nil => rfl
  | cons clause rest inductionHypothesis =>
      simp [someHold, inductionHypothesis]

end Clause

end FacetSearch
