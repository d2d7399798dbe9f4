namespace FacetSearch.Indexed

/-!
# Traversals that know the position

A list is worked through from the left with the position of each item; the
first failure ends the traversal.
-/

/-- Apply a fallible step to every item and its position, counted from `start`. -/
def traverseFrom
    {α β ε : Type}
    (step : Nat → α → Except ε β) :
    Nat → List α → Except ε (List β)
  | _, [] => .ok []
  | position, item :: rest =>
      match step position item with
      | .error fault => .error fault
      | .ok first =>
          match traverseFrom step (position + 1) rest with
          | .error fault => .error fault
          | .ok others => .ok (first :: others)

/-- Apply a fallible step to every item and its position. -/
def traverse
    {α β ε : Type}
    (step : Nat → α → Except ε β)
    (items : List α) :
    Except ε (List β) :=
  traverseFrom step 0 items

end FacetSearch.Indexed
