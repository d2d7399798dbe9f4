import FacetSearch.Error
import FacetSearch.Indexed

namespace FacetSearch.Sqon

/-!
# Reading filter trees

A node is an object with an operator `op`.  The `content` of a combinator is
the array of its children.  A leaf names its field as `fieldName` or `field`
beside its `value`, either in the node or in an object under `content`.
-/

namespace Reader

/-- The failure of a node. -/
def fault
    {α : Type}
    (place : Location)
    (cause : SqonFault) :
    Except Error α :=
  .error (.invalidSqon cause place)

/-- The operands of a leaf, by the place where its field and value are given. -/
def leaf
    (op : String)
    (place : Location)
    (members : List (String × Json)) :
    Except Error Sqon :=
  match Operator.ofName? op with
  | none => .error (.unsupportedOperator op place)
  | some operator =>
      let operands? : Option (List (String × Json)) :=
        match Entries.lookup? "content" members with
        | none => some members
        | some content => content.members?
      match operands? with
      | none => fault place (.contentNotObject op)
      | some operands =>
          match (Entries.lookup? "fieldName" operands).or (Entries.lookup? "field" operands) with
          | none => fault place (.missingField op)
          | some field =>
              match field.text? with
              | none => fault place .fieldNotString
              | some field =>
                  let value := (Entries.lookup? "value" operands).getD .null
                  if value.isNull && !operator.isPresence then
                    fault place (.missingValue op)
                  else
                    .ok (.leaf { op := operator, field, value })

/--
Read a node at some place, with `remaining` levels left of the `limit` on the
depth of the tree.
-/
def node
    (limit : Nat) :
    (remaining : Nat) → Location → Json → Except Error Sqon
  | 0, place, _ => fault place (.tooDeep limit)
  | remaining + 1, place, value =>
      match value.members? with
      | none => fault place .notAnObject
      | some members =>
          match Entries.lookup? "op" members with
          | none => fault place .missingOp
          | some op =>
              match op.text? with
              | none => fault place .opNotString
              | some op =>
                  match Combinator.ofName? op with
                  | none => leaf op place members
                  | some combinator =>
                      match Entries.lookup? "content" members with
                      | none => .ok (.combine combinator [])
                      | some content =>
                          match content.items? with
                          | none => fault place (.contentNotArray combinator)
                          | some items =>
                              (Indexed.traverse
                                (fun position child =>
                                  node limit remaining (place.child position) child)
                                items).map (.combine combinator)

end Reader

/-- Read a filter tree of at most `limit` levels. -/
def ofJson
    (limit : Nat)
    (value : Json) :
    Except Error Sqon :=
  Reader.node limit limit Location.root value

end FacetSearch.Sqon
