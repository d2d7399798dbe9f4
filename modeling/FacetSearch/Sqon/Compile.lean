import FacetSearch.Clause.Scope
import FacetSearch.Indexed
import FacetSearch.Number.Numeral
import FacetSearch.Schema.Registry

namespace FacetSearch.Sqon

/-!
# Compiling filter trees

A tree becomes one clause over the source paths of a registry.  The scopes of
nested fields stay pending while siblings are joined, so that conjuncts under
the same nested field are tested on the same object; a negation closes them.
-/

/-- Whether a value is one that a field of some type can hold. -/
def fits
    (type : FieldType) :
    Json → Bool
  | .number _ => type.isNumeric || type == .date || type.isString
  | .string text =>
      if type.isNumeric then isNumeral (Text.trim text)
      else if type == .boolean then text == "true" || text == "false"
      else type == .date || type.isString
  | .bool _ => type == .boolean || type.isString
  | .null | .array _ | .object _ => false

namespace Compiler

/-- The failure of a leaf. -/
def fault
    {α : Type}
    (place : Location)
    (cause : SqonFault) :
    Except Error α :=
  .error (.invalidSqon cause place)

/-- The operator of a leaf does not apply to its field. -/
def mismatch
    {α : Type}
    (op : Operator)
    (field : Field)
    (place : Location) :
    Except Error α :=
  .error (.typeMismatch (.filter op) field.name field.type place)

/-- Accept a value that the field can hold. -/
def scalar
    (field : Field)
    (place : Location)
    (value : Json) :
    Except Error Json :=
  if fits field.type value then .ok value
  else fault place (.badValue value field.type field.name)

/-- Accept a bound, if there is one. -/
def scalar?
    (field : Field)
    (place : Location) :
    Option Json → Except Error (Option Json)
  | none => .ok none
  | some value => (scalar field place value).map some

/-- The values that a field is compared with: the items of an array, or one value. -/
def candidates : Json → List Json
  | .array items => items
  | value => [value]

/-- Accept the values of a leaf, at least one. -/
def values
    (op : Operator)
    (field : Field)
    (place : Location)
    (value : Json) :
    Except Error (List Json) :=
  if (candidates value).isEmpty then fault place (.noValues op)
  else Indexed.traverse (fun _ item => scalar field place item) (candidates value)

/-- A bound that is given and not `null`. -/
def given? : Option Json → Option Json
  | some .null => none
  | bound => bound

/-- The two bounds of a `between` value, which is an object or a pair. -/
def bounds? : Json → Option (Option Json × Option Json)
  | .object members =>
      some (given? (Entries.lookup? "from" members), given? (Entries.lookup? "to" members))
  | .array [lower, upper] => some (given? (some lower), given? (some upper))
  | _ => none

/-- Accept the bounds of a `between` leaf, at least one. -/
def bounds
    (field : Field)
    (place : Location)
    (value : Json) :
    Except Error (Option Json × Option Json) :=
  match bounds? value with
  | none => fault place .betweenShape
  | some (none, none) => fault place .betweenUnbounded
  | some (lower, upper) =>
      match scalar? field place lower with
      | .error failure => .error failure
      | .ok lower =>
          match scalar? field place upper with
          | .error failure => .error failure
          | .ok upper => .ok (lower, upper)

/-- Put a backslash before each character that a wildcard pattern would interpret. -/
def escapeWildcard (chars : List Char) : List Char :=
  chars.flatMap fun c => if c = '*' ∨ c = '?' ∨ c = '\\' then ['\\', c] else [c]

/-- The wildcard pattern of the texts that contain a given one. -/
def containing (text : String) : String :=
  String.ofList ('*' :: escapeWildcard text.toList ++ ['*'])

/-- A clause on a field, inside the scopes of that field. -/
def onField
    (field : Field)
    (clause : Clause) :
    Pending :=
  { chain := field.nested, clause }

/-- The negation of a clause, with its scopes closed inside. -/
def negation (pending : Pending) : Pending :=
  .bare (.not pending.close)

/--
The presence of a field.  A nested field is present when its array has an
element.
-/
def presence (field : Field) : Pending :=
  if field.type = .nested then { chain := field.nested ++ [field.path], clause := .matchAll }
  else onField field (.present field.path)

/-- Compile a leaf whose field is known. -/
def leafOn
    (condition : Leaf)
    (field : Field)
    (place : Location) :
    Except Error Pending :=
  match condition.op with
  | .isIn =>
      if field.type.isContainer then mismatch condition.op field place
      else
        (values condition.op field place condition.value).map fun values =>
          onField field (.term field.path values)
  | .notIn =>
      if field.type.isContainer then mismatch condition.op field place
      else
        (values condition.op field place condition.value).map fun values =>
          negation (onField field (.term field.path values))
  | .between =>
      if !field.type.isRangeable then mismatch condition.op field place
      else
        (bounds field place condition.value).map fun (lower, upper) =>
          onField field (.range field.path (lower.map .closed) (upper.map .closed))
  | .atLeast =>
      if !field.type.isRangeable then mismatch condition.op field place
      else
        (scalar field place condition.value).map fun lower =>
          onField field (.range field.path (some (.closed lower)) none)
  | .atMost =>
      if !field.type.isRangeable then mismatch condition.op field place
      else
        (scalar field place condition.value).map fun upper =>
          onField field (.range field.path none (some (.closed upper)))
  | .exists => .ok (presence field)
  | .missing => .ok (negation (presence field))
  | .contains =>
      if !field.type.isString then mismatch condition.op field place
      else
        match condition.value.text? with
        | none => fault place .containsNotString
        | some text => .ok (onField field (.wildcard field.path (containing text) true))

/-- Compile a leaf. -/
def leaf
    (registry : Registry)
    (condition : Leaf)
    (place : Location) :
    Except Error Pending :=
  match registry.resolve condition.field place with
  | .error failure => .error failure
  | .ok field => leafOn condition field place

/-- Join siblings, leaving pending the scopes that all of them need. -/
def joinSiblings
    (join : List Clause → Clause)
    (children : List Pending) :
    Pending :=
  Pending.joinBelow join (commonChain (children.map Pending.chain)) children

/-- Combine compiled children. -/
def combine
    (op : Combinator)
    (place : Location)
    (children : List Pending) :
    Except Error Pending :=
  match op, children with
  | .not, [child] => .ok (negation child)
  | .not, children => fault place (.operandCount children.length)
  | _, [] => .ok (.bare .matchAll)
  | .and, children => .ok (joinSiblings .all children)
  | .or, children => .ok (joinSiblings .any children)

mutual
/-- Compile a node at some place, with `remaining` levels left of the `limit`. -/
def node
    (registry : Registry)
    (limit : Nat)
    (remaining : Nat)
    (place : Location) :
    Sqon → Except Error Pending
  | .leaf condition =>
      if remaining = 0 then fault place (.tooDeep limit)
      else leaf registry condition place
  | .combine op content =>
      if remaining = 0 then fault place (.tooDeep limit)
      else
        match children registry limit (remaining - 1) place 0 content with
        | .error failure => .error failure
        | .ok compiled => combine op place compiled

/-- Compile children from left to right, the first of them at some position. -/
def children
    (registry : Registry)
    (limit : Nat)
    (remaining : Nat)
    (place : Location)
    (position : Nat) :
    List Sqon → Except Error (List Pending)
  | [] => .ok []
  | child :: rest =>
      match node registry limit remaining (place.child position) child with
      | .error failure => .error failure
      | .ok first =>
          match children registry limit remaining place (position + 1) rest with
          | .error failure => .error failure
          | .ok others => .ok (first :: others)
end

end Compiler

/-- Compile a tree of at most `limit` levels. -/
def compile
    (registry : Registry)
    (limit : Nat)
    (sqon : Sqon) :
    Except Error Clause :=
  (Compiler.node registry limit limit Location.root sqon).map Pending.close

/-- Compile a filter that may be missing; a missing one matches everything. -/
def compileOptional
    (registry : Registry)
    (limit : Nat) :
    Option Sqon → Except Error Clause
  | none => .ok .matchAll
  | some sqon => compile registry limit sqon

end FacetSearch.Sqon
