import FacetSearch.Entries
import FacetSearch.Number.Binary64

namespace FacetSearch

/-!
# JSON values

A JSON value as it is written: numbers keep the difference between an integer
token and any other, and objects keep their members in order, repetitions
included.  `Json.normalize` gives the form in which values are compared and
printed.
-/

/-- A number token: a machine integer, or a double for everything else. -/
inductive Number where
  | integer (value : Int)
  | float (value : Binary64)
  deriving DecidableEq, Repr, Inhabited

/-- A JSON value. -/
inductive Json where
  | null
  | bool (value : Bool)
  | number (value : Number)
  | string (value : String)
  | array (items : List Json)
  | object (members : List (String × Json))
  deriving Repr, Inhabited

namespace Json

mutual
/-- Equality of JSON values is decided member by member. -/
def decEq : (left right : Json) → Decidable (left = right)
  | .null, .null => isTrue rfl
  | .bool a, .bool b =>
      if same : a = b then isTrue (by rw [same])
      else isFalse (fun equal => same (Json.bool.inj equal))
  | .number a, .number b =>
      if same : a = b then isTrue (by rw [same])
      else isFalse (fun equal => same (Json.number.inj equal))
  | .string a, .string b =>
      if same : a = b then isTrue (by rw [same])
      else isFalse (fun equal => same (Json.string.inj equal))
  | .array a, .array b =>
      match decEqItems a b with
      | isTrue same => isTrue (by rw [same])
      | isFalse differ => isFalse (fun equal => differ (Json.array.inj equal))
  | .object a, .object b =>
      match decEqMembers a b with
      | isTrue same => isTrue (by rw [same])
      | isFalse differ => isFalse (fun equal => differ (Json.object.inj equal))
  | .null, .bool _ | .null, .number _ | .null, .string _ | .null, .array _ | .null, .object _
  | .bool _, .null | .bool _, .number _ | .bool _, .string _ | .bool _, .array _
  | .bool _, .object _ | .number _, .null | .number _, .bool _ | .number _, .string _
  | .number _, .array _ | .number _, .object _ | .string _, .null | .string _, .bool _
  | .string _, .number _ | .string _, .array _ | .string _, .object _ | .array _, .null
  | .array _, .bool _ | .array _, .number _ | .array _, .string _ | .array _, .object _
  | .object _, .null | .object _, .bool _ | .object _, .number _ | .object _, .string _
  | .object _, .array _ => isFalse (by intro equal; cases equal)

/-- Equality of lists of values. -/
def decEqItems : (left right : List Json) → Decidable (left = right)
  | [], [] => isTrue rfl
  | [], _ :: _ => isFalse (by intro equal; cases equal)
  | _ :: _, [] => isFalse (by intro equal; cases equal)
  | a :: as, b :: bs =>
      match decEq a b, decEqItems as bs with
      | isTrue same, isTrue rest => isTrue (by rw [same, rest])
      | isFalse differ, _ => isFalse (fun equal => differ (List.cons.inj equal).1)
      | _, isFalse differ => isFalse (fun equal => differ (List.cons.inj equal).2)

/-- Equality of lists of members. -/
def decEqMembers : (left right : List (String × Json)) → Decidable (left = right)
  | [], [] => isTrue rfl
  | [], _ :: _ => isFalse (by intro equal; cases equal)
  | _ :: _, [] => isFalse (by intro equal; cases equal)
  | (name, a) :: as, (name', b) :: bs =>
      match decEq a b, decEqMembers as bs with
      | isTrue same, isTrue rest =>
          if sameName : name = name' then isTrue (by rw [same, rest, sameName])
          else isFalse (fun equal => sameName (Prod.mk.inj (List.cons.inj equal).1).1)
      | isFalse differ, _ =>
          isFalse (fun equal => differ (Prod.mk.inj (List.cons.inj equal).1).2)
      | _, isFalse differ => isFalse (fun equal => differ (List.cons.inj equal).2)
end

instance : DecidableEq Json := decEq

/-- An integer token. -/
def int (value : Int) : Json :=
  .number (.integer value)

/-- A natural number as an integer token. -/
def nat (value : Nat) : Json :=
  .number (.integer value)

/-- The text of a string value. -/
def text? : Json → Option String
  | .string value => some value
  | _ => none

/-- The value of an integer token. -/
def integer? : Json → Option Int
  | .number (.integer value) => some value
  | _ => none

/-- The value of a boolean. -/
def bool? : Json → Option Bool
  | .bool value => some value
  | _ => none

/-- The items of an array. -/
def items? : Json → Option (List Json)
  | .array items => some items
  | _ => none

/-- The members of an object. -/
def members? : Json → Option (List (String × Json))
  | .object members => some members
  | _ => none

/-- Whether the value is `null`. -/
def isNull : Json → Bool
  | .null => true
  | _ => false

/-- A member of an object; other values have none. -/
def get?
    (value : Json)
    (name : String) :
    Option Json :=
  value.members?.bind (Entries.lookup? name)

/-- A member that is left out when there is nothing to write. -/
def optionalMember
    {α : Type}
    (name : String)
    (write : α → Json) :
    Option α → List (String × Json)
  | none => []
  | some value => [(name, write value)]

mutual
/-- The number of values on the longest way into a value, itself included. -/
def height : Json → Nat
  | .array items => heightOfItems items + 1
  | .object members => heightOfMembers members + 1
  | .null | .bool _ | .number _ | .string _ => 1

/-- The greatest height of a list of values. -/
def heightOfItems : List Json → Nat
  | [] => 0
  | value :: rest => max value.height (heightOfItems rest)

/-- The greatest height of the values of members. -/
def heightOfMembers : List (String × Json) → Nat
  | [] => 0
  | (_, value) :: rest => max value.height (heightOfMembers rest)
end

mutual
/--
Sort the members of every object by name.  Of several members with one name
the last is kept.
-/
def normalize : Json → Json
  | .array items => .array (normalizeItems items)
  | .object members => .object (normalizeMembers members [])
  | value => value

/-- Normalize every item of a list. -/
def normalizeItems : List Json → List Json
  | [] => []
  | value :: rest => value.normalize :: normalizeItems rest

/-- Insert normalized members, in order, into sorted ones. -/
def normalizeMembers :
    List (String × Json) →
      List (String × Json) →
      List (String × Json)
  | [], sorted => sorted
  | (name, value) :: rest, sorted =>
      normalizeMembers rest (Entries.insert name value.normalize sorted)
end

end Json

end FacetSearch
