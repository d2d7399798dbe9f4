import FacetSearch.Json.Scalar

namespace FacetSearch.Json.Parser

/-!
# Skipping JSON

A value that nobody looks at only has to be well formed.  Its numbers may be
of any size, its strings may hold lone surrogates, and its arrays and objects
may lie inside one another to any depth.
-/

/-- What follows a string whose opening quote is read. -/
def skipString? : List Char → Option (List Char)
  | [] => none
  | '"' :: rest => some rest
  | '\\' :: 'u' :: a :: b :: c :: d :: rest =>
      if (hex4? [a, b, c, d]).isSome then skipString? rest else none
  | '\\' :: c :: rest =>
      if c ∈ ['"', '\\', '/', 'b', 'f', 'n', 'r', 't'] then skipString? rest else none
  | c :: rest => if c.toNat < 32 then none else skipString? rest

/-- What follows a number from its first digit on. -/
def skipNumber? (chars : List Char) : Option (List Char) :=
  let whole := chars.takeWhile Text.isDigit
  if whole.isEmpty ∨ (whole.head? = some '0' ∧ 1 < whole.length) then none
  else
    match chars.dropWhile Text.isDigit with
    | '.' :: after =>
        if (after.takeWhile Text.isDigit).isEmpty then none
        else (exponent? (after.dropWhile Text.isDigit)).map (·.2)
    | rest => (exponent? rest).map (·.2)

/-- What follows a value that is neither an array nor an object. -/
def skipScalar? : List Char → Option (List Char)
  | '"' :: rest => skipString? rest
  | 'n' :: rest => word? ['u', 'l', 'l'] rest
  | 't' :: rest => word? ['r', 'u', 'e'] rest
  | 'f' :: rest => word? ['a', 'l', 's', 'e'] rest
  | '-' :: rest => skipNumber? rest
  | rest => skipNumber? rest

/-- What follows the name of a member and the colon behind it. -/
def skipName? (chars : List Char) : Option (List Char) :=
  match skipSpace chars with
  | '"' :: rest =>
      match (skipString? rest).map skipSpace with
      | some (':' :: rest) => some rest
      | _ => none
  | _ => none

/-- A collection that is opened and not closed yet. -/
inductive Opened where
  | array
  | object
  deriving DecidableEq, Repr, Inhabited

/--
What follows a value inside collections, the innermost first, once all of them
are closed.  Either the value is still to come, or it has just been skipped.
-/
def skipWithin? :
    (fuel : Nat) →
    (isToCome : Bool) →
    List Opened →
    List Char →
    Option (List Char)
  | 0, _, _, _ => none
  | fuel + 1, true, opened, chars =>
      match skipSpace chars with
      | '[' :: rest =>
          match skipSpace rest with
          | ']' :: rest => skipWithin? fuel false opened rest
          | rest => skipWithin? fuel true (.array :: opened) rest
      | '\x7b' :: rest =>
          match skipSpace rest with
          | '\x7d' :: rest => skipWithin? fuel false opened rest
          | rest =>
              match skipName? rest with
              | some rest => skipWithin? fuel true (.object :: opened) rest
              | none => none
      | rest =>
          match skipScalar? rest with
          | some rest => skipWithin? fuel false opened rest
          | none => none
  | _ + 1, false, [], chars => some chars
  | fuel + 1, false, .array :: opened, chars =>
      match skipSpace chars with
      | ',' :: rest => skipWithin? fuel true (.array :: opened) rest
      | ']' :: rest => skipWithin? fuel false opened rest
      | _ => none
  | fuel + 1, false, .object :: opened, chars =>
      match skipSpace chars with
      | ',' :: rest =>
          match skipName? rest with
          | some rest => skipWithin? fuel true (.object :: opened) rest
          | none => none
      | '\x7d' :: rest => skipWithin? fuel false opened rest
      | _ => none

/-- What follows a value; every step on the way to its end takes a character. -/
def skip? (chars : List Char) : Option (List Char) :=
  skipWithin? (chars.length + 1) true [] chars

end FacetSearch.Json.Parser
