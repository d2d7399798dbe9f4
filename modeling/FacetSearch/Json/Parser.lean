import FacetSearch.Json.Skip

namespace FacetSearch.Json

/-!
# Reading JSON

A strict reader: one value, nothing but white space around it, and no more
than a given number of arrays and objects inside one another.  A shape says
which parts of the value are looked at; the others are skipped, and only have
to be well formed.
-/

/-- The parts of a value that are looked at.  A value of another kind is read as a whole. -/
inductive Shape where
  | whole
  /-- An array, in each item of which the same parts are looked at. -/
  | items (item : Shape)
  /-- An object with any members, of which some have a shape. -/
  | object (parts : List (String × Shape))
  /-- An object of which only the members of certain names are looked at. -/
  | record (names : List String)
  deriving Repr, Inhabited

namespace Shape

/-- The shape of the items of an array. -/
def item : Shape → Shape
  | .items item => item
  | _ => .whole

/-- The shape of the member of a name, if the member is looked at. -/
def member? (name : String) : Shape → Option Shape
  | .object parts => some ((Entries.lookup? name parts).getD .whole)
  | .record names => if names.contains name then some .whole else none
  | _ => some .whole

end Shape

namespace Parser

mutual
/-- One value of a shape, with `depth` further levels of nesting allowed. -/
def value? : Shape → Nat → Nat → List Char → Option (Json × List Char)
  | _, 0, _, _ => none
  | shape, fuel + 1, depth, chars =>
      match skipSpace chars with
      | '"' :: rest => (string? rest).map fun (text, rest) => (.string text, rest)
      | '[' :: rest =>
          match depth with
          | 0 => none
          | depth + 1 =>
              match skipSpace rest with
              | ']' :: rest => some (.array [], rest)
              | rest =>
                  (items? shape.item fuel depth rest).map fun (items, rest) =>
                    (.array items, rest)
      | '\x7b' :: rest =>
          match depth with
          | 0 => none
          | depth + 1 =>
              match skipSpace rest with
              | '\x7d' :: rest => some (.object [], rest)
              | rest =>
                  (members? shape fuel depth rest).map fun (members, rest) =>
                    (.object members, rest)
      | 'n' :: rest => (word? ['u', 'l', 'l'] rest).map (Json.null, ·)
      | 't' :: rest => (word? ['r', 'u', 'e'] rest).map (Json.bool true, ·)
      | 'f' :: rest => (word? ['a', 'l', 's', 'e'] rest).map (Json.bool false, ·)
      | '-' :: rest => (unsigned? true rest).map fun (n, rest) => (.number n, rest)
      | rest => (unsigned? false rest).map fun (n, rest) => (.number n, rest)

/-- The items of an array from the first on, up to the closing bracket. -/
def items? : Shape → Nat → Nat → List Char → Option (List Json × List Char)
  | _, 0, _, _ => none
  | shape, fuel + 1, depth, chars => do
      let (first, rest) ← value? shape fuel depth chars
      match skipSpace rest with
      | ',' :: rest => do
          let (others, rest) ← items? shape fuel depth rest
          some (first :: others, rest)
      | ']' :: rest => some ([first], rest)
      | _ => none

/--
The members of an object of a shape from the first on, up to the closing
brace, without those that are not looked at.
-/
def members? :
    Shape → Nat → Nat → List Char → Option (List (String × Json) × List Char)
  | _, 0, _, _ => none
  | shape, fuel + 1, depth, chars =>
      match skipSpace chars with
      | '"' :: rest => do
          let (name, rest) ← string? rest
          match skipSpace rest with
          | ':' :: rest => do
              let (first, rest) ←
                match shape.member? name with
                | none => (skip? rest).map fun rest => ([], rest)
                | some shape =>
                    (value? shape fuel depth rest).map fun (value, rest) =>
                      ([(name, value)], rest)
              match skipSpace rest with
              | ',' :: rest => do
                  let (others, rest) ← members? shape fuel depth rest
                  some (first ++ others, rest)
              | '\x7d' :: rest => some (first, rest)
              | _ => none
          | _ => none
      | _ => none
end

end Parser

/-- Read the parts of a whole text with at most `depth` levels of nesting. -/
def parseWithin?
    (shape : Shape)
    (depth : Nat)
    (text : String) :
    Option Json :=
  let chars := text.toList
  match Parser.value? shape (2 * chars.length + 2) depth chars with
  | some (value, rest) => if (Parser.skipSpace rest).isEmpty then some value else none
  | none => none

/-- The nesting that is allowed where nothing else is said. -/
def standardDepth : Nat := 127

/-- Read the parts of a whole text of ordinary nesting. -/
def parseParts?
    (shape : Shape)
    (text : String) :
    Option Json :=
  parseWithin? shape standardDepth text

/-- Read a whole text as one value of ordinary nesting. -/
def parse? (text : String) : Option Json :=
  parseParts? .whole text

/-- Read a whole text as one value of any nesting. -/
def parseDeep? (text : String) : Option Json :=
  parseWithin? .whole text.length text

end FacetSearch.Json
