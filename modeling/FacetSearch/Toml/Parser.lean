import FacetSearch.Toml.Document
import FacetSearch.Toml.Number
import FacetSearch.Toml.Text

namespace FacetSearch.Toml

/-!
# Reading TOML

A document is read line by line into statements, each of which may end in a
comment; arrays and long texts stretch over several lines.
-/

/-- Drop a comment. -/
def skipComment : List Char → List Char
  | '#' :: rest => rest.dropWhile isPlain
  | chars => chars

/-- What follows the end of a statement: blanks, a comment and a line break. -/
def lineEnd? (chars : List Char) : Option (List Char) :=
  match skipComment (skipBlanks chars) with
  | [] => some []
  | rest => lineBreak? rest

/-- Drop blanks, line breaks and comments inside an array. -/
def skipArraySpace : Nat → List Char → List Char
  | 0, chars => chars
  | fuel + 1, chars =>
      let chars := skipSpace chars
      match chars with
      | '#' :: _ =>
          match lineBreak? (skipComment chars) with
          | some rest => skipArraySpace fuel rest
          | none => chars
      | chars => chars

/-- Drop blanks, line breaks and comments. -/
def skipAll (chars : List Char) : List Char :=
  skipArraySpace (chars.length + 1) chars

mutual
/-- One value, with `depth` further levels of nesting allowed. -/
def value? : Nat → Nat → List Char → Option (Toml × List Char)
  | 0, _, _ => none
  | fuel + 1, depth, chars =>
      match chars with
      | '"' :: _ => (anyText? chars).map fun (read, rest) => (.text read, rest)
      | '\'' :: _ => (anyText? chars).map fun (read, rest) => (.text read, rest)
      | '[' :: rest =>
          match depth with
          | 0 => none
          | depth + 1 =>
              (arrayItems? fuel depth (skipAll rest)).map fun (items, rest) => (.array items, rest)
      | '\x7b' :: rest =>
          match depth with
          | 0 => none
          | depth + 1 => do
              match skipBlanks rest with
              | '\x7d' :: rest => some (.inline [], rest)
              | rest => do
                  let (entries, rest) ← inlineEntries? fuel depth rest
                  some (← inlineTable? entries, rest)
      | 't' :: 'r' :: 'u' :: 'e' :: rest => some (.boolean true, rest)
      | 'f' :: 'a' :: 'l' :: 's' :: 'e' :: rest => some (.boolean false, rest)
      | chars => (moment? chars).or (number? chars)

/-- The items of an array up to the closing bracket. -/
def arrayItems? : Nat → Nat → List Char → Option (List Toml × List Char)
  | 0, _, _ => none
  | fuel + 1, depth, chars =>
      match chars with
      | ']' :: rest => some ([], rest)
      | chars => do
          let (first, rest) ← value? fuel depth chars
          match skipAll rest with
          | ',' :: rest => do
              let (others, rest) ← arrayItems? fuel depth (skipAll rest)
              some (first :: others, rest)
          | ']' :: rest => some ([first], rest)
          | _ => none

/-- The entries of a table in braces, up to the closing one. -/
def inlineEntries? : Nat → Nat → List Char → Option (List (List String × Toml) × List Char)
  | 0, _, _ => none
  | fuel + 1, depth, chars => do
      let (key, rest) ← key? chars
      let rest ← expect? '=' rest
      let (first, rest) ← value? fuel depth (skipBlanks rest)
      match skipBlanks rest with
      | ',' :: rest => do
          let (others, rest) ← inlineEntries? fuel depth rest
          some ((key, first) :: others, rest)
      | '\x7d' :: rest => some ([(key, first)], rest)
      | _ => none
end

/-- One statement from its first character on. -/
def statement? (chars : List Char) : Option (Statement × List Char) :=
  match chars with
  | '[' :: '[' :: rest => do
      let (path, rest) ← key? rest
      let rest ← expect? ']' rest
      let rest ← expect? ']' rest
      some (.openEntry path, rest)
  | '[' :: rest => do
      let (path, rest) ← key? rest
      let rest ← expect? ']' rest
      some (.open path, rest)
  | chars => do
      let (key, rest) ← key? chars
      let rest ← expect? '=' rest
      let rest := skipBlanks rest
      let (value, rest) ← value? (2 * rest.length + 2) maxNesting rest
      some (.assign key value, rest)

/-- The statements of a document, one on each line that is not blank. -/
def statements? : Nat → List Char → Option (List Statement)
  | 0, _ => none
  | fuel + 1, chars =>
      match chars with
      | [] => some []
      | chars =>
          match lineEnd? chars with
          | some rest => statements? fuel rest
          | none => do
              let (first, rest) ← statement? (skipBlanks chars)
              let others ← statements? fuel (← lineEnd? rest)
              some (first :: others)

/-- Read a document; a byte order mark may stand in front. -/
def parse? (text : String) : Option Toml :=
  let chars :=
    match text.toList with
    | '\ufeff' :: rest => rest
    | chars => chars
  (statements? (chars.length + 1) chars).bind ofStatements?

end FacetSearch.Toml
