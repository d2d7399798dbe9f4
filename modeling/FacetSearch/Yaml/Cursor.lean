namespace FacetSearch.Yaml

/-!
# Positions in a YAML text

The characters that are still to be read, with the line and the column of the
first of them.
-/

/-- A position in a text. -/
structure Cursor where
  rest : List Char
  /-- The number of octets in front. -/
  offset : Nat
  line : Nat
  column : Nat
  deriving Repr, Inhabited

/-- Spaces and tabs. -/
def isBlank (c : Char) : Bool :=
  c == ' ' || c == '\t'

/-- The characters that end a line. -/
def isBreak (c : Char) : Bool :=
  c == '\n' || c == '\r' || c == '\u0085' || c == '\u2028' || c == '\u2029'

/-- A blank, a line break or the end of the text. -/
def isGap : Option Char → Bool
  | none => true
  | some c => isBlank c || isBreak c

/-- The number of octets of some characters. -/
def octetCount (chars : List Char) : Nat :=
  chars.foldl (fun count c => count + c.utf8Size) 0

namespace Cursor

/-- The start of a text. -/
def start (chars : List Char) : Cursor where
  rest := chars
  offset := 0
  line := 0
  column := 0

/-- The next character. -/
def head? (cursor : Cursor) : Option Char :=
  cursor.rest.head?

/-- The character behind a number of others. -/
def look? (cursor : Cursor) (ahead : Nat) : Option Char :=
  cursor.rest[ahead]?

/-- Whether the next character is the given one. -/
def isAt (cursor : Cursor) (c : Char) : Bool :=
  cursor.head? == some c

/-- Whether nothing is left to read. -/
def isAtEnd (cursor : Cursor) : Bool :=
  cursor.rest.isEmpty

/-- Whether a blank comes next. -/
def isAtBlank (cursor : Cursor) : Bool :=
  cursor.head?.any isBlank

/-- Whether a line break comes next. -/
def isAtBreak (cursor : Cursor) : Bool :=
  cursor.head?.any isBreak

/-- Go past some characters of the same line. -/
def skip (cursor : Cursor) (count : Nat) : Cursor where
  rest := cursor.rest.drop count
  offset := cursor.offset + octetCount (cursor.rest.take count)
  line := cursor.line
  column := cursor.column + count

/-- Go past the characters of a line that satisfy a test. -/
def skipWhile (cursor : Cursor) (test : Char → Bool) : Cursor :=
  cursor.skip (cursor.rest.takeWhile test).length

/-- Go past a line break; a carriage return and a line feed are one. -/
def skipBreak (cursor : Cursor) : Cursor :=
  match cursor.rest with
  | '\r' :: '\n' :: rest =>
      { rest, offset := cursor.offset + 2, line := cursor.line + 1, column := 0 }
  | c :: rest =>
      { rest, offset := cursor.offset + c.utf8Size, line := cursor.line + 1, column := 0 }
  | [] => cursor

/-- What a line break contributes to a text: separators stay, all others are line feeds. -/
def breakText (cursor : Cursor) : List Char :=
  match cursor.rest with
  | '\u2028' :: _ => ['\u2028']
  | '\u2029' :: _ => ['\u2029']
  | c :: _ => if isBreak c then ['\n'] else []
  | [] => []

/-- Whether a marker of document boundaries stands here, at the start of a line. -/
def isAtMarker (cursor : Cursor) (marker : Char) : Bool :=
  cursor.column == 0 && cursor.isAt marker && cursor.look? 1 == some marker &&
    cursor.look? 2 == some marker && isGap (cursor.look? 3)

/-- Whether any document boundary stands here. -/
def isAtBoundary (cursor : Cursor) : Bool :=
  cursor.isAtMarker '-' || cursor.isAtMarker '.'

end Cursor

end FacetSearch.Yaml
