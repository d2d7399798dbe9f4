import FacetSearch.Text.Ascii
import FacetSearch.Yaml.Cursor

namespace FacetSearch.Yaml

/-!
# YAML scalars

Plain and quoted scalars fold: blanks around a line break vanish, a single
break becomes a space, and of several breaks the first one is dropped.  Block
scalars keep their lines, or fold those that are not indented further.
-/

/-- The blanks and breaks between two words. -/
structure Gap where
  /-- The blanks in front of the first break, in reverse. -/
  blanks : List Char
  firstBreak : List Char
  laterBreaks : List Char
  isBroken : Bool
  deriving Repr, Inhabited

namespace Gap

/-- No gap. -/
def none : Gap where
  blanks := []
  firstBreak := []
  laterBreaks := []
  isBroken := false

/-- The gap right behind a line break that was escaped. -/
def escaped : Gap :=
  { none with isBroken := true }

/-- What a gap contributes to a text. -/
def text (gap : Gap) : List Char :=
  if gap.isBroken then
    if gap.firstBreak = ['\n'] then
      if gap.laterBreaks.isEmpty then [' '] else gap.laterBreaks
    else gap.firstBreak ++ gap.laterBreaks
  else gap.blanks.reverse

/-- Add a line break to a gap. -/
def addBreak (gap : Gap) (text : List Char) : Gap :=
  if gap.isBroken then { gap with laterBreaks := gap.laterBreaks ++ text }
  else { gap with blanks := [], firstBreak := text, isBroken := true }

/-- Add a blank to a gap; behind a line break it does not count. -/
def addBlank (gap : Gap) (c : Char) : Gap :=
  if gap.isBroken then gap else { gap with blanks := c :: gap.blanks }

end Gap

/--
Read a gap.  Behind a line break, a tab left of `margin` is a fault.
-/
def readGap? (margin : Int) : Nat → Gap → Cursor → Option (Gap × Cursor)
  | 0, _, _ => none
  | fuel + 1, gap, cursor =>
      match cursor.head? with
      | none => some (gap, cursor)
      | some c =>
          if isBlank c then
            if gap.isBroken ∧ (cursor.column : Int) < margin ∧ c = '\t' then none
            else readGap? margin fuel (gap.addBlank c) (cursor.skip 1)
          else if isBreak c then
            readGap? margin fuel (gap.addBreak cursor.breakText) cursor.skipBreak
          else some (gap, cursor)

/-- The characters that separate the parts of flow collections. -/
def isFlowMark (c : Char) : Bool :=
  c == ',' || c == '[' || c == ']' || c == '\x7b' || c == '\x7d'

/--
The characters of a plain scalar up to the next blank or the next mark that
ends it.  In a flow collection a colon right before a mark is a fault.
-/
def plainRun? (inFlow : Bool) : List Char → Option (List Char)
  | [] => some []
  | c :: rest =>
      if isBlank c || isBreak c then some []
      else if inFlow && c == ':' && rest.head?.any (fun next => isFlowMark next || next == '?')
        then none
      else if c == ':' && isGap rest.head? then some []
      else if inFlow && isFlowMark c then some []
      else (plainRun? inFlow rest).map (c :: ·)

/-- A plain scalar as read. -/
structure PlainScalar where
  text : String
  /-- Whether the scalar was read up to the start of another line. -/
  endsLine : Bool
  cursor : Cursor

/-- The text of pieces in reverse. -/
def joinPieces (pieces : List (List Char)) : String :=
  String.ofList pieces.reverse.flatten

/-- Read a plain scalar that lies right of a margin, behind pieces that were read already. -/
def plainFrom?
    (inFlow : Bool)
    (margin : Int)
    (size : Nat) :
    Nat → List (List Char) → Gap → Cursor → Option PlainScalar
  | 0, _, _, _ => none
  | fuel + 1, pieces, gap, cursor =>
      if cursor.isAtBoundary || cursor.isAt '#' then
        some { text := joinPieces pieces, endsLine := gap.isBroken, cursor }
      else do
        let run ← plainRun? inFlow cursor.rest
        let pieces := if run.isEmpty then pieces else run :: gap.text :: pieces
        let gap := if run.isEmpty then gap else Gap.none
        let cursor := cursor.skip run.length
        if cursor.isAtBlank || cursor.isAtBreak then do
          let (gap, cursor) ← readGap? margin size gap cursor
          if !inFlow && (cursor.column : Int) < margin then
            some { text := joinPieces pieces, endsLine := gap.isBroken, cursor }
          else plainFrom? inFlow margin size fuel pieces gap cursor
        else some { text := joinPieces pieces, endsLine := gap.isBroken, cursor }

/-- Read a plain scalar of a text that is shorter than a size. -/
def plain?
    (inFlow : Bool)
    (margin : Int)
    (size : Nat)
    (cursor : Cursor) :
    Option PlainScalar :=
  plainFrom? inFlow margin size size [] Gap.none cursor

/-- The characters that escapes of one letter stand for. -/
def escapedChar? : Char → Option Char
  | '0' => some '\x00'
  | 'a' => some '\x07'
  | 'b' => some '\x08'
  | 't' => some '\t'
  | '\t' => some '\t'
  | 'n' => some '\n'
  | 'v' => some '\x0b'
  | 'f' => some '\x0c'
  | 'r' => some '\r'
  | 'e' => some '\x1b'
  | ' ' => some ' '
  | '"' => some '"'
  | '/' => some '/'
  | '\\' => some '\\'
  | 'N' => some '\u0085'
  | '_' => some '\u00a0'
  | 'L' => some '\u2028'
  | 'P' => some '\u2029'
  | _ => none

/-- The number of hexadecimal digits of an escape. -/
def escapeWidth? : Char → Option Nat
  | 'x' => some 2
  | 'u' => some 4
  | 'U' => some 8
  | _ => none

/-- The value of hexadecimal digits. -/
def hexValue? (digits : List Char) : Option Nat :=
  digits.foldl
    (fun value c => do some ((← value) * 16 + (← Text.hexDigit? c))) (some 0)

/-- The character of an escape and the number of characters behind the backslash. -/
def escape? (chars : List Char) : Option (Char × Nat) := do
  let letter ← chars.head?
  match escapeWidth? letter with
  | none => (escapedChar? letter).map (·, 1)
  | some width =>
      let digits := (chars.drop 1).take width
      if digits.length = width then do
        let code ← hexValue? digits
        if code.isValidChar then some (Char.ofNat code, width + 1) else none
      else none

/-- A word of a quoted scalar, and whether an escaped line break ended it. -/
structure QuotedRun where
  chars : List Char
  isEscaped : Bool
  cursor : Cursor

/-- Read a word of a quoted scalar. -/
def quotedRun? (isSingle : Bool) : Nat → List Char → Cursor → Option QuotedRun
  | 0, _, _ => none
  | fuel + 1, read, cursor =>
      let stop : QuotedRun := { chars := read.reverse, isEscaped := false, cursor }
      match cursor.head? with
      | none => some stop
      | some c =>
          if isBlank c || isBreak c then some stop
          else if isSingle then
            if c = '\'' then
              if cursor.look? 1 = some '\'' then
                quotedRun? isSingle fuel ('\'' :: read) (cursor.skip 2)
              else some stop
            else quotedRun? isSingle fuel (c :: read) (cursor.skip 1)
          else if c = '"' then some stop
          else if c = '\\' then
            if (cursor.look? 1).any isBreak then
              some {
                chars := read.reverse
                isEscaped := true
                cursor := (cursor.skip 1).skipBreak
              }
            else do
              let (c, width) ← escape? (cursor.rest.drop 1)
              quotedRun? isSingle fuel (c :: read) (cursor.skip (width + 1))
          else quotedRun? isSingle fuel (c :: read) (cursor.skip 1)

/-- Read a quoted scalar from behind its opening quote and pieces that were read already. -/
def quotedFrom?
    (isSingle : Bool)
    (size : Nat) :
    Nat → List (List Char) → Cursor → Option (String × Cursor)
  | 0, _, _ => none
  | fuel + 1, pieces, cursor =>
      if cursor.isAtBoundary || cursor.isAtEnd then none
      else do
        let run ← quotedRun? isSingle size [] cursor
        let pieces := run.chars :: pieces
        if run.cursor.isAt (if isSingle then '\'' else '"') then
          some (joinPieces pieces, run.cursor.skip 1)
        else do
          let (gap, cursor) ← readGap? 0 size
            (if run.isEscaped then Gap.escaped else Gap.none) run.cursor
          quotedFrom? isSingle size fuel (gap.text :: pieces) cursor

/-- Read a quoted scalar of a text that is shorter than a size. -/
def quoted?
    (isSingle : Bool)
    (size : Nat)
    (cursor : Cursor) :
    Option (String × Cursor) :=
  quotedFrom? isSingle size size [] (cursor.skip 1)

/-- What becomes of the line breaks at the end of a block scalar. -/
inductive Chomping where
  | strip
  | clip
  | keep
  deriving DecidableEq, Repr, Inhabited

/-- The header of a block scalar: its chomping and its explicit indentation. -/
structure BlockHeader where
  chomping : Chomping
  /-- Zero when the indentation is found from the first line. -/
  increment : Nat
  cursor : Cursor

/-- An optional mark of chomping. -/
def readChomping (cursor : Cursor) : Option Chomping × Cursor :=
  if cursor.isAt '+' then (some .keep, cursor.skip 1)
  else if cursor.isAt '-' then (some .strip, cursor.skip 1)
  else (none, cursor)

/-- An optional indentation; zero is a fault. -/
def readIncrement? (cursor : Cursor) : Option (Nat × Cursor) :=
  match cursor.head? with
  | some c =>
      if Text.isDigit c then
        if c = '0' then none else some (c.toNat - '0'.toNat, cursor.skip 1)
      else some (0, cursor)
  | none => some (0, cursor)

/-- Read the header of a block scalar from behind its mark to the end of its line. -/
def blockHeader? (cursor : Cursor) : Option BlockHeader := do
  let (first, cursor) := readChomping cursor
  let (increment, cursor) ← readIncrement? cursor
  let (second, cursor) :=
    if first.isNone && increment != 0 then readChomping cursor else (none, cursor)
  let cursor := cursor.skipWhile isBlank
  let cursor := if cursor.isAt '#' then cursor.skipWhile (!isBreak ·) else cursor
  let header : BlockHeader := {
    chomping := (first.or second).getD .clip
    increment
    cursor := cursor.skipBreak
  }
  if cursor.isAtEnd || cursor.isAtBreak then some header else none

/--
Read the breaks and the indentation in front of a line of a block scalar.  The
indentation is at most `indent`, unless that is still to be found and zero.
The result has the breaks and the greatest column that was reached.
-/
def blockBreaks? (indent : Nat) :
    Nat → List Char → Nat → Cursor → Option (List Char × Nat × Cursor)
  | 0, _, _, _ => none
  | fuel + 1, breaks, deepest, cursor =>
      let spaces := (cursor.rest.takeWhile (· == ' ')).length
      let cursor := cursor.skip (if indent = 0 then spaces else min spaces (indent - cursor.column))
      let deepest := max deepest cursor.column
      if (indent = 0 ∨ cursor.column < indent) ∧ cursor.isAt '\t' then none
      else if cursor.isAtBreak then
        blockBreaks? indent fuel (breaks ++ cursor.breakText) deepest cursor.skipBreak
      else some (breaks, deepest, cursor)

/--
Read the lines of a block scalar with a known indentation, behind pieces that
were read already.
-/
def blockLines?
    (isLiteral : Bool)
    (chomping : Chomping)
    (indent size : Nat) :
    Nat → List (List Char) → (lastBreak breaks : List Char) → (wasIndented : Bool) → Cursor →
      Option (String × Cursor)
  | 0, _, _, _, _, _ => none
  | fuel + 1, pieces, lastBreak, breaks, wasIndented, cursor =>
      if cursor.column = indent ∧ !cursor.isAtEnd then do
        let isIndented := cursor.isAtBlank
        let joined :=
          if !isLiteral && lastBreak == ['\n'] && !wasIndented && !isIndented then
            if breaks.isEmpty then [' '] else []
          else lastBreak
        let line := cursor.rest.takeWhile (!isBreak ·)
        let cursor := cursor.skip line.length
        let lineBreak := cursor.breakText
        let cursor := cursor.skipBreak
        let (laterBreaks, _, cursor) ← blockBreaks? indent size [] 0 cursor
        blockLines? isLiteral chomping indent size fuel (line :: breaks :: joined :: pieces)
          lineBreak laterBreaks isIndented cursor
      else
        let tail :=
          match chomping with
          | .strip => []
          | .clip => lastBreak
          | .keep => lastBreak ++ breaks
        some (joinPieces (tail :: pieces), cursor)

/--
Read a block scalar from its mark on, inside a block of the given indentation,
of a text that is shorter than a size.
-/
def block?
    (isLiteral : Bool)
    (parent : Int)
    (size : Nat)
    (cursor : Cursor) :
    Option (String × Cursor) := do
  let header ← blockHeader? (cursor.skip 1)
  let given : Nat :=
    if header.increment = 0 then 0
    else if 0 ≤ parent then parent.toNat + header.increment
    else header.increment
  let (breaks, deepest, cursor) ← blockBreaks? given size [] 0 header.cursor
  let indent := if given = 0 then max (max deepest (parent + 1).toNat) 1 else given
  blockLines? isLiteral header.chomping indent size size [] [] breaks false cursor

end FacetSearch.Yaml
