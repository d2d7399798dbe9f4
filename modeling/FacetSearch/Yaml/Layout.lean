import FacetSearch.Yaml.Scalar
import FacetSearch.Yaml.Token

namespace FacetSearch.Yaml

/-!
# The layout of YAML texts

How the lines of a text become tokens.  A block opens when its first entry
stands further to the right than the block around it, and closes when a line
starts further to the left.  What looks like the start of a value may turn out
to be a key once a colon follows; the token for the key is then put in front
of it.
-/

/-- The start of something that may turn out to be a key. -/
structure KeyStart where
  /-- Whether nothing but a key can start here. -/
  isRequired : Bool
  /-- The number of tokens in front of it. -/
  position : Nat
  offset : Nat
  line : Nat
  column : Nat
  deriving Repr, Inhabited

/-- The place in a text between two tokens, with the blocks and collections around it. -/
structure Layout where
  /-- A number above the number of characters of the text, and so of steps through it. -/
  size : Nat
  cursor : Cursor
  /-- The tokens so far, in reverse. -/
  tokens : List Token
  /-- The number of tokens so far. -/
  count : Nat
  /-- The column of the innermost block, below zero outside all blocks. -/
  indent : Int
  /-- The columns of the blocks around it. -/
  outerIndents : List Int
  /-- Whether a key may start here. -/
  allowsKey : Bool
  /-- The possible key of the innermost collection. -/
  keyStart : Option KeyStart
  /-- The possible keys of the collections around it; one for each open flow collection. -/
  outerKeys : List (Option KeyStart)
  deriving Inhabited

namespace Layout

/-- The layout at the start of a text. -/
def start (chars : List Char) : Layout where
  size := chars.length + 1
  cursor := Cursor.start chars
  tokens := []
  count := 0
  indent := -1
  outerIndents := []
  allowsKey := true
  keyStart := none
  outerKeys := []

/-- Whether the place is inside a flow collection. -/
def inFlow (layout : Layout) : Bool :=
  !layout.outerKeys.isEmpty

/-- Add a token. -/
def emit (layout : Layout) (token : Token) : Layout :=
  { layout with tokens := token :: layout.tokens, count := layout.count + 1 }

/-- Insert a token behind a number of others. -/
def insertAt (layout : Layout) (position : Nat) (token : Token) : Layout :=
  let later := layout.count - position
  { layout with
    tokens := layout.tokens.take later ++ token :: layout.tokens.drop later
    count := layout.count + 1 }

/-- Go past some characters. -/
def skip (layout : Layout) (count : Nat) : Layout :=
  { layout with cursor := layout.cursor.skip count }

/-- Close the blocks that lie right of a column. -/
def closeBlocks (column : Int) (layout : Layout) : Layout :=
  if layout.inFlow then layout
  else
    let closed := (layout.indent :: layout.outerIndents).takeWhile (column < ·)
    let kept := (layout.indent :: layout.outerIndents).dropWhile (column < ·)
    { layout with
      tokens := closed.map (fun _ => Token.blockEnd) ++ layout.tokens
      count := layout.count + closed.length
      indent := kept.headD (-1)
      outerIndents := kept.tail }

/-- Open a block at a column that lies right of the block around it. -/
def openBlock
    (column position : Nat)
    (token : Token)
    (layout : Layout) :
    Layout :=
  if layout.inFlow || (column : Int) ≤ layout.indent then layout
  else
    { layout.insertAt position token with
      indent := column
      outerIndents := layout.indent :: layout.outerIndents }

/-- Give up the possible key; one that is required must not be given up. -/
def dropKey? (layout : Layout) : Option Layout :=
  if layout.keyStart.any KeyStart.isRequired then none
  else some { layout with keyStart := none }

/-- Remember the current position as a possible key. -/
def saveKey? (layout : Layout) : Option Layout :=
  if layout.allowsKey then do
    let layout ← layout.dropKey?
    some { layout with
      keyStart := some {
        isRequired := !layout.inFlow && layout.indent == (layout.cursor.column : Int)
        position := layout.count
        offset := layout.cursor.offset
        line := layout.cursor.line
        column := layout.cursor.column
      } }
  else some layout

/-- A key is no longer than this number of octets and lies on one line. -/
def keyLimit : Nat := 1024

/-- Whether a possible key started too long ago to still be one. -/
def isStale (cursor : Cursor) (key : KeyStart) : Bool :=
  key.line < cursor.line || key.offset + keyLimit < cursor.offset

/-- A possible key, unless it is stale; a required one must not be stale. -/
def fresh? (cursor : Cursor) : Option KeyStart → Option (Option KeyStart)
  | none => some none
  | some key =>
      if isStale cursor key then if key.isRequired then none else some none
      else some (some key)

/-- Give up all stale keys. -/
def dropStaleKeys? (layout : Layout) : Option Layout := do
  let keyStart ← fresh? layout.cursor layout.keyStart
  let outerKeys ← layout.outerKeys.mapM (fresh? layout.cursor)
  some { layout with keyStart, outerKeys }

/-- Go past a byte order mark at the start of a line; it takes up a column. -/
def skipMark (cursor : Cursor) : Cursor :=
  if cursor.column == 0 && cursor.isAt '\ufeff' then cursor.skip 1 else cursor

/--
Go to the next token.  A comment runs to the end of its line.  Tabs do not
indent: they only count as blanks where no key can start.
-/
def skipToToken : Nat → Layout → Layout
  | 0, layout => layout
  | fuel + 1, layout =>
      let isSkipped (c : Char) : Bool :=
        c == ' ' || ((layout.inFlow || !layout.allowsKey) && c == '\t')
      let cursor := (skipMark layout.cursor).skipWhile isSkipped
      let cursor := if cursor.isAt '#' then cursor.skipWhile (!isBreak ·) else cursor
      if cursor.isAtBreak then
        skipToToken fuel { layout with
          cursor := cursor.skipBreak
          allowsKey := layout.allowsKey || !layout.inFlow }
      else { layout with cursor }

/-- The end of the text. -/
def takeEnd? (layout : Layout) : Option Layout := do
  let layout ← (layout.closeBlocks (-1)).dropKey?
  some (layout.emit .streamEnd)

/-- A document boundary. -/
def takeBoundary? (token : Token) (layout : Layout) : Option Layout := do
  let layout ← (layout.closeBlocks (-1)).dropKey?
  some ({ layout with allowsKey := false }.skip 3 |>.emit token)

/-- The start of a flow collection. -/
def takeFlowStart? (token : Token) (layout : Layout) : Option Layout := do
  let layout ← layout.saveKey?
  some ({ layout with
    keyStart := none
    outerKeys := layout.keyStart :: layout.outerKeys
    allowsKey := true }.skip 1 |>.emit token)

/-- The end of a flow collection. -/
def takeFlowEnd? (token : Token) (layout : Layout) : Option Layout := do
  let layout ← layout.dropKey?
  let layout :=
    match layout.outerKeys with
    | [] => layout
    | key :: outer => { layout with keyStart := key, outerKeys := outer }
  some ({ layout with allowsKey := false }.skip 1 |>.emit token)

/-- A comma in a flow collection. -/
def takeFlowItem? (layout : Layout) : Option Layout := do
  let layout ← layout.dropKey?
  some ({ layout with allowsKey := true }.skip 1 |>.emit .flowEntry)

/-- The dash of an entry in a block sequence. -/
def takeBlockItem? (layout : Layout) : Option Layout := do
  if !layout.inFlow && !layout.allowsKey then none
  else
    let layout :=
      layout.openBlock layout.cursor.column layout.count .blockSequenceStart
    let layout ← layout.dropKey?
    some ({ layout with allowsKey := true }.skip 1 |>.emit .blockEntry)

/-- The question mark of an explicit key. -/
def takeKey? (layout : Layout) : Option Layout := do
  if !layout.inFlow && !layout.allowsKey then none
  else
    let layout :=
      layout.openBlock layout.cursor.column layout.count .blockMappingStart
    let layout ← layout.dropKey?
    some ({ layout with allowsKey := !layout.inFlow }.skip 1 |>.emit .key)

/-- The colon of a value; it turns a possible key into one. -/
def takeValue? (layout : Layout) : Option Layout :=
  match layout.keyStart with
  | some key =>
      let layout :=
        (layout.insertAt key.position .key).openBlock key.column key.position
          .blockMappingStart
      some ({ layout with keyStart := none, allowsKey := false }.skip 1 |>.emit .value)
  | none =>
      if !layout.inFlow && !layout.allowsKey then none
      else
        let layout :=
          layout.openBlock layout.cursor.column layout.count .blockMappingStart
        some ({ layout with allowsKey := !layout.inFlow }.skip 1 |>.emit .value)

/-- The characters of names. -/
def isNameChar (c : Char) : Bool :=
  Text.isDigit c || ('a' ≤ c && c ≤ 'z') || ('A' ≤ c && c ≤ 'Z') || c == '_' || c == '-'

/-- The characters that may follow the name of an anchor. -/
def endsAnchor (next : Option Char) : Bool :=
  isGap next || next.any ("?:,]\x7d%@".toList.contains ·) || next == some (Char.ofNat 96)

/-- An anchor or an alias. -/
def takeAnchor? (token : String → Token) (layout : Layout) : Option Layout := do
  let layout ← layout.saveKey?
  let name := (layout.cursor.rest.drop 1).takeWhile isNameChar
  let cursor := layout.cursor.skip (name.length + 1)
  if name.isEmpty || !endsAnchor cursor.head? then none
  else
    some ({ layout with cursor, allowsKey := false }.emit (token (String.ofList name)))

/-- The characters of a tag, besides those of names. -/
def tagMarks : List Char :=
  ";/?:@&=+$.%!~*'()".toList

/-- Whether a character may be part of a tag. -/
def isTagChar (verbatim : Bool) (c : Char) : Bool :=
  isNameChar c || tagMarks.contains c || (verbatim && [',', '[', ']'].contains c)

/-- The token of a tag and the position behind it. -/
def readTag? (cursor : Cursor) : Option (Token × Cursor) :=
  if cursor.look? 1 = some '<' then do
    let run := (cursor.rest.drop 2).takeWhile (isTagChar true)
    let suffix ← Tag.ofRun? run
    let cursor := cursor.skip (run.length + 2)
    if run.isEmpty || !cursor.isAt '>' then none
    else some (.tag "" suffix, cursor.skip 1)
  else
    let word := (cursor.rest.drop 1).takeWhile isNameChar
    let after := cursor.rest.drop (word.length + 1)
    if after.head? = some '!' then do
      let run := (after.drop 1).takeWhile (isTagChar false)
      let suffix ← Tag.ofRun? run
      if run.isEmpty then none
      else
        some (.tag (String.ofList ('!' :: word ++ ['!'])) suffix,
          cursor.skip (word.length + 2 + run.length))
    else do
      let run := after.takeWhile (isTagChar false)
      let suffix ← Tag.ofRun? (word ++ run)
      let cursor := cursor.skip (word.length + 1 + run.length)
      if suffix.octets.isEmpty then some (.tag "" (Tag.ofText "!"), cursor)
      else some (.tag "!" suffix, cursor)

/-- A tag. -/
def takeTag? (layout : Layout) : Option Layout := do
  let layout ← layout.saveKey?
  let (token, cursor) ← readTag? layout.cursor
  if isGap cursor.head? || (layout.inFlow && cursor.isAt ',') then
    some ({ layout with cursor, allowsKey := false }.emit token)
  else none

/-- A block scalar. -/
def takeBlockScalar? (isLiteral : Bool) (layout : Layout) : Option Layout := do
  let layout ← layout.dropKey?
  let (text, cursor) ← block? isLiteral layout.indent layout.size layout.cursor
  some ({ layout with cursor, allowsKey := true }.emit (.scalar text false))

/-- A quoted scalar. -/
def takeQuoted? (isSingle : Bool) (layout : Layout) : Option Layout := do
  let layout ← layout.saveKey?
  let (text, cursor) ← quoted? isSingle layout.size layout.cursor
  some ({ layout with cursor, allowsKey := false }.emit (.scalar text false))

/-- A plain scalar; a key may start on the line that it was read up to. -/
def takePlain? (layout : Layout) : Option Layout := do
  let layout ← layout.saveKey?
  let read ← plain? layout.inFlow (layout.indent + 1) layout.size layout.cursor
  some ({ layout with cursor := read.cursor, allowsKey := read.endsLine }.emit
    (.scalar read.text true))

/-- A number of a version. -/
def readVersion? (cursor : Cursor) : Option (Nat × Cursor) :=
  let digits := cursor.rest.takeWhile Text.isDigit
  if digits.isEmpty || 9 < digits.length then none
  else some (Text.digitsValue digits, cursor.skip digits.length)

/-- The token of a directive and the position behind it. -/
def readDirective? (cursor : Cursor) : Option (Token × Cursor) := do
  let name := (cursor.rest.drop 1).takeWhile isNameChar
  let cursor := cursor.skip (name.length + 1)
  if !isGap cursor.head? then none
  else
    let cursor := cursor.skipWhile isBlank
    if name = "YAML".toList then do
      let (major, cursor) ← readVersion? cursor
      if !cursor.isAt '.' then none
      else do
        let (minor, cursor) ← readVersion? (cursor.skip 1)
        some (.versionDirective major minor, cursor)
    else if name = "TAG".toList then do
      let word := (cursor.rest.drop 1).takeWhile isNameChar
      let isNamed := (cursor.rest[word.length + 1]?) == some '!'
      if !cursor.isAt '!' || (!isNamed && !word.isEmpty) then none
      else
        let handle := '!' :: word ++ (if isNamed then ['!'] else [])
        let cursor := cursor.skip handle.length
        if !cursor.isAtBlank then none
        else do
          let cursor := cursor.skipWhile isBlank
          let run := cursor.rest.takeWhile (isTagChar true)
          let start ← Tag.ofRun? run
          let cursor := cursor.skip run.length
          if run.isEmpty || !isGap cursor.head? then none
          else some (.tagDirective (String.ofList handle) start, cursor)
    else none

/-- A directive, alone on its line. -/
def takeDirective? (layout : Layout) : Option Layout := do
  let layout ← (layout.closeBlocks (-1)).dropKey?
  let (token, cursor) ← readDirective? layout.cursor
  let cursor := cursor.skipWhile isBlank
  let cursor := if cursor.isAt '#' then cursor.skipWhile (!isBreak ·) else cursor
  if cursor.isAtEnd || cursor.isAtBreak then
    some ({ layout with cursor := cursor.skipBreak, allowsKey := false }.emit token)
  else none

/-- The marks that no plain scalar starts with. -/
def plainBarred : List Char :=
  Char.ofNat 96 :: "-?:,[]\x7b\x7d#&*!|>'\"%@".toList

/-- Whether a plain scalar may start with a character, by what follows it. -/
def startsPlain (inFlow : Bool) (c : Char) (next : Option Char) : Bool :=
  !(isGap (some c) || plainBarred.contains c) ||
    (c == '-' && !next.any isBlank) ||
    (!inFlow && (c == '?' || c == ':') && !isGap next)

/-- Take the token that starts with a character. -/
def takeAt? (layout : Layout) (c : Char) : Option Layout :=
  let cursor := layout.cursor
  let next := cursor.look? 1
  if cursor.column = 0 ∧ c = '%' then layout.takeDirective?
  else if cursor.isAtMarker '-' then layout.takeBoundary? .documentStart
  else if cursor.isAtMarker '.' then layout.takeBoundary? .documentEnd
  else if c = '[' then layout.takeFlowStart? .flowSequenceStart
  else if c = '\x7b' then layout.takeFlowStart? .flowMappingStart
  else if c = ']' then layout.takeFlowEnd? .flowSequenceEnd
  else if c = '\x7d' then layout.takeFlowEnd? .flowMappingEnd
  else if c = ',' then layout.takeFlowItem?
  else if c = '-' ∧ isGap next then layout.takeBlockItem?
  else if c = '?' ∧ (layout.inFlow ∨ isGap next) then layout.takeKey?
  else if c = ':' ∧ (layout.inFlow ∨ isGap next) then layout.takeValue?
  else if c = '*' then layout.takeAnchor? .alias
  else if c = '&' then layout.takeAnchor? .anchor
  else if c = '!' then layout.takeTag?
  else if c = '|' ∧ !layout.inFlow then layout.takeBlockScalar? true
  else if c = '>' ∧ !layout.inFlow then layout.takeBlockScalar? false
  else if c = '\'' then layout.takeQuoted? true
  else if c = '"' then layout.takeQuoted? false
  else if startsPlain layout.inFlow c next then layout.takePlain?
  else none

/-- Take tokens up to the end of the text. -/
def takeAll? : Nat → Layout → Option Layout
  | 0, _ => none
  | fuel + 1, layout => do
      let layout ← (skipToToken layout.size layout).dropStaleKeys?
      match layout.cursor.head? with
      | none => layout.takeEnd?
      | some c => do
          let layout ← (layout.closeBlocks layout.cursor.column).takeAt? c
          takeAll? fuel layout

end Layout

/-- Whether a character may stand in a document at all. -/
def isPrintable (c : Char) : Bool :=
  let code := c.toNat
  code == 9 || code == 10 || code == 13 || (0x20 ≤ code && code ≤ 0x7E) || code == 0x85 ||
    (0xA0 ≤ code && code ≤ 0xD7FF) || (0xE000 ≤ code && code ≤ 0xFFFD) || 0x10000 ≤ code

/-- The tokens of a text. -/
def tokens? (text : String) : Option (List Token) :=
  let chars := text.toList
  if chars.all isPrintable then
    (Layout.takeAll? (chars.length + 1) (Layout.start chars)).map
      fun layout => layout.tokens.reverse
  else none

end FacetSearch.Yaml
