import FacetSearch.Text.Ascii

namespace FacetSearch.Toml

/-!
# TOML strings and keys

Strings are basic, with escapes, or literal; each kind may stretch over several
lines between triple quotes.  Keys are bare or quoted, and joined by dots.
-/

/-- Blanks within a line. -/
def isBlank (c : Char) : Bool :=
  c == ' ' || c == '\t'

/-- Drop leading blanks. -/
def skipBlanks (chars : List Char) : List Char :=
  chars.dropWhile isBlank

/-- Characters that may stand for themselves in texts and comments. -/
def isPlain (c : Char) : Bool :=
  c == '\t' || (32 ≤ c.toNat && c.toNat != 127)

/-- Drop a line break from the front. -/
def lineBreak? : List Char → Option (List Char)
  | '\n' :: rest => some rest
  | '\r' :: '\n' :: rest => some rest
  | _ => none

/-- The value of a run of hexadecimal digits. -/
def hexValue? (digits : List Char) : Option Nat :=
  digits.foldl
    (fun value c => do some ((← value) * 16 + (← Text.hexDigit? c))) (some 0)

/-- The character of a code point given by hexadecimal digits. -/
def codePoint? (digits : List Char) : Option Char := do
  let code ← hexValue? digits
  if code.isValidChar then some (Char.ofNat code) else none

/-- The character of an escape, after the backslash. -/
def escape? : List Char → Option (Char × List Char)
  | 'b' :: rest => some ('\x08', rest)
  | 't' :: rest => some ('\t', rest)
  | 'n' :: rest => some ('\n', rest)
  | 'f' :: rest => some ('\x0c', rest)
  | 'r' :: rest => some ('\r', rest)
  | '"' :: rest => some ('"', rest)
  | '\\' :: rest => some ('\\', rest)
  | 'u' :: rest =>
      if rest.length < 4 then none
      else (codePoint? (rest.take 4)).map (·, rest.drop 4)
  | 'U' :: rest =>
      if rest.length < 8 then none
      else (codePoint? (rest.take 8)).map (·, rest.drop 8)
  | _ => none

/-- The rest of a basic string, with the characters read so far in reverse. -/
def basicBody? : Nat → List Char → List Char → Option (String × List Char)
  | 0, _, _ => none
  | _ + 1, _, [] => none
  | fuel + 1, read, c :: rest =>
      if c = '"' then some (String.ofList read.reverse, rest)
      else if c = '\\' then
        match escape? rest with
        | some (c, rest) => basicBody? fuel (c :: read) rest
        | none => none
      else if isPlain c then basicBody? fuel (c :: read) rest
      else none

/-- The rest of a literal string. -/
def literalBody? (chars : List Char) : Option (String × List Char) :=
  let body := chars.takeWhile (· != '\'')
  match chars.dropWhile (· != '\'') with
  | _ :: rest => if body.all isPlain then some (String.ofList body, rest) else none
  | [] => none

/-- Drop blanks and line breaks, of which there may be any number. -/
def skipSpace : List Char → List Char
  | ' ' :: rest => skipSpace rest
  | '\t' :: rest => skipSpace rest
  | '\n' :: rest => skipSpace rest
  | '\r' :: '\n' :: rest => skipSpace rest
  | chars => chars

/--
The rest of a text between triple quotes.  Up to two quotes may stand before
the closing three.  In a basic text a backslash escapes a character, or joins
a line to the next one.
-/
def longBody? (quote : Char) : Nat → List Char → List Char → Option (String × List Char)
  | 0, _, _ => none
  | _ + 1, _, [] => none
  | fuel + 1, read, c :: rest =>
      if c = quote then
        let run := (c :: rest).takeWhile (· == quote)
        let after := (c :: rest).dropWhile (· == quote)
        if run.length < 3 then longBody? quote fuel (run ++ read) after
        else if run.length < 6 then
          some (String.ofList ((run.drop 3) ++ read).reverse, after)
        else none
      else if c = '\\' ∧ quote = '"' then
        match escape? rest with
        | some (c, rest) => longBody? quote fuel (c :: read) rest
        | none =>
            match lineBreak? (skipBlanks rest) with
            | some rest => longBody? quote fuel read (skipSpace rest)
            | none => none
      else
        match lineBreak? (c :: rest) with
        | some rest => longBody? quote fuel ('\n' :: read) rest
        | none => if isPlain c then longBody? quote fuel (c :: read) rest else none

/-- A text between triple quotes; a line break right after the opening ones is dropped. -/
def longText? (quote : Char) (chars : List Char) : Option (String × List Char) :=
  longBody? quote (chars.length + 1) [] ((lineBreak? chars).getD chars)

/-- A string on one line. -/
def shortText? : List Char → Option (String × List Char)
  | '"' :: rest => basicBody? (rest.length + 1) [] rest
  | '\'' :: rest => literalBody? rest
  | _ => none

/-- A string of any kind. -/
def anyText? : List Char → Option (String × List Char)
  | '"' :: '"' :: '"' :: rest => longText? '"' rest
  | '\'' :: '\'' :: '\'' :: rest => longText? '\'' rest
  | chars => shortText? chars

/-- The characters of a bare key. -/
def isBare (c : Char) : Bool :=
  Text.isDigit c || ('a' ≤ c && c ≤ 'z') || ('A' ≤ c && c ≤ 'Z') || c == '_' || c == '-'

/-- One part of a key. -/
def keyPart? (chars : List Char) : Option (String × List Char) :=
  match shortText? chars with
  | some part => some part
  | none =>
      let bare := chars.takeWhile isBare
      if bare.isEmpty then none else some (String.ofList bare, chars.dropWhile isBare)

/-- A key: its parts, and what follows it and the blanks behind it. -/
def keyWithin? : Nat → List Char → Option (List String × List Char)
  | 0, _ => none
  | fuel + 1, chars => do
      let (part, rest) ← keyPart? (skipBlanks chars)
      match skipBlanks rest with
      | '.' :: rest => do
          let (parts, rest) ← keyWithin? fuel rest
          some (part :: parts, rest)
      | rest => some ([part], rest)

/-- The greatest number of parts of a key, and of arrays and tables inside one another. -/
def maxNesting : Nat := 79

/-- A key of a bounded number of parts. -/
def key? (chars : List Char) : Option (List String × List Char) :=
  keyWithin? maxNesting chars

end FacetSearch.Toml
