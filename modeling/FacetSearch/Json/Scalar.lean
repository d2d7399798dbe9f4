import FacetSearch.Json.Basic
import FacetSearch.Text.Ascii

namespace FacetSearch.Json

/-!
# The scalars of JSON

What the text of a JSON value is made of: white space, words, strings and
numbers.  No number is read that a double cannot hold, and no lone surrogate.
-/

namespace Parser

/-- The white space of JSON. -/
def isSpace (c : Char) : Bool :=
  c == ' ' || c == '\n' || c == '\r' || c == '\t'

/-- Drop leading white space. -/
def skipSpace (chars : List Char) : List Char :=
  chars.dropWhile isSpace

/-- Drop a fixed word from the front. -/
def word? : List Char → List Char → Option (List Char)
  | [], chars => some chars
  | expected :: rest, c :: chars => if c = expected then word? rest chars else none
  | _ :: _, [] => none

/-- The value of four hexadecimal digits. -/
def hex4? : List Char → Option (Nat × List Char)
  | a :: b :: c :: d :: rest => do
      let a ← Text.hexDigit? a
      let b ← Text.hexDigit? b
      let c ← Text.hexDigit? c
      let d ← Text.hexDigit? d
      some (((a * 16 + b) * 16 + c) * 16 + d, rest)
  | _ => none

/-- The character of a code point that is no surrogate. -/
def scalar? (code : Nat) : Option Char :=
  if code.isValidChar then some (Char.ofNat code) else none

/-- The character of an escape, after the backslash. -/
def escape? : List Char → Option (Char × List Char)
  | '"' :: rest => some ('"', rest)
  | '\\' :: rest => some ('\\', rest)
  | '/' :: rest => some ('/', rest)
  | 'b' :: rest => some ('\x08', rest)
  | 'f' :: rest => some ('\x0c', rest)
  | 'n' :: rest => some ('\n', rest)
  | 'r' :: rest => some ('\r', rest)
  | 't' :: rest => some ('\t', rest)
  | 'u' :: rest => do
      let (high, rest) ← hex4? rest
      if 0xD800 ≤ high ∧ high ≤ 0xDBFF then
        match rest with
        | '\\' :: 'u' :: rest => do
            let (low, rest) ← hex4? rest
            if 0xDC00 ≤ low ∧ low ≤ 0xDFFF then
              let c ← scalar? (0x10000 + (high - 0xD800) * 0x400 + (low - 0xDC00))
              some (c, rest)
            else none
        | _ => none
      else do
        let c ← scalar? high
        some (c, rest)
  | _ => none

/-- The rest of a string after its opening quote. -/
def stringBody? : Nat → List Char → List Char → Option (String × List Char)
  | 0, _, _ => none
  | _ + 1, _, [] => none
  | fuel + 1, read, c :: rest =>
      if c = '"' then some (String.ofList read.reverse, rest)
      else if c = '\\' then
        match escape? rest with
        | some (c, rest) => stringBody? fuel (c :: read) rest
        | none => none
      else if c.toNat < 32 then none
      else stringBody? fuel (c :: read) rest

/-- A string after its opening quote. -/
def string? (chars : List Char) : Option (String × List Char) :=
  stringBody? (chars.length + 1) [] chars

/-- The greatest integer token. -/
def maxInteger : Nat := UInt64.size - 1

/-- The greatest magnitude of a negative integer token. -/
def maxNegative : Nat := Nat.pow 2 63

/--
The number of a token without point and exponent.  Integers outside the two
machine ranges become doubles, and so does a negative zero.
-/
def integerToken?
    (negative : Bool)
    (digits : List Char) :
    Option Number :=
  let value := Text.digitsValue digits
  if negative ∧ 0 < value ∧ value ≤ maxNegative then
    some (.integer (-(value : Int)))
  else if negative = false ∧ value ≤ maxInteger then
    some (.integer value)
  else
    (Binary64.ofDecimal? negative value digits.length 0).map .float

/-- The scale that an exponent part gives, and what follows it. -/
def exponent? : List Char → Option (Int × List Char)
  | mark :: rest =>
      if mark = 'e' ∨ mark = 'E' then
        let (negative, rest) :=
          match rest with
          | '-' :: rest => (true, rest)
          | '+' :: rest => (false, rest)
          | rest => (false, rest)
        let digits := rest.takeWhile Text.isDigit
        if digits.isEmpty then none
        else
          let value : Int := Text.digitsValue digits
          some (if negative then -value else value, rest.dropWhile Text.isDigit)
      else some (0, mark :: rest)
  | [] => some (0, [])

/-- A number from its first digit on. -/
def unsigned?
    (negative : Bool)
    (chars : List Char) :
    Option (Number × List Char) := do
  let whole := chars.takeWhile Text.isDigit
  let rest := chars.dropWhile Text.isDigit
  if whole.isEmpty ∨ (whole.head? = some '0' ∧ 1 < whole.length) then none
  else
    match rest with
    | '.' :: after => do
        let digits := after.takeWhile Text.isDigit
        if digits.isEmpty then none
        else
          let (scale, rest) ← exponent? (after.dropWhile Text.isDigit)
          let all := whole ++ digits
          let value ← Binary64.ofDecimal? negative (Text.digitsValue all) all.length
            (scale - digits.length)
          some (.float value, rest)
    | mark :: after =>
        if mark = 'e' ∨ mark = 'E' then do
          let (scale, rest) ← exponent? (mark :: after)
          let value ← Binary64.ofDecimal? negative (Text.digitsValue whole) whole.length scale
          some (.float value, rest)
        else do
          let value ← integerToken? negative whole
          some (value, mark :: after)
    | [] => do
        let value ← integerToken? negative whole
        some (value, [])

end Parser

end FacetSearch.Json
