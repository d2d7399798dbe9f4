import FacetSearch.Number.Binary64
import FacetSearch.Text.Ascii
import FacetSearch.Toml.Basic

namespace FacetSearch.Toml

/-!
# TOML numbers and moments

Integers are decimal with an optional sign, or written to the base sixteen,
eight or two.  Digits may be grouped by single underscores.
-/

/-- The rest of a run of digits behind one of them, without the underscores. -/
def runAfter? (accepts : Char → Bool) : List Char → Option (List Char × List Char)
  | '_' :: c :: rest =>
      if accepts c then (runAfter? accepts rest).map fun (run, rest) => (c :: run, rest)
      else none
  | c :: rest =>
      if accepts c then (runAfter? accepts rest).map fun (run, rest) => (c :: run, rest)
      else some ([], c :: rest)
  | [] => some ([], [])

/-- A run of at least one digit. -/
def run? (accepts : Char → Bool) : List Char → Option (List Char × List Char)
  | c :: rest =>
      if accepts c then (runAfter? accepts rest).map fun (run, rest) => (c :: run, rest)
      else none
  | [] => none

/-- An optional sign. -/
def sign : List Char → Bool × List Char
  | '+' :: rest => (false, rest)
  | '-' :: rest => (true, rest)
  | chars => (false, chars)

/-- The digits of a decimal integer, without needless zeros in front. -/
def wholeDigits? : List Char → Option (List Char × List Char)
  | '0' :: rest => some (['0'], rest)
  | chars => run? Text.isDigit chars

/-- An integer that fits sixty-four bits. -/
def bounded? (value : Int) : Option Toml :=
  if Int64.minValue.toInt ≤ value ∧ value ≤ Int64.maxValue.toInt then some (.integer value)
  else none

/-- The value of a digit to a base. -/
def digitIn? (base : Nat) (c : Char) : Option Nat :=
  (Text.hexDigit? c).bind fun value => if value < base then some value else none

/-- An integer to a base other than ten, from its first digit on. -/
def basedInteger? (base : Nat) (chars : List Char) : Option (Toml × List Char) := do
  let (digits, rest) ← run? (fun c => (digitIn? base c).isSome) chars
  let value := digits.foldl (fun value c => value * base + (digitIn? base c).getD 0) 0
  let integer ← bounded? value
  some (integer, rest)

/-- The exponent of a float, zero when there is none. -/
def exponent? : List Char → Option (Int × List Char)
  | mark :: rest =>
      if mark = 'e' ∨ mark = 'E' then do
        let (negative, rest) := sign rest
        let (digits, rest) ← run? Text.isDigit rest
        let value : Int := Text.digitsValue digits
        some (if negative then -value else value, rest)
      else some (0, mark :: rest)
  | [] => some (0, [])

/-- The words for an infinity and for a number that is none. -/
def specialFloat? (negative : Bool) : List Char → Option (Toml × List Char)
  | 'i' :: 'n' :: 'f' :: rest =>
      some (.float (Binary64.withSign negative Binary64.infinityBits), rest)
  | 'n' :: 'a' :: 'n' :: rest =>
      some (.float (Binary64.withSign negative (Binary64.infinityBits + Nat.pow 2 51)), rest)
  | _ => none

/--
The float nearest to a decimal.  One too far above zero is refused; one too far
below it is the negative infinity.
-/
def float?
    (negative : Bool)
    (digits : List Char)
    (scale : Int) :
    Option Toml :=
  match Binary64.ofDecimal? negative (Text.digitsValue digits) digits.length scale with
  | some value => some (.float value)
  | none =>
      if negative then some (.float (Binary64.withSign true Binary64.infinityBits)) else none

/-- A decimal number from behind its sign. -/
def decimal? (negative : Bool) (chars : List Char) : Option (Toml × List Char) := do
  let (whole, rest) ← wholeDigits? chars
  match rest with
  | '.' :: after => do
      let (fraction, rest) ← run? Text.isDigit after
      let (scale, rest) ← exponent? rest
      let float ← float? negative (whole ++ fraction) (scale - fraction.length)
      some (float, rest)
  | mark :: after =>
      if mark = 'e' ∨ mark = 'E' then do
        let (scale, rest) ← exponent? (mark :: after)
        let float ← float? negative whole scale
        some (float, rest)
      else do
        let value : Int := Text.digitsValue whole
        let integer ← bounded? (if negative then -value else value)
        some (integer, rest)
  | [] => do
      let value : Int := Text.digitsValue whole
      let integer ← bounded? (if negative then -value else value)
      some (integer, [])

/-- A fixed number of digits, as a number. -/
def digits? (count : Nat) (chars : List Char) : Option (Nat × List Char) :=
  let digits := chars.take count
  if digits.length = count ∧ digits.all Text.isDigit then
    some (Text.digitsValue digits, chars.drop count)
  else none

/-- A number of two digits within bounds. -/
def twoDigits? (least greatest : Nat) (chars : List Char) : Option (Nat × List Char) := do
  let (value, rest) ← digits? 2 chars
  if least ≤ value ∧ value ≤ greatest then some (value, rest) else none

/-- Drop one given character. -/
def expect? (expected : Char) : List Char → Option (List Char)
  | c :: rest => if c = expected then some rest else none
  | [] => none

/-- Whether a year has a leap day. -/
def isLeapYear (year : Nat) : Bool :=
  (year % 4 == 0 && year % 100 != 0) || year % 400 == 0

/-- The number of days of a month. -/
def daysIn (year month : Nat) : Nat :=
  if month = 2 then (if isLeapYear year then 29 else 28)
  else if month = 4 ∨ month = 6 ∨ month = 9 ∨ month = 11 then 30
  else 31

/-- What follows a date. -/
def date? (chars : List Char) : Option (List Char) := do
  let (year, rest) ← digits? 4 chars
  let (month, rest) ← twoDigits? 1 12 (← expect? '-' rest)
  let (_, rest) ← twoDigits? 1 (daysIn year month) (← expect? '-' rest)
  some rest

/-- What follows a time. -/
def time? (chars : List Char) : Option (List Char) := do
  let (_, rest) ← twoDigits? 0 23 chars
  let (_, rest) ← twoDigits? 0 59 (← expect? ':' rest)
  let (_, rest) ← twoDigits? 0 60 (← expect? ':' rest)
  match rest with
  | '.' :: after =>
      if (after.takeWhile Text.isDigit).isEmpty then none
      else some (after.dropWhile Text.isDigit)
  | rest => some rest

/-- What follows the offset of a time, which may be missing. -/
def offset? : List Char → Option (List Char)
  | 'Z' :: rest => some rest
  | 'z' :: rest => some rest
  | mark :: rest =>
      if mark = '+' ∨ mark = '-' then do
        let (_, rest) ← twoDigits? 0 23 rest
        let (_, rest) ← twoDigits? 0 59 (← expect? ':' rest)
        some rest
      else some (mark :: rest)
  | [] => some []

/-- What follows a date and the time behind it, if there is one. -/
def dateTime? (chars : List Char) : Option (List Char) := do
  let rest ← date? chars
  match rest with
  | mark :: after =>
      if mark = 'T' ∨ mark = 't' ∨ mark = ' ' then
        match time? after with
        | some rest => offset? rest
        | none => some (mark :: after)
      else some (mark :: after)
  | [] => some []

/-- A date, a time or both. -/
def moment? (chars : List Char) : Option (Toml × List Char) := do
  let rest ← (dateTime? chars).or (time? chars)
  some (.moment (String.ofList (chars.take (chars.length - rest.length))), rest)

/-- A number. -/
def number? (chars : List Char) : Option (Toml × List Char) :=
  match chars with
  | '0' :: 'x' :: rest => basedInteger? 16 rest
  | '0' :: 'o' :: rest => basedInteger? 8 rest
  | '0' :: 'b' :: rest => basedInteger? 2 rest
  | chars =>
      let (negative, rest) := sign chars
      (specialFloat? negative rest).or (decimal? negative rest)

end FacetSearch.Toml
