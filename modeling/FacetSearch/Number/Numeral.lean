import FacetSearch.Text.Ascii

namespace FacetSearch

/-!
# Numerals

The spellings that are accepted where a number is expected but a text is given:
an optional sign, decimal digits with an optional point among or around them,
and an optional exponent; or one of the words for an infinity or a NaN in any
case.
-/

namespace Numeral

/-- Drop one leading sign, if there is one. -/
def dropSign : List Char → List Char
  | '+' :: rest => rest
  | '-' :: rest => rest
  | chars => chars

/-- One or more digits and nothing else. -/
def isDigits (chars : List Char) : Bool :=
  !chars.isEmpty && chars.all Text.isDigit

/-- Nothing, or an exponent mark with a signed run of digits. -/
def isExponent : List Char → Bool
  | [] => true
  | mark :: rest => (mark == 'e' || mark == 'E') && isDigits (dropSign rest)

/-- Digits with an optional point, at least one digit in all, then an exponent. -/
def isDecimal (chars : List Char) : Bool :=
  let whole := chars.takeWhile Text.isDigit
  match chars.dropWhile Text.isDigit with
  | '.' :: rest =>
      !(whole.isEmpty && (rest.takeWhile Text.isDigit).isEmpty) &&
        isExponent (rest.dropWhile Text.isDigit)
  | rest => !whole.isEmpty && isExponent rest

/-- The words that stand for an infinity or a NaN. -/
def words : List (List Char) :=
  ["inf".toList, "infinity".toList, "nan".toList]

end Numeral

/-- A signed decimal, or a signed word for an infinity or a NaN. -/
def isNumeral (text : String) : Bool :=
  let unsigned := Numeral.dropSign text.toList
  Numeral.isDecimal unsigned || Numeral.words.contains (unsigned.map Text.lowerAscii)

end FacetSearch
