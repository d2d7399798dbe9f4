namespace FacetSearch.Text

/-!
# Base64

The padded encoding of bytes with the standard alphabet.
-/

/-- The digits, each at the position of its value. -/
def base64Digits : List Char :=
  "ABCDEFGHIJKLMNOPQRSTUVWXYZabcdefghijklmnopqrstuvwxyz0123456789+/".toList

/-- The digit of a value below sixty-four. -/
def base64Digit (value : Nat) : Char :=
  base64Digits.getD value '='

/-- The digits of a list of bytes, four for every three of them. -/
def base64Chars : List Nat → List Char
  | [] => []
  | [a] => [base64Digit (a / 4), base64Digit (a % 4 * 16), '=', '=']
  | [a, b] =>
      [base64Digit (a / 4), base64Digit (a % 4 * 16 + b / 16), base64Digit (b % 16 * 4), '=']
  | a :: b :: c :: rest =>
      base64Digit (a / 4) :: base64Digit (a % 4 * 16 + b / 16) ::
        base64Digit (b % 16 * 4 + c / 64) :: base64Digit (c % 64) :: base64Chars rest

/-- The encoding of the UTF-8 bytes of a text. -/
def base64 (text : String) : String :=
  String.ofList (base64Chars (text.toUTF8.toList.map UInt8.toNat))

end FacetSearch.Text
