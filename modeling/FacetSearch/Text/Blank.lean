namespace FacetSearch.Text

/-!
# White space

The characters with the Unicode property `White_Space`, and the two things the
library does with them: trimming a text and asking whether anything remains.
-/

/-- The characters with the Unicode property `White_Space`. -/
def isWhiteSpace (c : Char) : Bool :=
  let code := c.toNat
  (9 ≤ code && code ≤ 13) ||
    code == 0x20 || code == 0x85 || code == 0xA0 || code == 0x1680 ||
    (0x2000 ≤ code && code ≤ 0x200A) ||
    code == 0x2028 || code == 0x2029 || code == 0x202F ||
    code == 0x205F || code == 0x3000

/-- Drop white space from both ends of a list of characters. -/
def trimChars (chars : List Char) : List Char :=
  ((chars.dropWhile isWhiteSpace).reverse.dropWhile isWhiteSpace).reverse

/-- Drop white space from both ends of a text. -/
def trim (text : String) : String :=
  String.ofList (trimChars text.toList)

/-- A text is blank when it holds nothing but white space. -/
def isBlank (text : String) : Bool :=
  text.toList.all isWhiteSpace

end FacetSearch.Text
