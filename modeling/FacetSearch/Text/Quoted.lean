import FacetSearch.Text.Visible

namespace FacetSearch.Text

/-!
# Texts between quotes

A text that is shown as data stands between quotes, with everything spelled
out that would end it early or could not be seen.
-/

/-- A character between quotes. -/
def quoteChar (c : Char) : List Char :=
  if c = '"' ∨ c = '\'' ∨ c = '\\' then ['\\', c]
  else if c = '\n' then ['\\', 'n']
  else if c = '\r' then ['\\', 'r']
  else if c = '\t' then ['\\', 't']
  else if c = '\x00' then ['\\', '0']
  else if isVisible c then [c]
  else ['\\', 'u', '\x7b'] ++ Nat.toDigits 16 c.toNat ++ ['\x7d']

/-- A text between quotes. -/
def quote (text : String) : String :=
  String.ofList ('"' :: text.toList.flatMap quoteChar ++ ['"'])

end FacetSearch.Text
