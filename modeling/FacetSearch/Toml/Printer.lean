import FacetSearch.Text.Ascii
import FacetSearch.Toml.Text

namespace FacetSearch.Toml

/-!
# Writing TOML

A text is written in the plainest form that can hold it: a basic string, a
literal one, a long basic one, a long literal one, and only then one with
escapes.
-/

/-- The length of the longest run of a character, behind a run of some length. -/
def longestRunAfter (wanted : Char) : Nat → List Char → Nat
  | current, [] => current
  | current, c :: rest =>
      if c = wanted then longestRunAfter wanted (current + 1) rest
      else max current (longestRunAfter wanted 0 rest)

/-- The length of the longest run of a character. -/
def longestRun (wanted : Char) (chars : List Char) : Nat :=
  longestRunAfter wanted 0 chars

/-- The upper-case form of a hexadecimal digit. -/
def upperHex (value : Nat) : Char :=
  if value < 10 then Char.ofNat ('0'.toNat + value) else Char.ofNat ('A'.toNat + (value - 10))

/-- The escaped form of a character, if it needs one wherever it stands. -/
def escapeOf? (c : Char) : Option (List Char) :=
  if c = '\x08' then some ['\\', 'b']
  else if c = '\t' then some ['\\', 't']
  else if c = '\x0c' then some ['\\', 'f']
  else if c = '\r' then some ['\\', 'r']
  else if c = '\\' then some ['\\', '\\']
  else if c.toNat < 32 ∨ c.toNat = 127 then
    some ['\\', 'u', '0', '0', upperHex (c.toNat / 16), upperHex (c.toNat % 16)]
  else none

/--
The inside of a basic string.  A long one keeps its line breaks, and up to two
quotes in a row; `run` is the number of quotes right in front.
-/
def basicInside (long : Bool) : (run : Nat) → List Char → List Char
  | _, [] => []
  | run, c :: rest =>
      if c = '"' then
        if long ∧ run < 2 then '"' :: basicInside long (run + 1) rest
        else ['\\', '"'] ++ basicInside long 0 rest
      else if c = '\n' then
        (if long then ['\n'] else ['\\', 'n']) ++ basicInside long 0 rest
      else (escapeOf? c).getD [c] ++ basicInside long 0 rest

/-- Whether a character can only be written as an escape. -/
def needsEscape (c : Char) : Bool :=
  (c.toNat < 32 && c != '\t' && c != '\n') || c.toNat == 127

/-- Put long quotes around an inside; one of several lines starts on a line of its own. -/
def inLongQuotes (quote : Char) (severalLines : Bool) (inside : List Char) : String :=
  let quotes := [quote, quote, quote]
  String.ofList (quotes ++ (if severalLines then ['\n'] else []) ++ inside ++ quotes)

/-- Write a text. -/
def quote (text : String) : String :=
  let chars := text.toList
  let control := chars.any needsEscape
  let backslash := chars.contains '\\'
  let severalLines := chars.contains '\n'
  let doubles := longestRun '"' chars
  let singles := longestRun '\'' chars
  if !control && !backslash && doubles == 0 && !severalLines then
    String.ofList (['"'] ++ basicInside false 0 chars ++ ['"'])
  else if !control && singles == 0 && !severalLines then
    String.ofList (['\''] ++ chars ++ ['\''])
  else if !control && !backslash && doubles ≤ 2 then
    inLongQuotes '"' severalLines (basicInside true 0 chars)
  else if !control && singles ≤ 2 then
    inLongQuotes '\'' severalLines chars
  else if severalLines then
    inLongQuotes '"' severalLines (basicInside true 0 chars)
  else String.ofList (['"'] ++ basicInside false 0 chars ++ ['"'])

end FacetSearch.Toml
