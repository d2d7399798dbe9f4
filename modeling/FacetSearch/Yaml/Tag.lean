import FacetSearch.Text.Ascii

namespace FacetSearch.Yaml

/-!
# YAML tags

A tag names the kind of a node.  It is a sequence of octets, because what is
escaped in it has to have the outline of UTF-8 but need not decode to text.
-/

/-- A tag, in octets. -/
structure Tag where
  octets : List UInt8
  deriving DecidableEq, Repr, Inhabited

namespace Tag

/-- The tag of an ASCII text. -/
def ofText (text : String) : Tag where
  octets := text.toUTF8.toList

/-- The tag of scalars that stand for nothing. -/
def null : Tag :=
  ofText "tag:yaml.org,2002:null"

/-- A tag that continues another one. -/
def append (start suffix : Tag) : Tag where
  octets := start.octets ++ suffix.octets

/--
The name of an alternative that a tag selects: what stands behind its mark, or
the mark itself when it stands alone.  Tags without a mark select nothing.
-/
def name? (tag : Tag) : Option String :=
  match tag.octets with
  | [] => none
  | first :: rest =>
      if first = 0x21 then
        String.fromUTF8? (ByteArray.mk (if rest.isEmpty then [first] else rest).toArray)
      else none

/-- The number of octets that an octet at the start of a character calls for behind it. -/
def owedBehind? (octet : Nat) : Option Nat :=
  if octet < 0x80 then some 0
  else if octet < 0xC0 then none
  else if octet < 0xE0 then some 1
  else if octet < 0xF0 then some 2
  else if octet < 0xF8 then some 3
  else none

/--
The octets of a run of characters, in which a percent sign and two hexadecimal
digits stand for one octet.  An escaped octet that starts a longer character
has to be followed by the octets it calls for, each of them escaped.
-/
def decode? : (owed : Nat) → List Char → Option (List UInt8)
  | 0, [] => some []
  | _ + 1, [] => none
  | owed, '%' :: high :: low :: rest => do
      let octet := (← Text.hexDigit? high) * 16 + (← Text.hexDigit? low)
      let stillOwed ←
        match owed with
        | 0 => owedBehind? octet
        | others + 1 => if 0x80 ≤ octet ∧ octet < 0xC0 then some others else none
      let octets ← decode? stillOwed rest
      some (UInt8.ofNat octet :: octets)
  | 0, c :: rest => if c = '%' then none else (decode? 0 rest).map (UInt8.ofNat c.toNat :: ·)
  | _ + 1, _ :: _ => none

/-- The tag that a run of ASCII characters writes; an escaped zero octet ends it. -/
def ofRun? (run : List Char) : Option Tag :=
  (decode? 0 run).map fun octets => { octets := octets.takeWhile (· ≠ 0) }

end Tag

end FacetSearch.Yaml
