import FacetSearch.Json.Basic

namespace FacetSearch

/-!
# Reading records from data notations

Document types, requests and settings are records that arrive in several
notations.  `Encoding` says what a reader may ask of a value of a notation;
the combinators below read a record from its members, each under any one of
its accepted names, or from a sequence that lists the members in order.
-/

/-- How far a notation lets a sequence that lists the members of a record stand for it. -/
inductive RecordListing where
  | refused
  /-- The sequence has no more items than the record has members. -/
  | exact
  /-- Items behind the last member do not count. -/
  | surplus
  deriving DecidableEq, Repr, Inhabited

/-- What a record reader may ask of a value of a data notation. -/
class Encoding (α : Type) where
  /-- The text of a scalar, where a text is expected. -/
  text? : α → Option String
  /-- The value of an integer, where a number is expected. -/
  integer? : α → Option Int
  /-- Whether the value stands for an absent optional member, if that can be said. -/
  isAbsent? : α → Option Bool
  /-- The items of a sequence. -/
  items? : α → Option (List α)
  /-- The members of a mapping. -/
  members? : α → Option (List (String × α))
  /-- The name that selects one of several plain alternatives. -/
  choice? : α → Option String
  /-- How a record may be written as a sequence. -/
  listing : RecordListing

namespace Encoding

variable {α β : Type} [Encoding α]

/--
The member under any of the given names: `some none` when there is none, and
no answer when there are several.
-/
def slot?
    (members : List (String × α))
    (names : List String) :
    Option (Option α) :=
  match members.filter (fun member => names.contains member.1) with
  | [] => some none
  | [(_, value)] => some (some value)
  | _ => none

/-- The members of a record in the order of the given names. -/
def slots?
    (members : List (String × α)) :
    List (List String) → Option (List (Option α))
  | [] => some []
  | names :: rest => do
      let first ← slot? members names
      let others ← slots? members rest
      some (first :: others)

/-- Match the items of a sequence to the members of a record in order. -/
def positions? : List (List String) → List α → Option (List (Option α))
  | [], [] => some []
  | [], _ :: _ => if listing α = .surplus then some [] else none
  | _ :: rest, [] => (positions? rest []).map (none :: ·)
  | _ :: rest, item :: items => (positions? rest items).map (some item :: ·)

/-- The members of a record that is written as a mapping or as a sequence. -/
def record?
    (names : List (List String))
    (value : α) :
    Option (List (Option α)) :=
  match members? value with
  | some members => slots? members names
  | none => if listing α = .refused then none else (items? value).bind (positions? names)

/-- A member that must be given. -/
def required
    (read : α → Option β)
    (slot : Option α) :
    Option β :=
  slot.bind read

/-- A member that has a default. -/
def defaulted
    (default : β)
    (read : α → Option β) :
    Option α → Option β
  | none => some default
  | some value => read value

/-- A member that may be missing or written as absent. -/
def optional
    (read : α → Option β) :
    Option α → Option (Option β)
  | none => some none
  | some value => do if ← isAbsent? value then some none else (read value).map some

/-- Read every item of a list. -/
def readAll
    (read : α → Option β) :
    List α → Option (List β)
  | [] => some []
  | value :: rest => do
      let first ← read value
      let others ← readAll read rest
      some (first :: others)

/-- Read a sequence item by item. -/
def listOf
    (read : α → Option β)
    (value : α) :
    Option (List β) :=
  (items? value).bind (readAll read)

/-- Read a mapping value by value; of several values of one name the last is kept. -/
def mapOf
    (read : α → Option β)
    (value : α) :
    Option (List (String × β)) := do
  let members ← members? value
  let entries ← Entries.mapAll? read members
  some (Entries.ofList entries)

/-- Read an integer that lies in a range of unsigned machine integers. -/
def natBelow
    (limit : Nat)
    (value : α) :
    Option Nat :=
  match integer? value with
  | some (.ofNat n) => if n < limit then some n else none
  | _ => none

/-- Read an unsigned 64-bit integer. -/
def unsigned64? (value : α) : Option UInt64 :=
  (natBelow UInt64.size value).map UInt64.ofNat

/-- Read a signed 64-bit integer. -/
def signed64? (value : α) : Option Int64 :=
  match integer? value with
  | some n =>
      if Int64.minValue.toInt ≤ n ∧ n ≤ Int64.maxValue.toInt then some (Int64.ofInt n) else none
  | none => none

end Encoding

/-- JSON accepts a choice as its name, or as an object with the name and `null`. -/
def Json.choice? : Json → Option String
  | .string name => some name
  | .object [(name, .null)] => some name
  | _ => none

instance : Encoding Json where
  text? := Json.text?
  integer? := Json.integer?
  isAbsent? value := some value.isNull
  items? := Json.items?
  members? := Json.members?
  choice? := Json.choice?
  listing := .exact

end FacetSearch
