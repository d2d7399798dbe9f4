import FacetSearch.Encoding
import FacetSearch.Proofs.Entries
import Mathlib.Data.List.Forall2

namespace FacetSearch

/-!
# Reading records that give each member once

A member is read whatever stands beside it, as long as its name is given once.
Sorting the members of an object does not change that.
-/

namespace Encoding

variable {α β : Type}

theorem slot?_of_hasOnly
    {members : List (String × α)}
    {name : String}
    {value : Option α}
    (only : Entries.HasOnly members name value) :
    slot? members [name] = some value := by
  have found : (members.filter fun member => [name].contains member.1) =
      value.toList.map fun value => (name, value) := by
    simpa [Entries.HasOnly] using only
  rw [slot?, found]
  cases value <;> rfl

/-- A list is read when its items are. -/
theorem readAll_of_forall₂
    {read : α → Option β}
    {values : List α}
    {results : List β}
    (reads : List.Forall₂ (fun value result => read value = some result) values results) :
    readAll read values = some results := by
  induction reads with
  | nil =>
      rfl
  | cons first _ inductionHypothesis =>
      rw [readAll, first, inductionHypothesis]
      rfl

end Encoding

namespace Json

open Encoding

theorem text?_eq_some_iff
    {value : Json}
    {text : String} :
    value.text? = some text ↔ value = .string text := by
  cases value <;> simp [text?]

theorem items?_eq_some_iff
    {value : Json}
    {items : List Json} :
    value.items? = some items ↔ value = .array items := by
  cases value <;> simp [items?]

theorem members?_eq_some_iff
    {value : Json}
    {members : List (String × Json)} :
    value.members? = some members ↔ value = .object members := by
  cases value <;> simp [members?]

theorem unsigned64?_nat
    (value : UInt64) :
    unsigned64? (Json.nat value.toNat) = some value := by
  have inRange : value.toNat < UInt64.size := value.toNat_lt
  have read : natBelow UInt64.size (Json.nat value.toNat) = some value.toNat := by
    rw [natBelow]
    simp [Encoding.integer?, Json.nat, Json.integer?, inRange]
  rw [unsigned64?, read, Option.map_some, UInt64.ofNat_toNat]

theorem normalizeItems_eq_map
    (items : List Json) :
    normalizeItems items = items.map normalize := by
  induction items with
  | nil =>
      rfl
  | cons item rest inductionHypothesis =>
      rw [normalizeItems, inductionHypothesis, List.map_cons]

theorem normalizeMembers_eq_insertAll
    (members sorted : List (String × Json)) :
    normalizeMembers members sorted =
      Entries.insertAll (members.map (Prod.map id normalize)) sorted := by
  induction members generalizing sorted with
  | nil =>
      rfl
  | cons member rest inductionHypothesis =>
      obtain ⟨name, value⟩ := member
      rw [normalizeMembers, inductionHypothesis]
      rfl

/-- A member that is given once is normalized in its place. -/
theorem hasOnly_normalizeMembers
    {members : List (String × Json)}
    {name : String}
    {value : Option Json}
    (only : Entries.HasOnly members name value) :
    Entries.HasOnly (normalizeMembers members []) name (value.map normalize) := by
  rw [normalizeMembers_eq_insertAll]
  exact (only.map normalize).ofList

end Json

end FacetSearch
