namespace FacetSearch.Entries

/-!
# Entries

Finite maps are lists of entries.  The ones that are built here are sorted by
key and have one entry for a key, which entering and dropping keys preserve;
looking a key up needs neither.
-/

variable {κ α β : Type} [DecidableEq κ]

/-- The value of the first entry of a key. -/
def lookup?
    (key : κ) :
    List (κ × α) → Option α
  | [] => none
  | (other, value) :: rest => if other = key then some value else lookup? key rest

/-- Drop every entry of a key. -/
def erase
    (key : κ)
    (entries : List (κ × α)) :
    List (κ × α) :=
  entries.filter fun entry => entry.1 ≠ key

/-- Enter a value among sorted entries, in the place of an earlier one of its key. -/
def insert
    [LT κ]
    [DecidableLT κ]
    (key : κ)
    (value : α) :
    List (κ × α) → List (κ × α)
  | [] => [(key, value)]
  | (other, present) :: rest =>
      if key < other then (key, value) :: (other, present) :: rest
      else if key = other then (key, value) :: rest
      else (other, present) :: insert key value rest

/-- Enter entries one after the other, so that the last of a key is kept. -/
def insertAll
    [LT κ]
    [DecidableLT κ] :
    List (κ × α) → List (κ × α) → List (κ × α)
  | [], sorted => sorted
  | (key, value) :: rest, sorted => insertAll rest (insert key value sorted)

/-- Entries in any order as sorted ones. -/
def ofList
    [LT κ]
    [DecidableLT κ]
    (entries : List (κ × α)) :
    List (κ × α) :=
  insertAll entries []

/-- Entries in strict order of their keys, so that no key occurs twice. -/
def Sorted
    [LT κ]
    (entries : List (κ × α)) :
    Prop :=
  entries.Pairwise fun left right => left.1 < right.1

theorem mem_of_mem_insert
    [LT κ]
    [DecidableLT κ]
    {key : κ}
    {value : α}
    {entries : List (κ × α)}
    {entry : κ × α}
    (member : entry ∈ insert key value entries) :
    entry = (key, value) ∨ entry ∈ entries := by
  induction entries with
  | nil =>
      exact Or.inl (List.mem_singleton.mp member)
  | cons first rest inductionHypothesis =>
      obtain ⟨other, present⟩ := first
      rw [insert] at member
      split at member
      · exact List.mem_cons.mp member
      · split at member
        · rcases List.mem_cons.mp member with isNew | inRest
          · exact Or.inl isNew
          · exact Or.inr (List.mem_cons_of_mem _ inRest)
        · rcases List.mem_cons.mp member with isFirst | inserted
          · exact Or.inr (isFirst ▸ List.mem_cons_self)
          · rcases inductionHypothesis inserted with isNew | inRest
            · exact Or.inl isNew
            · exact Or.inr (List.mem_cons_of_mem _ inRest)

/-- Entering a value keeps entries sorted. -/
theorem sorted_insert
    [LT κ]
    [DecidableLT κ]
    [Trans (α := κ) (· < ·) (· < ·) (· < ·)]
    [Std.Trichotomous (α := κ) (· < ·)]
    {key : κ}
    {value : α}
    {entries : List (κ × α)}
    (sorted : Sorted entries) :
    Sorted (insert key value entries) := by
  induction entries with
  | nil =>
      exact List.pairwise_singleton _ _
  | cons first rest inductionHypothesis =>
      obtain ⟨other, present⟩ := first
      obtain ⟨before, restSorted⟩ := List.pairwise_cons.mp sorted
      rw [insert]
      split
      case isTrue isBefore =>
          refine List.pairwise_cons.mpr ⟨?_, sorted⟩
          intro entry member
          rcases List.mem_cons.mp member with isFirst | inRest
          · exact isFirst ▸ isBefore
          · exact Std.lt_trans isBefore (before entry inRest)
      case isFalse notBefore =>
          split
          case isTrue same =>
              obtain rfl := same
              exact List.pairwise_cons.mpr ⟨before, restSorted⟩
          case isFalse differs =>
              have isAfter : other < key :=
                Decidable.byContradiction fun notAfter =>
                  differs (Std.Trichotomous.trichotomous key other notBefore notAfter)
              refine List.pairwise_cons.mpr ⟨?_, inductionHypothesis restSorted⟩
              intro entry member
              rcases mem_of_mem_insert member with isNew | inRest
              · exact isNew ▸ isAfter
              · exact before entry inRest

/-- Dropping a key keeps entries sorted. -/
theorem sorted_erase
    [LT κ]
    {key : κ}
    {entries : List (κ × α)}
    (sorted : Sorted entries) :
    Sorted (erase key entries) :=
  sorted.filter _

/-- Apply a fallible step to the value of every entry. -/
def mapAll?
    (step : α → Option β) :
    List (κ × α) → Option (List (κ × β))
  | [] => some []
  | (key, value) :: rest => do
      let first ← step value
      let others ← mapAll? step rest
      some ((key, first) :: others)

end FacetSearch.Entries
