import FacetSearch.Entries
import Mathlib.Data.List.Nodup
import Mathlib.Data.List.Perm.Basic

namespace FacetSearch.Entries

/-!
# Entries under distinct keys

Where no key occurs twice, looking a key up finds its only entry, so the order
of the entries does not matter, and entering them one after the other only
brings them into another order.  Where keys do occur twice, only the first entry
of a key is ever found.
-/

variable {κ α β : Type} [DecidableEq κ] {key : κ} {value : α} {entries : List (κ × α)}

theorem mem_of_lookup?
    (found : lookup? key entries = some value) :
    (key, value) ∈ entries := by
  induction entries with
  | nil =>
      cases found
  | cons entry rest inductionHypothesis =>
      obtain ⟨other, present⟩ := entry
      rw [lookup?] at found
      split at found
      case isTrue same =>
          obtain rfl := same
          obtain rfl := Option.some.inj found
          exact List.mem_cons_self
      case isFalse =>
          exact List.mem_cons_of_mem _ (inductionHypothesis found)

theorem lookup?_eq_none_iff :
    lookup? key entries = none ↔ key ∉ entries.map Prod.fst := by
  induction entries with
  | nil =>
      simp [lookup?]
  | cons entry rest inductionHypothesis =>
      obtain ⟨other, present⟩ := entry
      by_cases same : other = key
      · simp [lookup?, same]
      · simp [lookup?, same, inductionHypothesis, Ne.symm same]

/-- Dropping a key leaves nothing under it, and changes nothing else. -/
theorem lookup?_erase
    {other : κ} :
    lookup? other (erase key entries) = if other = key then none else lookup? other entries := by
  induction entries with
  | nil =>
      simp [erase, lookup?]
  | cons entry rest inductionHypothesis =>
      obtain ⟨first, present⟩ := entry
      rw [erase] at inductionHypothesis ⊢
      by_cases dropped : first = key
      · rw [List.filter_cons_of_neg (by simpa using dropped), inductionHypothesis]
        grind [lookup?]
      · rw [List.filter_cons_of_pos (by simpa using dropped)]
        grind [lookup?]

/-- With distinct keys every entry is found under its key. -/
theorem lookup?_of_mem
    (distinct : (entries.map Prod.fst).Nodup)
    (member : (key, value) ∈ entries) :
    lookup? key entries = some value := by
  induction entries with
  | nil =>
      cases member
  | cons entry rest inductionHypothesis =>
      obtain ⟨other, present⟩ := entry
      obtain ⟨absent, restDistinct⟩ := List.nodup_cons.mp distinct
      rcases List.mem_cons.mp member with same | inRest
      · obtain ⟨rfl, rfl⟩ := Prod.mk.inj same
        simp [lookup?]
      · have differs : other ≠ key := by
          rintro rfl
          exact absent (List.mem_map.mpr ⟨_, inRest, rfl⟩)
        rw [lookup?, if_neg differs]
        exact inductionHypothesis restDistinct inRest

/-- Under distinct keys an entry is found among those that pass a test if it passes it. -/
theorem lookup?_filter
    {passes : κ × α → Bool}
    (distinct : (entries.map Prod.fst).Nodup) :
    lookup? key (entries.filter passes) =
      (lookup? key entries).filter fun value => passes (key, value) := by
  have distinctLeft : ((entries.filter passes).map Prod.fst).Nodup :=
    distinct.sublist (List.filter_sublist.map Prod.fst)
  ext value
  rw [Option.filter_eq_some_iff]
  constructor
  · intro found
    obtain ⟨member, passed⟩ := List.mem_filter.mp (mem_of_lookup? found)
    exact ⟨lookup?_of_mem distinct member, passed⟩
  · intro foundPassing
    obtain ⟨found, passed⟩ := foundPassing
    exact lookup?_of_mem distinctLeft (List.mem_filter.mpr ⟨mem_of_lookup? found, passed⟩)

/-- With distinct keys the order of the entries does not matter. -/
theorem lookup?_eq_of_perm
    {entries' : List (κ × α)}
    (distinct : (entries.map Prod.fst).Nodup)
    (reordered : entries.Perm entries') :
    lookup? key entries = lookup? key entries' := by
  have distinct' : (entries'.map Prod.fst).Nodup := (reordered.map Prod.fst).nodup_iff.mp distinct
  cases found : lookup? key entries with
  | none =>
      rw [lookup?_eq_none_iff, (reordered.map Prod.fst).mem_iff] at found
      exact (lookup?_eq_none_iff.mpr found).symm
  | some value =>
      exact (lookup?_of_mem distinct' (reordered.mem_iff.mp (mem_of_lookup? found))).symm

/-- A key has exactly one entry, that of the given value, or none when there is no value. -/
def HasOnly
    (entries : List (κ × α))
    (key : κ)
    (value : Option α) :
    Prop :=
  (entries.filter fun entry => entry.1 = key) = value.toList.map fun value => (key, value)

namespace HasOnly

theorem lookup?_eq
    {value : Option α}
    (only : HasOnly entries key value) :
    lookup? key entries = value := by
  induction entries with
  | nil =>
      cases value with
      | none =>
          rfl
      | some value =>
          cases only
  | cons entry rest inductionHypothesis =>
      obtain ⟨other, present⟩ := entry
      rw [lookup?]
      split
      case isTrue same =>
          cases value with
          | none =>
              simp [HasOnly, same] at only
          | some value =>
              simp [HasOnly, same] at only
              rw [only.1]
      case isFalse differs =>
          apply inductionHypothesis
          simpa [HasOnly, differs] using only

/-- Changing the values changes the one that a key has. -/
theorem map
    {value : Option α}
    (only : HasOnly entries key value)
    (change : α → β) :
    HasOnly (entries.map (Prod.map id change)) key (value.map change) := by
  have changed := congrArg (List.map (Prod.map id change)) only
  rw [HasOnly, List.filter_map]
  cases value <;> simpa [Function.comp_def] using changed

end HasOnly

theorem lookup?_map
    (change : α → β) :
    lookup? key (entries.map (Prod.map id change)) = (lookup? key entries).map change := by
  induction entries with
  | nil =>
      rfl
  | cons entry rest inductionHypothesis =>
      obtain ⟨other, present⟩ := entry
      by_cases same : other = key <;> simp [lookup?, same, inductionHypothesis]

/-- Entries have each of the given keys once, and no other key. -/
structure HasKeys
    (entries : List (κ × α))
    (keys : List κ) :
    Prop where
  distinct : (entries.map Prod.fst).Nodup
  mem_iff : ∀ key, key ∈ entries.map Prod.fst ↔ key ∈ keys

/-- The first entry of each of the given keys. -/
def pick :
    List κ → List (κ × α) → List (κ × α)
  | _, [] => []
  | keys, (key, value) :: rest =>
      if key ∈ keys then (key, value) :: pick (keys.erase key) rest else pick keys rest

theorem lookup?_pick
    (keys : List κ) :
    lookup? key (pick keys entries) = if key ∈ keys then lookup? key entries else none := by
  induction entries generalizing keys with
  | nil =>
      simp [pick, lookup?]
  | cons entry rest inductionHypothesis =>
      obtain ⟨other, present⟩ := entry
      by_cases same : other = key
      · subst other
        by_cases kept : key ∈ keys <;> simp [pick, lookup?, kept, inductionHypothesis]
      · have keptElsewhere : key ∈ keys.erase other ↔ key ∈ keys :=
          List.mem_erase_of_ne (Ne.symm same)
        by_cases kept : other ∈ keys <;>
          simp [pick, lookup?, kept, same, inductionHypothesis, keptElsewhere]

/-- The picked entries are those that are found under the given keys. -/
theorem perm_pick
    {keys : List κ}
    (distinct : keys.Nodup)
    (entries : List (κ × α)) :
    (pick keys entries).Perm
      (keys.filterMap fun key => (lookup? key entries).map fun value => (key, value)) := by
  induction entries generalizing keys with
  | nil =>
      simp [pick, lookup?]
  | cons entry rest inductionHypothesis =>
      obtain ⟨key, value⟩ := entry
      -- Under the other keys the same is found behind the first entry.
      have elsewhere :
          ∀ others : List κ, key ∉ others →
            (others.filterMap fun other =>
                (lookup? other ((key, value) :: rest)).map fun value => (other, value)) =
              others.filterMap fun other =>
                (lookup? other rest).map fun value => (other, value) := by
        intro others absent
        apply List.filterMap_congr
        intro other member
        have differs : key ≠ other := by
          rintro rfl
          exact absent member
        rw [lookup?, if_neg differs]
      rw [pick]
      split
      case isTrue member =>
          have first := (List.perm_cons_erase member).filterMap fun other =>
            (lookup? other ((key, value) :: rest)).map fun value => (other, value)
          rw [List.filterMap_cons_some (b := (key, value)) (by simp [lookup?]),
            elsewhere _ distinct.not_mem_erase] at first
          exact ((inductionHypothesis (distinct.erase key)).cons (key, value)).trans first.symm
      case isFalse absent =>
          rw [elsewhere keys absent]
          exact inductionHypothesis distinct

section Sorted

variable [LT κ] [DecidableLT κ]

/-- Entering a value changes what is found under its key, and nothing else. -/
theorem lookup?_insert
    {other : κ} :
    lookup? other (insert key value entries) =
      if other = key then some value else lookup? other entries := by
  induction entries with
  | nil =>
      grind [insert, lookup?]
  | cons entry rest inductionHypothesis =>
      obtain ⟨first, present⟩ := entry
      rw [insert]
      split
      · grind [lookup?]
      · split <;> grind [lookup?]

/-- Entered entries are found in the place of the ones that were there. -/
theorem lookup?_insertAll
    {sorted : List (κ × α)}
    (distinct : (entries.map Prod.fst).Nodup) :
    lookup? key (insertAll entries sorted) =
      (lookup? key entries).or (lookup? key sorted) := by
  induction entries generalizing sorted with
  | nil =>
      rfl
  | cons entry rest inductionHypothesis =>
      obtain ⟨first, present⟩ := entry
      obtain ⟨absent, restDistinct⟩ := List.nodup_cons.mp distinct
      rw [insertAll, inductionHypothesis restDistinct, lookup?_insert, lookup?]
      by_cases same : first = key
      · have notInRest : lookup? key rest = none := lookup?_eq_none_iff.mpr (same ▸ absent)
        simp [same, notInRest]
      · simp [same, Ne.symm same]

/-- Entering entries adds their keys. -/
theorem mem_keys_insertAll
    {sorted : List (κ × α)} :
    key ∈ (insertAll entries sorted).map Prod.fst ↔
      key ∈ entries.map Prod.fst ∨ key ∈ sorted.map Prod.fst := by
  induction entries generalizing sorted with
  | nil =>
      simp [insertAll]
  | cons entry rest inductionHypothesis =>
      obtain ⟨first, present⟩ := entry
      have entered :
          key ∈ (insert first present sorted).map Prod.fst ↔
            key = first ∨ key ∈ sorted.map Prod.fst := by
        refine not_iff_not.mp ?_
        rw [← lookup?_eq_none_iff, lookup?_insert, not_or, ← lookup?_eq_none_iff]
        by_cases same : key = first <;> simp [same]
      rw [insertAll, inductionHypothesis, entered, List.map_cons, List.mem_cons, ← or_assoc,
        or_comm (a := key = first)]

theorem mem_of_mem_insertAll
    {entry : κ × α}
    {sorted : List (κ × α)}
    (member : entry ∈ insertAll entries sorted) :
    entry ∈ entries ∨ entry ∈ sorted := by
  induction entries generalizing sorted with
  | nil =>
      exact Or.inr member
  | cons first rest inductionHypothesis =>
      rcases inductionHypothesis member with inRest | inserted
      · exact Or.inl (List.mem_cons_of_mem first inRest)
      · rcases mem_of_mem_insert inserted with rfl | inSorted
        · exact Or.inl List.mem_cons_self
        · exact Or.inr inSorted

section Ordered

variable [Std.Irrefl (α := κ) (· < ·)]

omit [DecidableEq κ] [DecidableLT κ] in
theorem Sorted.nodup
    (sorted : Sorted entries) :
    (entries.map Prod.fst).Nodup := by
  refine List.pairwise_map.mpr (sorted.imp ?_)
  intro left right before same
  exact Std.Irrefl.irrefl (r := (· < ·)) right.1 (same ▸ before)

omit [DecidableLT κ] in
/-- Sorted entries are determined by what is found among them. -/
theorem Sorted.eq_of_lookup?_eq
    [Trans (α := κ) (· < ·) (· < ·) (· < ·)]
    {entries' : List (κ × α)}
    (sorted : Sorted entries)
    (sorted' : Sorted entries')
    (same : ∀ key, lookup? key entries = lookup? key entries') :
    entries = entries' := by
  have sameMembers : entries.Perm entries' := by
    refine (List.perm_ext_iff_of_nodup (sorted.nodup.of_map _) (sorted'.nodup.of_map _)).mpr ?_
    intro entry
    constructor
    · intro member
      have found := lookup?_of_mem sorted.nodup member
      exact mem_of_lookup? ((same entry.1).symm.trans found)
    · intro member
      have found := lookup?_of_mem sorted'.nodup member
      exact mem_of_lookup? ((same entry.1).trans found)
  refine List.Perm.eq_of_pairwise ?_ sorted sorted' sameMembers
  intro left right _ _ before after
  exact (Std.Irrefl.irrefl (r := (· < ·)) left.1 (Std.lt_trans before after)).elim

omit [Std.Irrefl (α := κ) (· < ·)] in
theorem Sorted.insertAll
    [Trans (α := κ) (· < ·) (· < ·) (· < ·)]
    [Std.Trichotomous (α := κ) (· < ·)]
    {sorted : List (κ × α)}
    (isSorted : Sorted sorted) :
    Sorted (insertAll entries sorted) := by
  induction entries generalizing sorted with
  | nil =>
      exact isSorted
  | cons entry rest inductionHypothesis =>
      exact inductionHypothesis (sorted_insert isSorted)

theorem filter_insert
    [Trans (α := κ) (· < ·) (· < ·) (· < ·)]
    [Std.Trichotomous (α := κ) (· < ·)]
    (sorted : Sorted entries)
    (passes : κ → Bool) :
    ((insert key value entries).filter fun entry => passes entry.1) =
      if passes key then insert key value (entries.filter fun entry => passes entry.1)
      else entries.filter fun entry => passes entry.1 := by
  have entered : Sorted (insert key value entries) := sorted_insert sorted
  have kept : Sorted (entries.filter fun entry => passes entry.1) := sorted.filter _
  cases passed : passes key with
  | true =>
      apply Sorted.eq_of_lookup?_eq (entered.filter _) (sorted_insert kept)
      intro other
      rw [lookup?_filter entered.nodup, lookup?_insert, lookup?_insert,
        lookup?_filter sorted.nodup]
      by_cases same : other = key <;> simp [same, passed]
  | false =>
      apply Sorted.eq_of_lookup?_eq (entered.filter _) kept
      intro other
      rw [lookup?_filter entered.nodup, lookup?_insert, lookup?_filter sorted.nodup]
      by_cases same : other = key <;> simp [same, passed]

/-- What passes a test of keys may be entered alone, or kept of all that is entered. -/
theorem filter_insertAll
    [Trans (α := κ) (· < ·) (· < ·) (· < ·)]
    [Std.Trichotomous (α := κ) (· < ·)]
    {sorted : List (κ × α)}
    (isSorted : Sorted sorted)
    (passes : κ → Bool) :
    ((insertAll entries sorted).filter fun entry => passes entry.1) =
      insertAll (entries.filter fun entry => passes entry.1)
        (sorted.filter fun entry => passes entry.1) := by
  induction entries generalizing sorted with
  | nil =>
      rfl
  | cons entry rest inductionHypothesis =>
      obtain ⟨key, value⟩ := entry
      rw [insertAll, inductionHypothesis (sorted_insert isSorted), filter_insert isSorted]
      cases passed : passes key with
      | true =>
          simp [passed, insertAll]
      | false =>
          simp [passed]

theorem filter_ofList
    [Trans (α := κ) (· < ·) (· < ·) (· < ·)]
    [Std.Trichotomous (α := κ) (· < ·)]
    (entries : List (κ × α))
    (passes : κ → Bool) :
    ((ofList entries).filter fun entry => passes entry.1) =
      ofList (entries.filter fun entry => passes entry.1) :=
  filter_insertAll List.Pairwise.nil passes

/-- What one key has among all entries, it has after they are entered. -/
theorem HasOnly.ofList
    [Trans (α := κ) (· < ·) (· < ·) (· < ·)]
    [Std.Trichotomous (α := κ) (· < ·)]
    {value : Option α}
    (only : HasOnly entries key value) :
    HasOnly (ofList entries) key value := by
  rw [HasOnly, filter_ofList entries fun other => other = key, only]
  cases value <;> rfl

theorem hasKeys_ofList
    [Trans (α := κ) (· < ·) (· < ·) (· < ·)]
    [Std.Trichotomous (α := κ) (· < ·)] :
    HasKeys (ofList entries) (entries.map Prod.fst) where
  distinct := (Sorted.insertAll List.Pairwise.nil).nodup
  mem_iff key := by
    rw [ofList, mem_keys_insertAll, List.map_nil]
    simp

end Ordered

/-- Entering a new key adds one entry. -/
theorem perm_insert
    (isNew : key ∉ entries.map Prod.fst) :
    (insert key value entries).Perm ((key, value) :: entries) := by
  induction entries with
  | nil =>
      rfl
  | cons entry rest inductionHypothesis =>
      obtain ⟨first, present⟩ := entry
      rw [List.map_cons, List.mem_cons, not_or] at isNew
      rw [insert, if_neg isNew.1]
      split
      · rfl
      · exact ((inductionHypothesis isNew.2).cons _).trans (List.Perm.swap _ _ _)

theorem perm_insertAll
    {sorted : List (κ × α)}
    (distinct : ((entries ++ sorted).map Prod.fst).Nodup) :
    (insertAll entries sorted).Perm (entries ++ sorted) := by
  induction entries generalizing sorted with
  | nil =>
      rfl
  | cons entry rest inductionHypothesis =>
      obtain ⟨key, value⟩ := entry
      have entered :
          (rest ++ insert key value sorted).Perm (((key, value) :: rest) ++ sorted) := by
        refine ((perm_insert ?_).append_left rest).trans List.perm_middle
        rw [List.cons_append, List.map_cons, List.nodup_cons, List.map_append] at distinct
        exact fun present => distinct.1 (List.mem_append_right _ present)
      rw [insertAll]
      exact (inductionHypothesis ((entered.map Prod.fst).nodup_iff.mpr distinct)).trans entered

/-- Entries of distinct keys are only brought into order. -/
theorem perm_ofList
    (distinct : (entries.map Prod.fst).Nodup) :
    (ofList entries).Perm entries := by
  have reordered : (insertAll entries []).Perm (entries ++ []) :=
    perm_insertAll (by rwa [List.append_nil])
  rwa [List.append_nil] at reordered

/-- Sorted entries are entered as they are. -/
theorem ofList_of_sorted
    [Trans (α := κ) (· < ·) (· < ·) (· < ·)]
    [Std.Trichotomous (α := κ) (· < ·)]
    [Std.Irrefl (α := κ) (· < ·)]
    (sorted : Sorted entries) :
    ofList entries = entries := by
  have entered : Sorted (ofList entries) := Sorted.insertAll List.Pairwise.nil
  apply entered.eq_of_lookup?_eq sorted
  intro key
  exact (lookup?_eq_of_perm sorted.nodup (perm_ofList sorted.nodup).symm).symm

section Named

variable {ι : Type} {items : List ι} {name : ι → κ}

theorem foldl_insert_eq_insertAll
    {entry : ι → α}
    {sorted : List (κ × α)} :
    items.foldl (fun entries item => insert (name item) (entry item) entries) sorted =
      insertAll (items.map fun item => (name item, entry item)) sorted := by
  induction items generalizing sorted with
  | nil =>
      rfl
  | cons item rest inductionHypothesis =>
      exact inductionHypothesis

/-- Items under distinct names are only brought into order. -/
theorem perm_ofList_map
    (distinct : (items.map name).Nodup)
    (entry : ι → α) :
    (ofList (items.map fun item => (name item, entry item))).Perm
      (items.map fun item => (name item, entry item)) := by
  apply perm_ofList
  rwa [List.map_map]

/-- With distinct names every item is found under its own. -/
theorem lookup?_ofList_map
    (distinct : (items.map name).Nodup)
    (entry : ι → α)
    {item : ι}
    (member : item ∈ items) :
    lookup? (name item) (ofList (items.map fun item => (name item, entry item))) =
      some (entry item) := by
  have reordered := perm_ofList_map distinct entry
  have distinctKeys : ((items.map fun item => (name item, entry item)).map Prod.fst).Nodup := by
    rwa [List.map_map]
  rw [← lookup?_eq_of_perm distinctKeys reordered.symm]
  exact lookup?_of_mem distinctKeys (List.mem_map.mpr ⟨item, member, rfl⟩)

end Named

theorem insert_ne_nil :
    insert key value entries ≠ [] := by
  cases entries with
  | nil =>
      simp [insert]
  | cons entry rest =>
      rw [insert]
      split
      · simp
      · split <;> simp

theorem insertAll_eq_nil_iff
    {sorted : List (κ × α)} :
    insertAll entries sorted = [] ↔ entries = [] ∧ sorted = [] := by
  induction entries generalizing sorted with
  | nil =>
      simp [insertAll]
  | cons entry rest inductionHypothesis =>
      rw [insertAll, inductionHypothesis]
      simp [insert_ne_nil]

theorem ofList_eq_nil_iff :
    ofList entries = [] ↔ entries = [] := by
  simp [ofList, insertAll_eq_nil_iff]

theorem insert_map
    (change : α → β) :
    insert key (change value) (entries.map (Prod.map id change)) =
      (insert key value entries).map (Prod.map id change) := by
  induction entries with
  | nil =>
      rfl
  | cons entry rest inductionHypothesis =>
      obtain ⟨first, present⟩ := entry
      simp only [List.map_cons, Prod.map_apply, id, insert, inductionHypothesis]
      split
      · rfl
      · split <;> rfl

theorem insertAll_map
    (change : α → β)
    (sorted : List (κ × α)) :
    insertAll (entries.map (Prod.map id change)) (sorted.map (Prod.map id change)) =
      (insertAll entries sorted).map (Prod.map id change) := by
  induction entries generalizing sorted with
  | nil =>
      rfl
  | cons entry rest inductionHypothesis =>
      obtain ⟨key, value⟩ := entry
      rw [List.map_cons, Prod.map_apply, insertAll, insert_map, id, inductionHypothesis, insertAll]

/-- Values may be changed before or after their entries are brought into order. -/
theorem ofList_map
    (change : α → β) :
    ofList (entries.map (Prod.map id change)) =
      (ofList entries).map (Prod.map id change) :=
  insertAll_map change []

end Sorted

end FacetSearch.Entries
