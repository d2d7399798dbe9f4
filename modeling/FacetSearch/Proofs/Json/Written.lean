import FacetSearch.Proofs.Json.Normal

namespace FacetSearch

/-!
# Reading back what was written

A record is written as an object of slots, each of which is left out when there
is nothing to write.  Its members may be brought into another order: as long as
every list of accepted names picks its own slot among those that are written,
each slot is read back as it was.  The lemmas below say so for the parts that
records are made of; a record is read back once its parts are.
-/

namespace Json

/-- The members of a record, each left out when there is nothing to write. -/
def given (slots : List (String × Option Json)) : List (String × Json) :=
  slots.filterMap fun slot => slot.2.map fun value => (slot.1, value)

theorem given_append
    (first second : List (String × Option Json)) :
    given (first ++ second) = given first ++ given second :=
  List.filterMap_append

theorem singleton_eq_given
    (name : String)
    (value : Json) :
    [(name, value)] = given [(name, some value)] :=
  rfl

theorem cons_given
    (name : String)
    (value : Json)
    (slots : List (String × Option Json)) :
    (name, value) :: given slots = given ((name, some value) :: slots) :=
  rfl

theorem optionalMember_eq_given
    {α : Type}
    (name : String)
    (write : α → Json)
    (value : Option α) :
    optionalMember name write value = given [(name, value.map write)] := by
  cases value <;> rfl

theorem filter_given
    (slots : List (String × Option Json))
    (passes : String → Bool) :
    ((given slots).filter fun member => passes member.1) =
      given (slots.filter fun slot => passes slot.1) := by
  rw [given, given, List.filter_filterMap, List.filterMap_filter]
  apply List.filterMap_congr
  rintro ⟨name, value⟩ -
  cases passed : passes name <;> cases value <;> simp [passed]

end Json

namespace Encoding

section Slots

variable
  {names : List String}
  {accepted : List (List String)}
  {members : List (String × Json)}

theorem slot?_normalizeMembers
    {slot : Option Json}
    (found : slot? members names = some slot) :
    slot? (Json.normalizeMembers members []) names = some (slot.map Json.normalize) := by
  rw [slot?] at found ⊢
  rw [Json.filter_normalizeMembers]
  split at found
  case h_1 noMember =>
      obtain rfl := Option.some.inj found
      rw [noMember]
      rfl
  case h_2 name value oneMember =>
      obtain rfl := Option.some.inj found
      rw [oneMember]
      rfl
  case h_3 =>
      cases found

/-- What a record gives for its slots is found in its normal form, each part normal itself. -/
theorem slots?_normalizeMembers
    {slots : List (Option Json)}
    (found : slots? members accepted = some slots) :
    slots? (Json.normalizeMembers members []) accepted =
      some (slots.map (Option.map Json.normalize)) := by
  induction accepted generalizing slots with
  | nil =>
      obtain rfl : [] = slots := Option.some.inj found
      rfl
  | cons names rest inductionHypothesis =>
      obtain ⟨first, foundFirst, foundRest⟩ := Option.bind_eq_some_iff.mp found
      obtain ⟨others, foundOthers, isSlots⟩ := Option.bind_eq_some_iff.mp foundRest
      obtain rfl := Option.some.inj isSlots
      rw [slots?, slot?_normalizeMembers foundFirst, inductionHypothesis foundOthers]
      rfl

theorem slot?_given
    {slots : List (String × Option Json)}
    {name : String}
    {value : Option Json}
    (picked : slots.filter (fun slot => names.contains slot.1) = [(name, value)]) :
    slot? (Json.given slots) names = some value := by
  rw [slot?, Json.filter_given, picked]
  cases value <;> rfl

/-- Names that pick one written slot each find what was written there. -/
theorem slots?_given
    {slots chosen : List (String × Option Json)}
    (picks :
      (accepted.map fun names => slots.filter fun slot => names.contains slot.1) =
        chosen.map fun slot => [slot]) :
    slots? (Json.given slots) accepted = some (chosen.map Prod.snd) := by
  induction accepted generalizing chosen with
  | nil =>
      obtain rfl : [] = chosen := by simpa using picks
      rfl
  | cons names rest inductionHypothesis =>
      obtain ⟨⟨name, value⟩, others, rfl, picksFirst, picksRest⟩ :=
        List.map_eq_cons_iff.mp picks.symm
      rw [slots?, slot?_given picksFirst.symm, inductionHypothesis picksRest.symm]
      rfl

/-- A slot is read back from a record, whatever the order of its members. -/
theorem slot?_normalizeMembers_given
    {slots : List (String × Option Json)}
    {name : String}
    {value : Option Json}
    (picked : slots.filter (fun slot => names.contains slot.1) = [(name, value)]) :
    slot? (Json.normalizeMembers (Json.given slots) []) names =
      some (value.map Json.normalize) :=
  slot?_normalizeMembers (slot?_given picked)

theorem slots?_normalizeMembers_given
    {slots : List (String × Option Json)}
    (picks :
      (accepted.map fun names => slots.filter fun slot => names.contains slot.1) =
        slots.map fun slot => [slot]) :
    slots? (Json.normalizeMembers (Json.given slots) []) accepted =
      some (slots.map fun slot => slot.2.map Json.normalize) := by
  rw [slots?_normalizeMembers (slots?_given picks), List.map_map]
  rfl

/-- A record is read back from its slots, whatever the order of its members. -/
theorem record?_given
    {slots : List (String × Option Json)}
    (picks :
      (accepted.map fun names => slots.filter fun slot => names.contains slot.1) =
        slots.map fun slot => [slot]) :
    record? accepted (Json.object (Json.given slots)).normalize =
      some (slots.map fun slot => slot.2.map Json.normalize) :=
  slots?_normalizeMembers_given picks

theorem mem_of_slot?
    {value : Json}
    (found : slot? members names = some (some value)) :
    ∃ name, (name, value) ∈ members := by
  rw [slot?] at found
  split at found
  case h_1 =>
      cases found
  case h_2 name only oneMember =>
      obtain rfl : only = value := by simpa using found
      have kept : (name, only) ∈ members.filter fun member => names.contains member.1 := by
        rw [oneMember]
        exact List.mem_singleton_self _
      exact ⟨name, List.mem_of_mem_filter kept⟩
  case h_3 =>
      cases found

/-- What is written for a slot is lower than its record. -/
theorem height_lt_of_given
    {name : String}
    {slots : List (String × Option Json)}
    {value : Json}
    (picked : slots.filter (fun slot => [name].contains slot.1) = [(name, some value)]) :
    value.normalize.height < (Json.object (Json.given slots)).normalize.height := by
  obtain ⟨_, isMember⟩ := mem_of_slot? (slot?_normalizeMembers_given picked)
  exact Json.height_lt_of_mem_members isMember

end Slots

section Parts

variable
  {α : Type}
  {read : Json → Option α}
  {write : α → Json}

theorem optional_map_normalize
    {value : Option α}
    (reads : ∀ content ∈ value, read (write content).normalize = some content)
    (notNull : ∀ content ∈ value, (write content).isNull = false) :
    optional read ((value.map write).map Json.normalize) = some value := by
  cases value with
  | none =>
      rfl
  | some content =>
      have present : isAbsent? (write content).normalize = some false := by
        simpa [isAbsent?] using notNull content rfl
      simp [optional, present, reads content rfl]

theorem listOf_map_normalize
    {items : List α}
    (reads : ∀ item ∈ items, read (write item).normalize = some item) :
    listOf read (Json.array (items.map write)).normalize = some items := by
  have readsAll : readAll read ((items.map write).map Json.normalize) = some items := by
    apply readAll_of_forall₂
    rw [List.map_map, List.forall₂_map_left_iff, List.forall₂_same]
    exact reads
  rwa [Json.normalize, Json.normalizeItems_eq_map]

theorem mapAll?_map_normalize
    {entries : List (String × α)}
    (reads : ∀ entry ∈ entries, read (write entry.2).normalize = some entry.2) :
    Entries.mapAll? read
        ((entries.map fun entry => (entry.1, write entry.2)).map (Prod.map id Json.normalize)) =
      some entries := by
  induction entries with
  | nil =>
      rfl
  | cons entry rest inductionHypothesis =>
      obtain ⟨readsFirst, readsRest⟩ := List.forall_mem_cons.mp reads
      simp only [List.map_cons, Prod.map_apply, id, Entries.mapAll?, readsFirst,
        inductionHypothesis readsRest, Option.bind_eq_bind, Option.bind_some]

theorem mapOf_map_normalize
    {entries : List (String × α)}
    (sorted : Entries.Sorted entries)
    (reads : ∀ entry ∈ entries, read (write entry.2).normalize = some entry.2) :
    mapOf read (Json.object (entries.map fun entry => (entry.1, write entry.2))).normalize =
      some entries := by
  have writtenSorted : Entries.Sorted (entries.map fun entry => (entry.1, write entry.2)) :=
    List.pairwise_map.mpr sorted
  rw [Json.normalize, Json.normalizeMembers_of_sorted writtenSorted]
  simp only [mapOf, Encoding.members?, Json.members?, mapAll?_map_normalize reads,
    Option.bind_eq_bind, Option.bind_some, Entries.ofList_of_sorted sorted]

theorem signed64?_int
    (value : Int64) :
    signed64? (Json.int value.toInt) = some value := by
  have inRange :
      Int64.minValue.toInt ≤ value.toInt ∧ value.toInt ≤ Int64.maxValue.toInt :=
    ⟨value.minValue_le_toInt, value.toInt_le⟩
  simp only [signed64?, Encoding.integer?, Json.int, Json.integer?, inRange, and_self, ↓reduceIte,
    Int64.ofInt_toInt]

/-- A raw value that is given is read back from itself. -/
theorem optional_raw_of_isGiven
    {kept : Option Json}
    (given : ∀ value ∈ kept, value.IsGiven) :
    optional (fun value => some value.normalize) (kept.map Json.normalize) = some kept := by
  cases kept with
  | none =>
      rfl
  | some value =>
      obtain ⟨normal, notNull⟩ := given value rfl
      simp only [optional, Option.map_some, isAbsent?, Json.isNull_normalize, notNull,
        Option.bind_eq_bind, Option.bind_some, Bool.false_eq_true, ↓reduceIte]
      rw [normal, normal]

end Parts

section Taken

variable
  {α β : Type}
  [Encoding α]
  {read : α → Option β}

/-- What an optional member holds was read from a value that is not absent. -/
theorem exists_read_of_optional
    {slot : Option α}
    {content : β}
    (taken : optional read slot = some (some content)) :
    ∃ value, isAbsent? value = some false ∧ read value = some content := by
  cases slot with
  | none =>
      cases taken
  | some value =>
      obtain ⟨absent, isAbsent, taken⟩ := Option.bind_eq_some_iff.mp taken
      cases absent with
      | true =>
          cases taken
      | false =>
          obtain ⟨result, reads, isContent⟩ := Option.map_eq_some_iff.mp taken
          obtain rfl := Option.some.inj isContent
          exact ⟨value, isAbsent, reads⟩

omit [Encoding α] in
theorem eq_or_exists_read_of_defaulted
    {slot : Option α}
    {default content : β}
    (taken : defaulted default read slot = some content) :
    content = default ∨ ∃ value, read value = some content := by
  cases slot with
  | none =>
      exact Or.inl (Option.some.inj taken).symm
  | some value =>
      exact Or.inr ⟨value, taken⟩

omit [Encoding α] in
theorem exists_read_of_readAll
    {values : List α}
    {items : List β}
    (taken : readAll read values = some items) :
    ∀ item ∈ items, ∃ value, read value = some item := by
  induction values generalizing items with
  | nil =>
      obtain rfl : [] = items := Option.some.inj taken
      simp
  | cons value rest inductionHypothesis =>
      obtain ⟨first, readsFirst, takenRest⟩ := Option.bind_eq_some_iff.mp taken
      obtain ⟨others, takenOthers, isItems⟩ := Option.bind_eq_some_iff.mp takenRest
      obtain rfl := Option.some.inj isItems
      exact List.forall_mem_cons.mpr ⟨⟨value, readsFirst⟩, inductionHypothesis takenOthers⟩

theorem exists_read_of_listOf
    {value : α}
    {items : List β}
    (taken : listOf read value = some items) :
    ∀ item ∈ items, ∃ value, read value = some item := by
  obtain ⟨values, -, takenValues⟩ := Option.bind_eq_some_iff.mp taken
  exact exists_read_of_readAll takenValues

theorem sorted_of_mapOf
    {value : α}
    {entries : List (String × β)}
    (taken : mapOf read value = some entries) :
    Entries.Sorted entries := by
  obtain ⟨members, -, takenMembers⟩ := Option.bind_eq_some_iff.mp taken
  obtain ⟨given, -, isEntries⟩ := Option.bind_eq_some_iff.mp takenMembers
  obtain rfl := Option.some.inj isEntries
  exact Entries.Sorted.insertAll List.Pairwise.nil

end Taken

/-- A raw value is kept in normal form, unless it is `null`. -/
theorem isGiven_of_optional_raw
    {slot kept : Option Json}
    (taken : optional (fun value => some value.normalize) slot = some kept) :
    ∀ value ∈ kept, value.IsGiven := by
  rintro value rfl
  obtain ⟨read, notAbsent, normalized⟩ := exists_read_of_optional taken
  obtain rfl := Option.some.inj normalized
  exact ⟨read.isNormal_normalize, by simpa [isAbsent?] using notAbsent⟩

end Encoding

end FacetSearch
