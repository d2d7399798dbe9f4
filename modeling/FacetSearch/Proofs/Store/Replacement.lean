import FacetSearch.Proofs.Schema.Ancestors
import FacetSearch.Proofs.Store.Contents
import Mathlib.Data.Set.Card

namespace FacetSearch

/-!
# Replacing all document types

Replacing the document types of a store succeeds when the given ones have
distinct keys and each is accepted.  It then leaves a store of exactly these,
announces each key whose document type is another than before, once, and touches
no other key.  Otherwise nothing changes and nothing is announced.
-/

/-- The keys at which two maps differ. -/
def TypeMap.difference (left right : TypeMap) : Set TypeKey :=
  {key | left key ≠ right key}

namespace Store

section Exchange

variable {store next : Store} {key : TypeKey} {registry : Registry}

theorem mem_gone_iff :
    key ∈ store.gone next ↔ store.types key ≠ none ∧ next.types key = none := by
  rw [gone, List.mem_filter, mem_keys_iff, Option.isNone_iff_eq_none, ← Option.map_eq_none_iff]
  rfl

theorem holds_iff :
    store.holds key registry = true ↔ store.find? key = some registry := by
  rw [holds]
  cases store.find? key with
  | none =>
      simp
  | some current =>
      rw [beq_iff_eq, ← Registry.ext_iff, Option.some.injEq]

theorem lookup?_news :
    Entries.lookup? key (store.news next) =
      (next.find? key).filter fun registry => !store.holds key registry :=
  Entries.lookup?_filter next.keys_nodup

theorem keys_news_nodup
    (store next : Store) :
    ((store.news next).map Prod.fst).Nodup :=
  next.keys_nodup.sublist (List.filter_sublist.map Prod.fst)

theorem mem_keys_news_iff :
    key ∈ (store.news next).map Prod.fst ↔
      next.types key ≠ none ∧ store.types key ≠ next.types key := by
  rw [← not_iff_not, ← Entries.lookup?_eq_none_iff, lookup?_news]
  cases found : next.find? key with
  | none =>
      simp [types, found]
  | some registry =>
      have held : store.holds key registry = true ↔ store.types key = next.types key := by
        rw [holds_iff, find?_eq_some_iff, find?_eq_some_iff.mp found]
      have present : next.types key ≠ none := by
        simp [types, found]
      by_cases same : store.types key = next.types key
      · simp [held.mpr same, same]
      · have notHeld : store.holds key registry = false := by
          simpa [same] using held
        simp [notHeld, present, same]

theorem find?_foldl_drop
    {dropped : List TypeKey} :
    (dropped.foldl drop store).find? key = if key ∈ dropped then none else store.find? key := by
  induction dropped generalizing store with
  | nil =>
      simp
  | cons first rest inductionHypothesis =>
      rw [List.foldl_cons, inductionHypothesis, find?_drop]
      by_cases isFirst : key = first
      · simp [isFirst]
      · simp [isFirst]

theorem find?_foldl_enter
    {entered : List (TypeKey × Registry)}
    (distinct : (entered.map Prod.fst).Nodup) :
    (entered.foldl (fun store entry => store.enter entry.1 entry.2) store).find? key =
      (Entries.lookup? key entered).or (store.find? key) := by
  induction entered generalizing store with
  | nil =>
      rfl
  | cons entry rest inductionHypothesis =>
      obtain ⟨first, registry⟩ := entry
      obtain ⟨isNew, restDistinct⟩ := List.nodup_cons.mp distinct
      rw [List.foldl_cons, inductionHypothesis restDistinct, find?_enter, Entries.lookup?]
      by_cases isFirst : key = first
      · have noneLater : Entries.lookup? key rest = none :=
          Entries.lookup?_eq_none_iff.mpr (isFirst ▸ isNew)
        simp [isFirst ▸ noneLater, isFirst]
      · simp [isFirst, Ne.symm isFirst]

/-- Touching only what differs leads to the next store. -/
theorem exchange_eq
    (store next : Store) :
    store.exchange next = next := by
  have sameRegistries : ∀ key, (store.exchange next).find? key = next.find? key := by
    intro key
    rw [exchange, find?_foldl_drop, find?_foldl_enter (keys_news_nodup store next), lookup?_news]
    cases found : next.find? key with
    | none =>
        by_cases isGone : key ∈ store.gone next
        · simp [isGone]
        · have notThere : store.find? key = none := by
            simpa [mem_gone_iff, types, found] using isGone
          simp [isGone, notThere]
    | some registry =>
        have stays : key ∉ store.gone next := by
          simp [mem_gone_iff, types, found]
        rw [if_neg stays]
        by_cases held : store.holds key registry = true
        · simp [Option.filter, held, holds_iff.mp held]
        · simp [held]
  apply eq_of_types_eq
  funext key
  rw [types, sameRegistries]
  rfl

end Exchange

section Changes

variable {store next : Store} {key : TypeKey}

theorem removed_mem_changesTo_iff :
    .removed key ∈ store.changesTo next ↔ store.types key ≠ none ∧ next.types key = none := by
  rw [← mem_gone_iff, changesTo]
  simp

theorem upserted_mem_changesTo_iff :
    .upserted key ∈ store.changesTo next ↔
      next.types key ≠ none ∧ store.types key ≠ next.types key := by
  rw [← mem_keys_news_iff, changesTo]
  simp

theorem map_key_changesTo :
    (store.changesTo next).map Change.key =
      store.gone next ++ (store.news next).map Prod.fst := by
  simp [changesTo, Function.comp_def, Change.key]

/-- The way to the next store enters or drops no key that goes unannounced. -/
theorem find?_exchange_of_unannounced
    (unannounced : key ∉ (store.changesTo next).map Change.key) :
    (store.exchange next).find? key = store.find? key := by
  rw [map_key_changesTo, List.mem_append, not_or] at unannounced
  obtain ⟨notGone, notNew⟩ := unannounced
  have nothingEntered : Entries.lookup? key (store.news next) = none :=
    Entries.lookup?_eq_none_iff.mpr notNew
  calc (store.exchange next).find? key
      = ((store.news next).foldl
          (fun store entry => store.enter entry.1 entry.2) store).find? key := by
        rw [exchange, find?_foldl_drop, if_neg notGone]
    _ = store.find? key := by
        rw [find?_foldl_enter (keys_news_nodup store next), nothingEntered, Option.none_or]

/-- Each key is announced at most once. -/
theorem keys_changesTo_nodup
    (store next : Store) :
    ((store.changesTo next).map Change.key).Nodup := by
  rw [map_key_changesTo]
  refine List.Nodup.append (store.keys_nodup.filter _) (keys_news_nodup store next) ?_
  intro key isGone isNew
  exact (mem_keys_news_iff.mp isNew).1 (mem_gone_iff.mp isGone).2

/-- The announced keys are those at which the stores differ. -/
theorem mem_keys_changesTo_iff :
    key ∈ (store.changesTo next).map Change.key ↔ store.types key ≠ next.types key := by
  rw [map_key_changesTo, List.mem_append, mem_gone_iff, mem_keys_news_iff]
  by_cases absent : next.types key = none
  · simp [absent]
  · simp [absent]

/-- There are as many changes as keys at which the stores differ. -/
theorem encard_difference
    (store next : Store) :
    (store.types.difference next.types).encard = (store.changesTo next).length := by
  have sameKeys :
      store.types.difference next.types =
        ((store.changesTo next).map Change.key).toFinset := by
    ext key
    rw [Finset.mem_coe, List.mem_toFinset, mem_keys_changesTo_iff]
    rfl
  rw [sameKeys, Set.encard_coe_eq_coe_finsetCard,
    List.toFinset_card_of_nodup (keys_changesTo_nodup store next), List.length_map]

theorem changesTo_self
    (store : Store) :
    store.changesTo store = [] := by
  have noneDiffer : store.types.difference store.types = ∅ := by
    simp [TypeMap.difference]
  have noChanges := encard_difference store store
  rw [noneDiffer, Set.encard_empty] at noChanges
  exact List.length_eq_zero_iff.mp (by exact_mod_cast noChanges.symm)

end Changes

section Replacement

variable {store : Store} {types : List DocumentType}

theorem replaceAll_of_replaceable
    (replaceable : Replaceable types)
    (store : Store) :
    ∃ next : Store,
      next.types = typesOf types ∧
        store.replaceAll types =
          { store := next
            changes := store.changesTo next
            value := .ok (store.changesTo next).length } := by
  obtain ⟨next, checks⟩ :=
    exists_checkAll_iff.mpr ⟨replaceable, fun _ _ => types_empty⟩
  refine ⟨next, (checkAll_empty_eq_ok_iff.mp checks).2, ?_⟩
  rw [replaceAll, checks]
  simp only [exchange_eq]

theorem replaceAll_of_not_replaceable
    (refused : ¬ Replaceable types)
    (store : Store) :
    ∃ fault, store.replaceAll types = store.unchanged (.error fault) := by
  cases checks : checkAll types .empty with
  | error fault =>
      exact ⟨fault, by rw [replaceAll, checks]⟩
  | ok next =>
      exact (refused (checkAll_empty_eq_ok_iff.mp checks).1).elim

/--
What becomes of a store whose document types are replaced: what it holds
afterwards, what is left alone and what is announced of the way there, and that
it is the same when done again.
-/
structure Replacement
    (store : Store)
    (types : List DocumentType)
    (outcome : Outcome (Except Error Nat)) :
    Prop where
  /-- The store holds the given document types under their keys, and nothing else. -/
  holdsGiven :
    ∀ key type, outcome.store.types key = some type ↔ type ∈ types ∧ type.key = key
  /-- Keys that no change announces are neither entered nor dropped. -/
  untouched :
    ∀ key, key ∉ outcome.changes.map Change.key →
      outcome.store.find? key = store.find? key
  /-- A document type that is given as the store has it keeps its registry, unannounced. -/
  kept :
    ∀ type ∈ types, store.types type.key = some type →
      type.key ∉ outcome.changes.map Change.key ∧
        outcome.store.find? type.key = store.find? type.key
  /-- The number that is returned is that of the keys whose document type differs. -/
  counted :
    ∃ count : Nat, outcome.value = .ok count ∧
      (store.types.difference outcome.store.types).encard = count
  announcedOnce : outcome.changes.Nodup
  /-- Keys that the store no longer has are announced as removed. -/
  removed :
    ∀ key, .removed key ∈ outcome.changes ↔
      store.types key ≠ none ∧ outcome.store.types key = none
  /-- Keys that are new, or whose document type is another one, are announced as upserted. -/
  upserted :
    ∀ key, .upserted key ∈ outcome.changes ↔
      outcome.store.types key ≠ none ∧ store.types key ≠ outcome.store.types key
  /-- Once more, in any order, changes nothing and announces nothing. -/
  repeated :
    ∀ again : List DocumentType, again.Perm types →
      outcome.store.replaceAll again = outcome.store.unchanged (.ok 0)

/-- A store that has the document types already is left alone. -/
theorem replaceAll_of_types_eq
    (replaceable : Replaceable types)
    (same : store.types = typesOf types) :
    store.replaceAll types = store.unchanged (.ok 0) := by
  obtain ⟨next, nextTypes, replaces⟩ := replaceAll_of_replaceable replaceable store
  obtain rfl : next = store := eq_of_types_eq (nextTypes.trans same.symm)
  rw [replaces, changesTo_self]
  rfl

theorem replacement_replaceAll
    (replaceable : Replaceable types)
    (store : Store) :
    Replacement store types (store.replaceAll types) := by
  obtain ⟨next, nextTypes, replaces⟩ := replaceAll_of_replaceable replaceable store
  have untouched :
      ∀ key, key ∉ (store.changesTo next).map Change.key → next.find? key = store.find? key := by
    intro key unannounced
    calc next.find? key
        = (store.exchange next).find? key := by rw [exchange_eq]
      _ = store.find? key := find?_exchange_of_unannounced unannounced
  rw [replaces]
  constructor
  case holdsGiven =>
      intro key type
      rw [nextTypes]
      exact typesOf_eq_some_iff replaceable.keysNodup
  case untouched =>
      exact untouched
  case kept =>
      intro type member had
      have has : next.types type.key = some type := by
        rw [nextTypes]
        exact (typesOf_eq_some_iff replaceable.keysNodup).mpr ⟨member, rfl⟩
      have unannounced : type.key ∉ (store.changesTo next).map Change.key := by
        rw [mem_keys_changesTo_iff, not_not]
        exact had.trans has.symm
      exact ⟨unannounced, untouched type.key unannounced⟩
  case counted =>
      exact ⟨_, rfl, encard_difference store next⟩
  case announcedOnce =>
      exact (keys_changesTo_nodup store next).of_map _
  case removed =>
      intro key
      exact removed_mem_changesTo_iff
  case upserted =>
      intro key
      exact upserted_mem_changesTo_iff
  case repeated =>
      intro again reordered
      have sameTypes : next.types = typesOf again :=
        nextTypes.trans (typesOf_eq_of_perm replaceable.keysNodup reordered.symm)
      exact replaceAll_of_types_eq (replaceable.perm reordered.symm) sameTypes

/--
Document types replace those of a store exactly when their keys are distinct
and each of them is accepted.  If they do, the store becomes theirs and every
difference is announced; if they do not, the store is as before.
-/
theorem replaceAll_exchanges_all_or_nothing
    (store : Store)
    (types : List DocumentType) :
    ((∃ count, (store.replaceAll types).value = .ok count) ↔ Replaceable types) ∧
      (∀ fault, (store.replaceAll types).value = .error fault →
        (store.replaceAll types).store = store ∧ (store.replaceAll types).changes = []) ∧
      (Replaceable types → Replacement store types (store.replaceAll types)) := by
  by_cases replaceable : Replaceable types
  · have replacement := replacement_replaceAll replaceable store
    obtain ⟨count, succeeds, -⟩ := replacement.counted
    refine ⟨⟨fun _ => replaceable, fun _ => ⟨count, succeeds⟩⟩, ?_, fun _ => replacement⟩
    intro fault fails
    rw [succeeds] at fails
    cases fails
  · obtain ⟨fault, fails⟩ := replaceAll_of_not_replaceable replaceable store
    rw [fails]
    refine ⟨⟨?_, fun accepted => (replaceable accepted).elim⟩, ?_, ?_⟩
    · intro succeeds
      obtain ⟨count, succeeds⟩ := succeeds
      cases succeeds
    · intro _ _
      exact ⟨rfl, rfl⟩
    · intro accepted
      exact (replaceable accepted).elim

/-- Files with a size. -/
def fileType : DocumentType where
  name := "files"
  project := "demo"
  index := "files"
  fields := [{ name := "size", sourcePath := none, type := .long, displayValues := none }]
  defaultSort := []
  idField := DocumentType.defaultIdField

/-- A store of files, and of cases of which only the status is declared. -/
def filesAndBareCases : Store :=
  let bareCaseType := { caseType with fields := caseType.fields.take 1 }
  ((empty.upsert fileType).store.upsert bareCaseType).store

/-- Files go and cases change; giving files twice is refused. -/
theorem replaceAll_exchanges_all_or_nothing_of_filesAndBareCases :
    Replacement filesAndBareCases [caseType] (filesAndBareCases.replaceAll [caseType]) ∧
      (filesAndBareCases.replaceAll [caseType]).changes =
        [.removed fileType.key, .upserted caseType.key] ∧
      ¬ Replaceable [fileType, fileType] ∧
      ¬ ∃ count, (filesAndBareCases.replaceAll [fileType, fileType]).value = .ok count := by
  have refused := not_replaceable_twice fileType
  have exchanges := replaceAll_exchanges_all_or_nothing filesAndBareCases [caseType]
  have refuses := replaceAll_exchanges_all_or_nothing filesAndBareCases [fileType, fileType]
  refine ⟨exchanges.2.2 (replaceable_singleton caseRegistry), by decide +kernel, refused, ?_⟩
  rw [refuses.1]
  exact refused

/-- Files that are given as they were are kept, and only the cases are announced. -/
example :
    (filesAndBareCases.replaceAll [fileType, caseType]).changes = [.upserted caseType.key] := by
  decide +kernel

end Replacement

end Store

end FacetSearch
