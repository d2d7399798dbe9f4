import FacetSearch.Proofs.Entries
import FacetSearch.Store.History

namespace FacetSearch

/-!
# What a store holds

A store is determined by the document type of each key.  Entering or dropping a
key changes that key alone, and checking a list of document types succeeds when
they can all be held at once: the next store then holds exactly them.
-/

namespace Store

section Lookup

variable {store : Store} {key other : TypeKey} {registry : Registry}

theorem keys_nodup
    (store : Store) :
    store.keys.Nodup :=
  store.sorted.nodup

theorem mem_keys_iff :
    key ∈ store.keys ↔ store.types key ≠ none := by
  rw [types, Ne, Option.map_eq_none_iff, find?, Entries.lookup?_eq_none_iff, not_not, keys]

@[simp]
theorem types_empty :
    Store.empty.types key = none := by
  rfl

theorem find?_enter :
    (store.enter key registry).find? other =
      if other = key then some registry else store.find? other :=
  Entries.lookup?_insert

theorem find?_drop :
    (store.drop key).find? other = if other = key then none else store.find? other :=
  Entries.lookup?_erase

theorem types_enter :
    (store.enter key registry).types = store.types.set key (some registry.documentType) := by
  funext other
  rw [types, find?_enter, TypeMap.set]
  split
  · rfl
  · rfl

theorem types_drop :
    (store.drop key).types = store.types.set key none := by
  funext other
  rw [types, find?_drop, TypeMap.set]
  split
  · rfl
  · rfl

theorem find?_eq_some_iff :
    store.find? key = some registry ↔ store.types key = some registry.documentType := by
  rw [types, Option.map_eq_some_iff]
  constructor
  · intro found
    exact ⟨registry, found, rfl⟩
  · intro foundType
    obtain ⟨present, found, sameType⟩ := foundType
    rw [found, Registry.ext sameType]

/-- A store is determined by the document type of each key. -/
theorem eq_of_types_eq
    {left right : Store}
    (same : left.types = right.types) :
    left = right := by
  have sameRegistries : ∀ key, left.find? key = right.find? key := by
    intro key
    ext registry
    rw [find?_eq_some_iff, find?_eq_some_iff, same]
  exact Store.ext (left.sorted.eq_of_lookup?_eq right.sorted sameRegistries)

end Lookup

section Check

variable {types rest : List DocumentType} {type : DocumentType} {checked next : Store}

theorem checkAll_cons_eq_ok_iff :
    checkAll (type :: rest) checked = .ok next ↔
      checked.types type.key = none ∧
        ∃ registry, Registry.ofDocumentType type = .ok registry ∧
          checkAll rest (checked.enter type.key registry) = .ok next := by
  rw [checkAll, Store.types, Option.map_eq_none_iff]
  cases checked.find? type.key with
  | some present =>
      simp
  | none =>
      cases Registry.ofDocumentType type with
      | error fault =>
          simp
      | ok registry =>
          simp

/-- Document types are all checked when each is accepted and finds its key free. -/
theorem exists_checkAll_iff :
    (∃ next, checkAll types checked = .ok next) ↔
      Replaceable types ∧ ∀ type ∈ types, checked.types type.key = none := by
  induction types generalizing checked with
  | nil =>
      constructor
      · intro _
        exact ⟨⟨.nil, by simp⟩, by simp⟩
      · intro _
        exact ⟨checked, rfl⟩
  | cons type rest inductionHypothesis =>
      constructor
      · intro checks
        obtain ⟨next, checks⟩ := checks
        obtain ⟨isFree, registry, accepted, restChecks⟩ := checkAll_cons_eq_ok_iff.mp checks
        obtain ⟨restReplaceable, restFree⟩ := inductionHypothesis.mp ⟨next, restChecks⟩
        have apart : ∀ later ∈ rest, later.key ≠ type.key ∧ checked.types later.key = none := by
          intro later member
          have laterFree := restFree later member
          rw [types_enter, TypeMap.set] at laterFree
          by_cases same : later.key = type.key
          · simp [same] at laterFree
          · exact ⟨same, by simpa [same] using laterFree⟩
        refine ⟨⟨?_, ?_⟩, ?_⟩
        · refine List.nodup_cons.mpr ⟨?_, restReplaceable.keysNodup⟩
          intro repeated
          obtain ⟨later, member, same⟩ := List.mem_map.mp repeated
          exact (apart later member).1 same
        · exact List.forall_mem_cons.mpr ⟨⟨registry, accepted⟩, restReplaceable.accepted⟩
        · exact List.forall_mem_cons.mpr ⟨isFree, fun later member => (apart later member).2⟩
      · intro fitting
        obtain ⟨replaceable, areFree⟩ := fitting
        obtain ⟨isNew, restNodup⟩ := List.nodup_cons.mp replaceable.keysNodup
        obtain ⟨⟨registry, accepted⟩, restAccepted⟩ :=
          List.forall_mem_cons.mp replaceable.accepted
        obtain ⟨isFree, restFree⟩ := List.forall_mem_cons.mp areFree
        have stillFree :
            ∀ later ∈ rest, (checked.enter type.key registry).types later.key = none := by
          intro later member
          have differs : later.key ≠ type.key := by
            intro same
            exact isNew (same ▸ List.mem_map_of_mem member)
          rw [types_enter, TypeMap.set, if_neg differs]
          exact restFree later member
        obtain ⟨next, restChecks⟩ :=
          inductionHypothesis.mpr ⟨⟨restNodup, restAccepted⟩, stillFree⟩
        exact ⟨next, checkAll_cons_eq_ok_iff.mpr ⟨isFree, registry, accepted, restChecks⟩⟩

/-- After the check a store holds the checked document types beside what it held before. -/
theorem types_of_checkAll
    (checks : checkAll types checked = .ok next)
    (key : TypeKey) :
    next.types key = (typesOf types key).or (checked.types key) := by
  induction types generalizing checked with
  | nil =>
      obtain rfl : checked = next := Except.ok.inj checks
      rfl
  | cons type rest inductionHypothesis =>
      obtain ⟨-, registry, accepted, restChecks⟩ := checkAll_cons_eq_ok_iff.mp checks
      have sameType := Registry.ofDocumentType_eq_ok_iff.mp accepted
      obtain ⟨-, restFree⟩ := exists_checkAll_iff.mp ⟨next, restChecks⟩
      rw [inductionHypothesis restChecks, types_enter, TypeMap.set, sameType]
      by_cases isKey : key = type.key
      · -- The key is taken from now on, so no later document type has it.
        have noneLater : typesOf rest key = none := by
          refine List.find?_eq_none.mpr ?_
          intro later member same
          have laterFree := restFree later member
          rw [types_enter, TypeMap.set, if_pos ((beq_iff_eq.mp same).trans isKey)] at laterFree
          cases laterFree
        have found : typesOf (type :: rest) key = some type :=
          List.find?_cons_of_pos (by simp [isKey])
        rw [noneLater, found, if_pos isKey]
        rfl
      · have skipped : typesOf (type :: rest) key = typesOf rest key :=
          List.find?_cons_of_neg (by simpa using Ne.symm isKey)
        rw [skipped, if_neg isKey]

/-- With distinct keys a list holds each of its document types. -/
theorem typesOf_eq_some_iff
    (distinct : (types.map DocumentType.key).Nodup)
    {key : TypeKey} :
    typesOf types key = some type ↔ type ∈ types ∧ type.key = key := by
  constructor
  · intro found
    have sameKey : type.key = key := by
      simpa using List.find?_some (p := fun type : DocumentType => type.key == key) found
    exact ⟨List.mem_of_find?_eq_some found, sameKey⟩
  · intro memberOfKey
    obtain ⟨member, rfl⟩ := memberOfKey
    cases found : typesOf types type.key with
    | none =>
        have absent := List.find?_eq_none.mp found type member
        simp at absent
    | some other =>
        have sameKey : other.key = type.key := by
          simpa using List.find?_some (p := fun other : DocumentType => other.key == type.key) found
        have otherMember : other ∈ types := List.mem_of_find?_eq_some found
        rw [List.inj_on_of_nodup_map distinct otherMember member sameKey]

/-- The order of document types of distinct keys does not matter. -/
theorem typesOf_eq_of_perm
    {types' : List DocumentType}
    (distinct : (types.map DocumentType.key).Nodup)
    (reordered : types.Perm types') :
    typesOf types = typesOf types' := by
  have distinct' : (types'.map DocumentType.key).Nodup :=
    (reordered.map DocumentType.key).nodup_iff.mp distinct
  funext key
  ext type
  rw [typesOf_eq_some_iff distinct, typesOf_eq_some_iff distinct', reordered.mem_iff]

theorem Replaceable.perm
    {types' : List DocumentType}
    (replaceable : Replaceable types)
    (reordered : types.Perm types') :
    Replaceable types' where
  keysNodup := (reordered.map DocumentType.key).nodup_iff.mp replaceable.keysNodup
  accepted := by
    intro type member
    exact replaceable.accepted type (reordered.mem_iff.mpr member)

theorem replaceable_singleton
    (registry : Registry) :
    Replaceable [registry.documentType] where
  keysNodup := List.nodup_singleton _
  accepted := by
    intro type member
    obtain rfl := List.mem_singleton.mp member
    exact ⟨registry, Registry.ofDocumentType_eq_ok_iff.mpr rfl⟩

theorem not_replaceable_twice
    (type : DocumentType) :
    ¬ Replaceable [type, type] := by
  intro replaceable
  have distinct := replaceable.keysNodup
  simp at distinct

/-- Document types are checked into the store that holds exactly them, or not at all. -/
theorem checkAll_empty_eq_ok_iff :
    checkAll types .empty = .ok next ↔ Replaceable types ∧ next.types = typesOf types := by
  have holdsThem : ∀ {next}, checkAll types .empty = .ok next → next.types = typesOf types := by
    intro next checks
    funext key
    rw [types_of_checkAll checks, types_empty, Option.or_none]
  constructor
  · intro checks
    exact ⟨(exists_checkAll_iff.mp ⟨next, checks⟩).1, holdsThem checks⟩
  · intro fitting
    obtain ⟨replaceable, sameTypes⟩ := fitting
    obtain ⟨checkedNext, checks⟩ :=
      exists_checkAll_iff.mpr ⟨replaceable, fun _ _ => types_empty⟩
    rw [checks, eq_of_types_eq ((holdsThem checks).trans sameTypes.symm)]

end Check

end Store

end FacetSearch
