import FacetSearch.Store.Basic

namespace FacetSearch

/-!
# Histories of a store

A store seen as a map from keys to document types, and the operations that
follow one another on it.
-/

/-- An operation on a store. -/
inductive StoreOperation where
  | upsert (type : DocumentType)
  | remove (project name : String)
  | replaceAll (types : List DocumentType)
  deriving Repr

/-- A map from keys to document types. -/
abbrev TypeMap := TypeKey → Option DocumentType

/-- The key that a change is about. -/
def Change.key : Change → TypeKey
  | .upserted key => key
  | .removed key => key

namespace Store

/-- The document type of each key. -/
def types (store : Store) : TypeMap :=
  fun key => (store.find? key).map Registry.documentType

/-- A store after an operation, with the changes that it announced. -/
def apply (store : Store) : StoreOperation → Store × List Change
  | .upsert type =>
      let outcome := store.upsert type
      (outcome.store, outcome.changes)
  | .remove project name =>
      let outcome := store.remove project name
      (outcome.store, outcome.changes)
  | .replaceAll types =>
      let outcome := store.replaceAll types
      (outcome.store, outcome.changes)

/-- The document types that a list holds, by key; the first of a key counts. -/
def typesOf (types : List DocumentType) : TypeMap :=
  fun key => types.find? fun type => type.key == key

/-- A list of document types that a store can be replaced by. -/
structure Replaceable (types : List DocumentType) : Prop where
  keysNodup : (types.map DocumentType.key).Nodup
  accepted : ∀ type ∈ types, ∃ registry, Registry.ofDocumentType type = .ok registry

end Store

namespace TypeMap

/-- A map with one key changed. -/
def set (map : TypeMap) (key : TypeKey) (value : Option DocumentType) : TypeMap :=
  fun other => if other = key then value else map other

/-- Follow a change: forget a removed key, and read an upserted one from the store. -/
def follow (store : Store) (map : TypeMap) : Change → TypeMap
  | .upserted key => map.set key (store.types key)
  | .removed key => map.set key none

/-- Follow changes one after the other, with the store as it is. -/
def followAll (store : Store) (map : TypeMap) (changes : List Change) : TypeMap :=
  changes.foldl (follow store) map

end TypeMap

end FacetSearch
