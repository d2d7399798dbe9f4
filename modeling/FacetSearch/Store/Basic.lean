import FacetSearch.Entries
import FacetSearch.Schema.Registry
import FacetSearch.Store.Key

namespace FacetSearch

/-!
# Stores

A store holds the registries of all document types.  Whoever watches it is
told which keys an operation changed.  The full set is replaced in one step:
every document type is checked before anything is touched.
-/

/-- The key of a document type. -/
def DocumentType.key (type : DocumentType) : TypeKey :=
  { project := type.project, name := type.name }

/-- What those who watch a store are told. -/
inductive Change where
  | upserted (key : TypeKey)
  | removed (key : TypeKey)
  deriving DecidableEq, Repr, Inhabited

/-- The text of a change. -/
def Change.text : Change → String
  | .upserted key => "upserted " ++ key.text
  | .removed key => "removed " ++ key.text

/-- The registries of all document types, sorted by key. -/
@[ext]
structure Store where
  entries : List (TypeKey × Registry)
  sorted : Entries.Sorted entries

/-- A store after an operation, what changed, and what the operation returned. -/
structure Outcome (α : Type) where
  store : Store
  changes : List Change
  value : α

namespace Store

/-- A store of nothing. -/
def empty : Store where
  entries := []
  sorted := .nil

/-- An operation that leaves a store alone. -/
def unchanged
    {α : Type}
    (store : Store)
    (value : α) :
    Outcome α where
  store := store
  changes := []
  value := value

/-- The keys of a store, sorted. -/
def keys (store : Store) : List TypeKey :=
  store.entries.map Prod.fst

/-- The registry of a key. -/
def find?
    (store : Store)
    (key : TypeKey) :
    Option Registry :=
  Entries.lookup? key store.entries

/-- The registry of a document type that has to be there. -/
def get
    (store : Store)
    (project name : String) :
    Except Error Registry :=
  match store.find? { project, name } with
  | some registry => .ok registry
  | none => .error (.documentTypeNotFound project name)

/-- Enter a registry, in the place of an earlier one of its key. -/
def enter
    (store : Store)
    (key : TypeKey)
    (registry : Registry) :
    Store where
  entries := Entries.insert key registry store.entries
  sorted := Entries.sorted_insert store.sorted

/-- Drop a key. -/
def drop
    (store : Store)
    (key : TypeKey) :
    Store where
  entries := Entries.erase key store.entries
  sorted := Entries.sorted_erase store.sorted

/-- Enter a document type, in the place of an earlier one of its key. -/
def upsert
    (store : Store)
    (type : DocumentType) :
    Outcome (Except Error Registry) :=
  match Registry.ofDocumentType type with
  | .error fault => store.unchanged (.error fault)
  | .ok registry =>
      { store := store.enter type.key registry
        changes := [.upserted type.key]
        value := .ok registry }

/-- Drop a document type; whether there was one. -/
def remove
    (store : Store)
    (project name : String) :
    Outcome Bool :=
  let key : TypeKey := { project, name }
  match store.find? key with
  | none => store.unchanged false
  | some _ =>
      { store := store.drop key
        changes := [.removed key]
        value := true }

/--
Check document types one after the other and enter their registries into the
next store.  A key that was entered before is reported ahead of any fault of
the document type itself.
-/
def checkAll : List DocumentType → Store → Except Error Store
  | [], next => .ok next
  | type :: rest, next =>
      match next.find? type.key with
      | some _ => .error (.config (.repeatedType type.project type.name))
      | none =>
          match Registry.ofDocumentType type with
          | .error fault => .error fault
          | .ok registry => checkAll rest (next.enter type.key registry)

/-- Whether a store has a key with exactly this document type. -/
def holds
    (store : Store)
    (key : TypeKey)
    (registry : Registry) :
    Bool :=
  match store.find? key with
  | some current => current.documentType == registry.documentType
  | none => false

/-- The entries of the next store that a store does not have yet. -/
def news (store next : Store) : List (TypeKey × Registry) :=
  next.entries.filter fun entry => !store.holds entry.1 entry.2

/-- The keys of a store that the next one no longer has. -/
def gone (store next : Store) : List TypeKey :=
  store.keys.filter fun key => (next.find? key).isNone

/-- The changes from a store to the next one. -/
def changesTo (store next : Store) : List Change :=
  (store.gone next).map Change.removed ++
    (store.news next).map fun entry => Change.upserted entry.1

/-- Turn a store into the next one, touching only what differs. -/
def exchange (store next : Store) : Store :=
  (store.gone next).foldl drop
    ((store.news next).foldl (fun store entry => store.enter entry.1 entry.2) store)

/-- Replace the full set of document types; the number of those that changed. -/
def replaceAll
    (store : Store)
    (types : List DocumentType) :
    Outcome (Except Error Nat) :=
  match checkAll types empty with
  | .error fault => store.unchanged (.error fault)
  | .ok next =>
      let changes := store.changesTo next
      { store := store.exchange next, changes, value := .ok changes.length }

/-- A store of document types. -/
def ofTypes (types : List DocumentType) : Except Error Store :=
  let outcome := empty.replaceAll types
  outcome.value.map fun _ => outcome.store

/-- Replace the full set by what was loaded; a failed load changes nothing. -/
def reload
    (store : Store) :
    Except Error (List DocumentType) → Outcome (Except Error Nat)
  | .error fault => store.unchanged (.error fault)
  | .ok types => store.replaceAll types

/-- Reload once for each load, in order; what each reload returned. -/
def poll
    (store : Store) :
    List (Except Error (List DocumentType)) → Outcome (List (Except Error Nat))
  | [] => store.unchanged []
  | load :: rest =>
      let first := store.reload load
      let others := first.store.poll rest
      { store := others.store
        changes := first.changes ++ others.changes
        value := first.value :: others.value }

end Store

end FacetSearch
