import FacetSearch.Proofs.Store.Replacement
import FacetSearch.Store.Subscription

namespace FacetSearch

/-!
# Following a store by its changes

An operation announces every key that it changes, and announces as removed only
keys that are gone.  So whoever received all changes since joining can bring the
copy up to date: what is still waiting, followed with the store as it is, leads
to what the store holds.
-/

namespace TypeMap

variable {store : Store} {map : TypeMap} {changes : List Change} {key : TypeKey}

theorem follow_of_ne
    {change : Change}
    (differs : key ≠ change.key) :
    map.follow store change key = map key := by
  cases change with
  | upserted other =>
      exact if_neg differs
  | removed other =>
      exact if_neg differs

theorem followAll_append
    {later : List Change} :
    map.followAll store (changes ++ later) = (map.followAll store changes).followAll store later :=
  List.foldl_append

theorem followAll_of_unannounced
    (silent : key ∉ changes.map Change.key) :
    map.followAll store changes key = map key := by
  induction changes generalizing map with
  | nil =>
      rfl
  | cons change rest inductionHypothesis =>
      rw [List.map_cons, List.mem_cons, not_or] at silent
      have followed :
          (map.follow store change).followAll store rest key = map.follow store change key :=
        inductionHypothesis silent.2
      rw [follow_of_ne silent.1] at followed
      exact followed

/-- An announced key is read from the store in the end, whatever the copy was. -/
theorem followAll_of_announced
    (removedAbsent : ∀ key, .removed key ∈ changes → store.types key = none)
    (announced : key ∈ changes.map Change.key) :
    map.followAll store changes key = store.types key := by
  induction changes generalizing map with
  | nil =>
      cases announced
  | cons change rest inductionHypothesis =>
      by_cases later : key ∈ rest.map Change.key
      · have restAbsent : ∀ key, .removed key ∈ rest → store.types key = none := by
          intro other member
          exact removedAbsent other (List.mem_cons_of_mem _ member)
        exact inductionHypothesis restAbsent later
      · have isKey : key = change.key :=
          (List.mem_cons.mp announced).resolve_right later
        have followed : map.followAll store (change :: rest) key = map.follow store change key :=
          followAll_of_unannounced later
        rw [followed]
        cases change with
        | upserted other =>
            obtain rfl : key = other := isKey
            exact if_pos rfl
        | removed other =>
            obtain rfl : key = other := isKey
            rw [removedAbsent key List.mem_cons_self]
            exact if_pos rfl

/-- What following leads to at a key depends on nothing but that key. -/
theorem followAll_congr
    {store' : Store}
    {map' : TypeMap}
    (sameCopy : map key = map' key)
    (sameStore : store.types key = store'.types key) :
    map.followAll store changes key = map'.followAll store' changes key := by
  induction changes generalizing map map' with
  | nil =>
      exact sameCopy
  | cons change rest inductionHypothesis =>
      apply inductionHypothesis
      by_cases isKey : key = change.key
      · cases change with
        | upserted other =>
            obtain rfl : key = other := isKey
            simp [follow, set, sameStore]
        | removed other =>
            obtain rfl : key = other := isKey
            simp [follow, set]
      · rw [follow_of_ne isKey, follow_of_ne isKey]
        exact sameCopy

end TypeMap

namespace Store

/-- What an operation announces of the way from one store to the next. -/
structure Announces
    (before after : Store)
    (changes : List Change) :
    Prop where
  removedAbsent : ∀ key, .removed key ∈ changes → after.types key = none
  silentKept : ∀ key, key ∉ changes.map Change.key → after.types key = before.types key

/-- Every document type of a store is held under its own key. -/
def IsKeyed (store : Store) : Prop :=
  ∀ key type, store.types key = some type → type.key = key

/-- All that an operation can do to a store, and what it announces of it. -/
inductive Effect
    (store : Store) :
    Store → List Change → Prop where
  | nothing : Effect store store []
  | entered {type : DocumentType} {registry : Registry} :
      Registry.ofDocumentType type = .ok registry →
      Effect store (store.enter type.key registry) [.upserted type.key]
  | dropped (key : TypeKey) : Effect store (store.drop key) [.removed key]
  | replaced {types : List DocumentType} {after : Store} :
      Replaceable types →
      after.types = typesOf types →
      Effect store after (store.changesTo after)

theorem effect_apply
    (store : Store)
    (operation : StoreOperation) :
    Effect store (store.apply operation).1 (store.apply operation).2 := by
  cases operation with
  | upsert type =>
      rw [apply, upsert]
      cases accepted : Registry.ofDocumentType type with
      | error fault =>
          exact .nothing
      | ok registry =>
          exact .entered accepted
  | remove project name =>
      rw [apply, remove]
      cases store.find? { project, name } with
      | none =>
          exact .nothing
      | some registry =>
          exact .dropped _
  | replaceAll types =>
      rw [apply]
      by_cases replaceable : Replaceable types
      · obtain ⟨after, holdsGiven, replaces⟩ := replaceAll_of_replaceable replaceable store
        rw [replaces]
        exact .replaced replaceable holdsGiven
      · obtain ⟨fault, fails⟩ := replaceAll_of_not_replaceable replaceable store
        rw [fails]
        exact .nothing

section Operations

variable {store : Store}

theorem Announces.perm
    {after : Store}
    {changes changes' : List Change}
    (announces : Announces store after changes)
    (reordered : changes'.Perm changes) :
    Announces store after changes' where
  removedAbsent := by
    intro key member
    exact announces.removedAbsent key (reordered.mem_iff.mp member)
  silentKept := by
    intro key silent
    rw [(reordered.map Change.key).mem_iff] at silent
    exact announces.silentKept key silent

theorem announces_nothing
    (store : Store) :
    Announces store store [] where
  removedAbsent := by simp
  silentKept := by simp

theorem announces_changesTo
    (store next : Store) :
    Announces store next (store.changesTo next) where
  removedAbsent := by
    intro key member
    exact (removed_mem_changesTo_iff.mp member).2
  silentKept := by
    intro key silent
    rw [mem_keys_changesTo_iff, not_not] at silent
    exact silent.symm

theorem announces_enter
    (store : Store)
    (key : TypeKey)
    (registry : Registry) :
    Announces store (store.enter key registry) [.upserted key] where
  removedAbsent := by simp
  silentKept := by
    intro other silent
    have differs : other ≠ key := by
      simpa [Change.key] using silent
    rw [types_enter, TypeMap.set, if_neg differs]

theorem announces_drop
    (store : Store)
    (key : TypeKey) :
    Announces store (store.drop key) [.removed key] where
  removedAbsent := by
    intro other member
    obtain rfl : other = key := by simpa using member
    rw [types_drop, TypeMap.set, if_pos rfl]
  silentKept := by
    intro other silent
    have differs : other ≠ key := by
      simpa [Change.key] using silent
    rw [types_drop, TypeMap.set, if_neg differs]

theorem Effect.announces
    {after : Store}
    {changes : List Change}
    (effect : Effect store after changes) :
    Announces store after changes := by
  cases effect with
  | nothing =>
      exact announces_nothing store
  | entered accepted =>
      exact announces_enter store _ _
  | dropped key =>
      exact announces_drop store key
  | replaced replaceable holdsGiven =>
      exact announces_changesTo store after

theorem isKeyed_empty :
    empty.IsKeyed := by
  intro key type found
  cases found

theorem IsKeyed.enter
    {type : DocumentType}
    {registry : Registry}
    (keyed : store.IsKeyed)
    (accepted : Registry.ofDocumentType type = .ok registry) :
    (store.enter type.key registry).IsKeyed := by
  intro key other found
  rw [types_enter, TypeMap.set, Registry.ofDocumentType_eq_ok_iff.mp accepted] at found
  by_cases isKey : key = type.key
  · rw [if_pos isKey] at found
    rw [← Option.some.inj found, isKey]
  · rw [if_neg isKey] at found
    exact keyed key other found

theorem IsKeyed.drop
    (keyed : store.IsKeyed)
    (dropped : TypeKey) :
    (store.drop dropped).IsKeyed := by
  intro key type found
  rw [types_drop, TypeMap.set] at found
  by_cases isKey : key = dropped
  · rw [if_pos isKey] at found
    cases found
  · rw [if_neg isKey] at found
    exact keyed key type found

theorem Effect.isKeyed
    {after : Store}
    {changes : List Change}
    (effect : Effect store after changes)
    (keyed : store.IsKeyed) :
    after.IsKeyed := by
  cases effect with
  | nothing =>
      exact keyed
  | entered accepted =>
      exact keyed.enter accepted
  | dropped key =>
      exact keyed.drop key
  | replaced replaceable holdsGiven =>
      intro key type found
      rw [holdsGiven] at found
      exact ((typesOf_eq_some_iff replaceable.keysNodup).mp found).2

end Operations

end Store

namespace Broadcast

/--
What holds after every step.  What is still pending, some of it sent and some of
it not, leads the copy of a subscriber who missed nothing to what the store holds.
-/
structure Invariant (broadcast : Broadcast) : Prop where
  keyed : broadcast.store.IsKeyed
  unsentAbsent : ∀ key, .removed key ∈ broadcast.unsent → broadcast.store.types key = none
  leadsThere :
    ∀ subscriber, broadcast.subscriber = some subscriber → subscriber.missed = 0 →
      subscriber.copy.followAll broadcast.store (subscriber.waiting ++ broadcast.unsent) =
        broadcast.store.types

theorem invariant_initial :
    Broadcast.initial.Invariant where
  keyed := Store.isKeyed_empty
  unsentAbsent := by simp [initial]
  leadsThere := by simp [initial]

section Steps

variable {store : Store} {unsent : List Change} {subscriber : Option Subscriber}

/-- The changes of an operation lead from what led to the store before to the store after. -/
theorem Invariant.operate
    (invariant : Invariant { store, unsent := [], subscriber })
    {changes : List Change}
    (operation : StoreOperation)
    (announced : changes.Perm (store.apply operation).2) :
    Invariant { store := (store.apply operation).1, unsent := changes, subscriber } := by
  have effect := store.effect_apply operation
  have announces := effect.announces.perm announced
  constructor
  case keyed =>
      exact effect.isKeyed invariant.keyed
  case unsentAbsent =>
      exact announces.removedAbsent
  case leadsThere =>
      intro subscriber present missedNone
      have ledThere := invariant.leadsThere subscriber present missedNone
      rw [List.append_nil] at ledThere
      funext key
      rw [TypeMap.followAll_append]
      by_cases isAnnounced : key ∈ changes.map Change.key
      · exact TypeMap.followAll_of_announced announces.removedAbsent isAnnounced
      · have kept := announces.silentKept key isAnnounced
        calc
          _ = subscriber.copy.followAll (store.apply operation).1 subscriber.waiting key :=
            TypeMap.followAll_of_unannounced isAnnounced
          _ = subscriber.copy.followAll store subscriber.waiting key :=
            TypeMap.followAll_congr rfl kept
          _ = store.types key := congrFun ledThere key
          _ = (store.apply operation).1.types key := kept.symm

/-- A change that is sent goes from the unsent ones to the waiting ones, or one is missed. -/
theorem Invariant.send
    {change : Change}
    (invariant : Invariant { store, unsent := change :: unsent, subscriber }) :
    Invariant { store, unsent, subscriber := subscriber.map (Subscriber.send change) } := by
  constructor
  case keyed =>
      exact invariant.keyed
  case unsentAbsent =>
      intro key member
      exact invariant.unsentAbsent key (List.mem_cons_of_mem _ member)
  case leadsThere =>
      intro sent present missedNone
      obtain ⟨before, wasThere, rfl⟩ := Option.map_eq_some_iff.mp present
      rw [Subscriber.send] at missedNone ⊢
      split at missedNone
      case isTrue room =>
          have ledThere := invariant.leadsThere before wasThere missedNone
          rw [if_pos room, List.append_assoc]
          exact ledThere
      case isFalse =>
          cases missedNone

theorem Invariant.join
    (invariant : Invariant { store, unsent, subscriber }) :
    Invariant { store, unsent, subscriber := some (.joining store) } := by
  constructor
  case keyed =>
      exact invariant.keyed
  case unsentAbsent =>
      exact invariant.unsentAbsent
  case leadsThere =>
      intro joined present _
      obtain rfl : Subscriber.joining store = joined := Option.some.inj present
      funext key
      by_cases isAnnounced : key ∈ unsent.map Change.key
      · exact TypeMap.followAll_of_announced invariant.unsentAbsent isAnnounced
      · exact TypeMap.followAll_of_unannounced isAnnounced

theorem Invariant.receive
    {copy : TypeMap}
    {change : Change}
    {waiting : List Change}
    {missed : Nat}
    (invariant :
      Invariant
        { store, unsent, subscriber := some { copy, waiting := change :: waiting, missed } }) :
    Invariant
      { store, unsent,
        subscriber := some { copy := copy.follow store change, waiting, missed } } := by
  constructor
  case keyed =>
      exact invariant.keyed
  case unsentAbsent =>
      exact invariant.unsentAbsent
  case leadsThere =>
      intro receiver present missedNone
      obtain rfl := Option.some.inj present
      exact invariant.leadsThere { copy, waiting := change :: waiting, missed } rfl missedNone

end Steps

theorem Invariant.step
    {before after : Broadcast}
    (invariant : before.Invariant)
    (step : Step before after) :
    after.Invariant := by
  cases step with
  | operate operation announced =>
      exact invariant.operate operation announced
  | send =>
      exact invariant.send
  | join =>
      exact invariant.join
  | receive =>
      exact invariant.receive

theorem invariant_of_reachable
    {broadcast : Broadcast}
    (reached : Reachable broadcast) :
    broadcast.Invariant := by
  induction reached with
  | initial =>
      exact invariant_initial
  | step _ step inductionHypothesis =>
      exact inductionHypothesis.step step

/--
However operations follow one another, every registry is held under the key of
its document type.  Whenever all changes of an operation are sent, a subscriber
who missed none of them brings the copy to what the store holds by following
those that wait, in order, with the store as it is.
-/
theorem following_changes_leads_to_store
    {broadcast : Broadcast}
    (reached : Reachable broadcast) :
    (∀ key registry,
      broadcast.store.find? key = some registry → registry.documentType.key = key) ∧
      ∀ subscriber,
        broadcast.subscriber = some subscriber → subscriber.missed = 0 →
        broadcast.unsent = [] →
        subscriber.copy.followAll broadcast.store subscriber.waiting =
          broadcast.store.types := by
  have invariant := invariant_of_reachable reached
  constructor
  · intro key registry found
    exact invariant.keyed key registry.documentType (Store.find?_eq_some_iff.mp found)
  · intro subscriber present missedNone allSent
    have ledThere := invariant.leadsThere subscriber present missedNone
    rw [allSent, List.append_nil] at ledThere
    exact ledThere

/-- A store of files. -/
def storeOfFiles : Store :=
  (Store.empty.upsert Store.fileType).store

/-- The store after cases have taken the place of files. -/
def storeOfCases : Store :=
  (storeOfFiles.replaceAll [caseType]).store

/-- Somebody who joined when there were files has received the first of two changes. -/
def halfwayToCases : Broadcast where
  store := storeOfCases
  unsent := []
  subscriber :=
    some {
      copy := storeOfFiles.types.follow storeOfCases (.upserted caseType.key)
      waiting := [.removed Store.fileType.key]
      missed := 0 }

theorem reachable_halfwayToCases :
    Reachable halfwayToCases := by
  have upserts :
      [.upserted Store.fileType.key].Perm (Store.empty.upsert Store.fileType).changes := by
    decide +kernel
  have replaces :
      [.upserted caseType.key, .removed Store.fileType.key].Perm
        (storeOfFiles.replaceAll [caseType]).changes := by
    decide +kernel
  have withFiles := Reachable.initial.step (.operate (.upsert Store.fileType) upserts)
  have watched := (withFiles.step .send).step .join
  have withCases := watched.step (.operate (.replaceAll [caseType]) replaces)
  exact ((withCases.step .send).step .send).step .receive

/-- The copy still has files; the change that waits takes them away, as in the store. -/
theorem following_changes_leads_to_storeOfCases :
    Reachable halfwayToCases ∧
      (∀ key registry,
        storeOfCases.find? key = some registry → registry.documentType.key = key) ∧
      storeOfFiles.types Store.fileType.key = some Store.fileType ∧
      storeOfCases.types Store.fileType.key = none ∧
      storeOfCases.types caseType.key = some caseType ∧
      (storeOfFiles.types.follow storeOfCases (.upserted caseType.key)).followAll storeOfCases
          [.removed Store.fileType.key] =
        storeOfCases.types := by
  have kept := following_changes_leads_to_store reachable_halfwayToCases
  exact ⟨reachable_halfwayToCases, kept.1, by decide +kernel, by decide +kernel,
    by decide +kernel, kept.2 _ rfl rfl rfl⟩

end Broadcast

end FacetSearch
