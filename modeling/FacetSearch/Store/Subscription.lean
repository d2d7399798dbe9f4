import FacetSearch.Store.History

namespace FacetSearch

/-!
# Subscriptions

A store sends every change to whoever has subscribed.  A change waits until the
subscriber receives it, unless so many wait that the oldest one is given up.
Operations run one after the other; sending and receiving their changes may
take place in any order in between.
-/

/-- Someone who keeps a copy of a store's document types up to date by its changes. -/
structure Subscriber where
  copy : TypeMap
  /-- The changes that were sent but not received, the oldest first. -/
  waiting : List Change
  /-- The number of changes that were given up before they were received. -/
  missed : Nat

namespace Subscriber

/-- The number of changes that can wait for a subscriber. -/
def capacity : Nat := 256

/-- Someone who subscribes to a store and copies it. -/
def joining (store : Store) : Subscriber where
  copy := store.types
  waiting := []
  missed := 0

/-- Send a change; when no more can wait, the oldest one is given up for it. -/
def send (change : Change) (subscriber : Subscriber) : Subscriber :=
  if subscriber.waiting.length < capacity then
    { subscriber with waiting := subscriber.waiting ++ [change] }
  else
    { subscriber with
      waiting := subscriber.waiting.tail ++ [change]
      missed := subscriber.missed + 1 }

end Subscriber

/-- A store, what is left to send of its latest changes, and the subscriber, if there is one. -/
structure Broadcast where
  store : Store
  unsent : List Change
  subscriber : Option Subscriber

namespace Broadcast

/-- The start: an empty store that nobody watches. -/
def initial : Broadcast where
  store := .empty
  unsent := []
  subscriber := none

/--
One step.  An operation begins when the changes of the one before it are sent;
its own are sent one by one, in an order that is not fixed.  Anybody may join at
any time, and receives changes at any time.
-/
inductive Step : Broadcast → Broadcast → Prop where
  | operate
      {store : Store}
      {subscriber : Option Subscriber}
      {changes : List Change}
      (operation : StoreOperation)
      (announced : changes.Perm (store.apply operation).2) :
      Step { store, unsent := [], subscriber }
        { store := (store.apply operation).1, unsent := changes, subscriber }
  | send
      {store : Store}
      {change : Change}
      {unsent : List Change}
      {subscriber : Option Subscriber} :
      Step { store, unsent := change :: unsent, subscriber }
        { store, unsent, subscriber := subscriber.map (Subscriber.send change) }
  | join
      {store : Store}
      {unsent : List Change}
      {subscriber : Option Subscriber} :
      Step { store, unsent, subscriber }
        { store, unsent, subscriber := some (.joining store) }
  | receive
      {store : Store}
      {unsent : List Change}
      {copy : TypeMap}
      {change : Change}
      {waiting : List Change}
      {missed : Nat} :
      Step { store, unsent, subscriber := some { copy, waiting := change :: waiting, missed } }
        { store, unsent,
          subscriber := some { copy := copy.follow store change, waiting, missed } }

/-- What is reached from the start, step by step. -/
inductive Reachable : Broadcast → Prop where
  | initial : Reachable Broadcast.initial
  | step
      {before after : Broadcast}
      (reached : Reachable before)
      (step : Step before after) :
      Reachable after

end Broadcast

end FacetSearch
