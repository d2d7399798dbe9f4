import FacetSearch.Proofs.Store.Replacement
import Mathlib.Data.List.Induction

namespace FacetSearch.Store

/-!
# Reloading over and over

A load is good when it delivers document types that a store can be replaced by.
However loads follow one another, a store holds what the last good one delivered,
and each good one is answered with the number of keys at which it differs from
the last good one before it.
-/

/-- What a load delivers, or why it fails. -/
abbrev Load := Except Error (List DocumentType)

/-- Whether a load replaces the document types of a store. -/
def IsGood : Load → Prop
  | .ok types => Replaceable types
  | .error _ => False

/-- The map that the last good load of a list delivers; the initial one when none is good. -/
inductive LastGood (initial : TypeMap) : List Load → TypeMap → Prop where
  | none
      {loads : List Load}
      (noneGood : ∀ load ∈ loads, ¬ IsGood load) :
      LastGood initial loads initial
  | last
      {types : List DocumentType}
      {earlier later : List Load}
      (replaceable : Replaceable types)
      (noneLater : ∀ load ∈ later, ¬ IsGood load) :
      LastGood initial (earlier ++ .ok types :: later) (typesOf types)

namespace LastGood

variable {initial map map' : TypeMap} {loads : List Load} {load : Load}

theorem concat_of_not_good
    (lastGood : LastGood initial loads map)
    (refused : ¬ IsGood load) :
    LastGood initial (loads ++ [load]) map := by
  have noneMore :
      ∀ {others : List Load}, (∀ other ∈ others, ¬ IsGood other) →
        ∀ other ∈ others ++ [load], ¬ IsGood other := by
    intro others noneGood
    exact List.forall_mem_append.mpr ⟨noneGood, List.forall_mem_singleton.mpr refused⟩
  cases lastGood with
  | none noneGood =>
      exact .none (noneMore noneGood)
  | last replaceable noneLater =>
      rw [List.append_assoc, List.cons_append]
      exact .last replaceable (noneMore noneLater)

/-- Behind the last good load there is no other, wherever the list is cut. -/
theorem types_unique
    {types types' : List DocumentType}
    {earlier earlier' later later' : List Load}
    (replaceable' : Replaceable types')
    (noneLater : ∀ load ∈ later, ¬ IsGood load)
    (same : earlier' ++ .ok types' :: later' = earlier ++ .ok types :: later)
    (notLonger : later'.length ≤ later.length) :
    types' = types := by
  have sameLengths := congrArg List.length same
  simp only [List.length_append, List.length_cons] at sameLengths
  obtain ⟨between, rfl⟩ : ∃ between, earlier' = earlier ++ between := by
    have isPrefix : earlier <+: earlier' :=
      List.prefix_of_prefix_length_le ⟨_, rfl⟩ ⟨_, same⟩ (by omega)
    obtain ⟨between, split⟩ := isPrefix
    exact ⟨between, split.symm⟩
  rw [List.append_assoc] at same
  have sameRest := List.append_cancel_left same
  cases between with
  | nil =>
      obtain ⟨sameLoad, -⟩ := List.cons.inj sameRest
      exact Except.ok.inj sameLoad
  | cons first rest =>
      obtain ⟨-, rfl⟩ := List.cons.inj sameRest
      exact (noneLater (.ok types') (by simp) replaceable').elim

theorem unique
    (lastGood : LastGood initial loads map)
    (lastGood' : LastGood initial loads map') :
    map = map' := by
  cases lastGood with
  | none noneGood =>
      cases lastGood' with
      | none _ =>
          rfl
      | @last types' earlier' later' replaceable' _ =>
          exact (noneGood (.ok types') (by simp) replaceable').elim
  | @last types earlier later replaceable noneLater =>
      generalize split : earlier ++ .ok types :: later = loads at lastGood'
      cases lastGood' with
      | none noneGood =>
          exact (noneGood (.ok types) (by simp [← split]) replaceable).elim
      | @last types' earlier' later' replaceable' noneLater' =>
          rcases Nat.le_total later'.length later.length with notLonger | notLonger
          · rw [types_unique replaceable' noneLater split.symm notLonger]
          · rw [types_unique replaceable noneLater' split notLonger]

end LastGood

section Reload

variable {store : Store} {loads : List Load} {load : Load}

theorem reload_of_not_good
    (refused : ¬ IsGood load)
    (store : Store) :
    ∃ fault, store.reload load = store.unchanged (.error fault) := by
  cases load with
  | error fault =>
      exact ⟨fault, rfl⟩
  | ok types =>
      exact replaceAll_of_not_replaceable refused store

theorem reload_of_replaceable
    {types : List DocumentType}
    (replaceable : Replaceable types)
    (store : Store) :
    (store.reload (.ok types)).store.types = typesOf types ∧
      ∃ count : Nat,
        (store.reload (.ok types)).value = .ok count ∧
          (store.types.difference (typesOf types)).encard = count := by
  obtain ⟨next, nextTypes, replaces⟩ := replaceAll_of_replaceable replaceable store
  rw [reload, replaces, ← nextTypes]
  exact ⟨rfl, _, rfl, encard_difference store next⟩

theorem store_poll_append
    {later : List Load} :
    (store.poll (loads ++ later)).store = ((store.poll loads).store.poll later).store := by
  induction loads generalizing store with
  | nil =>
      rfl
  | cons load rest inductionHypothesis =>
      exact inductionHypothesis

theorem store_poll_concat :
    (store.poll (loads ++ [load])).store = ((store.poll loads).store.reload load).store := by
  rw [store_poll_append]
  rfl

/-- Each reload is answered for the store that the loads before it left. -/
theorem value_poll
    {position : Nat}
    (found : loads[position]? = some load) :
    (store.poll loads).value[position]? =
      some ((store.poll (loads.take position)).store.reload load).value := by
  induction loads generalizing store position with
  | nil =>
      cases found
  | cons first rest inductionHypothesis =>
      cases position with
      | zero =>
          obtain rfl : first = load := by simpa using found
          rfl
      | succ position =>
          exact inductionHypothesis (by simpa using found)

/-- One more load is the last good one, or leaves the last good one in place. -/
theorem lastGood_poll
    (store : Store)
    (loads : List Load) :
    LastGood store.types loads (store.poll loads).store.types := by
  induction loads using List.reverseRecOn with
  | nil =>
      exact .none (by simp)
  | append_singleton earlier load inductionHypothesis =>
      rw [store_poll_concat]
      by_cases good : IsGood load
      · cases load with
        | error fault =>
            cases good
        | ok types =>
            rw [(reload_of_replaceable good _).1]
            exact .last good (by simp)
      · obtain ⟨fault, fails⟩ := reload_of_not_good good (store.poll earlier).store
        rw [fails]
        exact inductionHypothesis.concat_of_not_good good

/--
After every reload a store holds what the last good load delivered.  A good load
is answered with the number of keys at which it differs from the last good one
before it; any other fails and leaves the store as it was.
-/
theorem poll_keeps_last_good
    (store : Store)
    (loads : List Load) :
    (∀ count, LastGood store.types (loads.take count) (store.poll (loads.take count)).store.types) ∧
      ∀ position load, loads[position]? = some load →
        ∃ result, (store.poll loads).value[position]? = some result ∧
          ((∃ types, load = .ok types ∧ Replaceable types ∧
            ∃ count : Nat, result = .ok count ∧
              ∀ previous, LastGood store.types (loads.take position) previous →
                (previous.difference (typesOf types)).encard = count) ∨
          ¬ IsGood load ∧ (∃ fault, result = .error fault) ∧
            (store.poll (loads.take (position + 1))).store =
              (store.poll (loads.take position)).store) := by
  refine ⟨fun count => lastGood_poll store (loads.take count), ?_⟩
  intro position load found
  have before := lastGood_poll store (loads.take position)
  refine ⟨_, value_poll found, ?_⟩
  by_cases good : IsGood load
  · left
    cases load with
    | error fault =>
        cases good
    | ok types =>
        obtain ⟨-, count, answered, differing⟩ := reload_of_replaceable good _
        refine ⟨types, rfl, good, count, answered, ?_⟩
        intro previous lastGood
        rw [lastGood.unique before, differing]
  · right
    obtain ⟨fault, fails⟩ := reload_of_not_good good (store.poll (loads.take position)).store
    refine ⟨good, ⟨fault, by rw [fails]; rfl⟩, ?_⟩
    rw [List.take_add_one, found, Option.toList_some, store_poll_concat, fails]
    rfl

/-- Files, then a failure, then files twice, which is refused, then cases. -/
def filesThenCases : List Load := [
  .ok [fileType],
  .error (.config (.unavailable "disk on fire")),
  .ok [fileType, fileType],
  .ok [caseType]]

theorem lastGood_beforeCases :
    LastGood empty.types (filesThenCases.take 3) (typesOf [fileType]) := by
  have accepted : fileType.WellFormed :=
    ⟨by decide +kernel, by decide +kernel, by decide +kernel⟩
  refine @LastGood.last _ [fileType] [] _ (replaceable_singleton ⟨fileType, accepted⟩) ?_
  intro load member
  rcases List.mem_pair.mp member with rfl | rfl
  · exact id
  · exact not_replaceable_twice fileType

/-- Neither refusal is noticed: files are still there when cases take their place. -/
theorem poll_keeps_last_good_of_filesThenCases :
    (empty.poll (filesThenCases.take 3)).store.types = typesOf [fileType] ∧
      ((empty.poll filesThenCases).value.map Except.toOption = [some 1, none, none, some 2]) ∧
      ((typesOf [fileType]).difference (typesOf [caseType])).encard = 2 := by
  obtain ⟨keeps, answers⟩ := poll_keeps_last_good empty filesThenCases
  have values :
      (empty.poll filesThenCases).value.map Except.toOption = [some 1, none, none, some 2] := by
    decide +kernel
  refine ⟨(keeps 3).unique lastGood_beforeCases, values, ?_⟩
  obtain ⟨result, answered, good | refused⟩ := answers 3 (.ok [caseType]) rfl
  · obtain ⟨types, sameLoad, -, count, rfl, differing⟩ := good
    obtain rfl : [caseType] = types := Except.ok.inj sameLoad
    have isTwo := congrArg (fun values => values[3]?) values
    rw [List.getElem?_map, answered] at isTwo
    obtain rfl : count = 2 := by simpa [Except.toOption] using isTwo
    exact differing _ lastGood_beforeCases
  · exact (refused.1 (replaceable_singleton caseRegistry)).elim

end Reload

end FacetSearch.Store
