import FacetSearch.Indexed
import Mathlib.Data.List.Forall2

namespace FacetSearch

/-!
# What a traversal gives

A traversal gives the result of every step, or the failure of the first step
that fails.  So items and results are related one by one.
-/

/-- In lists that are related item by item, everything on the right has a partner on the left. -/
theorem exists_left_of_forall₂
    {α β : Type}
    {related : α → β → Prop}
    {left : List α}
    {right : List β}
    (pairs : List.Forall₂ related left right)
    {b : β}
    (member : b ∈ right) :
    ∃ a ∈ left, related a b := by
  induction pairs with
  | nil =>
      simp at member
  | cons pair _ inductionHypothesis =>
      rcases List.mem_cons.mp member with rfl | inRest
      · exact ⟨_, by simp, pair⟩
      · obtain ⟨a, aMember, partner⟩ := inductionHypothesis inRest
        exact ⟨a, List.mem_cons_of_mem _ aMember, partner⟩

theorem exists_right_of_forall₂
    {α β : Type}
    {related : α → β → Prop}
    {left : List α}
    {right : List β}
    (pairs : List.Forall₂ related left right)
    {a : α}
    (member : a ∈ left) :
    ∃ b ∈ right, related a b :=
  exists_left_of_forall₂ pairs.flip member

/-- In lists that are related item by item, what is at a position has its partner there. -/
theorem exists_at_of_forall₂
    {α β : Type}
    {related : α → β → Prop}
    {left : List α}
    {right : List β}
    (pairs : List.Forall₂ related left right)
    {position : Nat}
    {a : α}
    (found : left[position]? = some a) :
    ∃ b, right[position]? = some b ∧ related a b := by
  induction pairs generalizing position with
  | nil =>
      simp at found
  | cons pair _ inductionHypothesis =>
      cases position with
      | zero =>
          obtain rfl := Option.some.inj found
          exact ⟨_, rfl, pair⟩
      | succ position =>
          exact inductionHypothesis (by simpa using found)

/-- When everything on the left has a partner, partners make up a list on the right. -/
theorem exists_forall₂
    {α β : Type}
    {related : α → β → Prop}
    {left : List α}
    (each : ∀ a ∈ left, ∃ b, related a b) :
    ∃ right, List.Forall₂ related left right := by
  induction left with
  | nil =>
      exact ⟨[], .nil⟩
  | cons a rest inductionHypothesis =>
      rw [List.forall_mem_cons] at each
      obtain ⟨b, pair⟩ := each.1
      obtain ⟨others, pairs⟩ := inductionHypothesis each.2
      exact ⟨b :: others, .cons pair pairs⟩

namespace Indexed

variable {α β ε : Type} {step : Nat → α → Except ε β} {start : Nat}

theorem traverseFrom_cons_eq_ok_iff
    {item : α}
    {rest : List α}
    {results : List β} :
    traverseFrom step start (item :: rest) = .ok results ↔
      ∃ result others,
        step start item = .ok result ∧
          traverseFrom step (start + 1) rest = .ok others ∧ result :: others = results := by
  rw [traverseFrom]
  cases step start item with
  | error failure =>
      simp
  | ok result =>
      cases traverseFrom step (start + 1) rest <;> simp

theorem traverseFrom_cons_eq_error_iff
    {item : α}
    {rest : List α}
    {failure : ε} :
    traverseFrom step start (item :: rest) = .error failure ↔
      step start item = .error failure ∨
        ∃ result,
          step start item = .ok result ∧
            traverseFrom step (start + 1) rest = .error failure := by
  rw [traverseFrom]
  cases step start item with
  | error failure =>
      simp
  | ok result =>
      cases traverseFrom step (start + 1) rest <;> simp

variable {items : List α}

/-- A traversal succeeds when every step does, wherever its item stands. -/
theorem traverseFrom_eq_ok_of_forall₂
    {results : List β}
    (steps :
      List.Forall₂ (fun item result => ∀ position, step position item = .ok result)
        items results) :
    traverseFrom step start items = .ok results := by
  induction steps generalizing start with
  | nil =>
      rfl
  | cons first _ inductionHypothesis =>
      exact traverseFrom_cons_eq_ok_iff.mpr ⟨_, _, first start, inductionHypothesis, rfl⟩

/-- The results of a traversal are those of the steps, in their order. -/
theorem forall₂_of_traverseFrom
    {results : List β}
    (traversed : traverseFrom step start items = .ok results) :
    List.Forall₂ (fun item result => ∃ position, step position item = .ok result)
      items results := by
  induction items generalizing start results with
  | nil =>
      obtain rfl : [] = results := Except.ok.inj traversed
      exact .nil
  | cons item rest inductionHypothesis =>
      obtain ⟨result, others, first, later, rfl⟩ := traverseFrom_cons_eq_ok_iff.mp traversed
      exact .cons ⟨start, first⟩ (inductionHypothesis later)

/-- In a traversal that succeeds every step does, at the position of its item. -/
theorem exists_result_of_traverseFrom
    {results : List β}
    (traversed : traverseFrom step start items = .ok results)
    {position : Nat}
    {item : α}
    (found : items[position]? = some item) :
    ∃ result, step (start + position) item = .ok result := by
  induction items generalizing start results position with
  | nil =>
      cases found
  | cons firstItem rest inductionHypothesis =>
      obtain ⟨result, others, first, later, -⟩ := traverseFrom_cons_eq_ok_iff.mp traversed
      cases position with
      | zero =>
          obtain rfl : firstItem = item := by simpa using found
          exact ⟨result, first⟩
      | succ position =>
          have made := inductionHypothesis later (by simpa using found)
          rwa [Nat.add_assoc, Nat.add_comm 1] at made

/-- A traversal fails with the failure of the first step that fails. -/
theorem exists_failing_item
    {failure : ε}
    (failed : traverseFrom step start items = .error failure) :
    ∃ position item,
      items[position]? = some item ∧
        step (start + position) item = .error failure ∧
        ∀ earlier < position, ∀ sibling, items[earlier]? = some sibling →
          ∃ result, step (start + earlier) sibling = .ok result := by
  induction items generalizing start with
  | nil =>
      cases failed
  | cons item rest inductionHypothesis =>
      rcases traverseFrom_cons_eq_error_iff.mp failed with fails | ⟨result, first, others⟩
      · exact ⟨0, item, rfl, fails, by simp⟩
      · obtain ⟨position, later, found, laterFails, before⟩ := inductionHypothesis others
        refine ⟨position + 1, later, by simpa using found, ?_, ?_⟩
        · rwa [Nat.add_assoc, Nat.add_comm 1] at laterFails
        · intro earlier isBefore sibling siblingFound
          cases earlier with
          | zero =>
              obtain rfl : item = sibling := by simpa using siblingFound
              exact ⟨result, first⟩
          | succ earlier =>
              have made := before earlier (by omega) sibling (by simpa using siblingFound)
              rwa [Nat.add_assoc, Nat.add_comm 1] at made

theorem traverseFrom_map
    {γ : Type}
    (change : γ → α)
    (values : List γ) :
    traverseFrom step start (values.map change) =
      traverseFrom (fun position value => step position (change value)) start values := by
  induction values generalizing start with
  | nil =>
      rfl
  | cons value rest inductionHypothesis =>
      rw [List.map_cons, traverseFrom, traverseFrom, inductionHypothesis]

end Indexed

end FacetSearch
