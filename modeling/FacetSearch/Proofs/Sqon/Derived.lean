import FacetSearch.Proofs.Schema.Ancestors
import FacetSearch.Proofs.Sqon.Frames
import Mathlib.Logic.Relation

namespace FacetSearch.Sqon

/-!
# Derived spellings

What `not-in`, `missing`, `>=`, `<=`, a pair of bounds and a lone value say can
be said with `in`, `exists`, `between` and `not`, and any tree may stand by
itself under an `and` or an `or`.  Whichever way it is said, the same pending
clause comes out or none, so that the nodes around see no difference either:
filters that differ in such spellings only, at any of their nodes, compile to
the same clause or not at all.
-/

open Compiler

/-- A tree, and another spelling of it in terms of fewer operators. -/
inductive Derives : Sqon → Sqon → Prop where
  | notIn
      {field : String}
      {value : Json} :
      Derives (test .notIn field value) (negate (test .isIn field value))
  | missing
      {field : String}
      {value other : Json} :
      Derives (test .missing field value) (negate (test .exists field other))
  | atLeast
      {field : String}
      {bound : Json} :
      Derives (test .atLeast field bound) (between field (some bound) none)
  | atMost
      {field : String}
      {bound : Json} :
      Derives (test .atMost field bound) (between field none (some bound))
  | pair
      {field : String}
      {lower upper : Json} :
      Derives (test .between field (.array [lower, upper]))
        (between field (some lower) (some upper))
  | lone
      {field : String}
      {value : Json}
      (noArray : value.items? = none) :
      Derives (test .isIn field value) (inValues field [value])
  | alone
      {op : Combinator}
      {sqon : Sqon}
      (positive : op ≠ .not) :
      Derives sqon (.combine op [sqon])

/-- A tree, and the same with another spelling at one of its nodes. -/
inductive Respells : Sqon → Sqon → Prop where
  | within
      (frames : List Frame)
      {first second : Sqon}
      (derives : Derives first second) :
      Respells (inside frames first) (inside frames second)

section Leaves

variable {field : Field} {name : String} {pending : Pending}

theorem Compiler.not_fits_null
    {type : FieldType} :
    fits type .null = false := by
  cases type <;> rfl

/-- A bound that a field can hold is given. -/
theorem Compiler.given?_some
    {type : FieldType}
    {bound : Json}
    (fitting : fits type bound = true) :
    given? (some bound) = some bound := by
  cases bound with
  | null =>
      rw [not_fits_null] at fitting
      cases fitting
  | _ =>
      rfl

theorem Compiler.given?_eq_of_isSome
    {bound : Option Json}
    (isSome : (given? bound).isSome) :
    given? bound = bound := by
  unfold given? at isSome ⊢
  split at isSome
  · cases isSome
  · rfl

/-- Whatever is no array is the one candidate that it gives. -/
theorem Compiler.candidates_of_noArray
    {value : Json}
    (noArray : value.items? = none) :
    candidates value = candidates (.array [value]) := by
  cases value with
  | array items =>
      cases noArray
  | _ =>
      rfl

/-- Where bounds are written as members, a `null` is as good as no member. -/
theorem Compiler.bounds?_members
    (lower upper : Option Json) :
    bounds? (.object (Json.optionalMember "from" id lower ++ Json.optionalMember "to" id upper)) =
      some (given? lower, given? upper) := by
  cases lower <;> cases upper <;> simp [bounds?, Json.optionalMember, Entries.lookup?]

theorem Compiler.leafOutcome_notIn_iff
    {value : Json} :
    LeafOutcome field { op := .notIn, field := name, value } pending ↔
      ∃ operand,
        LeafOutcome field { op := .isIn, field := name, value } operand ∧
          pending = negation operand := by
  constructor
  · intro outcome
    cases outcome with
    | notIn holdsValues nonempty fitting =>
        exact ⟨_, .isIn holdsValues nonempty fitting, rfl⟩
  · rintro ⟨operand, outcome, rfl⟩
    cases outcome with
    | isIn holdsValues nonempty fitting =>
        exact .notIn holdsValues nonempty fitting

theorem Compiler.leafOutcome_missing_iff
    {value other : Json} :
    LeafOutcome field { op := .missing, field := name, value } pending ↔
      ∃ operand,
        LeafOutcome field { op := .exists, field := name, value := other } operand ∧
          pending = negation operand := by
  constructor
  · intro outcome
    cases outcome with
    | missing =>
        exact ⟨_, .present, rfl⟩
  · rintro ⟨operand, outcome, rfl⟩
    cases outcome with
    | present =>
        exact .missing

/-- Only the candidates that a value gives count, however it gives them. -/
theorem Compiler.leafOutcome_isIn_congr
    {value other : Json}
    (sameCandidates : candidates value = candidates other) :
    LeafOutcome field { op := .isIn, field := name, value } pending ↔
      LeafOutcome field { op := .isIn, field := name, value := other } pending := by
  rw [← @leafOn_eq_ok_iff _ _ .root, ← @leafOn_eq_ok_iff _ _ .root]
  simp only [leafOn, values, sameCandidates]

/-- Only the bounds that a value gives count, however it gives them. -/
theorem Compiler.leafOutcome_between_congr
    {value other : Json}
    (sameBounds : bounds? value = bounds? other) :
    LeafOutcome field { op := .between, field := name, value } pending ↔
      LeafOutcome field { op := .between, field := name, value := other } pending := by
  rw [← @leafOn_eq_ok_iff _ _ .root, ← @leafOn_eq_ok_iff _ _ .root]
  simp only [leafOn, bounds, sameBounds]

/-- A lower bound by itself is a range without an upper one; of `null` neither is made. -/
theorem Compiler.leafOutcome_atLeast_iff
    {bound value : Json}
    (onlyLower : bounds? value = some (given? (some bound), none)) :
    LeafOutcome field { op := .atLeast, field := name, value := bound } pending ↔
      LeafOutcome field { op := .between, field := name, value } pending := by
  constructor
  · intro outcome
    cases outcome with
    | atLeast rangeable fitting =>
        rw [given?_some fitting] at onlyLower
        exact .between rangeable onlyLower (by simp) (by simpa using fitting) (by simp)
  · intro outcome
    cases outcome with
    | between rangeable shape bounded lowerFits upperFits =>
        obtain ⟨rfl, rfl⟩ : given? (some bound) = _ ∧ none = _ := by simpa [onlyLower] using shape
        have given := given?_eq_of_isSome (by simpa using bounded)
        rw [given] at lowerFits ⊢
        exact .atLeast rangeable (lowerFits bound rfl)

/-- An upper bound by itself is a range without a lower one; of `null` neither is made. -/
theorem Compiler.leafOutcome_atMost_iff
    {bound value : Json}
    (onlyUpper : bounds? value = some (none, given? (some bound))) :
    LeafOutcome field { op := .atMost, field := name, value := bound } pending ↔
      LeafOutcome field { op := .between, field := name, value } pending := by
  constructor
  · intro outcome
    cases outcome with
    | atMost rangeable fitting =>
        rw [given?_some fitting] at onlyUpper
        exact .between rangeable onlyUpper (by simp) (by simp) (by simpa using fitting)
  · intro outcome
    cases outcome with
    | between rangeable shape bounded lowerFits upperFits =>
        obtain ⟨rfl, rfl⟩ : none = _ ∧ given? (some bound) = _ := by simpa [onlyUpper] using shape
        have given := given?_eq_of_isSome (by simpa using bounded)
        rw [given] at upperFits ⊢
        exact .atMost rangeable (upperFits bound rfl)

end Leaves

section Trees

variable {registry : Registry} {first second : Sqon}

theorem compiles_negate_iff
    {sqon : Sqon}
    {pending : Pending} :
    Compiles registry (negate sqon) pending ↔
      ∃ operand, Compiles registry sqon operand ∧ pending = negation operand := by
  rw [negate, compiles_singleton_iff]
  constructor
  · rintro ⟨operand, compiles, combination⟩
    cases combination with
    | negation =>
        exact ⟨operand, compiles, rfl⟩
  · rintro ⟨operand, compiles, rfl⟩
    exact ⟨operand, compiles, .negation⟩

/-- Leaves on the same field compile alike when they have the same outcomes on every field. -/
theorem compiles_leaf_congr
    {condition other : Leaf}
    {pending : Pending}
    (sameField : condition.field = other.field)
    (sameOutcomes :
      ∀ field, LeafOutcome field condition pending ↔ LeafOutcome field other pending) :
    Compiles registry (.leaf condition) pending ↔ Compiles registry (.leaf other) pending := by
  simp only [compiles_leaf_iff, sameField, sameOutcomes]

/-- A leaf compiles to the negation of another one on the same field. -/
theorem compiles_leaf_iff_negate
    {condition operand : Leaf}
    {pending : Pending}
    (sameField : condition.field = operand.field)
    (negated :
      ∀ field,
        LeafOutcome field condition pending ↔
          ∃ outcome, LeafOutcome field operand outcome ∧ pending = negation outcome) :
    Compiles registry (.leaf condition) pending ↔
      Compiles registry (negate (.leaf operand)) pending := by
  simp only [compiles_negate_iff, compiles_leaf_iff, sameField, negated]
  constructor
  · rintro ⟨field, found, outcome, operandCompiles, rfl⟩
    exact ⟨outcome, ⟨field, found, operandCompiles⟩, rfl⟩
  · rintro ⟨outcome, ⟨field, found, operandCompiles⟩, rfl⟩
    exact ⟨field, found, outcome, operandCompiles, rfl⟩

/-- Either spelling compiles to the same pending clause. -/
theorem Derives.compiles_iff
    (derives : Derives first second)
    {pending : Pending} :
    Compiles registry first pending ↔ Compiles registry second pending := by
  cases derives with
  | notIn =>
      exact compiles_leaf_iff_negate rfl fun _ => leafOutcome_notIn_iff
  | missing =>
      exact compiles_leaf_iff_negate rfl fun _ => leafOutcome_missing_iff
  | atLeast =>
      exact compiles_leaf_congr rfl fun _ => leafOutcome_atLeast_iff (bounds?_members _ none)
  | atMost =>
      exact compiles_leaf_congr rfl fun _ => leafOutcome_atMost_iff (bounds?_members none _)
  | pair =>
      exact compiles_leaf_congr rfl fun _ => leafOutcome_between_congr (bounds?_members _ _).symm
  | lone noArray =>
      exact compiles_leaf_congr rfl fun _ => leafOutcome_isIn_congr (candidates_of_noArray noArray)
  | alone positive =>
      exact (compiles_singleton_iff_of_positive positive).symm

/-- Trees that compile alike do so in the same place of any other tree. -/
theorem compiles_inside_congr
    {frames : List Frame}
    (alike : ∀ pending, Compiles registry first pending ↔ Compiles registry second pending)
    (pending : Pending) :
    Compiles registry (inside frames first) pending ↔
      Compiles registry (inside frames second) pending := by
  induction frames generalizing first second with
  | nil =>
      exact alike pending
  | cons frame outer inductionHypothesis =>
      apply inductionHypothesis
      intro outcome
      simp only [compiles_fill_iff, alike]

/-- However often and wherever a tree is respelt, it compiles to the same pending clause. -/
theorem compiles_iff_of_respelt
    (respelt : Relation.EqvGen Respells first second)
    (pending : Pending) :
    Compiles registry first pending ↔ Compiles registry second pending := by
  induction respelt with
  | rel first second respells =>
      obtain ⟨frames, derives⟩ := respells
      exact compiles_inside_congr (fun _ => derives.compiles_iff) pending
  | refl first =>
      exact Iff.rfl
  | symm first second _ inductionHypothesis =>
      exact inductionHypothesis.symm
  | trans first second third _ _ toSecond toThird =>
      exact toSecond.trans toThird

/--
Filters that differ in derived spellings only, in any number of places, compile
to the very same clause or do not compile at all, as long as the limit leaves
room for both.
-/
theorem compile_eq_of_respelt
    {limit : Nat}
    (respelt : Relation.EqvGen Respells first second)
    (firstFits : first.depth ≤ limit)
    (secondFits : second.depth ≤ limit) :
    (∃ clause,
      first.compile registry limit = .ok clause ∧ second.compile registry limit = .ok clause) ∨
      ∃ failure other,
        first.compile registry limit = .error failure ∧
          second.compile registry limit = .error other := by
  have alike :
      ∀ clause,
        first.compile registry limit = .ok clause ↔ second.compile registry limit = .ok clause := by
    intro clause
    simp only [compile_eq_ok_iff, firstFits, secondFits, compiles_iff_of_respelt respelt]
  cases compiled : first.compile registry limit with
  | ok clause =>
      exact .inl ⟨clause, rfl, (alike clause).mp compiled⟩
  | error failure =>
      cases compiled' : second.compile registry limit with
      | ok clause =>
          rw [(alike clause).mpr compiled'] at compiled
          cases compiled
      | error other =>
          exact .inr ⟨failure, other, rfl, rfl⟩

end Trees

/-- Cases without men, and with a donor of forty or more. -/
def noMenButForty : Sqon :=
  all [test .notIn "donors__gender" (.string "male"), test .atLeast "donors__age" (.int 40)]

/-- The same with an array of genders under a `not`, and with a range that stands alone. -/
def noMenButFortyRespelt : Sqon :=
  all [
    negate (inValues "donors__gender" [.string "male"]),
    any [between "donors__age" (some (.int 40)) none]]

/-- What both compile to. -/
def noMenButFortyClause : Clause :=
  .and [
    .not (.nested "donors" (.term "donors.gender" [.string "male"])),
    .nested "donors" (.range "donors.age" (some (.closed (.int 40))) none)]

theorem noMenButForty_respelt :
    Relation.EqvGen Respells noMenButForty noMenButFortyRespelt := by
  have asNegation := Respells.within
    [{ op := .and, before := [], after := [test .atLeast "donors__age" (.int 40)] }]
    (@Derives.notIn "donors__gender" (.string "male"))
  have asArray := Respells.within
    [{ op := .not, before := [], after := [] },
      { op := .and, before := [], after := [test .atLeast "donors__age" (.int 40)] }]
    (@Derives.lone "donors__gender" (.string "male") rfl)
  have asRange := Respells.within
    [{ op := .and, before := [negate (inValues "donors__gender" [.string "male"])], after := [] }]
    (@Derives.atLeast "donors__age" (.int 40))
  have asAlternative := Respells.within
    [{ op := .and, before := [negate (inValues "donors__gender" [.string "male"])], after := [] }]
    (@Derives.alone .or (between "donors__age" (some (.int 40)) none) (by decide))
  exact (((Relation.EqvGen.rel _ _ asNegation).trans _ _ _ (.rel _ _ asArray)).trans _ _ _
    (.rel _ _ asRange)).trans _ _ _ (.rel _ _ asAlternative)

/-- Four spellings are changed at three nodes, and the same clause comes out. -/
theorem compile_eq_of_noMenButForty_respelt :
    Relation.EqvGen Respells noMenButForty noMenButFortyRespelt ∧
      noMenButForty.compile caseRegistry 4 = .ok noMenButFortyClause ∧
      noMenButFortyRespelt.compile caseRegistry 4 = .ok noMenButFortyClause := by
  have compiled : noMenButForty.compile caseRegistry 4 = .ok noMenButFortyClause := by cbv
  refine ⟨noMenButForty_respelt, compiled, ?_⟩
  rcases @compile_eq_of_respelt caseRegistry _ _ 4 noMenButForty_respelt (by decide) (by decide)
    with ⟨clause, compiles, alsoCompiles⟩ | ⟨failure, other, fails, alsoFails⟩
  · rwa [← Except.ok.inj (compiles.symm.trans compiled)]
  · cases fails.symm.trans compiled

end FacetSearch.Sqon
