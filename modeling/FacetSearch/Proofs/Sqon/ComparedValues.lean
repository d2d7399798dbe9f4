import FacetSearch.Proofs.Number.Numeral
import FacetSearch.Proofs.Schema.Lookup
import FacetSearch.Proofs.Sqon.Conditions

namespace FacetSearch

/-!
# What fields are compared with

A compiled filter compares a field with values that the type of the field can
hold: a number may also come as a text that denotes it, and a boolean as its
name.  The one exception are the words for an infinity and a NaN.  They denote
no number, but they are numerals, and so numeric fields are compared with them.
-/

/-- A text, a number or a boolean. -/
inductive Json.IsScalar : Json → Prop where
  | string (text : String) : IsScalar (.string text)
  | number (number : Number) : IsScalar (.number number)
  | bool (value : Bool) : IsScalar (.bool value)

namespace FieldType

/-- The values that a field of a type can hold, as a filter may give them. -/
inductive Holds : FieldType → Json → Prop where
  | number
      {type : FieldType}
      (numeric : type.isNumeric = true)
      (number : Number) :
      Holds type (.number number)
  | numeral
      {type : FieldType}
      {text : String}
      {value : ℚ}
      (numeric : type.isNumeric = true)
      (denotes : Numeral.Denotes (Text.trim text).toList value) :
      Holds type (.string text)
  | truth (value : Bool) : Holds .boolean (.bool value)
  | truthName
      {text : String}
      (isName : text = "true" ∨ text = "false") :
      Holds .boolean (.string text)
  | date (text : String) : Holds .date (.string text)
  | instant (number : Number) : Holds .date (.number number)
  | text
      {type : FieldType}
      {value : Json}
      (isString : type.isString = true)
      (scalar : value.IsScalar) :
      Holds type value

/-- A numeric type takes a text for a number, though it is a word for an infinity or a NaN. -/
inductive MistakesForNumber : FieldType → Json → Prop where
  | word
      {type : FieldType}
      {text : String}
      (numeric : type.isNumeric = true)
      (isWord : Numeral.IsNonFinite (Text.trim text).toList) :
      MistakesForNumber type (.string text)

variable {type : FieldType} {value : Json}

theorem Holds.isScalar
    (holds : type.Holds value) :
    value.IsScalar := by
  cases holds with
  | number _ number | instant number =>
      exact .number number
  | numeral | truthName | date =>
      exact .string _
  | truth value =>
      exact .bool value
  | text _ scalar =>
      exact scalar

theorem MistakesForNumber.isScalar
    (mistaken : type.MistakesForNumber value) :
    value.IsScalar := by
  cases mistaken
  exact .string _

theorem isString_eq_false_of_isNumeric
    (numeric : type.isNumeric = true) :
    type.isString = false := by
  cases type with
  | long | integer | double | float =>
      rfl
  | _ =>
      cases numeric

/-- A type holds nothing that it mistakes for a number. -/
theorem Holds.not_mistakesForNumber
    (holds : type.Holds value) :
    ¬ type.MistakesForNumber value := by
  intro mistaken
  cases mistaken with
  | word numeric isWord =>
      cases holds with
      | numeral _ denotes =>
          exact denotes.not_isNonFinite isWord
      | truthName | date =>
          cases numeric
      | text isString _ =>
          rw [isString_eq_false_of_isNumeric numeric] at isString
          cases isString

theorem fits_of_holds
    (holds : type.Holds value) :
    Sqon.fits type value = true := by
  cases holds with
  | number numeric number =>
      simp [Sqon.fits, numeric]
  | numeral numeric denotes =>
      simp [Sqon.fits, numeric, isNumeral_iff.mpr (.inl ⟨_, denotes⟩)]
  | truth | date | instant =>
      rfl
  | truthName isName =>
      simpa [Sqon.fits, isNumeric] using isName
  | text isString scalar =>
      cases scalar with
      | string text =>
          cases type with
          | keyword | text =>
              rfl
          | _ =>
              cases isString
      | number | bool =>
          simp [Sqon.fits, isString]

theorem holds_or_mistakesForNumber_of_fits
    (fitting : Sqon.fits type value = true) :
    type.Holds value ∨ type.MistakesForNumber value := by
  cases value with
  | null | array | object =>
      cases fitting
  | number number =>
      simp only [Sqon.fits, Bool.or_eq_true, beq_iff_eq] at fitting
      rcases fitting with (numeric | rfl) | isString
      · exact .inl (.number numeric number)
      · exact .inl (.instant number)
      · exact .inl (.text isString (.number number))
  | bool value =>
      simp only [Sqon.fits, Bool.or_eq_true, beq_iff_eq] at fitting
      rcases fitting with rfl | isString
      · exact .inl (.truth value)
      · exact .inl (.text isString (.bool value))
  | string text =>
      simp only [Sqon.fits] at fitting
      split at fitting
      case isTrue numeric =>
          rcases isNumeral_iff.mp fitting with ⟨number, denotes⟩ | isWord
          · exact .inl (.numeral numeric denotes)
          · exact .inr (.word numeric isWord)
      case isFalse =>
          split at fitting
          case isTrue isBoolean =>
              obtain rfl := beq_iff_eq.mp isBoolean
              exact .inl (.truthName (by simpa using fitting))
          case isFalse =>
              simp only [Bool.or_eq_true, beq_iff_eq] at fitting
              rcases fitting with rfl | isString
              · exact .inl (.date text)
              · exact .inl (.text isString (.string text))

/-- A field is compared with what its type can hold, and with what the type mistakes for a number. -/
theorem fits_iff :
    Sqon.fits type value = true ↔ type.Holds value ∨ type.MistakesForNumber value := by
  constructor
  · exact holds_or_mistakesForNumber_of_fits
  · intro known
    rcases known with holds | ⟨numeric, isWord⟩
    · exact fits_of_holds holds
    · simp [Sqon.fits, numeric, isNumeral_iff.mpr (.inr isWord)]

end FieldType

/--
A condition is on a declared field that it applies to.  Comparisons are with
allowed values, never on a container, and by size never on a boolean.
-/
inductive Clause.ComparesWith
    (registry : Registry)
    (allowed : FieldType → Json → Prop) :
    Clause → Prop where
  | term
      {path : String}
      {field : Field}
      {values : List Json}
      (declared : registry.fieldAt? path = some field)
      (notContainer : field.type.isContainer = false)
      (allAllowed : ∀ value ∈ values, allowed field.type value) :
      ComparesWith registry allowed (.term path values)
  | range
      {path : String}
      {field : Field}
      {lower upper : Option Bound}
      (declared : registry.fieldAt? path = some field)
      (notContainer : field.type.isContainer = false)
      (notBoolean : field.type ≠ .boolean)
      (lowerAllowed : ∀ bound ∈ lower, allowed field.type bound.value)
      (upperAllowed : ∀ bound ∈ upper, allowed field.type bound.value) :
      ComparesWith registry allowed (.range path lower upper)
  | present
      {path : String}
      {field : Field}
      (declared : registry.fieldAt? path = some field) :
      ComparesWith registry allowed (.present path)
  | wildcard
      {path pattern : String}
      {field : Field}
      {caseInsensitive : Bool}
      (declared : registry.fieldAt? path = some field)
      (isString : field.type.isString = true) :
      ComparesWith registry allowed (.wildcard path pattern caseInsensitive)

namespace Clause

variable
  {registry : Registry}
  {allowed also : FieldType → Json → Prop}
  {condition : Clause}

theorem ComparesWith.mono
    (weaker : ∀ type value, allowed type value → also type value)
    (compares : condition.ComparesWith registry allowed) :
    condition.ComparesWith registry also := by
  cases compares with
  | term declared notContainer allAllowed =>
      exact .term declared notContainer fun value member => weaker _ value (allAllowed value member)
  | range declared notContainer notBoolean lowerAllowed upperAllowed =>
      exact .range declared notContainer notBoolean
        (fun bound isLower => weaker _ _ (lowerAllowed bound isLower))
        fun bound isUpper => weaker _ _ (upperAllowed bound isUpper)
  | present declared =>
      exact .present declared
  | wildcard declared isString =>
      exact .wildcard declared isString

/-- The values of a condition are on one field, so that two laws about them hold together. -/
theorem ComparesWith.and
    (compares : condition.ComparesWith registry allowed)
    (comparesAlso : condition.ComparesWith registry also) :
    condition.ComparesWith registry fun type value => allowed type value ∧ also type value := by
  cases compares with
  | term declared notContainer allAllowed =>
      cases comparesAlso with
      | term declaredAlso _ allAlso =>
          obtain rfl := Option.some.inj (declared.symm.trans declaredAlso)
          exact .term declared notContainer fun value member =>
            ⟨allAllowed value member, allAlso value member⟩
  | range declared notContainer notBoolean lowerAllowed upperAllowed =>
      cases comparesAlso with
      | range declaredAlso _ _ lowerAlso upperAlso =>
          obtain rfl := Option.some.inj (declared.symm.trans declaredAlso)
          exact .range declared notContainer notBoolean
            (fun bound isLower => ⟨lowerAllowed bound isLower, lowerAlso bound isLower⟩)
            fun bound isUpper => ⟨upperAllowed bound isUpper, upperAlso bound isUpper⟩
  | present declared =>
      exact .present declared
  | wildcard declared isString =>
      exact .wildcard declared isString

end Clause

theorem FieldType.not_container_or_boolean_of_isRangeable
    {type : FieldType}
    (rangeable : type.isRangeable = true) :
    type.isContainer = false ∧ type ≠ .boolean := by
  cases type with
  | boolean | nested | object =>
      cases rangeable
  | _ =>
      exact ⟨rfl, by simp⟩

namespace Sqon

open Compiler

variable {registry : Registry}

theorem Compiler.Tests.comparesWith
    {field : Field}
    {condition : Clause}
    (member : field ∈ registry.fields)
    (tests : Tests field condition) :
    condition.ComparesWith registry fun type value => fits type value = true := by
  have declared : registry.fieldAt? field.path = some field :=
    Registry.fieldAt?_eq_some_iff.mpr ⟨member, rfl⟩
  cases tests with
  | term holdsValues _ fitting =>
      exact .term declared holdsValues fitting
  | range rangeable _ lowerFits upperFits =>
      obtain ⟨notContainer, notBoolean⟩ :=
        FieldType.not_container_or_boolean_of_isRangeable rangeable
      refine .range declared notContainer notBoolean ?_ ?_
      · simpa [Bound.closed] using lowerFits
      · simpa [Bound.closed] using upperFits
  | present =>
      exact .present declared
  | wildcard isString =>
      exact .wildcard declared isString

/--
A compiled filter compares declared fields with texts, numbers and booleans
that their types can hold, or that numeric types mistake for numbers.  So it
compares them only with what they can hold exactly if nothing is mistaken.
-/
theorem compile_compares_with_held_values
    {limit : Nat}
    {sqon : Sqon}
    {clause : Clause}
    (compiled : sqon.compile registry limit = .ok clause) :
    (∀ condition ∈ clause.conditions,
        condition.ComparesWith registry fun type value =>
          value.IsScalar ∧ (type.Holds value ∨ type.MistakesForNumber value)) ∧
      ((∀ condition ∈ clause.conditions, condition.ComparesWith registry FieldType.Holds) ↔
        ∀ condition ∈ clause.conditions,
          condition.ComparesWith registry fun type value => ¬ type.MistakesForNumber value) := by
  have fitting :
      ∀ condition ∈ clause.conditions,
        condition.ComparesWith registry fun type value => fits type value = true := by
    intro condition member
    obtain ⟨field, declared, tests⟩ := tests_of_compile compiled condition member
    exact tests.comparesWith declared
  refine ⟨?_, ?_, ?_⟩
  · intro condition member
    refine (fitting condition member).mono fun type value accepted => ?_
    have known := FieldType.fits_iff.mp accepted
    exact ⟨known.elim (·.isScalar) (·.isScalar), known⟩
  · intro allHeld condition member
    exact (allHeld condition member).mono fun type value holds => holds.not_mistakesForNumber
  · intro noneMistaken condition member
    -- Both laws are about the type of one field, as no two declared fields have one path.
    have both := (fitting condition member).and (noneMistaken condition member)
    refine both.mono fun type value known => ?_
    exact (FieldType.fits_iff.mp known.1).resolve_right known.2

end Sqon

/-- Donors of an age that is given in numerals, between two ages of which one is left open. -/
def agesInNumerals : Sqon :=
  .all [
    .test .isIn "donors__age" (.array [.string " 4e1\n", .int 41]),
    .test .between "donors__age" (.array [.null, .string "+64.5"])]

/-- The clause that the ages in numerals compile to. -/
def agesInNumeralsClause : Clause :=
  .nested "donors" (.and [
    .term "donors.age" [.string " 4e1\n", .int 41],
    .range "donors.age" none (some (.closed (.string "+64.5")))])

/-- Numerals that denote numbers are not mistaken, whatever blanks are around them. -/
theorem agesInNumerals_compare_with_held_values :
    agesInNumerals.compile caseRegistry 2 = .ok agesInNumeralsClause ∧
      ∀ condition ∈ agesInNumeralsClause.conditions,
        condition.ComparesWith caseRegistry FieldType.Holds := by
  have compiled : agesInNumerals.compile caseRegistry 2 = .ok agesInNumeralsClause := by
    rfl
  refine ⟨compiled, (Sqon.compile_compares_with_held_values compiled).2.mpr ?_⟩
  intro condition member
  have notMistaken :
      ∀ text, ¬ Numeral.IsNonFinite (Text.trim text).toList →
        ¬ FieldType.long.MistakesForNumber (.string text) := by
    intro text notWord mistaken
    cases mistaken with
    | word _ isWord =>
        exact notWord isWord
  rcases List.mem_cons.mp member with rfl | inRest
  · refine .term rfl rfl ?_
    intro value isValue
    rcases List.mem_cons.mp isValue with rfl | isInteger
    · exact notMistaken _ (by decide)
    · obtain rfl := List.mem_singleton.mp isInteger
      nofun
  · obtain rfl := List.mem_singleton.mp inRest
    refine .range rfl rfl nofun nofun ?_
    intro bound isUpper
    obtain rfl := Option.some.inj isUpper
    exact notMistaken _ (by decide)

/-- Donors whose age is no number. -/
def ageNotANumber : Sqon :=
  .inValues "donors__age" [.string "NaN"]

/-- An age is compared with a word that denotes no number. -/
theorem ageNotANumber_compares_with_no_number :
    ageNotANumber.compile caseRegistry 1 =
        .ok (.nested "donors" (.term "donors.age" [.string "NaN"])) ∧
      ¬ ∀ condition ∈ (Clause.nested "donors" (.term "donors.age" [.string "NaN"])).conditions,
          condition.ComparesWith caseRegistry FieldType.Holds := by
  have compiled :
      ageNotANumber.compile caseRegistry 1 =
        .ok (.nested "donors" (.term "donors.age" [.string "NaN"])) := by
    rfl
  refine ⟨compiled, ?_⟩
  intro allHeld
  have isWord : Numeral.IsNonFinite (Text.trim "NaN").toList := by
    decide
  cases allHeld _ (List.mem_singleton_self _) with
  | @term _ field _ declared _ allAllowed =>
      have holds := allAllowed _ (List.mem_singleton_self _)
      have numeric : field.type.isNumeric = true := by
        obtain rfl := Option.some.inj declared
        rfl
      exact holds.not_mistakesForNumber (.word numeric isWord)

end FacetSearch
