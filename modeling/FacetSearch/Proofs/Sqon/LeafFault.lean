import FacetSearch.Proofs.Sqon.LeafOutcome

namespace FacetSearch

/-!
# What is wrong with a leaf

A leaf needs a declared field, an operator that applies to the type of the
field, a value of the shape that the operator takes, and scalars in the value
that the field can hold.  The fault of a leaf is the first of these that it
lacks, of several scalars the first one; compiling a leaf fails with exactly
this fault.
-/

/-- Whether an operator applies to fields of a type. -/
def Operator.appliesTo
    (op : Operator)
    (type : FieldType) :
    Bool :=
  match op with
  | .isIn | .notIn => !type.isContainer
  | .between | .atLeast | .atMost => type.isRangeable
  | .exists | .missing => true
  | .contains => type.isString

/--
The scalars in a value of the shape that an operator takes, or what is wrong
with the shape.  The text that `contains` takes is not held against the field.
-/
def Operator.scalars
    (op : Operator)
    (value : Json) :
    Except SqonFault (List Json) :=
  match op with
  | .isIn | .notIn =>
      match Sqon.Compiler.candidates value with
      | [] => .error (.noValues op)
      | items => .ok items
  | .between =>
      match Sqon.Compiler.bounds? value with
      | none => .error .betweenShape
      | some (none, none) => .error .betweenUnbounded
      | some (lower, upper) => .ok (lower.toList ++ upper.toList)
  | .atLeast | .atMost => .ok [value]
  | .exists | .missing => .ok []
  | .contains =>
      match value.text? with
      | none => .error .containsNotString
      | some _ => .ok []

/-- The fault of the first scalar that a field cannot hold. -/
def Field.unfit?
    (field : Field)
    (place : Location)
    (scalars : List Json) :
    Option Error :=
  (scalars.find? fun scalar => !Sqon.fits field.type scalar).map fun scalar =>
    .invalidSqon (.badValue scalar field.type field.name) place

/-- The fault of a value that an operator holds against a field. -/
def Field.valueFault?
    (field : Field)
    (place : Location)
    (op : Operator)
    (value : Json) :
    Option Error :=
  match op.scalars value with
  | .error cause => some (.invalidSqon cause place)
  | .ok scalars => field.unfit? place scalars

namespace Leaf

/-- A leaf that has all that it needs. -/
def IsAdmissible
    (registry : Registry)
    (condition : Leaf) :
    Prop :=
  ∃ field scalars,
    registry.field? condition.field = some field ∧
      condition.op.appliesTo field.type = true ∧
      condition.op.scalars condition.value = .ok scalars ∧
      ∀ scalar ∈ scalars, Sqon.fits field.type scalar = true

/-- The fault of a leaf on a known field. -/
def faultOn?
    (condition : Leaf)
    (field : Field)
    (place : Location) :
    Option Error :=
  if condition.op.appliesTo field.type then
    field.valueFault? place condition.op condition.value
  else some (.typeMismatch (.filter condition.op) field.name field.type place)

/-- The fault of a leaf at some place. -/
def fault?
    (registry : Registry)
    (condition : Leaf)
    (place : Location) :
    Option Error :=
  match registry.field? condition.field with
  | none => some (.unknownField condition.field place)
  | some field => condition.faultOn? field place

end Leaf

section Admission

variable {registry : Registry} {condition : Leaf} {field : Field} {place : Location}

theorem Field.unfit?_eq_none_iff
    {scalars : List Json} :
    field.unfit? place scalars = none ↔ ∀ scalar ∈ scalars, Sqon.fits field.type scalar = true := by
  simp [Field.unfit?]

theorem Field.unfit?_cons
    {scalar : Json}
    {rest : List Json} :
    field.unfit? place (scalar :: rest) =
      if Sqon.fits field.type scalar then field.unfit? place rest
      else some (.invalidSqon (.badValue scalar field.type field.name) place) := by
  by_cases fitting : Sqon.fits field.type scalar = true <;> simp [Field.unfit?, fitting]

theorem Field.unfit?_append
    {first second : List Json} :
    field.unfit? place (first ++ second) =
      (field.unfit? place first).or (field.unfit? place second) := by
  simp only [Field.unfit?, List.find?_append, Option.map_or]

/-- A leaf is free of faults exactly when it has all that it needs. -/
theorem Leaf.fault?_eq_none_iff :
    condition.fault? registry place = none ↔ condition.IsAdmissible registry := by
  unfold Leaf.fault? Leaf.IsAdmissible
  cases registry.field? condition.field with
  | none =>
      simp
  | some field =>
      by_cases applies : condition.op.appliesTo field.type = true
      · cases shape : condition.op.scalars condition.value with
        | error cause =>
            simp [Leaf.faultOn?, Field.valueFault?, applies, shape]
        | ok scalars =>
            simp [Leaf.faultOn?, Field.valueFault?, applies, shape, Field.unfit?_eq_none_iff]
      · simp [Leaf.faultOn?, applies]

theorem Operator.scalars_ne_tooDeep
    {op : Operator}
    {value : Json}
    {limit : Nat} :
    op.scalars value ≠ .error (.tooDeep limit) := by
  cases op with
  | isIn | notIn | between | contains =>
      simp only [Operator.scalars]
      split <;> simp
  | atLeast | atMost | «exists» | missing =>
      simp [Operator.scalars]

/-- The fault of a leaf is about its field, its operator or its value, at its own place. -/
theorem Leaf.eq_of_fault?
    {failure : Error}
    (faulty : condition.fault? registry place = some failure) :
    failure = .unknownField condition.field place ∨
      (∃ field : Field,
        failure = .typeMismatch (.filter condition.op) field.name field.type place) ∨
      ∃ cause, (∀ limit, cause ≠ .tooDeep limit) ∧ failure = .invalidSqon cause place := by
  unfold Leaf.fault? Leaf.faultOn? Field.valueFault? at faulty
  split at faulty
  · exact .inl (Option.some.inj faulty).symm
  case h_2 field _ =>
      split at faulty
      · split at faulty
        case h_1 cause shape =>
            refine .inr (.inr ⟨cause, ?_, (Option.some.inj faulty).symm⟩)
            rintro limit rfl
            exact Operator.scalars_ne_tooDeep shape
        case h_2 =>
            obtain ⟨scalar, -, rfl⟩ := Option.map_eq_some_iff.mp faulty
            exact .inr (.inr ⟨_, by simp, rfl⟩)
      · exact .inr (.inl ⟨field, (Option.some.inj faulty).symm⟩)

theorem Leaf.place?_of_fault?
    {failure : Error}
    (faulty : condition.fault? registry place = some failure) :
    failure.place? = some place := by
  rcases Leaf.eq_of_fault? faulty with rfl | ⟨_, rfl⟩ | ⟨_, -, rfl⟩ <;> rfl

/-- Whether an error says that a tree is too deep. -/
def Error.isTooDeep : Error → Bool
  | .invalidSqon (.tooDeep _) _ => true
  | _ => false

theorem Leaf.isTooDeep_of_fault?
    {failure : Error}
    (faulty : condition.fault? registry place = some failure) :
    failure.isTooDeep = false := by
  rcases Leaf.eq_of_fault? faulty with rfl | ⟨_, rfl⟩ | ⟨cause, shallow, rfl⟩
  · rfl
  · rfl
  · cases cause with
    | tooDeep limit =>
        exact (shallow limit rfl).elim
    | _ =>
        rfl

end Admission

namespace Sqon.Compiler

theorem map_eq_error_iff
    {α β ε : Type}
    {result : Except ε α}
    {change : α → β}
    {failure : ε} :
    result.map change = .error failure ↔ result = .error failure := by
  cases result <;> simp [Except.map]

section Scalars

variable {field : Field} {place : Location} {failure : Error}

theorem scalar_eq_error_iff
    {value : Json} :
    scalar field place value = .error failure ↔ field.unfit? place [value] = some failure := by
  unfold scalar
  by_cases fitting : fits field.type value = true <;> simp [Field.unfit?, fitting, fault]

theorem scalar?_eq_error_iff
    {bound : Option Json} :
    scalar? field place bound = .error failure ↔
      field.unfit? place bound.toList = some failure := by
  cases bound with
  | none =>
      simp [scalar?, Field.unfit?]
  | some value =>
      simp [scalar?, map_eq_error_iff, scalar_eq_error_iff]

theorem traverseFrom_scalar_eq_error_iff
    {position : Nat}
    {items : List Json} :
    Indexed.traverseFrom (fun _ item => scalar field place item) position items =
        .error failure ↔
      field.unfit? place items = some failure := by
  induction items generalizing position with
  | nil =>
      simp [Indexed.traverseFrom, Field.unfit?]
  | cons item rest inductionHypothesis =>
      by_cases fitting : fits field.type item = true
      · simp only [Indexed.traverseFrom, scalar, Field.unfit?_cons, fitting, ↓reduceIte,
          ← @inductionHypothesis (position + 1)]
        split <;> simp_all
      · simp [Indexed.traverseFrom, scalar, Field.unfit?_cons, fitting, fault]

/-- The values of `in` and `not-in` are refused with their fault. -/
theorem values_eq_error_iff
    {op : Operator}
    (isMembership : op = .isIn ∨ op = .notIn)
    {value : Json} :
    values op field place value = .error failure ↔
      field.valueFault? place op value = some failure := by
  have scalars_eq :
      op.scalars value =
        match candidates value with
        | [] => .error (.noValues op)
        | items => .ok items := by
    rcases isMembership with rfl | rfl <;> rfl
  rw [values, Field.valueFault?, scalars_eq]
  cases candidates value with
  | nil =>
      simp [fault]
  | cons first rest =>
      simp [Indexed.traverse, traverseFrom_scalar_eq_error_iff]

/-- The bounds of `between` are refused with their fault, the lower one first. -/
theorem bounds_eq_error_iff
    {value : Json} :
    bounds field place value = .error failure ↔
      field.valueFault? place .between value = some failure := by
  unfold bounds
  split
  case h_1 shapeless =>
      simp [Field.valueFault?, Operator.scalars, shapeless, fault]
  case h_2 unbounded =>
      simp [Field.valueFault?, Operator.scalars, unbounded, fault]
  case h_3 lower upper _ given =>
      have scalars_eq :
          Operator.between.scalars value = .ok (lower.toList ++ upper.toList) := by
        simp [Operator.scalars, given]
      simp only [Field.valueFault?, scalars_eq, Field.unfit?_append]
      cases accepted : scalar? field place lower with
      | error refusal =>
          simp [scalar?_eq_error_iff.mp accepted]
      | ok lower' =>
          have lowerFits : field.unfit? place lower.toList = none := by
            rw [Field.unfit?_eq_none_iff]
            simpa using (scalar?_eq_ok_iff.mp accepted).1
          rw [lowerFits, Option.none_or, ← scalar?_eq_error_iff]
          cases scalar? field place upper <;> simp

end Scalars

/-- Compiling a leaf on a known field fails exactly with the fault of the leaf. -/
theorem leafOn_eq_error_iff
    {condition : Leaf}
    {field : Field}
    {place : Location}
    {failure : Error} :
    leafOn condition field place = .error failure ↔
      condition.faultOn? field place = some failure := by
  obtain ⟨op, name, value⟩ := condition
  by_cases applies : op.appliesTo field.type = true
  · rw [Leaf.faultOn?, if_pos applies]
    cases op with
    | isIn | notIn =>
        have holdsValues : field.type.isContainer = false := by
          simpa [Operator.appliesTo] using applies
        simp [leafOn, holdsValues, map_eq_error_iff, values_eq_error_iff]
    | between =>
        have rangeable : field.type.isRangeable = true := applies
        simp [leafOn, rangeable, map_eq_error_iff, bounds_eq_error_iff]
    | atLeast | atMost =>
        have rangeable : field.type.isRangeable = true := applies
        simp [leafOn, rangeable, map_eq_error_iff, scalar_eq_error_iff, Field.valueFault?,
          Operator.scalars]
    | «exists» | missing =>
        simp [leafOn, Field.valueFault?, Operator.scalars, Field.unfit?]
    | contains =>
        have isString : field.type.isString = true := applies
        cases isText : value.text? <;>
          simp [leafOn, isString, isText, Field.valueFault?, Operator.scalars, Field.unfit?, fault]
  · rw [Leaf.faultOn?, if_neg applies]
    cases op with
    | isIn | notIn | between | atLeast | atMost | contains =>
        simp_all [leafOn, Operator.appliesTo, mismatch]
    | «exists» | missing =>
        exact (applies rfl).elim

/-- Compiling a leaf fails exactly with the fault of the leaf. -/
theorem leaf_eq_error_iff
    {registry : Registry}
    {condition : Leaf}
    {place : Location}
    {failure : Error} :
    leaf registry condition place = .error failure ↔
      condition.fault? registry place = some failure := by
  unfold leaf Registry.resolve Leaf.fault?
  cases registry.field? condition.field with
  | none =>
      simp
  | some field =>
      simp [leafOn_eq_error_iff]

end Sqon.Compiler

end FacetSearch
