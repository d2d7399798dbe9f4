import FacetSearch.Sqon.Compile

namespace FacetSearch.Sqon.Compiler

/-!
# What a leaf compiles to

Compiling a leaf succeeds when its operator applies to the type of its field
and its value has the shape that the operator takes, with parts that the field
can hold.  The outcome is then determined by the leaf and the field alone; the
place of the leaf matters to errors only.
-/

theorem map_eq_ok_iff
    {α β ε : Type}
    {result : Except ε α}
    {change : α → β}
    {changed : β} :
    result.map change = .ok changed ↔ ∃ value, result = .ok value ∧ change value = changed := by
  cases result <;> simp [Except.map]

section Values

variable {field : Field} {place : Location}

/-- A value is accepted, unchanged, when the field can hold it. -/
theorem scalar_eq_ok_iff
    {value accepted : Json} :
    scalar field place value = .ok accepted ↔ fits field.type value = true ∧ accepted = value := by
  unfold scalar
  by_cases fitting : fits field.type value = true
  · simp only [fitting, ↓reduceIte, Except.ok.injEq, true_and]
    exact eq_comm
  · simp [fitting, fault]

theorem scalar?_eq_ok_iff
    {bound accepted : Option Json} :
    scalar? field place bound = .ok accepted ↔
      (∀ value ∈ bound, fits field.type value = true) ∧ accepted = bound := by
  cases bound with
  | none =>
      simp only [scalar?, Except.ok.injEq, Option.mem_def, reduceCtorEq, false_implies,
        implies_true, true_and]
      exact eq_comm
  | some value =>
      simp only [scalar?, map_eq_ok_iff, scalar_eq_ok_iff, Option.mem_some_iff, forall_eq']
      constructor
      · rintro ⟨_, ⟨fitting, rfl⟩, rfl⟩
        exact ⟨fitting, rfl⟩
      · rintro ⟨fitting, rfl⟩
        exact ⟨value, ⟨fitting, rfl⟩, rfl⟩

theorem traverseFrom_scalar_eq_ok_iff
    {position : Nat}
    {items accepted : List Json} :
    Indexed.traverseFrom (fun _ item => scalar field place item) position items = .ok accepted ↔
      (∀ item ∈ items, fits field.type item = true) ∧ accepted = items := by
  induction items generalizing position accepted with
  | nil =>
      simp only [Indexed.traverseFrom, Except.ok.injEq, List.not_mem_nil, false_implies,
        implies_true, true_and]
      exact eq_comm
  | cons item rest inductionHypothesis =>
      simp only [Indexed.traverseFrom]
      by_cases fitting : fits field.type item = true
      · rw [scalar_eq_ok_iff.mpr ⟨fitting, rfl⟩]
        cases others : Indexed.traverseFrom (fun _ item => scalar field place item)
            (position + 1) rest with
        | error failure =>
            have refused : ¬ ∀ item ∈ rest, fits field.type item = true := by
              intro restFits
              rw [inductionHypothesis.mpr ⟨restFits, rfl⟩] at others
              cases others
            simp [fitting, refused]
        | ok values =>
            obtain ⟨restFits, rfl⟩ := inductionHypothesis.mp others
            simp only [Except.ok.injEq, List.forall_mem_cons, fitting, true_and]
            exact ⟨fun same => ⟨restFits, same.symm⟩, fun given => given.2.symm⟩
      · simp [scalar, fitting, fault]

/-- The values of a leaf are accepted when there are some and the field can hold them. -/
theorem values_eq_ok_iff
    {op : Operator}
    {value : Json}
    {accepted : List Json} :
    values op field place value = .ok accepted ↔
      candidates value ≠ [] ∧ (∀ item ∈ candidates value, fits field.type item = true) ∧
        accepted = candidates value := by
  unfold values
  by_cases none : candidates value = []
  · simp [none, fault]
  · simp only [List.isEmpty_iff, none, ↓reduceIte, Indexed.traverse,
      traverseFrom_scalar_eq_ok_iff, ne_eq, not_false_eq_true, true_and]

/-- Bounds are accepted when one is given and the field can hold those that are. -/
theorem bounds_eq_ok_iff
    {value : Json}
    {lower upper : Option Json} :
    bounds field place value = .ok (lower, upper) ↔
      bounds? value = some (lower, upper) ∧ (lower.isSome ∨ upper.isSome) ∧
        (∀ bound ∈ lower, fits field.type bound = true) ∧
          ∀ bound ∈ upper, fits field.type bound = true := by
  unfold bounds
  split
  case h_1 shapeless =>
      simp [shapeless, fault]
  case h_2 unbounded =>
      simp only [unbounded, fault, reduceCtorEq, Option.some.injEq, Prod.mk.injEq, false_iff]
      rintro ⟨⟨rfl, rfl⟩, given, -⟩
      simp at given
  case h_3 first second someGiven given =>
      have bounded : first.isSome ∨ second.isSome := by
        cases first <;> cases second <;> simp_all
      rw [given]
      constructor
      · intro accepted
        cases firstAccepted : scalar? field place first with
        | error failure =>
            simp [firstAccepted] at accepted
        | ok first' =>
            cases secondAccepted : scalar? field place second with
            | error failure =>
                simp [firstAccepted, secondAccepted] at accepted
            | ok second' =>
                obtain ⟨firstFits, rfl⟩ := scalar?_eq_ok_iff.mp firstAccepted
                obtain ⟨secondFits, rfl⟩ := scalar?_eq_ok_iff.mp secondAccepted
                simp only [firstAccepted, secondAccepted, Except.ok.injEq, Prod.mk.injEq]
                  at accepted
                obtain ⟨rfl, rfl⟩ := accepted
                exact ⟨rfl, bounded, firstFits, secondFits⟩
      · rintro ⟨same, -, lowerFits, upperFits⟩
        obtain ⟨rfl, rfl⟩ : first = lower ∧ second = upper := by simpa using same
        rw [scalar?_eq_ok_iff.mpr ⟨lowerFits, rfl⟩, scalar?_eq_ok_iff.mpr ⟨upperFits, rfl⟩]

end Values

/-- A leaf on a field compiles to a pending clause. -/
inductive LeafOutcome (field : Field) : Leaf → Pending → Prop where
  | isIn
      {name : String}
      {value : Json}
      (holdsValues : field.type.isContainer = false)
      (nonempty : candidates value ≠ [])
      (fitting : ∀ item ∈ candidates value, fits field.type item = true) :
      LeafOutcome field { op := .isIn, field := name, value }
        (onField field (.term field.path (candidates value)))
  | notIn
      {name : String}
      {value : Json}
      (holdsValues : field.type.isContainer = false)
      (nonempty : candidates value ≠ [])
      (fitting : ∀ item ∈ candidates value, fits field.type item = true) :
      LeafOutcome field { op := .notIn, field := name, value }
        (negation (onField field (.term field.path (candidates value))))
  | between
      {name : String}
      {value : Json}
      {lower upper : Option Json}
      (rangeable : field.type.isRangeable = true)
      (shape : bounds? value = some (lower, upper))
      (bounded : lower.isSome ∨ upper.isSome)
      (lowerFits : ∀ bound ∈ lower, fits field.type bound = true)
      (upperFits : ∀ bound ∈ upper, fits field.type bound = true) :
      LeafOutcome field { op := .between, field := name, value }
        (onField field (.range field.path (lower.map .closed) (upper.map .closed)))
  | atLeast
      {name : String}
      {value : Json}
      (rangeable : field.type.isRangeable = true)
      (fitting : fits field.type value = true) :
      LeafOutcome field { op := .atLeast, field := name, value }
        (onField field (.range field.path (some (.closed value)) none))
  | atMost
      {name : String}
      {value : Json}
      (rangeable : field.type.isRangeable = true)
      (fitting : fits field.type value = true) :
      LeafOutcome field { op := .atMost, field := name, value }
        (onField field (.range field.path none (some (.closed value))))
  | present
      {name : String}
      {value : Json} :
      LeafOutcome field { op := .exists, field := name, value } (presence field)
  | missing
      {name : String}
      {value : Json} :
      LeafOutcome field { op := .missing, field := name, value } (negation (presence field))
  | contains
      {name : String}
      {value : Json}
      {text : String}
      (isString : field.type.isString = true)
      (isText : value.text? = some text) :
      LeafOutcome field { op := .contains, field := name, value }
        (onField field (.wildcard field.path (containing text) true))

/-- Compiling a leaf on a known field succeeds exactly with its outcome, at any place. -/
theorem leafOn_eq_ok_iff
    {condition : Leaf}
    {field : Field}
    {place : Location}
    {pending : Pending} :
    leafOn condition field place = .ok pending ↔ LeafOutcome field condition pending := by
  obtain ⟨op, name, value⟩ := condition
  constructor
  · intro accepted
    cases op with
    | isIn =>
        simp only [leafOn] at accepted
        split at accepted
        · simp [mismatch] at accepted
        · simp only [map_eq_ok_iff, values_eq_ok_iff] at accepted
          obtain ⟨_, ⟨nonempty, fitting, rfl⟩, rfl⟩ := accepted
          exact .isIn (by simp_all) nonempty fitting
    | notIn =>
        simp only [leafOn] at accepted
        split at accepted
        · simp [mismatch] at accepted
        · simp only [map_eq_ok_iff, values_eq_ok_iff] at accepted
          obtain ⟨_, ⟨nonempty, fitting, rfl⟩, rfl⟩ := accepted
          exact .notIn (by simp_all) nonempty fitting
    | between =>
        simp only [leafOn] at accepted
        split at accepted
        · simp [mismatch] at accepted
        · simp only [map_eq_ok_iff, Prod.exists, bounds_eq_ok_iff] at accepted
          obtain ⟨lower, upper, ⟨shape, bounded, lowerFits, upperFits⟩, rfl⟩ := accepted
          exact .between (by simp_all) shape bounded lowerFits upperFits
    | atLeast =>
        simp only [leafOn] at accepted
        split at accepted
        · simp [mismatch] at accepted
        · simp only [map_eq_ok_iff, scalar_eq_ok_iff] at accepted
          obtain ⟨_, ⟨fitting, rfl⟩, rfl⟩ := accepted
          exact .atLeast (by simp_all) fitting
    | atMost =>
        simp only [leafOn] at accepted
        split at accepted
        · simp [mismatch] at accepted
        · simp only [map_eq_ok_iff, scalar_eq_ok_iff] at accepted
          obtain ⟨_, ⟨fitting, rfl⟩, rfl⟩ := accepted
          exact .atMost (by simp_all) fitting
    | «exists» =>
        obtain rfl : presence field = pending := Except.ok.inj accepted
        exact .present
    | missing =>
        obtain rfl : negation (presence field) = pending := Except.ok.inj accepted
        exact .missing
    | contains =>
        simp only [leafOn] at accepted
        split at accepted
        · simp [mismatch] at accepted
        · cases isText : value.text? with
          | none =>
              simp [isText, fault] at accepted
          | some text =>
              simp only [isText, Except.ok.injEq] at accepted
              subst pending
              exact .contains (by simp_all) isText
  · intro outcome
    cases outcome with
    | isIn holdsValues nonempty fitting =>
        simp [leafOn, holdsValues, values_eq_ok_iff.mpr ⟨nonempty, fitting, rfl⟩, Except.map]
    | notIn holdsValues nonempty fitting =>
        simp [leafOn, holdsValues, values_eq_ok_iff.mpr ⟨nonempty, fitting, rfl⟩, Except.map]
    | between rangeable shape bounded lowerFits upperFits =>
        simp [leafOn, rangeable,
          bounds_eq_ok_iff.mpr ⟨shape, bounded, lowerFits, upperFits⟩, Except.map]
    | atLeast rangeable fitting =>
        simp [leafOn, rangeable, scalar_eq_ok_iff.mpr ⟨fitting, rfl⟩, Except.map]
    | atMost rangeable fitting =>
        simp [leafOn, rangeable, scalar_eq_ok_iff.mpr ⟨fitting, rfl⟩, Except.map]
    | present =>
        rfl
    | missing =>
        rfl
    | contains isString isText =>
        simp [leafOn, isString, isText]

/-- Compiling a leaf succeeds when its field is declared, with the outcome on that field. -/
theorem leaf_eq_ok_iff
    {registry : Registry}
    {condition : Leaf}
    {place : Location}
    {pending : Pending} :
    leaf registry condition place = .ok pending ↔
      ∃ field, registry.field? condition.field = some field ∧
        LeafOutcome field condition pending := by
  unfold leaf Registry.resolve
  cases registry.field? condition.field with
  | none =>
      simp
  | some field =>
      simp [leafOn_eq_ok_iff]

end FacetSearch.Sqon.Compiler
