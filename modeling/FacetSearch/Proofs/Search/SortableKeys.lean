import FacetSearch.Proofs.Schema.Lookup
import FacetSearch.Proofs.Search.SortKeys

namespace FacetSearch

/-!
# What pages can be sorted by

A key can be executed if a field at its path has a type that can be sorted and
lies under the nested fields of the key.  Keys of declared fields always can.
On the identifying path a key may also be put bare, without a look at what is
declared there: behind a sort that does not end on it, and where a sort asks for
it by a name that is not declared.
-/

/-- An engine can sort by a key: what is declared at its path is sortable and nested alike. -/
def SortKey.IsExecutable
    (registry : Registry)
    (key : SortKey) :
    Prop :=
  ∀ field ∈ registry.fields,
    field.path = key.field →
      field.type ≠ .text ∧ field.type.isContainer = false ∧ key.nested = field.nested

theorem FieldType.isSortable_eq_true_iff
    {type : FieldType} :
    type.isSortable = true ↔ type ≠ .text ∧ type.isContainer = false := by
  simp [isSortable, and_comm]

namespace Registry

variable {registry : Registry} {requested : List SortField} {keys : List SortKey} {key : SortKey}

/-- A request is sorted by a bare key on the identifying path, among others. -/
def PutsBareId
    (registry : Registry)
    (requested : List SortField) :
    Prop :=
  registry.NeedsTieBreaker requested ∨
    (registry.field? registry.documentType.idField = none ∧
      ∃ sort ∈ registry.appliedSort requested, sort.field = registry.documentType.idField)

instance (requested : List SortField) : Decidable (registry.PutsBareId requested) :=
  inferInstanceAs (Decidable (_ ∨ _))

/-- A bare key is enough on the identifying path: what is there is sortable and not nested. -/
def AdmitsBareId (registry : Registry) : Prop :=
  ∀ field ∈ registry.fields,
    field.path = registry.idPath →
      field.type ≠ .text ∧ field.type.isContainer = false ∧ field.nested = []

theorem isExecutable_bareId_iff
    {direction : SortDirection} :
    (registry.bareId direction).IsExecutable registry ↔ registry.AdmitsBareId := by
  simp only [SortKey.IsExecutable, AdmitsBareId, bareId, eq_comm]

/-- An identifying field that is not declared gives a bare key. -/
theorem eq_bareId_of_sortsBy
    {sort : SortField}
    (undeclared : registry.field? registry.documentType.idField = none)
    (isId : sort.field = registry.documentType.idField)
    (sorts : sort.SortsBy registry key) :
    key = registry.bareId sort.direction := by
  cases sorts with
  | declared found _ =>
      rw [isId, undeclared] at found
      cases found
  | undeclaredId _ _ =>
      simp only [bareId, idPath, undeclared, isId]

/-- The key of a sort is executable, or it is the bare one of an identifying field. -/
theorem isExecutable_or_bareId_of_sortsBy
    {sort : SortField}
    (sorts : sort.SortsBy registry key) :
    key.IsExecutable registry ∨
      (registry.field? registry.documentType.idField = none ∧
        sort.field = registry.documentType.idField ∧
          key = registry.bareId sort.direction) := by
  cases sorts with
  | declared found sortable =>
      left
      intro other member samePath
      have atPath := fieldAt?_of_field? found
      rw [fieldAt?_eq_some_iff.mpr ⟨member, samePath⟩] at atPath
      obtain rfl := Option.some.inj atPath
      obtain ⟨notText, notContainer⟩ := FieldType.isSortable_eq_true_iff.mp sortable
      exact ⟨notText, notContainer, rfl⟩
  | undeclaredId undeclared isId =>
      have bare := eq_bareId_of_sortsBy (isId ▸ undeclared) isId (.undeclaredId undeclared isId)
      exact .inr ⟨isId ▸ undeclared, isId, bare⟩

/-- The keys of a sort, and the bare key that is put behind them where it is needed. -/
theorem mem_breakTies_iff
    (sorts :
      List.Forall₂ (SortField.SortsBy registry) (registry.appliedSort requested) keys) :
    key ∈ registry.breakTies keys ↔
      key ∈ keys ∨ (registry.NeedsTieBreaker requested ∧ key = registry.bareId .asc) := by
  by_cases needed : registry.NeedsTieBreaker requested
  · rw [breakTies_of_needsTieBreaker sorts needed]
    simp only [List.mem_append, List.mem_singleton, needed, true_and]
  · rw [breakTies_of_not_needsTieBreaker sorts needed]
    simp only [needed, false_and, or_false]

/-- The keys of a request are executable, but for the bare one, which only some requests put. -/
theorem isExecutable_or_bareId
    (sorts :
      List.Forall₂ (SortField.SortsBy registry) (registry.appliedSort requested) keys)
    (member : key ∈ registry.breakTies keys) :
    key.IsExecutable registry ∨
      (registry.PutsBareId requested ∧ ∃ direction, key = registry.bareId direction) := by
  obtain resolved | ⟨needed, tieBreaker⟩ := (mem_breakTies_iff sorts).mp member
  case inl =>
      obtain ⟨sort, sortMember, sortsBy⟩ := exists_left_of_forall₂ sorts resolved
      refine (isExecutable_or_bareId_of_sortsBy sortsBy).imp_right ?_
      rintro ⟨undeclared, isId, bare⟩
      exact ⟨.inr ⟨undeclared, sort, sortMember, isId⟩, _, bare⟩
  case inr =>
      exact .inr ⟨.inl needed, _, tieBreaker⟩

/-- A request that puts a bare key gets one. -/
theorem exists_bareId_of_putsBareId
    (sorts :
      List.Forall₂ (SortField.SortsBy registry) (registry.appliedSort requested) keys)
    (puts : registry.PutsBareId requested) :
    ∃ direction, registry.bareId direction ∈ registry.breakTies keys := by
  obtain needed | ⟨undeclared, sort, member, isId⟩ := puts
  case inl =>
      exact ⟨.asc, (mem_breakTies_iff sorts).mpr (.inr ⟨needed, rfl⟩)⟩
  case inr =>
      obtain ⟨key, keyMember, sortsBy⟩ := exists_right_of_forall₂ sorts member
      obtain rfl := eq_bareId_of_sortsBy undeclared isId sortsBy
      exact ⟨sort.direction, (mem_breakTies_iff sorts).mpr (.inl keyMember)⟩

/--
All keys of a page can be executed exactly if the request puts no bare key on the
identifying path, or such a key is enough there.  Every other key can.
-/
theorem page_keys_executable_iff
    {settings : PageSettings}
    {request : PageRequest}
    {page : Page}
    (pages : registry.page settings requested request = .ok page) :
    (∀ key ∈ page.sort,
        key.IsExecutable registry ∨
          (registry.PutsBareId requested ∧ ∃ direction, key = registry.bareId direction)) ∧
      ((∀ key ∈ page.sort, key.IsExecutable registry) ↔
        (registry.PutsBareId requested → registry.AdmitsBareId)) := by
  obtain ⟨-, sortsPage⟩ := page_eq_ok_iff.mp pages
  obtain ⟨resolved, sorts, ended⟩ := sortKeys_eq_ok_iff.mp sortsPage
  rw [← ended]
  refine ⟨fun key => isExecutable_or_bareId sorts, ?_, ?_⟩
  · intro executable puts
    obtain ⟨direction, member⟩ := exists_bareId_of_putsBareId sorts puts
    exact isExecutable_bareId_iff.mp (executable _ member)
  · intro bareIfPut key member
    obtain executable | ⟨puts, direction, rfl⟩ := isExecutable_or_bareId sorts member
    · exact executable
    · exact isExecutable_bareId_iff.mpr (bareIfPut puts)

end Registry

/-- Cases that are identified by one of their donors. -/
def donorType : DocumentType where
  name := "cases"
  project := "demo"
  index := "cases"
  fields := [
    { name := "donors", sourcePath := none, type := .nested, displayValues := none },
    { name := "donors__id", sourcePath := none, type := .keyword, displayValues := none }]
  defaultSort := []
  idField := "donors__id"

/-- The registry of cases that are identified by a donor. -/
def donorRegistry : Registry where
  documentType := donorType
  wellFormed := ⟨by decide +kernel, by decide +kernel, by decide +kernel⟩

/-- The first page of cases by the identity of a donor, under some nested fields. -/
def casesByDonor (nested : List String) : Page where
  sort := [{ field := "donors.id", direction := .asc, nested := nested }]
  start := 0
  size := 20

/-- Where the identity of a donor is asked for, it is sorted by inside the donors. -/
theorem requested_donor_keys_executable :
    let byDonor : List SortField := [{ field := "donors__id", direction := .asc }]
    donorRegistry.page .standard byDonor .standard = .ok (casesByDonor ["donors"]) ∧
      ¬donorRegistry.PutsBareId byDonor ∧
      ∀ key ∈ (casesByDonor ["donors"]).sort, key.IsExecutable donorRegistry := by
  intro byDonor
  have pages :
      donorRegistry.page .standard byDonor .standard = .ok (casesByDonor ["donors"]) := by
    decide +kernel
  have putsNone : ¬donorRegistry.PutsBareId byDonor := by
    decide +kernel
  exact ⟨pages, putsNone,
    (Registry.page_keys_executable_iff pages).2.mpr fun puts => absurd puts putsNone⟩

/-- Where nothing is asked for, it is sorted by outside them. -/
theorem default_donor_keys_not_executable :
    donorRegistry.page .standard [] .standard = .ok (casesByDonor []) ∧
      ¬∀ key ∈ (casesByDonor []).sort, key.IsExecutable donorRegistry := by
  refine ⟨by decide +kernel, ?_⟩
  intro executable
  obtain ⟨field, found, nested⟩ :
      ∃ field, donorRegistry.fieldAt? "donors.id" = some field ∧ field.nested = ["donors"] :=
    ⟨_, rfl, rfl⟩
  obtain ⟨member, samePath⟩ := Registry.fieldAt?_eq_some_iff.mp found
  obtain ⟨-, -, sameNested⟩ :=
    executable { field := "donors.id", direction := .asc, nested := [] } (by simp [casesByDonor])
      field member samePath
  rw [nested] at sameNested
  cases sameNested

end FacetSearch
