import FacetSearch.Proofs.Schema.Indexing
import FacetSearch.Proofs.Search.SortableKeys
import FacetSearch.Proofs.Search.Window
import FacetSearch.Schema.Lint

namespace FacetSearch

/-!
# What the linter promises

A document type without issues has a registry, in which every parent of a path is
a declared container and the default sort resolves.  The other way round, the
linter and pages agree on every default sort but one: a sort by the identifying
field where that is not declared is reported, and resolves.
-/

theorem FieldType.isContainer_eq_true_iff
    {type : FieldType} :
    type.isContainer = true ↔ type = .nested ∨ type = .object := by
  cases type <;> simp [isContainer]

/-- An issue is about a default sort. -/
def LintIssue.concernsSort : LintIssue → Bool
  | .sortOnText _ | .sortOnContainer _ | .sortUndeclared _ => true
  | _ => false

namespace Lint

variable {registry : Registry} {sort : SortField} {issue : LintIssue}

theorem parentIssue_eq_none_iff
    {field parent : String} :
    parentIssue registry field parent = none ↔
      ∃ container, registry.fieldAt? parent = some container ∧ container.type.isContainer = true := by
  rw [parentIssue]
  cases registry.fieldAt? parent with
  | none =>
      simp
  | some container =>
      simp

theorem sortIssue_of_declared
    {field : Field}
    (found : registry.field? sort.field = some field) :
    sortIssue registry sort = none ↔ field.type.isSortable = true := by
  rw [FieldType.isSortable_eq_true_iff]
  simp only [sortIssue, found]
  split_ifs <;> simp_all

theorem sortIssue_of_undeclared
    (undeclared : registry.field? sort.field = none) :
    sortIssue registry sort = some (.sortUndeclared sort.field) := by
  simp only [sortIssue, undeclared]

/-- Of a declared field it is never reported that it is undeclared. -/
theorem sortIssue_eq_sortUndeclared_iff
    {name : String} :
    sortIssue registry sort = some (.sortUndeclared name) ↔
      registry.field? sort.field = none ∧ sort.field = name := by
  cases found : registry.field? sort.field with
  | none =>
      simp [sortIssue_of_undeclared found]
  | some field =>
      simp only [sortIssue, found]
      split_ifs <;> simp

/--
A default sort resolves exactly if there is no issue with it, or none but that the
identifying field is not declared.
-/
theorem exists_sortsBy_iff :
    (∃ key, sort.SortsBy registry key) ↔
      ∀ issue,
        sortIssue registry sort = some issue →
          issue = .sortUndeclared registry.documentType.idField := by
  constructor
  · intro resolves issue reported
    rcases resolves with ⟨key, sorts⟩
    cases sorts with
    | declared found sortable =>
        rw [(sortIssue_of_declared found).mpr sortable] at reported
        cases reported
    | undeclaredId undeclared isId =>
        rw [sortIssue_of_undeclared undeclared, Option.some.injEq] at reported
        rw [← reported, isId]
  · intro onlyId
    cases found : registry.field? sort.field with
    | none =>
        have isId := onlyId _ (sortIssue_of_undeclared found)
        exact ⟨_, .undeclaredId found (LintIssue.sortUndeclared.inj isId)⟩
    | some field =>
        refine ⟨_, .declared found ((sortIssue_of_declared found).mp ?_)⟩
        -- An issue with a declared field would be that it is undeclared.
        cases reported : sortIssue registry sort with
        | none =>
            rfl
        | some issue =>
            obtain rfl := onlyId issue reported
            obtain ⟨undeclared, -⟩ := sortIssue_eq_sortUndeclared_iff.mp reported
            rw [found] at undeclared
            cases undeclared

theorem concernsSort_of_sortIssue
    (reported : sortIssue registry sort = some issue) :
    issue.concernsSort = true := by
  rw [sortIssue] at reported
  split at reported
  · obtain rfl := Option.some.inj reported
    rfl
  · split_ifs at reported
    all_goals
      obtain rfl := Option.some.inj reported
      rfl

theorem concernsSort_of_fieldIssue
    {field : Field}
    (reported : issue ∈ fieldIssues registry field) :
    issue.concernsSort = false := by
  rcases List.mem_append.mp reported with onParent | onLabels
  · obtain ⟨parent, -, isIssue⟩ := List.mem_filterMap.mp onParent
    rw [parentIssue] at isIssue
    split at isIssue
    · obtain rfl := Option.some.inj isIssue
      rfl
    · split_ifs at isIssue
      obtain rfl := Option.some.inj isIssue
      rfl
  · split_ifs at onLabels
    · obtain rfl := List.mem_singleton.mp onLabels
      rfl
    · cases onLabels

theorem concernsSort_of_outlineIssue
    {type : DocumentType}
    (reported : issue ∈ outlineIssues type) :
    issue.concernsSort = false := by
  rcases List.mem_append.mp reported with onIndex | onFields
  · split_ifs at onIndex
    · obtain rfl := List.mem_singleton.mp onIndex
      rfl
    · cases onIndex
  · split_ifs at onFields
    · obtain rfl := List.mem_singleton.mp onFields
      rfl
    · cases onFields

end Lint

namespace DocumentType

variable {type : DocumentType} {registry : Registry} {issue : LintIssue}

theorem lint_of_accepted
    (accepted : Registry.ofDocumentType type = .ok registry) :
    type.lint = Lint.outlineIssues type ++ Lint.registryIssues registry := by
  simp only [lint, accepted]

/-- The issues about default sorts are those of the single sorts. -/
theorem mem_lint_concernsSort_iff
    (accepted : Registry.ofDocumentType type = .ok registry) :
    issue ∈ type.lint ∧ issue.concernsSort = true ↔
      ∃ sort ∈ type.defaultSort, Lint.sortIssue registry sort = some issue := by
  rw [lint_of_accepted accepted]
  obtain rfl := Registry.ofDocumentType_eq_ok_iff.mp accepted
  constructor
  · intro onSorts
    rcases onSorts with ⟨reported, onSort⟩
    rcases List.mem_append.mp reported with onOutline | onRegistry
    · rw [Lint.concernsSort_of_outlineIssue onOutline] at onSort
      cases onSort
    · rcases List.mem_append.mp onRegistry with onFields | onSorts
      · obtain ⟨field, -, onField⟩ := List.mem_flatMap.mp onFields
        rw [Lint.concernsSort_of_fieldIssue onField] at onSort
        cases onSort
      · exact List.mem_filterMap.mp onSorts
  · intro ofSort
    rcases ofSort with ⟨sort, member, isIssue⟩
    have onSorts := List.mem_filterMap.mpr ⟨sort, member, isIssue⟩
    exact ⟨List.mem_append_right _ (List.mem_append_right _ onSorts),
      Lint.concernsSort_of_sortIssue isIssue⟩

/-- A default sort resolves exactly if all that is reported about it is an undeclared identity. -/
theorem exists_default_sortKeys_iff
    (accepted : Registry.ofDocumentType type = .ok registry) :
    (∃ keys, registry.sortKeys [] = .ok keys) ↔
      ∀ issue ∈ type.lint, issue.concernsSort = true → issue = .sortUndeclared type.idField := by
  have applied : registry.appliedSort [] = type.defaultSort := by
    rw [← Registry.ofDocumentType_eq_ok_iff.mp accepted]
    rfl
  rw [Registry.exists_sortKeys_iff, applied]
  simp only [Lint.exists_sortsBy_iff, Registry.ofDocumentType_eq_ok_iff.mp accepted]
  constructor
  · intro onlyId issue reported onSort
    obtain ⟨sort, member, isIssue⟩ :=
      (mem_lint_concernsSort_iff accepted).mp ⟨reported, onSort⟩
    exact onlyId sort member issue isIssue
  · intro onlyId sort member issue isIssue
    obtain ⟨reported, onSort⟩ :=
      (mem_lint_concernsSort_iff accepted).mpr ⟨sort, member, isIssue⟩
    exact onlyId issue reported onSort

/-- A document type without issues is accepted, and there is none with its fields. -/
theorem exists_registry_of_lint_eq_nil
    (clean : type.lint = []) :
    ∃ registry,
      Registry.ofDocumentType type = .ok registry ∧ Lint.registryIssues registry = [] := by
  cases accepted : Registry.ofDocumentType type with
  | error failure =>
      simp [lint, accepted] at clean
  | ok registry =>
      rw [lint_of_accepted accepted] at clean
      exact ⟨registry, rfl, (List.append_eq_nil_iff.mp clean).2⟩

end DocumentType

namespace Registry

variable {registry : Registry} {field : Field}

/-- Where no issue is reported every parent of a path is a declared container. -/
theorem exists_container_of_registryIssues_eq_nil
    (clean : Lint.registryIssues registry = [])
    (declared : field ∈ registry.fields)
    {parent : String}
    (isParent : Path.IsParent parent field.path) :
    ∃ container ∈ registry.specs, container.path = parent ∧ container.type.isContainer = true := by
  have cleanField : Lint.fieldIssues registry field = [] :=
    List.flatMap_eq_nil_iff.mp (List.append_eq_nil_iff.mp clean).1 field declared
  have cleanParent : Lint.parentIssue registry field.name parent = none :=
    List.filterMap_eq_nil_iff.mp (List.append_eq_nil_iff.mp cleanField).1 parent
      (Path.mem_parents_iff.mpr isParent)
  obtain ⟨container, found, isContainer⟩ := Lint.parentIssue_eq_none_iff.mp cleanParent
  obtain ⟨member, placed⟩ := indexes_specs.placed parent container found
  exact ⟨container.spec, member, placed, isContainer⟩

/-- A declared parent is on the chain of a field exactly if it is nested. -/
theorem mem_nested_iff_of_declared
    (declared : field ∈ registry.fields)
    {container : FieldSpec}
    (member : container ∈ registry.specs)
    (isParent : Path.IsParent container.path field.path) :
    container.path ∈ field.nested ↔ container.type = .nested := by
  rw [mem_nested_iff declared]
  constructor
  · intro onChain
    rcases onChain with ⟨-, spec, specMember, samePath, isNested⟩
    rwa [← List.inj_on_of_nodup_map registry.wellFormed.pathsNodup specMember member samePath]
  · intro isNested
    exact ⟨isParent, container, member, rfl, isNested⟩

end Registry

namespace DocumentType

/--
A document type without issues has a registry.  In it every parent of a path is a declared
container, which is on the chain of the field if it is nested and is a plain object
otherwise.  And every page of its default sort is given whose window is within the limits.
-/
theorem guarantees_of_lint_eq_nil
    {type : DocumentType}
    (clean : type.lint = []) :
    ∃ registry,
      Registry.ofDocumentType type = .ok registry ∧
        (∀ field ∈ registry.fields, ∀ parent,
          Path.IsParent parent field.path →
            ∃ container ∈ type.fields,
              container.path = parent ∧
                (container.type = .nested ∧ parent ∈ field.nested ∨
                  container.type = .object ∧ parent ∉ field.nested)) ∧
        ∀ settings (request : PageRequest),
          request.IsWithin settings →
            ∃ page, registry.page settings [] request = .ok page := by
  obtain ⟨registry, accepted, cleanFields⟩ := exists_registry_of_lint_eq_nil clean
  refine ⟨registry, accepted, ?_, ?_⟩
  · obtain rfl := Registry.ofDocumentType_eq_ok_iff.mp accepted
    intro field declared parent isParent
    obtain ⟨container, member, rfl, isContainer⟩ :=
      Registry.exists_container_of_registryIssues_eq_nil cleanFields declared isParent
    have onChain := Registry.mem_nested_iff_of_declared declared member isParent
    refine ⟨container, member, rfl, ?_⟩
    rcases FieldType.isContainer_eq_true_iff.mp isContainer with isNested | isObject
    · exact .inl ⟨isNested, onChain.mpr isNested⟩
    · exact .inr ⟨isObject, fun isOn => by simp [onChain.mp isOn] at isObject⟩
  · intro settings request within
    have sorts : ∃ keys, registry.sortKeys [] = .ok keys :=
      (exists_default_sortKeys_iff accepted).mpr (by simp [clean])
    exact Registry.exists_page_iff.mpr ⟨within, sorts⟩

end DocumentType

/-- Cases with donors, of whom there are samples, and sorted by the size of those. -/
def sampleType : DocumentType where
  name := "cases"
  project := "demo"
  index := "cases"
  fields := [
    { name := "donors__sample__size", sourcePath := none, type := .double, displayValues := none },
    { name := "donors__sample", sourcePath := none, type := .object, displayValues := none },
    { name := "donors", sourcePath := none, type := .nested, displayValues := none }]
  defaultSort := [{ field := "donors__sample__size", direction := .desc }]
  idField := DocumentType.defaultIdField

/-- The size of a sample, which lies under the donors but not under the samples. -/
def sampleSize : Field where
  spec :=
    { name := "donors__sample__size", sourcePath := none, type := .double, displayValues := none }
  path := "donors.sample.size"
  nested := ["donors"]

theorem isWithin_standard : PageRequest.standard.IsWithin .standard :=
  ⟨by decide, by decide, by decide, by decide⟩

/-- The sample is a plain object above its size, and the default page is given. -/
theorem guarantees_of_sampleType :
    sampleType.lint = [] ∧
      ∃ registry,
        Registry.ofDocumentType sampleType = .ok registry ∧
          sampleSize ∈ registry.fields ∧
          Path.IsParent "donors.sample" sampleSize.path ∧
          (∃ container ∈ sampleType.fields,
            container.path = "donors.sample" ∧ container.type = .object) ∧
          ∃ page, registry.page .standard [] .standard = .ok page := by
  have clean : sampleType.lint = [] := by
    decide +kernel
  obtain ⟨registry, accepted, parents, pages⟩ := DocumentType.guarantees_of_lint_eq_nil clean
  have same := Registry.ofDocumentType_eq_ok_iff.mp accepted
  have declared : sampleSize ∈ registry.fields := by
    rw [Registry.fields, Registry.specs, same]
    decide +kernel
  have isParent : Path.IsParent "donors.sample" sampleSize.path := ⟨"size", rfl⟩
  obtain ⟨container, member, placed, onChain⟩ := parents _ declared _ isParent
  have isObject : container.type = .object := by
    rcases onChain with ⟨-, isOn⟩ | ⟨isObject, -⟩
    · simp [sampleSize] at isOn
    · exact isObject
  exact ⟨clean, registry, accepted, declared, isParent, ⟨container, member, placed, isObject⟩,
    pages _ _ isWithin_standard⟩

namespace DocumentType

/--
A page of the default sort, in a window within the limits, is given exactly if the one
thing that the linter reports about default sorts is that the identifying field is not
declared.  And that is reported exactly if it is not and a default sort is by it.
-/
theorem default_page_iff_sort_issues
    {type : DocumentType}
    {registry : Registry}
    {settings : PageSettings}
    {request : PageRequest}
    (accepted : Registry.ofDocumentType type = .ok registry)
    (within : request.IsWithin settings) :
    ((∃ page, registry.page settings [] request = .ok page) ↔
        ∀ issue ∈ type.lint,
          issue.concernsSort = true → issue = .sortUndeclared type.idField) ∧
      (LintIssue.sortUndeclared type.idField ∈ type.lint ↔
        registry.field? type.idField = none ∧
          ∃ sort ∈ type.defaultSort, sort.field = type.idField) := by
  constructor
  · rw [Registry.exists_page_iff, exists_default_sortKeys_iff accepted]
    exact and_iff_right within
  · have reported :
        LintIssue.sortUndeclared type.idField ∈ type.lint ↔
          LintIssue.sortUndeclared type.idField ∈ type.lint ∧
            (LintIssue.sortUndeclared type.idField).concernsSort = true :=
      (and_iff_left rfl).symm
    rw [reported, mem_lint_concernsSort_iff accepted]
    simp only [Lint.sortIssue_eq_sortUndeclared_iff]
    constructor
    · rintro ⟨sort, member, undeclared, isId⟩
      exact ⟨isId ▸ undeclared, sort, member, isId⟩
    · rintro ⟨undeclared, sort, member, isId⟩
      exact ⟨sort, member, isId ▸ undeclared, isId⟩

end DocumentType

/-- Cases that are sorted by some fields unless a request says otherwise. -/
def sortedCaseType (names : List String) : DocumentType :=
  { caseType with defaultSort := names.map fun name => { field := name, direction := .desc } }

/-- The registry of cases that are sorted by some fields. -/
def sortedCaseRegistry (names : List String) : Registry where
  documentType := sortedCaseType names
  wellFormed := caseRegistry.wellFormed.of_perm (.refl _)

/-- Sorted by donors no page is given, for what is reported about those. -/
theorem default_page_of_donors_refused :
    Registry.ofDocumentType (sortedCaseType ["_id", "donors"]) =
        .ok (sortedCaseRegistry ["_id", "donors"]) ∧
      PageRequest.standard.IsWithin .standard ∧
      (¬∃ page,
          (sortedCaseRegistry ["_id", "donors"]).page .standard [] .standard = .ok page) ∧
      LintIssue.sortUndeclared "_id" ∈ (sortedCaseType ["_id", "donors"]).lint := by
  have accepted :
      Registry.ofDocumentType (sortedCaseType ["_id", "donors"]) =
        .ok (sortedCaseRegistry ["_id", "donors"]) :=
    Registry.ofDocumentType_eq_ok_iff.mpr rfl
  obtain ⟨pages, undeclaredId⟩ :=
    DocumentType.default_page_iff_sort_issues accepted isWithin_standard
  refine ⟨accepted, isWithin_standard, ?_, ?_⟩
  · rw [pages]
    intro onlyId
    have reported :
        LintIssue.sortOnContainer "donors" ∈ (sortedCaseType ["_id", "donors"]).lint := by
      decide +kernel
    cases onlyId _ reported rfl
  · exact undeclaredId.mpr ⟨rfl, _, List.mem_cons_self, rfl⟩

/-- Sorted by identities that are not declared the default page is given, and an issue reported. -/
theorem default_page_of_undeclared_id_reported :
    Registry.ofDocumentType (sortedCaseType ["_id"]) = .ok (sortedCaseRegistry ["_id"]) ∧
      PageRequest.standard.IsWithin .standard ∧
      (sortedCaseRegistry ["_id"]).page .standard [] .standard =
        .ok {
          sort := [{ field := "_id", direction := .desc, nested := [] }]
          start := 0
          size := 20 } ∧
      (sortedCaseType ["_id"]).lint = [.sortUndeclared "_id"] ∧
      (LintIssue.sortUndeclared "_id").concernsSort = true :=
  ⟨Registry.ofDocumentType_eq_ok_iff.mpr rfl, isWithin_standard, by decide +kernel,
    by decide +kernel, rfl⟩

end FacetSearch
