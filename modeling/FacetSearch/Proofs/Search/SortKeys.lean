import FacetSearch.Proofs.Indexed
import FacetSearch.Proofs.Record.Decoding
import FacetSearch.Proofs.Sqon.LeafOutcome
import FacetSearch.Search.Page

namespace FacetSearch

/-!
# The keys of a page

Every requested sort gives one key, on the path of its field.  Behind the last
one a key on the identifying path is put, unless that is where the sort ends
already.
-/

namespace Registry

variable {registry : Registry}

/-- The path that a name stands for; a name that is not declared stands for itself. -/
def pathOf
    (registry : Registry)
    (name : String) :
    String :=
  match registry.field? name with
  | some field => field.path
  | none => name

/-- The sort that is applied to a request: the default one where it asks for none. -/
def appliedSort
    (registry : Registry)
    (requested : List SortField) :
    List SortField :=
  if requested.isEmpty then registry.documentType.defaultSort else requested

/-- The sort that is applied to a request does not end on the identifying path. -/
def NeedsTieBreaker
    (registry : Registry)
    (requested : List SortField) :
    Prop :=
  (registry.appliedSort requested).getLast?.map (fun sort => registry.pathOf sort.field) ≠
    some registry.idPath

instance (requested : List SortField) : Decidable (registry.NeedsTieBreaker requested) :=
  inferInstanceAs (Decidable (_ ≠ _))

/-- The key on the identifying path alone, without a look at what is declared there. -/
def bareId
    (registry : Registry)
    (direction : SortDirection) :
    SortKey where
  field := registry.idPath
  direction := direction
  nested := []

end Registry

namespace SortField

variable {registry : Registry} {sort : SortField} {key : SortKey}

/--
The key that a requested sort gives: on the path of its field, with the nested
fields around it, or on the identifying field where that is not declared.
-/
inductive SortsBy
    (registry : Registry)
    (sort : SortField) :
    SortKey → Prop where
  | declared {field : Field} :
      registry.field? sort.field = some field →
      field.type.isSortable = true →
      SortsBy registry sort
        { field := field.path, direction := sort.direction, nested := field.nested }
  | undeclaredId :
      registry.field? sort.field = none →
      sort.field = registry.documentType.idField →
      SortsBy registry sort
        { field := sort.field, direction := sort.direction, nested := [] }

/-- What a sort gives does not depend on its position, which only errors show. -/
theorem resolve_eq_ok_iff
    {position : Nat} :
    sort.resolve registry position = .ok key ↔ sort.SortsBy registry key := by
  rw [resolve]
  constructor
  · intro resolves
    split at resolves
    case isTrue bare =>
        obtain ⟨isId, undeclared⟩ := bare
        obtain rfl := Except.ok.inj resolves
        rw [← isId]
        exact .undeclaredId (isId ▸ undeclared) isId
    case isFalse =>
        split at resolves
        · cases resolves
        case h_2 field found =>
            split at resolves
            case isTrue sortable =>
                obtain rfl := Except.ok.inj resolves
                exact .declared (Registry.resolve_eq_ok_iff.mp found) sortable
            case isFalse =>
                cases resolves
  · intro sorts
    cases sorts with
    | declared found sortable =>
        have notBare :
            ¬(sort.field = registry.documentType.idField ∧
              registry.field? registry.documentType.idField = none) := by
          rintro ⟨isId, undeclared⟩
          rw [isId, undeclared] at found
          cases found
        simp only [notBare, if_false, Registry.resolve_eq_ok_iff.mpr found, sortable, if_true]
    | undeclaredId undeclared isId =>
        simp only [isId, isId ▸ undeclared, and_self, if_true]

/-- A key is on the path of the field that its sort names, in the requested direction. -/
theorem SortsBy.path_and_direction
    (sorts : sort.SortsBy registry key) :
    (key.field, key.direction) = (registry.pathOf sort.field, sort.direction) := by
  cases sorts with
  | declared found _ =>
      simp only [Registry.pathOf, found]
  | undeclaredId undeclared _ =>
      simp only [Registry.pathOf, undeclared]

end SortField

namespace Registry

variable {registry : Registry} {requested : List SortField} {keys : List SortKey}

theorem sortKeys_eq_ok_iff :
    registry.sortKeys requested = .ok keys ↔
      ∃ resolved,
        List.Forall₂ (SortField.SortsBy registry) (registry.appliedSort requested) resolved ∧
          registry.breakTies resolved = keys := by
  rw [sortKeys, Sqon.Compiler.map_eq_ok_iff]
  refine exists_congr fun resolved => and_congr_left fun _ => ?_
  constructor
  · intro traversed
    refine (Indexed.forall₂_of_traverseFrom traversed).imp ?_
    intro sort key resolves
    obtain ⟨position, resolvesAt⟩ := resolves
    exact SortField.resolve_eq_ok_iff.mp resolvesAt
  · intro sorts
    refine Indexed.traverseFrom_eq_ok_of_forall₂ (sorts.imp ?_)
    intro sort key sortsBy position
    exact SortField.resolve_eq_ok_iff.mpr sortsBy

/-- A sort resolves if everything in it does. -/
theorem exists_sortKeys_iff :
    (∃ keys, registry.sortKeys requested = .ok keys) ↔
      ∀ sort ∈ registry.appliedSort requested, ∃ key, sort.SortsBy registry key := by
  constructor
  · rintro ⟨keys, sorts⟩ sort member
    obtain ⟨resolved, pairs, -⟩ := sortKeys_eq_ok_iff.mp sorts
    obtain ⟨key, -, sortsBy⟩ := exists_right_of_forall₂ pairs member
    exact ⟨key, sortsBy⟩
  · intro each
    obtain ⟨resolved, pairs⟩ := exists_forall₂ each
    exact ⟨_, sortKeys_eq_ok_iff.mpr ⟨resolved, pairs, rfl⟩⟩

/-- A page has the requested window and the requested sort, neither of which knows the other. -/
theorem page_eq_ok_iff
    {settings : PageSettings}
    {request : PageRequest}
    {page : Page} :
    registry.page settings requested request = .ok page ↔
      request.window settings = .ok (page.start, page.size) ∧
        registry.sortKeys requested = .ok page.sort := by
  rw [Registry.page]
  constructor
  · intro pages
    split at pages
    · cases pages
    case h_2 start size window =>
        obtain ⟨sort, sorts, rfl⟩ := Sqon.Compiler.map_eq_ok_iff.mp pages
        exact ⟨window, sorts⟩
  · rintro ⟨window, sorts⟩
    simp only [window, sorts]
    rfl

/-- The keys of a sort are on the paths of its fields, in their order and directions. -/
theorem paths_of_sortsBy
    {fields : List SortField}
    (sorts : List.Forall₂ (SortField.SortsBy registry) fields keys) :
    keys.map (fun key => (key.field, key.direction)) =
      fields.map fun sort => (registry.pathOf sort.field, sort.direction) := by
  induction sorts with
  | nil =>
      rfl
  | cons first _ inductionHypothesis =>
      rw [List.map_cons, List.map_cons, first.path_and_direction, inductionHypothesis]

/-- Resolved keys end where the sort that they were resolved from does. -/
theorem getLast?_of_sortsBy
    {fields : List SortField}
    (sorts : List.Forall₂ (SortField.SortsBy registry) fields keys) :
    keys.getLast?.map SortKey.field =
      fields.getLast?.map fun sort => registry.pathOf sort.field := by
  have paths := congrArg (fun pairs => (pairs.map Prod.fst).getLast?) (paths_of_sortsBy sorts)
  simpa only [List.map_map, List.getLast?_map, Function.comp_def] using paths

/-- A key on the identifying path is added to a sort that does not end there. -/
theorem breakTies_of_needsTieBreaker
    (sorts :
      List.Forall₂ (SortField.SortsBy registry) (registry.appliedSort requested) keys)
    (needed : registry.NeedsTieBreaker requested) :
    registry.breakTies keys = keys ++ [registry.bareId .asc] := by
  rw [breakTies, if_neg]
  · rfl
  · rwa [getLast?_of_sortsBy sorts]

theorem breakTies_of_not_needsTieBreaker
    (sorts :
      List.Forall₂ (SortField.SortsBy registry) (registry.appliedSort requested) keys)
    (unneeded : ¬registry.NeedsTieBreaker requested) :
    registry.breakTies keys = keys := by
  rw [breakTies, if_pos]
  rw [getLast?_of_sortsBy sorts]
  exact not_not.mp unneeded

/-- Every sort ends on the identifying path. -/
theorem getLast?_breakTies :
    (registry.breakTies keys).getLast?.map SortKey.field = some registry.idPath := by
  rw [breakTies]
  split
  case isTrue ends =>
      exact ends
  case isFalse =>
      rw [List.getLast?_concat]
      rfl

end Registry

end FacetSearch
