import FacetSearch.Proofs.Schema.Ancestors
import FacetSearch.Proofs.Search.SortKeys
import Mathlib.Algebra.GroupWithZero.Nat
import Mathlib.Data.List.Pairwise

namespace FacetSearch

/-!
# The order of documents

An engine compares two documents by the keys of a page, one after the other.
The last key is always on the path that identifies a document, so documents of
different identities are never tied; then there is only one order that an
engine can find them in, and windows that follow each other show it in pieces, without
a gap and without an overlap.
-/

namespace SortDirection

/-- A comparison as it counts in a direction. -/
def orient : SortDirection → Ordering → Ordering
  | .asc, outcome => outcome
  | .desc, outcome => outcome.swap

theorem orient_eq_eq_iff
    {direction : SortDirection}
    {outcome : Ordering} :
    direction.orient outcome = .eq ↔ outcome = .eq := by
  cases direction <;> simp [orient]

/-- Turning a total preorder round makes another one. -/
theorem transCmp_orient
    {α : Type}
    {comparison : α → α → Ordering}
    [Std.TransCmp comparison]
    (direction : SortDirection) :
    Std.TransCmp fun left right => direction.orient (comparison left right) := by
  cases direction with
  | asc =>
      exact inferInstanceAs (Std.TransCmp comparison)
  | desc =>
      refine { eq_swap := ?_, isLE_trans := ?_ }
      · intro left right
        have swapped : comparison left right = (comparison right left).swap :=
          Std.OrientedCmp.eq_swap
        simp only [orient, swapped]
      · intro first second third
        simp only [orient, Ordering.isLE_swap]
        exact Std.TransCmp.isGE_trans

end SortDirection

/--
What an engine compares documents by.  A document may have any number of values
at a path, and what they are ranked by may depend on the direction, but single
values are ranked apart.
-/
structure DocumentRanking (δ ν κ : Type) where
  /-- The values of a document at a path. -/
  values : String → δ → List ν
  /-- What is compared for the values of one document. -/
  rank : SortDirection → List ν → κ
  rank_single :
    ∀ {direction value value'}, rank direction [value] = rank direction [value'] → value = value'

namespace DocumentRanking

variable {δ ν κ : Type} {ranking : DocumentRanking δ ν κ}

/-- Two documents with single values at a path, and different ones. -/
def TellsApart
    (ranking : DocumentRanking δ ν κ)
    (path : String)
    (left right : δ) :
    Prop :=
  ∃ value value',
    ranking.values path left = [value] ∧ ranking.values path right = [value'] ∧ value ≠ value'

instance {path : String} : Std.Symm (ranking.TellsApart path) where
  symm := by
    rintro left right ⟨value, value', single, single', differ⟩
    exact ⟨value', value, single', single, differ.symm⟩

theorem TellsApart.ne
    {path : String}
    {left right : δ}
    (apart : ranking.TellsApart path left right) :
    left ≠ right := by
  rintro rfl
  obtain ⟨value, value', single, single', differ⟩ := apart
  obtain rfl : value = value' := List.singleton_injective (single.symm.trans single')
  exact differ rfl

variable [Ord κ]

/-- Compare two documents by one key. -/
def compareBy
    (ranking : DocumentRanking δ ν κ)
    (key : SortKey)
    (left right : δ) :
    Ordering :=
  key.direction.orient
    (compare (ranking.rank key.direction (ranking.values key.field left))
      (ranking.rank key.direction (ranking.values key.field right)))

/-- Compare two documents by several keys: each one decides what the ones before it leave tied. -/
def compareAll
    (ranking : DocumentRanking δ ν κ) :
    List SortKey → δ → δ → Ordering
  | [], _, _ => .eq
  | key :: rest, left, right =>
      (ranking.compareBy key left right).then (ranking.compareAll rest left right)

/-- An order in which an engine may find documents: no later one comes before an earlier one. -/
structure Finds
    (ranking : DocumentRanking δ ν κ)
    (keys : List SortKey)
    (documents order : List δ) :
    Prop where
  perm : order.Perm documents
  respects : order.Pairwise fun left right => (ranking.compareAll keys left right).isLE

variable {keys : List SortKey} {key : SortKey} {left right : δ} {documents : List δ}

section Preorder

variable [Std.TransOrd κ]

instance : Std.TransCmp (ranking.compareBy key) :=
  have : Std.TransCmp fun left right : δ =>
      compare (ranking.rank key.direction (ranking.values key.field left))
        (ranking.rank key.direction (ranking.values key.field right)) :=
    inferInstanceAs
      (Std.TransCmp (compareOn fun document =>
        ranking.rank key.direction (ranking.values key.field document)))
  SortDirection.transCmp_orient key.direction

instance : Std.TransCmp (ranking.compareAll keys) := by
  induction keys with
  | nil =>
      exact { eq_swap := rfl, isLE_trans := fun _ _ => rfl }
  | cons key rest _ =>
      exact inferInstanceAs
        (Std.TransCmp (compareLex (ranking.compareBy key) (ranking.compareAll rest)))

/-- Documents can always be found in some order. -/
theorem exists_finds
    (ranking : DocumentRanking δ ν κ)
    (keys : List SortKey)
    (documents : List δ) :
    ∃ order, ranking.Finds keys documents order := by
  have total :
      ∀ left right,
        ((ranking.compareAll keys left right).isLE ||
          (ranking.compareAll keys right left).isLE) = true := by
    intro left right
    have swapped : ranking.compareAll keys right left = (ranking.compareAll keys left right).swap :=
      Std.OrientedCmp.eq_swap
    rw [swapped]
    cases ranking.compareAll keys left right <;> rfl
  exact
    ⟨documents.mergeSort fun left right => (ranking.compareAll keys left right).isLE,
      List.mergeSort_perm _ _,
      List.pairwise_mergeSort (fun _ _ _ => Std.TransCmp.isLE_trans) total documents⟩

end Preorder

variable [Std.LawfulEqOrd κ]

/-- A key on a path does not tie documents that the path tells apart. -/
theorem compareBy_ne_eq
    (apart : ranking.TellsApart key.field left right) :
    ranking.compareBy key left right ≠ .eq := by
  obtain ⟨value, value', single, single', differ⟩ := apart
  rw [compareBy, single, single', Ne, SortDirection.orient_eq_eq_iff]
  intro tied
  exact differ (ranking.rank_single (Std.LawfulEqOrd.eq_of_compare tied))

/-- Keys that end on a path do not tie documents that the path tells apart. -/
theorem compareAll_ne_eq
    {path : String}
    (ends : keys.getLast?.map SortKey.field = some path)
    (apart : ranking.TellsApart path left right) :
    ranking.compareAll keys left right ≠ .eq := by
  induction keys with
  | nil =>
      cases ends
  | cons key rest inductionHypothesis =>
      rw [compareAll]
      intro tied
      obtain ⟨firstTied, restTied⟩ := Ordering.then_eq_eq.mp tied
      cases rest with
      | nil =>
          obtain rfl : key.field = path := by simpa using ends
          exact compareBy_ne_eq apart firstTied
      | cons second others =>
          rw [List.getLast?_cons_cons] at ends
          exact inductionHypothesis ends restTied

/-- Where keys end on a path that tells documents apart, there is one order to find them in. -/
theorem Finds.unique
    [Std.TransOrd κ]
    {path : String}
    {order order' : List δ}
    (ends : keys.getLast?.map SortKey.field = some path)
    (apart : documents.Pairwise (ranking.TellsApart path))
    (finds : ranking.Finds keys documents order)
    (finds' : ranking.Finds keys documents order') :
    order = order' := by
  refine List.Perm.eq_of_pairwise ?_ finds.respects finds'.respects
    (finds.perm.trans finds'.perm.symm)
  intro left right leftMember rightMember notAfter notBefore
  by_contra differ
  have toldApart : ranking.TellsApart path left right :=
    apart.forall (finds.perm.mem_iff.mp leftMember) (finds'.perm.mem_iff.mp rightMember) differ
  exact compareAll_ne_eq ends toldApart (Std.OrientedCmp.isLE_antisymm notAfter notBefore)

end DocumentRanking

/-- A page, and the order in which the engine finds documents for it. -/
structure PageTurn (δ : Type) where
  page : Page
  found : List δ

namespace PageTurn

variable {δ : Type}

/-- The part of the found documents that is in the window of the page. -/
def shown (turn : PageTurn δ) : List δ :=
  (turn.found.drop turn.page.start.toNat).take turn.page.size.toNat

/-- Turns whose windows follow each other from a position on. -/
def Follow : Nat → List (PageTurn δ) → Prop
  | _, [] => True
  | position, turn :: rest =>
      turn.page.start.toNat = position ∧ Follow (position + turn.page.size.toNat) rest

/-- The number of documents that there is room for in the windows of turns. -/
def room (turns : List (PageTurn δ)) : Nat :=
  (turns.map fun turn => turn.page.size.toNat).sum

/-- Windows that follow each other show one list in pieces. -/
theorem flatMap_shown
    {turns : List (PageTurn δ)}
    {position : Nat}
    {order : List δ}
    (follow : Follow position turns)
    (finds : ∀ turn ∈ turns, turn.found = order) :
    turns.flatMap shown = (order.drop position).take (room turns) := by
  induction turns generalizing position with
  | nil =>
      simp [room]
  | cons turn rest inductionHypothesis =>
      obtain ⟨rfl, restFollow⟩ := follow
      obtain ⟨found, restFinds⟩ := List.forall_mem_cons.mp finds
      rw [List.flatMap_cons, inductionHypothesis restFollow restFinds, shown, found,
        ← List.drop_drop, ← List.take_add]
      rfl

end PageTurn

namespace Registry

/-- A turn answers a request with the given sort: with its page, and with the documents in order. -/
structure Answers
    {δ ν κ : Type}
    [Ord κ]
    (registry : Registry)
    (requested : List SortField)
    (ranking : DocumentRanking δ ν κ)
    (documents : List δ)
    (turn : PageTurn δ) :
    Prop where
  paged : ∃ settings request, registry.page settings requested request = .ok turn.page
  finds : ranking.Finds turn.page.sort documents turn.found

/--
The sort of a page orders documents totally.  It has a key for each field of
the requested sort, or of the default one where none is requested, and behind
them one on the identifying path exactly if the last of them is not there
already.  So no two documents with different single identities are tied, they
can be found in one order only, and requests whose windows follow each other
show a part of this order without repeating or skipping a document, although
the engine sorts for each of them anew.
-/
theorem page_orders_documents
    {registry : Registry}
    {settings : PageSettings}
    {requested : List SortField}
    {request : PageRequest}
    {page : Page}
    (pages : registry.page settings requested request = .ok page)
    {δ ν κ : Type}
    [Ord κ]
    [Std.TransOrd κ]
    [Std.LawfulEqOrd κ]
    (ranking : DocumentRanking δ ν κ) :
    page.sort.map (fun key => (key.field, key.direction)) =
        (registry.appliedSort requested).map
            (fun sort => (registry.pathOf sort.field, sort.direction)) ++
          (if registry.NeedsTieBreaker requested then [(registry.idPath, .asc)] else []) ∧
      page.sort.getLast?.map SortKey.field = some registry.idPath ∧
      Std.TransCmp (ranking.compareAll page.sort) ∧
      (∀ left right,
        ranking.TellsApart registry.idPath left right →
          ranking.compareAll page.sort left right ≠ .eq) ∧
      ∀ documents,
        documents.Pairwise (ranking.TellsApart registry.idPath) →
          ∃ order,
            ranking.Finds page.sort documents order ∧
              (∀ order', ranking.Finds page.sort documents order' → order' = order) ∧
              ∀ (turns : List (PageTurn δ)) position,
                (∀ turn ∈ turns, registry.Answers requested ranking documents turn) →
                  PageTurn.Follow position turns →
                    turns.flatMap PageTurn.shown =
                        (order.drop position).take (PageTurn.room turns) ∧
                      (turns.flatMap PageTurn.shown).Nodup ∧
                      (position = 0 →
                        documents.length ≤ PageTurn.room turns →
                          (turns.flatMap PageTurn.shown).Perm documents) := by
  obtain ⟨-, sorts⟩ := page_eq_ok_iff.mp pages
  obtain ⟨resolved, sortsBy, ended⟩ := sortKeys_eq_ok_iff.mp sorts
  have ends : page.sort.getLast?.map SortKey.field = some registry.idPath :=
    ended ▸ getLast?_breakTies
  refine ⟨?_, ends, inferInstance, fun _ _ => DocumentRanking.compareAll_ne_eq ends, ?_⟩
  · by_cases needed : registry.NeedsTieBreaker requested
    · rw [← ended, breakTies_of_needsTieBreaker sortsBy needed, List.map_append,
        paths_of_sortsBy sortsBy, if_pos needed]
      rfl
    · rw [← ended, breakTies_of_not_needsTieBreaker sortsBy needed, paths_of_sortsBy sortsBy,
        if_neg needed, List.append_nil]
  · intro documents apart
    obtain ⟨order, finds⟩ := ranking.exists_finds page.sort documents
    have unique : ∀ order', ranking.Finds page.sort documents order' → order' = order :=
      fun order' finds' => finds'.unique ends apart finds
    refine ⟨order, finds, unique, ?_⟩
    intro turns position answers follow
    -- The window of a request does not reach its sort, so all turns sort alike.
    have found : ∀ turn ∈ turns, turn.found = order := by
      intro turn member
      obtain ⟨⟨_, _, paged⟩, findsTurn⟩ := answers turn member
      have sameSort := (page_eq_ok_iff.mp paged).2.symm.trans sorts
      exact unique turn.found (Except.ok.inj sameSort ▸ findsTurn)
    have shown := PageTurn.flatMap_shown follow found
    have distinct : order.Nodup :=
      finds.perm.nodup_iff.mpr (apart.imp fun apart => apart.ne)
    rw [shown]
    refine ⟨rfl, distinct.sublist ((List.take_sublist _ _).trans (List.drop_sublist _ _)), ?_⟩
    rintro rfl enough
    rw [List.drop_zero, List.take_of_length_le (finds.perm.length_eq ▸ enough)]
    exact finds.perm

end Registry

/-- Cases as their identities and their statuses, by which they are ranked. -/
def rankedCases : DocumentRanking (String × String) String String where
  values := fun path document =>
    if path = "_id" then [document.1] else if path = "status" then [document.2] else []
  rank := fun _ values => values.headD ""
  rank_single := id

/-- Three cases, two of them with one status. -/
def threeCases : List (String × String) :=
  [("c1", "open"), ("c2", "closed"), ("c3", "open")]

/-- A page of two cases by their status. -/
def casesByStatus (start : UInt64) : Page where
  sort := [
    { field := "status", direction := .asc, nested := [] },
    { field := "_id", direction := .asc, nested := [] }]
  start := start
  size := 2

theorem two_pages_by_status_show_three_cases :
    let byStatus : List SortField := [{ field := "status", direction := .asc }]
    caseRegistry.page .standard byStatus { first := some 2, offset := none } =
        .ok (casesByStatus 0) ∧
      caseRegistry.page .standard byStatus { first := some 2, offset := some 2 } =
        .ok (casesByStatus 2) ∧
      rankedCases.Finds (casesByStatus 0).sort threeCases
        [("c2", "closed"), ("c1", "open"), ("c3", "open")] ∧
      ∀ found found',
        rankedCases.Finds (casesByStatus 0).sort threeCases found →
          rankedCases.Finds (casesByStatus 2).sort threeCases found' →
            (found.take 2 ++ (found'.drop 2).take 2).Perm threeCases := by
  intro byStatus
  have pages :
      caseRegistry.page .standard byStatus { first := some 2, offset := none } =
        .ok (casesByStatus 0) := by
    decide +kernel
  have nextPages :
      caseRegistry.page .standard byStatus { first := some 2, offset := some 2 } =
        .ok (casesByStatus 2) := by
    decide +kernel
  refine ⟨pages, nextPages, ⟨by decide, by decide +kernel⟩, ?_⟩
  intro found found' finds finds'
  have apart : threeCases.Pairwise (rankedCases.TellsApart caseRegistry.idPath) := by
    have values : ∀ document, rankedCases.values caseRegistry.idPath document = [document.1] :=
      fun _ => rfl
    simp [threeCases, DocumentRanking.TellsApart, values]
  obtain ⟨-, -, -, -, orders⟩ := Registry.page_orders_documents pages rankedCases
  obtain ⟨order, -, -, turns⟩ := orders threeCases apart
  obtain ⟨-, -, every⟩ :=
    turns [{ page := casesByStatus 0, found := found }, { page := casesByStatus 2, found := found' }]
      0
      (List.forall_mem_cons.mpr
        ⟨⟨⟨_, _, pages⟩, finds⟩, List.forall_mem_singleton.mpr ⟨⟨_, _, nextPages⟩, finds'⟩⟩)
      ⟨rfl, rfl, trivial⟩
  simpa [PageTurn.shown, casesByStatus] using every rfl (show 3 ≤ 4 by decide)

end FacetSearch
