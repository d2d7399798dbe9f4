import FacetSearch.Proofs.Encoding

namespace FacetSearch.Json

/-!
# Normal values

A value is normal when the members of its objects are sorted and each of them
is given once, at every level.  Values that are decoded keep their members so,
and bringing any value into that form twice changes nothing more.
-/

theorem map_eq_self_iff
    {α : Type}
    {change : α → α}
    {items : List α} :
    items.map change = items ↔ ∀ item ∈ items, change item = item := by
  simpa using @List.map_inj_left _ _ items change id

/-- The members of every object are sorted, and each is given once. -/
def IsNormal (value : Json) : Prop :=
  value.normalize = value

instance : DecidablePred IsNormal :=
  fun value => decEq value.normalize value

@[simp] theorem normalize_bool
    (value : Bool) :
    (bool value).normalize = bool value :=
  rfl

@[simp] theorem normalize_nat
    (value : Nat) :
    (nat value).normalize = nat value :=
  rfl

@[simp] theorem normalize_string
    (text : String) :
    (string text).normalize = string text :=
  rfl

theorem isNormal_array_iff
    {items : List Json} :
    (array items).IsNormal ↔ ∀ item ∈ items, item.IsNormal := by
  rw [IsNormal, normalize, normalizeItems_eq_map, array.injEq]
  exact map_eq_self_iff

theorem sorted_map_normalize_iff
    {members : List (String × Json)} :
    Entries.Sorted (members.map (Prod.map id normalize)) ↔ Entries.Sorted members :=
  List.pairwise_map

theorem sorted_normalizeMembers
    {members : List (String × Json)} :
    Entries.Sorted (normalizeMembers members []) := by
  rw [normalizeMembers_eq_insertAll]
  exact Entries.Sorted.insertAll List.Pairwise.nil

/-- Members may be picked by name before they are normalized, or afterwards. -/
theorem filter_normalizeMembers
    (members : List (String × Json))
    (passes : String → Bool) :
    ((normalizeMembers members []).filter fun member => passes member.1) =
      normalizeMembers (members.filter fun member => passes member.1) [] := by
  rw [normalizeMembers_eq_insertAll, normalizeMembers_eq_insertAll, ← Entries.ofList,
    Entries.filter_ofList, List.filter_map]
  rfl

/-- Sorted members are normalized in their places. -/
theorem normalizeMembers_of_sorted
    {members : List (String × Json)}
    (sorted : Entries.Sorted members) :
    normalizeMembers members [] = members.map (Prod.map id normalize) := by
  rw [normalizeMembers_eq_insertAll]
  exact Entries.ofList_of_sorted (sorted_map_normalize_iff.mpr sorted)

theorem map_normalize_eq_self_iff
    {members : List (String × Json)} :
    members.map (Prod.map id normalize) = members ↔
      ∀ member ∈ members, member.2.IsNormal := by
  rw [map_eq_self_iff]
  simp [Prod.ext_iff, IsNormal]

theorem isNormal_object_iff
    {members : List (String × Json)} :
    (object members).IsNormal ↔
      Entries.Sorted members ∧ ∀ member ∈ members, member.2.IsNormal := by
  rw [IsNormal, normalize, object.injEq]
  constructor
  · intro normal
    have sorted : Entries.Sorted members := normal ▸ sorted_normalizeMembers
    rw [normalizeMembers_of_sorted sorted] at normal
    exact ⟨sorted, map_normalize_eq_self_iff.mp normal⟩
  · rintro ⟨sorted, membersNormal⟩
    rw [normalizeMembers_of_sorted sorted]
    exact map_normalize_eq_self_iff.mpr membersNormal

mutual
/-- Normalizing gives a normal value. -/
theorem isNormal_normalize :
    ∀ value : Json, value.normalize.IsNormal
  | .null | .bool _ | .number _ | .string _ => rfl
  | .array items => by
      rw [normalize, isNormal_array_iff, normalizeItems_eq_map, List.forall_mem_map]
      exact forall_isNormal_normalize_items items
  | .object members => by
      rw [normalize, isNormal_object_iff]
      refine ⟨sorted_normalizeMembers, ?_⟩
      intro member inNormalized
      rw [normalizeMembers_eq_insertAll] at inNormalized
      rcases Entries.mem_of_mem_insertAll inNormalized with isNormalized | inNone
      · obtain ⟨given, inMembers, rfl⟩ := List.mem_map.mp isNormalized
        exact forall_isNormal_normalize_members members given inMembers
      · cases inNone

theorem forall_isNormal_normalize_items :
    ∀ (items : List Json), ∀ item ∈ items, item.normalize.IsNormal
  | [] => by
      simp
  | item :: rest =>
      List.forall_mem_cons.mpr
        ⟨isNormal_normalize item, forall_isNormal_normalize_items rest⟩

theorem forall_isNormal_normalize_members :
    ∀ (members : List (String × Json)), ∀ member ∈ members, member.2.normalize.IsNormal
  | [] => by
      simp
  | (_, value) :: rest =>
      List.forall_mem_cons.mpr
        ⟨isNormal_normalize value, forall_isNormal_normalize_members rest⟩
end

@[simp] theorem isNull_normalize
    (value : Json) :
    value.normalize.isNull = value.isNull := by
  cases value <;> rfl

/-- A value that a member can be given: normal, and not the `null` that stands for none. -/
structure IsGiven (value : Json) : Prop where
  normal : value.IsNormal
  notNull : value.isNull = false

section Height

theorem height_pos
    (value : Json) :
    0 < value.height := by
  cases value <;> simp [height]

theorem height_singleton
    (name : String)
    (value : Json) :
    (object [(name, value)]).height = value.height + 1 := by
  simp [height, heightOfMembers]

theorem heightOfItems_le_iff
    {items : List Json}
    {bound : Nat} :
    heightOfItems items ≤ bound ↔ ∀ item ∈ items, item.height ≤ bound := by
  induction items with
  | nil =>
      simp [heightOfItems]
  | cons item rest inductionHypothesis =>
      rw [heightOfItems, Nat.max_le, inductionHypothesis, List.forall_mem_cons]

theorem heightOfMembers_le_iff
    {members : List (String × Json)}
    {bound : Nat} :
    heightOfMembers members ≤ bound ↔ ∀ member ∈ members, member.2.height ≤ bound := by
  induction members with
  | nil =>
      simp [heightOfMembers]
  | cons member rest inductionHypothesis =>
      rw [heightOfMembers, Nat.max_le, inductionHypothesis, List.forall_mem_cons]

/-- An item is lower than its array. -/
theorem height_lt_of_mem_items
    {items : List Json}
    {item : Json}
    (member : item ∈ items) :
    item.height < (array items).height := by
  rw [height]
  exact Nat.lt_succ_of_le (heightOfItems_le_iff.mp (Nat.le_refl _) item member)

/-- A member is lower than its object. -/
theorem height_lt_of_mem_members
    {members : List (String × Json)}
    {member : String × Json}
    (isMember : member ∈ members) :
    member.2.height < (object members).height := by
  rw [height]
  exact Nat.lt_succ_of_le (heightOfMembers_le_iff.mp (Nat.le_refl _) member isMember)

end Height

end FacetSearch.Json
