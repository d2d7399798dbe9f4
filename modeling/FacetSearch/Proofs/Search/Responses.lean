import FacetSearch.Proofs.Json.Written
import FacetSearch.Proofs.Record.Decoding
import FacetSearch.Proofs.Schema.Ancestors
import FacetSearch.Search.Response

namespace FacetSearch

/-!
# What written responses carry

The fields of a record are written beside its id, and facets without a tag.
What is read back of a written response is the response itself, unless a field
named `id` was requested: its value takes the place of the id of the hit, and
what is read has no such field any more.
-/

open Encoding

namespace Json

/-- What an item contributes to its array is normal. -/
theorem isNormal_spliced
    {result : Option Json}
    (normal : ∀ value ∈ result, value.IsNormal) :
    ∀ value ∈ spliced result, value.IsNormal := by
  intro value member
  cases result with
  | none =>
      cases member
  | some result =>
      have resultNormal := normal result rfl
      cases result with
      | null =>
          cases member
      | array items =>
          exact isNormal_array_iff.mp resultNormal value member
      | bool | number | string | object =>
          obtain rfl := List.mem_singleton.mp member
          exact resultNormal

mutual
/-- Whatever a path leads to in a normal value is normal. -/
theorem isNormal_follow? :
    ∀ (segments : List String) (source : Json),
      source.IsNormal → ∀ value ∈ follow? segments source, value.IsNormal
  | [], .object members, normal => by
      rw [follow?]
      rintro value ⟨rfl⟩
      exact normal
  | segment :: rest, .object members, normal => by
      rw [follow?]
      exact isNormal_followMember? segment rest members (isNormal_object_iff.mp normal).2
  | [], .array items, normal => by
      rw [follow?]
      rintro value ⟨rfl⟩
      exact normal
  | segment :: rest, .array items, normal => by
      rw [follow?]
      rintro value ⟨rfl⟩
      exact isNormal_array_iff.mpr
        (isNormal_followItems (segment :: rest) items (isNormal_array_iff.mp normal))
  | segments, .null, _ | segments, .bool _, _ | segments, .number _, _
  | segments, .string _, _ => by
      cases segments with
      | nil =>
          rintro value ⟨rfl⟩
          rfl
      | cons =>
          rintro value ⟨⟩

theorem isNormal_followMember? :
    ∀ (segment : String) (rest : List String) (members : List (String × Json)),
      (∀ member ∈ members, member.2.IsNormal) →
        ∀ value ∈ followMember? segment rest members, value.IsNormal
  | _, _, [], _ => by
      rintro value ⟨⟩
  | segment, rest, (name, first) :: others, normal => by
      obtain ⟨firstNormal, othersNormal⟩ := List.forall_mem_cons.mp normal
      rw [followMember?]
      split
      · exact isNormal_follow? rest first firstNormal
      · exact isNormal_followMember? segment rest others othersNormal

theorem isNormal_followItems :
    ∀ (segments : List String) (items : List Json),
      (∀ item ∈ items, item.IsNormal) →
        ∀ value ∈ followItems segments items, value.IsNormal
  | _, [], _ => by
      simp [followItems]
  | segments, item :: rest, normal => by
      obtain ⟨itemNormal, restNormal⟩ := List.forall_mem_cons.mp normal
      rw [followItems, List.forall_mem_append]
      exact ⟨isNormal_spliced (isNormal_follow? segments item itemNormal),
        isNormal_followItems segments rest restNormal⟩
end

end Json

namespace Labels

mutual
/-- Putting labels in the place of values leaves a value normal. -/
theorem isNormal_display
    (labels : Labels) :
    ∀ value : Json, value.IsNormal → (display labels value).IsNormal
  | .array items, normal => by
      rw [display, Json.isNormal_array_iff]
      exact isNormal_displayAll labels items (Json.isNormal_array_iff.mp normal)
  | .null, _ => rfl
  | .bool _, normal | .number _, normal | .string _, normal | .object _, normal => by
      rw [display]
      split
      · rfl
      · exact normal
      all_goals simp

theorem isNormal_displayAll
    (labels : Labels) :
    ∀ items : List Json, (∀ item ∈ items, item.IsNormal) →
      ∀ item ∈ displayAll labels items, item.IsNormal
  | [], _ => by
      simp [displayAll]
  | item :: rest, normal => by
      obtain ⟨itemNormal, restNormal⟩ := List.forall_mem_cons.mp normal
      rw [displayAll, List.forall_mem_cons]
      exact ⟨isNormal_display labels item itemNormal,
        isNormal_displayAll labels rest restNormal⟩
end

end Labels

theorem Field.isNormal_valueIn
    (field : Field)
    {source : Json}
    (normal : source.IsNormal) :
    (field.valueIn source).IsNormal := by
  have rawNormal : ((source.extract? field.path).getD .null).IsNormal := by
    cases found : source.extract? field.path with
    | none =>
        rfl
    | some value =>
        exact Json.isNormal_follow? _ source normal value found
  rw [valueIn]
  split
  · exact Labels.isNormal_display _ _ rawNormal
  · exact rawNormal

namespace Record

/-- The fields of a record are sorted, and the values that they show are normal. -/
def IsNormal (record : Record) : Prop :=
  (Json.object record.fields).IsNormal

theorem isNormal_ofHit
    {fields : List Field}
    {hit : RawHit}
    (normal : hit.source.IsNormal) :
    (ofHit fields hit).IsNormal := by
  rw [IsNormal, Json.isNormal_object_iff, fields_ofHit]
  refine ⟨Entries.Sorted.insertAll List.Pairwise.nil, ?_⟩
  intro entry member
  rcases Entries.mem_of_mem_insertAll member with entered | inNone
  · obtain ⟨field, -, rfl⟩ := List.mem_map.mp entered
    exact field.isNormal_valueIn normal
  · cases inNone

section Written

variable {record : Record}

theorem ne_id_of_mem_fields
    (noId : "id" ∉ record.fields.map Prod.fst)
    {entry : String × Json}
    (member : entry ∈ record.fields) :
    entry.1 ≠ "id" := by
  intro same
  exact noId (List.mem_map.mpr ⟨entry, member, same⟩)

theorem slot?_id_toMembers
    (noId : "id" ∉ record.fields.map Prod.fst) :
    slot? record.toMembers ["id"] = some (some (.string record.id)) := by
  have noOther : record.fields.filter (fun entry => ["id"].contains entry.1) = [] := by
    rw [List.filter_eq_nil_iff]
    intro entry member
    simpa using ne_id_of_mem_fields noId member
  rw [slot?, toMembers, List.filter_cons_of_pos (by rfl), noOther]

theorem filter_ne_id_toMembers
    (noId : "id" ∉ record.fields.map Prod.fst) :
    record.toMembers.filter (fun member => member.1 != "id") = record.fields := by
  rw [toMembers, List.filter_cons_of_neg (by simp), List.filter_eq_self]
  intro entry member
  simpa using ne_id_of_mem_fields noId member

/-- A record without a field named `id` is read back. -/
theorem read?_toJson
    (normal : record.IsNormal)
    (noId : "id" ∉ record.fields.map Prod.fst) :
    read? record.toJson.normalize = some record := by
  have unchanged : Json.normalizeMembers record.fields [] = record.fields :=
    Json.object.inj normal
  have found := slot?_normalizeMembers (slot?_id_toMembers noId)
  have kept :
      (Json.normalizeMembers record.toMembers []).filter (fun member => member.1 != "id") =
        record.fields := by
    rw [Json.filter_normalizeMembers _ fun name => name != "id", filter_ne_id_toMembers noId,
      unchanged]
  rw [toJson, Json.normalize, read?]
  simp only [Json.members?, Option.bind_eq_bind, Option.bind_some, found, Option.map_some,
    Json.normalize_string, required, Json.text?, kept, unchanged]

/-- What is read of a record has no field named `id`. -/
theorem id_not_mem_of_read?
    {value : Json}
    (taken : read? value = some record) :
    "id" ∉ record.fields.map Prod.fst := by
  simp only [read?, Option.bind_eq_bind, Option.bind_eq_some_iff, Option.some.injEq] at taken
  obtain ⟨members, -, slot, -, id, -, rfl⟩ := taken
  rw [Json.normalizeMembers_eq_insertAll, Entries.mem_keys_insertAll]
  simp

/-- A written record shows a field under its name, and elsewhere only the id. -/
theorem get?_toJson
    (normal : record.IsNormal)
    (name : String) :
    record.toJson.normalize.get? name =
      (Entries.lookup? name record.fields).or
        (if "id" = name then some (.string record.id) else none) := by
  obtain ⟨sorted, values⟩ := Json.isNormal_object_iff.mp normal
  have entered :
      Json.normalizeMembers record.toMembers [] =
        Entries.insertAll record.fields [("id", .string record.id)] := by
    rw [Json.normalizeMembers_eq_insertAll, toMembers, List.map_cons]
    exact congrArg (fun fields => Entries.insertAll fields [("id", .string record.id)])
      (Json.map_normalize_eq_self_iff.mpr values)
  rw [toJson, Json.normalize, entered]
  exact Entries.lookup?_insertAll sorted.nodup

end Written

section Requested

variable
  {registry : Registry}
  {requested : List String}
  {fields : List Field}

theorem field?_of_resolveFields
    (resolved : resolveFields registry requested = .ok fields) :
    ∀ field ∈ fields, registry.field? field.name = some field := by
  intro field member
  obtain ⟨name, -, position, resolves⟩ :=
    exists_left_of_forall₂ (Indexed.forall₂_of_traverseFrom resolved) member
  have found := Registry.resolve_eq_ok_iff.mp resolves
  rwa [Registry.name_of_field? found]

/-- A record shows every requested field, as often as it may have been requested. -/
theorem lookup?_ofHit
    {hit : RawHit}
    (resolved : resolveFields registry requested = .ok fields)
    {field : Field}
    (member : field ∈ fields) :
    Entries.lookup? field.name (ofHit fields hit).fields = some (field.valueIn hit.source) := by
  cases found : Entries.lookup? field.name (ofHit fields hit).fields with
  | none =>
      have shown : Entries.HasKeys (ofHit fields hit).fields (fields.map Field.name) :=
        isOf_ofHit.fields
      have isShown := (shown.mem_iff field.name).mpr (List.mem_map_of_mem member)
      exact (Entries.lookup?_eq_none_iff.mp found isShown).elim
  | some value =>
      have entered := Entries.mem_of_lookup? found
      rw [fields_ofHit] at entered
      rcases Entries.mem_of_mem_insertAll entered with isValue | inNone
      · obtain ⟨other, otherMember, sameEntry⟩ := List.mem_map.mp isValue
        obtain ⟨sameName, rfl⟩ := Prod.mk.inj sameEntry
        -- A field that is requested twice is resolved to the same field both times.
        have sameField : some other = some field := by
          rw [← field?_of_resolveFields resolved other otherMember, sameName,
            field?_of_resolveFields resolved field member]
        rw [Option.some.inj sameField]
      · cases inNone

end Requested

end Record

section Facets

/-- The numbers that are given are finite. -/
structure Stats.IsFinite (stats : Stats) : Prop where
  min : ∀ number ∈ stats.min, number.isFinite = true
  max : ∀ number ∈ stats.max, number.isFinite = true
  avg : ∀ number ∈ stats.avg, number.isFinite = true
  sum : ∀ number ∈ stats.sum, number.isFinite = true

/-- The numbers of a result are finite. -/
def FacetResult.IsFinite : FacetResult → Prop
  | .buckets _ => True
  | .stats summary => summary.IsFinite

theorem Stats.optional_number
    {number : Option Binary64}
    (finite : ∀ value ∈ number, value.isFinite = true) :
    optional readNumber? (some (Stats.number number).normalize) = some number := by
  cases number with
  | none =>
      rfl
  | some value =>
      rw [Stats.number, if_pos (finite value rfl)]
      rfl

theorem Stats.read?_toJson
    {stats : Stats}
    (finite : stats.IsFinite) :
    Stats.read? stats.toJson.normalize = some stats := by
  have written :
      stats.toJson =
        .object (Json.given [
          ("count", some (.nat stats.count.toNat)),
          ("min", some (number stats.min)),
          ("max", some (number stats.max)),
          ("avg", some (number stats.avg)),
          ("sum", some (number stats.sum))]) :=
    rfl
  rw [written, read?, record?_given rfl]
  simp only [Json.normalize, Json.items?, Option.bind_eq_bind, Option.bind_some, List.map_cons,
    List.map_nil, Option.map_some, required, Json.normalize_nat, Json.unsigned64?_nat,
    optional_number finite.min, optional_number finite.max, optional_number finite.avg,
    optional_number finite.sum]

theorem FacetBucket.read?_toJson
    (bucket : FacetBucket) :
    FacetBucket.read? bucket.toJson.normalize = some bucket := by
  have written :
      bucket.toJson =
        .object (Json.given [
          ("key", some (.string bucket.key)), ("doc_count", some (.nat bucket.count.toNat))]) :=
    rfl
  rw [written, read?, record?_given rfl]
  simp only [List.map_cons, List.map_nil, Option.map_some, Json.normalize_string,
    Json.normalize_nat, Json.unsigned64?_nat, Option.bind_eq_bind, Option.bind_some, required,
    Encoding.text?, Json.text?]

/-- Buckets are an array and statistics an object, so neither is read as the other. -/
theorem FacetResult.read?_toJson
    {result : FacetResult}
    (finite : result.IsFinite) :
    FacetResult.read? result.toJson.normalize = some result := by
  cases result with
  | buckets entries =>
      have listed :
          listOf FacetBucket.read? (Json.array (entries.map FacetBucket.toJson)).normalize =
            some entries :=
        listOf_map_normalize fun bucket _ => bucket.read?_toJson
      rw [toJson, read?, listed]
  | stats summary =>
      have noList : listOf FacetBucket.read? summary.toJson.normalize = none := rfl
      have summaryFinite : summary.IsFinite := finite
      rw [toJson, read?, noList, Stats.read?_toJson summaryFinite]
      rfl

end Facets

namespace SearchResponse

variable
  {registry : Registry}
  {requested : List String}
  {fields : List Field}
  {total : UInt64}
  {hits : List RawHit}
  {facets : FacetResults}

/-- The response of decoded hits and facet results. -/
def ofHits
    (total : UInt64)
    (fields : List Field)
    (hits : List RawHit)
    (facets : FacetResults) :
    SearchResponse where
  total := total
  records := hits.map (Record.ofHit fields)
  facets := facets

theorem read?_of_records
    {response : SearchResponse}
    (sorted : Entries.Sorted response.facets)
    (finite : ∀ entry ∈ response.facets, entry.2.IsFinite)
    (records :
      ∀ record ∈ response.records, Record.read? record.toJson.normalize = some record) :
    read? response.toJson.normalize = some response := by
  have written :
      response.toJson =
        .object (Json.given [
          ("total", some (.nat response.total.toNat)),
          ("data", some (.array (response.records.map Record.toJson))),
          ("aggregations", some response.facets.toJson)]) :=
    rfl
  have data :
      listOf Record.read? (Json.array (response.records.map Record.toJson)).normalize =
        some response.records :=
    listOf_map_normalize records
  have facets :
      FacetResults.read? response.facets.toJson.normalize = some response.facets :=
    mapOf_map_normalize sorted fun entry member => FacetResult.read?_toJson (finite entry member)
  rw [written, read?, record?_given rfl]
  simp only [List.map_cons, List.map_nil, Option.map_some, Option.bind_eq_bind, Option.bind_some,
    required, Json.normalize_nat, Json.unsigned64?_nat, data, facets]

theorem exists_read_of_record
    {value : Json}
    {response : SearchResponse}
    (taken : read? value = some response) :
    ∀ record ∈ response.records, ∃ source, Record.read? source = some record := by
  obtain ⟨slots, -, takenSlots⟩ := Option.bind_eq_some_iff.mp taken
  split at takenSlots
  case h_1 total records facets =>
      simp only [Option.bind_eq_bind, Option.bind_eq_some_iff, Option.some.injEq] at takenSlots
      obtain ⟨total, -, records, takenRecords, facets, -, rfl⟩ := takenSlots
      obtain ⟨value, -, takenList⟩ := Option.bind_eq_some_iff.mp takenRecords
      exact exists_read_of_listOf takenList
  case h_2 =>
      cases takenSlots

/--
A written response is read back unless it has records with a field that is
requested under the name `id`.  Every written record shows every requested
field, and the id of its hit unless such a field stands in its place.
-/
theorem written_response_read_back_iff
    (resolved : Record.resolveFields registry requested = .ok fields)
    (sources : ∀ hit ∈ hits, hit.source.IsNormal)
    (sorted : Entries.Sorted facets)
    (finite : ∀ entry ∈ facets, entry.2.IsFinite) :
    (read? (ofHits total fields hits facets).toJson.normalize =
          some (ofHits total fields hits facets) ↔
        ("id" ∈ requested → hits = [])) ∧
      ∀ hit ∈ hits,
        (∀ field ∈ fields,
          (Record.ofHit fields hit).toJson.normalize.get? field.name =
            some (field.valueIn hit.source)) ∧
          ("id" ∉ requested →
            (Record.ofHit fields hit).toJson.normalize.get? "id" = some (.string hit.id)) := by
  have shown (hit : RawHit) : Entries.HasKeys (Record.ofHit fields hit).fields requested := by
    rw [← Record.names_of_resolveFields resolved]
    exact Record.isOf_ofHit.fields
  constructor
  · constructor
    · intro readBack isRequested
      apply List.eq_nil_iff_forall_not_mem.mpr
      intro hit member
      obtain ⟨source, taken⟩ :=
        exists_read_of_record readBack (Record.ofHit fields hit) (List.mem_map_of_mem member)
      exact Record.id_not_mem_of_read? taken (((shown hit).mem_iff "id").mpr isRequested)
    · intro noneIfRequested
      apply read?_of_records sorted finite
      intro record member
      obtain ⟨hit, hitMember, rfl⟩ := List.mem_map.mp member
      apply Record.read?_toJson (Record.isNormal_ofHit (sources hit hitMember))
      intro isShown
      have noHits := noneIfRequested (((shown hit).mem_iff "id").mp isShown)
      exact List.ne_nil_of_mem hitMember noHits
  · intro hit member
    have normal : (Record.ofHit fields hit).IsNormal :=
      Record.isNormal_ofHit (sources hit member)
    constructor
    · intro field fieldMember
      rw [Record.get?_toJson normal, Record.lookup?_ofHit resolved fieldMember]
      rfl
    · intro notRequested
      have notShown : Entries.lookup? "id" (Record.ofHit fields hit).fields = none := by
        rw [Entries.lookup?_eq_none_iff, (shown hit).mem_iff]
        exact notRequested
      rw [Record.get?_toJson normal, notShown]
      rfl

/-- An open case with a woman of forty among its donors. -/
def openCaseOfForty : RawHit where
  id := "a"
  source := .object [
    ("donors", .array [.object [("age", .nat 40), ("gender", .string "female")]]),
    ("status", .string "open")]

/-- The number forty. -/
def forty : Binary64 := ⟨0x4044000000000000⟩

example : Binary64.ofInt? 40 = some forty := by
  decide +kernel

/-- The ages of donors, of whom all are forty, and their genders. -/
def donorResults : FacetResults := [
  ("donors__age", .stats {
    count := 1, min := some forty, max := some forty, avg := none, sum := none }),
  ("donors__gender", .buckets [{ key := "female", count := 1 }])]

/-- The fields of the status and of the genders of donors. -/
def statusAndGenderFields : List Field :=
  [caseType.fields[0], caseType.fields[2]].map (FieldSpec.resolve caseType.fields)

/-- With two requested fields, one of them below the donors, all of the response is read back. -/
theorem written_response_read_back_of_openCaseOfForty :
    Record.resolveFields caseRegistry ["status", "donors__gender"] = .ok statusAndGenderFields ∧
      read? (ofHits 1 statusAndGenderFields [openCaseOfForty] donorResults).toJson.normalize =
        some (ofHits 1 statusAndGenderFields [openCaseOfForty] donorResults) ∧
      (Record.ofHit statusAndGenderFields openCaseOfForty).toJson.normalize.get? "id" =
        some (.string "a") := by
  have resolved :
      Record.resolveFields caseRegistry ["status", "donors__gender"] =
        .ok statusAndGenderFields := by
    cbv
  have sources : ∀ hit ∈ [openCaseOfForty], hit.source.IsNormal := by
    decide +kernel
  have sorted : Entries.Sorted donorResults :=
    List.pairwise_pair.mpr (by decide)
  have finite : ∀ entry ∈ donorResults, entry.2.IsFinite := by
    have fortyFinite : ∀ number ∈ some forty, number.isFinite = true := by
      decide +kernel
    exact List.forall_mem_cons.mpr
      ⟨⟨fortyFinite, fortyFinite, by simp, by simp⟩, List.forall_mem_singleton.mpr trivial⟩
  obtain ⟨readBackIff, carries⟩ :=
    @written_response_read_back_iff _ _ _ 1 _ _ resolved sources sorted finite
  refine ⟨resolved, readBackIff.mpr (by simp), ?_⟩
  exact (carries openCaseOfForty (by simp)).2 (by simp)

/-- Cases with a number of their own under the name `id`. -/
def numberedType : DocumentType :=
  { caseType with
    fields := [{ name := "id", sourcePath := none, type := .keyword, displayValues := none }] }

/-- The registry of cases with a number of their own. -/
def numberedRegistry : Registry where
  documentType := numberedType
  wellFormed := ⟨by decide +kernel, by decide +kernel, by decide +kernel⟩

/-- A case that the engine knows by another id than its number. -/
def numberedCase : RawHit where
  id := "1"
  source := .object [("id", .string "A-7")]

/-- The number of a case takes the place of the id of its hit, which nothing shows any more. -/
theorem written_response_loses_id_of_numberedCase :
    ∃ fields,
      Record.resolveFields numberedRegistry ["id"] = .ok fields ∧
        (Record.ofHit fields numberedCase).id = "1" ∧
        (Record.ofHit fields numberedCase).toJson.normalize = .object [("id", .string "A-7")] ∧
        read? (ofHits 1 fields [numberedCase] []).toJson.normalize ≠
          some (ofHits 1 fields [numberedCase] []) := by
  refine ⟨[numberedType.fields[0].resolve numberedType.fields], ?_, rfl, ?_, ?_⟩
  · cbv
  · decide +kernel
  · decide +kernel

end SearchResponse

end FacetSearch
