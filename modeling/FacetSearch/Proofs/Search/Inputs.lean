import FacetSearch.Proofs.Json.Written
import FacetSearch.Search.Request

namespace FacetSearch

/-!
# What is read can be written and read again

Requests, document types and facets arrive in many spellings.  However one was
spelt, writing what was read of it gives a value that reads as the same: a
reader normalizes the raw values that it keeps, takes `null` for no value, and
sorts labels, so that nothing it keeps is changed by being written.
-/

open Encoding

section Facets

/-- The bounds that are given are normal. -/
structure RangeSpec.IsNormal (range : RangeSpec) : Prop where
  lower : ∀ bound ∈ range.lower, bound.IsGiven
  upper : ∀ bound ∈ range.upper, bound.IsGiven

/-- The ranges of a kind. -/
def FacetKind.ranges : FacetKind → List RangeSpec
  | .range ranges => ranges
  | .terms _ | .stats => []

theorem RangeSpec.isNormal_of_read?
    {value : Json}
    {range : RangeSpec}
    (taken : RangeSpec.read? value = some range) :
    range.IsNormal := by
  obtain ⟨slots, -, takenSlots⟩ := Option.bind_eq_some_iff.mp taken
  split at takenSlots
  case h_1 key lower upper =>
      simp only [Option.bind_eq_bind, Option.bind_eq_some_iff, Option.some.injEq] at takenSlots
      obtain ⟨key, -, lower, takenLower, upper, takenUpper, rfl⟩ := takenSlots
      exact ⟨isGiven_of_optional_raw takenLower, isGiven_of_optional_raw takenUpper⟩
  case h_2 =>
      cases takenSlots

theorem RangeSpec.read?_toJson
    {range : RangeSpec}
    (normal : range.IsNormal) :
    RangeSpec.read? range.toJson.normalize = some range := by
  have written :
      range.toJson =
        .object (Json.given [
          ("key", range.key.map .string), ("from", range.lower), ("to", range.upper)]) := by
    simp only [toJson, Json.optionalMember_eq_given, ← Json.given_append, Option.map_id_fun, id,
      List.cons_append, List.nil_append]
  have key : optional Json.text? ((range.key.map .string).map Json.normalize) = some range.key :=
    optional_map_normalize (fun _ _ => rfl) fun _ _ => rfl
  rw [written, read?, record?_given rfl]
  simp only [List.map_cons, List.map_nil, Option.bind_eq_bind, Option.bind_some, Encoding.text?,
    key, optional_raw_of_isGiven normal.lower, optional_raw_of_isGiven normal.upper]

/-- The ranges of a facet are normal. -/
def FacetSpec.IsNormal (facet : FacetSpec) : Prop :=
  ∀ range ∈ facet.kind.ranges, range.IsNormal

theorem FacetKind.isNormal_of_read?
    {members : List (String × Json)}
    {kind : FacetKind}
    (taken : FacetKind.read? members = some kind) :
    ∀ range ∈ kind.ranges, range.IsNormal := by
  cases kind with
  | terms | stats =>
      simp [ranges]
  | range ranges =>
      simp only [read?, Option.bind_eq_bind, Option.bind_eq_some_iff] at taken
      obtain ⟨_, -, tag, -, taken⟩ := taken
      split at taken
      · simp [Option.bind_eq_some_iff] at taken
      split at taken
      case isTrue =>
          simp only [Option.bind_eq_some_iff, Option.some.injEq, range.injEq] at taken
          obtain ⟨slot, -, ranges, takenRanges, rfl⟩ := taken
          obtain ⟨value, -, takenList⟩ := Option.bind_eq_some_iff.mp takenRanges
          intro range member
          obtain ⟨source, takenRange⟩ := exists_read_of_listOf takenList range member
          exact RangeSpec.isNormal_of_read? takenRange
      case isFalse =>
          split at taken <;> cases taken

theorem FacetSpec.isNormal_of_read?
    {value : Json}
    {facet : FacetSpec}
    (taken : FacetSpec.read? value = some facet) :
    facet.IsNormal := by
  simp only [read?, Option.bind_eq_bind, Option.bind_eq_some_iff, Option.some.injEq] at taken
  obtain ⟨members, -, slot, -, field, -, kind, takenKind, rfl⟩ := taken
  exact FacetKind.isNormal_of_read? takenKind

/-- The slots that a kind contributes to a facet. -/
def FacetKind.slots : FacetKind → List (String × Option Json)
  | .terms size =>
      [("type", some (.string "terms")), ("size", size.map fun size => .nat size.toNat)]
  | .range ranges =>
      [("type", some (.string "range")),
        ("ranges", some (.array (ranges.map RangeSpec.toJson)))]
  | .stats => [("type", some (.string "stats"))]

theorem FacetSpec.toJson_eq_given
    (facet : FacetSpec) :
    facet.toJson =
      .object (Json.given (("field", some (.string facet.field)) :: facet.kind.slots)) := by
  obtain ⟨field, kind⟩ := facet
  cases kind with
  | terms size =>
      cases size <;> rfl
  | range | stats =>
      rfl

/-- A kind is read back from the members of its facet. -/
theorem FacetKind.read?_slots
    {field : Json}
    {kind : FacetKind}
    (normal : ∀ range ∈ kind.ranges, range.IsNormal) :
    FacetKind.read?
        (Json.normalizeMembers (Json.given (("field", some field) :: kind.slots)) []) =
      some kind := by
  cases kind with
  | terms size =>
      have isSize :
          optional unsigned64?
              ((size.map fun size => Json.nat size.toNat).map Json.normalize) =
            some size :=
        optional_map_normalize (fun size _ => Json.unsigned64?_nat size) fun _ _ => rfl
      rw [read?, slots, @slot?_normalizeMembers_given ["type"] _ _ _ rfl,
        @slot?_normalizeMembers_given ["size"] _ _ _ rfl]
      simp only [Option.bind_eq_bind, Option.bind_some, Option.map_some, Json.normalize_string,
        tag?, ↓reduceIte, isSize]
  | range ranges =>
      have areRanges :
          listOf RangeSpec.read? (Json.array (ranges.map RangeSpec.toJson)).normalize =
            some ranges :=
        listOf_map_normalize fun range member => RangeSpec.read?_toJson (normal range member)
      rw [read?, slots, @slot?_normalizeMembers_given ["type"] _ _ _ rfl,
        @slot?_normalizeMembers_given ["ranges"] _ _ _ rfl]
      simp [tag?, required, areRanges]
  | stats =>
      rw [read?, slots, @slot?_normalizeMembers_given ["type"] _ _ _ rfl]
      simp [tag?]

theorem FacetSpec.read?_toJson
    {facet : FacetSpec}
    (normal : facet.IsNormal) :
    FacetSpec.read? facet.toJson.normalize = some facet := by
  have picked :
      (("field", some (.string facet.field)) :: facet.kind.slots).filter
          (fun slot => ["field", "fieldName"].contains slot.1) =
        [("field", some (.string facet.field))] := by
    rcases facet with ⟨field, _ | _ | _⟩ <;> rfl
  rw [toJson_eq_given, read?, Json.normalize]
  simp [Json.members?, slot?_normalizeMembers_given picked, FacetKind.read?_slots normal,
    required, Encoding.text?, Json.text?]

end Facets

section Schema

theorem SortField.read?_toJson
    (sort : SortField) :
    SortField.read? sort.toJson.normalize = some sort := by
  have written :
      sort.toJson =
        .object (Json.given [
          ("field", some (.string sort.field)),
          ("direction", some (.string sort.direction.name))]) :=
    rfl
  have direction :
      (SortDirection.read? (Json.string sort.direction.name)) = some sort.direction := by
    cases sort.direction <;> rfl
  rw [written, read?, memberNames, record?_given rfl]
  simp [required, defaulted, Encoding.text?, Json.text?, direction]

/-- The labels of a field are sorted by value. -/
def FieldSpec.IsNormal (field : FieldSpec) : Prop :=
  ∀ labels ∈ field.displayValues, Entries.Sorted labels

theorem FieldSpec.isNormal_of_read?
    {value : Json}
    {field : FieldSpec}
    (taken : FieldSpec.read? value = some field) :
    field.IsNormal := by
  obtain ⟨slots, -, takenSlots⟩ := Option.bind_eq_some_iff.mp taken
  split at takenSlots
  case h_1 name path type labels =>
      simp only [Option.bind_eq_bind, Option.bind_eq_some_iff, Option.some.injEq] at takenSlots
      obtain ⟨name, -, path, -, type, -, labels, takenLabels, rfl⟩ := takenSlots
      rintro labels rfl
      obtain ⟨source, -, takenSource⟩ := exists_read_of_optional takenLabels
      exact sorted_of_mapOf takenSource
  case h_2 =>
      cases takenSlots

theorem FieldSpec.read?_toJson
    {field : FieldSpec}
    (normal : field.IsNormal) :
    FieldSpec.read? field.toJson.normalize = some field := by
  have written :
      field.toJson =
        .object (Json.given [
          ("name", some (.string field.name)),
          ("es_path", field.sourcePath.map .string),
          ("type", some (.string field.type.name)),
          ("display_values", field.displayValues.map Labels.toJson)]) := by
    simp only [toJson, Json.optionalMember_eq_given, Json.singleton_eq_given, ← Json.given_append,
      List.cons_append, List.nil_append]
  have path :
      optional Json.text? ((field.sourcePath.map .string).map Json.normalize) =
        some field.sourcePath :=
    optional_map_normalize (fun _ _ => rfl) fun _ _ => rfl
  have labels :
      optional Labels.read? ((field.displayValues.map Labels.toJson).map Json.normalize) =
        some field.displayValues :=
    optional_map_normalize
      (fun labels given => mapOf_map_normalize (normal labels given) fun _ _ => rfl)
      fun _ _ => rfl
  rw [written, read?, memberNames, record?_given rfl]
  simp only [List.map_cons, List.map_nil, Option.map_some, Json.normalize_string,
    Option.bind_eq_bind, Option.bind_some, required, Encoding.text?, Json.text?,
    Encoding.choice?, Json.choice?, FieldType.ofName?_name, path, labels]

/-- The labels of every field are sorted by value. -/
def DocumentType.IsNormal (type : DocumentType) : Prop :=
  ∀ field ∈ type.fields, field.IsNormal

theorem DocumentType.isNormal_of_read?
    {value : Json}
    {type : DocumentType}
    (taken : DocumentType.read? value = some type) :
    type.IsNormal := by
  obtain ⟨slots, -, takenSlots⟩ := Option.bind_eq_some_iff.mp taken
  split at takenSlots
  case h_1 name project index fields sort id =>
      simp only [Option.bind_eq_bind, Option.bind_eq_some_iff, Option.some.injEq] at takenSlots
      obtain ⟨name, -, project, -, index, -, fields, takenFields, sort, -, id, -, rfl⟩ :=
        takenSlots
      intro field member
      obtain ⟨value, -, takenList⟩ := Option.bind_eq_some_iff.mp takenFields
      obtain ⟨source, takenField⟩ := exists_read_of_listOf takenList field member
      exact FieldSpec.isNormal_of_read? takenField
  case h_2 =>
      cases takenSlots

theorem DocumentType.read?_toJson
    {type : DocumentType}
    (normal : type.IsNormal) :
    DocumentType.read? type.toJson.normalize = some type := by
  have written :
      type.toJson =
        .object (Json.given [
          ("name", some (.string type.name)),
          ("project", some (.string type.project)),
          ("index", some (.string type.index)),
          ("fields", some (.array (type.fields.map FieldSpec.toJson))),
          ("default_sort", some (.array (type.defaultSort.map SortField.toJson))),
          ("id_field", some (.string type.idField))]) :=
    rfl
  have fields :
      listOf FieldSpec.read? (Json.array (type.fields.map FieldSpec.toJson)).normalize =
        some type.fields :=
    listOf_map_normalize fun field member => FieldSpec.read?_toJson (normal field member)
  have sort :
      listOf SortField.read? (Json.array (type.defaultSort.map SortField.toJson)).normalize =
        some type.defaultSort :=
    listOf_map_normalize fun sort _ => SortField.read?_toJson sort
  rw [written, read?, memberNames, record?_given rfl]
  simp only [List.map_cons, List.map_nil, Option.map_some, Json.normalize_string,
    Option.bind_eq_bind, Option.bind_some, required, defaulted, Encoding.text?, Json.text?,
    fields, sort]

end Schema

namespace SearchRequest

/-- The filter, if there is one, is normal, and so are the ranges of the facets. -/
structure IsNormal (request : SearchRequest) : Prop where
  sqon : ∀ sqon ∈ request.sqon, sqon.IsGiven
  facets : ∀ facet ∈ request.facets, facet.IsNormal

theorem isNormal_of_read?
    {value : Json}
    {request : SearchRequest}
    (taken : read? value = some request) :
    request.IsNormal := by
  obtain ⟨members, -, takenMembers⟩ := Option.bind_eq_some_iff.mp taken
  obtain ⟨slots, -, takenSlots⟩ := Option.bind_eq_some_iff.mp takenMembers
  split at takenSlots
  case h_1 project documentType sqon fields sort first offset facets byKey timeout =>
      simp only [Option.bind_eq_bind, Option.bind_eq_some_iff, Option.some.injEq] at takenSlots
      obtain ⟨project, -, type, -, sqon, takenSqon, fields, -, sort, -, first, -, offset, -,
        facets, takenFacets, byKey, -, timeout, -, rfl⟩ := takenSlots
      refine ⟨isGiven_of_optional_raw takenSqon, ?_⟩
      intro facet member
      rcases eq_or_exists_read_of_defaulted takenFacets with rfl | ⟨value, takenList⟩
      · cases member
      · obtain ⟨source, takenFacet⟩ := exists_read_of_listOf takenList facet member
        exact FacetSpec.isNormal_of_read? takenFacet
  case h_2 =>
      cases takenSlots

theorem optional_signed
    (value : Option Int64) :
    optional signed64? (some (signed value).normalize) = some value := by
  cases value with
  | none =>
      rfl
  | some value =>
      have isInt : (signed (some value)).normalize = Json.int value.toInt := rfl
      have notAbsent : isAbsent? (Json.int value.toInt) = some false := rfl
      simp [Encoding.optional, isInt, notAbsent, signed64?_int]

theorem read?_toJson
    {request : SearchRequest}
    (normal : request.IsNormal) :
    read? request.toJson.normalize = some request := by
  have written :
      request.toJson =
        .object (Json.given [
          ("project", some (.string request.project)),
          ("documentType", some (.string request.documentType)),
          ("sqon", request.sqon),
          ("fields", some (.array (request.fields.map .string))),
          ("sort", some (.array (request.sort.map SortField.toJson))),
          ("first", some (signed request.page.first)),
          ("offset", some (signed request.page.offset)),
          ("facets", some (.array (request.facets.map FacetSpec.toJson))),
          ("sortBucketsByKey", some (.bool request.sortBucketsByKey)),
          ("timeoutMs", request.timeout.map fun timeout => .nat timeout.toNat)]) := by
    obtain ⟨_, _, sqon, _, _, _, _, _, timeout⟩ := request
    cases sqon <;> cases timeout <;> rfl
  have fields :
      listOf Json.text? (Json.array (request.fields.map .string)).normalize =
        some request.fields :=
    listOf_map_normalize fun _ _ => rfl
  have sort :
      listOf SortField.read? (Json.array (request.sort.map SortField.toJson)).normalize =
        some request.sort :=
    listOf_map_normalize fun sort _ => SortField.read?_toJson sort
  have facets :
      listOf FacetSpec.read? (Json.array (request.facets.map FacetSpec.toJson)).normalize =
        some request.facets :=
    listOf_map_normalize fun facet member => FacetSpec.read?_toJson (normal.facets facet member)
  have timeout :
      optional unsigned64?
          ((request.timeout.map fun timeout => Json.nat timeout.toNat).map Json.normalize) =
        some request.timeout :=
    optional_map_normalize (fun timeout _ => Json.unsigned64?_nat timeout) fun _ _ => rfl
  rw [written, read?, Json.normalize, Json.members?, Option.bind_eq_bind, Option.bind_some,
    slots?_normalizeMembers_given rfl]
  simp only [List.map_cons, List.map_nil, Option.map_some, Option.bind_eq_bind, Option.bind_some,
    Json.normalize_string, Json.normalize_bool, required, defaulted, Encoding.text?, Json.text?,
    Json.bool?, fields, sort, facets, timeout, optional_raw_of_isGiven normal.sqon,
    optional_signed]

end SearchRequest

/--
Whatever spelling a request, a document type or a facet was read from, it is
read again, unchanged, from the value that is written for it.
-/
theorem written_inputs_read_the_same :
    (∀ value request,
      SearchRequest.read? value = some request →
        SearchRequest.read? request.toJson.normalize = some request) ∧
      (∀ (value : Json) type,
        DocumentType.read? value = some type →
          DocumentType.read? type.toJson.normalize = some type) ∧
      ∀ value facet,
        FacetSpec.read? value = some facet →
          FacetSpec.read? facet.toJson.normalize = some facet := by
  refine ⟨?_, ?_, ?_⟩
  · intro value request taken
    exact SearchRequest.read?_toJson (SearchRequest.isNormal_of_read? taken)
  · intro value type taken
    exact DocumentType.read?_toJson (DocumentType.isNormal_of_read? taken)
  · intro value facet taken
    exact FacetSpec.read?_toJson (FacetSpec.isNormal_of_read? taken)

/-- Donors of forty and more, with the range as a list and the kind by its number. -/
def fromFortySpelt : Json :=
  .object [
    ("type", .nat 1),
    ("ranges", .array [.array [.null, .nat 40]]),
    ("fieldName", .string "donors__age")]

/-- Donors of forty and more. -/
def fromForty : FacetSpec where
  field := "donors__age"
  kind := .range [{ key := none, lower := some (.nat 40), upper := none }]

/-- Open cases by the age of their donors, with a list, an alias, a `null` and a note. -/
def openCasesSpelt : Json :=
  .object [
    ("sqon", .object [
      ("value", .array [.string "open"]), ("op", .string "in"),
      ("fieldName", .string "status")]),
    ("project", .string "demo"),
    ("documentType", .string "cases"),
    ("note", .bool true),
    ("first", .null),
    ("sort", .array [.array [.string "donors__age", .object [("desc", .null)]]]),
    ("facets", .array [fromFortySpelt])]

/-- Open cases by the age of their donors, and how many have donors of forty and more. -/
def openCasesByAge : SearchRequest :=
  { SearchRequest.everything "demo" "cases" with
    sqon := some (.object [
      ("fieldName", .string "status"), ("op", .string "in"),
      ("value", .array [.string "open"])])
    sort := [{ field := "donors__age", direction := .desc }]
    facets := [fromForty] }

/-- Files with one labelled field, listed without the names of the members. -/
def filesSpelt : Json :=
  .array [
    .string "files", .string "demo", .string "files",
    .array [
      .array [
        .string "format", .null, .string "keyword",
        .object [("vcf", .string "Variants"), ("bam", .string "Reads")]]]]

/-- Files with one labelled field. -/
def filesType : DocumentType where
  name := "files"
  project := "demo"
  index := "files"
  fields := [
    { name := "format", sourcePath := none, type := .keyword,
      displayValues := some [("bam", "Reads"), ("vcf", "Variants")] }]
  defaultSort := []
  idField := DocumentType.defaultIdField

/-- Each of the three is written in another way than it came, and read as it was. -/
theorem written_inputs_read_the_same_of_spellings :
    (SearchRequest.read? openCasesSpelt = some openCasesByAge ∧
        SearchRequest.read? openCasesByAge.toJson.normalize = some openCasesByAge) ∧
      (DocumentType.read? filesSpelt = some filesType ∧
        DocumentType.read? filesType.toJson.normalize = some filesType) ∧
      FacetSpec.read? fromFortySpelt = some fromForty ∧
        FacetSpec.read? fromForty.toJson.normalize = some fromForty := by
  have readsRequest : SearchRequest.read? openCasesSpelt = some openCasesByAge := by
    decide +kernel
  have readsType : DocumentType.read? filesSpelt = some filesType := by
    decide +kernel
  have readsFacet : FacetSpec.read? fromFortySpelt = some fromForty := by
    decide +kernel
  obtain ⟨ofRequest, ofType, ofFacet⟩ := written_inputs_read_the_same
  exact ⟨⟨readsRequest, ofRequest _ _ readsRequest⟩, ⟨readsType, ofType _ _ readsType⟩,
    readsFacet, ofFacet _ _ readsFacet⟩

end FacetSearch
