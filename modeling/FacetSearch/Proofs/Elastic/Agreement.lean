import FacetSearch.Proofs.Elastic.Mirror
import FacetSearch.Proofs.Elastic.Outline

namespace FacetSearch.Elastic

/-!
# Requests and replies agree

Whatever facets a plan has, a reply that mirrors its body is read and decoded
without fail: the results are those that the bottoms of the towers report, one
for each facet, and the hits are those of the reply.
-/

open Entries (HasOnly)
open Encoding

/-- The number of hits, as an object or a bare number.  Where none is told it counts as zero. -/
inductive TellsTotal : Option Json → UInt64 → Prop where
  | absent : TellsTotal none 0
  | null : TellsTotal (some .null) 0
  | number (total : UInt64) : TellsTotal (some (.nat total.toNat)) total
  | object
      {members : List (String × Json)}
      {total : UInt64}
      {relation : Option String} :
      HasOnly members "value" (some (.nat total.toNat)) →
      HasOnly members "relation" (relation.map .string) →
      TellsTotal (some (.object members)) total

/-- A value is a hit, whose source counts as `null` where there is none. -/
def IsReplyHit
    (value : Json)
    (hit : ReplyHit) :
    Prop :=
  ∃ members source,
    value = .object members ∧
      HasOnly members "_id" (some (.string hit.id)) ∧
      HasOnly members "_source" source ∧
      hit.source = source.getD .null

/-- The section of a reply with the hits of the page and the number of all hits. -/
structure HoldsHits
    (members : List (String × Json))
    (total : UInt64)
    (hits : List ReplyHit) : Prop where
  total : ∃ told, HasOnly members "total" told ∧ TellsTotal told total
  hits :
    ∃ entries : Option (List Json),
      HasOnly members "hits" (entries.map .array) ∧
        List.Forall₂ IsReplyHit (entries.getD []) hits

/-- The members of a reply to a body: its hits, and what was reported for each aggregation. -/
structure RepliesTo
    (body : Body)
    (members : List (String × Json))
    (total : UInt64)
    (hits : List ReplyHit)
    (report : String → Report) : Prop where
  took : ∃ millis : Option UInt64, HasOnly members "took" (millis.map fun time => .nat time.toNat)
  timedOut : ∃ late : Option Bool, HasOnly members "timed_out" (late.map .bool)
  hits :
    ∃ inside, HasOnly members "hits" (some (.object inside)) ∧ HoldsHits inside total hits
  facets :
    ∃ replies : Option (List (String × Json)),
      HasOnly members "aggregations" (replies.map .object) ∧
        ∀ entry ∈ body.aggregations,
          ∃ reply,
            HasOnly (replies.getD []) entry.1 (some reply) ∧
              Mirrors entry.2 reply (report entry.1)

/-! ## Facets -/

theorem label_toReply
    (withRoot : Bool)
    (bucket : TermsBucket) :
    (bucket.tally.toReply withRoot (some bucket.key) bucket.shown).label = bucket.label := by
  obtain ⟨key, shown, tally⟩ := bucket
  cases shown with
  | some text =>
      rfl
  | none =>
      rcases key with _ | _ | (_ | _) <;> rfl

theorem documents_toReply
    (withRoot : Bool)
    (key : Option BucketKey)
    (shown : Option String)
    (tally : Tally) :
    (tally.toReply withRoot key shown).toRaw.documents = tally.documents withRoot := by
  cases withRoot <;> rfl

theorem ofRaw_toReply
    (withRoot : Bool)
    (bucket : TermsBucket) :
    FacetBucket.ofRaw (bucket.tally.toReply withRoot (some bucket.key) bucket.shown).toRaw =
      { key := bucket.label, count := bucket.tally.documents withRoot } := by
  rw [FacetBucket.ofRaw, documents_toReply, ReplyBucket.toRaw, label_toReply]

/-- A report that fits a planned facet is decoded to its result. -/
theorem Report.Fits.result_raw
    {planned : PlannedFacet}
    {report : Report}
    (fits : report.Fits planned.kind) :
    planned.result false (report.raw (!planned.nested.isEmpty)) =
      .ok (report.result planned) := by
  obtain ⟨facet, field, filter, nested, kind⟩ := planned
  cases fits with
  | terms size buckets =>
      simp [PlannedFacet.result, raw, result, ofRaw_toReply]
  | range sameNumber =>
      simp [PlannedFacet.result, raw, result, documents_toReply, sameNumber,
        List.zipWith_map_right]
  | stats summary =>
      rfl

/-- Planned facets are read one by one, each from its own reply. -/
theorem readFacets_eq_ok
    {aggregations : List (String × Json)}
    {raw : PlannedFacet → RawFacet}
    {planned : List PlannedFacet}
    {facets : List (String × RawFacet)}
    (reads :
      ∀ facet ∈ planned,
        ∃ reply,
          Entries.lookup? facet.facet aggregations = some reply ∧
            readFacet facet.facet reply = .ok (raw facet)) :
    readFacets aggregations planned facets =
      .ok (Entries.insertAll (planned.map fun facet => (facet.facet, raw facet)) facets) := by
  induction planned generalizing facets with
  | nil =>
      rfl
  | cons facet rest inductionHypothesis =>
      obtain ⟨⟨reply, found, read⟩, restRead⟩ := List.forall_mem_cons.mp reads
      rw [readFacets, found]
      simp only [read]
      exact inductionHypothesis restRead

/-- Planned facets are decoded one by one, each from what was reported for it. -/
theorem collect_eq_ok
    {reported : List (String × RawFacet)}
    {sortByKey : Bool}
    {raw : PlannedFacet → RawFacet}
    {result : PlannedFacet → FacetResult}
    {planned : List PlannedFacet}
    {results : FacetResults}
    (decodes :
      ∀ facet ∈ planned,
        Entries.lookup? facet.facet reported = some (raw facet) ∧
          facet.result sortByKey (raw facet) = .ok (result facet)) :
    FacetResults.collect reported sortByKey planned results =
      .ok (Entries.insertAll (planned.map fun facet => (facet.facet, result facet)) results) := by
  induction planned generalizing results with
  | nil =>
      rfl
  | cons facet rest inductionHypothesis =>
      obtain ⟨⟨found, decoded⟩, restDecoded⟩ := List.forall_mem_cons.mp decodes
      rw [FacetResults.collect, found]
      simp only [decoded]
      exact inductionHypothesis restDecoded

/-! ## Whole replies -/

theorem TellsTotal.read
    {told : Option Json}
    {total : UInt64}
    (tells : TellsTotal told total) :
    ∃ read, Encoding.optional Total.read? told = some read ∧
      (read.map Total.value).getD 0 = total := by
  cases tells with
  | absent | null =>
      exact ⟨none, rfl, rfl⟩
  | number =>
      have read : Total.read? (Json.nat total.toNat) = some (.count total) := by
        change (unsigned64? (Json.nat total.toNat)).map Total.count = some (.count total)
        rw [Json.unsigned64?_nat, Option.map_some]
      refine ⟨some (.count total), ?_, rfl⟩
      rw [Encoding.optional, read]
      rfl
  | @object members total relation valueOnly relationOnly =>
      have relationRead : Encoding.optional text? (relation.map Json.string) = some relation := by
        cases relation <;> rfl
      have read : Total.read? (.object members) = some (.object total relation) := by
        simp [Total.read?, slot?_of_hasOnly valueOnly, slot?_of_hasOnly relationOnly, required,
          Json.unsigned64?_nat, relationRead]
      refine ⟨some (.object total relation), ?_, rfl⟩
      rw [Encoding.optional, read]
      rfl

theorem read?_of_isReplyHit
    {value : Json}
    {hit : ReplyHit}
    (isHit : IsReplyHit value hit) :
    ReplyHit.read? value = some { id := hit.id, source := hit.source.normalize } := by
  obtain ⟨members, source, rfl, idOnly, sourceOnly, isSource⟩ := isHit
  have sourceRead : defaulted .null raw? source = some hit.source.normalize := by
    rw [isSource]
    cases source <;> rfl
  have slots :
      record? [["_id"], ["_source"]] (Json.object members) = some [some (.string hit.id), source] := by
    simp [record?, Encoding.members?, Json.members?, slots?, slot?_of_hasOnly idOnly,
      slot?_of_hasOnly sourceOnly]
  simp [ReplyHit.read?, slots, sourceRead, required, Encoding.text?, Json.text?]

theorem readHits?_of_holdsHits
    {members : List (String × Json)}
    {total : UInt64}
    {hits : List ReplyHit}
    (holds : HoldsHits members total hits) :
    ∃ read,
      readHits? (.object members) =
          some (read, hits.map fun hit => { id := hit.id, source := hit.source.normalize }) ∧
        (read.map Total.value).getD 0 = total := by
  obtain ⟨told, toldOnly, tells⟩ := holds.total
  obtain ⟨entries, entriesOnly, areHits⟩ := holds.hits
  obtain ⟨read, totalRead, isTotal⟩ := tells.read
  refine ⟨read, ?_, isTotal⟩
  have hitsRead :
      defaulted [] (listOf ReplyHit.read?) (entries.map Json.array) =
        some (hits.map fun hit => { id := hit.id, source := hit.source.normalize }) := by
    cases entries with
    | none =>
        obtain rfl := List.forall₂_nil_left_iff.mp areHits
        rfl
    | some entries =>
        exact readAll_of_forall₂
          (List.forall₂_map_right_iff.mpr (areHits.imp fun _ _ isHit => read?_of_isReplyHit isHit))
  have slots :
      record? [["total"], ["hits"]] (Json.object members) = some [told, entries.map .array] := by
    simp [record?, Encoding.members?, Json.members?, slots?, slot?_of_hasOnly toldOnly,
      slot?_of_hasOnly entriesOnly]
  simp [readHits?, slots, totalRead, hitsRead]

theorem mapOf_raw?
    (members : List (String × Json)) :
    mapOf raw? (Json.object members) =
      some (Entries.ofList (members.map (Prod.map id Json.normalize))) := by
  have readEach :
      Entries.mapAll? raw? members = some (members.map (Prod.map id Json.normalize)) := by
    induction members with
    | nil =>
        rfl
    | cons member rest inductionHypothesis =>
        rw [Entries.mapAll?, inductionHypothesis]
        rfl
  simp [mapOf, Encoding.members?, Json.members?, readEach]

/-- A reply to a body is read, with its hits and an entry for each aggregation. -/
theorem read?_of_repliesTo
    {body : Body}
    {members : List (String × Json)}
    {total : UInt64}
    {hits : List ReplyHit}
    {report : String → Report}
    (replies : RepliesTo body members total hits report) :
    ∃ reply,
      Reply.read? (.object members) = some reply ∧
        (reply.total.map Total.value).getD 0 = total ∧
        (reply.hits = hits.map fun hit => { id := hit.id, source := hit.source.normalize }) ∧
        ∀ entry ∈ body.aggregations,
          ∃ value,
            Entries.lookup? entry.1 reply.aggregations = some value ∧
              Mirrors entry.2 value (report entry.1) := by
  obtain ⟨millis, tookOnly⟩ := replies.took
  obtain ⟨late, lateOnly⟩ := replies.timedOut
  obtain ⟨inside, hitsOnly, holds⟩ := replies.hits
  obtain ⟨towers, towersOnly, mirrored⟩ := replies.facets
  obtain ⟨toldTotal, hitsRead, isTotal⟩ := readHits?_of_holdsHits holds
  have tookRead :
      defaulted 0 unsigned64? (millis.map fun time => Json.nat time.toNat) =
        some (millis.getD 0) := by
    cases millis with
    | none =>
        rfl
    | some time =>
        exact Json.unsigned64?_nat time
  have lateRead :
      defaulted false Json.bool? (late.map Json.bool) = some (late.getD false) := by
    cases late <;> rfl
  have towersRead :
      defaulted [] (mapOf raw?) (towers.map Json.object) =
        some (Entries.ofList ((towers.getD []).map (Prod.map id Json.normalize))) := by
    cases towers with
    | none =>
        rfl
    | some towers =>
        exact mapOf_raw? towers
  have slots :
      record? [["took"], ["timed_out"], ["hits"], ["aggregations"]] (Json.object members) =
        some [millis.map fun time => Json.nat time.toNat, late.map Json.bool,
          some (.object inside), towers.map Json.object] := by
    simp [record?, Encoding.members?, Json.members?, slots?, slot?_of_hasOnly tookOnly,
      slot?_of_hasOnly lateOnly, slot?_of_hasOnly hitsOnly, slot?_of_hasOnly towersOnly]
  refine ⟨{
    took := millis.getD 0
    timedOut := late.getD false
    total := toldTotal
    hits := hits.map fun hit => { id := hit.id, source := hit.source.normalize }
    aggregations := Entries.ofList ((towers.getD []).map (Prod.map id Json.normalize)) },
    ?_, isTotal, rfl, ?_⟩
  · simp [Reply.read?, slots, tookRead, lateRead, required, hitsRead, towersRead]
  · intro entry member
    obtain ⟨reply, replyOnly, mirrors⟩ := mirrored entry member
    exact ⟨_, (replyOnly.map Json.normalize).ofList.lookup?_eq, mirrors.normalize⟩

/--
A reply that mirrors the body of a plan with distinct facets is read and
decoded without fail.  The results are those of the reports, one for each
facet, and the hits with their number are those of the reply.
-/
theorem parseAnswer_ofAnswer_of_repliesTo
    {plan : Plan}
    (distinct : (plan.facets.map PlannedFacet.facet).Nodup)
    {members : List (String × Json)}
    {total : UInt64}
    {hits : List ReplyHit}
    {report : String → Report}
    (replies : RepliesTo (Body.ofPlan plan) members total hits report) :
    ∃ answer results,
      parseAnswer plan (.object members) = .ok answer ∧
        FacetResults.ofAnswer plan answer.facets false = .ok results ∧
        answer.total = total ∧
        (answer.hits = hits.map fun hit => { id := hit.id, source := hit.source.normalize }) ∧
        results.Perm
          (plan.facets.map fun facet => (facet.facet, (report facet.facet).result facet)) := by
  obtain ⟨reply, replyRead, isTotal, areHits, mirrored⟩ := read?_of_repliesTo replies
  let raw : PlannedFacet → RawFacet := fun facet =>
    (report facet.facet).raw (!facet.nested.isEmpty)
  have read :
      ∀ facet ∈ plan.facets,
        (∃ value,
          Entries.lookup? facet.facet reply.aggregations = some value ∧
            readFacet facet.facet value = .ok (raw facet)) ∧
          (report facet.facet).Fits facet.kind := by
    intro facet planned
    have rendered : (facet.facet, Aggregation.ofFacet facet) ∈ (Body.ofPlan plan).aggregations :=
      (Entries.perm_ofList_map distinct Aggregation.ofFacet).mem_iff.mpr
        (List.mem_map.mpr ⟨facet, planned, rfl⟩)
    obtain ⟨value, found, mirrors⟩ := mirrored _ rendered
    obtain ⟨facetRead, fits⟩ := readFacet_of_mirrors_ofFacet mirrors
    exact ⟨⟨value, found, facetRead⟩, fits⟩
  have facetsRead :
      readFacets reply.aggregations plan.facets [] =
        .ok (Entries.ofList (plan.facets.map fun facet => (facet.facet, raw facet))) :=
    readFacets_eq_ok fun facet planned => (read facet planned).1
  have decoded :
      FacetResults.collect
          (Entries.ofList (plan.facets.map fun facet => (facet.facet, raw facet))) false
          plan.facets [] =
        .ok (Entries.ofList
          (plan.facets.map fun facet => (facet.facet, (report facet.facet).result facet))) :=
    collect_eq_ok fun facet planned =>
      ⟨Entries.lookup?_ofList_map distinct raw planned, (read facet planned).2.result_raw⟩
  refine ⟨{
    total := (reply.total.map Total.value).getD 0
    hits := reply.hits.map fun hit => { id := hit.id, source := hit.source }
    facets := Entries.ofList (plan.facets.map fun facet => (facet.facet, raw facet)) },
    _, ?_, ?_, isTotal, ?_, Entries.perm_ofList_map distinct _⟩
  · rw [parseAnswer, replyRead]
    simp only [Reply.answer, facetsRead]
    rfl
  · rw [FacetResults.ofAnswer, decoded]
    rfl
  · simp [areHits]

/-- An engine's reply to the plan on cases of women. -/
def womenReply : List (String × Json) := [
  ("took", .int 3),
  ("hits", .object [
    ("total", .object [("value", .int 2), ("relation", .string "eq")]),
    ("max_score", .null),
    ("hits", .array [
      .object [
        ("_index", .string "cases"),
        ("_id", .string "b"),
        ("_source", .object [("status", .string "open")])],
      .object [("_id", .string "a")]])]),
  ("aggregations", .object [
    ("donors__age", .object [
      ("doc_count", .int 2),
      ("values", .object [
        ("doc_count", .int 5),
        ("values", .object [
          ("buckets", .array [
            .object [("doc_count", .int 1), ("root", .object [("doc_count", .int 1)])],
            .object [("doc_count", .int 4), ("root", .object [("doc_count", .int 2)])]])])])]),
    ("status", .object [
      ("doc_count", .int 3),
      ("values", .object [
        ("sum_other_doc_count", .int 0),
        ("buckets", .array [
          .object [("key", .string "open"), ("doc_count", .int 2)],
          .object [
            ("key", .int 0),
            ("key_as_string", .string "closed"),
            ("doc_count", .int 1)]])])])])]

/-- The counts that the reply reports. -/
def womenReport (name : String) : Report :=
  if name = "status" then
    .terms [
      { key := .text "open", shown := none, tally := { count := 2, rootCount := 0 } },
      { key := .number (.integer 0), shown := some "closed",
        tally := { count := 1, rootCount := 0 } }]
  else .filters [{ count := 1, rootCount := 1 }, { count := 4, rootCount := 2 }]

/-- The hits that the reply holds. -/
def womenHits : List ReplyHit := [
  { id := "b", source := .object [("status", .string "open")] },
  { id := "a", source := .null }]

theorem repliesTo_womenPlan :
    RepliesTo (Body.ofPlan womenPlan) womenReply 2 womenHits womenReport where
  took := ⟨some 3, by rfl⟩
  timedOut := ⟨none, by rfl⟩
  hits := by
    refine ⟨_, by rfl, ⟨⟨_, by rfl, @TellsTotal.object _ _ (some "eq") (by rfl) (by rfl)⟩,
      ⟨some _, by rfl, ?_⟩⟩⟩
    exact .cons ⟨_, some _, by rfl, by rfl, by rfl, by rfl⟩
      (.cons ⟨_, none, by rfl, by rfl, by rfl, by rfl⟩ .nil)
  facets := by
    have aggregations :
        (Body.ofPlan womenPlan).aggregations =
          [("donors__age", .ofFacet agesOfDonors), ("status", .ofFacet statusesOfWomen)] := by
      cbv
    refine ⟨some _, by rfl, ?_⟩
    rw [aggregations]
    simp only [List.forall_mem_cons, List.not_mem_nil, false_implies, implies_true, and_true]
    constructor
    · refine ⟨_, by rfl, ?_⟩
      refine @Mirrors.step _ _ _ _ 2 _ _ (.inl rfl) rfl (by rfl) (by rfl) (by rfl) (by rfl) ?_
      refine @Mirrors.step _ _ _ _ 5 _ _ (.inr rfl) rfl (by rfl) (by rfl) (by rfl) (by rfl) ?_
      refine .filters rfl rfl (by rfl) ?_
      exact .cons ⟨_, rfl, by rfl, by rfl, by rfl, _, by rfl, by rfl⟩
        (.cons ⟨_, rfl, by rfl, by rfl, by rfl, _, by rfl, by rfl⟩ .nil)
    · refine ⟨_, by rfl, ?_⟩
      refine @Mirrors.step _ _ _ _ 3 _ _ (.inl rfl) rfl (by rfl) (by rfl) (by rfl) (by rfl) ?_
      refine .terms rfl (by rfl) ?_
      exact .cons ⟨_, rfl, by rfl, by rfl, by rfl, by rfl⟩
        (.cons ⟨_, rfl, by rfl, by rfl, by rfl, by rfl⟩ .nil)

/-- Statuses are counted by cases, and so are the ages of donors, under the planned keys. -/
theorem parseAnswer_ofAnswer_of_womenReply :
    (womenPlan.facets.map PlannedFacet.facet).Nodup ∧
      RepliesTo (Body.ofPlan womenPlan) womenReply 2 womenHits womenReport ∧
      ∃ answer results,
        parseAnswer womenPlan (.object womenReply) = .ok answer ∧
          FacetResults.ofAnswer womenPlan answer.facets false = .ok results ∧
          answer.total = 2 ∧
          answer.hits = [
            { id := "b", source := .object [("status", .string "open")] },
            { id := "a", source := .null }] ∧
          results.Perm [
            ("status",
              .buckets [{ key := "open", count := 2 }, { key := "closed", count := 1 }]),
            ("donors__age",
              .buckets [{ key := "*-18", count := 1 }, { key := "18-*", count := 2 }])] := by
  have distinct : (womenPlan.facets.map PlannedFacet.facet).Nodup := by
    decide
  refine ⟨distinct, repliesTo_womenPlan, ?_⟩
  obtain ⟨answer, results, parsed, decoded, total, hits, reordered⟩ :=
    parseAnswer_ofAnswer_of_repliesTo distinct repliesTo_womenPlan
  refine ⟨answer, results, parsed, decoded, total, ?_, ?_⟩
  · rw [hits]
    rfl
  · exact reordered

end FacetSearch.Elastic
