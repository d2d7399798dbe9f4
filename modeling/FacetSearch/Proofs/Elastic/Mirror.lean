import FacetSearch.Elastic.Body
import FacetSearch.Elastic.Reply
import FacetSearch.Proofs.Encoding

namespace FacetSearch.Elastic

/-!
# Replies that mirror a body

An engine answers a tower of aggregations with a tower of objects: each step
holds the reply to the next one under its name, and the bottom holds buckets or
statistics.  Members that nobody asked for may stand anywhere between those
that are read.  Reading steps down to the bottom and finds what was reported.
-/

/-- The key of a terms bucket in a reply. -/
inductive BucketKey where
  | text (value : String)
  | number (value : Number)
  | flag (value : Bool)
  deriving DecidableEq, Repr, Inhabited

/-- The number of objects in a bucket, and of the whole documents around them. -/
structure Tally where
  count : UInt64
  rootCount : UInt64
  deriving DecidableEq, Repr, Inhabited

/-- A terms bucket in a reply. -/
structure TermsBucket where
  key : BucketKey
  /-- The text that the engine shows for the key, if it has one of its own. -/
  shown : Option String
  tally : Tally
  deriving DecidableEq, Repr, Inhabited

/-- What the bottom of a tower reports. -/
inductive Report where
  | terms (buckets : List TermsBucket)
  /-- The counts of the filters, in their order. -/
  | filters (tallies : List Tally)
  | stats (stats : Stats)
  deriving Repr, Inhabited

namespace BucketKey

/-- The key as a JSON value. -/
def toJson : BucketKey → Json
  | .text value => .string value
  | .number value => .number value
  | .flag value => .bool value

/-- The text of a key. -/
def label : BucketKey → String
  | .text value => value
  | .number value => value.render
  | .flag true => "true"
  | .flag false => "false"

end BucketKey

/-- The number of documents that a count stands for. -/
def Tally.documents
    (isNested : Bool)
    (tally : Tally) :
    UInt64 :=
  if isNested then tally.rootCount else tally.count

/-- The name of a terms bucket: the text shown for its key, else the key's own. -/
def TermsBucket.label (bucket : TermsBucket) : String :=
  bucket.shown.getD bucket.key.label

/-- The result of a planned facet for which this was reported. -/
def Report.result
    (facet : PlannedFacet) :
    Report → FacetResult
  | .terms buckets =>
      .buckets (buckets.map fun bucket =>
        { key := bucket.label, count := bucket.tally.documents (!facet.nested.isEmpty) })
  | .filters tallies =>
      match facet.kind with
      | .range ranges =>
          .buckets (List.zipWith
            (fun range tally =>
              { key := range.key, count := tally.documents (!facet.nested.isEmpty) })
            ranges tallies)
      | _ => .buckets []
  | .stats summary => .stats summary

/-! ## What replies look like -/

open Entries (HasOnly)

/-- The members of a bucket count as told, with the whole documents under a name of their own. -/
structure Tally.IsGivenBy
    (tally : Tally)
    (withRoot : Bool)
    (members : List (String × Json)) : Prop where
  count : HasOnly members "doc_count" (some (.nat tally.count.toNat))
  rootCount :
    if withRoot then
      ∃ root,
        HasOnly members Aggregation.rootName (some (.object root)) ∧
          HasOnly root "doc_count" (some (.nat tally.rootCount.toNat))
    else HasOnly members Aggregation.rootName none

/-- A value is a bucket with a key, where there is one, a text for it, and counts. -/
def IsBucket
    (withRoot : Bool)
    (key : Option BucketKey)
    (shown : Option String)
    (tally : Tally)
    (value : Json) :
    Prop :=
  ∃ members,
    value = .object members ∧
      HasOnly members "key" (key.map BucketKey.toJson) ∧
      HasOnly members "key_as_string" (shown.map .string) ∧
      tally.IsGivenBy withRoot members

/-- The double that a value stands for; `null` stands for none, as over no documents. -/
inductive Denotes : Json → Option Binary64 → Prop where
  | null : Denotes .null none
  | float (value : Binary64) : Denotes (.number (.float value)) (some value)
  | integer {token : Int} {value : Binary64} :
      Binary64.ofInt? token = some value → Denotes (.number (.integer token)) (some value)

/-- A member stands for a double. -/
def GivesNumber
    (members : List (String × Json))
    (name : String)
    (value : Option Binary64) :
    Prop :=
  ∃ number, HasOnly members name (some number) ∧ Denotes number value

/-- Members are those of statistics. -/
structure IsStats
    (members : List (String × Json))
    (stats : Stats) : Prop where
  count : HasOnly members "count" (some (.nat stats.count.toNat))
  min : GivesNumber members "min" stats.min
  max : GivesNumber members "max" stats.max
  avg : GivesNumber members "avg" stats.avg
  sum : GivesNumber members "sum" stats.sum

/-- Whether an aggregation asks for the whole documents of its buckets. -/
def Aggregation.countsRoots (aggregation : Aggregation) : Bool :=
  (Entries.lookup? rootName aggregation.inner).isSome

/-- A value is the reply to an aggregation, and reports this at its bottom. -/
inductive Mirrors : Aggregation → Json → Report → Prop where
  /-- A filter or a step to nested objects counts, and holds the reply to what is inside it. -/
  | step
      {aggregation inner : Aggregation}
      {name : String}
      {members : List (String × Json)}
      {count : UInt64}
      {reply : Json}
      {report : Report} :
      aggregation.filter.isSome ∨ aggregation.nested.isSome →
      aggregation.inner = [(name, inner)] →
      HasOnly members "doc_count" (some (.nat count.toNat)) →
      HasOnly members name (some reply) →
      HasOnly members "buckets" none →
      HasOnly members "count" none →
      Mirrors inner reply report →
      Mirrors aggregation (.object members) report
  | terms
      {aggregation : Aggregation}
      {members : List (String × Json)}
      {entries : List Json}
      {buckets : List TermsBucket} :
      aggregation.terms.isSome →
      HasOnly members "buckets" (some (.array entries)) →
      List.Forall₂
        (fun entry bucket =>
          IsBucket aggregation.countsRoots (some bucket.key) bucket.shown bucket.tally entry)
        entries buckets →
      Mirrors aggregation (.object members) (.terms buckets)
  /-- There is one bucket for each filter, in the order of the filters; it has no key. -/
  | filters
      {aggregation : Aggregation}
      {queries : List Query}
      {members : List (String × Json)}
      {entries : List Json}
      {tallies : List Tally} :
      aggregation.filters = some queries →
      tallies.length = queries.length →
      HasOnly members "buckets" (some (.array entries)) →
      List.Forall₂ (fun entry tally => IsBucket aggregation.countsRoots none none tally entry)
        entries tallies →
      Mirrors aggregation (.object members) (.filters tallies)
  | stats
      {aggregation : Aggregation}
      {members : List (String × Json)}
      {stats : Stats} :
      aggregation.stats.isSome →
      HasOnly members "buckets" none →
      IsStats members stats →
      Mirrors aggregation (.object members) (.stats stats)

/-! ## Sorting the members of a reply -/

section Normalized

variable {members : List (String × Json)} {withRoot : Bool} {tally : Tally}

theorem Tally.IsGivenBy.normalize
    (given : tally.IsGivenBy withRoot members) :
    tally.IsGivenBy withRoot (Json.normalizeMembers members []) := by
  refine ⟨Json.hasOnly_normalizeMembers given.count, ?_⟩
  have rootGiven := given.rootCount
  cases withRoot with
  | true =>
      obtain ⟨root, rootOnly, countOnly⟩ := rootGiven
      exact ⟨_, Json.hasOnly_normalizeMembers rootOnly, Json.hasOnly_normalizeMembers countOnly⟩
  | false =>
      exact Json.hasOnly_normalizeMembers rootGiven

theorem IsBucket.normalize
    {key : Option BucketKey}
    {shown : Option String}
    {value : Json}
    (bucket : IsBucket withRoot key shown tally value) :
    IsBucket withRoot key shown tally value.normalize := by
  obtain ⟨members, rfl, keyOnly, shownOnly, counts⟩ := bucket
  have sameKey : (key.map BucketKey.toJson).map Json.normalize = key.map BucketKey.toJson := by
    rcases key with _ | (_ | _ | _) <;> rfl
  have sameShown : (shown.map Json.string).map Json.normalize = shown.map Json.string := by
    cases shown <;> rfl
  refine ⟨_, rfl, ?_, ?_, counts.normalize⟩
  · rw [← sameKey]
    exact Json.hasOnly_normalizeMembers keyOnly
  · rw [← sameShown]
    exact Json.hasOnly_normalizeMembers shownOnly

theorem GivesNumber.normalize
    {name : String}
    {value : Option Binary64}
    (gives : GivesNumber members name value) :
    GivesNumber (Json.normalizeMembers members []) name value := by
  obtain ⟨number, only, denotes⟩ := gives
  refine ⟨number, ?_, denotes⟩
  have sameNumber : number.normalize = number := by
    cases denotes <;> rfl
  simpa [sameNumber] using Json.hasOnly_normalizeMembers only

theorem IsStats.normalize
    {stats : Stats}
    (given : IsStats members stats) :
    IsStats (Json.normalizeMembers members []) stats where
  count := Json.hasOnly_normalizeMembers given.count
  min := given.min.normalize
  max := given.max.normalize
  avg := given.avg.normalize
  sum := given.sum.normalize

theorem hasOnly_normalizeMembers_array
    {name : String}
    {items : List Json}
    (only : HasOnly members name (some (.array items))) :
    HasOnly (Json.normalizeMembers members []) name (some (.array (items.map Json.normalize))) := by
  rw [← Json.normalizeItems_eq_map]
  exact Json.hasOnly_normalizeMembers only

/-- A reply with its members sorted still mirrors what it replies to. -/
theorem Mirrors.normalize
    {aggregation : Aggregation}
    {reply : Json}
    {report : Report}
    (mirrors : Mirrors aggregation reply report) :
    Mirrors aggregation reply.normalize report := by
  induction mirrors with
  | step isStep isInner countOnly innerOnly noBuckets noCount _ inductionHypothesis =>
      exact .step isStep isInner (Json.hasOnly_normalizeMembers countOnly)
        (Json.hasOnly_normalizeMembers innerOnly) (Json.hasOnly_normalizeMembers noBuckets)
        (Json.hasOnly_normalizeMembers noCount) inductionHypothesis
  | terms isTerms bucketsOnly buckets =>
      exact .terms isTerms (hasOnly_normalizeMembers_array bucketsOnly)
        (List.forall₂_map_left_iff.mpr (buckets.imp fun _ _ bucket => bucket.normalize))
  | filters isFilters sameNumber bucketsOnly buckets =>
      exact .filters isFilters sameNumber (hasOnly_normalizeMembers_array bucketsOnly)
        (List.forall₂_map_left_iff.mpr (buckets.imp fun _ _ bucket => bucket.normalize))
  | stats isStats noBuckets given =>
      exact .stats isStats (Json.hasOnly_normalizeMembers noBuckets) given.normalize

end Normalized

/-! ## Reading a reply -/

section Reading

open Encoding

variable {members : List (String × Json)} {withRoot : Bool} {tally : Tally}

/-- A bucket as it is read, with the count of whole documents where it was asked for. -/
def Tally.toReply
    (withRoot : Bool)
    (key : Option BucketKey)
    (shown : Option String)
    (tally : Tally) :
    ReplyBucket where
  key := key.map BucketKey.toJson
  keyAsString := shown
  count := tally.count
  rootCount := if withRoot then some tally.rootCount else none

theorem Tally.IsGivenBy.exists_root
    (given : tally.IsGivenBy withRoot members) :
    ∃ root,
      HasOnly members "root" root ∧
        optional readDocCount? root =
          some (if withRoot then some tally.rootCount else none) := by
  have rootGiven := given.rootCount
  cases withRoot with
  | true =>
      obtain ⟨rootMembers, rootOnly, countOnly⟩ := rootGiven
      refine ⟨_, rootOnly, ?_⟩
      have countRead : readDocCount? (.object rootMembers) = some tally.rootCount := by
        simp [readDocCount?, record?, Encoding.members?, Json.members?, slots?,
          slot?_of_hasOnly countOnly, required, Json.unsigned64?_nat]
      rw [Encoding.optional, countRead]
      rfl
  | false =>
      exact ⟨none, rootGiven, rfl⟩

theorem read?_of_isBucket
    {key : Option BucketKey}
    {shown : Option String}
    {value : Json}
    (bucket : IsBucket withRoot key shown tally value) :
    ReplyBucket.read? value = some (tally.toReply withRoot key shown) := by
  obtain ⟨members, rfl, keyOnly, shownOnly, counts⟩ := bucket
  have keyRead : optional raw? (key.map BucketKey.toJson) = some (key.map BucketKey.toJson) := by
    rcases key with _ | (_ | _ | _) <;> rfl
  have shownRead : optional text? (shown.map Json.string) = some shown := by
    cases shown <;> rfl
  obtain ⟨root, rootOnly, rootRead⟩ := counts.exists_root
  have slots :
      record? [["key"], ["key_as_string"], ["doc_count"], ["root"]] (Json.object members) =
        some [key.map BucketKey.toJson, shown.map Json.string,
          some (.nat tally.count.toNat), root] := by
    simp [record?, Encoding.members?, Json.members?, slots?, slot?_of_hasOnly keyOnly,
      slot?_of_hasOnly shownOnly, slot?_of_hasOnly counts.count, slot?_of_hasOnly rootOnly]
  simp [ReplyBucket.read?, slots, keyRead, shownRead, rootRead, required, Json.unsigned64?_nat,
    Tally.toReply]

/-- The reported facet that a reply is read as. -/
def Report.raw
    (withRoot : Bool) :
    Report → RawFacet
  | .terms buckets =>
      .buckets (buckets.map fun bucket =>
        (bucket.tally.toReply withRoot (some bucket.key) bucket.shown).toRaw)
  | .filters tallies =>
      .buckets (tallies.map fun tally => (tally.toReply withRoot none none).toRaw)
  | .stats summary => .stats summary

/-- Buckets at the bottom of a tower are read one by one. -/
theorem bottom?_of_buckets
    {α : Type}
    {facet : String}
    {entries : List Json}
    {buckets : List α}
    {toReply : α → ReplyBucket}
    (bucketsOnly : HasOnly members "buckets" (some (.array entries)))
    (reads :
      List.Forall₂ (fun entry bucket => ReplyBucket.read? entry = some (toReply bucket))
        entries buckets) :
    bottom? facet members =
      some (.ok (.buckets (buckets.map fun bucket => (toReply bucket).toRaw))) := by
  have read : listOf ReplyBucket.read? (Json.array entries) = some (buckets.map toReply) :=
    readAll_of_forall₂ (List.forall₂_map_right_iff.mpr reads)
  rw [bottom?, bucketsOnly.lookup?_eq]
  simp only [read, List.map_map]
  rfl

theorem Denotes.read
    {number : Json}
    {value : Option Binary64}
    (denotes : Denotes number value) :
    Encoding.optional Stats.readNumber? (some number) = some value := by
  cases denotes with
  | null | float =>
      rfl
  | integer rounded =>
      simp [Encoding.optional, Encoding.isAbsent?, Json.isNull, Stats.readNumber?, rounded]

theorem read?_of_isStats
    {stats : Stats}
    (given : IsStats members stats) :
    Stats.read? (.object members) = some stats := by
  obtain ⟨countOnly, ⟨min, minOnly, ofMin⟩, ⟨max, maxOnly, ofMax⟩, ⟨avg, avgOnly, ofAvg⟩,
    ⟨sum, sumOnly, ofSum⟩⟩ := given
  have slots :
      record? [["count"], ["min"], ["max"], ["avg"], ["sum"]] (Json.object members) =
        some [some (.nat stats.count.toNat), some min, some max, some avg, some sum] := by
    simp [record?, Encoding.members?, Json.members?, slots?, slot?_of_hasOnly countOnly,
      slot?_of_hasOnly minOnly, slot?_of_hasOnly maxOnly, slot?_of_hasOnly avgOnly,
      slot?_of_hasOnly sumOnly]
  simp [Stats.read?, Json.items?, slots, required, Json.unsigned64?_nat, ofMin.read, ofMax.read,
    ofAvg.read, ofSum.read]

theorem bottom?_of_isStats
    {facet : String}
    {stats : Stats}
    (noBuckets : HasOnly members "buckets" none)
    (given : IsStats members stats) :
    bottom? facet members = some (.ok (.stats stats)) := by
  rw [bottom?, noBuckets.lookup?_eq]
  simp only [given.count.lookup?_eq, read?_of_isStats given]

/-- What is no bottom is stepped down from. -/
theorem readFacet_of_step
    {facet : String}
    {reply : Json}
    (noBuckets : HasOnly members "buckets" none)
    (noCount : HasOnly members "count" none)
    (innerOnly : HasOnly members Aggregation.innerName (some reply)) :
    readFacet facet (.object members) = readFacet facet reply := by
  have noBottom : bottom? facet members = none := by
    rw [bottom?, noBuckets.lookup?_eq]
    simp only [noCount.lookup?_eq]
  rw [readFacet, noBottom, Option.getD_none]
  have found := innerOnly.lookup?_eq
  clear noBuckets noCount innerOnly noBottom
  induction members with
  | nil =>
      cases found
  | cons member rest inductionHypothesis =>
      obtain ⟨name, value⟩ := member
      rw [Entries.lookup?] at found
      rw [readInner]
      split at found
      case isTrue same =>
          rw [if_pos same, Option.some.inj found]
      case isFalse differs =>
          rw [if_neg differs, inductionHypothesis found]

section Towers

variable {field facet : String} {isNested : Bool} {kind : PlannedKind} {reply : Json}
  {report : Report}

theorem Query.length_ofClauses
    (clauses : List Clause) :
    (Query.ofClauses clauses).length = clauses.length := by
  induction clauses with
  | nil =>
      rfl
  | cons clause rest inductionHypothesis =>
      rw [Query.ofClauses, List.length_cons, List.length_cons, inductionHypothesis]

/-- A report is of the kind that was planned, with one count for each range. -/
inductive Report.Fits : PlannedKind → Report → Prop where
  | terms (size : UInt64) (buckets : List TermsBucket) : Fits (.terms size) (.terms buckets)
  | range {ranges : List RangeBucket} {tallies : List Tally} :
      tallies.length = ranges.length → Fits (.range ranges) (.filters tallies)
  | stats (stats : Stats) : Fits .stats (.stats stats)

theorem countsRoots_counting_terms
    (size : UInt64) :
    (Aggregation.counting field isNested (.terms size)).countsRoots = isNested := by
  cases isNested <;> rfl

theorem countsRoots_counting_range
    (ranges : List RangeBucket) :
    (Aggregation.counting field isNested (.range ranges)).countsRoots = isNested := by
  cases isNested <;> rfl

/-- The bottom of a tower is read as what it reports. -/
theorem readFacet_of_mirrors_counting
    (mirrors : Mirrors (.counting field isNested kind) reply report) :
    readFacet facet reply = .ok (report.raw isNested) ∧ report.Fits kind := by
  cases mirrors with
  | step isStep =>
      cases kind <;> simp [Aggregation.counting, Aggregation.blank] at isStep
  | terms isTerms bucketsOnly buckets =>
      cases kind with
      | terms size =>
          rw [countsRoots_counting_terms] at buckets
          refine ⟨?_, .terms size _⟩
          rw [readFacet, bottom?_of_buckets bucketsOnly
            (buckets.imp fun _ _ bucket => read?_of_isBucket bucket)]
          rfl
      | range | stats =>
          simp [Aggregation.counting, Aggregation.blank] at isTerms
  | filters isFilters sameNumber bucketsOnly buckets =>
      cases kind with
      | range ranges =>
          rw [countsRoots_counting_range] at buckets
          refine ⟨?_, .range ?_⟩
          · rw [readFacet, bottom?_of_buckets bucketsOnly
              (buckets.imp fun _ _ bucket => read?_of_isBucket bucket)]
            rfl
          · obtain rfl := Option.some.inj isFilters
            rw [sameNumber, Query.length_ofClauses, List.length_map]
      | terms | stats =>
          simp [Aggregation.counting, Aggregation.blank] at isFilters
  | stats isStats noBuckets given =>
      cases kind with
      | stats =>
          refine ⟨?_, .stats _⟩
          rw [readFacet, bottom?_of_isStats noBuckets given]
          rfl
      | terms | range =>
          simp [Aggregation.counting, Aggregation.blank] at isStats

/-- The reply to a step holds the reply to what is inside it, and is read as that. -/
theorem exists_reply_of_mirrors_step
    {aggregation inner : Aggregation}
    (isInner : aggregation.inner = [(Aggregation.innerName, inner)])
    (isStep : aggregation.terms = none ∧ aggregation.filters = none ∧ aggregation.stats = none)
    (mirrors : Mirrors aggregation reply report) :
    ∃ innerReply,
      Mirrors inner innerReply report ∧ readFacet facet reply = readFacet facet innerReply := by
  cases mirrors with
  | step _ isOnlyInner _ innerOnly noBuckets noCount mirrors =>
      obtain ⟨rfl, rfl⟩ := by simpa using isInner.symm.trans isOnlyInner
      exact ⟨_, mirrors, readFacet_of_step noBuckets noCount innerOnly⟩
  | terms isTerms =>
      simp [isStep] at isTerms
  | filters isFilters =>
      simp [isStep] at isFilters
  | stats isStats =>
      simp [isStep] at isStats

/-- The reply to a tower is read as what its bottom reports, however many steps lead there. -/
theorem readFacet_of_mirrors_tower
    (chain : List String)
    (mirrors :
      Mirrors (chain.foldr Aggregation.descend (.counting field isNested kind)) reply report) :
    readFacet facet reply = .ok (report.raw isNested) ∧ report.Fits kind := by
  induction chain generalizing reply with
  | nil =>
      exact readFacet_of_mirrors_counting mirrors
  | cons path rest inductionHypothesis =>
      obtain ⟨innerReply, innerMirrors, sameReading⟩ :=
        exists_reply_of_mirrors_step rfl ⟨rfl, rfl, rfl⟩ mirrors
      rw [sameReading]
      exact inductionHypothesis innerMirrors

/-- The reply to a facet is read as what the bottom of its tower reports. -/
theorem readFacet_of_mirrors_ofFacet
    {planned : PlannedFacet}
    (mirrors : Mirrors (.ofFacet planned) reply report) :
    readFacet facet reply = .ok (report.raw (!planned.nested.isEmpty)) ∧
      report.Fits planned.kind := by
  obtain ⟨innerReply, innerMirrors, sameReading⟩ :=
    exists_reply_of_mirrors_step rfl ⟨rfl, rfl, rfl⟩ mirrors
  rw [sameReading]
  exact readFacet_of_mirrors_tower planned.nested innerMirrors

end Towers

end Reading

end FacetSearch.Elastic
