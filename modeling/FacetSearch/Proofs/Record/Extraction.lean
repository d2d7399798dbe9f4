import FacetSearch.Record.Extract

namespace FacetSearch

/-!
# Extraction composes

A path may be cut at any of its dots: what it leads to is what its second part
leads to from wherever the first part led.  Arrays on the way do not disturb
this, although results that are arrays are spliced into the array around them
and results that are missing or `null` are dropped there.
-/

namespace Path

theorem segmentChars_ne_nil
    (path : List Char) :
    segmentChars path ≠ [] := by
  cases path with
  | nil =>
      simp [segmentChars]
  | cons c rest =>
      rw [segmentChars]
      split
      · simp
      · split <;> simp

/-- A dot between two paths keeps their segments apart. -/
theorem segmentChars_append
    (path rest : List Char) :
    segmentChars (path ++ '.' :: rest) = segmentChars path ++ segmentChars rest := by
  induction path with
  | nil =>
      simp [segmentChars]
  | cons c path inductionHypothesis =>
      rw [List.cons_append, segmentChars, segmentChars, inductionHypothesis]
      by_cases isDot : c = '.'
      · simp [isDot]
      · -- The character goes to the first segment, which is one of the first path.
        obtain ⟨first, others, cut⟩ := List.exists_cons_of_ne_nil (segmentChars_ne_nil path)
        simp [isDot, cut]

/-- A path through a dot has the segments of what is before it and of what is behind it. -/
theorem segments_append
    (path rest : String) :
    segments (path ++ "." ++ rest) = segments path ++ segments rest := by
  have dotted : (path ++ "." ++ rest).toList = path.toList ++ '.' :: rest.toList := by
    simp
  rw [segments, dotted, segmentChars_append, List.map_append, segments, segments]

theorem segments_ne_nil
    (path : String) :
    segments path ≠ [] := by
  simpa [segments] using segmentChars_ne_nil path.toList

end Path

namespace Json

section Items

variable {segments : List String}

theorem followItems_append_items
    (items others : List Json) :
    followItems segments (items ++ others) =
      followItems segments items ++ followItems segments others := by
  induction items with
  | nil =>
      rfl
  | cons item rest inductionHypothesis =>
      rw [List.cons_append, followItems, followItems, inductionHypothesis, List.append_assoc]

/-- A path that is not at its end goes on from every item of an array. -/
theorem follow?_array
    {items : List Json}
    (more : segments ≠ []) :
    follow? segments (.array items) = some (.array (followItems segments items)) := by
  cases segments with
  | nil =>
      exact (more rfl).elim
  | cons segment rest =>
      rw [follow?]

/--
A result that is followed further contributes to the array around it what its
own contributions do when they are followed further.
-/
theorem spliced_bind_follow?
    {found : Option Json}
    (more : segments ≠ []) :
    spliced (found.bind (follow? segments)) = followItems segments (spliced found) := by
  cases found with
  | none =>
      rfl
  | some value =>
      cases value with
      | null =>
          -- Nothing is found inside `null`, and nothing is contributed by it.
          cases segments with
          | nil =>
              exact (more rfl).elim
          | cons =>
              rfl
      | array inner =>
          rw [Option.bind_some, follow?_array more]
          rfl
      | bool | number | string | object =>
          simp [spliced, followItems]

end Items

section Composition

variable {later : List String}

mutual
/-- More segments are followed from what the first ones lead to. -/
theorem follow?_append
    (more : later ≠ []) :
    ∀ (segments : List String) (source : Json),
      follow? (segments ++ later) source = (follow? segments source).bind (follow? later)
  | [], source => by
      cases source <;> rfl
  | segment :: rest, .object members => by
      rw [List.cons_append, follow?, follow?]
      exact followMember?_append more segment rest members
  | segment :: rest, .array items => by
      rw [List.cons_append, follow?, follow?, Option.bind_some, follow?_array more]
      exact congrArg (fun results => some (array results))
        (followItems_append more (segment :: rest) items)
  | _ :: _, .null | _ :: _, .bool _ | _ :: _, .number _ | _ :: _, .string _ => rfl

theorem followMember?_append
    (more : later ≠ []) :
    ∀ (segment : String) (rest : List String) (members : List (String × Json)),
      followMember? segment (rest ++ later) members =
        (followMember? segment rest members).bind (follow? later)
  | _, _, [] => rfl
  | segment, rest, (name, value) :: others => by
      rw [followMember?, followMember?]
      split
      · exact follow?_append more rest value
      · exact followMember?_append more segment rest others

theorem followItems_append
    (more : later ≠ []) :
    ∀ (segments : List String) (items : List Json),
      followItems (segments ++ later) items = followItems later (followItems segments items)
  | _, [] => rfl
  | segments, item :: rest => by
      rw [followItems, followItems, followItems_append_items, follow?_append more segments item,
        spliced_bind_follow? more, followItems_append more segments rest]
end

end Composition

/--
Extraction composes: what two paths with a dot between them lead to is what the
second one leads to from where the first one led, and nothing if that led
nowhere.
-/
theorem extract?_through_dot
    (source : Json)
    (path rest : String) :
    source.extract? (path ++ "." ++ rest) =
      (source.extract? path).bind fun value => value.extract? rest := by
  rw [extract?, Path.segments_append]
  exact follow?_append (Path.segments_ne_nil rest) (Path.segments path) source

/-- A case with three donors: two diagnoses of the first have one stage, the last has none. -/
def stagedCase : Json :=
  .object [
    ("donors", .array [
      .object [
        ("diagnoses", .array [
          .object [("stage", .string "I")],
          .object [("stage", .null)]])],
      .object [("diagnoses", .array [.object [("stage", .array [.string "II"])]])],
      .object []])]

example :
    stagedCase.extract? "donors.diagnoses.stage" = some (.array [.string "I", .string "II"]) ∧
      (stagedCase.extract? "donors.diagnoses").bind (extract? · "stage") =
        some (.array [.string "I", .string "II"]) := by
  cbv

end Json

end FacetSearch
