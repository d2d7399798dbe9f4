namespace FacetSearch

/-!
# Keys of document types

A document type is found by its project and its name.  Keys are ordered by
project and then by name.
-/

/-- The project and the name of a document type. -/
@[ext]
structure TypeKey where
  project : String
  name : String
  deriving DecidableEq, Repr, Inhabited

namespace TypeKey

instance : LT TypeKey where
  lt left right :=
    left.project < right.project ∨
      (left.project = right.project ∧ left.name < right.name)

instance : DecidableLT TypeKey := fun left right =>
  inferInstanceAs (Decidable
    (left.project < right.project ∨
      (left.project = right.project ∧ left.name < right.name)))

instance : Std.Irrefl (α := TypeKey) (· < ·) where
  irrefl key before := by
    rcases before with before | ⟨-, before⟩
    · exact String.lt_irrefl _ before
    · exact String.lt_irrefl _ before

instance : Trans (α := TypeKey) (· < ·) (· < ·) (· < ·) where
  trans {first second third} before before' := by
    rcases before with before | ⟨sameProject, before⟩
    · rcases before' with before' | ⟨sameProject', -⟩
      · exact Or.inl (String.lt_trans before before')
      · exact Or.inl (sameProject' ▸ before)
    · rcases before' with before' | ⟨sameProject', before'⟩
      · exact Or.inl (sameProject ▸ before')
      · exact Or.inr ⟨sameProject.trans sameProject', String.lt_trans before before'⟩

/-- Of two keys one is before the other, unless they are the same. -/
instance : Std.Trichotomous (α := TypeKey) (· < ·) where
  trichotomous left right notBefore notAfter := by
    have sameProject : left.project = right.project :=
      Std.Trichotomous.trichotomous (r := (· < ·)) left.project right.project
        (fun before => notBefore (Or.inl before)) (fun after => notAfter (Or.inl after))
    have sameName : left.name = right.name :=
      Std.Trichotomous.trichotomous (r := (· < ·)) left.name right.name
        (fun before => notBefore (Or.inr ⟨sameProject, before⟩))
        (fun after => notAfter (Or.inr ⟨sameProject.symm, after⟩))
    exact TypeKey.ext sameProject sameName

/-- The text of a key. -/
def text (key : TypeKey) : String :=
  key.project ++ "/" ++ key.name

end TypeKey

end FacetSearch
