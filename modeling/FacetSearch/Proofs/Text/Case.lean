import FacetSearch.Text.Ascii
import Mathlib.Data.List.Forall2

namespace FacetSearch.Text

/-!
# Names in any case

Lowering a text tells which name it is, whatever the case of its letters: the
texts that lower to a name are those that have, character by character, the
character of the name or its capital.
-/

/-- A text is a name in some ASCII case. -/
def IsCaseOf
    (name text : String) :
    Prop :=
  List.Forall₂ (fun c d => c = d ∨ c = upperAscii d) text.toList name.toList

theorem upperAscii_lowerAscii
    {c : Char}
    (isCapital : 'A' ≤ c ∧ c ≤ 'Z') :
    upperAscii (lowerAscii c) = c := by
  have isAscii : c.toNat < 128 := Nat.lt_of_le_of_lt isCapital.2 (by decide)
  have ofCode :
      ∀ code < 128, 'A' ≤ Char.ofNat code ∧ Char.ofNat code ≤ 'Z' →
        upperAscii (lowerAscii (Char.ofNat code)) = Char.ofNat code := by
    decide
  simpa only [Char.ofNat_toNat] using ofCode c.toNat isAscii (by rwa [Char.ofNat_toNat])

theorem lowerAscii_upperAscii
    {c : Char}
    (isLetter : 'a' ≤ c ∧ c ≤ 'z') :
    lowerAscii (upperAscii c) = c := by
  have isAscii : c.toNat < 128 := Nat.lt_of_le_of_lt isLetter.2 (by decide)
  have ofCode :
      ∀ code < 128, 'a' ≤ Char.ofNat code ∧ Char.ofNat code ≤ 'z' →
        lowerAscii (upperAscii (Char.ofNat code)) = Char.ofNat code := by
    decide
  simpa only [Char.ofNat_toNat] using ofCode c.toNat isAscii (by rwa [Char.ofNat_toNat])

/-- What lowers to a character that is no capital is that character or its capital. -/
theorem lowerAscii_eq_iff
    {c d : Char}
    (isLower : lowerAscii d = d) :
    lowerAscii c = d ↔ c = d ∨ c = upperAscii d := by
  constructor
  · rintro rfl
    by_cases isCapital : 'A' ≤ c ∧ c ≤ 'Z'
    · exact .inr (upperAscii_lowerAscii isCapital).symm
    · rw [lowerAscii, if_neg isCapital]
      exact .inl rfl
  · rintro (rfl | rfl)
    · exact isLower
    · by_cases isLetter : 'a' ≤ d ∧ d ≤ 'z'
      · exact lowerAscii_upperAscii isLetter
      · rw [upperAscii, if_neg isLetter, isLower]

/-- The texts that lower to a name in lower case are the name in every case. -/
theorem lower_eq_iff
    {name text : String}
    (isLower : lower name = name) :
    lower text = name ↔ IsCaseOf name text := by
  have kept : ∀ d ∈ name.toList, lowerAscii d = d := by
    rw [← String.toList_inj, lower, String.toList_ofList] at isLower
    apply List.map_inj_left.mp
    rw [isLower, List.map_id']
  rw [← String.toList_inj, lower, String.toList_ofList, ← List.forall₂_eq_eq_eq,
    List.forall₂_map_left_iff, IsCaseOf, List.forall₂_iff_zip, List.forall₂_iff_zip]
  apply and_congr_right'
  apply forall₂_congr
  intro c d
  apply imp_congr_right
  intro paired
  exact lowerAscii_eq_iff (kept d (List.of_mem_zip paired).2)

end FacetSearch.Text
