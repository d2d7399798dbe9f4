import FacetSearch.Proofs.Search.SortKeys
import Mathlib.Algebra.Group.Int.Defs
import Mathlib.Algebra.Group.Nat.Defs
import Mathlib.Tactic.SplitIfs

namespace FacetSearch

/-!
# The window of a page

A window is requested in signed numbers and given in unsigned ones.  Over the
integers it is the requested one, and it is given exactly if it lies within the
limits: no conversion and no sum on the way decides otherwise.  Only the default
size is not requested in signed numbers: one beyond their range is taken for a
negative one.
-/

/-- An unsigned number read as a signed one. -/
theorem toInt_toInt64 (value : UInt64) :
    value.toInt64.toInt =
      if value.toNat < 2 ^ 63 then (value.toNat : Int) else (value.toNat : Int) - 2 ^ 64 := by
  rw [← Int64.toInt_toBitVec, UInt64.toBitVec_toInt64, BitVec.toInt_eq_toNat_cond,
    UInt64.toNat_toBitVec]
  split <;> split <;> omega

theorem toInt64_lt_zero_iff {value : UInt64} :
    value.toInt64 < 0 ↔ ¬value.toNat < 2 ^ 63 := by
  have bound := value.toNat_lt
  rw [Int64.lt_iff_toInt_lt, Int64.toInt_zero, toInt_toInt64]
  split <;> omega

theorem not_lt_zero_iff_toInt {value : Int64} : ¬value < 0 ↔ 0 ≤ value.toInt := by
  rw [Int64.lt_iff_toInt_lt, Int64.toInt_zero, Int.not_lt]

/-- A signed number that is not negative is the same unsigned one. -/
theorem natCast_toNat_toUInt64
    {value : Int64}
    (notNegative : ¬value < 0) :
    (value.toUInt64.toNat : Int) = value.toInt := by
  rw [← Int64.toInt64_toUInt64 value, toInt64_lt_zero_iff, Decidable.not_not] at notNegative
  have signed := toInt_toInt64 value.toUInt64
  rw [if_pos notNegative, Int64.toInt64_toUInt64] at signed
  exact signed.symm

/-- An unsigned number is a signed one exactly if that is not negative and converts to it. -/
theorem natCast_toNat_eq_toInt_iff
    {value : Int64}
    {word : UInt64} :
    (word.toNat : Int) = value.toInt ↔ ¬value < 0 ∧ value.toUInt64 = word := by
  constructor
  · intro same
    have notNegative : ¬value < 0 := not_lt_zero_iff_toInt.mpr (by omega)
    rw [← natCast_toNat_toUInt64 notNegative] at same
    exact ⟨notNegative, UInt64.toNat.inj (Int.natCast_inj.mp same.symm)⟩
  · rintro ⟨notNegative, rfl⟩
    exact natCast_toNat_toUInt64 notNegative

/-- A number that is not negative lies in the lower half of the unsigned ones. -/
theorem toNat_toUInt64_lt
    {value : Int64}
    (notNegative : ¬value < 0) :
    value.toUInt64.toNat < 2 ^ 63 := by
  have same := natCast_toNat_toUInt64 notNegative
  have bound := value.toInt_lt
  omega

namespace PageRequest

variable {settings : PageSettings} {request : PageRequest} {start size : UInt64}

/-- Two numbers that are not negative have an unsigned sum, so that no window has its end cut. -/
theorem toNat_windowEnd
    {offset first : Int64}
    (notNegativeOffset : ¬offset < 0)
    (notNegativeFirst : ¬first < 0) :
    (windowEnd offset.toUInt64 first.toUInt64).toNat =
      offset.toUInt64.toNat + first.toUInt64.toNat := by
  have offsetBound := toNat_toUInt64_lt notNegativeOffset
  have firstBound := toNat_toUInt64_lt notNegativeFirst
  have fits : offset.toUInt64.toNat + first.toUInt64.toNat < UInt64.size := by
    simp only [UInt64.size]
    omega
  exact UInt64.toNat_ofNatClamp_of_lt fits

/-- A window is given exactly if it is the requested one and lies within the limits. -/
theorem window_eq_ok_iff :
    request.window settings = .ok (start, size) ↔
      (size.toNat : Int) = (request.first.getD settings.defaultPageSize.toInt64).toInt ∧
        (start.toNat : Int) = (request.offset.getD 0).toInt ∧
        size.toNat ≤ settings.maxPageSize.toNat ∧
        start.toNat + size.toNat ≤ settings.maxResultWindow.toNat := by
  rw [window, natCast_toNat_eq_toInt_iff, natCast_toNat_eq_toInt_iff]
  generalize request.first.getD settings.defaultPageSize.toInt64 = first
  generalize request.offset.getD 0 = offset
  dsimp only
  constructor
  · intro given
    split_ifs at given with negativeFirst negativeOffset beyondPage beyondWindow
    obtain ⟨rfl, rfl⟩ := Prod.mk.inj (Except.ok.inj given)
    rw [UInt64.not_lt, UInt64.le_iff_toNat_le] at beyondPage beyondWindow
    rw [toNat_windowEnd negativeOffset negativeFirst] at beyondWindow
    exact ⟨⟨negativeFirst, rfl⟩, ⟨negativeOffset, rfl⟩, beyondPage, beyondWindow⟩
  · rintro ⟨⟨notNegativeFirst, rfl⟩, ⟨notNegativeOffset, rfl⟩, inPage, inWindow⟩
    rw [← toNat_windowEnd notNegativeOffset notNegativeFirst] at inWindow
    rw [← UInt64.le_iff_toNat_le, ← UInt64.not_lt] at inPage inWindow
    rw [if_neg notNegativeFirst, if_neg notNegativeOffset, if_neg inPage, if_neg inWindow]

/--
The size that a request asks for, as an integer.  Where it asks for none that is the
default one, read as a signed number.
-/
def requestedSize
    (settings : PageSettings)
    (request : PageRequest) :
    Int :=
  (request.first.getD settings.defaultPageSize.toInt64).toInt

/-- The start that a request asks for, as an integer; the first hit where it asks for none. -/
def requestedStart (request : PageRequest) : Int :=
  (request.offset.getD 0).toInt

/-- Over the integers, the window that a request asks for lies within the limits. -/
@[mk_iff]
structure IsWithin
    (settings : PageSettings)
    (request : PageRequest) :
    Prop where
  size_nonneg : 0 ≤ request.requestedSize settings
  size_le : request.requestedSize settings ≤ settings.maxPageSize.toNat
  start_nonneg : 0 ≤ request.requestedStart
  end_le :
    request.requestedStart + request.requestedSize settings ≤ settings.maxResultWindow.toNat

/-- What is given is what is requested, and that is within the limits. -/
theorem window_eq_ok_iff_isWithin :
    request.window settings = .ok (start, size) ↔
      request.IsWithin settings ∧
        (start.toNat : Int) = request.requestedStart ∧
        (size.toNat : Int) = request.requestedSize settings := by
  rw [window_eq_ok_iff]
  constructor
  · rintro ⟨sameSize, sameStart, inPage, inWindow⟩
    change (size.toNat : Int) = request.requestedSize settings at sameSize
    change (start.toNat : Int) = request.requestedStart at sameStart
    exact ⟨⟨by omega, by omega, by omega, by omega⟩, sameStart, sameSize⟩
  · rintro ⟨within, sameStart, sameSize⟩
    obtain ⟨-, inPage, -, inWindow⟩ := within
    exact ⟨sameSize, sameStart, by omega, by omega⟩

/-- A window within the limits is given. -/
theorem exists_window_iff :
    (∃ window, request.window settings = .ok window) ↔ request.IsWithin settings := by
  constructor
  · rintro ⟨⟨start, size⟩, given⟩
    exact (window_eq_ok_iff_isWithin.mp given).1
  · intro within
    have sameStart := natCast_toNat_toUInt64 (not_lt_zero_iff_toInt.mpr within.start_nonneg)
    have sameSize := natCast_toNat_toUInt64 (not_lt_zero_iff_toInt.mpr within.size_nonneg)
    exact ⟨(_, _), window_eq_ok_iff_isWithin.mpr ⟨within, sameStart, sameSize⟩⟩

/--
A request that asks for nothing gets the first window of the default size, where
that is within the limits and is a signed number.
-/
theorem window_standard
    (inPage : settings.defaultPageSize ≤ settings.maxPageSize)
    (inWindow : settings.maxPageSize ≤ settings.maxResultWindow) :
    standard.window settings =
      if settings.defaultPageSize.toNat < 2 ^ 63 then .ok (0, settings.defaultPageSize)
      else
        .error
          (.invalidPage (.negativeFirst ((settings.defaultPageSize.toNat : Int) - 2 ^ 64))) := by
  split
  case isTrue signed =>
      rw [UInt64.le_iff_toNat_le] at inPage inWindow
      refine window_eq_ok_iff.mpr ⟨?_, rfl, inPage, ?_⟩
      · exact ((toInt_toInt64 _).trans (if_pos signed)).symm
      · rw [UInt64.toNat_zero, Nat.zero_add]
        exact Nat.le_trans inPage inWindow
  case isFalse unsigned =>
      have negative : settings.defaultPageSize.toInt64 < 0 := toInt64_lt_zero_iff.mpr unsigned
      simp only [window, standard, Option.getD_none, negative, if_true, toInt_toInt64, unsigned,
        if_false]

end PageRequest

namespace Registry

/-- A page is given exactly if its window is within the limits and its sort resolves. -/
theorem exists_page_iff
    {registry : Registry}
    {settings : PageSettings}
    {requested : List SortField}
    {request : PageRequest} :
    (∃ page, registry.page settings requested request = .ok page) ↔
      request.IsWithin settings ∧ ∃ keys, registry.sortKeys requested = .ok keys := by
  simp only [page_eq_ok_iff]
  constructor
  · rintro ⟨page, window, sorts⟩
    exact ⟨PageRequest.exists_window_iff.mp ⟨_, window⟩, _, sorts⟩
  · rintro ⟨within, keys, sorts⟩
    obtain ⟨⟨start, size⟩, window⟩ := PageRequest.exists_window_iff.mpr within
    exact ⟨{ sort := keys, start, size }, window, sorts⟩

/--
A window of a requested size is given exactly if, over the integers, its size and
start are not negative, its size is at most the largest one and it ends within the
largest window.  It is then the requested one, and it is that of the page, if there is one.
-/
theorem requested_window_exact
    (registry : Registry)
    (settings : PageSettings)
    (sort : List SortField)
    (first : Int64)
    (offset : Option Int64) :
    let request : PageRequest := { first := some first, offset := offset }
    let requestedStart : Int := offset.elim 0 Int64.toInt
    let within : Prop :=
      0 ≤ first.toInt ∧
        first.toInt ≤ settings.maxPageSize.toNat ∧
        0 ≤ requestedStart ∧
        requestedStart + first.toInt ≤ settings.maxResultWindow.toNat
    ((∃ window, request.window settings = .ok window) ↔ within) ∧
      (∀ start size : UInt64,
        request.window settings = .ok (start, size) ↔
          within ∧ (start.toNat : Int) = requestedStart ∧ (size.toNat : Int) = first.toInt) ∧
      ∀ page,
        registry.page settings sort request = .ok page ↔
          within ∧
            (page.start.toNat : Int) = requestedStart ∧
            (page.size.toNat : Int) = first.toInt ∧
            registry.sortKeys sort = .ok page.sort := by
  intro request requestedStart within
  have sameStart : request.requestedStart = requestedStart := by
    cases offset <;> rfl
  have sameSize : request.requestedSize settings = first.toInt := rfl
  have sameLimits : request.IsWithin settings ↔ within := by
    rw [PageRequest.isWithin_iff, sameStart, sameSize]
  have given :
      ∀ start size : UInt64,
        request.window settings = .ok (start, size) ↔
          within ∧ (start.toNat : Int) = requestedStart ∧ (size.toNat : Int) = first.toInt := by
    intro start size
    rw [PageRequest.window_eq_ok_iff_isWithin, sameLimits, sameStart, sameSize]
  refine ⟨PageRequest.exists_window_iff.trans sameLimits, given, ?_⟩
  intro page
  simp only [page_eq_ok_iff, given, and_assoc]

end Registry

/-- The largest requested numbers have their sum among the unsigned ones. -/
example :
    PageRequest.window
        { defaultPageSize := 0, maxPageSize := UInt64.ofNat (2 ^ 64 - 1),
          maxResultWindow := UInt64.ofNat (2 ^ 64 - 2) }
        { first := some Int64.maxValue, offset := some Int64.maxValue } =
      .ok (UInt64.ofNat (2 ^ 63 - 1), UInt64.ofNat (2 ^ 63 - 1)) := by
  decide +kernel

end FacetSearch
