import FacetSearch.Number.Numeral
import FacetSearch.Proofs.Text.Case
import Mathlib.Algebra.Field.Rat
import Mathlib.Data.List.TakeWhile

namespace FacetSearch

namespace Numeral

/-!
# What numerals denote

A decimal is a sign, digits around a point and an exponent; of these the sign,
the point and the exponent may be left out.  It denotes a rational number.  The
other numerals are words for an infinity or a NaN, and denote none.
-/

/-- A sign that may be left out, and the factor that it stands for. -/
inductive SignDenotes : List Char → Int → Prop where
  | absent : SignDenotes [] 1
  | plus : SignDenotes ['+'] 1
  | minus : SignDenotes ['-'] (-1)

/-- Decimal digits and nothing else. -/
def AreDigits (chars : List Char) : Prop :=
  ∀ c ∈ chars, Text.isDigit c = true

/-- Digits with an optional point among or around them, and the magnitude that they write. -/
inductive MantissaDenotes : List Char → ℚ → Prop where
  | whole
      {digits : List Char}
      (areDigits : AreDigits digits)
      (nonempty : digits ≠ []) :
      MantissaDenotes digits (Text.digitsValue digits)
  | pointed
      {whole fraction : List Char}
      (wholeDigits : AreDigits whole)
      (fractionDigits : AreDigits fraction)
      (nonempty : whole ≠ [] ∨ fraction ≠ []) :
      MantissaDenotes (whole ++ '.' :: fraction)
        (Text.digitsValue (whole ++ fraction) / 10 ^ fraction.length)

/-- An exponent that may be left out, and the power of ten that it stands for. -/
inductive ExponentDenotes : List Char → Int → Prop where
  | absent : ExponentDenotes [] 0
  | marked
      {mark : Char}
      {sign digits : List Char}
      {factor : Int}
      (isMark : mark = 'e' ∨ mark = 'E')
      (signed : SignDenotes sign factor)
      (areDigits : AreDigits digits)
      (nonempty : digits ≠ []) :
      ExponentDenotes (mark :: (sign ++ digits)) (factor * Text.digitsValue digits)

/-- A decimal and the number that it denotes. -/
inductive Denotes : List Char → ℚ → Prop where
  | decimal
      {sign mantissa exponent : List Char}
      {factor scale : Int}
      {magnitude : ℚ}
      (signed : SignDenotes sign factor)
      (counted : MantissaDenotes mantissa magnitude)
      (scaled : ExponentDenotes exponent scale) :
      Denotes (sign ++ (mantissa ++ exponent)) (factor * magnitude * 10 ^ scale)

/-- A word for an infinity or a NaN in any case, behind a sign that may be left out. -/
def IsNonFinite (chars : List Char) : Prop :=
  ∃ sign factor word,
    SignDenotes sign factor ∧ word.map Text.lowerAscii ∈ words ∧ sign ++ word = chars

section Signs

theorem exists_sign
    (chars : List Char) :
    ∃ sign factor, SignDenotes sign factor ∧ sign ++ dropSign chars = chars := by
  unfold dropSign
  split
  · exact ⟨['+'], 1, .plus, rfl⟩
  · exact ⟨['-'], -1, .minus, rfl⟩
  · exact ⟨[], 1, .absent, rfl⟩

theorem dropSign_eq_self
    {chars : List Char}
    (unsigned : ∀ c ∈ chars.head?, c ≠ '+' ∧ c ≠ '-') :
    dropSign chars = chars := by
  unfold dropSign
  split
  · exact ((unsigned '+' rfl).1 rfl).elim
  · exact ((unsigned '-' rfl).2 rfl).elim
  · rfl

/-- A sign is dropped from what does not begin with another one. -/
theorem dropSign_append
    {sign rest : List Char}
    {factor : Int}
    (signed : SignDenotes sign factor)
    (unsigned : ∀ c ∈ rest.head?, c ≠ '+' ∧ c ≠ '-') :
    dropSign (sign ++ rest) = rest := by
  cases signed with
  | absent =>
      exact dropSign_eq_self unsigned
  | plus | minus =>
      rfl

end Signs

section Digits

variable {digits rest : List Char}

theorem ne_sign_of_isDigit
    {c : Char}
    (digit : Text.isDigit c = true) :
    c ≠ '+' ∧ c ≠ '-' := by
  constructor
  · intro isPlus
    subst isPlus
    cases digit
  · intro isMinus
    subst isMinus
    cases digit

theorem isDigits_eq_true_iff :
    isDigits digits = true ↔ digits ≠ [] ∧ AreDigits digits := by
  simp [isDigits, AreDigits]

theorem areDigits_takeWhile
    (chars : List Char) :
    AreDigits (chars.takeWhile Text.isDigit) :=
  fun _ taken => List.mem_takeWhile_imp taken

theorem head?_mem_of_areDigits
    (areDigits : AreDigits digits) :
    ∀ c ∈ digits.head?, Text.isDigit c = true :=
  fun c isHead => areDigits c (List.mem_of_mem_head? isHead)

/-- A run of digits is taken as a whole from before what does not begin with one. -/
theorem takeWhile_append
    (areDigits : AreDigits digits)
    (ended : ∀ c ∈ rest.head?, Text.isDigit c = false) :
    (digits ++ rest).takeWhile Text.isDigit = digits := by
  have noneTaken : rest.takeWhile Text.isDigit = [] := by
    cases rest with
    | nil =>
        rfl
    | cons c _ =>
        rw [List.takeWhile_cons_of_neg]
        simp [ended c rfl]
  rw [List.takeWhile_append_of_pos areDigits, noneTaken, List.append_nil]

theorem dropWhile_append
    (areDigits : AreDigits digits)
    (ended : ∀ c ∈ rest.head?, Text.isDigit c = false) :
    (digits ++ rest).dropWhile Text.isDigit = rest := by
  have parts := List.takeWhile_append_dropWhile (p := Text.isDigit) (l := digits ++ rest)
  rw [takeWhile_append areDigits ended] at parts
  exact List.append_cancel_left parts

end Digits

section Parts

variable {chars mantissa exponent : List Char} {magnitude : ℚ} {scale : Int}

theorem ExponentDenotes.ends_digits
    (scaled : ExponentDenotes exponent scale) :
    ∀ c ∈ exponent.head?, Text.isDigit c = false ∧ c ≠ '.' := by
  cases scaled with
  | absent =>
      simp
  | marked isMark _ _ _ =>
      intro _ isHead
      cases isHead
      rcases isMark with rfl | rfl <;> decide

theorem isExponent_eq_true_iff :
    isExponent chars = true ↔ ∃ scale, ExponentDenotes chars scale := by
  cases chars with
  | nil =>
      exact ⟨fun _ => ⟨0, .absent⟩, fun _ => rfl⟩
  | cons mark rest =>
      simp only [isExponent, Bool.and_eq_true, Bool.or_eq_true, beq_iff_eq, isDigits_eq_true_iff]
      constructor
      · intro accepted
        rcases accepted with ⟨isMark, nonempty, areDigits⟩
        obtain ⟨sign, factor, signed, parts⟩ := exists_sign rest
        have scaled := ExponentDenotes.marked isMark signed areDigits nonempty
        rw [parts] at scaled
        exact ⟨_, scaled⟩
      · intro denotes
        rcases denotes with ⟨_, scaled⟩
        cases scaled with
        | marked isMark signed areDigits nonempty =>
            rw [dropSign_append signed fun c isHead =>
              ne_sign_of_isDigit (head?_mem_of_areDigits areDigits c isHead)]
            exact ⟨isMark, nonempty, areDigits⟩

/-- A mantissa begins with a digit or with the point. -/
theorem MantissaDenotes.exists_first
    (counted : MantissaDenotes mantissa magnitude) :
    ∃ first rest, mantissa = first :: rest ∧ (Text.isDigit first = true ∨ first = '.') := by
  cases counted with
  | whole areDigits nonempty =>
      obtain ⟨first, rest, rfl⟩ := List.exists_cons_of_ne_nil nonempty
      exact ⟨first, rest, rfl, .inl (areDigits first List.mem_cons_self)⟩
  | @pointed whole fraction wholeDigits _ _ =>
      cases whole with
      | nil =>
          exact ⟨'.', fraction, rfl, .inr rfl⟩
      | cons first rest =>
          exact ⟨first, _, rfl, .inl (wholeDigits first List.mem_cons_self)⟩

theorem isDecimal_of_denotes
    (counted : MantissaDenotes mantissa magnitude)
    (scaled : ExponentDenotes exponent scale) :
    isDecimal (mantissa ++ exponent) = true := by
  have ended : ∀ c ∈ exponent.head?, Text.isDigit c = false :=
    fun c isHead => (scaled.ends_digits c isHead).1
  have accepted : isExponent exponent = true := isExponent_eq_true_iff.mpr ⟨scale, scaled⟩
  cases counted with
  | whole areDigits nonempty =>
      simp only [isDecimal, takeWhile_append areDigits ended, dropWhile_append areDigits ended]
      split
      · exact ((scaled.ends_digits '.' rfl).2 rfl).elim
      · simp [nonempty, accepted]
  | @pointed whole fraction wholeDigits fractionDigits nonempty =>
      have atPoint : ∀ c ∈ ('.' :: (fraction ++ exponent)).head?, Text.isDigit c = false := by
        intro _ isHead
        cases isHead
        rfl
      rw [List.append_assoc, List.cons_append]
      simp only [isDecimal, takeWhile_append wholeDigits atPoint,
        dropWhile_append wholeDigits atPoint, takeWhile_append fractionDigits ended,
        dropWhile_append fractionDigits ended, accepted]
      simpa [Decidable.not_and_iff_or_not] using nonempty

theorem exists_denotes_of_isDecimal
    (decimal : isDecimal chars = true) :
    ∃ mantissa exponent magnitude scale,
      MantissaDenotes mantissa magnitude ∧ ExponentDenotes exponent scale ∧
        mantissa ++ exponent = chars := by
  have parts := List.takeWhile_append_dropWhile (p := Text.isDigit) (l := chars)
  have wholeDigits := areDigits_takeWhile chars
  unfold isDecimal at decimal
  -- What stands behind the first run of digits, a point or not, decides what the mantissa is.
  split at decimal
  case h_1 rest atPoint =>
      have fractionParts := List.takeWhile_append_dropWhile (p := Text.isDigit) (l := rest)
      simp only [Bool.and_eq_true, Bool.not_eq_true', Bool.and_eq_false_iff,
        List.isEmpty_eq_false_iff, isExponent_eq_true_iff] at decimal
      obtain ⟨nonempty, scale, scaled⟩ := decimal
      refine ⟨_, _, _, _, .pointed wholeDigits (areDigits_takeWhile rest) nonempty, scaled, ?_⟩
      rw [List.append_assoc, List.cons_append, fractionParts, ← atPoint, parts]
  case h_2 rest _ =>
      simp only [Bool.and_eq_true, Bool.not_eq_true', List.isEmpty_eq_false_iff,
        isExponent_eq_true_iff] at decimal
      obtain ⟨nonempty, scale, scaled⟩ := decimal
      exact ⟨_, _, _, _, .whole wholeDigits nonempty, scaled, parts⟩

end Parts

section Numerals

variable {chars word : List Char} {value : ℚ}

/-- A word begins with a letter, and not as a decimal does. -/
theorem exists_first_of_word
    (isWord : word.map Text.lowerAscii ∈ words) :
    ∃ first rest,
      word = first :: rest ∧ Text.isDigit first = false ∧
        first ≠ '.' ∧ first ≠ '+' ∧ first ≠ '-' := by
  cases word with
  | nil =>
      simp [words] at isWord
  | cons first rest =>
      have lowered : Text.lowerAscii first = 'i' ∨ Text.lowerAscii first = 'n' := by
        simp only [words, List.map_cons, List.mem_cons, List.not_mem_nil, or_false] at isWord
        rcases isWord with isInf | isInfinity | isNan
        · exact .inl (List.cons.inj isInf).1
        · exact .inl (List.cons.inj isInfinity).1
        · exact .inr (List.cons.inj isNan).1
      rw [Text.lowerAscii_eq_iff rfl, Text.lowerAscii_eq_iff rfl] at lowered
      refine ⟨first, rest, rfl, ?_⟩
      rcases lowered with (rfl | rfl) | (rfl | rfl) <;> decide

theorem dropSign_append_word
    {sign : List Char}
    {factor : Int}
    (signed : SignDenotes sign factor)
    (isWord : word.map Text.lowerAscii ∈ words) :
    dropSign (sign ++ word) = word := by
  obtain ⟨first, rest, rfl, -, -, unsigned⟩ := exists_first_of_word isWord
  apply dropSign_append signed
  intro _ isHead
  cases isHead
  exact unsigned

theorem isNonFinite_iff :
    IsNonFinite chars ↔ (dropSign chars).map Text.lowerAscii ∈ words := by
  constructor
  · intro nonFinite
    rcases nonFinite with ⟨sign, factor, word, signed, isWord, rfl⟩
    rwa [dropSign_append_word signed isWord]
  · intro isWord
    obtain ⟨sign, factor, signed, parts⟩ := exists_sign chars
    exact ⟨sign, factor, dropSign chars, signed, isWord, parts⟩

instance : Decidable (IsNonFinite chars) :=
  decidable_of_iff _ isNonFinite_iff.symm

theorem dropSign_append_mantissa
    {sign mantissa exponent : List Char}
    {factor : Int}
    {magnitude : ℚ}
    (signed : SignDenotes sign factor)
    (counted : MantissaDenotes mantissa magnitude) :
    dropSign (sign ++ (mantissa ++ exponent)) = mantissa ++ exponent := by
  obtain ⟨first, rest, rfl, isFirst⟩ := counted.exists_first
  apply dropSign_append signed
  intro _ isHead
  cases isHead
  rcases isFirst with isDigit | rfl
  · exact ne_sign_of_isDigit isDigit
  · decide

/-- The signed decimals are the texts that denote a number. -/
theorem isDecimal_dropSign_iff :
    isDecimal (dropSign chars) = true ↔ ∃ value, Denotes chars value := by
  constructor
  · intro decimal
    obtain ⟨sign, factor, signed, parts⟩ := exists_sign chars
    obtain ⟨mantissa, exponent, magnitude, scale, counted, scaled, unsignedParts⟩ :=
      exists_denotes_of_isDecimal decimal
    refine ⟨factor * magnitude * 10 ^ scale, ?_⟩
    rw [← parts, ← unsignedParts]
    exact .decimal signed counted scaled
  · intro isNumber
    rcases isNumber with ⟨_, denotes⟩
    cases denotes with
    | decimal signed counted scaled =>
        rw [dropSign_append_mantissa signed counted]
        exact isDecimal_of_denotes counted scaled

/-- What denotes a number is no word for an infinity or a NaN. -/
theorem Denotes.not_isNonFinite
    (denotes : Denotes chars value) :
    ¬ IsNonFinite chars := by
  intro isWord
  rw [isNonFinite_iff] at isWord
  cases denotes with
  | decimal signed counted scaled =>
      rw [dropSign_append_mantissa signed counted] at isWord
      obtain ⟨letter, _, begins, notDigit, notPoint, -⟩ := exists_first_of_word isWord
      obtain ⟨first, _, rfl, isFirst⟩ := counted.exists_first
      obtain rfl : first = letter := (List.cons.inj begins).1
      rcases isFirst with isDigit | isPoint
      · rw [notDigit] at isDigit
        cases isDigit
      · exact notPoint isPoint

end Numerals

end Numeral

/-- A numeral denotes a number, or is a word for an infinity or a NaN. -/
theorem isNumeral_iff
    {text : String} :
    isNumeral text = true ↔
      (∃ value, Numeral.Denotes text.toList value) ∨ Numeral.IsNonFinite text.toList := by
  rw [isNumeral, Bool.or_eq_true, Numeral.isDecimal_dropSign_iff, List.contains_iff_mem,
    Numeral.isNonFinite_iff]

example : isNumeral "-.5E1" = true ∧ isNumeral "+nan" = true ∧ isNumeral "1e" = false := by
  decide

end FacetSearch
