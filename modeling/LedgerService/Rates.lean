import Mathlib.Data.List.DropRight
import LedgerService.Amounts
import LedgerService.Conversion

set_option autoImplicit false

namespace LedgerService

open Literals

-- One to eighteen digits; after a dot, at most twelve.
structure RateText where
  whole : List Char
  fraction : Option (List Char)
  wholeDigits : whole.all Char.isDigit = true
  fractionDigits : (fraction.getD []).all Char.isDigit = true
  wholeLength : 1 ≤ whole.length ∧ whole.length ≤ 18
  fractionLength : (fraction.getD []).length ≤ 12

namespace RateText

def fractional (text : RateText) : List Char := text.fraction.getD []

def chars (text : RateText) : List Char :=
  match text.fraction with
  | none => text.whole
  | some fractional => text.whole ++ '.' :: fractional

def value (text : RateText) : Rat :=
  Nat.ofDigitChars 10 text.whole 0 +
    (Nat.ofDigitChars 10 text.fractional 0 : Rat) / 10 ^ text.fractional.length

def Respells (first second : RateText) : Prop :=
  first.whole.dropWhile (· = '0') = second.whole.dropWhile (· = '0') ∧
    first.fractional.rdropWhile (· = '0') = second.fractional.rdropWhile (· = '0')

theorem value_eq (text : RateText) :
    text.value = (Nat.ofDigitChars 10 (text.whole ++ text.fractional) 0 : Rat) /
      10 ^ text.fractional.length := by
  have nonzero : (10 : Rat) ^ text.fractional.length ≠ 0 := pow_ne_zero _ (by norm_num)
  have joined : Nat.ofDigitChars 10 (text.whole ++ text.fractional) 0 =
      Nat.ofDigitChars 10 text.whole 0 * 10 ^ text.fractional.length +
        Nat.ofDigitChars 10 text.fractional 0 := by
    rw [Nat.ofDigitChars_append, Nat.ofDigitChars_eq_ofDigitChars_zero]
    ring
  rw [value, joined]
  push_cast
  field_simp

theorem splitOnce_chars (text : RateText) :
    (Text.splitOnce '.' text.chars).getD (text.chars, []) = (text.whole, text.fractional) := by
  have absent : '.' ∉ text.whole := Literal.not_mem_digits rfl text.wholeDigits
  cases point : text.fraction with
  | none => simp [chars, fractional, point, Text.splitOnce_eq_none.mpr absent]
  | some digits => simp [chars, fractional, point, Text.splitOnce_append absent]

theorem count_chars (text : RateText) : text.chars.count '.' ≤ 1 := by
  have whole : text.whole.count '.' = 0 :=
    List.count_eq_zero.mpr (Literal.not_mem_digits rfl text.wholeDigits)
  have fractional : text.fractional.count '.' = 0 :=
    List.count_eq_zero.mpr (Literal.not_mem_digits rfl text.fractionDigits)
  cases point : text.fraction with
  | none => simp [chars, point, whole]
  | some digits =>
    simp only [RateText.fractional, point, Option.getD_some] at fractional
    simp [chars, point, whole, fractional]

section Zeros

theorem ofDigitChars_dropWhile (digits : List Char) :
    Nat.ofDigitChars 10 (digits.dropWhile (· = '0')) 0 = Nat.ofDigitChars 10 digits 0 := by
  induction digits with
  | nil => rfl
  | cons c rest ih =>
    by_cases zero : c = '0'
    · subst zero
      rw [List.dropWhile_cons_of_pos (by simp), ih, ofDigitChars_cons_eq]
      simp
    · rw [List.dropWhile_cons_of_neg (by simpa using zero)]

theorem fraction_rdropWhile (digits : List Char) :
    (Nat.ofDigitChars 10 (digits.rdropWhile (· = '0')) 0 : Rat) /
        10 ^ (digits.rdropWhile (· = '0')).length =
      Nat.ofDigitChars 10 digits 0 / 10 ^ digits.length := by
  induction digits using List.reverseRecOn with
  | nil => rfl
  | append_singleton front c ih =>
    by_cases zero : c = '0'
    · subst zero
      have shift : Nat.ofDigitChars 10 (front ++ ['0']) 0 = 10 * Nat.ofDigitChars 10 front 0 := by
        rw [Nat.ofDigitChars_append, Nat.ofDigitChars_eq_ofDigitChars_zero]
        simp [Nat.ofDigitChars]
      rw [List.rdropWhile_concat_pos _ _ _ (by simp), ih, shift, List.length_append]
      simp only [List.length_singleton, pow_succ]
      push_cast
      rw [mul_comm (10 : Rat) (Nat.ofDigitChars 10 front 0), mul_div_mul_right _ _ (by norm_num)]
    · rw [List.rdropWhile_concat_neg _ _ _ (by simpa using zero)]

theorem Respells.value_eq {first second : RateText} (respelled : first.Respells second) :
    first.value = second.value := by
  obtain ⟨whole, fraction⟩ := respelled
  rw [value, value, ← ofDigitChars_dropWhile first.whole, ← ofDigitChars_dropWhile second.whole,
    ← fraction_rdropWhile first.fractional, ← fraction_rdropWhile second.fractional, whole, fraction]

end Zeros

end RateText

namespace ExactRate

section Parsing

variable {input : String}

theorem parse_spelled {text : RateText} (reads : input.toList = text.chars) :
    (0 < text.value → ∃ rate, parse input = .ok rate ∧ rate.value = text.value) ∧
      (text.value ≤ 0 → parse input = .error .invalidRate) := by
  have accepted : ¬ (text.whole = [] ∨ ¬ text.whole.all Char.isDigit ∨
      ¬ text.fractional.all Char.isDigit ∨ 18 < text.whole.length ∨ 12 < text.fractional.length ∨
      30 < text.whole.length + text.fractional.length ∨ 1 < text.chars.count '.') := by
    have dots := text.count_chars
    have length := text.wholeLength
    have fraction : text.fractional.length ≤ 12 := text.fractionLength
    have someDigit : text.whole ≠ [] := by
      intro empty
      simp [empty] at length
    have fractional : text.fractional.all Char.isDigit = true := text.fractionDigits
    simp only [someDigit, text.wholeDigits, fractional, not_true, false_or, not_or, Nat.not_lt]
    omega
  have divisor : (0 : Rat) < 10 ^ text.fractional.length := by positivity
  have sign : 0 < text.value ↔
      0 < (Nat.ofDigitChars 10 (text.whole ++ text.fractional) 0 : Int) := by
    rw [text.value_eq, div_pos_iff_of_pos_right divisor]
    exact_mod_cast Iff.rfl
  have split := text.splitOnce_chars
  rw [← reads] at split accepted
  unfold parse
  simp only [split]
  rw [dif_neg accepted]
  constructor
  · intro positive
    rw [dif_pos (sign.mp positive)]
    exact ⟨_, rfl, text.value_eq.symm⟩
  · intro nonpositive
    rw [dif_neg fun positive => not_lt.mpr nonpositive (sign.mpr positive)]

theorem reads_of_parse {rate : ExactRate} (parsed : parse input = .ok rate) :
    ∃ text : RateText, input.toList = text.chars := by
  unfold parse at parsed
  cases split : Text.splitOnce '.' input.toList with
  | none =>
    simp only [split, Option.getD_none] at parsed
    split at parsed
    · cases parsed
    · rename_i bounds
      simp only [not_or, not_not, Nat.not_lt] at bounds
      obtain ⟨nonempty, whole, fractional, long, short, _⟩ := bounds
      have length := List.length_pos_iff.mpr nonempty
      exact ⟨⟨input.toList, none, whole, fractional, ⟨length, long⟩, short⟩, rfl⟩
  | some parts =>
    simp only [split, Option.getD_some] at parsed
    split at parsed
    · cases parsed
    · rename_i bounds
      simp only [not_or, not_not, Nat.not_lt] at bounds
      obtain ⟨nonempty, whole, fractional, long, short, _⟩ := bounds
      have length := List.length_pos_iff.mpr nonempty
      exact ⟨⟨parts.1, some parts.2, whole, fractional, ⟨length, long⟩, short⟩,
        Text.splitOnce_eq_some split⟩

theorem error_of_parse {error : ArithmeticError} (parsed : parse input = .error error) :
    error = .invalidRate := by
  unfold parse at parsed
  dsimp only at parsed
  split at parsed
  · exact (Except.error.inj parsed).symm
  · split at parsed
    · cases parsed
    · exact (Except.error.inj parsed).symm

theorem parse_of_no_text (malformed : ¬ ∃ text : RateText, input.toList = text.chars ∧ 0 < text.value) :
    parse input = .error .invalidRate := by
  by_cases reads : ∃ text : RateText, input.toList = text.chars
  · obtain ⟨text, reads⟩ := reads
    refine (parse_spelled reads).2 (not_lt.mp ?_)
    intro positive
    exact malformed ⟨text, reads, positive⟩
  · cases parsed : parse input with
    | ok rate => exact absurd (reads_of_parse parsed) reads
    | error error => rw [error_of_parse parsed]

end Parsing

theorem calculateDestination_congr {sourceMinor : I64} {sourceScale destinationScale : Nat}
    {first second : ExactRate} (same : first.value = second.value) :
    calculateDestination sourceMinor sourceScale destinationScale first =
      calculateDestination sourceMinor sourceScale destinationScale second := by
  by_cases positive : 0 < sourceMinor.val
  · by_cases large : 18 < sourceScale ∨ 18 < destinationScale
    · rw [calculateDestination_error.2 positive large, calculateDestination_error.2 positive large]
    · simp only [not_or, Nat.not_lt] at large
      rw [calculateDestination_eq positive large.1 large.2,
        calculateDestination_eq positive large.1 large.2, converted, converted, same]
  · rw [calculateDestination_error.1 (not_lt.mp positive),
      calculateDestination_error.1 (not_lt.mp positive)]

end ExactRate

section Stored

variable {coefficient : Int}

def RateText.stored (coefficient : Int) (bound : coefficient.natAbs < 10 ^ 30) : RateText where
  whole := Nat.toDigits 10 (coefficient.natAbs / 10 ^ 12)
  fraction := some (Text.padded 12 (coefficient.natAbs % 10 ^ 12))
  wholeDigits := Text.isDigit_toDigits _
  fractionDigits := Text.isDigit_padded _ _
  wholeLength := by
    have someDigit := List.length_pos_iff.mpr
      (Nat.toDigits_ne_nil (n := coefficient.natAbs / 10 ^ 12) (b := 10))
    have short := (Nat.length_toDigits_le_iff (b := 10) (n := coefficient.natAbs / 10 ^ 12)
      (k := 18) (by decide) (by decide)).mpr (by omega)
    exact ⟨someDigit, short⟩
  fractionLength := (Text.length_padded (by decide) (Nat.mod_lt _ (by decide))).le

namespace RateText

variable (positive : 0 < coefficient) (bound : coefficient.natAbs < 10 ^ 30)

theorem length_stored : (stored coefficient bound).fractional.length = 12 :=
  Text.length_padded (by decide) (Nat.mod_lt _ (by decide))

include positive

theorem chars_stored : (Numeric.finite coefficient).text.toList = (stored coefficient bound).chars := by
  simp [Numeric.text, stored, chars, positive.le.not_gt]

theorem value_stored : (stored coefficient bound).value = coefficient / 10 ^ 12 := by
  have digits : Nat.ofDigitChars 10 ((stored coefficient bound).whole ++
      (stored coefficient bound).fractional) 0 = coefficient.natAbs :=
    Numeric.ofDigitChars_text coefficient
  have magnitude : ((coefficient.natAbs : Int) : Rat) = coefficient := by
    rw [Int.natAbs_of_nonneg positive.le]
  rw [value_eq, length_stored, digits, ← magnitude]
  rfl

end RateText

theorem ExactRate.parse_stored (positive : 0 < coefficient) (bounded : coefficient < 10 ^ 30) :
    ∃ rate, ExactRate.parse (Numeric.finite coefficient).text = .ok rate ∧
      rate.value = coefficient / 10 ^ 12 := by
  have fits : coefficient.natAbs < 10 ^ 30 := by omega
  have value := RateText.value_stored positive fits
  have above : 0 < (RateText.stored coefficient fits).value := by
    rw [value]
    positivity
  obtain ⟨rate, parsed, exact⟩ := (parse_spelled (RateText.chars_stored positive fits)).1 above
  exact ⟨rate, parsed, exact.trans value⟩

end Stored

/-- `ExactRate::parse` accepts the positive texts of its grammar, among them every rate that is
stored, and a conversion does not see how zeros are spelled. -/
theorem exact_rate_parse (input : String) :
    (∀ text : RateText, input.toList = text.chars → 0 < text.value →
      ∃ rate, ExactRate.parse input = .ok rate ∧
        (rate.coefficient : Rat) / 10 ^ rate.scale = text.value) ∧
    ((¬ ∃ text : RateText, input.toList = text.chars ∧ 0 < text.value) →
      ExactRate.parse input = .error .invalidRate) ∧
    (∀ coefficient : Int, 0 < coefficient → coefficient < 10 ^ 30 →
      ∃ (text : RateText) (rate : ExactRate),
        (Numeric.finite coefficient).text.toList = text.chars ∧ text.fractional.length = 12 ∧
        ExactRate.parse (Numeric.finite coefficient).text = .ok rate ∧
        (rate.coefficient : Rat) / 10 ^ rate.scale = coefficient / 10 ^ 12) ∧
    ∀ (first second : RateText) (sourceMinor : I64) (sourceScale destinationScale : Nat),
      first.Respells second →
      (ExactRate.parse (String.ofList first.chars)).bind
          (calculateDestination sourceMinor sourceScale destinationScale) =
        (ExactRate.parse (String.ofList second.chars)).bind
          (calculateDestination sourceMinor sourceScale destinationScale) := by
  refine ⟨fun text reads => (ExactRate.parse_spelled reads).1, ExactRate.parse_of_no_text, ?_, ?_⟩
  · intro coefficient positive bound
    have fits : coefficient.natAbs < 10 ^ 30 := by omega
    obtain ⟨rate, parsed, value⟩ := ExactRate.parse_stored positive bound
    exact ⟨_, rate, RateText.chars_stored positive fits, RateText.length_stored fits, parsed, value⟩
  · intro first second sourceMinor sourceScale destinationScale respelled
    have same := respelled.value_eq
    have one := ExactRate.parse_spelled (String.toList_ofList (l := first.chars))
    have other := ExactRate.parse_spelled (String.toList_ofList (l := second.chars))
    rcases lt_or_ge 0 first.value with positive | zero
    · obtain ⟨rate, parsed, value⟩ := one.1 positive
      obtain ⟨rate', parsed', value'⟩ := other.1 (same ▸ positive)
      rw [parsed, parsed']
      exact ExactRate.calculateDestination_congr (value.trans (same.trans value'.symm))
    · rw [one.2 zero, other.2 (same ▸ zero)]

end LedgerService
