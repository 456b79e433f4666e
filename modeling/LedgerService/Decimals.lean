import LedgerService.Schema

set_option autoImplicit false

namespace LedgerService

namespace Text

theorem splitOnce_append {separator : Char} {before after : List Char}
    (absent : separator ∉ before) :
    splitOnce separator (before ++ separator :: after) = some (before, after) := by
  induction before with
  | nil => simp [splitOnce]
  | cons c rest ih =>
    simp only [List.mem_cons, not_or] at absent
    have different : c ≠ separator := Ne.symm absent.1
    simp [splitOnce, different, ih absent.2]

theorem stripMinus_append {before : List Char} (unsigned : '-' ∉ before) (nonempty : before ≠ [])
    (negative : Prop) [Decidable negative] (after : List Char) :
    stripMinus ((if negative then ['-'] else []) ++ before ++ after) =
      (decide negative, before ++ after) := by
  by_cases sign : negative
  · simp [sign, stripMinus]
  · cases before with
    | nil => exact absurd rfl nonempty
    | cons c rest =>
      have different : c ≠ '-' := by
        rintro rfl
        exact unsigned List.mem_cons_self
      simp only [sign, if_false, List.nil_append, List.cons_append, decide_false]
      unfold stripMinus
      split
      · simp_all
      · rfl

theorem isDigit_toDigits (value : Nat) : (Nat.toDigits 10 value).all Char.isDigit = true := by
  rw [List.all_eq_true]
  intro c member
  exact Nat.isDigit_of_mem_toDigits (by decide) (by decide) member

theorem not_mem_toDigits {c : Char} (other : c.isDigit = false) (value : Nat) :
    c ∉ Nat.toDigits 10 value := by
  intro member
  have digit := Nat.isDigit_of_mem_toDigits (by decide) (by decide) member
  rw [other] at digit
  cases digit

theorem isDigit_padded (width value : Nat) : (padded width value).all Char.isDigit = true := by
  simp only [padded, List.all_append, isDigit_toDigits, Bool.and_true, List.all_replicate]
  have zero : Char.isDigit '0' = true := rfl
  simp [zero]

theorem length_padded {width value : Nat} (positive : 0 < width) (fits : value < 10 ^ width) :
    (padded width value).length = width := by
  have short := (Nat.length_toDigits_le_iff (b := 10) (by decide) positive).mpr fits
  simp only [padded, List.length_append, List.length_replicate]
  omega

theorem ofDigitChars_padded (width value initial : Nat) (positive : 0 < width)
    (fits : value < 10 ^ width) :
    Nat.ofDigitChars 10 (padded width value) initial = 10 ^ width * initial + value := by
  have length := length_padded positive fits
  rw [Nat.ofDigitChars_eq_ofDigitChars_zero, length]
  simp [padded, Nat.ofDigitChars_append]

end Text

namespace Numeric

theorem ofDigitChars_text (coefficient : Int) :
    Nat.ofDigitChars 10 (Nat.toDigits 10 (coefficient.natAbs / 10 ^ 12) ++
      Text.padded 12 (coefficient.natAbs % 10 ^ 12)) 0 = coefficient.natAbs := by
  rw [Nat.ofDigitChars_append, Nat.ofDigitChars_ten_toDigits,
    Text.ofDigitChars_padded _ _ _ (by decide) (Nat.mod_lt _ (by decide))]
  exact Nat.div_add_mod _ _

theorem cast_text_finite (coefficient : Int) :
    cast (finite coefficient).text =
      if (coefficient.natAbs : Int) < 10 ^ 30 then some (finite coefficient) else none := by
  have whole := Text.isDigit_toDigits (coefficient.natAbs / 10 ^ 12)
  have fractional := Text.isDigit_padded 12 (coefficient.natAbs % 10 ^ 12)
  have length := @Text.length_padded 12 (coefficient.natAbs % 10 ^ 12) (by decide)
    (Nat.mod_lt _ (by decide))
  have split := @Text.splitOnce_append _ _ (Text.padded 12 (coefficient.natAbs % 10 ^ 12))
    (Text.not_mem_toDigits (c := '.') rfl (coefficient.natAbs / 10 ^ 12))
  have number := ofDigitChars_text coefficient
  have someDigit : Nat.toDigits 10 (coefficient.natAbs / 10 ^ 12) ≠ [] := Nat.toDigits_ne_nil
  have unsigned := Text.not_mem_toDigits (c := '-') rfl (coefficient.natAbs / 10 ^ 12)
  have strip := Text.stripMinus_append unsigned someDigit (coefficient < 0)
    ('.' :: Text.padded 12 (coefficient.natAbs % 10 ^ 12))
  have notNan : (finite coefficient).text ≠ "NaN" := by
    intro same
    have dot : '.' ∈ ((finite coefficient).text).toList := by simp [text]
    rw [same] at dot
    simp at dot
  rw [cast, if_neg notNan, text, String.toList_ofList, strip]
  simp only [split, Option.getD_some]
  have parses : ¬ (Nat.toDigits 10 (coefficient.natAbs / 10 ^ 12) = [] ∨
      ¬ (Nat.toDigits 10 (coefficient.natAbs / 10 ^ 12)).all Char.isDigit = true ∨
      ¬ (Text.padded 12 (coefficient.natAbs % 10 ^ 12)).all Char.isDigit = true ∨
      12 < (Text.padded 12 (coefficient.natAbs % 10 ^ 12)).length) := by
    rw [whole, fractional, length]
    simp
  rw [if_neg parses, number, length]
  simp only [Nat.sub_self, Int.pow_zero, Int.mul_one]
  by_cases negative : coefficient < 0
  · simp [negative, Int.ofNat_natAbs_of_nonpos (Int.le_of_lt negative)]
  · simp [negative, Int.natAbs_of_nonneg (Int.not_lt.mp negative)]

theorem cast_text {value result : Numeric} (read : cast value.text = some result) :
    result = value := by
  cases value with
  | nan => simpa [text, cast, eq_comm] using read
  | finite coefficient =>
    rw [cast_text_finite] at read
    split at read
    · exact (Option.some.inj read).symm
    · cases read

end Numeric

end LedgerService
