import Mathlib.Data.Rat.Defs
import Mathlib.Algebra.Order.Ring.Rat
import Mathlib.Tactic.FieldSimp
import Mathlib.Tactic.Linarith
import Mathlib.Tactic.Ring
import LedgerService.Decimals

set_option autoImplicit false

/-!
# Decimal literals

The texts `-?[0-9]+(\.[0-9]+)?`, what they denote, and which of them is the canonical one.
-/

namespace Literals

structure Literal where
  negative : Bool
  whole : List Char
  fractional : List Char
  nonempty : whole ≠ []
  wholeDigits : whole.all Char.isDigit = true
  fractionalDigits : fractional.all Char.isDigit = true

namespace Literal

def sign (negative : Bool) : List Char := if negative then ['-'] else []

def point (fractional : List Char) : List Char := if fractional = [] then [] else '.' :: fractional

def chars (literal : Literal) : List Char :=
  sign literal.negative ++ literal.whole ++ point literal.fractional

def digits (literal : Literal) : Nat :=
  Nat.ofDigitChars 10 (literal.whole ++ literal.fractional) 0

def signed (negative : Bool) (magnitude : Nat) : Int := if negative then -magnitude else magnitude

def value (literal : Literal) : Rat :=
  (signed literal.negative literal.digits : Rat) / 10 ^ literal.fractional.length

def units (literal : Literal) (scale : Nat) : Int :=
  signed literal.negative (literal.digits * 10 ^ (scale - literal.fractional.length))

theorem signed_mul (negative : Bool) (magnitude factor : Nat) :
    signed negative (magnitude * factor) = signed negative magnitude * factor := by
  cases negative <;> simp [signed]

theorem units_eq {literal : Literal} {scale : Nat} (fits : literal.fractional.length ≤ scale) :
    (literal.units scale : Rat) = literal.value * 10 ^ scale := by
  have split : (10 : Rat) ^ scale =
      10 ^ (scale - literal.fractional.length) * 10 ^ literal.fractional.length := by
    rw [← pow_add, Nat.sub_add_cancel fits]
  have nonzero : (10 : Rat) ^ literal.fractional.length ≠ 0 := pow_ne_zero _ (by norm_num)
  rw [value, split, units, signed_mul]
  push_cast
  field_simp

section Characters

variable {literal : Literal}

theorem not_mem_digits {c : Char} (other : c.isDigit = false) {text : List Char}
    (all : text.all Char.isDigit = true) : c ∉ text := by
  intro member
  rw [List.all_eq_true.mp all c member] at other
  cases other

theorem point_not_mem_whole (literal : Literal) : '.' ∉ literal.whole :=
  not_mem_digits rfl literal.wholeDigits

theorem point_not_mem_fractional (literal : Literal) : '.' ∉ literal.fractional :=
  not_mem_digits rfl literal.fractionalDigits

theorem minus_not_mem_whole (literal : Literal) : '-' ∉ literal.whole :=
  not_mem_digits rfl literal.wholeDigits

theorem takeWhile_unsigned (literal : Literal) :
    (literal.whole ++ point literal.fractional).takeWhile (· ≠ '.') = literal.whole := by
  have plain : ∀ c ∈ literal.whole, decide (c ≠ '.') = true := by
    intro c member
    have other : c ≠ '.' := fun same => literal.point_not_mem_whole (same ▸ member)
    simpa using other
  rw [List.takeWhile_append_of_pos plain]
  unfold point
  split <;> simp

theorem chars_ne_nil (literal : Literal) : literal.chars ≠ [] := by
  simp [chars, literal.nonempty]

theorem chars_injective {first second : Literal} (same : first.chars = second.chars) :
    first.negative = second.negative ∧ first.whole = second.whole ∧
      first.fractional = second.fractional := by
  have unsigned : ∀ {one other : Literal}, one.negative = false → other.negative = true →
      one.chars ≠ other.chars := by
    intro one other plus minus equal
    obtain ⟨head, tail, whole⟩ := List.exists_cons_of_ne_nil one.nonempty
    simp only [chars, sign, plus, minus, whole, Bool.false_eq_true, if_false, if_true,
      List.nil_append, List.cons_append, List.cons.injEq] at equal
    exact one.minus_not_mem_whole (by simp [whole, equal.1])
  have signs : first.negative = second.negative := by
    cases one : first.negative <;> cases other : second.negative
    · rfl
    · exact absurd same (unsigned one other)
    · exact absurd same.symm (unsigned other one)
    · rfl
  have rest : first.whole ++ point first.fractional = second.whole ++ point second.fractional := by
    simpa [chars, signs] using same
  have wholes : first.whole = second.whole := by
    rw [← first.takeWhile_unsigned, rest, second.takeWhile_unsigned]
  refine ⟨signs, wholes, ?_⟩
  rw [wholes, List.append_cancel_left_eq] at rest
  unfold point at rest
  split at rest <;> split at rest
  · simp [*]
  · cases rest
  · cases rest
  · simpa using rest

end Characters

/-- No superfluous zeros, as many fractional digits as the scale, a minus sign for what is below
zero only. -/
structure Canonical (literal : Literal) (scale : Nat) : Prop where
  leading : literal.whole.head? = some '0' → literal.whole = ['0']
  fractional : literal.fractional.length = scale
  negative : literal.negative = true ↔ literal.value < 0

theorem digits_eq (literal : Literal) :
    literal.digits = Nat.ofDigitChars 10 literal.whole 0 * 10 ^ literal.fractional.length +
      Nat.ofDigitChars 10 literal.fractional 0 := by
  rw [digits, Nat.ofDigitChars_append, Nat.ofDigitChars_eq_ofDigitChars_zero]
  ring

theorem value_neg_iff (literal : Literal) :
    literal.value < 0 ↔ signed literal.negative literal.digits < 0 := by
  have positive : (0 : Rat) < 10 ^ literal.fractional.length := by positivity
  rw [value, div_lt_iff₀ positive, zero_mul]
  exact_mod_cast Iff.rfl

end Literal

section Digits

variable {text first second : List Char}

theorem ofDigitChars_cons_eq (c : Char) (rest : List Char) :
    Nat.ofDigitChars 10 (c :: rest) 0 =
      10 ^ rest.length * (c.toNat - 48) + Nat.ofDigitChars 10 rest 0 := by
  rw [Nat.ofDigitChars_cons, Nat.ofDigitChars_eq_ofDigitChars_zero]
  simp

theorem digit_bounds {c : Char} (digit : c.isDigit = true) : 48 ≤ c.toNat ∧ c.toNat ≤ 57 := by
  simp only [Char.isDigit, Bool.and_eq_true, decide_eq_true_eq, ge_iff_le,
    UInt32.le_iff_toNat_le] at digit
  exact digit

theorem ofDigitChars_lt (digits : text.all Char.isDigit = true) :
    Nat.ofDigitChars 10 text 0 < 10 ^ text.length := by
  induction text with
  | nil => simp
  | cons c rest ih =>
    simp only [List.all_cons, Bool.and_eq_true] at digits
    have bounds := digit_bounds digits.1
    have least := ih digits.2
    have most : 10 ^ rest.length * (c.toNat - 48) ≤ 10 ^ rest.length * 9 :=
      Nat.mul_le_mul_left _ (by omega)
    rw [ofDigitChars_cons_eq, List.length_cons, Nat.pow_succ]
    omega

theorem ofDigitChars_injective (firstDigits : first.all Char.isDigit = true)
    (secondDigits : second.all Char.isDigit = true) (length : first.length = second.length)
    (same : Nat.ofDigitChars 10 first 0 = Nat.ofDigitChars 10 second 0) : first = second := by
  induction first generalizing second with
  | nil => exact (List.length_eq_zero_iff.mp length.symm).symm
  | cons c rest ih =>
    cases second with
    | nil => cases length
    | cons d others =>
      simp only [List.all_cons, Bool.and_eq_true] at firstDigits secondDigits
      have lengths : rest.length = others.length := by simpa using length
      rw [ofDigitChars_cons_eq, ofDigitChars_cons_eq, ← lengths] at same
      have below := ofDigitChars_lt firstDigits.2
      have below' := ofDigitChars_lt secondDigits.2
      rw [← lengths] at below'
      have leading := congrArg (· / 10 ^ rest.length) same
      have positive : 0 < 10 ^ rest.length := Nat.pow_pos (by decide)
      simp only [Nat.mul_add_div positive, Nat.div_eq_of_lt below, Nat.div_eq_of_lt below',
        Nat.add_zero] at leading
      have bounds := digit_bounds firstDigits.1
      have bounds' := digit_bounds secondDigits.1
      have head : c = d := Char.toNat_inj.mp (by omega)
      subst head
      rw [ih firstDigits.2 secondDigits.2 lengths (by omega)]

theorem le_ofDigitChars {c : Char} {rest : List Char} (digit : c.isDigit = true) (leading : c ≠ '0') :
    10 ^ rest.length ≤ Nat.ofDigitChars 10 (c :: rest) 0 := by
  have bounds := digit_bounds digit
  have nonzero : c.toNat ≠ 48 := fun zero => leading (Char.toNat_inj.mp zero)
  have least : 10 ^ rest.length * 1 ≤ 10 ^ rest.length * (c.toNat - 48) :=
    Nat.mul_le_mul_left _ (by omega)
  rw [ofDigitChars_cons_eq]
  omega

end Digits

namespace Literal

section Unique

variable {first second : Literal} {scale : Nat}

theorem length_le_of_value_le (firstLeading : first.whole.head? = some '0' → first.whole = ['0'])
    (le : Nat.ofDigitChars 10 first.whole 0 ≤ Nat.ofDigitChars 10 second.whole 0) :
    first.whole.length ≤ second.whole.length := by
  have some_digit := List.length_pos_iff.mpr second.nonempty
  have below := ofDigitChars_lt second.wholeDigits
  have digits := first.wholeDigits
  cases whole : first.whole with
  | nil => simp
  | cons c rest =>
    by_cases zero : c = '0'
    · have single := firstLeading (by simp [whole, zero])
      rw [← whole, single]
      exact some_digit
    · rw [whole] at digits le
      have least := @le_ofDigitChars _ rest (List.all_eq_true.mp digits c (by simp)) zero
      have fewer : rest.length < second.whole.length :=
        (Nat.pow_lt_pow_iff_right (a := 10) (by decide)).mp (by omega)
      rw [List.length_cons]
      exact fewer

theorem Canonical.unique (one : first.Canonical scale) (other : second.Canonical scale)
    (same : first.value = second.value) : first = second := by
  have negative : first.negative = second.negative := by
    rw [Bool.eq_iff_iff, one.negative, other.negative, same]
  have digits : first.digits = second.digits := by
    have positive : (10 : Rat) ^ scale ≠ 0 := pow_ne_zero _ (by norm_num)
    simp only [value, one.fractional, other.fractional, negative] at same
    rw [div_left_inj' positive] at same
    have signs : signed second.negative first.digits = signed second.negative second.digits := by
      exact_mod_cast same
    unfold signed at signs
    split at signs <;> omega
  have below := ofDigitChars_lt first.fractionalDigits
  have below' := ofDigitChars_lt second.fractionalDigits
  rw [one.fractional] at below
  rw [other.fractional] at below'
  rw [digits_eq, digits_eq, one.fractional, other.fractional, Nat.mul_comm,
    Nat.mul_comm (Nat.ofDigitChars 10 second.whole 0)] at digits
  have wholes : Nat.ofDigitChars 10 first.whole 0 = Nat.ofDigitChars 10 second.whole 0 := by
    have quotients := congrArg (· / 10 ^ scale) digits
    simpa only [Nat.mul_add_div (Nat.pow_pos (n := scale) (show 0 < 10 by decide)),
      Nat.div_eq_of_lt below, Nat.div_eq_of_lt below', Nat.add_zero] using quotients
  have whole : first.whole = second.whole := by
    apply ofDigitChars_injective first.wholeDigits second.wholeDigits _ wholes
    exact Nat.le_antisymm (length_le_of_value_le one.leading wholes.le)
      (length_le_of_value_le other.leading wholes.ge)
  have fractional : first.fractional = second.fractional := by
    apply ofDigitChars_injective first.fractionalDigits second.fractionalDigits
    · rw [one.fractional, other.fractional]
    · rw [wholes] at digits
      omega
  cases first
  cases second
  simp only [Literal.mk.injEq]
  exact ⟨negative, whole, fractional⟩

end Unique

section Spelling

variable (amount : Int) (scale : Nat)

def ofUnits : Literal where
  negative := decide (amount < 0)
  whole := Nat.toDigits 10 (amount.natAbs / 10 ^ scale)
  fractional :=
    if 0 < scale then LedgerService.Text.padded scale (amount.natAbs % 10 ^ scale) else []
  nonempty := Nat.toDigits_ne_nil
  wholeDigits := LedgerService.Text.isDigit_toDigits _
  fractionalDigits := by
    split
    · exact LedgerService.Text.isDigit_padded _ _
    · rfl

theorem length_fractional_ofUnits : (ofUnits amount scale).fractional.length = scale := by
  by_cases positive : 0 < scale
  · have fits : amount.natAbs % 10 ^ scale < 10 ^ scale := Nat.mod_lt _ (Nat.pow_pos (by decide))
    simp [ofUnits, positive, LedgerService.Text.length_padded positive fits]
  · simp only [ofUnits, if_neg positive, List.length_nil]
    omega

theorem digits_ofUnits : (ofUnits amount scale).digits = amount.natAbs := by
  have whole : Nat.ofDigitChars 10 (ofUnits amount scale).whole 0 = amount.natAbs / 10 ^ scale :=
    Nat.ofDigitChars_ten_toDigits
  have fractional : Nat.ofDigitChars 10 (ofUnits amount scale).fractional 0 =
      amount.natAbs % 10 ^ scale := by
    by_cases positive : 0 < scale
    · have fits : amount.natAbs % 10 ^ scale < 10 ^ scale := Nat.mod_lt _ (Nat.pow_pos (by decide))
      simp [ofUnits, positive, LedgerService.Text.ofDigitChars_padded _ _ _ positive fits]
    · have zero : scale = 0 := by omega
      simp [ofUnits, zero, Nat.mod_one]
  rw [digits_eq, whole, fractional, length_fractional_ofUnits, Nat.mul_comm]
  exact Nat.div_add_mod _ _

theorem signed_digits_ofUnits :
    signed (ofUnits amount scale).negative (ofUnits amount scale).digits = amount := by
  rw [digits_ofUnits]
  simp only [ofUnits, signed, decide_eq_true_eq]
  split <;> omega

theorem units_ofUnits : (ofUnits amount scale).units scale = amount := by
  rw [units, length_fractional_ofUnits, Nat.sub_self, Nat.pow_zero, Nat.mul_one,
    signed_digits_ofUnits]

theorem toDigits_leading (number : Nat) (zero : (Nat.toDigits 10 number).head? = some '0') :
    Nat.toDigits 10 number = ['0'] := by
  cases text : Nat.toDigits 10 number with
  | nil => exact absurd text Nat.toDigits_ne_nil
  | cons c rest =>
    rw [text] at zero
    obtain rfl : c = '0' := by simpa using zero
    by_contra longer
    have value : Nat.ofDigitChars 10 ('0' :: rest) 0 = number := by
      rw [← text]
      exact Nat.ofDigitChars_ten_toDigits
    have digits := LedgerService.Text.isDigit_toDigits number
    simp only [text, List.all_cons, Bool.and_eq_true] at digits
    have below := ofDigitChars_lt digits.2
    rw [ofDigitChars_cons_eq, show '0'.toNat - 48 = 0 from rfl, Nat.mul_zero, Nat.zero_add] at value
    have some_digit : 0 < rest.length := by
      rw [List.length_pos_iff]
      rintro rfl
      exact longer rfl
    rw [value] at below
    have short := (Nat.length_toDigits_le_iff (b := 10) (by decide) some_digit).mpr below
    rw [text] at short
    simp at short

theorem canonical_ofUnits : (ofUnits amount scale).Canonical scale where
  leading := toDigits_leading _
  fractional := length_fractional_ofUnits amount scale
  negative := by
    rw [value_neg_iff, signed_digits_ofUnits]
    exact decide_eq_true_iff

end Spelling

end Literal

end Literals
