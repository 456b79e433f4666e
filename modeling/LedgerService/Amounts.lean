import Mathlib.Data.Rat.Cast.Order
import Mathlib.Tactic.Positivity
import LedgerService.Literals
import LedgerService.Money

set_option autoImplicit false

namespace LedgerService

open Literals

namespace Text

theorem splitOnce_eq_none {separator : Char} {text : List Char} :
    splitOnce separator text = none ↔ separator ∉ text := by
  induction text with
  | nil => simp [splitOnce]
  | cons c rest ih =>
    by_cases here : c = separator
    · simp [splitOnce, here]
    · simp [splitOnce, here, ih, Ne.symm here]

theorem splitOnce_eq_some {separator : Char} {text before after : List Char} :
    splitOnce separator text = some (before, after) →
      text = before ++ separator :: after := by
  intro found
  induction text generalizing before with
  | nil => cases found
  | cons c rest ih =>
    by_cases here : c = separator
    · simp only [splitOnce, here, if_true, Option.some.injEq, Prod.mk.injEq] at found
      obtain ⟨rfl, rfl⟩ := found
      simp [here]
    · simp only [splitOnce, here, if_false, Option.map_eq_some_iff, Prod.exists, Prod.mk.injEq]
        at found
      obtain ⟨_, _, split, rfl, rfl⟩ := found
      simp [ih split]

theorem stripMinus_eq {text digits : List Char} {negative : Bool}
    (stripped : stripMinus text = (negative, digits)) : text = Literal.sign negative ++ digits := by
  unfold stripMinus at stripped
  split at stripped <;> cases stripped <;> rfl

theorem trim_eq_self {text : List Char} (plain : ∀ c ∈ text, isWhitespace c = false) :
    trim text = text := by
  have dropped : ∀ part : List Char, (∀ c ∈ part, isWhitespace c = false) →
      part.dropWhile isWhitespace = part := by
    intro part clean
    cases part with
    | nil => rfl
    | cons c rest => rw [List.dropWhile_cons_of_neg (by simp [clean c])]
  rw [trim, dropped text plain, dropped _ (by simpa using plain), List.reverse_reverse]

theorem isWhitespace_of_isDigit {c : Char} (digit : c.isDigit = true) : isWhitespace c = false := by
  have bounds := digit_bounds digit
  simp only [isWhitespace, Bool.or_eq_false_iff, Bool.and_eq_false_imp, decide_eq_true_eq,
    decide_eq_false_iff_not]
  omega

end Text

section Reading

theorem plain_chars (literal : Literal) (c : Char) (member : c ∈ literal.chars) :
    Text.isWhitespace c = false := by
  have digits : ∀ part : List Char, part.all Char.isDigit = true → c ∈ part →
      Text.isWhitespace c = false := fun part all here =>
    Text.isWhitespace_of_isDigit (List.all_eq_true.mp all c here)
  rcases List.mem_append.mp member with front | point
  · rcases List.mem_append.mp front with sign | whole
    · obtain rfl : c = '-' := by
        cases negative : literal.negative <;> simp [Literal.sign, negative] at sign
        exact sign
      rfl
    · exact digits _ literal.wholeDigits whole
  · unfold Literal.point at point
    split at point
    · cases point
    · rcases List.mem_cons.mp point with rfl | fractional
      · rfl
      · exact digits _ literal.fractionalDigits fractional

theorem stripMinus_chars (literal : Literal) :
    Text.stripMinus literal.chars =
      (literal.negative, literal.whole ++ Literal.point literal.fractional) := by
  have strip := Text.stripMinus_append literal.minus_not_mem_whole literal.nonempty
    (literal.negative = true) (Literal.point literal.fractional)
  simpa [Literal.chars, Literal.sign] using strip

theorem splitOnce_point (literal : Literal) :
    (Text.splitOnce '.' (literal.whole ++ Literal.point literal.fractional)).getD
        (literal.whole ++ Literal.point literal.fractional, []) =
      (literal.whole, literal.fractional) := by
  unfold Literal.point
  split
  · rename_i none
    rw [List.append_nil, Text.splitOnce_eq_none.mpr literal.point_not_mem_whole, none]
    rfl
  · rw [Text.splitOnce_append literal.point_not_mem_whole]
    rfl

theorem count_point (literal : Literal) :
    (literal.whole ++ Literal.point literal.fractional).count '.' ≤ 1 := by
  have whole := List.count_eq_zero.mpr literal.point_not_mem_whole
  have fractional := List.count_eq_zero.mpr literal.point_not_mem_fractional
  unfold Literal.point
  split <;> simp [List.count_append, whole, fractional]

theorem I128.pow10_eq {scale : Nat} (bounded : scale ≤ 18) : I128.pow10 scale = some (10 ^ scale) := by
  have small : (10 : Int) ^ scale ≤ 10 ^ 18 := by
    exact_mod_cast Nat.pow_le_pow_right (show 0 < 10 by decide) bounded
  have positive : (0 : Int) < 10 ^ scale := Int.pow_pos (by decide)
  have within : -2 ^ 127 ≤ (10 : Int) ^ scale ∧ (10 : Int) ^ scale ≤ I128.max := by
    unfold I128.max
    constructor <;> omega
  rw [I128.pow10, I128.checked, if_pos within]

theorem I128.checked_of_bounds {value : Int} (least : -I128.max ≤ value) (most : value ≤ I128.max) :
    I128.checked value = some value := by
  have within : -2 ^ 127 ≤ value ∧ value ≤ I128.max := by
    unfold I128.max at *
    omega
  rw [I128.checked, if_pos within]

theorem I128.checked_eq_none {value : Int} (large : I128.max < value) : I128.checked value = none := by
  rw [I128.checked, if_neg (by omega)]

theorem I64.tryFrom_eq_none {value : Int} : I64.tryFrom value = none ↔
    value < I64.min ∨ I64.max < value := by
  unfold I64.tryFrom
  split <;> simp <;> omega

theorem fractional_units {literal : Literal} {scale : Nat} (bounded : scale ≤ 18)
    (fits : literal.fractional.length ≤ scale) :
    ∃ value : Nat, value < 10 ^ scale ∧
      literal.digits * 10 ^ (scale - literal.fractional.length) =
        Nat.ofDigitChars 10 literal.whole 0 * 10 ^ scale + value ∧
      ∀ next : Int → Outcome MoneyError I64,
        (if literal.fractional = [] then do
          let fractional ← Outcome.ok 0
          next fractional
        else do
          let value ← Outcome.orError MoneyError.overflow (I128.parse literal.fractional)
          let unit ← Outcome.orPanic (I128.pow10 (scale - literal.fractional.length))
          let fractional ← Outcome.orPanic (I128.checked (value * unit))
          next fractional) = next value := by
  -- All products stay within `10 ^ 18`, so no checked operation fails.
  have below := ofDigitChars_lt literal.fractionalDigits
  have split : 10 ^ literal.fractional.length * 10 ^ (scale - literal.fractional.length) =
      10 ^ scale := by
    rw [← Nat.pow_add, Nat.add_sub_cancel' fits]
  have positive : 0 < 10 ^ (scale - literal.fractional.length) := Nat.pow_pos (by decide)
  have small : 10 ^ scale ≤ 10 ^ 18 := Nat.pow_le_pow_right (by decide) bounded
  have scaled : Nat.ofDigitChars 10 literal.fractional 0 * 10 ^ (scale - literal.fractional.length) <
      10 ^ scale := by
    rw [← split]
    exact Nat.mul_lt_mul_of_pos_right below positive
  have least : Nat.ofDigitChars 10 literal.fractional 0 ≤
      Nat.ofDigitChars 10 literal.fractional 0 * 10 ^ (scale - literal.fractional.length) :=
    Nat.le_mul_of_pos_right _ positive
  refine ⟨Nat.ofDigitChars 10 literal.fractional 0 * 10 ^ (scale - literal.fractional.length),
    scaled, ?_, ?_⟩
  · rw [Literal.digits_eq, Nat.add_mul, Nat.mul_assoc, split]
  · intro next
    by_cases none : literal.fractional = []
    · simp only [none, if_true, Nat.ofDigitChars_nil, Nat.zero_mul]
      rfl
    · have read : I128.parse literal.fractional =
          some (Nat.ofDigitChars 10 literal.fractional 0 : Int) := by
        apply I128.checked_of_bounds <;> unfold I128.max <;> omega
      have product : I128.checked ((Nat.ofDigitChars 10 literal.fractional 0 : Int) *
          10 ^ (scale - literal.fractional.length)) =
          some ((Nat.ofDigitChars 10 literal.fractional 0 *
            10 ^ (scale - literal.fractional.length) : Nat) : Int) := by
        push_cast
        have bound : (Nat.ofDigitChars 10 literal.fractional 0 : Int) *
            10 ^ (scale - literal.fractional.length) < 10 ^ 18 := by
          exact_mod_cast Nat.lt_of_lt_of_le scaled small
        apply I128.checked_of_bounds
        · have nonneg : (0 : Int) ≤ (Nat.ofDigitChars 10 literal.fractional 0 : Int) *
              10 ^ (scale - literal.fractional.length) := by positivity
          unfold I128.max
          omega
        · unfold I128.max
          omega
      simp only [none, if_false, read, Outcome.orError,
        I128.pow10_eq (Nat.le_trans (Nat.sub_le _ _) bounded), Outcome.orPanic, product, bind,
        Outcome.bind]

theorem checked_amount {whole fractional : Nat} {scale : Nat} :
    ((I128.checked ((whole : Int) * 10 ^ scale)).bind fun value =>
        I128.checked (value + fractional)) =
      I128.checked ((whole * 10 ^ scale + fractional : Nat) : Int) := by
  have nonneg : (0 : Int) ≤ (whole : Int) * 10 ^ scale := by positivity
  push_cast
  by_cases fits : (whole : Int) * 10 ^ scale ≤ I128.max
  · rw [I128.checked_of_bounds (by unfold I128.max; omega) fits]
    rfl
  · rw [I128.checked_eq_none (by omega), I128.checked_eq_none (by omega)]
    rfl

theorem parseMinorUnits_of_literal {input : String} {literal : Literal} {scale : Nat}
    (bounded : scale ≤ 18) (reads : input.toList = literal.chars) :
    parseMinorUnits input scale =
      if scale < literal.fractional.length then .error .tooManyFractionalDigits
      else .orError .overflow (I64.tryFrom (literal.units scale)) := by
  have wellFormed : ¬ (literal.whole = [] ∨
      ('.' ∈ literal.whole ++ Literal.point literal.fractional ∧ literal.fractional = []) ∨
      ¬ literal.whole.all Char.isDigit ∨ ¬ literal.fractional.all Char.isDigit ∨
      1 < (literal.whole ++ Literal.point literal.fractional).count '.') := by
    have count := count_point literal
    rintro (empty | ⟨dot, none⟩ | digits | digits | dots)
    · exact literal.nonempty empty
    · simp only [none, Literal.point, if_true, List.append_nil] at dot
      exact literal.point_not_mem_whole dot
    · exact digits literal.wholeDigits
    · exact digits literal.fractionalDigits
    · omega
  have untrimmed : ¬ (literal.chars = [] ∨ Text.trim literal.chars ≠ literal.chars) := by
    simp [literal.chars_ne_nil, Text.trim_eq_self (plain_chars literal)]
  unfold parseMinorUnits
  simp only [reads, if_neg untrimmed, stripMinus_chars, splitOnce_point, if_neg wellFormed]
  split
  · rfl
  rename_i fits
  obtain ⟨fractional, small, digits, computed⟩ := fractional_units bounded (Nat.not_lt.mp fits)
  simp only [computed, I128.pow10_eq bounded]
  simp only [Outcome.orPanic, bind, Outcome.bind, I128.parse]
  have units : literal.units scale = Literal.signed literal.negative
      (Nat.ofDigitChars 10 literal.whole 0 * 10 ^ scale + fractional) := by
    rw [Literal.units, digits]
  have positive : 0 < 10 ^ scale := Nat.pow_pos (by decide)
  have least : Nat.ofDigitChars 10 literal.whole 0 ≤
      Nat.ofDigitChars 10 literal.whole 0 * 10 ^ scale := Nat.le_mul_of_pos_right _ positive
  rw [units]
  generalize Nat.ofDigitChars 10 literal.whole 0 = whole at *
  by_cases large : I128.max < ((whole * 10 ^ scale + fractional : Nat) : Int)
  · -- Whatever overflows first, the amount is out of the range of `i64`.
    have outside : I64.tryFrom (Literal.signed literal.negative (whole * 10 ^ scale + fractional)) =
        none := by
      rw [I64.tryFrom_eq_none]
      unfold Literal.signed I64.min I64.max I128.max at *
      split <;> omega
    rw [outside]
    cases read : I128.checked (whole : Int) with
    | none => rfl
    | some value =>
      have same : value = whole := by
        unfold I128.checked at read
        split at read
        · exact (Option.some.inj read).symm
        · cases read
      simp only [Outcome.orError, same, checked_amount, I128.checked_eq_none large]
  · have read : I128.checked (whole : Int) = some (whole : Int) := by
      apply I128.checked_of_bounds
      · unfold I128.max
        omega
      · omega
    have amount : I128.checked ((whole * 10 ^ scale + fractional : Nat) : Int) =
        some ((whole * 10 ^ scale + fractional : Nat) : Int) := by
      apply I128.checked_of_bounds
      · unfold I128.max
        omega
      · omega
    simp only [Outcome.orError, read, checked_amount, amount]
    cases literal.negative with
    | false => simp [Literal.signed]
    | true =>
      have negated : I128.checked (-((whole * 10 ^ scale + fractional : Nat) : Int)) =
          some (-((whole * 10 ^ scale + fractional : Nat) : Int)) := by
        apply I128.checked_of_bounds <;> unfold I128.max at * <;> omega
      simp only [if_true, negated, Literal.signed]

theorem parseMinorUnits_of_no_literal {input : String} {scale : Nat}
    (malformed : ¬ ∃ literal : Literal, input.toList = literal.chars) :
    parseMinorUnits input scale = .error .malformed := by
  unfold parseMinorUnits
  dsimp only
  split
  · rfl
  rename_i trimmed
  cases stripped : Text.stripMinus input.toList with
  | mk negative digits =>
    have text := Text.stripMinus_eq stripped
    dsimp only
    cases split : Text.splitOnce '.' digits with
    | none =>
      have noPoint := Text.splitOnce_eq_none.mp split
      rw [Option.getD_none, if_pos]
      by_contra wellFormed
      simp only [not_or, not_not] at wellFormed
      refine malformed ⟨⟨negative, digits, [], wellFormed.1, wellFormed.2.2.1, rfl⟩, ?_⟩
      simp [text, Literal.chars, Literal.point]
    | some parts =>
      obtain ⟨whole, fractional⟩ := parts
      have joined := Text.splitOnce_eq_some split
      rw [Option.getD_some, if_pos]
      by_contra wellFormed
      simp only [not_or, not_not] at wellFormed
      have nonempty : fractional ≠ [] := by
        intro none
        exact wellFormed.2.1 ⟨by simp [joined], none⟩
      refine malformed ⟨⟨negative, whole, fractional, wellFormed.1, wellFormed.2.2.1,
        wellFormed.2.2.2.1⟩, ?_⟩
      simp [text, joined, Literal.chars, Literal.point, nonempty]

end Reading

section Outcomes

variable {input : String} {scale : Nat}

theorem parseMinorUnits_eq_ok (bounded : scale ≤ 18) {amount : I64} :
    parseMinorUnits input scale = .ok amount ↔ ∃ literal : Literal,
      input.toList = literal.chars ∧ literal.fractional.length ≤ scale ∧
        (amount.val : Rat) = literal.value * 10 ^ scale := by
  constructor
  · intro parsed
    by_cases wellFormed : ∃ literal : Literal, input.toList = literal.chars
    · obtain ⟨literal, reads⟩ := wellFormed
      rw [parseMinorUnits_of_literal bounded reads] at parsed
      split at parsed
      · cases parsed
      · rename_i fits
        refine ⟨literal, reads, Nat.not_lt.mp fits, ?_⟩
        cases range : I64.tryFrom (literal.units scale) with
        | none => simp [range, Outcome.orError] at parsed
        | some value =>
          simp only [range, Outcome.orError, Outcome.ok.injEq] at parsed
          rw [← parsed, I64.tryFrom_eq_some.mp range, Literal.units_eq (Nat.not_lt.mp fits)]
    · rw [parseMinorUnits_of_no_literal wellFormed] at parsed
      cases parsed
  · rintro ⟨literal, reads, fits, value⟩
    rw [← Literal.units_eq fits] at value
    have same : amount.val = literal.units scale := by exact_mod_cast value
    rw [parseMinorUnits_of_literal bounded reads, if_neg (Nat.not_lt.mpr fits),
      I64.tryFrom_eq_some.mpr same]
    rfl

theorem parseInitialBalance_eq_ok {amount : I64} :
    parseInitialBalance input scale = .ok amount ↔
      parseMinorUnits input scale = .ok amount ∧ 0 ≤ amount.val := by
  simp only [parseInitialBalance, bind, Outcome.bind]
  cases parseMinorUnits input scale with
  | ok value =>
    by_cases negative : value.val < 0
    · simp only [negative, if_true, reduceCtorEq, Outcome.ok.injEq, false_iff, not_and]
      rintro rfl
      omega
    · simp only [negative, if_false, Outcome.ok.injEq]
      constructor
      · rintro rfl
        exact ⟨rfl, Int.not_lt.mp negative⟩
      · exact And.left
  | error failed => simp
  | panic => simp

theorem value_of_parsed {literal : Literal} {amount : I64} (bounded : scale ≤ 18)
    (reads : input.toList = literal.chars) (parsed : parseMinorUnits input scale = .ok amount) :
    literal.fractional.length ≤ scale ∧ (amount.val : Rat) = literal.value * 10 ^ scale := by
  obtain ⟨other, also, fits, value⟩ := (parseMinorUnits_eq_ok bounded).mp parsed
  obtain ⟨negative, whole, fractional⟩ := Literal.chars_injective (reads.symm.trans also)
  have same : literal = other := by
    cases literal
    cases other
    simp only [Literal.mk.injEq]
    exact ⟨negative, whole, fractional⟩
  exact same ▸ ⟨fits, value⟩

end Outcomes

def SameDecimal (first second : String) : Prop :=
  ∃ one other : Literal, first.toList = one.chars ∧ second.toList = other.chars ∧
    one.value = other.value

/-- `parse_minor_units` reads exactly the decimals of the scale, without rounding or panic. -/
theorem parse_minor_units_exact (input : String) (scale : Nat) (bounded : scale ≤ 18) :
    parseMinorUnits input scale ≠ .panic ∧
    (∀ amount : I64, parseMinorUnits input scale = .ok amount ↔
      ∃ literal : Literal, input.toList = literal.chars ∧ literal.fractional.length ≤ scale ∧
        (amount.val : Rat) = literal.value * 10 ^ scale) ∧
    (parseMinorUnits input scale = .error .malformed ↔
      ¬ ∃ literal : Literal, input.toList = literal.chars) ∧
    (parseMinorUnits input scale = .error .tooManyFractionalDigits ↔
      ∃ literal : Literal, input.toList = literal.chars ∧ scale < literal.fractional.length) ∧
    (parseMinorUnits input scale = .error .overflow ↔
      ∃ literal : Literal, input.toList = literal.chars ∧ literal.fractional.length ≤ scale ∧
        (literal.value * 10 ^ scale < I64.min ∨ (I64.max : Rat) < literal.value * 10 ^ scale)) ∧
    (∀ amount : I64, parseInitialBalance input scale = .ok amount ↔
      0 ≤ amount.val ∧ ∃ literal : Literal, input.toList = literal.chars ∧
        literal.fractional.length ≤ scale ∧ (amount.val : Rat) = literal.value * 10 ^ scale) ∧
    ∀ (other : String) (amount amount' : I64) (literal literal' : Literal),
      parseMinorUnits input scale = .ok amount → parseMinorUnits other scale = .ok amount' →
      input.toList = literal.chars → other.toList = literal'.chars →
      (amount = amount' ↔ literal.value = literal'.value) := by
  have power : (10 : Rat) ^ scale ≠ 0 := pow_ne_zero _ (by norm_num)
  have last : ∀ (other : String) (amount amount' : I64) (literal literal' : Literal),
      parseMinorUnits input scale = .ok amount → parseMinorUnits other scale = .ok amount' →
      input.toList = literal.chars → other.toList = literal'.chars →
      (amount = amount' ↔ literal.value = literal'.value) := by
    intro other amount amount' literal literal' first second reads reads'
    have value := (value_of_parsed bounded reads first).2
    have value' := (value_of_parsed bounded reads' second).2
    constructor
    · rintro rfl
      exact mul_right_cancel₀ power (value.symm.trans value')
    · intro same
      rw [same, ← value'] at value
      exact I64.ext (by exact_mod_cast value)
  have initial : ∀ amount : I64, parseInitialBalance input scale = .ok amount ↔
      0 ≤ amount.val ∧ ∃ literal : Literal, input.toList = literal.chars ∧
        literal.fractional.length ≤ scale ∧ (amount.val : Rat) = literal.value * 10 ^ scale := by
    intro amount
    rw [parseInitialBalance_eq_ok, parseMinorUnits_eq_ok bounded, and_comm]
  by_cases wellFormed : ∃ literal : Literal, input.toList = literal.chars
  · obtain ⟨literal, reads⟩ := wellFormed
    have unique : ∀ other : Literal, input.toList = other.chars →
        other.fractional = literal.fractional ∧ other.value = literal.value := by
      intro other also
      obtain ⟨negative, whole, fractional⟩ := Literal.chars_injective (also.symm.trans reads)
      exact ⟨fractional, by simp [Literal.value, Literal.digits, negative, whole, fractional]⟩
    have parsed := parseMinorUnits_of_literal bounded reads
    refine ⟨?_, fun amount => parseMinorUnits_eq_ok bounded, ?_, ?_, ?_, initial, last⟩
    · rw [parsed]
      split
      · simp
      · cases I64.tryFrom (literal.units scale) <;> simp [Outcome.orError]
    · rw [parsed]
      split
      · simp [reads]
      · cases I64.tryFrom (literal.units scale) <;> simp [Outcome.orError, reads]
    · rw [parsed]
      constructor
      · intro tooMany
        split at tooMany
        · exact ⟨literal, reads, ‹_›⟩
        · cases range : I64.tryFrom (literal.units scale) <;> simp [range, Outcome.orError] at tooMany
      · rintro ⟨other, also, long⟩
        rw [(unique other also).1] at long
        rw [if_pos long]
    · rw [parsed]
      constructor
      · intro overflow
        split at overflow
        · cases overflow
        · rename_i fits
          refine ⟨literal, reads, Nat.not_lt.mp fits, ?_⟩
          rw [← Literal.units_eq (Nat.not_lt.mp fits)]
          cases range : I64.tryFrom (literal.units scale) with
          | some value => simp [range, Outcome.orError] at overflow
          | none => exact_mod_cast I64.tryFrom_eq_none.mp range
      · rintro ⟨other, also, fits, outside⟩
        rw [(unique other also).2] at outside
        rw [(unique other also).1] at fits
        rw [← Literal.units_eq fits] at outside
        rw [if_neg (Nat.not_lt.mpr fits), I64.tryFrom_eq_none.mpr (by exact_mod_cast outside)]
        rfl
  · have parsed := @parseMinorUnits_of_no_literal _ scale wellFormed
    refine ⟨by simp [parsed], fun amount => parseMinorUnits_eq_ok bounded, by simp [parsed, wellFormed],
      ?_, ?_, initial, last⟩
    · rw [parsed]
      simp only [Outcome.error.injEq, reduceCtorEq, false_iff]
      rintro ⟨literal, reads, _⟩
      exact wellFormed ⟨literal, reads⟩
    · rw [parsed]
      simp only [Outcome.error.injEq, reduceCtorEq, false_iff]
      rintro ⟨literal, reads, _⟩
      exact wellFormed ⟨literal, reads⟩

theorem parse_minor_units_exact_cents :
    ∃ literal : Literal, "10.2".toList = literal.chars ∧ literal.fractional.length ≤ 2 ∧
      (1020 : Rat) = literal.value * 10 ^ 2 := by
  have parsed : parseMinorUnits "10.2" 2 = .ok ⟨1020, by decide⟩ := by decide
  obtain ⟨literal, reads, fits, value⟩ :=
    ((parse_minor_units_exact "10.2" 2 (by decide)).2.1 _).mp parsed
  exact ⟨literal, reads, fits, by exact_mod_cast value⟩

section Formatting

variable {scale : Nat}

theorem formatMinorUnits_eq (bounded : scale ≤ 18) (amount : I64) :
    formatMinorUnits amount scale =
      some (String.ofList (Literal.ofUnits amount.val scale).chars) := by
  have factor : ((10 : Int) ^ scale).toNat = 10 ^ scale := by
    have cast : ((10 : Int) ^ scale) = ((10 ^ scale : Nat) : Int) := by push_cast; rfl
    rw [cast, Int.toNat_natCast]
  have point : Literal.point (Literal.ofUnits amount.val scale).fractional =
      if 0 < scale then '.' :: Text.padded scale (amount.val.natAbs % 10 ^ scale) else [] := by
    have length := Literal.length_fractional_ofUnits amount.val scale
    unfold Literal.point
    by_cases positive : 0 < scale
    · have nonempty : (Literal.ofUnits amount.val scale).fractional ≠ [] := by
        rw [← List.length_pos_iff]
        omega
      rw [if_neg nonempty, if_pos positive]
      simp [Literal.ofUnits, positive]
    · rw [if_neg positive, if_pos (List.length_eq_zero_iff.mp (by omega))]
  rw [formatMinorUnits, I128.pow10_eq bounded, Option.map_some, factor, Literal.chars, point]
  simp [Literal.ofUnits, Literal.sign]

theorem parseMinorUnits_formatted (bounded : scale ≤ 18) (amount : I64) :
    parseMinorUnits (String.ofList (Literal.ofUnits amount.val scale).chars) scale = .ok amount := by
  rw [parseMinorUnits_of_literal bounded String.toList_ofList,
    Literal.length_fractional_ofUnits, if_neg (Nat.lt_irrefl _), Literal.units_ofUnits,
    I64.tryFrom_eq_some.mpr rfl]
  rfl

theorem value_ofUnits (amount : Int) (scale : Nat) :
    (amount : Rat) = (Literal.ofUnits amount scale).value * 10 ^ scale := by
  rw [← Literal.units_eq (Literal.length_fractional_ofUnits amount scale).le, Literal.units_ofUnits]

end Formatting

/-- Formatting writes the one canonical spelling, and parsing reads it back. -/
theorem format_parse_inverse (scale : Nat) (bounded : scale ≤ 18) :
    (∀ amount : I64, ∃ text, formatMinorUnits amount scale = some text ∧
      parseMinorUnits text scale = .ok amount) ∧
    (∀ (input : String) (amount : I64), parseMinorUnits input scale = .ok amount →
      ∃ text, formatMinorUnits amount scale = some text ∧
        parseMinorUnits text scale = .ok amount ∧
        ∃ literal spelled : Literal, input.toList = literal.chars ∧ text.toList = spelled.chars ∧
          spelled.value = literal.value ∧ spelled.Canonical scale ∧
          (spelled.negative = true ↔ amount.val < 0) ∧
          ∀ other : Literal, other.Canonical scale → other.value = literal.value →
            String.ofList other.chars = text) ∧
    Function.Injective fun amount : I64 => formatMinorUnits amount scale := by
  refine ⟨?_, ?_, ?_⟩
  · intro amount
    exact ⟨_, formatMinorUnits_eq bounded amount, parseMinorUnits_formatted bounded amount⟩
  · intro input amount parsed
    refine ⟨_, formatMinorUnits_eq bounded amount, parseMinorUnits_formatted bounded amount, ?_⟩
    obtain ⟨literal, reads, _, value⟩ := (parseMinorUnits_eq_ok bounded).mp parsed
    have power : (10 : Rat) ^ scale ≠ 0 := pow_ne_zero _ (by norm_num)
    have same : (Literal.ofUnits amount.val scale).value = literal.value :=
      mul_right_cancel₀ power ((value_ofUnits amount.val scale).symm.trans value)
    refine ⟨literal, Literal.ofUnits amount.val scale, reads, String.toList_ofList, same,
      Literal.canonical_ofUnits _ _, by simp [Literal.ofUnits], ?_⟩
    intro other canonical equal
    rw [canonical.unique (Literal.canonical_ofUnits amount.val scale) (equal.trans same.symm)]
  · intro first second same
    simp only [formatMinorUnits_eq bounded, Option.some.injEq] at same
    have back := parseMinorUnits_formatted bounded first
    rw [same, parseMinorUnits_formatted bounded second] at back
    exact (Outcome.ok.inj back).symm

theorem format_parse_inverse_cents :
    ∃ text, formatMinorUnits ⟨750, by decide⟩ 2 = some text ∧
      parseMinorUnits text 2 = .ok ⟨750, by decide⟩ ∧
      parseMinorUnits "007.5" 2 = .ok ⟨750, by decide⟩ := by
  have parsed : parseMinorUnits "007.5" 2 = .ok ⟨750, by decide⟩ := by decide
  obtain ⟨text, formatted, back, _⟩ := (format_parse_inverse 2 (by decide)).2.1 _ _ parsed
  exact ⟨text, formatted, back, parsed⟩

end LedgerService
