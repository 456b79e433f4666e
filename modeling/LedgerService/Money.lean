import LedgerService.Primitives

set_option autoImplicit false

namespace LedgerService

structure Currency where
  code : String
  scale : Nat
  deriving DecidableEq

def currencies : List Currency := [⟨"PLN", 2⟩, ⟨"EUR", 2⟩, ⟨"USD", 2⟩, ⟨"JPY", 0⟩]

def currency (input : String) : Option Currency :=
  let normalized := String.ofList ((Text.trim input.toList).map Char.toUpper)
  currencies.find? fun currency => currency.code = normalized

inductive MoneyError where
  | malformed
  | tooManyFractionalDigits
  | negative
  | overflow
  deriving DecidableEq

def parseMinorUnits (input : String) (scale : Nat) : Outcome MoneyError I64 :=
  let input := input.toList
  if input = [] ∨ Text.trim input ≠ input then .error .malformed
  else
    let (negative, digits) := Text.stripMinus input
    let (whole, fractional) := (Text.splitOnce '.' digits).getD (digits, [])
    if whole = [] ∨ ('.' ∈ digits ∧ fractional = []) ∨ ¬ whole.all Char.isDigit ∨
        ¬ fractional.all Char.isDigit ∨ 1 < digits.count '.' then .error .malformed
    else if scale < fractional.length then .error .tooManyFractionalDigits
    else do
      -- Unchecked arithmetic panics where it overflows; checked arithmetic is an error.
      let factor ← .orPanic (I128.pow10 scale)
      let whole ← .orError .overflow (I128.parse whole)
      let fractional ←
        if fractional = [] then .ok 0
        else do
          let value ← .orError .overflow (I128.parse fractional)
          let unit ← .orPanic (I128.pow10 (scale - fractional.length))
          .orPanic (I128.checked (value * unit))
      let amount ← .orError .overflow
        ((I128.checked (whole * factor)).bind fun value => I128.checked (value + fractional))
      let amount ← if negative then .orPanic (I128.checked (-amount)) else .ok amount
      .orError .overflow (I64.tryFrom amount)

def parseInitialBalance (input : String) (scale : Nat) : Outcome MoneyError I64 := do
  let amount ← parseMinorUnits input scale
  if amount.val < 0 then .error .negative else .ok amount

/-- The decimal text of an amount; `none` where the power of ten does not fit `i128`. -/
def formatMinorUnits (amount : I64) (scale : Nat) : Option String :=
  (I128.pow10 scale).map fun factor =>
    let whole := amount.val.natAbs / factor.toNat
    let fractional := amount.val.natAbs % factor.toNat
    String.ofList ((if amount.val < 0 then ['-'] else []) ++ Nat.toDigits 10 whole ++
      if 0 < scale then '.' :: Text.padded scale fractional else [])

example : parseMinorUnits "10.2" 2 = .ok ⟨1020, by decide⟩ := by decide

example : parseMinorUnits "-0.01" 2 = .ok ⟨-1, by decide⟩ := by decide

example : formatMinorUnits ⟨-1, by decide⟩ 2 = some "-0.01" := by decide

theorem parseInitialBalance_nonnegative {input : String} {scale : Nat} {amount : I64}
    (parsed : parseInitialBalance input scale = .ok amount) : 0 ≤ amount.val := by
  simp only [parseInitialBalance, bind, Outcome.bind] at parsed
  cases units : parseMinorUnits input scale with
  | ok value =>
    by_cases negative : value.val < 0
    · simp [units, negative] at parsed
    · simp only [units, negative, if_false, Outcome.ok.injEq] at parsed
      exact parsed ▸ Int.not_lt.mp negative
  | error failed => simp [units] at parsed
  | panic => simp [units] at parsed

end LedgerService
