import LedgerService.Statements

set_option autoImplicit false

/-!
# FX configuration and exact arithmetic

`BigInt` is `Int`; its division and remainder truncate.
-/

namespace LedgerService

open Transaction

inductive ConfigurationError where
  | rateUnavailable
  | rateAmbiguous
  | feeRuleUnavailable
  | feeRuleAmbiguous
  | database (error : DbError)
  deriving DecidableEq

def selectExchangeRate (sourceCurrency destinationCurrency : String)
    (operationTime : Timestamp) : Handler (Except ConfigurationError ExchangeRate) := do
  match ← ask (.selectExchangeRates sourceCurrency destinationCurrency operationTime) with
  | .error error => .done (.error (.database error))
  | .ok [] => .done (.error .rateUnavailable)
  | .ok [rate] => .done (.ok rate)
  | .ok _ => .done (.error .rateAmbiguous)

def selectFeeRule (sourceCurrency destinationCurrency : String) (operationTime : Timestamp) :
    Handler (Except ConfigurationError FeeRule) := do
  match ← ask (.selectPairFeeRules sourceCurrency destinationCurrency operationTime) with
  | .error error => .done (.error (.database error))
  | .ok [rule] => .done (.ok rule)
  | .ok (_ :: _) => .done (.error .feeRuleAmbiguous)
  | .ok [] => do
      match ← ask (.selectDefaultFeeRules operationTime) with
      | .error error => .done (.error (.database error))
      | .ok [] => .done (.error .feeRuleUnavailable)
      | .ok [rule] => .done (.ok rule)
      | .ok _ => .done (.error .feeRuleAmbiguous)

inductive ArithmeticError where
  | invalidRate
  | invalidScale
  | invalidAmount
  | overflow
  | destinationTooSmall
  deriving DecidableEq

/-- A parsed rate is positive, and its scale is that of a `NUMERIC(30, 12)`. -/
structure ExactRate where
  coefficient : Int
  scale : Nat
  positive : 0 < coefficient
  bounded : scale ≤ 12
  deriving DecidableEq

def ExactRate.parse (input : String) : Except ArithmeticError ExactRate :=
  let input := input.toList
  let (whole, fractional) := (Text.splitOnce '.' input).getD (input, [])
  if bounds : whole = [] ∨ ¬ whole.all Char.isDigit ∨ ¬ fractional.all Char.isDigit ∨
      18 < whole.length ∨ 12 < fractional.length ∨ 30 < whole.length + fractional.length ∨
      1 < input.count '.' then .error .invalidRate
  else
    let coefficient : Int := Nat.ofDigitChars 10 (whole ++ fractional) 0
    if positive : 0 < coefficient then
      .ok ⟨coefficient, fractional.length, positive, by
        simp only [not_or, Nat.not_lt] at bounds
        exact bounds.2.2.2.2.1⟩
    else .error .invalidRate

structure FeeCalculation where
  feeMinor : I64
  totalSourceDebitMinor : I64
  deriving DecidableEq

def pow10 (scale : Nat) : Int := 10 ^ scale

def halfUpDivide (numerator denominator : Int) : Except ArithmeticError Int :=
  if denominator ≤ 0 then .error .invalidAmount
  else
    let quotient := numerator.tdiv denominator
    let remainder := numerator.tmod denominator
    if denominator ≤ remainder * 2 then .ok (quotient + 1) else .ok quotient

def orOverflow : Option I64 → Except ArithmeticError I64
  | some value => .ok value
  | none => .error .overflow

def calculateFee (sourceMinor : I64) (feeBps : Int) : Except ArithmeticError FeeCalculation :=
  if sourceMinor.val ≤ 0 ∨ ¬ (0 ≤ feeBps ∧ feeBps ≤ 10000) then .error .invalidAmount
  else do
    let fee ← halfUpDivide (sourceMinor.val * feeBps) 10000
    let feeMinor ← orOverflow (I64.tryFrom fee)
    let totalSourceDebitMinor ← orOverflow (I64.checkedAdd sourceMinor feeMinor)
    .ok ⟨feeMinor, totalSourceDebitMinor⟩

def calculateDestination (sourceMinor : I64) (sourceScale destinationScale : Nat)
    (rate : ExactRate) : Except ArithmeticError I64 :=
  if sourceMinor.val ≤ 0 then .error .invalidAmount
  else if 18 < sourceScale ∨ 18 < destinationScale then .error .invalidScale
  else do
    let numerator := sourceMinor.val * rate.coefficient * pow10 destinationScale
    let denominator := pow10 rate.scale * pow10 sourceScale
    let rounded ← halfUpDivide numerator denominator
    if rounded = 0 then .error .destinationTooSmall else orOverflow (I64.tryFrom rounded)

end LedgerService
