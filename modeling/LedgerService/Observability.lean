import LedgerService.ApiError

set_option autoImplicit false

namespace LedgerService

inductive FinancialOperation where
  | transfer
  | fxTransfer
  | reversal
  deriving DecidableEq

inductive TerminalOutcome where
  | success
  | rejected
  | internalError
  deriving DecidableEq

inductive PoolAcquireOutcome where
  | success
  | failure
  deriving DecidableEq

inductive IdempotencyOutcome where
  | owner
  | replay
  | conflict
  deriving DecidableEq

inductive FinancialReason where
  | none
  | internalError
  | sameSourceAndDestination
  | accountUnavailable
  | insufficientFunds
  | rateUnavailable
  | rateConfigurationAmbiguous
  | feeRuleUnavailable
  | feeRuleConfigurationAmbiguous
  | destinationAmountTooSmall
  | idempotencyConflict
  | reversalOfReversal
  | transferAlreadyReversed
  | arithmeticOverflow
  | malformedAmount
  | tooManyFractionalDigits
  | nonPositiveAmount
  | amountOverflow
  | malformedAccountId
  | malformedTransferId
  | invalidJson
  | notFound
  | badRequest
  | unauthorized
  | forbidden
  | conflict
  | serviceUnavailable
  | invalidRequest
  deriving DecidableEq

def financialReason : String → FinancialReason
  | "same_source_and_destination" => .sameSourceAndDestination
  | "account_unavailable" => .accountUnavailable
  | "insufficient_funds" => .insufficientFunds
  | "rate_unavailable" => .rateUnavailable
  | "rate_configuration_ambiguous" => .rateConfigurationAmbiguous
  | "fee_rule_unavailable" => .feeRuleUnavailable
  | "fee_rule_configuration_ambiguous" => .feeRuleConfigurationAmbiguous
  | "destination_amount_too_small" => .destinationAmountTooSmall
  | "idempotency_conflict" => .idempotencyConflict
  | "reversal_of_reversal" => .reversalOfReversal
  | "transfer_already_reversed" => .transferAlreadyReversed
  | "arithmetic_overflow" => .arithmeticOverflow
  | "malformed_amount" => .malformedAmount
  | "too_many_fractional_digits" => .tooManyFractionalDigits
  | "non_positive_amount" => .nonPositiveAmount
  | "amount_overflow" => .amountOverflow
  | "malformed_account_id" => .malformedAccountId
  | "malformed_transfer_id" => .malformedTransferId
  | "invalid_json" => .invalidJson
  | _ => .invalidRequest

def AppError.financialMetricOutcome : AppError → TerminalOutcome × FinancialReason
  | .internal _ => (.internalError, .internalError)
  | .idempotencyConflict => (.rejected, .idempotencyConflict)
  | .accountUnavailable => (.rejected, .accountUnavailable)
  | .business code _ | .validation code _ => (.rejected, financialReason code)
  | .notFound => (.rejected, .notFound)
  | .badRequest => (.rejected, .badRequest)
  | .unauthorized => (.rejected, .unauthorized)
  | .forbidden => (.rejected, .forbidden)
  | .conflict => (.rejected, .conflict)
  | .serviceUnavailable => (.rejected, .serviceUnavailable)

/-- What a handler reports while it runs.  `started` is the construction of the observation whose
end reports the terminal outcome. -/
inductive Signal where
  | poolAcquire (outcome : PoolAcquireOutcome)
  | operationWithoutTransaction (operation : FinancialOperation) (outcome : TerminalOutcome)
      (reason : FinancialReason)
  | started (operation : FinancialOperation)
  | idempotency (outcome : IdempotencyOutcome)
  deriving DecidableEq

end LedgerService
