import LedgerService.Observability

set_option autoImplicit false

/-!
# Exported metrics

The series that `observability.rs` records, under the names and labels they are rendered with.
-/

namespace LedgerService

def FinancialOperation.asStr : FinancialOperation → String
  | .transfer => "transfer"
  | .fxTransfer => "fx_transfer"
  | .reversal => "reversal"

def TerminalOutcome.asStr : TerminalOutcome → String
  | .success => "success"
  | .rejected => "rejected"
  | .internalError => "internal_error"

def PoolAcquireOutcome.asStr : PoolAcquireOutcome → String
  | .success => "success"
  | .failure => "failure"

def IdempotencyOutcome.asStr : IdempotencyOutcome → String
  | .owner => "owner"
  | .replay => "replay"
  | .conflict => "conflict"

def FinancialReason.asStr : FinancialReason → String
  | .none => "none"
  | .internalError => "internal_error"
  | .sameSourceAndDestination => "same_source_and_destination"
  | .accountUnavailable => "account_unavailable"
  | .insufficientFunds => "insufficient_funds"
  | .rateUnavailable => "rate_unavailable"
  | .rateConfigurationAmbiguous => "rate_configuration_ambiguous"
  | .feeRuleUnavailable => "fee_rule_unavailable"
  | .feeRuleConfigurationAmbiguous => "fee_rule_configuration_ambiguous"
  | .destinationAmountTooSmall => "destination_amount_too_small"
  | .idempotencyConflict => "idempotency_conflict"
  | .reversalOfReversal => "reversal_of_reversal"
  | .transferAlreadyReversed => "transfer_already_reversed"
  | .arithmeticOverflow => "arithmetic_overflow"
  | .malformedAmount => "malformed_amount"
  | .tooManyFractionalDigits => "too_many_fractional_digits"
  | .nonPositiveAmount => "non_positive_amount"
  | .amountOverflow => "amount_overflow"
  | .malformedAccountId => "malformed_account_id"
  | .malformedTransferId => "malformed_transfer_id"
  | .invalidJson => "invalid_json"
  | .notFound => "not_found"
  | .badRequest => "bad_request"
  | .unauthorized => "unauthorized"
  | .forbidden => "forbidden"
  | .conflict => "conflict"
  | .serviceUnavailable => "service_unavailable"
  | .invalidRequest => "invalid_request"

inductive ReadinessOutcome where
  | ready
  | notReady
  deriving DecidableEq

def ReadinessOutcome.asStr : ReadinessOutcome → String
  | .ready => "ready"
  | .notReady => "not_ready"

inductive ReadinessReason where
  | none
  | databaseUnavailable
  | internalError
  deriving DecidableEq

def ReadinessReason.asStr : ReadinessReason → String
  | .none => "none"
  | .databaseUnavailable => "database_unavailable"
  | .internalError => "internal_error"

-- The labels `normalized_method` gives.
inductive MethodLabel where
  | get
  | post
  | put
  | patch
  | delete
  | head
  | options
  | connect
  | trace
  | other
  deriving DecidableEq

def MethodLabel.asStr : MethodLabel → String
  | .get => "GET"
  | .post => "POST"
  | .put => "PUT"
  | .patch => "PATCH"
  | .delete => "DELETE"
  | .head => "HEAD"
  | .options => "OPTIONS"
  | .connect => "CONNECT"
  | .trace => "TRACE"
  | .other => "OTHER"

-- The labels `status_class` gives.
inductive StatusClass where
  | success
  | redirection
  | clientError
  | serverError
  deriving DecidableEq

def StatusClass.asStr : StatusClass → String
  | .success => "2xx"
  | .redirection => "3xx"
  | .clientError => "4xx"
  | .serverError => "5xx"

/-- The routes of `router_with_idempotency_retention`, and none of them. -/
inductive RouteLabel where
  | metrics
  | health
  | ready
  | openapi
  | accounts
  | accountBalance
  | accountEntries
  | transfers
  | transfer
  | transferReversal
  | unmatched
  deriving DecidableEq

def RouteLabel.asStr : RouteLabel → String
  | .metrics => "/metrics"
  | .health => "/health"
  | .ready => "/ready"
  | .openapi => "/openapi.json"
  | .accounts => "/accounts"
  | .accountBalance => "/accounts/{account_id}/balance"
  | .accountEntries => "/accounts/{account_id}/entries"
  | .transfers => "/transfers"
  | .transfer => "/transfers/{transfer_id}"
  | .transferReversal => "/transfers/{transfer_id}/reversal"
  | .unmatched => "unmatched"

def RouteLabel.HasParameter (route : RouteLabel) : Prop := '{' ∈ route.asStr.toList

instance (route : RouteLabel) : Decidable route.HasParameter :=
  inferInstanceAs (Decidable ('{' ∈ route.asStr.toList))

def BUCKETS : List String :=
  ["0.001", "0.005", "0.01", "0.025", "0.05", "0.1", "0.25", "0.5", "1", "2.5", "5", "10"]

inductive HistogramPart where
  | bucket (bound : Fin BUCKETS.length)
  | total
  | sum
  | count
  deriving DecidableEq

namespace HistogramPart

def suffix : HistogramPart → String
  | .bucket _ | .total => "_bucket"
  | .sum => "_sum"
  | .count => "_count"

def bounds : HistogramPart → List (String × String)
  | .bucket bound => [("le", BUCKETS.get bound)]
  | .total => [("le", "+Inf")]
  | .sum | .count => []

end HistogramPart

inductive Series where
  | httpRequests (method : MethodLabel) (route : RouteLabel) (status : StatusClass)
  | httpRequestDuration (method : MethodLabel) (route : RouteLabel) (part : HistogramPart)
  | operations (operation : FinancialOperation) (outcome : TerminalOutcome) (reason : FinancialReason)
  | transactionDuration (operation : FinancialOperation) (outcome : TerminalOutcome)
      (part : HistogramPart)
  | idempotencyOutcomes (operation : FinancialOperation) (outcome : IdempotencyOutcome)
  | poolAcquireDuration (outcome : PoolAcquireOutcome) (part : HistogramPart)
  | readinessChecks (outcome : ReadinessOutcome) (reason : ReadinessReason)
  | readinessCheckDuration (outcome : ReadinessOutcome) (part : HistogramPart)
  deriving DecidableEq

namespace Series

def name : Series → List Char
  | .httpRequests .. => "ledger_http_requests_total".toList
  | .httpRequestDuration _ _ part =>
      "ledger_http_request_duration_seconds".toList ++ part.suffix.toList
  | .operations .. => "ledger_operations_total".toList
  | .transactionDuration _ _ part =>
      "ledger_database_transaction_duration_seconds".toList ++ part.suffix.toList
  | .idempotencyOutcomes .. => "ledger_idempotency_outcomes_total".toList
  | .poolAcquireDuration _ part =>
      "ledger_database_pool_acquire_duration_seconds".toList ++ part.suffix.toList
  | .readinessChecks .. => "ledger_readiness_checks_total".toList
  | .readinessCheckDuration _ part =>
      "ledger_readiness_check_duration_seconds".toList ++ part.suffix.toList

def labels : Series → List (String × String)
  | .httpRequests method route status =>
      [("method", method.asStr), ("route", route.asStr), ("status_class", status.asStr)]
  | .httpRequestDuration method route part =>
      [("method", method.asStr), ("route", route.asStr)] ++ part.bounds
  | .operations operation outcome reason =>
      [("operation", operation.asStr), ("outcome", outcome.asStr), ("reason", reason.asStr)]
  | .transactionDuration operation outcome part =>
      [("operation", operation.asStr), ("outcome", outcome.asStr)] ++ part.bounds
  | .idempotencyOutcomes operation outcome =>
      [("operation", operation.asStr), ("outcome", outcome.asStr)]
  | .poolAcquireDuration outcome part =>
      [("operation", FinancialOperation.transfer.asStr), ("outcome", outcome.asStr)] ++ part.bounds
  | .readinessChecks outcome reason => [("outcome", outcome.asStr), ("reason", reason.asStr)]
  | .readinessCheckDuration outcome part => [("outcome", outcome.asStr)] ++ part.bounds

def route : Series → Option RouteLabel
  | .httpRequests _ route _ | .httpRequestDuration _ route _ => some route
  | _ => none

end Series

structure Sample (Value : Type) where
  name : List Char
  labels : List (List Char × List Char)
  value : Value

def Series.sample {Value : Type} (series : Series) (value : Value) : Sample Value :=
  { name := series.name
    labels := series.labels.map fun label => (label.1.toList, label.2.toList)
    value }

namespace TextFormat

def escape (value : List Char) : List Char :=
  value.flatMap fun c =>
    if c = '\\' then ['\\', '\\'] else if c = '"' then ['\\', '"']
    else if c = '\n' then ['\\', 'n'] else [c]

def label (pair : List Char × List Char) : List Char :=
  pair.1 ++ '=' :: '"' :: (escape pair.2 ++ ['"'])

def labels : List (List Char × List Char) → List Char
  | [] => []
  | [last] => label last
  | pair :: more => label pair ++ ',' :: labels more

def sample {Value : Type} (display : Value → List Char) (sample : Sample Value) : List Char :=
  sample.name ++ '{' :: (labels sample.labels ++ '}' :: ' ' :: display sample.value)

end TextFormat

end LedgerService
