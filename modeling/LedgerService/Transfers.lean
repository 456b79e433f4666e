import LedgerService.Fx
import LedgerService.Postings

set_option autoImplicit false

namespace LedgerService

open Transaction

structure CreateTransferRequest where
  sourceAccountId : String
  destinationAccountId : String
  amount : String
  deriving DecidableEq

def transferMoneyError : MoneyError → AppError
  | .malformed => .validation "malformed_amount" "The amount is malformed"
  | .tooManyFractionalDigits =>
      .validation "too_many_fractional_digits"
        "The amount has too many fractional digits for this currency"
  | .negative => .validation "non_positive_amount" "The amount must be greater than zero"
  | .overflow => .validation "amount_overflow" "The amount is out of range"

def transferConfigurationError : ConfigurationError → Failure
  | .rateUnavailable => .business "rate_unavailable" "An FX rate is unavailable"
  | .rateAmbiguous =>
      .business "rate_configuration_ambiguous" "FX rate configuration is ambiguous"
  | .feeRuleUnavailable => .business "fee_rule_unavailable" "An FX fee rule is unavailable"
  | .feeRuleAmbiguous =>
      .business "fee_rule_configuration_ambiguous" "FX fee rule configuration is ambiguous"
  | .database error => .database error

def transferArithmeticError : ArithmeticError → Failure
  | .destinationTooSmall =>
      .business "destination_amount_too_small" "The converted destination amount rounds to zero"
  | .overflow => .business "arithmetic_overflow" "The transfer amount is out of range"
  | .invalidRate | .invalidScale | .invalidAmount =>
      .internal (.message "invalid persisted FX configuration")

/-- What `create_transfer` has read from its request before it acquires a connection. -/
structure TransferRequest where
  idempotencyKey : IdempotencyKey
  sourceAccountId : Uuid
  destinationAccountId : Uuid
  amount : String

def validateTransferRequest (platform : Platform) (headers : HeaderMap)
    (request : Option CreateTransferRequest) : Except Failure TransferRequest := do
  let idempotencyKey ← IdempotencyKey.fromHeaders headers
  let request ← orFailure (.validation "invalid_json" "The request body is invalid") request
  let sourceAccountId ←
    orFailure (.validation "malformed_account_id" "The account ID is invalid")
      (platform.parseUuid request.sourceAccountId)
  let destinationAccountId ←
    orFailure (.validation "malformed_account_id" "The account ID is invalid")
      (platform.parseUuid request.destinationAccountId)
  demand (sourceAccountId ≠ destinationAccountId)
    (.validation "same_source_and_destination" "The source and destination accounts must differ")
  .ok ⟨idempotencyKey, sourceAccountId, destinationAccountId, request.amount⟩

def acquireConnection : Handler Unit := do
  match ← ask .acquire with
  | .ok _ => .emit (.poolAcquire .success)
  | .error error => do
      .emit (.poolAcquire .failure)
      .fail (.database error)

def transferOperation (preliminary : Preliminary) : Except Failure OperationType :=
  if preliminary.sourceCurrency = preliminary.destinationCurrency then
    if preliminary.sourceScale ≠ preliminary.destinationScale then
      .error (.internal (.message "same currency accounts have different scales"))
    else .ok .transfer
  else .ok .fxTransfer

def transferAmount (preliminary : Preliminary) (amount : String) : Except Failure I64 := do
  let sourceScale ← orFailure (.internal .conversion) (u8TryFrom preliminary.sourceScale)
  let amountMinor ← orMoneyError transferMoneyError (parseMinorUnits amount sourceScale)
  demand (0 < amountMinor.val)
    (.validation "non_positive_amount" "The amount must be greater than zero")
  .ok amountMinor

def selectFxConfiguration (operationType : OperationType) (preliminary : Preliminary)
    (operationTime : Timestamp) : Handler (Option (ExchangeRate × FeeRule)) :=
  if operationType = .fxTransfer then do
    let rate ← selectExchangeRate preliminary.sourceCurrency preliminary.destinationCurrency
      operationTime
    let rate ← .ofExcept (rate.mapError transferConfigurationError)
    let fee ← selectFeeRule preliminary.sourceCurrency preliminary.destinationCurrency operationTime
    let fee ← .ofExcept (fee.mapError transferConfigurationError)
    .done (some (rate, fee))
  else .done none

-- The two locked rows, for an initiator who may debit the source.
def transferAccounts (clientId : String) (preliminary : Preliminary) (request : TransferRequest)
    (accounts : List LockedAccount) : Except Failure (LockedAccount × LockedAccount) := do
  demand (accounts.length = 2) (.app .accountUnavailable)
  let source ←
    orFailure accountsReturned (accounts.find? fun account => account.id = request.sourceAccountId)
  let destination ←
    orFailure accountsReturned
      (accounts.find? fun account => account.id = request.destinationAccountId)
  demand (source.ownerId = clientId ∧ source.status = .active ∧ destination.status = .active)
    (.app .accountUnavailable)
  demand ((source.currency, source.scale, destination.currency, destination.scale) =
      (preliminary.sourceCurrency, preliminary.sourceScale, preliminary.destinationCurrency,
        preliminary.destinationScale))
    (.internal (.message "account currency metadata changed during transfer"))
  .ok (source, destination)

structure TransferTerms where
  kind : TransferKind
  destinationAmountMinor : I64
  feeAmountMinor : I64
  totalSourceDebitMinor : I64
  feeBps : Option Int
  exchangeRate : Option String
  exchangeRateId : Option Uuid

def transferTerms (amountMinor : I64) (fxConfiguration : Option (ExchangeRate × FeeRule))
    (source destination : LockedAccount) : Except ArithmeticError TransferTerms :=
  match fxConfiguration with
  | none => .ok ⟨.transfer, amountMinor, .zero, amountMinor, none, none, none⟩
  | some (rate, fee) => do
      let feeCalculation ← calculateFee amountMinor fee.feeBps
      let exactRate ← ExactRate.parse rate.rate
      let destinationAmount ←
        calculateDestination amountMinor (asU8 source.scale) (asU8 destination.scale) exactRate
      .ok ⟨.fxTransfer, destinationAmount, feeCalculation.feeMinor,
        feeCalculation.totalSourceDebitMinor, some fee.feeBps, some rate.rate, some rate.id⟩

-- The new balances, where the source covers the debit with its fee.
def transferBalances (terms : TransferTerms) (source destination : LockedAccount) :
    Except Failure (I64 × I64) := do
  demand (¬ source.balanceMinor.val < terms.totalSourceDebitMinor.val)
    (.business "insufficient_funds" "The source account has insufficient funds")
  let sourceBalance ←
    orFailure (.business "arithmetic_overflow" "The transfer amount is out of range")
      (I64.checkedSub source.balanceMinor terms.totalSourceDebitMinor)
  let destinationBalance ←
    orFailure (.business "arithmetic_overflow" "The transfer amount is out of range")
      (I64.checkedAdd destination.balanceMinor terms.destinationAmountMinor)
  .ok (sourceBalance, destinationBalance)

def transferPosting (clientId : String) (ids : NewIds) (request : TransferRequest)
    (amountMinor : I64) (terms : TransferTerms) (source destination : LockedAccount)
    (sourceBalance destinationBalance : I64) : Posting :=
  let isFx := terms.kind = .fxTransfer
  { transfer := {
      id := ids.resource
      sourceAccountId := request.sourceAccountId
      destinationAccountId := request.destinationAccountId
      sourceCurrency := source.currency
      destinationCurrency := destination.currency
      sourceAmountMinor := amountMinor
      destinationAmountMinor := terms.destinationAmountMinor
      feeAmountMinor := terms.feeAmountMinor
      totalSourceDebitMinor := terms.totalSourceDebitMinor
      feeBps := terms.feeBps
      exchangeRate := terms.exchangeRate
      exchangeRateId := terms.exchangeRateId
      kind := terms.kind
      reversesTransferId := none
      initiatedBy := clientId }
    sourceBalance := sourceBalance
    destinationBalance := destinationBalance
    debit := {
      id := ids.debitEntry
      accountId := request.sourceAccountId
      transferId := ids.resource
      counterpartyAccountId := request.destinationAccountId
      direction := .debit
      operationKind := terms.kind
      amountMinor := terms.totalSourceDebitMinor
      currency := source.currency
      principalAmountMinor := if isFx then some amountMinor else none
      feeAmountMinor := if isFx then some terms.feeAmountMinor else none }
    credit := {
      id := ids.creditEntry
      accountId := request.destinationAccountId
      transferId := ids.resource
      counterpartyAccountId := request.sourceAccountId
      direction := .credit
      operationKind := terms.kind
      amountMinor := terms.destinationAmountMinor
      currency := destination.currency
      principalAmountMinor := if isFx then some terms.destinationAmountMinor else none
      feeAmountMinor := none } }

def transferCreatedResponse (ids : NewIds) (request : TransferRequest) (amountMinor : I64)
    (terms : TransferTerms) (source destination : LockedAccount) (createdAt : String) :
    Except Failure Value :=
  if terms.kind = .fxTransfer then do
    let sourceAmount ← formatAmount amountMinor (asU8 source.scale)
    let destinationAmount ← formatAmount terms.destinationAmountMinor (asU8 destination.scale)
    let feeAmount ← formatAmount terms.feeAmountMinor (asU8 source.scale)
    let totalSourceDebit ← formatAmount terms.totalSourceDebitMinor (asU8 source.scale)
    .ok [("kind", TransferKind.fxTransfer.asStr), ("id", ids.resource.hyphenated),
      ("status", "completed"), ("source_account_id", request.sourceAccountId.hyphenated),
      ("destination_account_id", request.destinationAccountId.hyphenated),
      ("source_currency", source.currency), ("source_amount", sourceAmount),
      ("destination_currency", destination.currency), ("destination_amount", destinationAmount),
      ("fee_amount", feeAmount), ("total_source_debit", totalSourceDebit),
      ("created_at", createdAt)]
  else do
    let amount ← formatAmount amountMinor (asU8 source.scale)
    .ok [("kind", TransferKind.transfer.asStr), ("id", ids.resource.hyphenated),
      ("status", "completed"), ("source_account_id", request.sourceAccountId.hyphenated),
      ("destination_account_id", request.destinationAccountId.hyphenated),
      ("currency", source.currency), ("amount", amount), ("created_at", createdAt)]

/-- What `create_transfer` does once the key is reserved. -/
def performTransfer (clientId : String) (ids : NewIds) (scope : Scope)
    (preliminary : Preliminary) (request : TransferRequest) (amountMinor : I64) :
    Handler Reply := do
  let operationTime ← send .transactionTimestamp
  let fxConfiguration ← selectFxConfiguration scope.operationType preliminary operationTime
  let accounts ← selectAccountsForUpdate [request.sourceAccountId, request.destinationAccountId]
  let (source, destination) ←
    .ofExcept (transferAccounts clientId preliminary request accounts)
  let terms ←
    .ofExcept ((transferTerms amountMinor fxConfiguration source destination).mapError
      transferArithmeticError)
  let (sourceBalance, destinationBalance) ← .ofExcept (transferBalances terms source destination)
  let createdAt ← post (transferPosting clientId ids request amountMinor terms source destination
    sourceBalance destinationBalance)
  let responseBody ←
    .ofExcept (transferCreatedResponse ids request amountMinor terms source destination createdAt)
  storeSuccess scope created responseBody ids.resource
  .done (.ok ⟨created, responseBody⟩)

def createTransfer (platform : Platform) (clientId : String) (headers : HeaderMap)
    (request : Option CreateTransferRequest) (ids : NewIds) : Handler Reply := do
  let request ← .ofExcept (validateTransferRequest platform headers request)
  acquireConnection
  let _ ← send .begin
  let preliminary ←
    .orFail (.app .accountUnavailable)
      (← send (.selectPreliminary request.sourceAccountId request.destinationAccountId))
  let operationType ← .ofExcept (transferOperation preliminary)
  .emit (.started (if operationType = .transfer then .transfer else .fxTransfer))
  let amountMinor ← .ofExcept (transferAmount preliminary request.amount)
  let fingerprint := transferFingerprint platform request.sourceAccountId
    request.destinationAccountId preliminary.sourceCurrency amountMinor
  let scope : Scope := ⟨clientId, operationType, request.idempotencyKey.asStr⟩
  match ← replayOrReserve platform scope fingerprint with
  | some success => .done (.ok success)
  | none => performTransfer clientId ids scope preliminary request amountMinor

end LedgerService
