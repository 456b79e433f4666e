import LedgerService.Transfers

set_option autoImplicit false

namespace LedgerService

open Transaction

/-- What `reverse_transfer` has read from its request before the transaction. -/
structure ReversalRequest where
  idempotencyKey : IdempotencyKey
  originalTransferId : Uuid
  deriving DecidableEq

def validateReversalRequest (platform : Platform) (headers : HeaderMap) (transferId : String) :
    Except Failure ReversalRequest := do
  let idempotencyKey ← IdempotencyKey.fromHeaders headers
  let originalTransferId ←
    orFailure (.validation "malformed_transfer_id" "The transfer ID is invalid")
      (platform.parseUuid transferId)
  .ok ⟨idempotencyKey, originalTransferId⟩

def beginReversal : Handler Unit := do
  match ← ask .begin with
  | .ok _ => .done ()
  | .error error => do
      let (outcome, reason) := (AppError.internal (.database error)).financialMetricOutcome
      .emit (.operationWithoutTransaction .reversal outcome reason)
      .fail (.database error)

-- The original, locked, for the owner of its destination account; it is not reversed yet.
def lockOriginal (clientId : String) (originalTransferId : Uuid) : Handler OriginalTransfer := do
  let original ← .orFail (.app .notFound) (← send (.lockTransfer originalTransferId))
  .ensure (original.kind ≠ .reversal)
    (.business "reversal_of_reversal" "A reversal cannot be reversed")
  let authorized ← send (.selectOwner original.destinationAccountId)
  .ensure (authorized = some clientId) (.app .notFound)
  let alreadyReversed ← send (.selectReversed originalTransferId)
  .ensure (alreadyReversed = false)
    (.business "transfer_already_reversed" "The transfer has already been reversed")
  .done original

-- The two locked rows in their new roles.
def reversalAccounts (original : OriginalTransfer) (accounts : List LockedAccount) :
    Except Failure (LockedAccount × LockedAccount) := do
  let sourceAccountId := original.destinationAccountId
  let destinationAccountId := original.sourceAccountId
  demand (accounts.length = 2) (.app .accountUnavailable)
  let source ← orFailure accountsReturned (accounts.find? fun account => account.id = sourceAccountId)
  let destination ←
    orFailure accountsReturned (accounts.find? fun account => account.id = destinationAccountId)
  demand (source.status = .active ∧ destination.status = .active) (.app .accountUnavailable)
  demand (source.currency = original.destinationCurrency ∧
      destination.currency = original.sourceCurrency)
    (.internal (.message "original transfer currency metadata does not match accounts"))
  .ok (source, destination)

-- The new balances; the source may go below zero.
def reversalBalances (original : OriginalTransfer) (source destination : LockedAccount) :
    Except Failure (I64 × I64) := do
  let sourceBalance ←
    orFailure (.business "arithmetic_overflow" "The reversal amount is out of range")
      (I64.checkedSub source.balanceMinor original.destinationAmountMinor)
  let destinationBalance ←
    orFailure (.business "arithmetic_overflow" "The reversal amount is out of range")
      (I64.checkedAdd destination.balanceMinor original.totalSourceDebitMinor)
  .ok (sourceBalance, destinationBalance)

-- Source and destination swap; the fee goes back with the principal.
def reversalPosting (clientId : String) (ids : NewIds) (originalTransferId : Uuid)
    (original : OriginalTransfer) (sourceBalance destinationBalance : I64) : Posting where
  transfer := {
    id := ids.resource
    sourceAccountId := original.destinationAccountId
    destinationAccountId := original.sourceAccountId
    sourceCurrency := original.destinationCurrency
    destinationCurrency := original.sourceCurrency
    sourceAmountMinor := original.destinationAmountMinor
    destinationAmountMinor := original.totalSourceDebitMinor
    feeAmountMinor := original.feeAmountMinor
    totalSourceDebitMinor := original.destinationAmountMinor
    feeBps := original.feeBps
    exchangeRate := original.exchangeRate
    exchangeRateId := original.exchangeRateId
    kind := .reversal
    reversesTransferId := some originalTransferId
    initiatedBy := clientId }
  sourceBalance := sourceBalance
  destinationBalance := destinationBalance
  debit := {
    id := ids.debitEntry
    accountId := original.destinationAccountId
    transferId := ids.resource
    counterpartyAccountId := original.sourceAccountId
    direction := .debit
    operationKind := .reversal
    amountMinor := original.destinationAmountMinor
    currency := original.destinationCurrency
    principalAmountMinor := none
    feeAmountMinor := none }
  credit := {
    id := ids.creditEntry
    accountId := original.sourceAccountId
    transferId := ids.resource
    counterpartyAccountId := original.destinationAccountId
    direction := .credit
    operationKind := .reversal
    amountMinor := original.totalSourceDebitMinor
    currency := original.sourceCurrency
    principalAmountMinor := none
    feeAmountMinor := none }

def reversalCreatedResponse (ids : NewIds) (originalTransferId : Uuid)
    (original : OriginalTransfer) (source destination : LockedAccount)
    (sourceBalance destinationBalance : I64) (createdAt : String) : Except Failure Value := do
  let sourceAmount ← formatAmount original.destinationAmountMinor (asU8 source.scale)
  let destinationAmount ← formatAmount original.totalSourceDebitMinor (asU8 destination.scale)
  let originalFeeAmount ← formatAmount original.feeAmountMinor (asU8 destination.scale)
  let totalSourceDebit ← formatAmount original.destinationAmountMinor (asU8 source.scale)
  let resultingSourceBalance ← formatAmount sourceBalance (asU8 source.scale)
  let resultingDestinationBalance ← formatAmount destinationBalance (asU8 destination.scale)
  .ok [("id", ids.resource.hyphenated),
    ("original_transfer_id", originalTransferId.hyphenated),
    ("source_account_id", original.destinationAccountId.hyphenated),
    ("destination_account_id", original.sourceAccountId.hyphenated),
    ("source_currency", original.destinationCurrency),
    ("destination_currency", original.sourceCurrency), ("source_amount", sourceAmount),
    ("destination_amount", destinationAmount), ("original_fee_amount", originalFeeAmount),
    ("total_source_debit", totalSourceDebit), ("kind", TransferKind.reversal.asStr),
    ("status", "completed"), ("resulting_source_balance", resultingSourceBalance),
    ("resulting_destination_balance", resultingDestinationBalance), ("created_at", createdAt)]

/-- What `reverse_transfer` does once the key is reserved. -/
def performReversal (clientId : String) (ids : NewIds) (scope : Scope) (originalTransferId : Uuid) :
    Handler Reply := do
  let original ← lockOriginal clientId originalTransferId
  let accounts ←
    selectAccountsForUpdate [original.destinationAccountId, original.sourceAccountId]
  let (source, destination) ← .ofExcept (reversalAccounts original accounts)
  let (sourceBalance, destinationBalance) ←
    .ofExcept (reversalBalances original source destination)
  let createdAt ← post
    (reversalPosting clientId ids originalTransferId original sourceBalance destinationBalance)
  let responseBody ← .ofExcept (reversalCreatedResponse ids originalTransferId original source
    destination sourceBalance destinationBalance createdAt)
  storeSuccess scope created responseBody ids.resource
  .done (.ok ⟨created, responseBody⟩)

def reverseTransfer (platform : Platform) (clientId : String) (headers : HeaderMap)
    (transferId : String) (ids : NewIds) : Handler Reply := do
  let request ← .ofExcept (validateReversalRequest platform headers transferId)
  let fingerprint := reversalFingerprint platform request.originalTransferId
  beginReversal
  .emit (.started .reversal)
  let scope : Scope := ⟨clientId, .reversal, request.idempotencyKey.asStr⟩
  match ← replayOrReserve platform scope fingerprint with
  | some success => .done (.ok success)
  | none => performReversal clientId ids scope request.originalTransferId

end LedgerService
