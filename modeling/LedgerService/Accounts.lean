import LedgerService.Postings

set_option autoImplicit false

namespace LedgerService

open Transaction

structure CreateAccountRequest where
  currency : String
  initialBalance : String
  deriving DecidableEq

def moneyError : MoneyError → AppError
  | .malformed => .validation "malformed_amount" "The amount is malformed"
  | .tooManyFractionalDigits =>
      .validation "too_many_fractional_digits"
        "The amount has too many fractional digits for this currency"
  | .negative => .validation "negative_initial_balance" "The initial balance cannot be negative"
  | .overflow => .validation "amount_overflow" "The amount is out of range"

/-- What `create_account` has read from its request before the transaction. -/
structure AccountRequest where
  idempotencyKey : IdempotencyKey
  currency : Currency
  balanceMinor : I64

def validateAccountRequest (headers : HeaderMap) (request : Option CreateAccountRequest) :
    Except Failure AccountRequest := do
  let idempotencyKey ← IdempotencyKey.fromHeaders headers
  let request ← orFailure (.validation "invalid_json" "The request body is invalid") request
  let currency ←
    orFailure (.validation "unsupported_currency" "The currency is not supported")
      (LedgerService.currency request.currency)
  let balanceMinor ←
    orMoneyError moneyError (parseInitialBalance request.initialBalance currency.scale)
  .ok ⟨idempotencyKey, currency, balanceMinor⟩

def accountCreatedResponse (id : Uuid) (currency : Currency) (balanceMinor : I64) :
    Except Failure Value := do
  let balance ← formatAmount balanceMinor currency.scale
  .ok [("id", id.hyphenated), ("currency", currency.code), ("balance", balance)]

def performAccountCreation (clientId : String) (id : Uuid) (scope : Scope)
    (request : AccountRequest) : Handler Reply := do
  let _ ← send (.insertAccount
    ⟨id, clientId, request.currency.code, request.currency.scale, request.balanceMinor⟩)
  let responseBody ←
    .ofExcept (accountCreatedResponse id request.currency request.balanceMinor)
  storeSuccess scope created responseBody id
  .done (.ok ⟨created, responseBody⟩)

def createAccount (platform : Platform) (clientId : String) (headers : HeaderMap)
    (request : Option CreateAccountRequest) (id : Uuid) : Handler Reply := do
  let request ← .ofExcept (validateAccountRequest headers request)
  let fingerprint :=
    accountCreationFingerprint platform request.currency.code request.balanceMinor
  let scope : Scope := ⟨clientId, .accountCreation, request.idempotencyKey.asStr⟩
  let _ ← send .begin
  match ← reserve platform scope fingerprint with
  | .replay httpStatus responseBody =>
      -- The transaction is committed before the status is converted.
      .done ((statusCode httpStatus).map fun status => ⟨status, responseBody⟩)
  | .conflict => .fail (.app .idempotencyConflict)
  | .owned => performAccountCreation clientId id scope request

structure AccountBalanceResponse where
  id : Uuid
  currency : String
  balance : String
  version : I64
  deriving DecidableEq

/-- One statement, that sees the tables at some time. -/
def getBalance (platform : Platform) (clientId accountId : String) (db : Db) :
    Except Failure AccountBalanceResponse := do
  let id ←
    orFailure (.validation "malformed_account_id" "The account ID is invalid")
      (platform.parseUuid accountId)
  let account ←
    orFailure (.app .notFound)
      ((db.account? id).filter fun account => account.ownerId = clientId)
  let balance ← formatAmount account.balanceMinor (asU8 account.currencyScale)
  .ok ⟨id, account.currency, balance, account.version⟩

end LedgerService
