import Mathlib.Data.List.Sort
import LedgerService.Observability
import LedgerService.Transaction.Engine

set_option autoImplicit false

/-!
# The SQL statements of the handlers

Each statement is executed against the rows its transaction sees, and checks the constraints of the
tables it writes.  Column defaults and `now()` are the transaction's start.
-/

namespace LedgerService

open Transaction

/-- What the service takes from outside the repository. -/
structure Platform where
  -- `Uuid::parse_str`.
  parseUuid : String → Option Uuid
  -- The hexadecimal digest of SHA-256.
  sha256 : List UInt8 → String
  -- `created_at::text`.
  timestampText : Timestamp → String
  -- `now() + ($5 * interval '1 second')`, unless it is out of range.
  expiresAt : Timestamp → I64 → Option Timestamp
  -- `~ '[^[:space:]]'`.
  nonblank : String → Bool
  -- `AppState::idempotency_retention` in seconds.
  idempotencyRetention : Nat

structure Preliminary where
  sourceCurrency : String
  sourceScale : Int
  destinationCurrency : String
  destinationScale : Int
  deriving DecidableEq

structure LockedAccount where
  id : Uuid
  ownerId : String
  currency : String
  scale : Int
  balanceMinor : I64
  status : AccountStatus
  deriving DecidableEq

/-- The columns of the original that a reversal reads; the rate is read as text. -/
structure OriginalTransfer where
  sourceAccountId : Uuid
  destinationAccountId : Uuid
  sourceCurrency : String
  destinationCurrency : String
  sourceAmountMinor : I64
  destinationAmountMinor : I64
  feeAmountMinor : I64
  totalSourceDebitMinor : I64
  feeBps : Option Int
  kind : TransferKind
  exchangeRate : Option String
  exchangeRateId : Option Uuid
  initiatedBy : String
  deriving DecidableEq

structure ExchangeRate where
  id : Uuid
  sourceCurrency : String
  destinationCurrency : String
  rate : String
  deriving DecidableEq

structure FeeRule where
  id : Uuid
  feeBps : Int
  deriving DecidableEq

structure StoredSuccess where
  requestFingerprint : String
  httpStatus : Option Int
  responseBody : Option Value
  deriving DecidableEq

-- The values of `INSERT INTO accounts`.
structure AccountValues where
  id : Uuid
  ownerId : String
  currency : String
  currencyScale : Int
  balanceMinor : I64

-- The values of `INSERT INTO transfers`; the rate is bound as text and cast.
structure TransferValues where
  id : Uuid
  sourceAccountId : Uuid
  destinationAccountId : Uuid
  sourceCurrency : String
  destinationCurrency : String
  sourceAmountMinor : I64
  destinationAmountMinor : I64
  feeAmountMinor : I64
  totalSourceDebitMinor : I64
  feeBps : Option Int
  exchangeRate : Option String
  exchangeRateId : Option Uuid
  kind : TransferKind
  reversesTransferId : Option Uuid
  initiatedBy : String

-- The values of `INSERT INTO account_entries`.
structure EntryValues where
  id : Uuid
  accountId : Uuid
  transferId : Uuid
  counterpartyAccountId : Uuid
  direction : EntryDirection
  operationKind : TransferKind
  amountMinor : I64
  currency : String
  principalAmountMinor : Option I64
  feeAmountMinor : Option I64

inductive Statement where
  -- `pool.acquire()`, and `BEGIN` on the connection.
  | acquire
  | begin
  | selectPreliminary (source destination : Uuid)
  | selectRecord (scope : Scope)
  -- `INSERT ... ON CONFLICT DO NOTHING`.
  | insertRecord (scope : Scope) (fingerprint : String) (retentionSeconds : I64)
  | transactionTimestamp
  | selectExchangeRates (source destination : String) (operationTime : Timestamp)
  | selectPairFeeRules (source destination : String) (operationTime : Timestamp)
  | selectDefaultFeeRules (operationTime : Timestamp)
  -- One row of `SELECT ... FROM accounts ... FOR UPDATE`.
  | lockAccount (id : Uuid)
  -- `SELECT ... FROM transfers WHERE id = $1 FOR UPDATE`.
  | lockTransfer (id : Uuid)
  | selectOwner (id : Uuid)
  | selectReversed (id : Uuid)
  | insertAccount (values : AccountValues)
  | insertTransfer (values : TransferValues)
  | updateAccount (balance : I64) (id : Uuid)
  | insertEntry (values : EntryValues)
  | updateRecord (scope : Scope) (status : Int) (body : Value) (resource : Uuid)

@[reducible] def Statement.Result : Statement → Type
  | .acquire | .begin => Unit
  | .selectPreliminary _ _ => Option Preliminary
  | .selectRecord _ => Option StoredSuccess
  | .insertRecord _ _ _ => Nat
  | .transactionTimestamp => Timestamp
  | .selectExchangeRates _ _ _ => List ExchangeRate
  | .selectPairFeeRules _ _ _ | .selectDefaultFeeRules _ => List FeeRule
  | .lockAccount _ => Option LockedAccount
  | .lockTransfer _ => Option OriginalTransfer
  | .selectOwner _ => Option String
  | .selectReversed _ => Bool
  | .insertAccount _ => Unit
  | .insertTransfer _ => String
  | .updateAccount _ _ => Nat
  | .insertEntry _ => Unit
  | .updateRecord _ _ _ _ => Nat

@[reducible] def sql : Interface where
  Statement := Statement
  Result := Statement.Result
  Error := DbError
  Signal := Signal
  Failure := Failure

abbrev Handler := Program sql

/-- Send a statement and look at its error. -/
def ask (statement : Statement) : Handler (Except DbError statement.Result) :=
  .query statement .done

/-- Send a statement; `map_err(AppError::internal)?` on its error. -/
def send (statement : Statement) : Handler statement.Result :=
  .query statement fun
    | .ok result => .done result
    | .error error => .fail (.database error)

namespace Account

def locked (row : Account) : LockedAccount :=
  ⟨row.id, row.ownerId, row.currency, row.currencyScale, row.balanceMinor, row.status⟩

end Account

def Transfer.original (row : Transfer) : OriginalTransfer where
  sourceAccountId := row.sourceAccountId
  destinationAccountId := row.destinationAccountId
  sourceCurrency := row.sourceCurrency
  destinationCurrency := row.destinationCurrency
  sourceAmountMinor := row.sourceAmountMinor
  destinationAmountMinor := row.destinationAmountMinor
  feeAmountMinor := row.feeAmountMinor
  totalSourceDebitMinor := row.totalSourceDebitMinor
  feeBps := row.feeBps
  kind := row.kind
  exchangeRate := row.exchangeRate.map Numeric.text
  exchangeRateId := row.exchangeRateId
  initiatedBy := row.initiatedBy

-- The join of the source and destination accounts.
def Db.preliminary (db : Db) (source destination : Uuid) : Option Preliminary :=
  match db.account? source, db.account? destination with
  | some source, some destination =>
      some ⟨source.currency, source.currencyScale, destination.currency, destination.currencyScale⟩
  | _, _ => none

-- `valid_from <= t AND valid_until > t`.
def validAt (validFrom validUntil operationTime : Timestamp) : Bool :=
  validFrom ≤ operationTime && operationTime < validUntil

-- `ORDER BY valid_from, id LIMIT 2`.
def orderLimitTwo {Row : Type} (validFrom : Row → Timestamp) (id : Row → Uuid)
    (rows : List Row) : List Row :=
  (rows.insertionSort fun first second =>
    validFrom first < validFrom second ∨
      (validFrom first = validFrom second ∧ id first ≤ id second)).take 2

namespace Configuration

def exchangeRateRows (configuration : Configuration) (source destination : String)
    (operationTime : Timestamp) : List ExchangeRateRow :=
  configuration.exchangeRates.filter fun row =>
    row.sourceCurrency = source ∧ row.destinationCurrency = destination ∧
      validAt row.validFrom row.validUntil operationTime

-- A `NULL` currency equals nothing.
def pairFeeRows (configuration : Configuration) (source destination : String)
    (operationTime : Timestamp) : List FeeRuleRow :=
  configuration.fxFeeRules.filter fun row =>
    row.sourceCurrency = some source ∧ row.destinationCurrency = some destination ∧
      validAt row.validFrom row.validUntil operationTime

def defaultFeeRows (configuration : Configuration) (operationTime : Timestamp) : List FeeRuleRow :=
  configuration.fxFeeRules.filter fun row =>
    row.sourceCurrency = none ∧ row.destinationCurrency = none ∧
      validAt row.validFrom row.validUntil operationTime

end Configuration

def ExchangeRateRow.select (row : ExchangeRateRow) : ExchangeRate :=
  ⟨row.id, row.sourceCurrency, row.destinationCurrency, row.rate.text⟩

def FeeRuleRow.select (row : FeeRuleRow) : FeeRule := ⟨row.id, row.feeBps⟩

section Insert

variable (platform : Platform) (now : Timestamp) (configuration : Configuration) (db : Db)

def AccountValues.row (values : AccountValues) : Account where
  id := values.id
  ownerId := values.ownerId
  currency := values.currency
  currencyScale := values.currencyScale
  balanceMinor := values.balanceMinor
  status := .active
  version := .zero
  createdAt := now
  updatedAt := now

def accountChecks (row : Account) : List (Bool × DbError) :=
  [(platform.nonblank row.ownerId, .checkViolation "accounts_owner_id_check"),
    (isCurrencyCode row.currency, .checkViolation "accounts_currency_check"),
    (0 ≤ row.currencyScale && row.currencyScale ≤ 18,
      .checkViolation "accounts_currency_scale_check"),
    (0 ≤ row.version.val, .checkViolation "accounts_version_check"),
    ((db.account? row.id).isNone, .uniqueViolation "accounts_pkey")]

def TransferValues.row (values : TransferValues) (exchangeRate : Option Numeric) : Transfer where
  id := values.id
  sourceAccountId := values.sourceAccountId
  destinationAccountId := values.destinationAccountId
  sourceCurrency := values.sourceCurrency
  destinationCurrency := values.destinationCurrency
  sourceAmountMinor := values.sourceAmountMinor
  destinationAmountMinor := values.destinationAmountMinor
  feeAmountMinor := values.feeAmountMinor
  totalSourceDebitMinor := values.totalSourceDebitMinor
  feeBps := values.feeBps
  exchangeRate := exchangeRate
  exchangeRateId := values.exchangeRateId
  kind := values.kind
  reversesTransferId := values.reversesTransferId
  initiatedBy := values.initiatedBy
  createdAt := now

def transferChecks (row : Transfer) : List (Bool × DbError) :=
  [(isCurrencyCode row.sourceCurrency, .checkViolation "transfers_source_currency_check"),
    (isCurrencyCode row.destinationCurrency, .checkViolation "transfers_destination_currency_check"),
    (0 < row.sourceAmountMinor.val, .checkViolation "transfers_source_amount_minor_check"),
    (0 < row.destinationAmountMinor.val, .checkViolation "transfers_destination_amount_minor_check"),
    (0 ≤ row.feeAmountMinor.val, .checkViolation "transfers_fee_amount_minor_check"),
    (0 < row.totalSourceDebitMinor.val, .checkViolation "transfers_total_source_debit_minor_check"),
    (platform.nonblank row.initiatedBy, .checkViolation "transfers_initiated_by_check"),
    (row.sourceAccountId ≠ row.destinationAccountId, .checkViolation "transfers_check"),
    (row.reversesTransferId ≠ some row.id, .checkViolation "transfers_check1"),
    ((db.transfer? row.id).isNone, .uniqueViolation "transfers_pkey"),
    (row.reversesTransferId.all fun original => !db.reversed original,
      .uniqueViolation "transfers_single_reversal"),
    ((db.account? row.sourceAccountId).isSome,
      .foreignKeyViolation "transfers_source_account_id_fkey"),
    ((db.account? row.destinationAccountId).isSome,
      .foreignKeyViolation "transfers_destination_account_id_fkey"),
    (row.reversesTransferId.all fun original => (db.transfer? original).isSome,
      .foreignKeyViolation "transfers_reverses_transfer_id_fkey"),
    (row.exchangeRateId.all fun rate => configuration.exchangeRates.any fun row => row.id = rate,
      .foreignKeyViolation "transfers_exchange_rate_id_fkey")]

-- `CAST($11 AS numeric)`; `NULL` stays `NULL`.
def castRate : Option String → Except DbError (Option Numeric)
  | none => .ok none
  | some text =>
      match Numeric.cast text with
      | some rate => .ok (some rate)
      | none => .error .invalidTextRepresentation

def EntryValues.row (values : EntryValues) : AccountEntry where
  id := values.id
  accountId := values.accountId
  transferId := values.transferId
  counterpartyAccountId := values.counterpartyAccountId
  direction := values.direction
  operationKind := values.operationKind
  amountMinor := values.amountMinor
  currency := values.currency
  principalAmountMinor := values.principalAmountMinor
  feeAmountMinor := values.feeAmountMinor
  createdAt := now

def entryChecks (row : AccountEntry) : List (Bool × DbError) :=
  [(0 < row.amountMinor.val, .checkViolation "account_entries_amount_minor_check"),
    (isCurrencyCode row.currency, .checkViolation "account_entries_currency_check"),
    (row.principalAmountMinor.all fun amount => 0 < amount.val,
      .checkViolation "account_entries_principal_amount_minor_check"),
    (row.feeAmountMinor.all fun amount => 0 ≤ amount.val,
      .checkViolation "account_entries_fee_amount_minor_check"),
    (row.accountId ≠ row.counterpartyAccountId, .checkViolation "account_entries_check"),
    ((db.entryRow? row.id).isNone, .uniqueViolation "account_entries_pkey"),
    ((db.account? row.accountId).isSome,
      .foreignKeyViolation "account_entries_account_id_fkey"),
    ((db.transfer? row.transferId).isSome,
      .foreignKeyViolation "account_entries_transfer_id_fkey"),
    ((db.account? row.counterpartyAccountId).isSome,
      .foreignKeyViolation "account_entries_counterparty_account_id_fkey")]

/-- The checks on a record whose three result columns are all set or all `NULL`. -/
def recordChecks (row : IdempotencyRecord) : List (Bool × DbError) :=
  [(platform.nonblank row.scope.clientId, .checkViolation "idempotency_records_client_id_check"),
    (platform.nonblank row.scope.operationType.asStr,
      .checkViolation "idempotency_records_operation_type_check"),
    (platform.nonblank row.scope.idempotencyKey,
      .checkViolation "idempotency_records_idempotency_key_check"),
    (platform.nonblank row.requestFingerprint,
      .checkViolation "idempotency_records_request_fingerprint_check"),
    (row.createdAt < row.expiresAt, .checkViolation "idempotency_records_check"),
    (row.httpStatus.isNone = row.responseBody.isNone &&
        row.responseBody.isNone = row.resultingResourceId.isNone,
      .checkViolation "idempotency_records_check1"),
    (row.httpStatus.all fun status => 200 ≤ status && status ≤ 299,
      .checkViolation "idempotency_records_http_status_check")]

def reservation (expiresAt : Timestamp) (scope : Scope) (fingerprint : String) :
    IdempotencyRecord :=
  ⟨scope, fingerprint, none, none, none, now, expiresAt⟩

def insertRecord (scope : Scope) (fingerprint : String) (retentionSeconds : I64) :
    Except DbError (Nat × List Write) :=
  match platform.expiresAt now retentionSeconds with
  | none => .error .datetimeFieldOverflow
  | some expiresAt =>
      let row := reservation now expiresAt scope fingerprint
      (firstViolation (recordChecks platform row)).map fun _ =>
        if (db.record? scope).isSome then (0, []) else (1, [.insertRecord row])

-- `SET balance_minor = $1, version = version + 1, updated_at = now()`.
def Account.update (row : Account) (balance version : I64) : Account :=
  { row with balanceMinor := balance, version := version, updatedAt := now }

def updateAccount (balance : I64) (id : Uuid) : Except DbError (Nat × List Write) :=
  match db.account? id with
  | none => .ok (0, [])
  | some row =>
      match I64.tryFrom (row.version.val + 1) with
      | none => .error .numericValueOutOfRange
      | some version => .ok (1, [.replaceAccount (row.update now balance version)])

-- `SET http_status = $1, response_body = $2, resulting_resource_id = $3`.
def IdempotencyRecord.complete (row : IdempotencyRecord) (status : Int) (body : Value)
    (resource : Uuid) : IdempotencyRecord :=
  { row with
    httpStatus := some status
    responseBody := some body
    resultingResourceId := some resource }

def updateRecord (scope : Scope) (status : Int) (body : Value) (resource : Uuid) :
    Except DbError (Nat × List Write) :=
  match db.record? scope with
  | none => .ok (0, [])
  | some row =>
      (firstViolation (recordChecks platform (row.complete status body resource))).map fun _ =>
        (1, [.replaceRecord (row.complete status body resource)])

def insertTransfer (values : TransferValues) : Except DbError (String × List Write) :=
  match castRate values.exchangeRate with
  | .error error => .error error
  | .ok rate =>
      (firstViolation (transferChecks platform configuration db (values.row now rate))).map fun _ =>
        (platform.timestampText now, [.insertTransfer (values.row now rate)])

/-- The result of a statement and the row versions it writes. -/
def Statement.exec : (statement : Statement) → Except DbError (statement.Result × List Write)
  | .acquire | .begin => .ok ((), [])
  | .selectPreliminary source destination => .ok (db.preliminary source destination, [])
  | .selectRecord scope =>
      .ok ((db.record? scope).map fun row =>
        ⟨row.requestFingerprint, row.httpStatus, row.responseBody⟩, [])
  | .insertRecord scope fingerprint retentionSeconds =>
      LedgerService.insertRecord platform now db scope fingerprint retentionSeconds
  | .transactionTimestamp => .ok (now, [])
  | .selectExchangeRates source destination operationTime =>
      .ok ((orderLimitTwo ExchangeRateRow.validFrom ExchangeRateRow.id
        (configuration.exchangeRateRows source destination operationTime)).map
          ExchangeRateRow.select, [])
  | .selectPairFeeRules source destination operationTime =>
      .ok ((orderLimitTwo FeeRuleRow.validFrom FeeRuleRow.id
        (configuration.pairFeeRows source destination operationTime)).map FeeRuleRow.select, [])
  | .selectDefaultFeeRules operationTime =>
      .ok ((orderLimitTwo FeeRuleRow.validFrom FeeRuleRow.id
        (configuration.defaultFeeRows operationTime)).map FeeRuleRow.select, [])
  | .lockAccount id => .ok ((db.account? id).map Account.locked, [])
  | .lockTransfer id => .ok ((db.transfer? id).map Transfer.original, [])
  | .selectOwner id => .ok ((db.account? id).map Account.ownerId, [])
  | .selectReversed id => .ok (db.reversed id, [])
  | .insertAccount values =>
      (firstViolation (accountChecks platform db (values.row now))).map fun _ =>
        ((), [.insertAccount (values.row now)])
  | .insertTransfer values => LedgerService.insertTransfer platform now configuration db values
  | .updateAccount balance id => LedgerService.updateAccount now db balance id
  | .insertEntry values =>
      (firstViolation (entryChecks db (values.row now))).map fun _ =>
        ((), [.insertEntry (values.row now)])
  | .updateRecord scope status body resource =>
      LedgerService.updateRecord platform db scope status body resource

end Insert

end LedgerService
