import LedgerService.Primitives
import LedgerService.Table

set_option autoImplicit false

/-!
# The tables of the ledger

The columns and constraints of the migrations.  The two tables of FX configuration are written from
outside; everything else is written by the handlers.
-/

namespace LedgerService

inductive AccountStatus where
  | active
  | inactive
  deriving DecidableEq

inductive TransferKind where
  | transfer
  | fxTransfer
  | reversal
  deriving DecidableEq

def TransferKind.asStr : TransferKind → String
  | .transfer => "transfer"
  | .fxTransfer => "fx_transfer"
  | .reversal => "reversal"

inductive EntryDirection where
  | debit
  | credit
  deriving DecidableEq

inductive OperationType where
  | accountCreation
  | transfer
  | fxTransfer
  | reversal
  deriving DecidableEq

def OperationType.asStr : OperationType → String
  | .accountCreation => "account_creation"
  | .transfer => "transfer"
  | .fxTransfer => "fx_transfer"
  | .reversal => "reversal"

/-- `NUMERIC(30, 12)`: the value in units of the twelfth decimal, or `NaN`. -/
inductive Numeric where
  | nan
  | finite (coefficient : Int)
  deriving DecidableEq

namespace Numeric

-- `rate::text`.
def text : Numeric → String
  | .nan => "NaN"
  | .finite coefficient =>
      String.ofList ((if coefficient < 0 then ['-'] else []) ++
        Nat.toDigits 10 (coefficient.natAbs / 10 ^ 12) ++
        '.' :: Text.padded 12 (coefficient.natAbs % 10 ^ 12))

-- `CAST(... AS numeric)` into the column, for the text that `text` writes.
def cast (input : String) : Option Numeric :=
  if input = "NaN" then some .nan
  else
    let (negative, digits) := Text.stripMinus input.toList
    let (whole, fractional) := (Text.splitOnce '.' digits).getD (digits, [])
    if whole = [] ∨ ¬ whole.all Char.isDigit ∨ ¬ fractional.all Char.isDigit ∨
        12 < fractional.length then none
    else
      let coefficient : Int :=
        Nat.ofDigitChars 10 (whole ++ fractional) 0 * 10 ^ (12 - fractional.length)
      if coefficient < 10 ^ 30 then some (.finite (if negative then -coefficient else coefficient))
      else none

def positive : Numeric → Bool
  | .nan => true  -- `NaN` is greater than every number.
  | .finite coefficient => 0 < coefficient

end Numeric

/-- A JSON object whose values are strings, as every success response is. -/
abbrev Value := List (String × String)

structure Account where
  id : Uuid
  ownerId : String
  currency : String
  currencyScale : Int
  balanceMinor : I64
  status : AccountStatus
  version : I64
  createdAt : Timestamp
  updatedAt : Timestamp
  deriving DecidableEq

structure Transfer where
  id : Uuid
  sourceAccountId : Uuid
  destinationAccountId : Uuid
  sourceCurrency : String
  destinationCurrency : String
  sourceAmountMinor : I64
  destinationAmountMinor : I64
  feeAmountMinor : I64
  totalSourceDebitMinor : I64
  feeBps : Option Int
  exchangeRate : Option Numeric
  exchangeRateId : Option Uuid
  kind : TransferKind
  reversesTransferId : Option Uuid
  initiatedBy : String
  createdAt : Timestamp
  deriving DecidableEq

structure AccountEntry where
  id : Uuid
  accountId : Uuid
  transferId : Uuid
  counterpartyAccountId : Uuid
  direction : EntryDirection
  operationKind : TransferKind
  amountMinor : I64
  currency : String
  principalAmountMinor : Option I64
  feeAmountMinor : Option I64
  createdAt : Timestamp
  deriving DecidableEq

-- The primary key of an idempotency record.
structure Scope where
  clientId : String
  operationType : OperationType
  idempotencyKey : String
  deriving DecidableEq

structure IdempotencyRecord where
  scope : Scope
  requestFingerprint : String
  httpStatus : Option Int
  responseBody : Option Value
  resultingResourceId : Option Uuid
  createdAt : Timestamp
  expiresAt : Timestamp
  deriving DecidableEq

structure ExchangeRateRow where
  id : Uuid
  sourceCurrency : String
  destinationCurrency : String
  rate : Numeric
  validFrom : Timestamp
  validUntil : Timestamp
  deriving DecidableEq

structure FeeRuleRow where
  id : Uuid
  sourceCurrency : Option String
  destinationCurrency : Option String
  feeBps : Int
  validFrom : Timestamp
  validUntil : Timestamp
  deriving DecidableEq

structure Db where
  accounts : List Account
  transfers : List Transfer
  accountEntries : List AccountEntry
  idempotencyRecords : List IdempotencyRecord
  deriving DecidableEq

structure Configuration where
  exchangeRates : List ExchangeRateRow
  fxFeeRules : List FeeRuleRow
  deriving DecidableEq

namespace Db

def empty : Db := ⟨[], [], [], []⟩

def account? (db : Db) (id : Uuid) : Option Account := Table.lookup Account.id db.accounts id

def transfer? (db : Db) (id : Uuid) : Option Transfer := Table.lookup Transfer.id db.transfers id

def entryRow? (db : Db) (id : Uuid) : Option AccountEntry :=
  Table.lookup AccountEntry.id db.accountEntries id

def record? (db : Db) (scope : Scope) : Option IdempotencyRecord :=
  Table.lookup IdempotencyRecord.scope db.idempotencyRecords scope

-- `EXISTS(SELECT 1 FROM transfers WHERE reverses_transfer_id = $1)`.
def reversed (db : Db) (id : Uuid) : Bool :=
  db.transfers.any fun transfer => transfer.reversesTransferId = some id

end Db

/-- A row version that a transaction writes. -/
inductive Write where
  | insertAccount (row : Account)
  | replaceAccount (row : Account)
  | insertTransfer (row : Transfer)
  | insertEntry (row : AccountEntry)
  | insertRecord (row : IdempotencyRecord)
  | replaceRecord (row : IdempotencyRecord)
  deriving DecidableEq

def Db.apply (db : Db) : Write → Db
  | .insertAccount row => { db with accounts := db.accounts ++ [row] }
  | .replaceAccount row => { db with accounts := Table.replace Account.id db.accounts row }
  | .insertTransfer row => { db with transfers := db.transfers ++ [row] }
  | .insertEntry row => { db with accountEntries := db.accountEntries ++ [row] }
  | .insertRecord row => { db with idempotencyRecords := db.idempotencyRecords ++ [row] }
  | .replaceRecord row =>
      { db with
        idempotencyRecords :=
          Table.replace IdempotencyRecord.scope db.idempotencyRecords row }

inductive DbError where
  | checkViolation (constraint : String)
  | uniqueViolation (constraint : String)
  | foreignKeyViolation (constraint : String)
  | numericValueOutOfRange
  | invalidTextRepresentation
  | datetimeFieldOverflow
  -- `sqlx::Error::RowNotFound`.
  | rowNotFound
  -- A lost connection, a deadlock, a trigger, or whatever else ends a statement.
  | failure (text : String)
  deriving DecidableEq

def DbError.Fault (error : DbError) : Prop := ∃ text, error = .failure text

def firstViolation : List (Bool × DbError) → Except DbError Unit
  | [] => .ok ()
  | (holds, error) :: rest => if holds then firstViolation rest else .error error

@[simp] theorem firstViolation_nil : firstViolation [] = .ok () := rfl

@[simp] theorem firstViolation_cons {holds : Bool} {error : DbError}
    {rest : List (Bool × DbError)} :
    firstViolation ((holds, error) :: rest) = .ok () ↔
      holds = true ∧ firstViolation rest = .ok () := by
  cases holds <;> simp [firstViolation]

-- `~ '^[A-Z]{3}$'`.
def isCurrencyCode (code : String) : Bool :=
  code.toList.length = 3 && code.toList.all fun c => 'A' ≤ c && c ≤ 'Z'

example : isCurrencyCode "EUR" = true ∧ isCurrencyCode "eur" = false := by decide

end LedgerService
