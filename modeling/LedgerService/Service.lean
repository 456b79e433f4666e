import LedgerService.Accounts
import LedgerService.Reversals

set_option autoImplicit false

/-!
# The service on its database

Requests are handled concurrently; besides them operators change account statuses and add FX
configuration.
-/

namespace LedgerService

open Transaction

inductive Request where
  | createAccount (body : Option CreateAccountRequest)
  | createTransfer (body : Option CreateTransferRequest)
  | reverseTransfer (transferId : String)
  deriving DecidableEq

/-- A request in one transaction; a retry is another attempt. -/
structure Attempt where
  clientId : String
  headers : HeaderMap
  request : Request
  -- The start of the transaction, as the database sees it.
  started : Timestamp
  ids : NewIds
  deriving DecidableEq

def handle (platform : Platform) (attempt : Attempt) : Handler Reply :=
  match attempt.request with
  | .createAccount body =>
      createAccount platform attempt.clientId attempt.headers body attempt.ids.resource
  | .createTransfer body =>
      createTransfer platform attempt.clientId attempt.headers body attempt.ids
  | .reverseTransfer transferId =>
      reverseTransfer platform attempt.clientId attempt.headers transferId attempt.ids

inductive Operator where
  | setStatus (id : Uuid) (status : AccountStatus)
  | insertExchangeRate (row : ExchangeRateRow)
  | insertFeeRule (row : FeeRuleRow)
  deriving DecidableEq

def Operator.locks : Operator → List Lock
  | .setStatus id _ => [⟨.account id, .noKeyUpdate⟩]
  | .insertExchangeRate row => [⟨.exchangeRate row.id, .update⟩]
  | .insertFeeRule _ => []

def exchangeRateChecks (configuration : Configuration) (row : ExchangeRateRow) :
    List (Bool × DbError) :=
  [(isCurrencyCode row.sourceCurrency, .checkViolation "exchange_rates_source_currency_check"),
    (isCurrencyCode row.destinationCurrency,
      .checkViolation "exchange_rates_destination_currency_check"),
    (row.rate.positive, .checkViolation "exchange_rates_rate_check"),
    (row.sourceCurrency ≠ row.destinationCurrency, .checkViolation "exchange_rates_check"),
    (row.validFrom < row.validUntil, .checkViolation "exchange_rates_check1"),
    (configuration.exchangeRates.all fun other => other.id ≠ row.id,
      .uniqueViolation "exchange_rates_pkey")]

def feeRuleChecks (configuration : Configuration) (row : FeeRuleRow) : List (Bool × DbError) :=
  [(0 ≤ row.feeBps && row.feeBps ≤ 10000, .checkViolation "fx_fee_rules_fee_bps_check"),
    (row.sourceCurrency.isNone = row.destinationCurrency.isNone,
      .checkViolation "fx_fee_rules_check"),
    (row.sourceCurrency.all isCurrencyCode, .checkViolation "fx_fee_rules_source_currency_check"),
    (row.destinationCurrency.all isCurrencyCode,
      .checkViolation "fx_fee_rules_destination_currency_check"),
    (row.sourceCurrency.isNone || row.sourceCurrency ≠ row.destinationCurrency,
      .checkViolation "fx_fee_rules_check1"),
    (row.validFrom < row.validUntil, .checkViolation "fx_fee_rules_check2"),
    (configuration.fxFeeRules.all fun other => other.id ≠ row.id,
      .uniqueViolation "fx_fee_rules_pkey")]

def Operator.Admissible : Operator → Db × Configuration → Prop
  | .setStatus _ _, _ => True
  | .insertExchangeRate row, (_, configuration) =>
      firstViolation (exchangeRateChecks configuration row) = .ok ()
  | .insertFeeRule row, (_, configuration) =>
      firstViolation (feeRuleChecks configuration row) = .ok ()

def Db.setStatus (db : Db) (id : Uuid) (status : AccountStatus) : Db :=
  { db with
    accounts := db.accounts.map fun row => if row.id = id then { row with status := status } else row }

def Operator.operate : Operator → Db × Configuration → Db × Configuration
  | .setStatus id status, (db, configuration) => (db.setStatus id status, configuration)
  | .insertExchangeRate row, (db, configuration) =>
      (db, { configuration with exchangeRates := configuration.exchangeRates ++ [row] })
  | .insertFeeRule row, (db, configuration) =>
      (db, { configuration with fxFeeRules := configuration.fxFeeRules ++ [row] })

structure Configuration.Within (seen configuration : Configuration) : Prop where
  exchangeRates : seen.exchangeRates ⊆ configuration.exchangeRates
  fxFeeRules : seen.fxFeeRules ⊆ configuration.fxFeeRules

theorem Configuration.Within.refl (configuration : Configuration) :
    configuration.Within configuration :=
  ⟨List.Subset.refl _, List.Subset.refl _⟩

theorem Configuration.Within.trans {first second third : Configuration}
    (one : first.Within second) (two : second.Within third) : first.Within third :=
  ⟨List.Subset.trans one.exchangeRates two.exchangeRates,
    List.Subset.trans one.fxFeeRules two.fxFeeRules⟩

def Operator.KeepsConfiguration : Operator → Prop
  | .setStatus _ _ => True
  | .insertExchangeRate _ | .insertFeeRule _ => False

def engine (platform : Platform) : Engine sql Attempt Db Configuration Write Lock Operator where
  exec attempt statement configuration db := statement.exec platform attempt.started configuration db
  apply := Db.apply
  locks _ statement db := statement.locks db
  writeLocks := Write.locks
  conflict := Lock.Conflict
  fault := DbError.Fault
  operate := Operator.operate
  operatorLocks := Operator.locks
  admissible := Operator.Admissible

@[simp] theorem engine_apply (platform : Platform) : (engine platform).apply = Db.apply := rfl

@[simp] theorem engine_exec (platform : Platform) (attempt : Attempt) (statement : Statement)
    (configuration : Configuration) (db : Db) :
    (engine platform).exec attempt statement configuration db =
      statement.exec platform attempt.started configuration db := rfl

@[simp] theorem engine_locks (platform : Platform) (attempt : Attempt) (statement : Statement)
    (db : Db) : (engine platform).locks attempt statement db = statement.locks db := rfl

/-- The database with its configuration, the requests under way, and what has been committed. -/
abbrev Ledger := System sql Attempt Db Configuration Write Lock Operator Reply

def Ledger.start (configuration : Configuration) : Ledger where
  store := .empty
  reference := configuration
  sessions := fun _ => none
  begun := []
  history := []

abbrev Ledger.Run (platform : Platform) : Ledger → List (Label sql Attempt Operator) → Ledger → Prop :=
  Transaction.Run (engine platform) (handle platform)

abbrev Ledger.Step (platform : Platform) : Ledger → Label sql Attempt Operator → Ledger → Prop :=
  Transaction.Step (engine platform) (handle platform)

/-- Reachable from the empty database, with any configuration and by any interleaving. -/
def Ledger.Reachable (platform : Platform) (ledger : Ledger) : Prop :=
  ∃ configuration labels, Ledger.Run platform (.start configuration) labels ledger

end LedgerService
