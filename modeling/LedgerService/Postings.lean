import Mathlib.Data.List.Dedup
import LedgerService.Idempotency
import LedgerService.Money

set_option autoImplicit false

namespace LedgerService

open Transaction

/-- A committed transaction's answer; a replay may still fail to build its status. -/
abbrev Reply := Except Failure Success

/-- The values of `Uuid::new_v4()`: of the account or transfer, and of a transfer's entries. -/
structure NewIds where
  resource : Uuid
  debitEntry : Uuid
  creditEntry : Uuid
  deriving DecidableEq

def amountOverflowPanic : Failure := .panic "attempt to multiply with overflow"

def orMoneyError (moneyError : MoneyError → AppError) : Outcome MoneyError I64 → Except Failure I64
  | .ok amount => .ok amount
  | .error error => .error (.app (moneyError error))
  | .panic => .error amountOverflowPanic

theorem orMoneyError_eq_ok {moneyError : MoneyError → AppError} {parsed : Outcome MoneyError I64}
    {amount : I64} : orMoneyError moneyError parsed = .ok amount ↔ parsed = .ok amount := by
  cases parsed <;> simp [orMoneyError]

def formatAmount (amount : I64) (scale : Nat) : Except Failure String :=
  orFailure amountOverflowPanic (formatMinorUnits amount scale)

def lockAccounts : List Uuid → Handler (List LockedAccount)
  | [] => .done []
  | id :: rest => do
      let row ← send (.lockAccount id)
      let rows ← lockAccounts rest
      .done (row.toList ++ rows)

-- `SELECT ... FROM accounts WHERE id = ANY($1) ORDER BY id FOR UPDATE`.
def selectAccountsForUpdate (ids : List Uuid) : Handler (List LockedAccount) :=
  lockAccounts (ids.dedup.insertionSort (· ≤ ·))

def accountsReturned : Failure := .panic "both locked accounts returned"

structure Posting where
  transfer : TransferValues
  sourceBalance : I64
  destinationBalance : I64
  debit : EntryValues
  credit : EntryValues

/-- Both transfer handlers write their effect so; the answer is `created_at::text`. -/
def post (posting : Posting) : Handler String := do
  let createdAt ← send (.insertTransfer posting.transfer)
  let _ ← send (.updateAccount posting.sourceBalance posting.transfer.sourceAccountId)
  let _ ← send (.updateAccount posting.destinationBalance posting.transfer.destinationAccountId)
  let _ ← send (.insertEntry posting.debit)
  let _ ← send (.insertEntry posting.credit)
  .done createdAt

end LedgerService
