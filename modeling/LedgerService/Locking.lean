import LedgerService.Statements

set_option autoImplicit false

/-!
# Row locks

The locks PostgreSQL takes on rows and on unique index entries, as far as one writer can wait for
another.  An inserted key is locked exclusively; the rows it references are locked `KEY SHARE`.
-/

namespace LedgerService

inductive Resource where
  | account (id : Uuid)
  | transfer (id : Uuid)
  | accountEntry (id : Uuid)
  | idempotencyRecord (scope : Scope)
  | exchangeRate (id : Uuid)
  -- The entry of `transfers_single_reversal` for an original.
  | singleReversal (original : Uuid)
  deriving DecidableEq

inductive LockMode where
  | keyShare
  | noKeyUpdate
  | update
  deriving DecidableEq

structure Lock where
  resource : Resource
  mode : LockMode
  deriving DecidableEq

def LockMode.conflicts : LockMode → LockMode → Bool
  | .update, _ | _, .update => true
  | .noKeyUpdate, .noKeyUpdate => true
  | .noKeyUpdate, .keyShare | .keyShare, .noKeyUpdate | .keyShare, .keyShare => false

def Lock.Conflict (held wanted : Lock) : Prop :=
  held.resource = wanted.resource ∧ held.mode.conflicts wanted.mode = true

instance (held wanted : Lock) : Decidable (held.Conflict wanted) :=
  inferInstanceAs (Decidable (_ ∧ _))

theorem LockMode.conflicts_comm (first second : LockMode) :
    first.conflicts second = second.conflicts first := by
  cases first <;> cases second <;> rfl

theorem LockMode.conflicts_of_ne {first second : LockMode} (writes : first ≠ .keyShare)
    (alsoWrites : second ≠ .keyShare) : first.conflicts second = true := by
  cases first <;> cases second <;> first | rfl | contradiction

@[simp] theorem LockMode.update_conflicts (mode : LockMode) :
    LockMode.update.conflicts mode = true := by
  cases mode <;> rfl

theorem Lock.Conflict.symm {held wanted : Lock} (clash : held.Conflict wanted) :
    wanted.Conflict held :=
  ⟨clash.1.symm, LockMode.conflicts_comm _ _ ▸ clash.2⟩

section Insert

variable (id source destination : Uuid)

def accountLocks : List Lock := [⟨.account id, .update⟩]

def transferLocks (exchangeRate reverses : Option Uuid) : List Lock :=
  [⟨.transfer id, .update⟩, ⟨.account source, .keyShare⟩, ⟨.account destination, .keyShare⟩] ++
    (exchangeRate.map fun rate => ⟨.exchangeRate rate, .keyShare⟩).toList ++
    match reverses with
    | some original => [⟨.transfer original, .keyShare⟩, ⟨.singleReversal original, .update⟩]
    | none => []

def entryLocks (account transfer counterparty : Uuid) : List Lock :=
  [⟨.accountEntry id, .update⟩, ⟨.account account, .keyShare⟩, ⟨.transfer transfer, .keyShare⟩,
    ⟨.account counterparty, .keyShare⟩]

end Insert

/-- A statement waits until no other session holds a lock that conflicts with one of these. -/
def Statement.locks (db : Db) : Statement → List Lock
  | .insertRecord scope _ _ =>
      if (db.record? scope).isSome then [] else [⟨.idempotencyRecord scope, .update⟩]
  | .lockAccount id => if (db.account? id).isSome then [⟨.account id, .update⟩] else []
  | .lockTransfer id => if (db.transfer? id).isSome then [⟨.transfer id, .update⟩] else []
  | .insertAccount values => accountLocks values.id
  | .insertTransfer values =>
      transferLocks values.id values.sourceAccountId values.destinationAccountId
        values.exchangeRateId values.reversesTransferId
  | .updateAccount _ id => if (db.account? id).isSome then [⟨.account id, .noKeyUpdate⟩] else []
  | .insertEntry values =>
      entryLocks values.id values.accountId values.transferId values.counterpartyAccountId
  | .updateRecord scope _ _ _ =>
      if (db.record? scope).isSome then [⟨.idempotencyRecord scope, .noKeyUpdate⟩] else []
  | .acquire | .begin | .selectPreliminary _ _ | .selectRecord _ | .transactionTimestamp
  | .selectExchangeRates _ _ _ | .selectPairFeeRules _ _ _ | .selectDefaultFeeRules _
  | .selectOwner _ | .selectReversed _ => []

def Write.locks : Write → List Lock
  | .insertAccount row => accountLocks row.id
  | .replaceAccount row => [⟨.account row.id, .noKeyUpdate⟩]
  | .insertTransfer row =>
      transferLocks row.id row.sourceAccountId row.destinationAccountId row.exchangeRateId
        row.reversesTransferId
  | .insertEntry row => entryLocks row.id row.accountId row.transferId row.counterpartyAccountId
  | .insertRecord row => [⟨.idempotencyRecord row.scope, .update⟩]
  | .replaceRecord row => [⟨.idempotencyRecord row.scope, .noKeyUpdate⟩]

end LedgerService
