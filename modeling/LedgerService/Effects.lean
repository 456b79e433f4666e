import LedgerService.Decimals
import LedgerService.Service
import LedgerService.Transaction.Alone

set_option autoImplicit false

namespace LedgerService

open Transaction

def TransferKind.operationType : TransferKind → OperationType
  | .transfer => .transfer
  | .fxTransfer => .fxTransfer
  | .reversal => .reversal

namespace Transfer

variable (transfer : Transfer) (id : Uuid)

-- The entry of the source account; only FX entries show principal and fee.
def debitEntry : AccountEntry where
  id := id
  accountId := transfer.sourceAccountId
  transferId := transfer.id
  counterpartyAccountId := transfer.destinationAccountId
  direction := .debit
  operationKind := transfer.kind
  amountMinor := transfer.totalSourceDebitMinor
  currency := transfer.sourceCurrency
  principalAmountMinor := if transfer.kind = .fxTransfer then some transfer.sourceAmountMinor else none
  feeAmountMinor := if transfer.kind = .fxTransfer then some transfer.feeAmountMinor else none
  createdAt := transfer.createdAt

def creditEntry : AccountEntry where
  id := id
  accountId := transfer.destinationAccountId
  transferId := transfer.id
  counterpartyAccountId := transfer.sourceAccountId
  direction := .credit
  operationKind := transfer.kind
  amountMinor := transfer.destinationAmountMinor
  currency := transfer.destinationCurrency
  principalAmountMinor :=
    if transfer.kind = .fxTransfer then some transfer.destinationAmountMinor else none
  feeAmountMinor := none
  createdAt := transfer.createdAt

end Transfer

def IdempotencyRecord.reserved (record : IdempotencyRecord) : IdempotencyRecord :=
  { record with httpStatus := none, responseBody := none, resultingResourceId := none }

inductive Effect where
  | replayed
  | opened (record : IdempotencyRecord) (account : Account)
  -- The accounts are the new versions of their rows.
  | posted (record : IdempotencyRecord) (transfer : Transfer) (source destination : Account)
      (debit credit : Uuid)

def Effect.writes : Effect → List Write
  | .replayed => []
  | .opened record account =>
      [.insertRecord record.reserved, .insertAccount account, .replaceRecord record]
  | .posted record transfer source destination debit credit =>
      [.insertRecord record.reserved, .insertTransfer transfer, .replaceAccount source,
        .replaceAccount destination, .insertEntry (transfer.debitEntry debit),
        .insertEntry (transfer.creditEntry credit), .replaceRecord record]

def Db.after (db : Db) : Effect → Db
  | .replayed => db
  | .opened record account =>
      { db with
        accounts := db.accounts ++ [account]
        idempotencyRecords := db.idempotencyRecords ++ [record] }
  | .posted record transfer source destination debit credit =>
      { accounts := Table.replace Account.id (Table.replace Account.id db.accounts source) destination
        transfers := db.transfers ++ [transfer]
        accountEntries :=
          db.accountEntries ++ [transfer.debitEntry debit] ++ [transfer.creditEntry credit]
        idempotencyRecords := db.idempotencyRecords ++ [record] }

namespace Db

variable (db : Db) (effect : Effect)

@[simp] theorem account?_after (id : Uuid) :
    (db.after effect).account? id =
      match effect with
      | .replayed => db.account? id
      | .opened _ account => (db.account? id).or (if account.id = id then some account else none)
      | .posted _ _ source destination _ _ =>
          ((db.account? id).map fun old => if source.id = id then source else old).map
            fun old => if destination.id = id then destination else old := by
  cases effect with
  | replayed => rfl
  | opened record account => exact Table.lookup_append _ _ _
  | posted record transfer source destination debit credit =>
    rw [account?, after, Table.lookup_replace, Table.lookup_replace]
    rfl

@[simp] theorem transfer?_after (id : Uuid) :
    (db.after effect).transfer? id =
      match effect with
      | .replayed | .opened _ _ => db.transfer? id
      | .posted _ transfer _ _ _ _ =>
          (db.transfer? id).or (if transfer.id = id then some transfer else none) := by
  cases effect with
  | posted record transfer source destination debit credit => exact Table.lookup_append _ _ _
  | _ => rfl

@[simp] theorem reversed_after (id : Uuid) :
    (db.after effect).reversed id =
      match effect with
      | .replayed | .opened _ _ => db.reversed id
      | .posted _ transfer _ _ _ _ =>
          db.reversed id || decide (transfer.reversesTransferId = some id) := by
  cases effect with
  | posted record transfer source destination debit credit => simp [reversed, after]
  | _ => rfl

@[simp] theorem entryRow?_after (id : Uuid) :
    (db.after effect).entryRow? id =
      match effect with
      | .replayed | .opened _ _ => db.entryRow? id
      | .posted _ transfer _ _ debit credit =>
          ((db.entryRow? id).or (if debit = id then some (transfer.debitEntry debit) else none)).or
            (if credit = id then some (transfer.creditEntry credit) else none) := by
  cases effect with
  | posted record transfer source destination debit credit =>
    rw [entryRow?, after, Table.lookup_append, Table.lookup_append]
    rfl
  | _ => rfl

@[simp] theorem record?_after (scope : Scope) :
    (db.after effect).record? scope =
      match effect with
      | .replayed => db.record? scope
      | .opened record _ | .posted record _ _ _ _ _ =>
          (db.record? scope).or (if record.scope = scope then some record else none) := by
  cases effect with
  | replayed => rfl
  | _ => exact Table.lookup_append _ _ _

end Db

/-- The scope and fingerprint of a request, where it is well formed and its accounts exist. -/
def Attempt.identity (platform : Platform) (attempt : Attempt) (db : Db) :
    Option (Scope × String) :=
  match attempt.request with
  | .createAccount body =>
      match validateAccountRequest attempt.headers body with
      | .ok request =>
          some (⟨attempt.clientId, .accountCreation, request.idempotencyKey.asStr⟩,
            accountCreationFingerprint platform request.currency.code request.balanceMinor)
      | .error _ => none
  | .createTransfer body =>
      match validateTransferRequest platform attempt.headers body with
      | .ok request =>
          (db.preliminary request.sourceAccountId request.destinationAccountId).bind
            fun preliminary =>
              match transferOperation preliminary, transferAmount preliminary request.amount with
              | .ok operationType, .ok amountMinor =>
                  some (⟨attempt.clientId, operationType, request.idempotencyKey.asStr⟩,
                    transferFingerprint platform request.sourceAccountId
                      request.destinationAccountId preliminary.sourceCurrency amountMinor)
              | _, _ => none
      | .error _ => none
  | .reverseTransfer transferId =>
      match validateReversalRequest platform attempt.headers transferId with
      | .ok request =>
          some (⟨attempt.clientId, .reversal, request.idempotencyKey.asStr⟩,
            reversalFingerprint platform request.originalTransferId)
      | .error _ => none

structure Account.MovedBy (old row : Account) (amount : Int) : Prop where
  updated : ∃ now balance version, row = old.update now balance version
  balance : row.balanceMinor.val = old.balanceMinor.val + amount
  version : row.version.val = old.version.val + 1

-- What no request changes about an account.
structure Account.SameHolder (row row' : Account) : Prop where
  ownerId : row'.ownerId = row.ownerId
  currency : row'.currency = row.currency
  currencyScale : row'.currencyScale = row.currencyScale

theorem Account.SameHolder.refl (row : Account) : row.SameHolder row := ⟨rfl, rfl, rfl⟩

theorem Account.SameHolder.trans {first second third : Account} (one : first.SameHolder second)
    (two : second.SameHolder third) : first.SameHolder third :=
  ⟨two.ownerId.trans one.ownerId, two.currency.trans one.currency,
    two.currencyScale.trans one.currencyScale⟩

theorem Account.MovedBy.sameHolder {old row : Account} {amount : Int}
    (moved : old.MovedBy row amount) : old.SameHolder row := by
  obtain ⟨now, balance, version, rfl⟩ := moved.updated
  exact ⟨rfl, rfl, rfl⟩

theorem Account.MovedBy.id {old row : Account} {amount : Int} (moved : old.MovedBy row amount) :
    row.id = old.id := by
  obtain ⟨now, balance, version, rfl⟩ := moved.updated
  rfl

structure OrdinaryTerms (transfer : Transfer) : Prop where
  kind : transfer.kind = .transfer
  sourceAmount : transfer.sourceAmountMinor = transfer.totalSourceDebitMinor
  destinationAmount : transfer.destinationAmountMinor = transfer.totalSourceDebitMinor
  fee : transfer.feeAmountMinor = .zero
  currencies : transfer.sourceCurrency = transfer.destinationCurrency
  noRate : transfer.feeBps = none ∧ transfer.exchangeRate = none ∧ transfer.exchangeRateId = none
  reverses : transfer.reversesTransferId = none

structure FxTerms (configuration : Configuration) (source destination : Account)
    (transfer : Transfer) : Prop where
  kind : transfer.kind = .fxTransfer
  currencies : transfer.sourceCurrency ≠ transfer.destinationCurrency
  rate : ∃ row ∈ configuration.exchangeRates, transfer.exchangeRateId = some row.id ∧
    transfer.exchangeRate = some row.rate ∧ row.sourceCurrency = transfer.sourceCurrency ∧
    row.destinationCurrency = transfer.destinationCurrency ∧
    validAt row.validFrom row.validUntil transfer.createdAt = true ∧
    ∃ rate, ExactRate.parse row.rate.text = .ok rate ∧
      calculateDestination transfer.sourceAmountMinor (asU8 source.currencyScale)
        (asU8 destination.currencyScale) rate = .ok transfer.destinationAmountMinor
  fee : ∃ row ∈ configuration.fxFeeRules, transfer.feeBps = some row.feeBps ∧
    validAt row.validFrom row.validUntil transfer.createdAt = true ∧
    calculateFee transfer.sourceAmountMinor row.feeBps =
      .ok ⟨transfer.feeAmountMinor, transfer.totalSourceDebitMinor⟩
  reverses : transfer.reversesTransferId = none

/-- A reversal exchanges the roles of the accounts and gives the whole debit back. -/
structure Reverses (original transfer : Transfer) : Prop where
  kind : transfer.kind = .reversal
  reverses : transfer.reversesTransferId = some original.id
  originalKind : original.kind ≠ .reversal
  sourceAccount : transfer.sourceAccountId = original.destinationAccountId
  destinationAccount : transfer.destinationAccountId = original.sourceAccountId
  sourceCurrency : transfer.sourceCurrency = original.destinationCurrency
  destinationCurrency : transfer.destinationCurrency = original.sourceCurrency
  sourceAmount : transfer.sourceAmountMinor = original.destinationAmountMinor
  destinationAmount : transfer.destinationAmountMinor = original.totalSourceDebitMinor
  total : transfer.totalSourceDebitMinor = original.destinationAmountMinor
  fee : transfer.feeAmountMinor = original.feeAmountMinor
  feeBps : transfer.feeBps = original.feeBps
  exchangeRate : transfer.exchangeRate = original.exchangeRate
  exchangeRateId : transfer.exchangeRateId = original.exchangeRateId

section Facts

variable (platform : Platform) (attempt : Attempt) (configuration : Configuration) (db : Db)
  (record : IdempotencyRecord) (reply : Reply)

def IdempotencyRecord.answer (record : IdempotencyRecord) : Option Reply :=
  match record.httpStatus, record.responseBody with
  | some httpStatus, some responseBody =>
      some ((statusCode httpStatus).map fun status => ⟨status, responseBody⟩)
  | _, _ => none

structure Replayed : Prop where
  found : db.record? record.scope = some record
  identity : attempt.identity platform db = some (record.scope, record.requestFingerprint)
  answer : record.answer = some reply

structure Recorded (resource : Uuid) : Prop where
  identity : attempt.identity platform db = some (record.scope, record.requestFingerprint)
  unused : db.record? record.scope = none
  success : ∃ body, record.httpStatus = some created ∧ record.responseBody = some body ∧
    body.lookup "id" = some resource.hyphenated ∧ reply = .ok ⟨created, body⟩
  result : record.resultingResourceId = some resource

structure Opened (account : Account) : Prop where
  request : ∃ body, attempt.request = .createAccount body
  recorded : Recorded platform attempt db record reply account.id
  operation : record.scope.operationType = .accountCreation
  unused : db.account? account.id = none
  owner : account.ownerId = attempt.clientId
  covered : 0 ≤ account.balanceMinor.val
  version : account.version = .zero

inductive Terms (source destination : Account) (transfer : Transfer) : Prop
  | ordinary (request : ∃ body, attempt.request = .createTransfer body)
      (covered : transfer.totalSourceDebitMinor.val ≤ source.balanceMinor.val)
      (terms : OrdinaryTerms transfer)
  | fx (request : ∃ body, attempt.request = .createTransfer body)
      (covered : transfer.totalSourceDebitMinor.val ≤ source.balanceMinor.val)
      (terms : FxTerms configuration source destination transfer)
  | reversal (request : ∃ text, attempt.request = .reverseTransfer text) (original : Transfer)
      (found : db.transfer? original.id = some original) (first : db.reversed original.id = false)
      (terms : Reverses original transfer)

/-- A transfer of any kind; `oldSource` and `oldDestination` are the rows before it. -/
structure Performed (transfer : Transfer) (oldSource oldDestination source destination : Account)
    (debit credit : Uuid) : Prop where
  unused : db.transfer? transfer.id = none
  debitUnused : db.entryRow? debit = none
  creditUnused : db.entryRow? credit = none
  entries : debit ≠ credit
  initiator : transfer.initiatedBy = attempt.clientId
  createdAt : transfer.createdAt = attempt.started
  distinct : transfer.sourceAccountId ≠ transfer.destinationAccountId
  total : 0 < transfer.totalSourceDebitMinor.val
  destinationAmount : 0 < transfer.destinationAmountMinor.val
  sourceFound : db.account? transfer.sourceAccountId = some oldSource
  destinationFound : db.account? transfer.destinationAccountId = some oldDestination
  owner : oldSource.ownerId = attempt.clientId
  sourceCurrency : oldSource.currency = transfer.sourceCurrency
  destinationCurrency : oldDestination.currency = transfer.destinationCurrency
  sourceMoved : oldSource.MovedBy source (-transfer.totalSourceDebitMinor.val)
  destinationMoved : oldDestination.MovedBy destination transfer.destinationAmountMinor.val
  terms : Terms attempt configuration db oldSource oldDestination transfer

structure Posted (transfer : Transfer) (oldSource oldDestination source destination : Account)
    (debit credit : Uuid) : Prop where
  recorded : Recorded platform attempt db record reply transfer.id
  operation : record.scope.operationType = transfer.kind.operationType
  performed : Performed attempt configuration db transfer oldSource oldDestination source
    destination debit credit

def Effect.Holds : Effect → Prop
  | .replayed => ∃ record, Replayed platform attempt db record reply
  | .opened record account => Opened platform attempt db record reply account
  | .posted record transfer source destination debit credit =>
      ∃ oldSource oldDestination, Posted platform attempt configuration db record reply transfer
        oldSource oldDestination source destination debit credit

end Facts

def Account.Listed (account : Account) : Prop :=
  ∃ currency ∈ currencies, account.currency = currency.code ∧ account.currencyScale = currency.scale

def Transfer.reported (transfer : Transfer) (sourceScale destinationScale : Nat) :
    List (String × I64 × Nat) :=
  match transfer.kind with
  | .transfer => [("amount", transfer.sourceAmountMinor, sourceScale)]
  | .fxTransfer =>
      [("source_amount", transfer.sourceAmountMinor, sourceScale),
        ("destination_amount", transfer.destinationAmountMinor, destinationScale),
        ("fee_amount", transfer.feeAmountMinor, sourceScale),
        ("total_source_debit", transfer.totalSourceDebitMinor, sourceScale)]
  | .reversal =>
      [("source_amount", transfer.sourceAmountMinor, sourceScale),
        ("destination_amount", transfer.destinationAmountMinor, destinationScale),
        ("original_fee_amount", transfer.feeAmountMinor, destinationScale),
        ("total_source_debit", transfer.totalSourceDebitMinor, sourceScale)]

def Value.Shows (body : Value) (field : String × I64 × Nat) : Prop :=
  ∃ text, formatMinorUnits field.2.1 field.2.2 = some text ∧ body.lookup field.1 = some text

def Effect.Told (attempt : Attempt) : Effect → Prop
  | .replayed => True
  | .opened _ account => account.id = attempt.ids.resource ∧ account.Listed
  | .posted record transfer source destination debit credit =>
      (transfer.id = attempt.ids.resource ∧ debit = attempt.ids.debitEntry ∧
        credit = attempt.ids.creditEntry) ∧
      ∃ body, record.responseBody = some body ∧
        ∀ field ∈ transfer.reported (asU8 source.currencyScale) (asU8 destination.currencyScale),
          body.Shows field

theorem Performed.source_id {attempt : Attempt} {configuration : Configuration} {db : Db}
    {transfer : Transfer} {oldSource oldDestination source destination : Account}
    {debit credit : Uuid}
    (performed : Performed attempt configuration db transfer oldSource oldDestination source
      destination debit credit) : source.id = transfer.sourceAccountId :=
  performed.sourceMoved.id.trans (Table.key_of_lookup performed.sourceFound)

theorem Performed.destination_id {attempt : Attempt} {configuration : Configuration} {db : Db}
    {transfer : Transfer} {oldSource oldDestination source destination : Account}
    {debit credit : Uuid}
    (performed : Performed attempt configuration db transfer oldSource oldDestination source
      destination debit credit) : destination.id = transfer.destinationAccountId :=
  performed.destinationMoved.id.trans (Table.key_of_lookup performed.destinationFound)

section Views

variable {platform : Platform} {attempt : Attempt} {configuration : Configuration} {db : Db}
  {record : IdempotencyRecord} {reply : Reply}

theorem records_after (unused : db.record? record.scope = none) :
    Table.replace IdempotencyRecord.scope (db.idempotencyRecords ++ [record.reserved]) record =
      db.idempotencyRecords ++ [record] :=
  Table.replace_append unused rfl

theorem view_writes {effect : Effect}
    (holds : effect.Holds platform attempt configuration db reply) :
    (engine platform).view db effect.writes = db.after effect := by
  cases effect with
  | replayed => rfl
  | opened record account =>
    have unused := holds.recorded.unused
    simp [Effect.writes, Db.after, Db.apply, records_after unused]
  | posted record transfer source destination debit credit =>
    obtain ⟨_, _, posted⟩ := holds
    simp [Effect.writes, Db.after, Db.apply, records_after posted.recorded.unused]

end Views

end LedgerService
