import LedgerService.Correspondence
import LedgerService.Rejections
import LedgerService.Transaction.Alone

set_option autoImplicit false

namespace LedgerService

open Transaction

/-- The answer of a request that nothing interferes with, and what it writes. -/
def Attempt.answer (platform : Platform) (attempt : Attempt) (configuration : Configuration)
    (db : Db) : Except Failure (Reply × List Write) :=
  (handle platform attempt).finish (engine platform) attempt configuration db []

def visible (c : Char) : Prop := 0x21 ≤ c.toNat ∧ c.toNat ≤ 0x7e

instance (c : Char) : Decidable (visible c) := inferInstanceAs (Decidable (_ ∧ _))

/-- What is relied on about the functions from outside. -/
structure Platform.Documented (platform : Platform) : Prop where
  nonblank : ∀ text c, c ∈ text.toList → visible c → platform.nonblank text = true
  -- A hexadecimal digest is made of visible characters.
  digest : ∀ bytes, ∃ c ∈ (platform.sha256 bytes).toList, visible c

/-- The client has a name, and the retention of its records fits the range of timestamps. -/
structure Attempt.Served (platform : Platform) (attempt : Attempt) : Prop where
  client : platform.nonblank attempt.clientId = true
  retention : ∃ retention expiresAt, I64.tryFrom platform.idempotencyRetention = some retention ∧
    platform.expiresAt attempt.started retention = some expiresAt ∧ attempt.started < expiresAt

section Reservable

variable {platform : Platform} {attempt : Attempt} {db : Db} {scope : Scope} {fingerprint : String}

theorem IdempotencyKey.nonblank (documented : platform.Documented) (key : IdempotencyKey) :
    platform.nonblank key.asStr = true := by
  obtain ⟨text, nonempty, _, all⟩ := key
  obtain ⟨c, member⟩ := List.exists_mem_of_ne_nil _ nonempty
  exact documented.nonblank text c member (all c member)

theorem OperationType.nonblank (documented : platform.Documented) (operation : OperationType) :
    platform.nonblank operation.asStr = true := by
  have first : ∃ c ∈ operation.asStr.toList, visible c := by
    cases operation
    · exact ⟨'a', by decide, by decide⟩
    · exact ⟨'t', by decide, by decide⟩
    · exact ⟨'f', by decide, by decide⟩
    · exact ⟨'r', by decide, by decide⟩
  obtain ⟨c, member, seen⟩ := first
  exact documented.nonblank _ c member seen

theorem Attempt.Served.reservable (documented : platform.Documented) (served : attempt.Served platform)
    (client : scope.clientId = attempt.clientId) (key : IdempotencyKey)
    (named : scope.idempotencyKey = key.asStr) (bytes : List UInt8)
    (hashed : fingerprint = platform.sha256 bytes) :
    attempt.Reservable platform scope fingerprint := by
  obtain ⟨retention, expiresAt, fits, expires, later⟩ := served.retention
  refine ⟨retention, expiresAt, fits, expires, ?_⟩
  obtain ⟨c, member, seen⟩ := documented.digest bytes
  have digest := documented.nonblank _ c member seen
  have keyed := key.nonblank documented
  have operation := scope.operationType.nonblank documented
  simp [recordChecks, reservation, client, served.client, named, keyed, operation, hashed, digest,
    later]

theorem Attempt.Served.reservable_of_identity (documented : platform.Documented)
    (served : attempt.Served platform)
    (identity : attempt.identity platform db = some (scope, fingerprint)) :
    attempt.Reservable platform scope fingerprint := by
  unfold Attempt.identity at identity
  split at identity
  · split at identity
    · next request _ =>
      cases identity
      exact served.reservable documented rfl request.idempotencyKey rfl _ rfl
    · cases identity
  · split at identity
    · next request _ =>
      obtain ⟨preliminary, _, identity⟩ := Option.bind_eq_some_iff.mp identity
      split at identity
      · cases identity
        exact served.reservable documented rfl request.idempotencyKey rfl _ rfl
      · cases identity
    · cases identity
  · split at identity
    · next request _ =>
      cases identity
      exact served.reservable documented rfl request.idempotencyKey rfl _ rfl
    · cases identity

end Reservable

section Statements

variable {platform : Platform} {attempt : Attempt} {configuration : Configuration} {db : Db}
  {writes : List Write}

theorem finish_send {statement : Statement} {answer : statement.Result} {more : List Write}
    (ran : statement.exec platform attempt.started configuration ((engine platform).view db writes) =
      .ok (answer, more)) :
    (send statement).finish (engine platform) attempt configuration db writes =
      .ok (answer, writes ++ more) := by
  simp [send, Program.finish, ran]

theorem finish_ask {statement : Statement} {answer : statement.Result} {more : List Write}
    (ran : statement.exec platform attempt.started configuration ((engine platform).view db writes) =
      .ok (answer, more)) :
    (ask statement).finish (engine platform) attempt configuration db writes =
      .ok (.ok answer, writes ++ more) := by
  simp [ask, Program.finish, ran]

theorem finish_read {statement : Statement} {answer : statement.Result}
    (ran : statement.exec platform attempt.started configuration ((engine platform).view db writes) =
      .ok (answer, [])) :
    (send statement).finish (engine platform) attempt configuration db writes =
      .ok (answer, writes) := by
  rw [finish_send ran, List.append_nil]

section Records

variable {scope : Scope} {fingerprint : String} {record : IdempotencyRecord} {body : Value}

theorem completedSuccess_finish_unused
    (unused : ((engine platform).view db writes).record? scope = none) :
    (completedSuccess scope).finish (engine platform) attempt configuration db writes =
      .ok (none, writes) := by
  have read := @finish_read platform attempt configuration db writes (.selectRecord scope) none
    (by simp [Statement.exec, unused])
  simp only [completedSuccess, Program.bind_eq]
  rw [Program.finish_bind_ok read]
  rfl

theorem completedSuccess_finish_found
    (found : ((engine platform).view db writes).record? scope = some record)
    (status : record.httpStatus = some (created : Int)) (answered : record.responseBody = some body) :
    (completedSuccess scope).finish (engine platform) attempt configuration db writes =
      .ok (some (record.requestFingerprint, created, body), writes) := by
  have read := @finish_read platform attempt configuration db writes (.selectRecord scope)
    (some ⟨record.requestFingerprint, record.httpStatus, record.responseBody⟩)
    (by simp [Statement.exec, found])
  simp only [completedSuccess, Program.bind_eq]
  rw [Program.finish_bind_ok read]
  simp [status, answered, Program.orFail]

theorem reserve_finish_unused (reservable : attempt.Reservable platform scope fingerprint)
    (unused : ((engine platform).view db writes).record? scope = none) :
    ∃ expiresAt, firstViolation (recordChecks platform
        (reservation attempt.started expiresAt scope fingerprint)) = .ok () ∧
      (reserve platform scope fingerprint).finish (engine platform) attempt configuration
        db writes = .ok (.owned, writes ++
          [.insertRecord (reservation attempt.started expiresAt scope fingerprint)]) := by
  obtain ⟨retention, expiresAt, fits, expires, checked⟩ := reservable
  refine ⟨expiresAt, checked, ?_⟩
  have inserted := @finish_send platform attempt configuration db writes
    (.insertRecord scope fingerprint retention) 1
    [.insertRecord (reservation attempt.started expiresAt scope fingerprint)]
    (insertRecord_eq_ok.mpr ⟨expiresAt, expires, checked, .inr ⟨unused, rfl, rfl⟩⟩)
  simp only [reserve, fits, Program.orFail, Program.bind_eq, Program.done_bind]
  rw [Program.finish_bind_ok inserted]
  rfl

theorem reserve_finish_found (reservable : attempt.Reservable platform scope fingerprint)
    (found : ((engine platform).view db writes).record? scope = some record)
    (status : record.httpStatus = some (created : Int)) (answered : record.responseBody = some body) :
    (reserve platform scope fingerprint).finish (engine platform) attempt configuration db writes =
      .ok (if record.requestFingerprint = fingerprint then .replay created body else .conflict,
        writes) := by
  obtain ⟨retention, expiresAt, fits, expires, checked⟩ := reservable
  have inserted := @finish_read platform attempt configuration db writes
    (.insertRecord scope fingerprint retention) 0
    (insertRecord_eq_ok.mpr ⟨expiresAt, expires, checked, .inl ⟨record, found, rfl, rfl⟩⟩)
  have read := @finish_read platform attempt configuration db writes (.selectRecord scope)
    (some ⟨record.requestFingerprint, record.httpStatus, record.responseBody⟩)
    (by simp [Statement.exec, found])
  simp only [reserve, fits, Program.orFail, Program.bind_eq, Program.done_bind]
  rw [Program.finish_bind_ok inserted]
  rw [if_neg Nat.zero_ne_one]
  rw [Program.finish_bind_ok read]
  simp only [Program.done_bind, status, answered]
  by_cases same : record.requestFingerprint = fingerprint
  · simp [same]
  · simp [same]

theorem replayOrReserve_finish_unused (reservable : attempt.Reservable platform scope fingerprint)
    (unused : ((engine platform).view db writes).record? scope = none) :
    ∃ expiresAt, firstViolation (recordChecks platform
        (reservation attempt.started expiresAt scope fingerprint)) = .ok () ∧
      (replayOrReserve platform scope fingerprint).finish (engine platform) attempt
        configuration db writes = .ok (none, writes ++
          [.insertRecord (reservation attempt.started expiresAt scope fingerprint)]) := by
  obtain ⟨expiresAt, checked, reserved⟩ := @reserve_finish_unused _ _ configuration _ _ _ _
    reservable unused
  refine ⟨expiresAt, checked, ?_⟩
  simp only [replayOrReserve, Program.bind_eq]
  rw [Program.finish_bind_ok (completedSuccess_finish_unused unused)]
  simp only [replayReserved, Program.bind_eq]
  rw [Program.finish_bind_ok reserved]
  rfl

theorem replayOrReserve_finish_found
    (found : ((engine platform).view db writes).record? scope = some record)
    (status : record.httpStatus = some (created : Int)) (answered : record.responseBody = some body) :
    (replayOrReserve platform scope fingerprint).finish (engine platform) attempt configuration db
      writes = if record.requestFingerprint = fingerprint then .ok (some ⟨created, body⟩, writes)
        else .error (.app .idempotencyConflict) := by
  simp only [replayOrReserve, Program.bind_eq]
  rw [Program.finish_bind_ok (completedSuccess_finish_found found status answered)]
  by_cases same : record.requestFingerprint = fingerprint
  · simp only [same, ne_eq, not_true_eq_false, if_false, if_true]
    rfl
  · simp only [same, ne_eq, Ne.symm same, not_false_eq_true, if_false, if_true]
    rfl

end Records

theorem lockAccounts_finish (ids : List Uuid) :
    (lockAccounts ids).finish (engine platform) attempt configuration db writes =
      .ok (ids.flatMap fun id =>
        ((((engine platform).view db writes).account? id).map Account.locked).toList, writes) := by
  induction ids with
  | nil => rfl
  | cons id rest ih =>
    have locked := @finish_read platform attempt configuration db writes (.lockAccount id)
      ((((engine platform).view db writes).account? id).map Account.locked) rfl
    simp only [lockAccounts, Program.bind_eq]
    rw [Program.finish_bind_ok locked, Program.finish_bind_ok ih]
    rfl

theorem selectAccountsForUpdate_finish {source destination : Uuid} (distinct : source ≠ destination) :
    ∃ rows, (selectAccountsForUpdate [source, destination]).finish (engine platform) attempt
        configuration db writes = .ok (rows, writes) ∧
      (∀ sourceRow destinationRow,
        ((engine platform).view db writes).account? source = some sourceRow →
        ((engine platform).view db writes).account? destination = some destinationRow →
        rows.length = 2 ∧ rows.find? (fun row => row.id = source) = some sourceRow.locked ∧
          rows.find? (fun row => row.id = destination) = some destinationRow.locked) := by
  refine ⟨_, lockAccounts_finish _, ?_⟩
  intro sourceRow destinationRow sourceFound destinationFound
  have sourceId : sourceRow.id = source := Table.key_of_lookup sourceFound
  have destinationId : destinationRow.id = destination := Table.key_of_lookup destinationFound
  have unique : [source, destination].dedup = [source, destination] := by
    rw [List.dedup_eq_self]
    simp [distinct]
  by_cases ordered : source ≤ destination
  · have sorted : [source, destination].insertionSort (· ≤ ·) = [source, destination] := by
      simp [List.insertionSort, ordered]
    rw [unique, sorted]
    simp [sourceFound, destinationFound, Account.locked, sourceId, destinationId, distinct]
  · have sorted : [source, destination].insertionSort (· ≤ ·) = [destination, source] := by
      simp [List.insertionSort, ordered]
    rw [unique, sorted]
    simp [sourceFound, destinationFound, Account.locked, sourceId, destinationId, distinct.symm]

def reversalOfReversal : Failure :=
  .business "reversal_of_reversal" "A reversal cannot be reversed"

theorem lockOriginal_finish (clientId : String) (id : Uuid) :
    (lockOriginal clientId id).finish (engine platform) attempt configuration db writes =
      match ((engine platform).view db writes).transfer? id with
      | none => .error (.app .notFound)
      | some row =>
          if row.kind = .reversal then .error reversalOfReversal
          else if (((engine platform).view db writes).account? row.destinationAccountId).map
              Account.ownerId ≠ some clientId then .error (.app .notFound)
          else if ((engine platform).view db writes).reversed id then .error alreadyReversed
          else .ok (row.original, writes) := by
  have locked := @finish_read platform attempt configuration db writes (.lockTransfer id)
    ((((engine platform).view db writes).transfer? id).map Transfer.original) rfl
  have reversed := @finish_read platform attempt configuration db writes (.selectReversed id)
    (((engine platform).view db writes).reversed id) rfl
  simp only [lockOriginal, Program.bind_eq]
  rw [Program.finish_bind_ok locked]
  cases ((engine platform).view db writes).transfer? id with
  | none => rfl
  | some row =>
    have owner := @finish_read platform attempt configuration db writes
      (.selectOwner row.original.destinationAccountId)
      ((((engine platform).view db writes).account? row.destinationAccountId).map
        Account.ownerId) rfl
    simp only [Option.map_some, Program.orFail, Program.done_bind]
    rw [Program.finish_bind, Program.finish_ensure]
    have kind : row.original.kind = row.kind := rfl
    by_cases isReversal : row.kind = .reversal
    · simp [kind, isReversal, reversalOfReversal]
    · simp only [kind, isReversal, ne_eq, not_false_eq_true, if_true, if_false]
      rw [Program.finish_bind_ok owner, Program.finish_bind, Program.finish_ensure]
      by_cases owned : (((engine platform).view db writes).account? row.destinationAccountId).map
          Account.ownerId = some clientId
      · simp only [owned, if_true, not_true_eq_false, if_false]
        rw [Program.finish_bind_ok reversed, Program.finish_bind, Program.finish_ensure]
        cases ((engine platform).view db writes).reversed id <;> rfl
      · simp [owned]

end Statements

section Fx

variable {platform : Platform} {attempt : Attempt} {db : Db} {writes : List Write}
  (configuration : Configuration) (source destination : String) (time : Timestamp)

def Configuration.rate : Except ConfigurationError ExchangeRate :=
  match configuration.exchangeRateRows source destination time with
  | [] => .error .rateUnavailable
  | [row] => .ok row.select
  | _ => .error .rateAmbiguous

def Configuration.feeRule : Except ConfigurationError FeeRule :=
  match configuration.pairFeeRows source destination time with
  | [row] => .ok row.select
  | _ :: _ => .error .feeRuleAmbiguous
  | [] =>
      match configuration.defaultFeeRows time with
      | [] => .error .feeRuleUnavailable
      | [row] => .ok row.select
      | _ => .error .feeRuleAmbiguous

theorem orderLimitTwo_two {Row : Type} {validFrom : Row → Timestamp} {id : Row → Uuid}
    {rows : List Row} (many : 2 ≤ rows.length) :
    ∃ first second, orderLimitTwo validFrom id rows = [first, second] := by
  have length : (orderLimitTwo validFrom id rows).length = 2 := by
    simp [orderLimitTwo, many]
  exact List.length_eq_two.mp length

theorem selectExchangeRate_finish :
    (selectExchangeRate source destination time).finish (engine platform) attempt configuration db
      writes = .ok (configuration.rate source destination time, writes) := by
  have read := @finish_ask platform attempt configuration db writes
    (.selectExchangeRates source destination time) _ _ rfl
  simp only [selectExchangeRate, Program.bind_eq]
  rw [Program.finish_bind_ok read, List.append_nil, Configuration.rate]
  generalize configuration.exchangeRateRows source destination time = rows
  rcases rows with _ | ⟨row, _ | ⟨other, rows⟩⟩
  · rfl
  · rfl
  · obtain ⟨first, second, two⟩ := @orderLimitTwo_two _ ExchangeRateRow.validFrom
      ExchangeRateRow.id (row :: other :: rows) (by simp)
    rw [two]
    rfl

theorem selectFeeRule_finish :
    (selectFeeRule source destination time).finish (engine platform) attempt configuration db
      writes = .ok (configuration.feeRule source destination time, writes) := by
  have read := @finish_ask platform attempt configuration db writes
    (.selectPairFeeRules source destination time) _ _ rfl
  simp only [selectFeeRule, Program.bind_eq]
  rw [Program.finish_bind_ok read, List.append_nil, Configuration.feeRule]
  generalize configuration.pairFeeRows source destination time = rows
  rcases rows with _ | ⟨row, _ | ⟨other, rows⟩⟩
  · have default := @finish_ask platform attempt configuration db writes
      (.selectDefaultFeeRules time) _ _ rfl
    simp only [orderLimitTwo, List.insertionSort_nil, List.take_nil, List.map_nil]
    rw [Program.finish_bind_ok default, List.append_nil]
    generalize configuration.defaultFeeRows time = defaults
    rcases defaults with _ | ⟨row, _ | ⟨other, rows⟩⟩
    · rfl
    · rfl
    · obtain ⟨first, second, two⟩ := @orderLimitTwo_two _ FeeRuleRow.validFrom FeeRuleRow.id
        (row :: other :: rows) (by simp)
      rw [two]
      rfl
  · rfl
  · obtain ⟨first, second, two⟩ := @orderLimitTwo_two _ FeeRuleRow.validFrom FeeRuleRow.id
      (row :: other :: rows) (by simp)
    rw [two]
    rfl

def Configuration.fx (operationType : OperationType) :
    Except Failure (Option (ExchangeRate × FeeRule)) :=
  if operationType = .fxTransfer then do
    let rate ← (configuration.rate source destination time).mapError transferConfigurationError
    let fee ← (configuration.feeRule source destination time).mapError transferConfigurationError
    .ok (some (rate, fee))
  else .ok none

theorem selectFxConfiguration_finish (operationType : OperationType) (preliminary : Preliminary) :
    (selectFxConfiguration operationType preliminary time).finish (engine platform) attempt
      configuration db writes =
      (configuration.fx preliminary.sourceCurrency preliminary.destinationCurrency time
        operationType).map fun result => (result, writes) := by
  unfold selectFxConfiguration Configuration.fx
  split
  · simp only [Program.bind_eq]
    rw [Program.finish_bind_ok (selectExchangeRate_finish _ _ _ _)]
    cases configuration.rate preliminary.sourceCurrency preliminary.destinationCurrency time with
    | error error => rfl
    | ok rate =>
      simp only [Except.mapError, Program.ofExcept, Program.done_bind]
      rw [Program.finish_bind_ok (selectFeeRule_finish _ _ _ _)]
      cases configuration.feeRule preliminary.sourceCurrency preliminary.destinationCurrency time with
      | error error => rfl
      | ok rule => rfl
  · rfl

end Fx

section Handlers

variable {platform : Platform} {attempt : Attempt} {configuration : Configuration} {db : Db}

section CreateTransfer

variable {body : Option CreateTransferRequest} (asked : attempt.request = .createTransfer body)
include asked

variable {request : TransferRequest}
  (valid : validateTransferRequest platform attempt.headers body = .ok request)
include valid

theorem createTransfer_answer_unknown
    (missing : db.preliminary request.sourceAccountId request.destinationAccountId = none) :
    attempt.answer platform configuration db = .error (.app .accountUnavailable) := by
  simp [Attempt.answer, handle, asked, createTransfer, valid, Program.ofExcept, acquireConnection,
    ask, send, Program.finish, Statement.exec, missing, Program.orFail, Program.emit]

variable {preliminary : Preliminary}
  (found : db.preliminary request.sourceAccountId request.destinationAccountId = some preliminary)
include found

theorem createTransfer_answer_rejected {operationType : OperationType} {failure : Failure}
    (operation : transferOperation preliminary = .ok operationType)
    (rejected : transferAmount preliminary request.amount = .error failure) :
    attempt.answer platform configuration db = .error failure := by
  simp [Attempt.answer, handle, asked, createTransfer, valid, Program.ofExcept, acquireConnection,
    ask, send, Program.finish, Statement.exec, found, Program.orFail, Program.emit, operation,
    rejected]

theorem createTransfer_answer {operationType : OperationType} {amountMinor : I64}
    (operation : transferOperation preliminary = .ok operationType)
    (amount : transferAmount preliminary request.amount = .ok amountMinor) :
    attempt.answer platform configuration db =
      ((replayOrReserve platform ⟨attempt.clientId, operationType, request.idempotencyKey.asStr⟩
        (transferFingerprint platform request.sourceAccountId request.destinationAccountId
          preliminary.sourceCurrency amountMinor)).bind fun
        | some success => .done (.ok success)
        | none => performTransfer attempt.clientId attempt.ids
            ⟨attempt.clientId, operationType, request.idempotencyKey.asStr⟩ preliminary request
            amountMinor).finish (engine platform) attempt configuration db [] := by
  -- The statement's own `match` is not the one of the handler, so the last step is by reduction.
  have evaluated := Eq.refl (attempt.answer platform configuration db)
  conv_rhs at evaluated =>
    simp only [Attempt.answer, handle, asked, createTransfer, valid, Program.ofExcept,
      acquireConnection, ask, send, Program.finish, Statement.exec, found, Program.orFail, Program.emit,
      operation, amount, Program.bind_eq, Program.done_bind, Program.query_bind, Program.signal_bind,
      engine_exec, Transaction.Engine.view_nil, List.append_nil]
  exact evaluated

end CreateTransfer

section ReverseTransfer

variable {text : String} (asked : attempt.request = .reverseTransfer text)
include asked

theorem reverseTransfer_answer {request : ReversalRequest}
    (valid : validateReversalRequest platform attempt.headers text = .ok request) :
    attempt.answer platform configuration db =
      ((replayOrReserve platform ⟨attempt.clientId, .reversal, request.idempotencyKey.asStr⟩
        (reversalFingerprint platform request.originalTransferId)).bind fun
        | some success => .done (.ok success)
        | none => performReversal attempt.clientId attempt.ids
            ⟨attempt.clientId, .reversal, request.idempotencyKey.asStr⟩
            request.originalTransferId).finish (engine platform) attempt configuration db [] := by
  have evaluated := Eq.refl (attempt.answer platform configuration db)
  conv_rhs at evaluated =>
    simp only [Attempt.answer, handle, asked, reverseTransfer, beginReversal, valid, Program.ofExcept,
      ask, Program.finish, Statement.exec, Program.emit, Program.bind_eq, Program.done_bind,
      Program.query_bind, Program.signal_bind, engine_exec, List.append_nil]
  exact evaluated

end ReverseTransfer

section CreateAccount

variable {body : Option CreateAccountRequest} (asked : attempt.request = .createAccount body)
include asked

theorem createAccount_answer {request : AccountRequest}
    (valid : validateAccountRequest attempt.headers body = .ok request) :
    attempt.answer platform configuration db =
      ((reserve platform ⟨attempt.clientId, .accountCreation, request.idempotencyKey.asStr⟩
        (accountCreationFingerprint platform request.currency.code request.balanceMinor)).bind fun
        | .replay httpStatus responseBody =>
            .done ((statusCode httpStatus).map fun status => ⟨status, responseBody⟩)
        | .conflict => .fail (.app .idempotencyConflict)
        | .owned => performAccountCreation attempt.clientId attempt.ids.resource
            ⟨attempt.clientId, .accountCreation, request.idempotencyKey.asStr⟩
            request).finish (engine platform) attempt configuration db [] := by
  have evaluated := Eq.refl (attempt.answer platform configuration db)
  conv_rhs at evaluated =>
    simp only [Attempt.answer, handle, asked, createAccount, valid, Program.ofExcept, send,
      Program.finish, Statement.exec, Program.bind_eq, Program.done_bind, Program.query_bind,
      engine_exec, List.append_nil]
  exact evaluated

end CreateAccount

end Handlers

end LedgerService
