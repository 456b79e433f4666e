import LedgerService.Answers
import LedgerService.Denominations

set_option autoImplicit false

namespace LedgerService

open Transaction

section Configuration

variable (configuration : Configuration) (source destination : String) (time : Timestamp)

def Configuration.Determined : Prop :=
  (configuration.exchangeRateRows source destination time).length = 1 ∧
    ((configuration.pairFeeRows source destination time).length = 1 ∨
      (configuration.pairFeeRows source destination time).length = 0 ∧
        (configuration.defaultFeeRows time).length = 1)

theorem Configuration.rate_eq_ok {rate : ExchangeRate} :
    configuration.rate source destination time = .ok rate ↔
      ∃ row, configuration.exchangeRateRows source destination time = [row] ∧
        row.select = rate := by
  unfold Configuration.rate
  split <;> simp_all

theorem Configuration.feeRule_eq_ok {rule : FeeRule} :
    configuration.feeRule source destination time = .ok rule ↔
      ∃ row, row.select = rule ∧ (configuration.pairFeeRows source destination time = [row] ∨
        configuration.pairFeeRows source destination time = [] ∧
          configuration.defaultFeeRows time = [row]) := by
  unfold Configuration.feeRule
  rcases pairs : configuration.pairFeeRows source destination time with _ | ⟨row, _ | ⟨other, rows⟩⟩
  · rcases defaults : configuration.defaultFeeRows time with _ | ⟨row, _ | ⟨other, rows⟩⟩ <;> simp
  · simp
  · simp

theorem Configuration.determined_iff :
    configuration.Determined source destination time ↔
      ∃ rate rule, configuration.rate source destination time = .ok rate ∧
        configuration.feeRule source destination time = .ok rule := by
  simp only [Configuration.Determined, Configuration.rate_eq_ok, Configuration.feeRule_eq_ok,
    List.length_eq_one_iff, List.length_eq_zero_iff]
  constructor
  · rintro ⟨⟨row, rates⟩, ⟨rule, pair⟩ | ⟨none, rule, default⟩⟩
    · exact ⟨_, _, ⟨row, rates, rfl⟩, rule, rfl, .inl pair⟩
    · exact ⟨_, _, ⟨row, rates, rfl⟩, rule, rfl, .inr ⟨none, default⟩⟩
  · rintro ⟨_, _, ⟨row, rates, _⟩, rule, _, pair | ⟨none, default⟩⟩
    · exact ⟨⟨row, rates⟩, .inl ⟨rule, pair⟩⟩
    · exact ⟨⟨row, rates⟩, .inr ⟨none, rule, default⟩⟩

theorem Configuration.fx_error {operationType : OperationType} {failure : Failure}
    (failed : configuration.fx source destination time operationType = .error failure) :
    operationType = .fxTransfer ∧ ¬ configuration.Determined source destination time ∧
      ∃ error, (∀ reason, error ≠ .database reason) ∧ failure = transferConfigurationError error := by
  unfold Configuration.fx at failed
  split at failed
  · rename_i isFx
    refine ⟨isFx, ?_⟩
    rw [Configuration.determined_iff]
    cases rate : configuration.rate source destination time with
    | error error =>
      simp only [rate, Except.mapError, Bind.bind, Except.bind, Except.error.injEq] at failed
      refine ⟨by simp, error, ?_, failed.symm⟩
      rintro reason rfl
      unfold Configuration.rate at rate
      split at rate <;> simp at rate
    | ok rate =>
      simp only [rate, Except.mapError, Bind.bind, Except.bind] at failed
      cases rule : configuration.feeRule source destination time with
      | error error =>
        simp only [rule, Except.error.injEq] at failed
        refine ⟨by simp, error, ?_, failed.symm⟩
        rintro reason rfl
        unfold Configuration.feeRule at rule
        repeat' split at rule
        all_goals simp at rule
      | ok rule => simp [rule] at failed
  · cases failed

theorem Configuration.fx_ok {operationType : OperationType} {fx : Option (ExchangeRate × FeeRule)}
    (selected : configuration.fx source destination time operationType = .ok fx) :
    (operationType ≠ .fxTransfer ∧ fx = none) ∨
    (operationType = .fxTransfer ∧ ∃ rate rule, fx = some (rate, rule) ∧
      configuration.rate source destination time = .ok rate ∧
      configuration.feeRule source destination time = .ok rule) := by
  unfold Configuration.fx at selected
  split at selected
  · rename_i isFx
    simp only [bind_eq_ok, mapError_eq_ok, Except.ok.injEq] at selected
    obtain ⟨rate, one, rule, other, rfl⟩ := selected
    exact .inr ⟨isFx, rate, rule, rfl, one, other⟩
  · rename_i ordinary
    cases selected
    exact .inl ⟨ordinary, rfl⟩

end Configuration

section Decision

/-- The terms and the new balances, where the transfer is to be made. -/
def transferDecision (clientId : String) (amountMinor : I64)
    (fx : Option (ExchangeRate × FeeRule)) (source destination : LockedAccount) :
    Except Failure (TransferTerms × I64 × I64) := do
  demand (source.ownerId = clientId ∧ source.status = .active ∧ destination.status = .active)
    (.app .accountUnavailable)
  let terms ← (transferTerms amountMinor fx source destination).mapError transferArithmeticError
  let balances ← transferBalances terms source destination
  .ok (terms, balances)

def recordTransfer (clientId : String) (ids : NewIds) (scope : Scope) (request : TransferRequest)
    (amountMinor : I64) (source destination : LockedAccount) :
    TransferTerms × I64 × I64 → Handler Reply
  | (terms, sourceBalance, destinationBalance) => do
      let createdAt ← post (transferPosting clientId ids request amountMinor terms source destination
        sourceBalance destinationBalance)
      let responseBody ← .ofExcept
        (transferCreatedResponse ids request amountMinor terms source destination createdAt)
      storeSuccess scope created responseBody ids.resource
      .done (.ok ⟨created, responseBody⟩)

theorem transferAccounts_rows {clientId : String} {request : TransferRequest}
    {rows : List LockedAccount} {source destination : Account} (two : rows.length = 2)
    (first : rows.find? (fun row => row.id = request.sourceAccountId) = some source.locked)
    (second : rows.find? (fun row => row.id = request.destinationAccountId) =
      some destination.locked) :
    transferAccounts clientId ⟨source.currency, source.currencyScale, destination.currency,
        destination.currencyScale⟩ request rows =
      (demand (source.locked.ownerId = clientId ∧ source.locked.status = .active ∧
        destination.locked.status = .active) (.app .accountUnavailable)).map
          fun _ => (source.locked, destination.locked) := by
  simp only [transferAccounts, two, first, second, demand, orFailure, if_true, Bind.bind,
    Except.bind]
  by_cases authorized : source.locked.ownerId = clientId ∧ source.locked.status = .active ∧
      destination.locked.status = .active
  · have metadata : (source.locked.currency, source.locked.scale, destination.locked.currency,
        destination.locked.scale) = (source.currency, source.currencyScale, destination.currency,
          destination.currencyScale) := rfl
    simp only [if_pos authorized, if_pos metadata, Except.map]
  · simp only [if_neg authorized, Except.map]

variable {platform : Platform} {attempt : Attempt} {configuration : Configuration} {db : Db}
  {writes : List Write}

theorem performTransfer_finish {ids : NewIds} {scope : Scope} {preliminary : Preliminary}
    {request : TransferRequest} {amountMinor : I64} {source destination : Account}
    (distinct : request.sourceAccountId ≠ request.destinationAccountId)
    (sourceFound : ((engine platform).view db writes).account? request.sourceAccountId = some source)
    (destinationFound :
      ((engine platform).view db writes).account? request.destinationAccountId = some destination)
    (same : preliminary = ⟨source.currency, source.currencyScale, destination.currency,
      destination.currencyScale⟩) :
    (performTransfer attempt.clientId ids scope preliminary request amountMinor).finish
        (engine platform) attempt configuration db writes =
      ((Program.ofExcept (configuration.fx source.currency destination.currency attempt.started
        scope.operationType)).bind fun fx =>
          (Program.ofExcept (transferDecision attempt.clientId amountMinor fx source.locked
            destination.locked)).bind
              (recordTransfer attempt.clientId ids scope request amountMinor source.locked
                destination.locked)).finish (engine platform) attempt configuration db writes := by
  have timed := @finish_read platform attempt configuration db writes .transactionTimestamp _ rfl
  simp only [performTransfer, Program.bind_eq]
  rw [Program.finish_bind_ok timed, Program.finish_bind, selectFxConfiguration_finish]
  subst same
  cases configuration.fx source.currency destination.currency attempt.started
      scope.operationType with
  | error failure => rfl
  | ok fx =>
    obtain ⟨rows, locked, both⟩ := @selectAccountsForUpdate_finish platform attempt configuration
      db writes _ _ distinct
    obtain ⟨two, first, second⟩ := both source destination sourceFound destinationFound
    simp only [Except.map, Program.ofExcept, Program.done_bind]
    rw [Program.finish_bind_ok locked]
    have rows_eq := @transferAccounts_rows attempt.clientId request _ _ _ two first second
    rw [rows_eq]
    simp only [transferDecision, demand]
    by_cases authorized : source.locked.ownerId = attempt.clientId ∧
        source.locked.status = .active ∧ destination.locked.status = .active
    · simp only [if_pos authorized, Except.map, Program.done_bind, Bind.bind, Except.bind]
      cases (transferTerms amountMinor fx source.locked destination.locked).mapError
          transferArithmeticError with
      | error failure => rfl
      | ok terms =>
        simp only [Program.done_bind]
        cases transferBalances terms source.locked destination.locked with
        | error failure => rfl
        | ok balances =>
          obtain ⟨sourceBalance, destinationBalance⟩ := balances
          rfl
    · simp only [if_neg authorized]
      rfl

end Decision

section Preliminary

variable {db : Db} {source destination : Account}

def Account.preliminary (source destination : Account) : Preliminary :=
  ⟨source.currency, source.currencyScale, destination.currency, destination.currencyScale⟩

theorem Db.preliminary_found {sourceId destinationId : Uuid}
    (sourceFound : db.account? sourceId = some source)
    (destinationFound : db.account? destinationId = some destination) :
    db.preliminary sourceId destinationId = some (source.preliminary destination) := by
  simp [Db.preliminary, Account.preliminary, sourceFound, destinationFound]

theorem Db.preliminary_missing {sourceId destinationId : Uuid}
    (missing : db.account? sourceId = none ∨ db.account? destinationId = none) :
    db.preliminary sourceId destinationId = none := by
  unfold Db.preliminary
  rcases missing with absent | absent
  · rw [absent]
  · rw [absent]
    cases db.account? sourceId <;> rfl

def Account.operation (source destination : Account) : OperationType :=
  if source.currency = destination.currency then .transfer else .fxTransfer

theorem transferOperation_listed (sourceListed : source.Listed)
    (destinationListed : destination.Listed) :
    transferOperation (source.preliminary destination) = .ok (source.operation destination) := by
  unfold transferOperation Account.operation Account.preliminary
  by_cases same : source.currency = destination.currency
  · have scales := sourceListed.scale_eq destinationListed same
    simp [same, scales]
  · simp [same]

theorem transferAmount_eq_ok (listed : source.Listed) {amount : String} {amountMinor : I64} :
    transferAmount (source.preliminary destination) amount = .ok amountMinor ↔
      parseMinorUnits amount (asU8 source.currencyScale) = .ok amountMinor ∧
        0 < amountMinor.val := by
  simp only [transferAmount, Account.preliminary, listed.scale.1, bind_eq_ok, orFailure_eq_ok,
    Option.some.injEq, orMoneyError_eq_ok, Except.ok.injEq]
  constructor
  · rintro ⟨_, rfl, _, parsed, _, positive, rfl⟩
    exact ⟨parsed, demand_eq_ok.mp positive⟩
  · rintro ⟨parsed, positive⟩
    exact ⟨_, rfl, _, parsed, (), demand_eq_ok.mpr positive, rfl⟩

theorem transferAmount_error {preliminary : Preliminary} {amount : String} {failure : Failure}
    (failed : transferAmount preliminary amount = .error failure) :
    failure ≠ .app .accountUnavailable := by
  rintro rfl
  simp only [transferAmount, bind_eq_error, orFailure_eq_error, demand_eq_error, reduceCtorEq,
    and_false, exists_false, or_false, Failure.internal, Failure.validation, Failure.app.injEq,
    false_or] at failed
  obtain ⟨scale, _, failed⟩ := failed
  cases parsed : parseMinorUnits amount scale with
  | ok amountMinor => simp [parsed, orMoneyError] at failed
  | error error => cases error <;> simp [parsed, orMoneyError, transferMoneyError] at failed
  | panic => simp [parsed, orMoneyError, amountOverflowPanic] at failed

end Preliminary

deriving instance DecidableEq for TransferRequest

section Answer

variable {platform : Platform} {attempt : Attempt} {configuration : Configuration} {db : Db}
  {body : Option CreateTransferRequest} {request : TransferRequest} {source destination : Account}

theorem validateTransferRequest_distinct {headers : HeaderMap}
    (valid : validateTransferRequest platform headers body = .ok request) :
    request.sourceAccountId ≠ request.destinationAccountId := by
  simp only [validateTransferRequest, bind_eq_ok] at valid
  obtain ⟨_, _, _, _, _, _, _, _, _, distinct, built⟩ := valid
  cases built
  exact demand_eq_ok.mp distinct

theorem createTransfer_decided (documented : platform.Documented) (served : attempt.Served platform)
    (asked : attempt.request = .createTransfer body)
    (valid : validateTransferRequest platform attempt.headers body = .ok request)
    (sourceFound : db.account? request.sourceAccountId = some source)
    (destinationFound : db.account? request.destinationAccountId = some destination)
    (sourceListed : source.Listed) (destinationListed : destination.Listed) {amountMinor : I64}
    (amount : transferAmount (source.preliminary destination) request.amount = .ok amountMinor)
    {scope : Scope} (named : scope = ⟨attempt.clientId, source.operation destination,
      request.idempotencyKey.asStr⟩)
    (unused : db.record? scope = none) :
    ∃ expiresAt, firstViolation (recordChecks platform (reservation attempt.started expiresAt scope
        (transferFingerprint platform request.sourceAccountId request.destinationAccountId
          source.currency amountMinor))) = .ok () ∧
      attempt.answer platform configuration db =
        ((Program.ofExcept (configuration.fx source.currency destination.currency attempt.started
          scope.operationType)).bind fun fx =>
            (Program.ofExcept (transferDecision attempt.clientId amountMinor fx source.locked
              destination.locked)).bind
                (recordTransfer attempt.clientId attempt.ids scope request amountMinor source.locked
                  destination.locked)).finish (engine platform) attempt configuration db
                    [.insertRecord (reservation attempt.started expiresAt scope
                      (transferFingerprint platform request.sourceAccountId
                        request.destinationAccountId source.currency amountMinor))] := by
  subst named
  have reservable := @Attempt.Served.reservable _ _ ⟨attempt.clientId,
    source.operation destination, request.idempotencyKey.asStr⟩ _ documented served rfl
    request.idempotencyKey rfl _
    (show transferFingerprint platform request.sourceAccountId request.destinationAccountId
      (source.preliminary destination).sourceCurrency amountMinor = _ from rfl)
  obtain ⟨expiresAt, checked, reserved⟩ := @replayOrReserve_finish_unused _ _ configuration db
    [] _ _ reservable unused
  rw [createTransfer_answer asked valid (Db.preliminary_found sourceFound destinationFound)
    (transferOperation_listed sourceListed destinationListed) amount,
    Program.finish_bind_ok reserved]
  exact ⟨expiresAt, checked, performTransfer_finish (validateTransferRequest_distinct valid)
    sourceFound destinationFound rfl⟩

end Answer

end LedgerService
