import LedgerService.Decisions
import LedgerService.Idempotence
import LedgerService.Reversing

set_option autoImplicit false

namespace LedgerService

open Transaction

section Failing

variable {platform : Platform} {attempt : Attempt} {ledger : Ledger} {failure : Failure}

theorem serve_of_error
    (failed : attempt.answer platform ledger.reference ledger.store = .error failure) :
    (ledger.serve (engine platform) (handle platform) attempt).store = ledger.store := by
  have same : (handle platform attempt).finish (engine platform) attempt ledger.reference
      ledger.store [] = .error failure := failed
  rw [System.serve, same]

end Failing

section Reversals

variable {platform : Platform} {ledger : Ledger} {attempt : Attempt} {text missing : String}
  {request : ReversalRequest}

def Attempt.naming (attempt : Attempt) (text : String) : Attempt :=
  { attempt with request := .reverseTransfer text }

theorem validateReversalRequest_naming {unknown : Uuid}
    (valid : validateReversalRequest platform attempt.headers text = .ok request)
    (parsed : platform.parseUuid missing = some unknown) :
    validateReversalRequest platform (attempt.naming missing).headers missing =
      .ok ⟨request.idempotencyKey, unknown⟩ := by
  simp only [validateReversalRequest, bind_eq_ok] at valid
  obtain ⟨key, read, _, _, built⟩ := valid
  cases built
  simp [validateReversalRequest, Attempt.naming, read, parsed, orFailure, bind, Except.bind]

/-- Who does not own its destination account is told of a transfer what he is told of a missing one,
but of a reversal that it is a reversal, whoever he is. -/
theorem foreign_transfers_hidden (documented : platform.Documented) (served : attempt.Served platform)
    (asked : attempt.request = .reverseTransfer text)
    (valid : validateReversalRequest platform attempt.headers text = .ok request)
    (unused : ledger.store.record? ⟨attempt.clientId, .reversal, request.idempotencyKey.asStr⟩ = none)
    {transfer : Transfer} (found : ledger.store.transfer? request.originalTransferId = some transfer)
    {unknown : Uuid} (parsed : platform.parseUuid missing = some unknown)
    (absent : ledger.store.transfer? unknown = none) :
    (attempt.naming missing).answer platform ledger.reference ledger.store =
      .error (.app .notFound) ∧
    (transfer.kind = .reversal →
      attempt.answer platform ledger.reference ledger.store = .error reversalOfReversal ∧
      (ledger.serve (engine platform) (handle platform) attempt).store = ledger.store) ∧
    (transfer.kind ≠ .reversal →
      (∀ account, ledger.store.account? transfer.destinationAccountId = some account →
        account.ownerId ≠ attempt.clientId) →
      attempt.answer platform ledger.reference ledger.store =
        (attempt.naming missing).answer platform ledger.reference ledger.store ∧
      (ledger.serve (engine platform) (handle platform) attempt).store = ledger.store) := by
  have unnamed : (attempt.naming missing).answer platform ledger.reference ledger.store =
      .error (.app .notFound) := by
    apply @reverseTransfer_answer_rejected _ (attempt.naming missing) _ _ _ _ documented
      ⟨served.client, served.retention⟩ rfl (validateReversalRequest_naming valid parsed) unused
    rintro _ record rfl
    rw [lockOriginal_finish]
    simp [absent]
  refine ⟨unnamed, ?_, ?_⟩
  · intro kind
    have told : attempt.answer platform ledger.reference ledger.store =
        .error reversalOfReversal := by
      apply reverseTransfer_answer_rejected documented served asked valid unused
      rintro _ record rfl
      rw [lockOriginal_finish]
      simp [found, kind]
    exact ⟨told, serve_of_error told⟩
  · intro kind foreign
    have stranger : (ledger.store.account? transfer.destinationAccountId).map Account.ownerId ≠
        some attempt.clientId := by
      intro owned
      obtain ⟨account, present, owner⟩ := Option.map_eq_some_iff.mp owned
      exact foreign account present owner
    have told : attempt.answer platform ledger.reference ledger.store = .error (.app .notFound) := by
      apply reverseTransfer_answer_rejected documented served asked valid unused
      rintro _ record rfl
      rw [lockOriginal_finish]
      simp [found, kind, stranger]
    exact ⟨told.trans unnamed.symm, serve_of_error told⟩

theorem foreign_transfers_hidden_paid :
    (Sample.reversal 6 "alice" "undo" 4).answer .reference (Sample.ledger Sample.paid).reference
        (Sample.ledger Sample.paid).store =
      ((Sample.reversal 6 "alice" "undo" 4).naming (Sample.resource 640).hyphenated).answer .reference
        (Sample.ledger Sample.paid).reference (Sample.ledger Sample.paid).store := by
  obtain ⟨shown, owner, unused, absent, valid, parsed⟩ :
      ((Sample.ledger Sample.paid).store.transfer? (Sample.resource 64)).map
          (fun row => (row.kind, row.destinationAccountId)) =
        some (.transfer, Sample.resource 32) ∧
      ((Sample.ledger Sample.paid).store.account? (Sample.resource 32)).map Account.ownerId =
        some "bob" ∧
      (Sample.ledger Sample.paid).store.record? ⟨"alice", .reversal, "undo"⟩ = none ∧
      (Sample.ledger Sample.paid).store.transfer? (Sample.resource 640) = none ∧
      validateReversalRequest .reference (Sample.header "undo") (Sample.resource 64).hyphenated =
        .ok ⟨⟨"undo", by decide⟩, Sample.resource 64⟩ ∧
      Platform.reference.parseUuid (Sample.resource 640).hyphenated = some (Sample.resource 640) := by
    decide +kernel
  obtain ⟨transfer, present, same⟩ := Option.map_eq_some_iff.mp shown
  obtain ⟨kind, destination⟩ := Prod.mk.inj same
  have served := Sample.served "alice" "undo" 6
    (.reverseTransfer (Sample.resource 64).hyphenated) (by decide) (by decide)
  have hidden := foreign_transfers_hidden Platform.reference_documented served rfl valid unused
    present parsed absent
  refine (hidden.2.2 (by simp [kind]) ?_).1
  intro account found
  rw [destination] at found
  rw [found] at owner
  have name : account.ownerId = "bob" := Option.some.inj owner
  rw [name]
  decide

theorem foreign_transfers_hidden_reversal :
    (Sample.ledger Sample.returned).Reachable .reference ∧
      ((Sample.ledger Sample.returned).store.transfer? (Sample.resource 96)).map
        (fun row => (row.kind, row.destinationAccountId)) = some (.reversal, Sample.resource 16) ∧
      ((Sample.ledger Sample.returned).store.account? (Sample.resource 16)).map Account.ownerId =
        some "alice" ∧
      (Sample.ledger Sample.returned).store.record? ⟨"bob", .reversal, "probe"⟩ = none ∧
      (Sample.ledger Sample.returned).store.transfer? (Sample.resource 640) = none ∧
      (Sample.reversal 9 "bob" "probe" 6).answer .reference Sample.configuration
        (Sample.ledger Sample.returned).store = .error reversalOfReversal ∧
      (Sample.reversal 9 "bob" "probe" 40).answer .reference Sample.configuration
        (Sample.ledger Sample.returned).store = .error (.app .notFound) :=
  ⟨Sample.reachable _, by decide +kernel⟩

end Reversals

section Transfers

/-- What is checked before the owner of the source holds. -/
structure Unrevealing (configuration : Configuration) (time : Timestamp) (amount : String)
    (source destination : Account) : Prop where
  amount : ∃ amountMinor, parseMinorUnits amount (asU8 source.currencyScale) = .ok amountMinor ∧
    0 < amountMinor.val
  configuration : source.currency ≠ destination.currency →
    configuration.Determined source.currency destination.currency time

variable {platform : Platform} {ledger : Ledger} {attempt : Attempt}
  {body : Option CreateTransferRequest} {request : TransferRequest}

theorem transferConfigurationError_ne {error : ConfigurationError} :
    transferConfigurationError error ≠ .app .accountUnavailable := by
  cases error <;> simp [transferConfigurationError, Failure.business, Failure.database]

/-- The source account of another client is hidden as long as nothing else is wrong. -/
theorem foreign_sources_hidden_iff (documented : platform.Documented)
    (reachable : ledger.Reachable platform) (served : attempt.Served platform)
    (asked : attempt.request = .createTransfer body)
    (valid : validateTransferRequest platform attempt.headers body = .ok request)
    (unused : ∀ operation, ledger.store.record?
      ⟨attempt.clientId, operation, request.idempotencyKey.asStr⟩ = none)
    {source : Account} (found : ledger.store.account? request.sourceAccountId = some source)
    (foreign : source.ownerId ≠ attempt.clientId)
    {missing : Db} (absent : missing.account? request.sourceAccountId = none) :
    attempt.answer platform ledger.reference missing = .error (.app .accountUnavailable) ∧
    (ledger.serve (engine platform) (handle platform) attempt).store = ledger.store ∧
    (attempt.answer platform ledger.reference ledger.store =
        attempt.answer platform ledger.reference missing ↔
      ∀ destination, ledger.store.account? request.destinationAccountId = some destination →
        Unrevealing ledger.reference attempt.started request.amount source destination) := by
  have unknown : attempt.answer platform ledger.reference missing =
      .error (.app .accountUnavailable) :=
    createTransfer_answer_unknown asked valid (Db.preliminary_missing (.inl absent))
  -- It is enough to know the error.
  suffices told : ∃ failure, attempt.answer platform ledger.reference ledger.store =
      .error failure ∧ (failure = .app .accountUnavailable ↔
        ∀ destination, ledger.store.account? request.destinationAccountId = some destination →
          Unrevealing ledger.reference attempt.started request.amount source destination) by
    obtain ⟨failure, failed, same⟩ := told
    refine ⟨unknown, serve_of_error failed, ?_⟩
    rw [unknown, failed, Except.error.injEq]
    exact same
  cases destinationFound : ledger.store.account? request.destinationAccountId with
  | none =>
    refine ⟨_, createTransfer_answer_unknown asked valid
      (Db.preliminary_missing (.inr destinationFound)), ?_⟩
    simp
  | some destination =>
    have sourceListed := reachable.listed found
    have destinationListed := reachable.listed destinationFound
    simp only [Option.some.injEq, forall_eq']
    cases amount : transferAmount (source.preliminary destination) request.amount with
    | error failure =>
      refine ⟨failure, createTransfer_answer_rejected asked valid
        (Db.preliminary_found found destinationFound)
        (transferOperation_listed sourceListed destinationListed) amount, ?_⟩
      constructor
      · intro same
        exact absurd same (transferAmount_error amount)
      · intro concealed
        obtain ⟨amountMinor, parsed⟩ := concealed.amount
        rw [(transferAmount_eq_ok sourceListed).mpr parsed] at amount
        cases amount
    | ok amountMinor =>
      have parsed := (transferAmount_eq_ok sourceListed).mp amount
      obtain ⟨_, _, answer⟩ := @createTransfer_decided _ _ ledger.reference _ _ _ _ _ documented
        served asked valid found destinationFound sourceListed destinationListed _ amount _ rfl
        (unused _)
      rw [answer]
      cases fx : ledger.reference.fx source.currency destination.currency attempt.started
          (source.operation destination) with
      | error failure =>
        obtain ⟨isFx, ambiguous, error, _, rfl⟩ := Configuration.fx_error _ _ _ _ fx
        refine ⟨_, rfl, ?_⟩
        constructor
        · intro same
          exact absurd same transferConfigurationError_ne
        · intro concealed
          have different : source.currency ≠ destination.currency := by
            intro same
            simp [Account.operation, same] at isFx
          exact absurd (concealed.configuration different) ambiguous
      | ok selected =>
        have refused : transferDecision attempt.clientId amountMinor selected source.locked
            destination.locked = .error (.app .accountUnavailable) := by
          have stranger : ¬ (source.locked.ownerId = attempt.clientId ∧
              source.locked.status = .active ∧ destination.locked.status = .active) :=
            fun authorized => foreign authorized.1
          simp only [transferDecision, demand, if_neg stranger]
          rfl
        refine ⟨.app .accountUnavailable, ?_, ?_⟩
        · simp only [Program.ofExcept, Program.done_bind, refused]
          rfl
        · refine iff_of_true rfl ⟨⟨amountMinor, parsed⟩, ?_⟩
          intro different
          rw [Configuration.determined_iff]
          rcases Configuration.fx_ok _ _ _ _ fx with ⟨ordinary, _⟩ | ⟨_, rate, rule, _, one, other⟩
          · simp [Account.operation, different] at ordinary
          · exact ⟨rate, rule, one, other⟩

def Db.withoutAccount (db : Db) (id : Uuid) : Db :=
  { db with accounts := db.accounts.filter fun row => row.id ≠ id }

theorem foreign_sources_hidden_iff_euro :
    (Sample.transfer 9 "alice" "probe" 2 1 "1.00").answer .reference
        (Sample.ledger Sample.paid).reference (Sample.ledger Sample.paid).store =
      (Sample.transfer 9 "alice" "probe" 2 1 "1.00").answer .reference
        (Sample.ledger Sample.paid).reference
          ((Sample.ledger Sample.paid).store.withoutAccount (Sample.resource 32)) := by
  obtain ⟨shown, other, unused, absent, valid, parsed⟩ :
      ((Sample.ledger Sample.paid).store.account? (Sample.resource 32)).map
          (fun row => (row.ownerId, row.currency, row.currencyScale)) = some ("bob", "EUR", 2) ∧
      ((Sample.ledger Sample.paid).store.account? (Sample.resource 16)).map Account.currency =
        some "EUR" ∧
      ((Sample.ledger Sample.paid).store.idempotencyRecords.all fun row =>
        row.scope.idempotencyKey ≠ "probe") = true ∧
      ((Sample.ledger Sample.paid).store.withoutAccount (Sample.resource 32)).account?
        (Sample.resource 32) = none ∧
      validateTransferRequest .reference (Sample.header "probe")
          (some ⟨(Sample.resource 32).hyphenated, (Sample.resource 16).hyphenated, "1.00"⟩) =
        .ok ⟨⟨"probe", by decide⟩, Sample.resource 32, Sample.resource 16, "1.00"⟩ ∧
      parseMinorUnits "1.00" 2 = .ok ⟨100, by decide⟩ := by
    decide +kernel
  obtain ⟨source, present, same⟩ := Option.map_eq_some_iff.mp shown
  obtain ⟨owner, currency, scale⟩ : source.ownerId = "bob" ∧ source.currency = "EUR" ∧
      source.currencyScale = 2 := by simpa using same
  have fresh : ∀ operation,
      (Sample.ledger Sample.paid).store.record? ⟨"alice", operation, "probe"⟩ = none := by
    intro operation
    rw [Db.record?, Table.lookup_eq_none]
    intro row member clash
    have named := List.all_eq_true.mp unused row member
    simp [clash] at named
  have served := Sample.served "alice" "probe" 9 (.createTransfer (some
    ⟨(Sample.resource 32).hyphenated, (Sample.resource 16).hyphenated, "1.00"⟩)) (by decide)
      (by decide)
  refine (foreign_sources_hidden_iff Platform.reference_documented (Sample.reachable _) served rfl
    valid fresh present (by rw [owner]; decide) absent).2.2.mpr ?_
  intro destination found
  refine ⟨⟨⟨100, by decide⟩, ?_, by decide⟩, ?_⟩
  · rw [scale]
    exact parsed
  · intro different
    rw [found] at other
    exact absurd (currency.trans (Option.some.inj other).symm) different

theorem foreign_sources_hidden_probed :
    (Sample.ledger Sample.paid).Reachable .reference ∧
      ((Sample.ledger Sample.paid).store.account? (Sample.resource 32)).map Account.ownerId =
        some "bob" ∧
      ((Sample.ledger Sample.paid).store.idempotencyRecords.all fun row =>
        row.scope.idempotencyKey ≠ "probe") = true ∧
      (Sample.transfer 9 "alice" "probe" 2 1 "0.001").answer .reference Sample.configuration
          (Sample.ledger Sample.paid).store =
        .error (.validation "too_many_fractional_digits"
          "The amount has too many fractional digits for this currency") ∧
      (Sample.transfer 9 "alice" "probe" 2 1 "0.001").answer .reference Sample.configuration
          ((Sample.ledger Sample.paid).store.withoutAccount (Sample.resource 32)) =
        .error (.app .accountUnavailable) :=
  -- A tenth of a cent tells Alice that the account of Bob exists, and that it has two decimals.
  ⟨Sample.reachable _, by decide +kernel⟩

end Transfers

end LedgerService
