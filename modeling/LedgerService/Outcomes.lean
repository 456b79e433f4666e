import LedgerService.Commits

set_option autoImplicit false

namespace LedgerService

open Transaction

section Decisions

theorem transferOperation_eq_ok {preliminary : Preliminary} {operationType : OperationType} :
    transferOperation preliminary = .ok operationType ↔
      (operationType = .transfer ∧ preliminary.sourceCurrency = preliminary.destinationCurrency ∧
        preliminary.sourceScale = preliminary.destinationScale) ∨
      (operationType = .fxTransfer ∧
        preliminary.sourceCurrency ≠ preliminary.destinationCurrency) := by
  unfold transferOperation
  by_cases currencies : preliminary.sourceCurrency = preliminary.destinationCurrency
  · by_cases scales : preliminary.sourceScale = preliminary.destinationScale
    · simp [currencies, scales, eq_comm]
    · simp [currencies, scales]
  · simp [currencies, eq_comm]

theorem transferAccounts_eq_ok {clientId : String} {preliminary : Preliminary}
    {request : TransferRequest} {accounts : List LockedAccount}
    {source destination : LockedAccount} :
    transferAccounts clientId preliminary request accounts = .ok (source, destination) ↔
      accounts.length = 2 ∧
      accounts.find? (fun account => account.id = request.sourceAccountId) = some source ∧
      accounts.find? (fun account => account.id = request.destinationAccountId) =
        some destination ∧
      (source.ownerId = clientId ∧ source.status = .active ∧ destination.status = .active) ∧
      (source.currency, source.scale, destination.currency, destination.scale) =
        (preliminary.sourceCurrency, preliminary.sourceScale, preliminary.destinationCurrency,
          preliminary.destinationScale) := by
  simp only [transferAccounts, bind_eq_ok, orFailure_eq_ok, Except.ok.injEq]
  constructor
  · rintro ⟨_, two, _, first, _, second, _, authorized, _, metadata, same⟩
    cases same
    exact ⟨demand_eq_ok.mp two, first, second, demand_eq_ok.mp authorized,
      demand_eq_ok.mp metadata⟩
  · rintro ⟨two, first, second, authorized, metadata⟩
    exact ⟨(), demand_eq_ok.mpr two, source, first, destination, second, (),
      demand_eq_ok.mpr authorized, (), demand_eq_ok.mpr metadata, rfl⟩

theorem transferTerms_forward {amountMinor : I64} {fx : Option (ExchangeRate × FeeRule)}
    {source destination : LockedAccount} {terms : TransferTerms}
    (computed : transferTerms amountMinor fx source destination = .ok terms) :
    terms.kind ≠ .reversal := by
  cases fx with
  | none =>
    cases computed
    simp
  | some fx =>
    simp only [transferTerms, bind_eq_ok, Except.ok.injEq] at computed
    obtain ⟨_, _, _, _, _, _, rfl⟩ := computed
    simp

theorem transferBalances_eq_ok {terms : TransferTerms} {source destination : LockedAccount}
    {sourceBalance destinationBalance : I64}
    (balances : transferBalances terms source destination = .ok (sourceBalance, destinationBalance)) :
    terms.totalSourceDebitMinor.val ≤ source.balanceMinor.val ∧
      sourceBalance.val = source.balanceMinor.val - terms.totalSourceDebitMinor.val ∧
      destinationBalance.val =
        destination.balanceMinor.val + terms.destinationAmountMinor.val := by
  simp only [transferBalances, bind_eq_ok, orFailure_eq_ok, I64.checkedSub_eq_some,
    I64.checkedAdd_eq_some, Except.ok.injEq] at balances
  obtain ⟨_, covered, _, debited, _, credited, same⟩ := balances
  cases same
  exact ⟨Int.not_lt.mp (demand_eq_ok.mp covered), debited, credited⟩

theorem transferCreatedResponse_id {ids : NewIds} {request : TransferRequest} {amountMinor : I64}
    {terms : TransferTerms} {source destination : LockedAccount} {createdAt : String} {body : Value}
    (response : transferCreatedResponse ids request amountMinor terms source destination createdAt =
      .ok body) : body.lookup "id" = some ids.resource.hyphenated := by
  unfold transferCreatedResponse at response
  split at response
  · simp only [bind_eq_ok, Except.ok.injEq] at response
    obtain ⟨_, _, _, _, _, _, _, _, rfl⟩ := response
    rfl
  · simp only [bind_eq_ok, Except.ok.injEq] at response
    obtain ⟨_, _, rfl⟩ := response
    rfl

theorem transferCreatedResponse_shows {clientId : String} {ids : NewIds}
    {request : TransferRequest} {amountMinor : I64} {terms : TransferTerms}
    {source destination : LockedAccount} {sourceBalance destinationBalance : I64}
    {createdAt : String} {now : Timestamp} {rate : Option Numeric} {body : Value}
    (forward : terms.kind ≠ .reversal)
    (response : transferCreatedResponse ids request amountMinor terms source destination createdAt =
      .ok body) :
    ∀ field ∈ ((transferPosting clientId ids request amountMinor terms source destination
        sourceBalance destinationBalance).transfer.row now rate).reported (asU8 source.scale)
          (asU8 destination.scale), body.Shows field := by
  unfold transferCreatedResponse at response
  intro field member
  simp only [Transfer.reported, TransferValues.row, transferPosting] at member
  cases kind : terms.kind with
  | transfer =>
    simp only [kind, reduceCtorEq, if_false, bind_eq_ok, formatAmount, orFailure_eq_ok,
      Except.ok.injEq] at response
    obtain ⟨amount, shown, rfl⟩ := response
    simp only [kind, List.mem_singleton] at member
    subst member
    exact ⟨amount, shown, rfl⟩
  | fxTransfer =>
    simp only [kind, if_true, bind_eq_ok, formatAmount, orFailure_eq_ok, Except.ok.injEq]
      at response
    obtain ⟨_, sourceAmount, _, destinationAmount, _, fee, _, total, rfl⟩ := response
    simp only [kind, List.mem_cons, List.not_mem_nil, or_false] at member
    rcases member with rfl | rfl | rfl | rfl
    · exact ⟨_, sourceAmount, rfl⟩
    · exact ⟨_, destinationAmount, rfl⟩
    · exact ⟨_, fee, rfl⟩
    · exact ⟨_, total, rfl⟩
  | reversal => exact absurd kind forward

theorem reversalAccounts_eq_ok {original : OriginalTransfer} {accounts : List LockedAccount}
    {source destination : LockedAccount} :
    reversalAccounts original accounts = .ok (source, destination) ↔
      accounts.length = 2 ∧
      accounts.find? (fun account => account.id = original.destinationAccountId) = some source ∧
      accounts.find? (fun account => account.id = original.sourceAccountId) = some destination ∧
      (source.status = .active ∧ destination.status = .active) ∧
      source.currency = original.destinationCurrency ∧
      destination.currency = original.sourceCurrency := by
  simp only [reversalAccounts, bind_eq_ok, orFailure_eq_ok, Except.ok.injEq]
  constructor
  · rintro ⟨_, two, _, first, _, second, _, active, _, metadata, same⟩
    cases same
    exact ⟨demand_eq_ok.mp two, first, second, demand_eq_ok.mp active, demand_eq_ok.mp metadata⟩
  · rintro ⟨two, first, second, active, metadata⟩
    exact ⟨(), demand_eq_ok.mpr two, source, first, destination, second, (),
      demand_eq_ok.mpr active, (), demand_eq_ok.mpr metadata, rfl⟩

theorem reversalBalances_eq_ok {original : OriginalTransfer} {source destination : LockedAccount}
    {sourceBalance destinationBalance : I64}
    (balances : reversalBalances original source destination =
      .ok (sourceBalance, destinationBalance)) :
    sourceBalance.val = source.balanceMinor.val - original.destinationAmountMinor.val ∧
      destinationBalance.val =
        destination.balanceMinor.val + original.totalSourceDebitMinor.val := by
  simp only [reversalBalances, bind_eq_ok, orFailure_eq_ok, I64.checkedSub_eq_some,
    I64.checkedAdd_eq_some, Except.ok.injEq] at balances
  obtain ⟨_, debited, _, credited, same⟩ := balances
  cases same
  exact ⟨debited, credited⟩

theorem reversalCreatedResponse_id {ids : NewIds} {originalTransferId : Uuid}
    {original : OriginalTransfer} {source destination : LockedAccount}
    {sourceBalance destinationBalance : I64} {createdAt : String} {body : Value}
    (response : reversalCreatedResponse ids originalTransferId original source destination
      sourceBalance destinationBalance createdAt = .ok body) :
    body.lookup "id" = some ids.resource.hyphenated := by
  simp only [reversalCreatedResponse, bind_eq_ok, Except.ok.injEq] at response
  obtain ⟨_, _, _, _, _, _, _, _, _, _, _, _, rfl⟩ := response
  rfl

theorem reversalCreatedResponse_shows {clientId : String} {ids : NewIds} {originalTransferId : Uuid}
    {original : OriginalTransfer} {source destination : LockedAccount}
    {sourceBalance destinationBalance : I64} {createdAt : String} {now : Timestamp}
    {rate : Option Numeric} {body : Value}
    (response : reversalCreatedResponse ids originalTransferId original source destination
      sourceBalance destinationBalance createdAt = .ok body) :
    ∀ field ∈ ((reversalPosting clientId ids originalTransferId original sourceBalance
        destinationBalance).transfer.row now rate).reported (asU8 source.scale)
          (asU8 destination.scale), body.Shows field := by
  simp only [reversalCreatedResponse, bind_eq_ok, formatAmount, orFailure_eq_ok, Except.ok.injEq]
    at response
  obtain ⟨_, sourceAmount, _, destinationAmount, _, fee, _, total, _, _, _, _, rfl⟩ := response
  intro field member
  simp only [Transfer.reported, TransferValues.row, reversalPosting, List.mem_cons,
    List.not_mem_nil, or_false] at member
  rcases member with rfl | rfl | rfl | rfl
  · exact ⟨_, sourceAmount, rfl⟩
  · exact ⟨_, destinationAmount, rfl⟩
  · exact ⟨_, fee, rfl⟩
  · exact ⟨_, total, rfl⟩

theorem accountCreatedResponse_id {id : Uuid} {currency : Currency} {balanceMinor : I64}
    {body : Value} (response : accountCreatedResponse id currency balanceMinor = .ok body) :
    body.lookup "id" = some id.hyphenated := by
  simp only [accountCreatedResponse, bind_eq_ok, Except.ok.injEq] at response
  obtain ⟨_, _, rfl⟩ := response
  rfl

theorem castRate_text {rate : Option Numeric} {result : Option Numeric}
    (cast : castRate (rate.map Numeric.text) = .ok result) : result = rate := by
  cases rate with
  | none =>
    cases cast
    rfl
  | some rate =>
    simp only [Option.map_some, castRate] at cast
    split at cast
    · rename_i value read
      cases cast
      rw [Numeric.cast_text read]
    · cases cast

end Decisions

section Performed

variable {platform : Platform} {older : Configuration → Configuration → Prop} {attempt : Attempt}
  {configuration : Configuration} {db : Db} {writes final : List Write}

def performedWrites (record : IdempotencyRecord) (transfer : Transfer)
    (source destination : Account) (debit credit : Uuid) : List Write :=
  [.insertTransfer transfer, .replaceAccount source, .replaceAccount destination,
    .insertEntry (transfer.debitEntry debit), .insertEntry (transfer.creditEntry credit),
    .replaceRecord record]

theorem post_then_storeSuccess {posting : Posting} {scope : Scope} {record : IdempotencyRecord}
    {resource : Uuid} {createdAt : String} {body : Value} {between : List Write} {result : Unit}
    (reserved : ((engine platform).view db writes).record? scope = some record)
    (posted : (post posting).Commits (engine platform) older attempt configuration db writes
      createdAt between)
    (stored : (storeSuccess scope created body resource).Commits (engine platform) older attempt
      configuration db between result final) :
    ∃ rate source destination sourceVersion destinationVersion,
      posting.Finds attempt.started ((engine platform).view db writes) rate source destination
        sourceVersion destinationVersion ∧
      writes ++ (posting.writes attempt.started rate source destination sourceVersion
        destinationVersion ++ [.replaceRecord (record.complete created body resource)]) = final := by
  obtain ⟨rate, source, destination, sourceVersion, destinationVersion, finds, rfl⟩ :=
    post_commits posted
  have still : ((engine platform).view db (writes ++ posting.writes attempt.started rate source
      destination sourceVersion destinationVersion)).record? scope = some record := by
    simpa [Posting.writes] using reserved
  refine ⟨rate, source, destination, sourceVersion, destinationVersion, finds, ?_⟩
  rw [← List.append_assoc]
  exact storeSuccess_commits still stored

theorem Account.MovedBy.of_update {old : Account} {now : Timestamp} {balance version : I64}
    {amount : Int} (moved : balance.val = old.balanceMinor.val + amount)
    (next : version.val = old.version.val + 1) :
    old.MovedBy (old.update now balance version) amount :=
  ⟨⟨now, balance, version, rfl⟩, moved, next⟩

theorem performTransfer_commits
    (within : ∀ {seen configuration}, older seen configuration → seen.Within configuration)
    {ids : NewIds} {scope : Scope} {record : IdempotencyRecord} {preliminary : Preliminary}
    {request : TransferRequest} {amountMinor : I64} {reply : Reply}
    (asked : ∃ body, attempt.request = .createTransfer body)
    (operation : transferOperation preliminary = .ok scope.operationType)
    (reserved : ((engine platform).view db writes).record? scope = some record)
    (commits : (performTransfer attempt.clientId ids scope preliminary request amountMinor).Commits
      (engine platform) older attempt configuration db writes reply final) :
    ∃ transfer oldSource oldDestination source destination body,
      Performed attempt configuration ((engine platform).view db writes) transfer oldSource
        oldDestination source destination ids.debitEntry ids.creditEntry ∧
      transfer.id = ids.resource ∧ scope.operationType = transfer.kind.operationType ∧
      body.lookup "id" = some ids.resource.hyphenated ∧
      (∀ field ∈ transfer.reported (asU8 source.currencyScale) (asU8 destination.currencyScale),
        body.Shows field) ∧ reply = .ok ⟨created, body⟩ ∧
      writes ++ performedWrites (record.complete created body ids.resource) transfer source
        destination ids.debitEntry ids.creditEntry = final := by
  simp only [performTransfer, Program.bind_eq, Program.commits_bind, Program.commits_ofExcept,
    mapError_eq_ok, Program.commits_done] at commits
  obtain ⟨time, _, timed, fx, _, selected, accounts, _, locked, ⟨source, destination⟩, _,
    ⟨checked, rfl⟩, terms, _, ⟨computed, rfl⟩, ⟨sourceBalance, destinationBalance⟩, _,
    ⟨balances, rfl⟩, createdAt, _, posted, body, _, ⟨response, rfl⟩, _, _, stored, rfl, rfl⟩ := commits
  obtain ⟨rfl, rfl⟩ := commits_read timed fun _ => rfl
  obtain ⟨rfl, configured⟩ := selectFxConfiguration_commits within selected
  obtain ⟨rfl, rows⟩ := selectAccountsForUpdate_commits locked
  obtain ⟨_, sourceRow, destinationRow, authorized, metadata⟩ := transferAccounts_eq_ok.mp checked
  obtain ⟨oldSource, sourceFound, rfl⟩ := rows _ _ sourceRow
  obtain ⟨oldDestination, destinationFound, rfl⟩ := rows _ _ destinationRow
  obtain ⟨covered, debited, credited⟩ := transferBalances_eq_ok balances
  obtain ⟨rate, oldSource', oldDestination', sourceVersion, destinationVersion, finds, rfl⟩ :=
    post_then_storeSuccess reserved posted stored
  obtain rfl : oldSource = oldSource' :=
    Option.some.inj (sourceFound.symm.trans finds.sourceFound)
  obtain rfl : oldDestination = oldDestination' :=
    Option.some.inj (destinationFound.symm.trans finds.destinationFound)
  simp only [Prod.mk.injEq] at metadata
  obtain ⟨sourceCurrency, sourceScale, destinationCurrency, destinationScale⟩ := metadata
  have known : Terms attempt configuration ((engine platform).view db writes) oldSource
      oldDestination ((transferPosting attempt.clientId ids request amountMinor terms
        oldSource.locked oldDestination.locked sourceBalance destinationBalance).transfer.row
          attempt.started rate) ∧ scope.operationType = terms.kind.operationType := by
    rcases configured with ⟨ordinary, rfl⟩ | ⟨isFx, rateRow, rateMember, feeRow, feeMember, rfl,
      rateSource, rateDestination, rateValid, feeValid⟩
    · cases computed
      have none : rate = none := @castRate_text none _ finds.rate
      rcases transferOperation_eq_ok.mp operation with ⟨kind, currencies, _⟩ | ⟨kind, _⟩
      · refine ⟨.ordinary asked covered ⟨rfl, rfl, rfl, rfl, ?_, ⟨rfl, none, rfl⟩, rfl⟩, kind⟩
        exact sourceCurrency.trans (currencies.trans destinationCurrency.symm)
      · exact absurd kind ordinary
    · simp only [transferTerms, bind_eq_ok, Except.ok.injEq] at computed
      obtain ⟨fee, calculated, exact, parsed, destinationAmount, converted, rfl⟩ := computed
      have stored : rate = some rateRow.rate := @castRate_text (some rateRow.rate) _ finds.rate
      rcases transferOperation_eq_ok.mp operation with ⟨kind, _, _⟩ | ⟨kind, currencies⟩
      · rw [isFx] at kind
        cases kind
      · refine ⟨.fx asked covered ⟨rfl, ?_, ?_, ?_, rfl⟩, kind⟩
        · intro same
          exact currencies (sourceCurrency.symm.trans (same.trans destinationCurrency))
        · exact ⟨rateRow, rateMember, rfl, stored, rateSource.trans sourceCurrency.symm,
            rateDestination.trans destinationCurrency.symm, rateValid, exact, parsed, converted⟩
        · exact ⟨feeRow, feeMember, rfl, feeValid, calculated⟩
  exact ⟨_, oldSource, oldDestination, _, _, body, ⟨finds.unused, finds.debit, finds.credit,
    finds.entries, rfl, rfl, finds.distinct, finds.total, finds.destinationAmount, sourceFound,
    destinationFound, authorized.1, rfl, rfl, .of_update debited finds.sourceVersion,
    .of_update credited finds.destinationVersion, known.1⟩, rfl, known.2,
    transferCreatedResponse_id response,
    transferCreatedResponse_shows (transferTerms_forward computed) response, rfl, rfl⟩

theorem lockOriginal_commits {clientId : String} {id : Uuid} {result : OriginalTransfer}
    (commits : (lockOriginal clientId id).Commits (engine platform) older attempt configuration db
      writes result final) :
    writes = final ∧ ∃ original, ((engine platform).view db writes).transfer? id = some original ∧
      original.original = result ∧ original.kind ≠ .reversal ∧
      (((engine platform).view db writes).account? original.destinationAccountId).map
        Account.ownerId = some clientId ∧
      ((engine platform).view db writes).reversed id = false := by
  simp only [lockOriginal, Program.bind_eq, Program.commits_bind, Program.commits_orFail,
    Program.commits_ensure, Program.commits_done] at commits
  obtain ⟨_, _, locked, original, _, ⟨rfl, rfl⟩, _, _, ⟨kind, rfl⟩, _, _, owned, _, _,
    ⟨rfl, rfl⟩, _, _, tested, _, _, ⟨rfl, rfl⟩, rfl, rfl⟩ := commits
  obtain ⟨found, rfl⟩ := commits_read locked fun _ => rfl
  obtain ⟨owner, rfl⟩ := commits_read owned fun _ => rfl
  obtain ⟨first, rfl⟩ := commits_read tested fun _ => rfl
  obtain ⟨row, present, rfl⟩ := Option.map_eq_some_iff.mp found
  exact ⟨rfl, row, present, rfl, kind, owner, first⟩

theorem performReversal_commits {ids : NewIds} {scope : Scope} {record : IdempotencyRecord}
    {originalTransferId : Uuid} {reply : Reply}
    (asked : ∃ text, attempt.request = .reverseTransfer text)
    (reserved : ((engine platform).view db writes).record? scope = some record)
    (commits : (performReversal attempt.clientId ids scope originalTransferId).Commits
      (engine platform) older attempt configuration db writes reply final) :
    ∃ transfer oldSource oldDestination source destination body,
      Performed attempt configuration ((engine platform).view db writes) transfer oldSource
        oldDestination source destination ids.debitEntry ids.creditEntry ∧
      transfer.id = ids.resource ∧ transfer.kind = .reversal ∧
      body.lookup "id" = some ids.resource.hyphenated ∧
      (∀ field ∈ transfer.reported (asU8 source.currencyScale) (asU8 destination.currencyScale),
        body.Shows field) ∧ reply = .ok ⟨created, body⟩ ∧
      writes ++ performedWrites (record.complete created body ids.resource) transfer source
        destination ids.debitEntry ids.creditEntry = final := by
  simp only [performReversal, Program.bind_eq, Program.commits_bind, Program.commits_ofExcept,
    Program.commits_done] at commits
  obtain ⟨_, _, read, accounts, _, locked, ⟨source, destination⟩, _, ⟨checked, rfl⟩,
    ⟨sourceBalance, destinationBalance⟩, _, ⟨balances, rfl⟩, createdAt, _, posted, body, _,
    ⟨response, rfl⟩, _, _, stored, rfl, rfl⟩ := commits
  obtain ⟨rfl, original, found, rfl, kind, owner, first⟩ := lockOriginal_commits read
  obtain ⟨rfl, rows⟩ := selectAccountsForUpdate_commits locked
  obtain ⟨_, sourceRow, destinationRow, _, sourceCurrency, destinationCurrency⟩ :=
    reversalAccounts_eq_ok.mp checked
  obtain ⟨oldSource, sourceFound, rfl⟩ := rows _ _ sourceRow
  obtain ⟨oldDestination, destinationFound, rfl⟩ := rows _ _ destinationRow
  obtain ⟨debited, credited⟩ := reversalBalances_eq_ok balances
  obtain ⟨rate, oldSource', oldDestination', sourceVersion, destinationVersion, finds, rfl⟩ :=
    post_then_storeSuccess reserved posted stored
  obtain rfl : oldSource = oldSource' :=
    Option.some.inj (sourceFound.symm.trans finds.sourceFound)
  obtain rfl : oldDestination = oldDestination' :=
    Option.some.inj (destinationFound.symm.trans finds.destinationFound)
  have ownedBy : oldSource.ownerId = attempt.clientId := by
    rw [show ((engine platform).view db writes).account? original.destinationAccountId =
      some oldSource from sourceFound] at owner
    exact Option.some.inj owner
  have same : original.id = originalTransferId := Table.key_of_lookup found
  subst same
  let transfer := (reversalPosting attempt.clientId ids original.id original.original sourceBalance
    destinationBalance).transfer.row attempt.started rate
  have known : Reverses original transfer :=
    ⟨rfl, rfl, kind, rfl, rfl, rfl, rfl, rfl, rfl, rfl, rfl, rfl,
      @castRate_text original.exchangeRate _ finds.rate, rfl⟩
  exact ⟨transfer, oldSource, oldDestination, _, _, body, ⟨finds.unused, finds.debit, finds.credit,
    finds.entries, rfl, rfl, finds.distinct, finds.total, finds.destinationAmount, sourceFound,
    destinationFound, ownedBy, sourceCurrency, destinationCurrency,
    .of_update debited finds.sourceVersion, .of_update credited finds.destinationVersion,
    .reversal asked original found first known⟩, rfl, rfl, reversalCreatedResponse_id response,
    reversalCreatedResponse_shows response, rfl, rfl⟩

end Performed

section Handlers

variable {platform : Platform} {older : Configuration → Configuration → Prop} {attempt : Attempt}
  {configuration : Configuration} {db : Db} {writes : List Write} {reply : Reply}

theorem Performed.of_reserved {record : IdempotencyRecord} {transfer : Transfer}
    {oldSource oldDestination source destination : Account} {debit credit : Uuid}
    (performed : Performed attempt configuration (db.apply (.insertRecord record)) transfer oldSource
      oldDestination source destination debit credit) :
    Performed attempt configuration db transfer oldSource oldDestination source destination debit
      credit where
  unused := performed.unused
  debitUnused := performed.debitUnused
  creditUnused := performed.creditUnused
  entries := performed.entries
  initiator := performed.initiator
  createdAt := performed.createdAt
  distinct := performed.distinct
  total := performed.total
  destinationAmount := performed.destinationAmount
  sourceFound := performed.sourceFound
  destinationFound := performed.destinationFound
  owner := performed.owner
  sourceCurrency := performed.sourceCurrency
  destinationCurrency := performed.destinationCurrency
  sourceMoved := performed.sourceMoved
  destinationMoved := performed.destinationMoved
  terms := by
    -- A reservation changes nothing that a transfer reads.
    cases performed.terms with
    | ordinary request covered terms => exact .ordinary request covered terms
    | fx request covered terms => exact .fx request covered terms
    | reversal request original found first terms =>
      exact .reversal request original found first terms

theorem performAccountCreation_commits {id : Uuid} {scope : Scope} {request : AccountRequest}
    {record : IdempotencyRecord} {final : List Write}
    (reserved : ((engine platform).view db writes).record? scope = some record)
    (commits : (performAccountCreation attempt.clientId id scope request).Commits (engine platform)
      older attempt configuration db writes reply final) :
    ∃ account body, ((engine platform).view db writes).account? id = none ∧ account.id = id ∧
      account.ownerId = attempt.clientId ∧ account.balanceMinor = request.balanceMinor ∧
      account.version = .zero ∧
      (account.currency = request.currency.code ∧
        account.currencyScale = (request.currency.scale : Int)) ∧
      body.lookup "id" = some id.hyphenated ∧ reply = .ok ⟨created, body⟩ ∧
      writes ++ [.insertAccount account, .replaceRecord (record.complete created body id)] =
        final := by
  simp only [performAccountCreation, Program.bind_eq, Program.commits_bind,
    Program.commits_ofExcept, Program.commits_done] at commits
  obtain ⟨_, _, inserted, body, _, ⟨response, rfl⟩, _, _, stored, rfl, rfl⟩ := commits
  obtain ⟨_, more, _, ran, rfl⟩ := commits_send.mp inserted
  obtain ⟨checked, same⟩ := checked_eq_ok.mp ran
  simp only [Prod.mk.injEq, true_and] at same
  subst same
  simp only [accountChecks, firstViolation_cons, Option.isNone_iff_eq_none] at checked
  have unused := checked.2.2.2.2.1
  have still : ((engine platform).view db (writes ++ [.insertAccount
      (AccountValues.row attempt.started ⟨id, attempt.clientId, request.currency.code,
        request.currency.scale, request.balanceMinor⟩)])).record? scope = some record := by
    simpa using reserved
  have final := storeSuccess_commits still stored
  exact ⟨_, body, unused, rfl, rfl, rfl, rfl, ⟨rfl, rfl⟩, accountCreatedResponse_id response, rfl,
    by simpa using final⟩

theorem record?_reserved {now expiresAt : Timestamp} {scope : Scope} {fingerprint : String}
    (unused : db.record? scope = none) :
    ((engine platform).view db
      ([] ++ [.insertRecord (reservation now expiresAt scope fingerprint)])).record? scope =
        some (reservation now expiresAt scope fingerprint) := by
  simp [unused, reservation]

theorem Recorded.of_reservation {scope : Scope} {fingerprint : String} {expiresAt : Timestamp}
    {body : Value} {resource : Uuid}
    (identity : attempt.identity platform db = some (scope, fingerprint))
    (unused : ((engine platform).view db []).record? scope = none)
    (named : body.lookup "id" = some resource.hyphenated) :
    Recorded platform attempt db
      ((reservation attempt.started expiresAt scope fingerprint).complete created body resource)
      (.ok ⟨created, body⟩) resource :=
  ⟨identity, unused, ⟨body, rfl, rfl, named, rfl⟩, rfl⟩

theorem validateAccountRequest_nonnegative {headers : HeaderMap}
    {body : Option CreateAccountRequest} {request : AccountRequest}
    (valid : validateAccountRequest headers body = .ok request) : 0 ≤ request.balanceMinor.val := by
  simp only [validateAccountRequest, bind_eq_ok, orFailure_eq_ok, orMoneyError_eq_ok,
    Except.ok.injEq] at valid
  obtain ⟨_, _, _, _, _, _, _, parsed, rfl⟩ := valid
  exact parseInitialBalance_nonnegative parsed

theorem validateAccountRequest_listed {headers : HeaderMap} {body : Option CreateAccountRequest}
    {request : AccountRequest} (valid : validateAccountRequest headers body = .ok request) :
    request.currency ∈ currencies := by
  simp only [validateAccountRequest, bind_eq_ok, orFailure_eq_ok, Except.ok.injEq] at valid
  obtain ⟨_, _, _, _, _, found, _, _, rfl⟩ := valid
  unfold LedgerService.currency at found
  exact List.mem_of_find?_eq_some found

theorem createAccount_commits {body : Option CreateAccountRequest}
    (asked : attempt.request = .createAccount body)
    (commits : (createAccount platform attempt.clientId attempt.headers body
      attempt.ids.resource).Commits (engine platform) older attempt configuration db [] reply
        writes) :
    ∃ effect : Effect, effect.Holds platform attempt configuration db reply ∧ effect.Told attempt ∧
      effect.writes = writes := by
  simp only [createAccount, Program.bind_eq, Program.commits_bind, Program.commits_ofExcept]
    at commits
  obtain ⟨request, _, ⟨valid, rfl⟩, _, _, begun, reserved, _, reserving, rest⟩ := commits
  obtain ⟨_, rfl⟩ := commits_read begun fun _ => rfl
  obtain ⟨added, rfl, finds⟩ := reserve_commits reserving
  have identity : attempt.identity platform db =
      some (⟨attempt.clientId, .accountCreation, request.idempotencyKey.asStr⟩,
        accountCreationFingerprint platform request.currency.code request.balanceMinor) := by
    simp [Attempt.identity, asked, valid]
  cases reserved with
  | replay httpStatus responseBody =>
    obtain ⟨rfl, row, found, same, status, responded⟩ := finds
    obtain ⟨rfl, rfl⟩ := rest
    have scope : row.scope = _ := Table.key_of_lookup found
    refine ⟨.replayed, ⟨row, ?_, ?_, ?_⟩, trivial, rfl⟩
    · rw [scope]
      exact found
    · rw [identity, scope, same]
    · simp [IdempotencyRecord.answer, status, responded]
  | conflict => exact rest.elim
  | owned =>
    obtain ⟨unused, expiresAt, rfl⟩ := finds
    obtain ⟨account, responseBody, fresh, id, owner, balance, version, denominated, named, rfl,
      rfl⟩ :=
      performAccountCreation_commits (record?_reserved unused) rest
    have recorded := @Recorded.of_reservation _ _ _ _ _ expiresAt _ _ identity unused named
    rw [← id] at recorded
    have listed := validateAccountRequest_listed valid
    refine ⟨.opened _ account, ⟨⟨body, asked⟩, recorded, rfl, id ▸ fresh, owner, ?_, version⟩,
      ⟨id, request.currency, listed, denominated⟩, by rw [id]; rfl⟩
    rw [balance]
    exact validateAccountRequest_nonnegative valid

theorem holds_of_performed {scope : Scope} {fingerprint : String} {expiresAt : Timestamp}
    {transfer : Transfer} {oldSource oldDestination source destination : Account} {body : Value}
    (identity : attempt.identity platform db = some (scope, fingerprint))
    (unused : ((engine platform).view db []).record? scope = none)
    (performed : Performed attempt configuration ((engine platform).view db
      ([] ++ [.insertRecord (reservation attempt.started expiresAt scope fingerprint)])) transfer
        oldSource oldDestination source destination attempt.ids.debitEntry attempt.ids.creditEntry)
    (id : transfer.id = attempt.ids.resource)
    (operation : scope.operationType = transfer.kind.operationType)
    (named : body.lookup "id" = some attempt.ids.resource.hyphenated)
    (shown : ∀ field ∈ transfer.reported (asU8 source.currencyScale)
      (asU8 destination.currencyScale), body.Shows field) :
    ∃ effect : Effect, effect.Holds platform attempt configuration db (.ok ⟨created, body⟩) ∧
      effect.Told attempt ∧
      effect.writes = [.insertRecord (reservation attempt.started expiresAt scope fingerprint)] ++
        performedWrites ((reservation attempt.started expiresAt scope fingerprint).complete created
          body attempt.ids.resource) transfer source destination attempt.ids.debitEntry
            attempt.ids.creditEntry := by
  have recorded := @Recorded.of_reservation _ _ _ _ _ expiresAt _ _ identity unused named
  rw [← id] at recorded ⊢
  exact ⟨.posted _ transfer source destination attempt.ids.debitEntry attempt.ids.creditEntry,
    ⟨oldSource, oldDestination, recorded, operation, performed.of_reserved⟩,
    ⟨⟨id, rfl, rfl⟩, body, rfl, shown⟩, rfl⟩

theorem holds_of_replays {scope : Scope} {fingerprint : String} {success : Success}
    (identity : attempt.identity platform db = some (scope, fingerprint))
    (replays : Replays db scope fingerprint success) :
    ∃ effect : Effect, effect.Holds platform attempt configuration db (.ok success) ∧
      effect.Told attempt ∧
      effect.writes = [] := by
  obtain ⟨row, httpStatus, found, same, status, responded, converted⟩ := replays
  have scope : row.scope = scope := Table.key_of_lookup found
  refine ⟨.replayed, ⟨row, ?_, ?_, ?_⟩, trivial, rfl⟩
  · rw [scope]
    exact found
  · rw [identity, scope, same]
  · simp [IdempotencyRecord.answer, status, responded, converted, Except.map]

theorem acquireConnection_commits {result : Unit} {final : List Write}
    (commits : acquireConnection.Commits (engine platform) older attempt configuration db writes
      result final) : writes = final := by
  simp only [acquireConnection, Program.bind_eq, Program.commits_bind] at commits
  obtain ⟨_, _, asked, rest⟩ := commits
  obtain ⟨_, _, more, _, ran, rfl, rfl⟩ := commits_ask.mp asked
  simp only [Statement.exec, Except.ok.injEq, Prod.mk.injEq] at ran
  obtain ⟨_, rfl⟩ := ran
  simpa using rest

theorem createTransfer_commits
    (within : ∀ {seen configuration}, older seen configuration → seen.Within configuration)
    {body : Option CreateTransferRequest} (asked : attempt.request = .createTransfer body)
    (commits : (createTransfer platform attempt.clientId attempt.headers body attempt.ids).Commits
      (engine platform) older attempt configuration db [] reply writes) :
    ∃ effect : Effect, effect.Holds platform attempt configuration db reply ∧ effect.Told attempt ∧
      effect.writes = writes := by
  simp only [createTransfer, Program.bind_eq, Program.commits_bind, Program.commits_ofExcept,
    Program.commits_orFail, Program.commits_emit] at commits
  obtain ⟨request, _, ⟨valid, rfl⟩, _, _, acquired, _, _, begun, _, _, read, preliminary, _,
    ⟨rfl, rfl⟩, operationType, _, ⟨operation, rfl⟩, _, _, rfl, amountMinor, _, ⟨amount, rfl⟩,
    replay, _, replaying, rest⟩ := commits
  obtain rfl := acquireConnection_commits acquired
  obtain ⟨_, rfl⟩ := commits_read begun fun _ => rfl
  obtain ⟨found, rfl⟩ := commits_read read fun _ => rfl
  have identity : attempt.identity platform db =
      some (⟨attempt.clientId, operationType, request.idempotencyKey.asStr⟩,
        transferFingerprint platform request.sourceAccountId request.destinationAccountId
          preliminary.sourceCurrency amountMinor) := by
    rw [Engine.view_nil] at found
    simp [Attempt.identity, asked, valid, found, operation, amount]
  rcases replayOrReserve_commits replaying with
    ⟨success, rfl, rfl, replays⟩ | ⟨rfl, unused, expiresAt, rfl⟩
  · obtain ⟨rfl, rfl⟩ := rest
    exact holds_of_replays identity replays
  · obtain ⟨transfer, oldSource, oldDestination, source, destination, responseBody, performed, id,
      kind, named, shown, rfl, rfl⟩ :=
        performTransfer_commits within ⟨body, asked⟩ operation (record?_reserved unused) rest
    exact holds_of_performed identity unused performed id kind named shown

theorem beginReversal_commits {result : Unit} {final : List Write}
    (commits : beginReversal.Commits (engine platform) older attempt configuration db writes
      result final) : writes = final := by
  simp only [beginReversal, Program.bind_eq, Program.commits_bind] at commits
  obtain ⟨_, _, asked, rest⟩ := commits
  obtain ⟨_, _, more, _, ran, rfl, rfl⟩ := commits_ask.mp asked
  simp only [Statement.exec, Except.ok.injEq, Prod.mk.injEq] at ran
  obtain ⟨_, rfl⟩ := ran
  simpa using rest

theorem reverseTransfer_commits {transferId : String}
    (asked : attempt.request = .reverseTransfer transferId)
    (commits : (reverseTransfer platform attempt.clientId attempt.headers transferId
      attempt.ids).Commits (engine platform) older attempt configuration db [] reply writes) :
    ∃ effect : Effect, effect.Holds platform attempt configuration db reply ∧ effect.Told attempt ∧
      effect.writes = writes := by
  simp only [reverseTransfer, Program.bind_eq, Program.commits_bind, Program.commits_ofExcept,
    Program.commits_emit] at commits
  obtain ⟨request, _, ⟨valid, rfl⟩, _, _, begun, _, _, rfl, replay, _, replaying, rest⟩ := commits
  obtain rfl := beginReversal_commits begun
  have identity : attempt.identity platform db =
      some (⟨attempt.clientId, .reversal, request.idempotencyKey.asStr⟩,
        reversalFingerprint platform request.originalTransferId) := by
    simp [Attempt.identity, asked, valid]
  rcases replayOrReserve_commits replaying with
    ⟨success, rfl, rfl, replays⟩ | ⟨rfl, unused, expiresAt, rfl⟩
  · obtain ⟨rfl, rfl⟩ := rest
    exact holds_of_replays identity replays
  · obtain ⟨transfer, oldSource, oldDestination, source, destination, responseBody, performed, id,
      kind, named, shown, rfl, rfl⟩ :=
        performReversal_commits ⟨transferId, asked⟩ (record?_reserved unused) rest
    exact holds_of_performed identity unused performed id (by rw [kind]; rfl) named shown

theorem handle_commits_told
    (within : ∀ {seen configuration}, older seen configuration → seen.Within configuration)
    (commits : (handle platform attempt).Commits (engine platform) older attempt configuration db []
      reply writes) :
    ∃ effect : Effect, effect.Holds platform attempt configuration db reply ∧ effect.Told attempt ∧
      effect.writes = writes := by
  unfold handle at commits
  split at commits
  · rename_i body asked
    exact createAccount_commits asked commits
  · rename_i body asked
    exact createTransfer_commits within asked commits
  · rename_i transferId asked
    exact reverseTransfer_commits asked commits

theorem handle_commits
    (within : ∀ {seen configuration}, older seen configuration → seen.Within configuration)
    (commits : (handle platform attempt).Commits (engine platform) older attempt configuration db []
      reply writes) :
    ∃ effect : Effect, effect.Holds platform attempt configuration db reply ∧
      effect.writes = writes := by
  obtain ⟨effect, holds, _, same⟩ := handle_commits_told within commits
  exact ⟨effect, holds, same⟩

end Handlers

end LedgerService
