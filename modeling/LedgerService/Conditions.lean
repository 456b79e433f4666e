import LedgerService.Acceptance
import LedgerService.Idempotence
import LedgerService.Serializability

set_option autoImplicit false

namespace LedgerService

open Transaction Literals

/-- What a transfer comes to, and the rate it was converted at. -/
structure Price where
  kind : TransferKind
  credited : I64
  fee : I64
  total : I64
  feeBps : Option Int
  rate : Option ExchangeRateRow

/-- An amount stays as it is within a currency; across currencies one rate and one rule decide. -/
inductive Priced (configuration : Configuration) (source destination : Account) (time : Timestamp)
    (amountMinor : I64) : Price → Prop
  | ordinary (same : source.currency = destination.currency) :
      Priced configuration source destination time amountMinor
        ⟨.transfer, amountMinor, .zero, amountMinor, none, none⟩
  | fx {rate : ExchangeRateRow} {rule : FeeRuleRow} {fee : FeeCalculation} {exact : ExactRate}
      {credited : I64} (different : source.currency ≠ destination.currency)
      (rates : configuration.exchangeRateRows source.currency destination.currency time = [rate])
      (rules : configuration.pairFeeRows source.currency destination.currency time = [rule] ∨
        configuration.pairFeeRows source.currency destination.currency time = [] ∧
          configuration.defaultFeeRows time = [rule])
      (charged : calculateFee amountMinor rule.feeBps = .ok fee)
      (parsed : ExactRate.parse rate.rate.text = .ok exact)
      (converted : calculateDestination amountMinor (asU8 source.currencyScale)
        (asU8 destination.currencyScale) exact = .ok credited) :
      Priced configuration source destination time amountMinor
        ⟨.fxTransfer, credited, fee.feeMinor, fee.totalSourceDebitMinor, some rule.feeBps, some rate⟩

def Price.terms (price : Price) : TransferTerms where
  kind := price.kind
  destinationAmountMinor := price.credited
  feeAmountMinor := price.fee
  totalSourceDebitMinor := price.total
  feeBps := price.feeBps
  exchangeRate := price.rate.map fun row => row.rate.text
  exchangeRateId := price.rate.map ExchangeRateRow.id

def Price.transfer (price : Price) (attempt : Attempt) (request : TransferRequest)
    (source destination : Account) (amountMinor : I64) : Transfer where
  id := attempt.ids.resource
  sourceAccountId := request.sourceAccountId
  destinationAccountId := request.destinationAccountId
  sourceCurrency := source.currency
  destinationCurrency := destination.currency
  sourceAmountMinor := amountMinor
  destinationAmountMinor := price.credited
  feeAmountMinor := price.fee
  totalSourceDebitMinor := price.total
  feeBps := price.feeBps
  exchangeRate := price.rate.map ExchangeRateRow.rate
  exchangeRateId := price.rate.map ExchangeRateRow.id
  kind := price.kind
  reversesTransferId := none
  initiatedBy := attempt.clientId
  createdAt := attempt.started

/-- Everything a transfer needs. -/
structure Payable (attempt : Attempt) (configuration : Configuration) (db : Db)
    (request : TransferRequest) (source destination : Account) (amountMinor : I64) (price : Price) :
    Prop where
  sourceFound : db.account? request.sourceAccountId = some source
  destinationFound : db.account? request.destinationAccountId = some destination
  active : source.status = .active ∧ destination.status = .active
  owner : source.ownerId = attempt.clientId
  amount : ∃ literal : Literal, request.amount.toList = literal.chars ∧
    literal.fractional.length ≤ asU8 source.currencyScale ∧
    (amountMinor.val : Rat) = literal.value * 10 ^ asU8 source.currencyScale
  positive : 0 < amountMinor.val
  priced : Priced configuration source destination attempt.started amountMinor price
  covered : price.total.val ≤ source.balanceMinor.val
  bounded : destination.balanceMinor.val + price.credited.val ≤ I64.max

section Prices

variable {configuration : Configuration} {source destination : Account} {time : Timestamp}
  {amountMinor : I64} {price : Price}

theorem Priced.terms (priced : Priced configuration source destination time amountMinor price) :
    ∃ fx, configuration.fx source.currency destination.currency time (source.operation destination) =
        .ok fx ∧ transferTerms amountMinor fx source.locked destination.locked = .ok price.terms := by
  cases priced with
  | ordinary same =>
    refine ⟨none, ?_, rfl⟩
    simp [Configuration.fx, Account.operation, same]
  | @fx rate rule fee exact credited different rates rules charged parsed converted =>
    have selected := (configuration.rate_eq_ok source.currency destination.currency time).mpr
      ⟨rate, rates, rfl⟩
    have applicable := (configuration.feeRule_eq_ok source.currency destination.currency time).mpr
      ⟨rule, rfl, rules⟩
    refine ⟨some (rate.select, rule.select), ?_, ?_⟩
    · simp only [Configuration.fx, Account.operation, if_neg different, if_true, selected, applicable]
      rfl
    · simp only [transferTerms, ExchangeRateRow.select, FeeRuleRow.select, charged, parsed]
      simp only [Bind.bind, Except.bind, Account.locked, converted]
      rfl

theorem Priced.of_terms {fx : Option (ExchangeRate × FeeRule)} {terms : TransferTerms}
    (selected : configuration.fx source.currency destination.currency time
      (source.operation destination) = .ok fx)
    (computed : transferTerms amountMinor fx source.locked destination.locked = .ok terms) :
    ∃ price, Priced configuration source destination time amountMinor price ∧
      price.terms = terms := by
  rcases Configuration.fx_ok _ _ _ _ selected with
    ⟨isOrdinary, rfl⟩ | ⟨isFx, rate, rule, rfl, one, other⟩
  · have same : source.currency = destination.currency := by
      by_contra different
      exact isOrdinary (if_neg different)
    cases computed
    exact ⟨_, .ordinary same, rfl⟩
  · have different : source.currency ≠ destination.currency := by
      intro same
      simp [Account.operation, same] at isFx
    obtain ⟨row, rates, rfl⟩ := (configuration.rate_eq_ok _ _ _).mp one
    obtain ⟨feeRow, rfl, rules⟩ := (configuration.feeRule_eq_ok _ _ _).mp other
    simp only [transferTerms, bind_eq_ok, Except.ok.injEq] at computed
    obtain ⟨fee, charged, exact, parsed, credited, converted, rfl⟩ := computed
    exact ⟨_, .fx different rates rules charged parsed converted, rfl⟩

theorem Priced.castRate (valid : configuration.Valid)
    (priced : Priced configuration source destination time amountMinor price) :
    castRate price.terms.exchangeRate = .ok (price.rate.map ExchangeRateRow.rate) := by
  cases priced with
  | ordinary same => rfl
  | fx different rates =>
    have member := List.mem_of_mem_filter (rates ▸ List.mem_cons_self)
    obtain ⟨coefficient, finite, least, most⟩ := valid.rates _ member
    simp only [Price.terms, Option.map_some, finite]
    exact castRate_finite least most

theorem Configuration.Offers.of_fx {operationType : OperationType}
    {fx : Option (ExchangeRate × FeeRule)}
    (selected : configuration.fx source.currency destination.currency time operationType = .ok fx) :
    configuration.Offers fx := by
  rintro rate fee rfl
  rcases Configuration.fx_ok _ _ _ _ selected with ⟨_, impossible⟩ | ⟨_, _, _, same, one, other⟩
  · cases impossible
  · cases same
    obtain ⟨row, rates, read⟩ := (configuration.rate_eq_ok _ _ _).mp one
    obtain ⟨rule, charges, rules⟩ := (configuration.feeRule_eq_ok _ _ _).mp other
    refine ⟨⟨row, List.mem_of_mem_filter (rates ▸ List.mem_cons_self), read⟩, rule, ?_, charges⟩
    rcases rules with pair | ⟨_, default⟩
    · exact List.mem_of_mem_filter (pair ▸ List.mem_cons_self)
    · exact List.mem_of_mem_filter (default ▸ List.mem_cons_self)

theorem Priced.acceptable (valid : configuration.Valid) (positive : 0 < amountMinor.val)
    (priced : Priced configuration source destination time amountMinor price) :
    price.terms.Acceptable configuration := by
  obtain ⟨fx, selected, computed⟩ := priced.terms
  exact transferTerms_acceptable valid (.of_fx selected) positive computed

end Prices

section Decision

variable {configuration : Configuration} {source destination : Account} {amountMinor : I64}
  {clientId : String} {fx : Option (ExchangeRate × FeeRule)} {terms : TransferTerms}
  {sourceBalance destinationBalance : I64}

theorem transferDecision_eq_ok :
    transferDecision clientId amountMinor fx source.locked destination.locked =
        .ok (terms, sourceBalance, destinationBalance) ↔
      (source.ownerId = clientId ∧ source.status = .active ∧ destination.status = .active) ∧
      transferTerms amountMinor fx source.locked destination.locked = .ok terms ∧
      terms.totalSourceDebitMinor.val ≤ source.balanceMinor.val ∧
      sourceBalance.val = source.balanceMinor.val - terms.totalSourceDebitMinor.val ∧
      destinationBalance.val = destination.balanceMinor.val + terms.destinationAmountMinor.val := by
  simp only [transferDecision, bind_eq_ok, mapError_eq_ok, Except.ok.injEq, Prod.mk.injEq]
  constructor
  · rintro ⟨_, authorized, computed, same, balances, moved, rfl, rfl⟩
    obtain ⟨covered, left, right⟩ := transferBalances_eq_ok moved
    exact ⟨demand_eq_ok.mp authorized, same, covered, left, right⟩
  · rintro ⟨authorized, computed, covered, left, right⟩
    refine ⟨(), demand_eq_ok.mpr authorized, terms, computed, _, ?_, rfl, rfl⟩
    have debited := I64.checkedSub_eq_some.mpr left
    have credited := I64.checkedAdd_eq_some.mpr right
    exact bind_eq_ok.mpr ⟨(), demand_eq_ok.mpr (Int.not_lt.mpr covered), bind_eq_ok.mpr
      ⟨sourceBalance, orFailure_eq_ok.mpr debited, bind_eq_ok.mpr
        ⟨destinationBalance, orFailure_eq_ok.mpr credited, rfl⟩⟩⟩

end Decision

section Record

variable {platform : Platform} {attempt : Attempt} {configuration : Configuration} {db : Db}
  {request : TransferRequest} {source destination : Account} {amountMinor : I64}
  {sourceBalance destinationBalance sourceVersion destinationVersion : I64}

theorem transferPosting_fits (fresh : attempt.Fresh db)
    (sourceFound : db.account? request.sourceAccountId = some source)
    (destinationFound : db.account? request.destinationAccountId = some destination)
    (sourceRoom : source.version.val < I64.max) (destinationRoom : destination.version.val < I64.max)
    {terms : TransferTerms} (acceptable : terms.Acceptable configuration)
    {locked locked' : LockedAccount} :
    (transferPosting attempt.clientId attempt.ids request amountMinor terms locked locked'
      sourceBalance destinationBalance).Fits configuration db source destination where
  transfer := ⟨fresh.transfer, sourceFound, destinationFound,
    fun _ reverses => absurd reverses (Option.some_ne_none _).symm, acceptable.rateId⟩
  debit := fresh.debit
  credit := fresh.credit
  sourceRoom := sourceRoom
  destinationRoom := destinationRoom

def transferWrites (attempt : Attempt) (transfer : Transfer) (source destination : Account)
    (record : IdempotencyRecord) (body : Value) : List Write :=
  [.insertRecord record, .insertTransfer transfer, .replaceAccount source,
    .replaceAccount destination, .insertEntry (transfer.debitEntry attempt.ids.debitEntry),
    .insertEntry (transfer.creditEntry attempt.ids.creditEntry),
    .replaceRecord (record.complete created body attempt.ids.resource)]

theorem recordTransfer_finish {scope : Scope} {record : IdempotencyRecord} {price : Price}
    (served : attempt.Served platform) (valid : configuration.Valid) (fresh : attempt.Fresh db)
    (distinct : request.sourceAccountId ≠ request.destinationAccountId)
    (payable : Payable attempt configuration db request source destination amountMinor price)
    (sourceListed : source.Listed) (destinationListed : destination.Listed)
    (sourceNext : sourceVersion.val = source.version.val + 1)
    (destinationNext : destinationVersion.val = destination.version.val + 1)
    (unused : db.record? scope = none) (named : record.scope = scope)
    (checked : firstViolation (recordChecks platform record) = .ok ()) :
    ∃ body, transferCreatedResponse attempt.ids request amountMinor price.terms source.locked
        destination.locked (platform.timestampText attempt.started) = .ok body ∧
      (recordTransfer attempt.clientId attempt.ids scope request amountMinor source.locked
        destination.locked (price.terms, sourceBalance, destinationBalance)).finish (engine platform)
          attempt configuration db [.insertRecord record] =
        .ok (.ok ⟨created, body⟩, transferWrites attempt
          (price.transfer attempt request source destination amountMinor)
          (source.update attempt.started sourceBalance sourceVersion)
          (destination.update attempt.started destinationBalance destinationVersion) record body) := by
  have acceptable := payable.priced.acceptable valid payable.positive
  have proper := @transferPosting_proper _ _ _ _ _ _ _ source.locked destination.locked
    sourceBalance destinationBalance acceptable payable.positive served.client distinct
    fresh.entries sourceListed.code destinationListed.code
  have sourceBounds := sourceVersion.bounds
  have destinationBounds := destinationVersion.bounds
  have fits := @transferPosting_fits _ _ _ _ _ _ amountMinor sourceBalance destinationBalance
    fresh payable.sourceFound payable.destinationFound (by omega) (by omega) _ acceptable
    source.locked destination.locked
  have posted := @post_finish _ _ _ _ _ _ attempt record proper fits _
    (payable.priced.castRate valid) _ _ sourceNext destinationNext
  obtain ⟨body, responded⟩ := @transferCreatedResponse_ok attempt.ids
    (platform.timestampText attempt.started) request amountMinor price.terms source.locked
    destination.locked sourceListed.scale.2.2 destinationListed.scale.2.2
  refine ⟨body, responded, ?_⟩
  simp only [recordTransfer, Program.bind_eq]
  rw [Program.finish_bind_ok posted, Program.finish_bind]
  have reserved : ((engine platform).view db (.insertRecord record :: (transferPosting
      attempt.clientId attempt.ids request amountMinor price.terms source.locked destination.locked
      sourceBalance destinationBalance).writes attempt.started
        (price.rate.map ExchangeRateRow.rate) source destination sourceVersion
          destinationVersion)).record? scope = some record := by
    simp [Posting.writes, unused, named]
  rw [responded, Program.finish_ofExcept]
  simp only [Except.map]
  rw [Program.finish_bind_ok (storeSuccess_finish reserved checked)]
  rfl

end Record

section Answer

variable {platform : Platform} {attempt : Attempt} {configuration : Configuration} {db : Db}
  {body : Option CreateTransferRequest} {request : TransferRequest}

def Attempt.Unused (attempt : Attempt) (request : TransferRequest) (db : Db) : Prop :=
  ∀ source destination, db.account? request.sourceAccountId = some source →
    db.account? request.destinationAccountId = some destination →
    db.record? ⟨attempt.clientId, source.operation destination, request.idempotencyKey.asStr⟩ = none

def Attempt.reserved (platform : Platform) (attempt : Attempt) (request : TransferRequest)
    (source destination : Account) (amountMinor : I64) (expiresAt : Timestamp) :
    IdempotencyRecord :=
  reservation attempt.started expiresAt
    ⟨attempt.clientId, source.operation destination, request.idempotencyKey.asStr⟩
    (transferFingerprint platform request.sourceAccountId request.destinationAccountId
      source.currency amountMinor)

theorem transferAmount_denotes {source destination : Account} (listed : source.Listed)
    {amount : String} {amountMinor : I64} :
    transferAmount (source.preliminary destination) amount = .ok amountMinor ↔
      (∃ literal : Literal, amount.toList = literal.chars ∧
        literal.fractional.length ≤ asU8 source.currencyScale ∧
        (amountMinor.val : Rat) = literal.value * 10 ^ asU8 source.currencyScale) ∧
      0 < amountMinor.val := by
  rw [transferAmount_eq_ok listed, parseMinorUnits_eq_ok listed.scale.2.2]

theorem Payable.of_answer (documented : platform.Documented) (served : attempt.Served platform)
    (asked : attempt.request = .createTransfer body)
    (wellFormed : validateTransferRequest platform attempt.headers body = .ok request)
    (listed : ∀ id account, db.account? id = some account → account.Listed)
    (unused : attempt.Unused request db) {result : Reply × List Write}
    (answered : attempt.answer platform configuration db = .ok result) :
    ∃ source destination amountMinor price,
      Payable attempt configuration db request source destination amountMinor price := by
  cases sourceFound : db.account? request.sourceAccountId with
  | none =>
    rw [createTransfer_answer_unknown asked wellFormed
      (Db.preliminary_missing (.inl sourceFound))] at answered
    cases answered
  | some source =>
  cases destinationFound : db.account? request.destinationAccountId with
  | none =>
    rw [createTransfer_answer_unknown asked wellFormed
      (Db.preliminary_missing (.inr destinationFound))] at answered
    cases answered
  | some destination =>
  have sourceListed := listed _ _ sourceFound
  have destinationListed := listed _ _ destinationFound
  have operation := transferOperation_listed sourceListed destinationListed
  cases amount : transferAmount (source.preliminary destination) request.amount with
  | error failure =>
    rw [createTransfer_answer_rejected asked wellFormed
      (Db.preliminary_found sourceFound destinationFound) operation amount] at answered
    cases answered
  | ok amountMinor =>
    obtain ⟨expiresAt, _, decided⟩ := @createTransfer_decided _ _ configuration _ _ _ _ _
      documented served asked wellFormed sourceFound destinationFound sourceListed
      destinationListed _ amount _ rfl (unused source destination sourceFound destinationFound)
    rw [decided] at answered
    cases selected : configuration.fx source.currency destination.currency attempt.started
        (source.operation destination) with
    | error failure =>
      rw [selected] at answered
      cases answered
    | ok fx =>
    rw [selected, Program.ofExcept, Program.done_bind] at answered
    cases decision : transferDecision attempt.clientId amountMinor fx source.locked
        destination.locked with
    | error failure =>
      rw [decision] at answered
      cases answered
    | ok outcome =>
      obtain ⟨terms, sourceBalance, destinationBalance⟩ := outcome
      obtain ⟨⟨owner, active⟩, computed, covered, _, right⟩ := transferDecision_eq_ok.mp decision
      obtain ⟨price, priced, rfl⟩ := Priced.of_terms selected computed
      obtain ⟨denotes, positive⟩ := (transferAmount_denotes sourceListed).mp amount
      have bounds := destinationBalance.bounds
      exact ⟨source, destination, amountMinor, price, sourceFound, destinationFound, active, owner,
        denotes, positive, priced, covered, right ▸ bounds.2⟩

theorem Payable.answer (documented : platform.Documented) (served : attempt.Served platform)
    (asked : attempt.request = .createTransfer body)
    (wellFormed : validateTransferRequest platform attempt.headers body = .ok request)
    (listed : ∀ id account, db.account? id = some account → account.Listed)
    (unused : attempt.Unused request db) (valid : configuration.Valid) (fresh : attempt.Fresh db)
    (room : ∀ account ∈ db.accounts, account.version.val < I64.max)
    {source destination : Account} {amountMinor : I64} {price : Price}
    (payable : Payable attempt configuration db request source destination amountMinor price) :
    ∃ sourceBalance destinationBalance sourceVersion destinationVersion expiresAt answer,
      sourceBalance.val = source.balanceMinor.val - price.total.val ∧
      destinationBalance.val = destination.balanceMinor.val + price.credited.val ∧
      sourceVersion.val = source.version.val + 1 ∧
      destinationVersion.val = destination.version.val + 1 ∧
      transferCreatedResponse attempt.ids request amountMinor price.terms source.locked
        destination.locked (platform.timestampText attempt.started) = .ok answer ∧
      attempt.answer platform configuration db =
        .ok (.ok ⟨created, answer⟩, transferWrites attempt
          (price.transfer attempt request source destination amountMinor)
          (source.update attempt.started sourceBalance sourceVersion)
          (destination.update attempt.started destinationBalance destinationVersion)
          (attempt.reserved platform request source destination amountMinor expiresAt) answer) := by
  have sourceListed := listed _ _ payable.sourceFound
  have destinationListed := listed _ _ payable.destinationFound
  have amount := (@transferAmount_denotes _ destination sourceListed).mpr
    ⟨payable.amount, payable.positive⟩
  have fresh_key := unused source destination payable.sourceFound payable.destinationFound
  obtain ⟨expiresAt, checked, decided⟩ := @createTransfer_decided _ _ configuration _ _ _ _ _
    documented served asked wellFormed payable.sourceFound payable.destinationFound sourceListed
    destinationListed _ amount _ rfl fresh_key
  obtain ⟨fx, selected, computed⟩ := payable.priced.terms
  obtain ⟨sourceVersion, sourceNext⟩ :=
    Account.next_version (room source (Table.mem_of_lookup payable.sourceFound))
  obtain ⟨destinationVersion, destinationNext⟩ :=
    Account.next_version (room destination (Table.mem_of_lookup payable.destinationFound))
  have acceptable := payable.priced.acceptable valid payable.positive
  have total : 0 < price.total.val := acceptable.total
  have credited : 0 < price.credited.val := acceptable.destinationAmount
  have sourceBounds := source.balanceMinor.bounds
  have destinationBounds := destination.balanceMinor.bounds
  have least : I64.min ≤ 0 := by decide
  -- The source is covered, so its balance stays in range; the other one is bounded.
  have covered := payable.covered
  have bounded := payable.bounded
  obtain ⟨sourceBalance, left⟩ : ∃ balance : I64,
      balance.val = source.balanceMinor.val - price.total.val := ⟨⟨_, by omega, by omega⟩, rfl⟩
  obtain ⟨destinationBalance, right⟩ : ∃ balance : I64,
      balance.val = destination.balanceMinor.val + price.credited.val :=
    ⟨⟨_, by omega, by omega⟩, rfl⟩
  have decision := transferDecision_eq_ok.mpr
    ⟨⟨payable.owner, payable.active⟩, computed, covered, left, right⟩
  obtain ⟨answer, responded, recorded⟩ := @recordTransfer_finish _ _ _ _ _ _ _ _ sourceBalance
    destinationBalance _ _ _ _ _ served valid fresh (validateTransferRequest_distinct wellFormed)
    payable sourceListed destinationListed sourceNext destinationNext fresh_key rfl checked
  refine ⟨sourceBalance, destinationBalance, sourceVersion, destinationVersion, expiresAt, answer,
    left, right, sourceNext, destinationNext, responded, ?_⟩
  rw [decided, selected, Program.ofExcept, Program.done_bind, decision]
  exact recorded

theorem view_transferWrites {transfer : Transfer} {source destination : Account}
    {record : IdempotencyRecord} {answer : Value} (unused : db.record? record.scope = none) :
    (engine platform).view db (transferWrites attempt transfer source destination record answer) =
      { accounts :=
          Table.replace Account.id (Table.replace Account.id db.accounts source) destination
        transfers := db.transfers ++ [transfer]
        accountEntries := db.accountEntries ++
          [transfer.debitEntry attempt.ids.debitEntry, transfer.creditEntry attempt.ids.creditEntry]
        idempotencyRecords := db.idempotencyRecords ++
          [record.complete created answer attempt.ids.resource] } := by
  have records : Table.replace IdempotencyRecord.scope (db.idempotencyRecords ++ [record])
      (record.complete created answer attempt.ids.resource) =
        db.idempotencyRecords ++ [record.complete created answer attempt.ids.resource] :=
    Table.replace_append unused rfl
  simp [transferWrites, Db.apply, records]

end Answer

/-- Alone, a transfer request commits a new transfer exactly where its transfer is payable.  It then
changes the two balances, with the versions and times of their rows, and adds the transfer, its two
entries and the completed record. -/
theorem create_transfer_commits_exactly {platform : Platform} {ledger : Ledger} {attempt : Attempt}
    {body : Option CreateTransferRequest} {request : TransferRequest}
    (documented : platform.Documented) (reachable : ledger.Reachable platform)
    (valid : ledger.reference.Valid) (served : attempt.Served platform)
    (asked : attempt.request = .createTransfer body)
    (wellFormed : validateTransferRequest platform attempt.headers body = .ok request)
    (unused : attempt.Unused request ledger.store) (fresh : attempt.Fresh ledger.store)
    (room : ∀ account ∈ ledger.store.accounts, account.version.val < I64.max) :
    ((∃ reply writes transfer, .insertTransfer transfer ∈ writes ∧
        attempt.answer platform ledger.reference ledger.store = .ok (reply, writes)) ↔
      ∃ source destination amountMinor price, Payable attempt ledger.reference ledger.store request
        source destination amountMinor price) ∧
    ∀ reply writes, attempt.answer platform ledger.reference ledger.store = .ok (reply, writes) →
      ∃ source destination amountMinor price, Payable attempt ledger.reference ledger.store request
        source destination amountMinor price ∧
      ∃ sourceBalance destinationBalance sourceVersion destinationVersion expiresAt answer,
        sourceBalance.val = source.balanceMinor.val - price.total.val ∧
        destinationBalance.val = destination.balanceMinor.val + price.credited.val ∧
        sourceVersion.val = source.version.val + 1 ∧
        destinationVersion.val = destination.version.val + 1 ∧
        transferCreatedResponse attempt.ids request amountMinor price.terms source.locked
          destination.locked (platform.timestampText attempt.started) = .ok answer ∧
        reply = .ok ⟨created, answer⟩ ∧
        let transfer := price.transfer attempt request source destination amountMinor
        let record := attempt.reserved platform request source destination amountMinor expiresAt
        (engine platform).view ledger.store writes =
          { accounts := Table.replace Account.id (Table.replace Account.id ledger.store.accounts
              (source.update attempt.started sourceBalance sourceVersion))
                (destination.update attempt.started destinationBalance destinationVersion)
            transfers := ledger.store.transfers ++ [transfer]
            accountEntries := ledger.store.accountEntries ++
              [transfer.debitEntry attempt.ids.debitEntry,
                transfer.creditEntry attempt.ids.creditEntry]
            idempotencyRecords := ledger.store.idempotencyRecords ++
              [record.complete created answer attempt.ids.resource] } := by
  have listed : ∀ id account, ledger.store.account? id = some account → account.Listed :=
    fun _ _ found => reachable.listed found
  have made := fun source destination amountMinor price => @Payable.answer _ _ _ _ _ _ documented
    served asked wellFormed listed unused valid fresh room source destination amountMinor price
  refine ⟨⟨?_, ?_⟩, ?_⟩
  · rintro ⟨reply, writes, _, _, answered⟩
    exact Payable.of_answer documented served asked wellFormed listed unused answered
  · rintro ⟨source, destination, amountMinor, price, payable⟩
    obtain ⟨_, _, _, _, _, _, _, _, _, _, _, answered⟩ := made _ _ _ _ payable
    exact ⟨_, _, _, List.mem_cons_of_mem _ List.mem_cons_self, answered⟩
  · intro reply writes answered
    obtain ⟨source, destination, amountMinor, price, payable⟩ :=
      Payable.of_answer documented served asked wellFormed listed unused answered
    obtain ⟨sourceBalance, destinationBalance, sourceVersion, destinationVersion, expiresAt, answer,
      left, right, sourceNext, destinationNext, responded, recorded⟩ := made _ _ _ _ payable
    obtain ⟨rfl, rfl⟩ := Prod.mk.inj (Except.ok.inj (answered.symm.trans recorded))
    exact ⟨source, destination, amountMinor, price, payable, sourceBalance, destinationBalance,
      sourceVersion, destinationVersion, expiresAt, answer, left, right, sourceNext,
      destinationNext, responded, rfl, view_transferWrites (unused source destination
        payable.sourceFound payable.destinationFound)⟩

theorem Sample.configuration_valid : Sample.configuration.Valid where
  rates := by
    intro row member
    obtain rfl := List.mem_singleton.mp member
    exact ⟨160250000000000, rfl, by decide, by decide⟩
  fees := by
    intro row member
    obtain rfl := List.mem_singleton.mp member
    decide

theorem ok_of_toOption {ε α : Type} {outcome : Except ε α} {found : α}
    (answered : outcome.toOption = some found) : outcome = .ok found := by
  cases outcome with
  | ok value => exact congrArg _ (Option.some.inj answered)
  | error failed => cases answered

theorem create_transfer_commits_exactly_yen :
    ∃ source destination amountMinor price, Payable (Sample.transfer 5 "alice" "pay" 1 3 "10.00")
      (Sample.ledger (Sample.exchanged.take 2)).reference
      (Sample.ledger (Sample.exchanged.take 2)).store
      ⟨⟨"pay", by decide⟩, Sample.resource 16, Sample.resource 48, "10.00"⟩ source destination
      amountMinor price := by
  obtain ⟨reference, unused, resource, transfer, debit, credit, room, wellFormed, inserted⟩ :
      (Sample.ledger (Sample.exchanged.take 2)).reference = Sample.configuration ∧
      ((Sample.ledger (Sample.exchanged.take 2)).store.idempotencyRecords.all fun row =>
        row.scope.idempotencyKey ≠ "pay") = true ∧
      (Sample.ledger (Sample.exchanged.take 2)).store.account? (Sample.resource 80) = none ∧
      (Sample.ledger (Sample.exchanged.take 2)).store.transfer? (Sample.resource 80) = none ∧
      (Sample.ledger (Sample.exchanged.take 2)).store.entryRow? (Sample.resource 81) = none ∧
      (Sample.ledger (Sample.exchanged.take 2)).store.entryRow? (Sample.resource 82) = none ∧
      ((Sample.ledger (Sample.exchanged.take 2)).store.accounts.all fun row =>
        row.version.val < I64.max) = true ∧
      validateTransferRequest .reference (Sample.header "pay")
          (some ⟨(Sample.resource 16).hyphenated, (Sample.resource 48).hyphenated, "10.00"⟩) =
        .ok ⟨⟨"pay", by decide⟩, Sample.resource 16, Sample.resource 48, "10.00"⟩ ∧
      (((Sample.transfer 5 "alice" "pay" 1 3 "10.00").answer .reference
          (Sample.ledger (Sample.exchanged.take 2)).reference
          (Sample.ledger (Sample.exchanged.take 2)).store).toOption.map fun found =>
        (transferredBy (.committed (Sample.transfer 5 "alice" "pay" 1 3 "10.00") found.1
          found.2)).length) = some 1 := by
    decide +kernel
  have served := Sample.served "alice" "pay" 5 (.createTransfer (some
    ⟨(Sample.resource 16).hyphenated, (Sample.resource 48).hyphenated, "10.00"⟩)) (by decide)
      (by decide)
  have fresh_key : ∀ operation, (Sample.ledger (Sample.exchanged.take 2)).store.record?
      ⟨"alice", operation, "pay"⟩ = none := by
    intro operation
    rw [Db.record?, Table.lookup_eq_none]
    intro row member clash
    have named := List.all_eq_true.mp unused row member
    simp [clash] at named
  refine (create_transfer_commits_exactly Platform.reference_documented (Sample.reachable _)
    (reference ▸ Sample.configuration_valid) served rfl wellFormed (fun _ _ _ _ => fresh_key _)
    ⟨resource, transfer, debit, credit, by decide⟩ (fun account member =>
      of_decide_eq_true (List.all_eq_true.mp room account member))).1.mp ?_
  obtain ⟨⟨reply, writes⟩, answered, one⟩ := Option.map_eq_some_iff.mp inserted
  obtain ⟨row, only⟩ := List.length_eq_one_iff.mp one
  obtain ⟨write, written, shown⟩ := List.mem_filterMap.mp (only ▸ List.mem_singleton_self row)
  cases write <;> cases shown
  exact ⟨reply, writes, row, written, ok_of_toOption answered⟩

end LedgerService
