import LedgerService.Amounts
import LedgerService.Books
import LedgerService.Decisions
import LedgerService.Fees
import LedgerService.Rates

set_option autoImplicit false

namespace LedgerService

open Transaction

section Rates

/-- What the constraints say of FX configuration, with finite rates. -/
structure Configuration.Valid (configuration : Configuration) : Prop where
  rates : ∀ row ∈ configuration.exchangeRates, ∃ coefficient : Int,
    row.rate = .finite coefficient ∧ 0 < coefficient ∧ coefficient < 10 ^ 30
  fees : ∀ row ∈ configuration.fxFeeRules, 0 ≤ row.feeBps ∧ row.feeBps ≤ 10000

variable {coefficient : Int}

theorem castRate_finite (positive : 0 < coefficient) (bounded : coefficient < 10 ^ 30) :
    castRate (some (Numeric.finite coefficient).text) = .ok (some (.finite coefficient)) := by
  have small : (coefficient.natAbs : Int) < 10 ^ 30 := by
    rw [Int.natAbs_of_nonneg (Int.le_of_lt positive)]
    exact bounded
  simp only [castRate, Numeric.cast_text_finite, if_pos small]

end Rates

section Arithmetic

variable {configuration : Configuration} {amountMinor : I64}

theorem orOverflow_error {value : Option I64} {error : ArithmeticError}
    (failed : orOverflow value = .error error) : error = .overflow := by
  cases value with
  | none => exact (Except.error.inj failed).symm
  | some _ => cases failed

def Configuration.Offers (configuration : Configuration) (fx : Option (ExchangeRate × FeeRule)) :
    Prop :=
  ∀ rate fee, fx = some (rate, fee) →
    (∃ row ∈ configuration.exchangeRates, row.select = rate) ∧
      ∃ row ∈ configuration.fxFeeRules, row.select = fee

theorem Configuration.Offers.within {configuration' : Configuration}
    {fx : Option (ExchangeRate × FeeRule)} (offers : configuration.Offers fx)
    (within : configuration.Within configuration') : configuration'.Offers fx := by
  intro rate fee selected
  obtain ⟨⟨row, present, read⟩, rule, listed, charged⟩ := offers rate fee selected
  exact ⟨⟨row, within.exchangeRates present, read⟩, rule, within.fxFeeRules listed, charged⟩

structure TransferTerms.Acceptable (configuration : Configuration) (terms : TransferTerms) :
    Prop where
  destinationAmount : 0 < terms.destinationAmountMinor.val
  fee : 0 ≤ terms.feeAmountMinor.val
  total : 0 < terms.totalSourceDebitMinor.val
  rate : ∃ rate, castRate terms.exchangeRate = .ok rate
  rateId : ∀ id, terms.exchangeRateId = some id → ∃ row ∈ configuration.exchangeRates, row.id = id

section Terms

variable {fx : Option (ExchangeRate × FeeRule)} {source destination : LockedAccount}

theorem transferTerms_error (valid : configuration.Valid) (offers : configuration.Offers fx)
    (positive : 0 < amountMinor.val) (sourceScale : asU8 source.scale ≤ 18)
    (destinationScale : asU8 destination.scale ≤ 18) {error : ArithmeticError}
    (failed : transferTerms amountMinor fx source destination = .error error) :
    error = .destinationTooSmall ∨ error = .overflow := by
  -- A valid configuration leaves the failures that the amount itself brings about.
  rcases fx with _ | ⟨rate, fee⟩
  · cases failed
  · obtain ⟨⟨row, present, rfl⟩, rule, listed, rfl⟩ := offers rate fee rfl
    obtain ⟨coefficient, finite, least, most⟩ := valid.rates row present
    obtain ⟨low, high⟩ := valid.fees rule listed
    obtain ⟨exact, parsed, _⟩ := ExactRate.parse_stored least most
    simp only [transferTerms, ExchangeRateRow.select, FeeRuleRow.select, finite, parsed,
      bind_eq_error, reduceCtorEq, and_false, exists_false, or_false, false_or, Except.ok.injEq,
      exists_eq_left'] at failed
    rcases failed with charged | ⟨_, _, converted⟩
    · exact .inr ((calculateFee_eq_error positive low high).mp charged).1
    · rw [calculateDestination_eq positive sourceScale destinationScale] at converted
      dsimp only at converted
      split at converted
      · exact .inl (Except.error.inj converted).symm
      · exact .inr (orOverflow_error converted)

theorem transferTerms_acceptable (valid : configuration.Valid) (offers : configuration.Offers fx)
    (positive : 0 < amountMinor.val) {terms : TransferTerms}
    (computed : transferTerms amountMinor fx source destination = .ok terms) :
    terms.Acceptable configuration := by
  rcases fx with _ | ⟨rate, fee⟩
  · cases computed
    exact ⟨positive, Int.le_refl _, positive, ⟨none, rfl⟩, by simp⟩
  · obtain ⟨⟨row, present, rfl⟩, rule, listed, rfl⟩ := offers rate fee rfl
    obtain ⟨coefficient, finite, least, most⟩ := valid.rates row present
    obtain ⟨low, high⟩ := valid.fees rule listed
    simp only [transferTerms, bind_eq_ok, Except.ok.injEq] at computed
    obtain ⟨charge, charged, exact, parsed, amount, converted, rfl⟩ := computed
    have nonneg := calculateFee_nonneg positive low high charged
    have total := calculateFee_total charged
    obtain ⟨_, _, _, some_amount, _⟩ := calculateDestination_eq_ok.mp converted
    refine ⟨some_amount, nonneg, ?_, ⟨some (.finite coefficient), ?_⟩, ?_⟩
    · dsimp only
      omega
    · simp only [ExchangeRateRow.select, finite]
      exact castRate_finite least most
    · rintro id ⟨⟩
      exact ⟨row, present, rfl⟩

end Terms

end Arithmetic

section Rows

structure TransferValues.Proper (platform : Platform) (values : TransferValues) : Prop where
  sourceCurrency : isCurrencyCode values.sourceCurrency = true
  destinationCurrency : isCurrencyCode values.destinationCurrency = true
  sourceAmount : 0 < values.sourceAmountMinor.val
  destinationAmount : 0 < values.destinationAmountMinor.val
  fee : 0 ≤ values.feeAmountMinor.val
  total : 0 < values.totalSourceDebitMinor.val
  initiator : platform.nonblank values.initiatedBy = true
  distinct : values.sourceAccountId ≠ values.destinationAccountId

structure TransferValues.Fits (configuration : Configuration) (db : Db) (values : TransferValues)
    (source destination : Account) : Prop where
  unused : db.transfer? values.id = none
  source : db.account? values.sourceAccountId = some source
  destination : db.account? values.destinationAccountId = some destination
  original : ∀ original, values.reversesTransferId = some original →
    db.reversed original = false ∧ (db.transfer? original).isSome = true
  rateId : ∀ id, values.exchangeRateId = some id → ∃ row ∈ configuration.exchangeRates, row.id = id

structure EntryValues.Proper (values : TransferValues) (entry : EntryValues) : Prop where
  transferId : entry.transferId = values.id
  accounts : (entry.accountId = values.sourceAccountId ∧
      entry.counterpartyAccountId = values.destinationAccountId) ∨
    (entry.accountId = values.destinationAccountId ∧
      entry.counterpartyAccountId = values.sourceAccountId)
  amount : 0 < entry.amountMinor.val
  currency : isCurrencyCode entry.currency = true
  principal : ∀ amount, entry.principalAmountMinor = some amount → 0 < amount.val
  fee : ∀ amount, entry.feeAmountMinor = some amount → 0 ≤ amount.val

variable {platform : Platform} {now : Timestamp} {configuration : Configuration} {db : Db}
  {values : TransferValues} {entry : EntryValues}

theorem insertTransfer_accepted {source destination : Account} (proper : values.Proper platform)
    (fits : values.Fits configuration db source destination) {rate : Option Numeric}
    (cast : castRate values.exchangeRate = .ok rate) :
    (Statement.insertTransfer values).exec platform now configuration db =
      .ok (platform.timestampText now, [.insertTransfer (values.row now rate)]) := by
  refine insertTransfer_eq_ok.mpr ⟨rate, cast, ?_, rfl, rfl⟩
  have original : ∀ original, values.reversesTransferId = some original →
      original ≠ values.id ∧ db.reversed original = false ∧
        (db.transfer? original).isSome = true := by
    intro original reverses
    obtain ⟨first, present⟩ := fits.original original reverses
    refine ⟨?_, first, present⟩
    rintro rfl
    rw [fits.unused] at present
    cases present
  have notItself : values.reversesTransferId ≠ some values.id := fun reverses =>
    (original _ reverses).1 rfl
  have once : values.reversesTransferId.all (fun original => !db.reversed original) = true :=
    (Option.all_eq_true _ _).mpr fun _ reverses => by simp [(original _ reverses).2.1]
  have present : values.reversesTransferId.all (fun original => (db.transfer? original).isSome) =
      true := (Option.all_eq_true _ _).mpr fun _ reverses => (original _ reverses).2.2
  have rates : values.exchangeRateId.all (fun rate =>
      configuration.exchangeRates.any fun row => row.id = rate) = true := by
    refine (Option.all_eq_true _ _).mpr fun id used => List.any_eq_true.mpr ?_
    obtain ⟨row, listed, same⟩ := fits.rateId id used
    exact ⟨row, listed, decide_eq_true same⟩
  simp only [transferChecks, TransferValues.row, firstViolation_cons, firstViolation_nil,
    proper.sourceCurrency, proper.destinationCurrency, proper.sourceAmount,
    proper.destinationAmount, proper.fee, proper.total, proper.initiator, proper.distinct, notItself,
    fits.unused, once, fits.source, fits.destination, present, rates, ne_eq, not_false_eq_true,
    decide_true, Option.isNone_none, Option.isSome_some, and_self]

theorem insertEntry_accepted (distinct : values.sourceAccountId ≠ values.destinationAccountId)
    (proper : entry.Proper values) (unused : db.entryRow? entry.id = none)
    (source : (db.account? values.sourceAccountId).isSome = true)
    (destination : (db.account? values.destinationAccountId).isSome = true)
    (transfer : (db.transfer? values.id).isSome = true) :
    (Statement.insertEntry entry).exec platform now configuration db =
      .ok ((), [.insertEntry (entry.row now)]) := by
  have principal : entry.principalAmountMinor.all (fun amount => decide (0 < amount.val)) = true :=
    (Option.all_eq_true _ _).mpr fun amount shown => decide_eq_true (proper.principal amount shown)
  have fee : entry.feeAmountMinor.all (fun amount => decide (0 ≤ amount.val)) = true :=
    (Option.all_eq_true _ _).mpr fun amount shown => decide_eq_true (proper.fee amount shown)
  have accounts : entry.accountId ≠ entry.counterpartyAccountId ∧
      (db.account? entry.accountId).isSome = true ∧
      (db.account? entry.counterpartyAccountId).isSome = true := by
    rcases proper.accounts with ⟨one, other⟩ | ⟨one, other⟩
    · rw [one, other]
      exact ⟨distinct, source, destination⟩
    · rw [one, other]
      exact ⟨distinct.symm, destination, source⟩
  refine checked_eq_ok.mpr ⟨?_, rfl⟩
  simp only [entryChecks, EntryValues.row, firstViolation_cons, firstViolation_nil, proper.amount,
    proper.currency, principal, fee, accounts, unused, proper.transferId, transfer, ne_eq,
    not_false_eq_true, decide_true, Option.isNone_none, and_self]

theorem updateAccount_accepted {balance version : I64} {id : Uuid} {row : Account}
    (found : db.account? id = some row) (next : version.val = row.version.val + 1) :
    (Statement.updateAccount balance id).exec platform now configuration db =
      .ok (1, [.replaceAccount (row.update now balance version)]) :=
  updateAccount_eq_ok.mpr (.inr ⟨row, version, found, next, rfl, rfl⟩)

theorem updateRecord_accepted {scope : Scope} {record : IdempotencyRecord} {body : Value}
    {resource : Uuid} (found : db.record? scope = some record)
    (checked : firstViolation (recordChecks platform record) = .ok ()) :
    (Statement.updateRecord scope created body resource).exec platform now configuration db =
      .ok (1, [.replaceRecord (record.complete created body resource)]) := by
  refine updateRecord_eq_ok.mpr (.inr ⟨record, found, ?_, rfl, rfl⟩)
  simp only [recordChecks, firstViolation_cons, firstViolation_nil, and_true] at checked
  obtain ⟨client, operation, key, fingerprint, expires, _⟩ := checked
  simp only [recordChecks, IdempotencyRecord.complete, firstViolation_cons, firstViolation_nil, client,
    operation, key, fingerprint, true_and]
  exact ⟨expires, rfl, by decide, trivial⟩

theorem storeSuccess_finish {attempt : Attempt} {writes : List Write} {scope : Scope}
    {record : IdempotencyRecord} {body : Value} {resource : Uuid}
    (found : ((engine platform).view db writes).record? scope = some record)
    (checked : firstViolation (recordChecks platform record) = .ok ()) :
    (storeSuccess scope created body resource).finish (engine platform) attempt configuration db
      writes = .ok ((), writes ++ [.replaceRecord (record.complete created body resource)]) := by
  simp only [storeSuccess, Program.bind_eq]
  rw [Program.finish_bind_ok (finish_send (updateRecord_accepted found checked))]
  rfl

end Rows

structure Attempt.Fresh (attempt : Attempt) (db : Db) : Prop where
  account : db.account? attempt.ids.resource = none
  transfer : db.transfer? attempt.ids.resource = none
  debit : db.entryRow? attempt.ids.debitEntry = none
  credit : db.entryRow? attempt.ids.creditEntry = none
  entries : attempt.ids.debitEntry ≠ attempt.ids.creditEntry

section Postings

structure Posting.Proper (platform : Platform) (posting : Posting) : Prop where
  transfer : posting.transfer.Proper platform
  rate : ∃ rate, castRate posting.transfer.exchangeRate = .ok rate
  debit : posting.debit.Proper posting.transfer
  credit : posting.credit.Proper posting.transfer
  entries : posting.debit.id ≠ posting.credit.id

/-- Tables that take the posting; each account has room for another version. -/
structure Posting.Fits (configuration : Configuration) (db : Db) (posting : Posting)
    (source destination : Account) : Prop where
  transfer : posting.transfer.Fits configuration db source destination
  debit : db.entryRow? posting.debit.id = none
  credit : db.entryRow? posting.credit.id = none
  sourceRoom : source.version.val < I64.max
  destinationRoom : destination.version.val < I64.max

variable {platform : Platform} {now : Timestamp} {configuration : Configuration} {db : Db}
  {posting : Posting} {source destination : Account}

theorem Posting.Fits.reserved (fits : posting.Fits configuration db source destination)
    (record : IdempotencyRecord) :
    posting.Fits configuration (db.apply (.insertRecord record)) source destination :=
  ⟨⟨fits.transfer.unused, fits.transfer.source, fits.transfer.destination, fits.transfer.original,
    fits.transfer.rateId⟩, fits.debit, fits.credit, fits.sourceRoom, fits.destinationRoom⟩

theorem Account.next_version {row : Account} (room : row.version.val < I64.max) :
    ∃ version : I64, version.val = row.version.val + 1 := by
  have bounds := row.version.bounds
  exact ⟨⟨row.version.val + 1, by omega, by omega⟩, rfl⟩

theorem Posting.Fits.accepted (proper : posting.Proper platform)
    (fits : posting.Fits configuration db source destination) {rate : Option Numeric}
    (cast : castRate posting.transfer.exchangeRate = .ok rate) {sourceVersion destinationVersion : I64}
    (sourceNext : sourceVersion.val = source.version.val + 1)
    (destinationNext : destinationVersion.val = destination.version.val + 1) :
    let posted := db.apply (.insertTransfer (posting.transfer.row now rate))
    let debited :=
      posted.apply (.replaceAccount (source.update now posting.sourceBalance sourceVersion))
    let credited := debited.apply
      (.replaceAccount (destination.update now posting.destinationBalance destinationVersion))
    let entered := credited.apply (.insertEntry (posting.debit.row now))
    (Statement.insertTransfer posting.transfer).exec platform now configuration db =
        .ok (platform.timestampText now, [.insertTransfer (posting.transfer.row now rate)]) ∧
      (Statement.updateAccount posting.sourceBalance posting.transfer.sourceAccountId).exec platform
          now configuration posted =
        .ok (1, [.replaceAccount (source.update now posting.sourceBalance sourceVersion)]) ∧
      (Statement.updateAccount posting.destinationBalance posting.transfer.destinationAccountId).exec
          platform now configuration debited =
        .ok (1, [.replaceAccount
          (destination.update now posting.destinationBalance destinationVersion)]) ∧
      (Statement.insertEntry posting.debit).exec platform now configuration credited =
        .ok ((), [.insertEntry (posting.debit.row now)]) ∧
      (Statement.insertEntry posting.credit).exec platform now configuration entered =
        .ok ((), [.insertEntry (posting.credit.row now)]) := by
  intro posted debited credited entered
  have distinct := proper.transfer.distinct
  have sourceId : source.id = posting.transfer.sourceAccountId :=
    Table.key_of_lookup fits.transfer.source
  have destinationId : destination.id = posting.transfer.destinationAccountId :=
    Table.key_of_lookup fits.transfer.destination
  have transferred : (credited.transfer? posting.transfer.id).isSome = true := by
    simp [credited, debited, posted, TransferValues.row]
  have found : ∀ id row, db.account? id = some row → (credited.account? id).isSome = true := by
    intro id row present
    simp [credited, debited, posted, present]
  have sourceFound := found _ _ fits.transfer.source
  have destinationFound := found _ _ fits.transfer.destination
  refine ⟨insertTransfer_accepted proper.transfer fits.transfer cast,
    updateAccount_accepted fits.transfer.source sourceNext,
    @updateAccount_accepted _ _ _ _ _ _ _ destination ?_ destinationNext,
    insertEntry_accepted distinct proper.debit fits.debit sourceFound destinationFound transferred,
    insertEntry_accepted distinct proper.credit ?_ sourceFound destinationFound transferred⟩
  · simp [debited, posted, fits.transfer.destination, Account.update, sourceId, distinct]
  · simp only [entered, Db.entryRow?_apply, EntryValues.row, proper.entries, if_false, Option.or_none]
    exact fits.credit

theorem post_finish {attempt : Attempt} {record : IdempotencyRecord} (proper : posting.Proper platform)
    (fits : posting.Fits configuration db source destination) {rate : Option Numeric}
    (cast : castRate posting.transfer.exchangeRate = .ok rate) {sourceVersion destinationVersion : I64}
    (sourceNext : sourceVersion.val = source.version.val + 1)
    (destinationNext : destinationVersion.val = destination.version.val + 1) :
    (post posting).finish (engine platform) attempt configuration db [.insertRecord record] =
      .ok (platform.timestampText attempt.started, .insertRecord record ::
        posting.writes attempt.started rate source destination sourceVersion destinationVersion) := by
  obtain ⟨inserted, debited, credited, first, second⟩ :=
    @Posting.Fits.accepted _ attempt.started _ _ _ _ _ proper (fits.reserved record) _ cast _ _
      sourceNext destinationNext
  simp only [post, Program.bind_eq]
  rw [Program.finish_bind_ok (finish_send inserted), Program.finish_bind_ok (finish_send debited),
    Program.finish_bind_ok (finish_send credited), Program.finish_bind_ok (finish_send first),
    Program.finish_bind_ok (finish_send second)]
  rfl

theorem transferPosting_proper {clientId : String} {ids : NewIds} {request : TransferRequest}
    {amountMinor : I64} {terms : TransferTerms} {source destination : LockedAccount}
    {sourceBalance destinationBalance : I64} (acceptable : terms.Acceptable configuration)
    (positive : 0 < amountMinor.val) (client : platform.nonblank clientId = true)
    (distinct : request.sourceAccountId ≠ request.destinationAccountId)
    (entries : ids.debitEntry ≠ ids.creditEntry)
    (sourceCode : isCurrencyCode source.currency = true)
    (destinationCode : isCurrencyCode destination.currency = true) :
    (transferPosting clientId ids request amountMinor terms source destination sourceBalance
      destinationBalance).Proper platform where
  transfer := ⟨sourceCode, destinationCode, positive, acceptable.destinationAmount, acceptable.fee,
    acceptable.total, client, distinct⟩
  rate := acceptable.rate
  debit := by
    refine ⟨rfl, .inl ⟨rfl, rfl⟩, acceptable.total, sourceCode, ?_, ?_⟩
    · intro amount shown
      obtain ⟨_, ⟨⟩⟩ := Option.ite_none_right_eq_some.mp shown
      exact positive
    · intro amount shown
      obtain ⟨_, ⟨⟩⟩ := Option.ite_none_right_eq_some.mp shown
      exact acceptable.fee
  credit := by
    refine ⟨rfl, .inr ⟨rfl, rfl⟩, acceptable.destinationAmount, destinationCode, ?_,
      fun _ shown => absurd shown (Option.some_ne_none _).symm⟩
    intro amount shown
    obtain ⟨_, ⟨⟩⟩ := Option.ite_none_right_eq_some.mp shown
    exact acceptable.destinationAmount
  entries := entries

theorem reversalPosting_proper {clientId : String} {ids : NewIds} {originalTransferId : Uuid}
    {original : Transfer} {sourceBalance destinationBalance : I64}
    (sourceCode : isCurrencyCode original.sourceCurrency = true)
    (destinationCode : isCurrencyCode original.destinationCurrency = true)
    (destinationAmount : 0 < original.destinationAmountMinor.val)
    (fee : 0 ≤ original.feeAmountMinor.val) (total : 0 < original.totalSourceDebitMinor.val)
    (distinct : original.sourceAccountId ≠ original.destinationAccountId)
    (rate : ∃ rate, castRate (original.exchangeRate.map Numeric.text) = .ok rate)
    (client : platform.nonblank clientId = true) (entries : ids.debitEntry ≠ ids.creditEntry) :
    (reversalPosting clientId ids originalTransferId original.original sourceBalance
      destinationBalance).Proper platform where
  transfer := ⟨destinationCode, sourceCode, destinationAmount, total, fee, destinationAmount, client,
    distinct.symm⟩
  rate := rate
  debit := ⟨rfl, .inl ⟨rfl, rfl⟩, destinationAmount, destinationCode,
    fun _ shown => absurd shown (Option.some_ne_none _).symm,
    fun _ shown => absurd shown (Option.some_ne_none _).symm⟩
  credit := ⟨rfl, .inr ⟨rfl, rfl⟩, total, sourceCode,
    fun _ shown => absurd shown (Option.some_ne_none _).symm,
    fun _ shown => absurd shown (Option.some_ne_none _).symm⟩
  entries := entries

end Postings

section Responses

theorem formatAmount_ok {scale : Nat} (bounded : scale ≤ 18) (amount : I64) :
    ∃ text, formatAmount amount scale = .ok text :=
  ⟨_, orFailure_eq_ok.mpr (formatMinorUnits_eq bounded amount)⟩

variable {ids : NewIds} {createdAt : String}

theorem accountCreatedResponse_ok {currency : Currency} (listed : currency ∈ currencies) (id : Uuid)
    (balanceMinor : I64) : ∃ body, accountCreatedResponse id currency balanceMinor = .ok body := by
  have bounded : ∀ one ∈ currencies, one.scale ≤ 18 := by decide
  obtain ⟨text, formatted⟩ := formatAmount_ok (bounded currency listed) balanceMinor
  exact ⟨_, bind_eq_ok.mpr ⟨text, formatted, rfl⟩⟩

theorem transferCreatedResponse_ok {request : TransferRequest} {amountMinor : I64}
    {terms : TransferTerms} {source destination : LockedAccount}
    (sourceScale : asU8 source.scale ≤ 18) (destinationScale : asU8 destination.scale ≤ 18) :
    ∃ body, transferCreatedResponse ids request amountMinor terms source destination createdAt =
      .ok body := by
  obtain ⟨amount, one⟩ := formatAmount_ok sourceScale amountMinor
  obtain ⟨destinationAmount, two⟩ := formatAmount_ok destinationScale terms.destinationAmountMinor
  obtain ⟨fee, three⟩ := formatAmount_ok sourceScale terms.feeAmountMinor
  obtain ⟨total, four⟩ := formatAmount_ok sourceScale terms.totalSourceDebitMinor
  unfold transferCreatedResponse
  split
  · exact ⟨_, by simp only [one, two, three, four]; rfl⟩
  · exact ⟨_, by simp only [one]; rfl⟩

theorem reversalCreatedResponse_ok {originalTransferId : Uuid} {original : OriginalTransfer}
    {source destination : LockedAccount} {sourceBalance destinationBalance : I64}
    (sourceScale : asU8 source.scale ≤ 18) (destinationScale : asU8 destination.scale ≤ 18) :
    ∃ body, reversalCreatedResponse ids originalTransferId original source destination sourceBalance
      destinationBalance createdAt = .ok body := by
  obtain ⟨sourceAmount, one⟩ := formatAmount_ok sourceScale original.destinationAmountMinor
  obtain ⟨amount, two⟩ := formatAmount_ok destinationScale original.totalSourceDebitMinor
  obtain ⟨fee, three⟩ := formatAmount_ok destinationScale original.feeAmountMinor
  obtain ⟨left, four⟩ := formatAmount_ok sourceScale sourceBalance
  obtain ⟨right, five⟩ := formatAmount_ok destinationScale destinationBalance
  exact ⟨_, by simp only [reversalCreatedResponse, one, two, three, four, five]; rfl⟩

end Responses

end LedgerService
