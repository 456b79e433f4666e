import LedgerService.Provenance
import LedgerService.Reference

set_option autoImplicit false

namespace LedgerService

open Transaction Bookkeeping

structure Entered (transfer : Transfer) (debit credit : AccountEntry) : Prop where
  debitSide : debit.direction = .debit ∧ debit.accountId = transfer.sourceAccountId ∧
    debit.counterpartyAccountId = transfer.destinationAccountId
  debited : debit.amountMinor = transfer.totalSourceDebitMinor ∧
    debit.currency = transfer.sourceCurrency
  creditSide : credit.direction = .credit ∧ credit.accountId = transfer.destinationAccountId ∧
    credit.counterpartyAccountId = transfer.sourceAccountId
  credited : credit.amountMinor = transfer.destinationAmountMinor ∧
    credit.currency = transfer.destinationCurrency
  kinds : debit.operationKind = transfer.kind ∧ credit.operationKind = transfer.kind
  amounts : ∀ entry ∈ [debit, credit], ∀ principal, entry.principalAmountMinor = some principal →
    entry.amountMinor.val =
      principal.val + ((entry.feeAmountMinor.map I64.val).getD 0)

structure AuditedFx (configuration : Configuration) (db : Db) (transfer : Transfer) : Prop where
  total : transfer.totalSourceDebitMinor.val =
    transfer.sourceAmountMinor.val + transfer.feeAmountMinor.val
  fee : ∃ feeBps, transfer.feeBps = some feeBps ∧
    calculateFee transfer.sourceAmountMinor feeBps =
      .ok ⟨transfer.feeAmountMinor, transfer.totalSourceDebitMinor⟩
  destination : ∃ source destination stored rate,
    db.account? transfer.sourceAccountId = some source ∧
    db.account? transfer.destinationAccountId = some destination ∧
    transfer.exchangeRate = some stored ∧ ExactRate.parse stored.text = .ok rate ∧
    calculateDestination transfer.sourceAmountMinor (asU8 source.currencyScale)
      (asU8 destination.currencyScale) rate = .ok transfer.destinationAmountMinor
  rate : ∃ row ∈ configuration.exchangeRates, transfer.exchangeRateId = some row.id ∧
    transfer.exchangeRate = some row.rate ∧
    row.sourceCurrency = transfer.sourceCurrency ∧
    row.destinationCurrency = transfer.destinationCurrency ∧
    row.validFrom ≤ transfer.createdAt ∧ transfer.createdAt < row.validUntil

structure Audited (configuration : Configuration) (db : Db) (transfer : Transfer) : Prop where
  entries : ∃ debit credit,
    db.accountEntries.filter (fun entry => entry.transferId = transfer.id) = [debit, credit] ∧
    Entered transfer debit credit
  ordinary : transfer.kind = .transfer → OrdinaryTerms transfer
  fx : transfer.kind = .fxTransfer → AuditedFx configuration db transfer
  reversal : transfer.kind = .reversal → ∃ original ∈ db.transfers, Reverses original transfer

theorem Grounded.entered {configuration : Configuration} {db : Db} {transfer : Transfer}
    {source destination : Account}
    (grounded : Grounded configuration db transfer source destination) (debit credit : Uuid) :
    Entered transfer (transfer.debitEntry debit) (transfer.creditEntry credit) where
  debitSide := ⟨rfl, rfl, rfl⟩
  debited := ⟨rfl, rfl⟩
  creditSide := ⟨rfl, rfl, rfl⟩
  credited := ⟨rfl, rfl⟩
  kinds := ⟨rfl, rfl⟩
  amounts := by
    intro entry member principal shown
    simp only [List.mem_cons, List.not_mem_nil, or_false] at member
    by_cases isFx : transfer.kind = .fxTransfer
    · have total := grounded.total (by simp [isFx])
      rcases member with rfl | rfl
      · simp only [Transfer.debitEntry, isFx, if_true, Option.some.injEq] at shown
        simpa [Transfer.debitEntry, isFx, ← shown] using total
      · simp only [Transfer.creditEntry, isFx, if_true, Option.some.injEq] at shown
        simp [Transfer.creditEntry, ← shown]
    · rcases member with rfl | rfl
      · simp [Transfer.debitEntry, isFx] at shown
      · simp [Transfer.creditEntry, isFx] at shown

theorem FxTerms.audited {configuration : Configuration} {db : Db} {transfer : Transfer}
    {source destination : Account}
    (grounded : Grounded configuration db transfer source destination)
    (terms : FxTerms configuration source destination transfer) :
    AuditedFx configuration db transfer := by
  obtain ⟨row, member, id, stored, sourceCurrency, destinationCurrency, valid, rate, parsed,
    converted⟩ := terms.rate
  obtain ⟨rule, _, feeBps, _, calculated⟩ := terms.fee
  simp only [validAt, Bool.and_eq_true, decide_eq_true_eq] at valid
  exact ⟨terms.total, ⟨rule.feeBps, feeBps, calculated⟩,
    ⟨source, destination, row.rate, rate, grounded.sourceFound, grounded.destinationFound, stored,
      parsed, converted⟩,
    ⟨row, member, id, stored, sourceCurrency, destinationCurrency, valid.1, valid.2⟩⟩

/-- Every transfer row agrees with its two entries, and with the configuration it was made under. -/
theorem transfers_audited {platform : Platform} {ledger : Ledger}
    (reachable : ledger.Reachable platform) :
    ∀ transfer ∈ ledger.store.transfers, Audited ledger.reference ledger.store transfer := by
  intro transfer member
  obtain ⟨source, destination, grounded⟩ := reachable.provenance.grounded transfer member
  obtain ⟨debit, credit, entries⟩ := reachable.booked.entries_of reachable.keyed.transfers member
  refine ⟨⟨_, _, entries, grounded.entered debit credit⟩, ?_, ?_, ?_⟩
  all_goals
    intro kind
    rcases grounded.terms with ordinary | fx | ⟨original, found, reverses⟩
  · exact ordinary
  · simp [fx.kind] at kind
  · simp [reverses.kind] at kind
  · simp [ordinary.kind] at kind
  · exact fx.audited grounded
  · simp [reverses.kind] at kind
  · simp [ordinary.kind] at kind
  · simp [fx.kind] at kind
  · exact ⟨original, Table.mem_of_lookup found, reverses⟩

theorem transfers_audited_exchanged :
    (Sample.ledger Sample.exchanged).store.transfers.map Transfer.kind = [.fxTransfer] ∧
      ∀ transfer ∈ (Sample.ledger Sample.exchanged).store.transfers,
        Audited (Sample.ledger Sample.exchanged).reference (Sample.ledger Sample.exchanged).store
          transfer :=
  ⟨by decide +kernel, transfers_audited (Sample.reachable Sample.exchanged)⟩

end LedgerService
