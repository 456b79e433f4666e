import LedgerService.Provenance
import LedgerService.Reconciliation
import LedgerService.Reference

set_option autoImplicit false

namespace LedgerService

open Transaction Bookkeeping

theorem Reverses.movement {original transfer : Transfer} (reverses : Reverses original transfer) :
    transfer.movement = original.movement.inverse := by
  simp [Transfer.movement, Movement.inverse, reverses.sourceAccount, reverses.destinationAccount,
    reverses.total, reverses.destinationAmount]

theorem net_entries (transfer : Transfer) (debit credit id : Uuid) :
    net id [transfer.debitEntry debit, transfer.creditEntry credit] = transfer.movement.on id := by
  have booked := Booked.none.booked transfer debit credit
  have moved := booked.net_eq_flow id
  simpa using moved

theorem Provenance.flow_of_all_reversed {configuration : Configuration} {db : Db}
    (provenance : Provenance configuration db) (keyed : Keyed db)
    (all : ∀ transfer ∈ db.transfers, transfer.kind ≠ .reversal →
      ∃ reversal ∈ db.transfers, reversal.reversesTransferId = some transfer.id) (id : Uuid) :
    flow Transfer.movement db.transfers id = 0 := by
  apply @flow_of_all_cancelled _ _ _ _ _ _ _ Transfer.id Transfer.reversesTransferId _
    keyed.transfers provenance.once
  · intro transfer member wanted named
    obtain ⟨_, _, grounded⟩ := provenance.grounded transfer member
    rcases grounded.terms with ordinary | fx | ⟨original, found, reverses⟩
    · simp [ordinary.reverses] at named
    · simp [fx.reverses] at named
    · have same : original.id = wanted := by simpa [reverses.reverses] using named
      have originalMember := Table.mem_of_lookup found
      obtain ⟨_, _, originalGrounded⟩ := provenance.grounded original originalMember
      refine ⟨original, originalMember, same, ?_, reverses.movement⟩
      by_contra standing
      exact reverses.originalKind (originalGrounded.reversal_iff.mpr standing)
  · intro transfer member standing
    obtain ⟨_, _, grounded⟩ := provenance.grounded transfer member
    apply all transfer member
    rw [ne_eq, grounded.reversal_iff]
    simpa using standing

/-- The entries of a transfer and of its reversal sum to zero on every account; the source gets back
principal and fee, the destination gives back what it got, and no other account is touched.  Where
all transfers are reversed, all accounts are back at their initial balances. -/
theorem reversals_are_inverses {platform : Platform} {ledger : Ledger}
    (reachable : ledger.Reachable platform) :
    (∀ original ∈ ledger.store.transfers, ∀ reversal ∈ ledger.store.transfers,
      reversal.reversesTransferId = some original.id →
      (∀ id, net id (ledger.store.accountEntries.filter fun entry =>
        entry.transferId = original.id ∨ entry.transferId = reversal.id) = 0) ∧
      ∃ debit credit,
        ledger.store.accountEntries.filter (fun entry => entry.transferId = reversal.id) =
          [debit, credit] ∧
        debit.direction = .debit ∧ debit.accountId = original.destinationAccountId ∧
        debit.amountMinor = original.destinationAmountMinor ∧
        credit.direction = .credit ∧ credit.accountId = original.sourceAccountId ∧
        credit.amountMinor.val = original.sourceAmountMinor.val + original.feeAmountMinor.val) ∧
    ((∀ transfer ∈ ledger.store.transfers, transfer.kind ≠ .reversal →
        ∃ reversal ∈ ledger.store.transfers, reversal.reversesTransferId = some transfer.id) →
      ∀ account ∈ ledger.store.accounts, ∃ opened,
        (openings ledger.history).filter (fun row => row.id = account.id) = [opened] ∧
        account.balanceMinor = opened.balanceMinor) := by
  have keyed := reachable.keyed
  have provenance := reachable.provenance
  have booked := reachable.booked
  refine ⟨?_, ?_⟩
  · intro original originalMember reversal member named
    have reverses := provenance.reverses keyed member originalMember named
    obtain ⟨_, _, originalGrounded⟩ := provenance.grounded original originalMember
    obtain ⟨debit, credit, entries⟩ := booked.entries_of keyed.transfers originalMember
    obtain ⟨debit', credit', entries'⟩ := booked.entries_of keyed.transfers member
    have apart : original.id ≠ reversal.id := by
      intro same
      have equal := Table.eq_of_key_eq keyed.transfers originalMember member same
      exact reverses.originalKind (equal ▸ reverses.kind)
    refine ⟨?_, _, _, entries', rfl, reverses.sourceAccount, reverses.total, rfl,
      reverses.destinationAccount, ?_⟩
    · intro id
      rw [net_filter_or apart, entries, entries', net_entries, net_entries, reverses.movement,
        Movement.on_inverse]
      omega
    · simp only [Transfer.creditEntry, reverses.destinationAmount]
      exact originalGrounded.total reverses.originalKind
  · intro all account member
    obtain ⟨opened, once, follows⟩ := reachable.reconciled.opened_once keyed member
    refine ⟨opened, once, ?_⟩
    have balance := follows.balance
    rw [provenance.flow_of_all_reversed keyed all, Int.add_zero] at balance
    exact I64.ext balance

theorem reversals_are_inverses_returned :
    (Sample.ledger Sample.returned).store.transfers.map Transfer.kind = [.transfer, .reversal] ∧
      ∀ account ∈ (Sample.ledger Sample.returned).store.accounts, ∃ opened,
        (openings (Sample.ledger Sample.returned).history).filter
          (fun row => row.id = account.id) = [opened] ∧
        account.balanceMinor = opened.balanceMinor := by
  refine ⟨by decide +kernel, (reversals_are_inverses (Sample.reachable Sample.returned)).2 ?_⟩
  decide +kernel

end LedgerService
