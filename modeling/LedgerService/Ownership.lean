import LedgerService.Provenance
import LedgerService.Reference

set_option autoImplicit false

namespace LedgerService

open Transaction Bookkeeping

section Steps

variable {platform : Platform} {attempt : Attempt} {configuration : Configuration} {db : Db}
  {reply : Reply} {effect : Effect}

theorem Effect.Holds.lowers (holds : effect.Holds platform attempt configuration db reply) {id : Uuid}
    {old : Account} (found : db.account? id = some old) :
    ∃ account, (db.after effect).account? id = some account ∧ account.ownerId = old.ownerId ∧
      (account.balanceMinor.val < old.balanceMinor.val → attempt.clientId = old.ownerId) := by
  obtain ⟨account, present, same⟩ := (evolves_after holds).account id old found
  refine ⟨account, present, same.ownerId, ?_⟩
  intro lowered
  cases effect with
  | replayed =>
    have kept : db.account? id = some account := present
    rw [found] at kept
    cases kept
    omega
  | opened record row =>
    rw [Db.account?_after] at present
    simp only [found, Option.some_or, Option.some.injEq] at present
    subst present
    omega
  | posted record transfer source destination debit credit =>
    obtain ⟨oldSource, oldDestination, posted⟩ := holds
    have performed := posted.performed
    obtain ⟨before, sameRow, _, balance, _⟩ := performed.account_after present
    obtain rfl : old = before := Option.some.inj (found.symm.trans sameRow)
    by_cases isSource : id = transfer.sourceAccountId
    · subst isSource
      obtain rfl : oldSource = old := Option.some.inj (performed.sourceFound.symm.trans found)
      exact performed.owner.symm
    · have given := performed.credits isSource
      omega

end Steps

/-- The initiator of a transfer owns its source, the initiator of a reversal owns the original
destination, and a balance is lowered by a request of the account's owner only. -/
theorem only_owners_debit {platform : Platform} {ledger : Ledger}
    (reachable : ledger.Reachable platform) :
    (∀ transfer ∈ ledger.store.transfers, ∃ source,
      ledger.store.account? transfer.sourceAccountId = some source ∧
      transfer.initiatedBy = source.ownerId) ∧
    (∀ transfer ∈ ledger.store.transfers, ∀ original ∈ ledger.store.transfers,
      transfer.reversesTransferId = some original.id → ∃ account,
        ledger.store.account? original.destinationAccountId = some account ∧
        transfer.initiatedBy = account.ownerId) ∧
    ∀ label next, Ledger.Step platform ledger label next →
      ∀ id old, ledger.store.account? id = some old → ∃ account,
        next.store.account? id = some account ∧ account.ownerId = old.ownerId ∧
        (account.balanceMinor.val < old.balanceMinor.val → ∃ request session,
          label = .commit request ∧ ledger.sessions request = some session ∧
          session.context.clientId = old.ownerId) := by
  have provenance := reachable.provenance
  refine ⟨?_, ?_, ?_⟩
  · intro transfer member
    obtain ⟨source, _, grounded⟩ := provenance.grounded transfer member
    exact ⟨source, grounded.sourceFound, grounded.owner.symm⟩
  · intro transfer member original originalMember named
    obtain ⟨source, _, grounded⟩ := provenance.grounded transfer member
    have reverses := provenance.reverses reachable.keyed member originalMember named
    exact ⟨source, reverses.sourceAccount ▸ grounded.sourceFound, grounded.owner.symm⟩
  · intro label next step id old found
    rcases reachable.step_store step with
      kept | ⟨request, session, reply, effect, committed, live, holds, written⟩ |
        ⟨flipped, status, operated, written⟩
    · exact ⟨old, kept ▸ found, rfl, fun lowered => absurd lowered (by omega)⟩
    · obtain ⟨account, present, owner, lowers⟩ := holds.lowers found
      exact ⟨account, written ▸ present, owner, fun lowered =>
        ⟨request, session, committed, live, lowers lowered⟩⟩
    · by_cases same : old.id = flipped <;>
        simp [written, account?_setStatus, found, same]

theorem only_owners_debit_returned :
    (Sample.ledger Sample.returned).store.transfers.map Transfer.initiatedBy = ["alice", "bob"] ∧
      ∀ transfer ∈ (Sample.ledger Sample.returned).store.transfers, ∃ source,
        (Sample.ledger Sample.returned).store.account? transfer.sourceAccountId = some source ∧
        transfer.initiatedBy = source.ownerId :=
  ⟨by decide +kernel, (only_owners_debit (Sample.reachable Sample.returned)).1⟩

end LedgerService
