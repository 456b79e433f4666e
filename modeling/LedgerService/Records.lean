import LedgerService.Reference
import LedgerService.Sessions

set_option autoImplicit false

namespace LedgerService

open Transaction

/-- Records correspond one to one to accounts and transfers, and no handler meets an incomplete one. -/
theorem committed_records_complete {platform : Platform} {ledger : Ledger}
    (reachable : ledger.Reachable platform) :
    (∀ record ∈ ledger.store.idempotencyRecords, record.httpStatus = some 201 ∧
      ∃ body resource, record.responseBody = some body ∧
        record.resultingResourceId = some resource ∧
        body.lookup "id" = some resource.hyphenated) ∧
    (∃ resource : {record // record ∈ ledger.store.idempotencyRecords} → ledger.store.Resource,
      Function.Bijective resource ∧
      ∀ record : {record // record ∈ ledger.store.idempotencyRecords},
        record.val.Names (resource record)) ∧
    ∀ id session, ledger.sessions id = some session →
      session.rest ≠ .fail incompleteRecord ∧ session.rest ≠ .fail incompleteReservation := by
  have corresponding := reachable.corresponding
  refine ⟨?_, corresponding.bijection reachable.keyed, ?_⟩
  · intro record member
    have complete := corresponding.complete record member
    exact ⟨complete.status, complete.body⟩
  · intro id session live
    constructor
    · intro failed
      exact (reachable.fails_ordinary live failed).1 rfl
    · intro failed
      exact (reachable.fails_ordinary live failed).2.1 rfl

theorem committed_records_complete_paid :
    (Sample.ledger Sample.paid).store.idempotencyRecords.length = 3 ∧
      ∀ record ∈ (Sample.ledger Sample.paid).store.idempotencyRecords,
        record.httpStatus = some 201 := by
  refine ⟨by decide +kernel, fun record member => ?_⟩
  exact ((committed_records_complete (Sample.reachable Sample.paid)).1 record member).1

end LedgerService
