import LedgerService.Books
import LedgerService.Reference

set_option autoImplicit false

namespace LedgerService

open Transaction Bookkeeping

structure CoveredByReversals (db : Db) : Prop where
  positive : ∀ entry ∈ db.accountEntries, 0 < entry.amountMinor.val
  covered : ∀ id account, db.account? id = some account →
    0 ≤ account.balanceMinor.val + db.reversalDebits id

section Steps

variable {platform : Platform} {attempt : Attempt} {configuration : Configuration} {db : Db}
  {reply : Reply} {record : IdempotencyRecord}

theorem CoveredByReversals.opened {account : Account} (before : CoveredByReversals db)
    (opened : Opened platform attempt db record reply account) :
    CoveredByReversals (db.after (.opened record account)) where
  positive := before.positive
  covered := by
    intro id row found
    have still : (db.after (.opened record account)).reversalDebits id = db.reversalDebits id := rfl
    rw [still]
    rw [Db.account?_after, Option.or_eq_some_iff] at found
    rcases found with old | ⟨_, new⟩
    · exact before.covered id row old
    · have same : account.id = id ∧ account = row := by simpa using new
      have nonnegative : 0 ≤ db.reversalDebits id := amounts_nonnegative before.positive
      have initial := opened.covered
      rw [same.2] at initial
      omega

variable {transfer : Transfer} {oldSource oldDestination source destination : Account}
  {debit credit : Uuid}

theorem reversalDebits_posted (id : Uuid) :
    (db.after (.posted record transfer source destination debit credit)).reversalDebits id =
      db.reversalDebits id +
        if transfer.sourceAccountId = id ∧ transfer.kind = .reversal then
          transfer.totalSourceDebitMinor.val
        else 0 := by
  simp only [Db.reversalDebits, Db.after, amounts_append, amounts_singleton]
  simp [Transfer.debitEntry, Transfer.creditEntry]

theorem Performed.covered
    (performed : Performed attempt configuration db transfer oldSource oldDestination source
      destination debit credit) (notReversal : transfer.kind ≠ .reversal) :
    transfer.totalSourceDebitMinor.val ≤ oldSource.balanceMinor.val := by
  cases performed.terms with
  | ordinary _ covered _ => exact covered
  | fx _ covered _ => exact covered
  | reversal _ _ _ _ terms => exact absurd terms.kind notReversal

theorem CoveredByReversals.posted (before : CoveredByReversals db)
    (performed : Performed attempt configuration db transfer oldSource oldDestination source
      destination debit credit) :
    CoveredByReversals (db.after (.posted record transfer source destination debit credit)) where
  positive := by
    intro entry member
    simp only [Db.after, List.append_assoc, List.mem_append, List.mem_singleton] at member
    rcases member with old | rfl | rfl
    · exact before.positive entry old
    · exact performed.total
    · exact performed.destinationAmount
  covered := by
    intro id row found
    have nonnegative : 0 ≤ db.reversalDebits id := amounts_nonnegative before.positive
    obtain ⟨old, present, _, balance, _, which⟩ := performed.account_after found
    have covered := before.covered id old present
    rw [reversalDebits_posted, balance]
    by_cases isSource : id = transfer.sourceAccountId
    · subst isSource
      have taken : transfer.movement.on transfer.sourceAccountId =
          -transfer.totalSourceDebitMinor.val := transfer.movement.on_source performed.distinct
      by_cases reversal : transfer.kind = .reversal
      · simp only [reversal, and_self, if_true]
        omega
      · have enough := performed.covered reversal
        obtain rfl : oldSource = old := Option.some.inj (performed.sourceFound.symm.trans present)
        simp only [reversal, and_false, if_false]
        omega
    · have given := performed.credits isSource
      simp only [Ne.symm isSource, false_and, if_false]
      omega

end Steps

theorem coveredByReversals_inductive (platform : Platform) :
    Inductive platform fun _ db _ => CoveredByReversals db where
  empty _ := ⟨by simp [Db.empty], by simp [Db.empty, Db.account?, Table.lookup]⟩
  after := by
    intro attempt configuration db history reply effect _ before holds
    cases effect with
    | replayed => exact before
    | opened record account => exact before.opened holds
    | posted record transfer source destination debit credit =>
      obtain ⟨_, _, posted⟩ := holds
      exact before.posted posted.performed
  setStatus := by
    intro configuration db history id status _ before
    refine ⟨before.positive, ?_⟩
    intro wanted row found
    rw [account?_setStatus] at found
    obtain ⟨old, present, rfl⟩ := Option.map_eq_some_iff.mp found
    have covered := before.covered wanted old present
    split <;> exact covered
  grown _ _ before := before

/-- Every balance is at least minus the account's reversal debits.  A committed `create_transfer`
leaves its source covered, after the debit with the fee, and lowers no other account. -/
theorem only_reversals_overdraw {platform : Platform} {ledger : Ledger}
    (reachable : ledger.Reachable platform) :
    (∀ account ∈ ledger.store.accounts,
      -ledger.store.reversalDebits account.id ≤ account.balanceMinor.val ∧
      ((∀ entry ∈ ledger.store.entriesOf account.id,
        ¬ (entry.direction = .debit ∧ entry.operationKind = .reversal)) →
          0 ≤ account.balanceMinor.val)) ∧
    (∀ id session next body, ledger.sessions id = some session →
      session.context.request = .createTransfer body →
      Ledger.Step platform ledger (.commit id) next →
      next.store = ledger.store ∨
      ∃ transfer source source',
        next.store.transfers = ledger.store.transfers ++ [transfer] ∧
        transfer.kind ≠ .reversal ∧
        transfer.totalSourceDebitMinor.val =
          transfer.sourceAmountMinor.val + transfer.feeAmountMinor.val ∧
        ledger.store.account? transfer.sourceAccountId = some source ∧
        next.store.account? transfer.sourceAccountId = some source' ∧
        source'.balanceMinor.val =
          source.balanceMinor.val - transfer.totalSourceDebitMinor.val ∧
        0 ≤ source'.balanceMinor.val ∧
        ∀ other row, other ≠ transfer.sourceAccountId → ledger.store.account? other = some row →
          ∃ row', next.store.account? other = some row' ∧
            row.balanceMinor.val ≤ row'.balanceMinor.val) := by
  have bounded := (reachable.induction (coveredByReversals_inductive platform)).2
  refine ⟨?_, ?_⟩
  · intro account member
    have covered := bounded.covered account.id account (reachable.keyed.account member)
    refine ⟨by omega, ?_⟩
    intro none
    have zero : ledger.store.reversalDebits account.id = 0 := by
      rw [Db.reversalDebits, amounts, List.filter_eq_nil_iff.mpr]
      · rfl
      · intro entry entryMember chosen
        simp only [decide_eq_true_eq] at chosen
        exact none entry (List.mem_filter.mpr ⟨entryMember, by simpa using chosen.1⟩) chosen.2
    omega
  · intro id session next body live asked step
    obtain ⟨reply, effect, holds, written⟩ := reachable.committed live step
    cases effect with
    | replayed => exact .inl written
    | opened record account =>
      obtain ⟨request, unused⟩ := holds.request
      rw [asked] at unused
      cases unused
    | posted record transfer source destination debit credit =>
      obtain ⟨oldSource, oldDestination, posted⟩ := holds
      have performed := posted.performed
      have kind : transfer.kind ≠ .reversal ∧ transfer.totalSourceDebitMinor.val =
          transfer.sourceAmountMinor.val + transfer.feeAmountMinor.val := by
        cases performed.terms with
        | ordinary _ _ terms => exact ⟨by simp [terms.kind], terms.total⟩
        | fx _ _ terms => exact ⟨by simp [terms.kind], terms.total⟩
        | reversal request _ _ _ _ =>
          obtain ⟨text, reverse⟩ := request
          rw [asked] at reverse
          cases reverse
      obtain ⟨source', present, balance⟩ := performed.account_before record performed.sourceFound
      have taken : transfer.movement.on transfer.sourceAccountId =
          -transfer.totalSourceDebitMinor.val := transfer.movement.on_source performed.distinct
      have enough := performed.covered kind.1
      refine .inr
        ⟨transfer, oldSource, source', ?_, kind.1, kind.2, performed.sourceFound, ?_, ?_, ?_, ?_⟩
      · rw [written]
        rfl
      · rw [written, present]
      · omega
      · omega
      · intro other row different found
        obtain ⟨row', present', balance'⟩ := performed.account_before record found
        have given := performed.credits different
        exact ⟨row', written ▸ present', by omega⟩

theorem only_reversals_overdraw_returned :
    (Sample.ledger Sample.returned).store.transfers.length = 2 ∧
      ∀ account ∈ (Sample.ledger Sample.returned).store.accounts,
        -(Sample.ledger Sample.returned).store.reversalDebits account.id ≤
          account.balanceMinor.val :=
  ⟨by decide +kernel, fun account member =>
    ((only_reversals_overdraw (Sample.reachable Sample.returned)).1 account member).1⟩

end LedgerService
