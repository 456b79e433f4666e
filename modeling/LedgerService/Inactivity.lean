import LedgerService.Admission
import LedgerService.Reference

set_option autoImplicit false

namespace LedgerService

open Transaction

section Runs

variable {platform : Platform} {ledger : Ledger}

theorem Ledger.Reachable.inactive_step (reachable : ledger.Reachable platform) {next : Ledger}
    {label : Label sql Attempt Operator} (step : Ledger.Step platform ledger label next) {id : Uuid}
    {row : Account} (found : ledger.store.account? id = some row) (inactive : row.status = .inactive)
    (never : label ≠ .operate (.setStatus id .active)) :
    next.store.account? id = some row ∧ next.store.entriesOf id = ledger.store.entriesOf id ∧
      ∀ transfer ∈ next.store.transfers, transfer.sourceAccountId = id ∨
        transfer.destinationAccountId = id → transfer ∈ ledger.store.transfers := by
  have unchanged : ∀ transfer ∈ ledger.store.transfers, transfer.sourceAccountId = id ∨
      transfer.destinationAccountId = id → transfer ∈ ledger.store.transfers := fun _ old _ => old
  cases step with
  | commit live finished =>
    obtain ⟨effect, holds, written, after⟩ := reachable.effect live finished
    simp only [after]
    cases effect with
    | replayed => exact ⟨found, rfl, unchanged⟩
    | opened record account => exact ⟨by simp [found], rfl, unchanged⟩
    | posted record transfer source destination debit credit =>
      obtain ⟨_, _, posted⟩ := holds
      have performed := posted.performed
      obtain ⟨_, _, ⟨sourceFound, destinationFound, activeSource, activeDestination⟩, _⟩ :=
        reachable.admitted live finished (written ▸ Effect.inserts_posted)
      have notSource : transfer.sourceAccountId ≠ id := by
        rintro rfl
        cases sourceFound.symm.trans found
        cases activeSource.symm.trans inactive
      have notDestination : transfer.destinationAccountId ≠ id := by
        rintro rfl
        cases destinationFound.symm.trans found
        cases activeDestination.symm.trans inactive
      refine ⟨?_, ?_, ?_⟩
      · simp [found, performed.source_id, performed.destination_id, notSource, notDestination]
      · simp [Db.entriesOf, Db.after, Transfer.debitEntry, Transfer.creditEntry, notSource,
          notDestination]
      · intro other member touches
        simp only [Db.after, List.mem_append, List.mem_singleton] at member
        rcases member with old | rfl
        · exact old
        · exact (touches.elim notSource notDestination).elim
  | operate operator =>
    cases operator with
    | setStatus wanted status =>
      refine ⟨?_, rfl, unchanged⟩
      simp only [engine, Operator.operate, account?_setStatus, found, Option.map_some]
      split
      · rename_i same
        have still : status = .inactive := by
          cases status with
          | inactive => rfl
          | active => exact absurd (by rw [← same, Table.key_of_lookup found]) never
        rw [still, ← inactive]
      · rfl
    | insertExchangeRate rate => exact ⟨found, rfl, unchanged⟩
    | insertFeeRule rule => exact ⟨found, rfl, unchanged⟩
  | _ => exact ⟨found, rfl, unchanged⟩

/-- Until an operator makes it active again, an inactive account keeps its row and its entries,
and no transfer names it, whatever had begun before it became inactive. -/
theorem inactive_accounts_unmoved (reachable : ledger.Reachable platform) {last : Ledger}
    {labels : List (Label sql Attempt Operator)} (run : Ledger.Run platform ledger labels last)
    {id : Uuid} {row : Account} (found : ledger.store.account? id = some row)
    (inactive : row.status = .inactive) (never : .operate (.setStatus id .active) ∉ labels) :
    last.store.account? id = some row ∧ last.store.entriesOf id = ledger.store.entriesOf id ∧
      ∀ transfer ∈ last.store.transfers, transfer.sourceAccountId = id ∨
        transfer.destinationAccountId = id → transfer ∈ ledger.store.transfers := by
  have all := run.induction (fun middle => Ledger.Reachable platform middle ∧
    middle.store.account? id = some row ∧
    middle.store.entriesOf id = ledger.store.entriesOf id ∧
    ∀ transfer ∈ middle.store.transfers, transfer.sourceAccountId = id ∨
      transfer.destinationAccountId = id → transfer ∈ ledger.store.transfers)
    ⟨reachable, found, rfl, fun _ old _ => old⟩ ?_
  · exact all.2
  intro middle next label member before step
  obtain ⟨reached, still, entries, old⟩ := before
  obtain ⟨kept, same, earlier⟩ := reached.inactive_step step still inactive
    (fun clash => never (clash ▸ member))
  exact ⟨reached.step step, kept, same.trans entries, fun transfer new touches =>
    old transfer (earlier transfer new touches) touches⟩

def Ledger.operated (platform : Platform) (ledger : Ledger) (operator : Operator) : Ledger :=
  { ledger with
    store := ((engine platform).operate operator (ledger.store, ledger.reference)).1
    reference := ((engine platform).operate operator (ledger.store, ledger.reference)).2
    history := ledger.history ++ [.operated operator] }

def Sample.deactivation : Operator := .setStatus (Sample.resource 16) .inactive

theorem inactive_accounts_unmoved_meanwhile :
    ∃ (ledger last : Ledger) (row : Account), ledger.sessions 100 ≠ none ∧
      row.status = .inactive ∧ row.balanceMinor.val = 10000 ∧ last.sessions 100 = none ∧
      last.store.account? (Sample.resource 16) = some row := by
  -- Alice's account becomes inactive while her payment has not yet locked it.
  have evaluated : ((Sample.ledger (Sample.paid.take 2)).performAll (engine .reference)
      (handle .reference)
      (Sample.moves 100 (Sample.transfer 8 "alice" "pay" 1 2 "30.00") 4)).bind
      (fun before : Ledger =>
        ((Ledger.operated .reference before Sample.deactivation).performAll
          (engine .reference) (handle .reference)
          (List.replicate 7 (.advance 100) ++ [.finish 100])).map fun last : Ledger =>
            ((before.begun, before.free (engine .reference) 0 Sample.deactivation.locks,
                (before.sessions 100).isSome),
              ((Ledger.operated .reference before Sample.deactivation).store.account?
                (Sample.resource 16)).map fun row => (row.status, row.balanceMinor.val),
              (last.sessions 100).isSome)) =
      some (([100, 2, 1], true, true), some (.inactive, 10000), false) := by
    decide +kernel
  obtain ⟨before, performed, evaluated⟩ := Option.bind_eq_some_iff.mp evaluated
  obtain ⟨last, finished, facts⟩ := Option.map_eq_some_iff.mp evaluated
  simp only [Prod.mk.injEq] at facts
  obtain ⟨⟨begun, unlocked, live⟩, account, ended⟩ := facts
  obtain ⟨row, found, shown⟩ := Option.map_eq_some_iff.mp account
  obtain ⟨inactive, balance⟩ := Prod.mk.inj shown
  have reachable := (Sample.reachable _).performAll (Sample.idle _) performed
  have known : before.Known := by
    obtain ⟨configuration, labels, run⟩ := reachable
    exact (Ledger.start_idle configuration).known.run run
  have free : before.Free (engine .reference) none Sample.deactivation.locks := by
    intro other session _ present
    have among := known other session present
    rw [begun] at among
    apply System.free_sound known unlocked other session _ present
    rintro ⟨⟩
    simp at among
  have step : Ledger.Step .reference before (.operate Sample.deactivation)
      (Ledger.operated .reference before Sample.deactivation) := .operate _ trivial free
  obtain ⟨labels, none, run⟩ := System.performAll_sound (known.step step) finished
  obtain ⟨kept, _⟩ := inactive_accounts_unmoved (reachable.step step) run found inactive (none _)
  exact ⟨_, last, row, Option.isSome_iff_ne_none.mp live, inactive, balance,
    by simpa using ended, kept⟩

end Runs

end LedgerService
