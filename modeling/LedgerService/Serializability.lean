import LedgerService.Books
import LedgerService.Isolation
import LedgerService.Reference

set_option autoImplicit false

namespace LedgerService

open Transaction Bookkeeping

def transferredBy : Ledger.Event → List Transfer
  | .committed _ _ writes =>
      writes.filterMap fun
        | .insertTransfer row => some row
        | _ => none
  | .operated _ => []

def transferred (history : List Ledger.Event) : List Transfer := history.flatMap transferredBy

@[simp] theorem transferred_append (history : List Ledger.Event) (event : Ledger.Event) :
    transferred (history ++ [event]) = transferred history ++ transferredBy event := by
  simp [transferred]

@[simp] theorem transferredBy_effect (attempt : Attempt) (reply : Reply) (effect : Effect) :
    transferredBy (.committed attempt reply effect.writes) =
      match effect with
      | .posted _ transfer _ _ _ _ => [transfer]
      | _ => [] := by
  cases effect <;> rfl

@[simp] theorem transferredBy_operated (operator : Operator) :
    transferredBy (.operated operator) = [] := rfl

/-- Every balance and version of a row is that of the row the run found or inserted, moved by every
transfer that was committed since. -/
structure Accumulated (before after : Db) (history : List Ledger.Event) : Prop where
  follows : ∀ id row, after.account? id = some row → ∃ first,
    (before.account? id = some first ∨
      before.account? id = none ∧ first.id = id ∧ first ∈ openings history) ∧
    row.balanceMinor.val =
      first.balanceMinor.val + flow Transfer.movement (transferred history) id ∧
    row.version.val = first.version.val + touches Transfer.movement (transferred history) id
  untouched : ∀ id, after.account? id = none → before.account? id = none ∧
    ∀ transfer ∈ transferred history,
      transfer.sourceAccountId ≠ id ∧ transfer.destinationAccountId ≠ id

namespace Accumulated

variable {platform : Platform} {attempt : Attempt} {configuration : Configuration} {before db : Db}
  {history : List Ledger.Event} {reply : Reply}

theorem opened {record : IdempotencyRecord} {account : Account}
    (accumulated : Accumulated before db history)
    (_ : Opened platform attempt db record reply account) :
    Accumulated before (db.after (.opened record account))
      (history ++ [.committed attempt reply (Effect.opened record account).writes]) where
  follows := by
    intro id row found
    rw [Db.account?_after] at found
    simp only [transferred_append, transferredBy_effect, List.append_nil, openings_append,
      openedBy_effect, List.mem_append, List.mem_singleton]
    cases known : db.account? id with
    | some old =>
      obtain ⟨first, origin, moved⟩ := accumulated.follows id old known
      simp only [known, Option.some_or, Option.some.injEq] at found
      refine ⟨first, ?_, found ▸ moved⟩
      rcases origin with found | ⟨new, named, member⟩
      · exact .inl found
      · exact .inr ⟨new, named, .inl member⟩
    | none =>
      simp only [known, Option.none_or] at found
      have same : account.id = id ∧ account = row := by simpa using found
      obtain ⟨new, still⟩ := accumulated.untouched id known
      have unmoved : flow Transfer.movement (transferred history) id = 0 :=
        flow_eq_zero fun transfer member => transfer.movement.on_of_untouched id
          (still transfer member).1 (still transfer member).2
      have untouched : touches Transfer.movement (transferred history) id = 0 :=
        touches_eq_zero fun transfer member => still transfer member
      exact ⟨account, .inr ⟨new, same.1, .inr rfl⟩, by simp [same.2, unmoved],
        by simp [same.2, untouched]⟩
  untouched := by
    intro id unused
    rw [Db.account?_after, Option.or_eq_none_iff] at unused
    simpa using accumulated.untouched id unused.1

theorem posted {record : IdempotencyRecord} {transfer : Transfer}
    {oldSource oldDestination source destination : Account} {debit credit : Uuid}
    (accumulated : Accumulated before db history)
    (performed : Performed attempt configuration db transfer oldSource oldDestination source
      destination debit credit) :
    Accumulated before (db.after (.posted record transfer source destination debit credit))
      (history ++ [.committed attempt reply
        (Effect.posted record transfer source destination debit credit).writes]) where
  follows := by
    intro id row found
    obtain ⟨old, known, _, balance, version, _⟩ := performed.account_after found
    obtain ⟨first, origin, followed, counted⟩ := accumulated.follows id old known
    refine ⟨first, by simpa using origin, ?_, ?_⟩
    · simp only [transferred_append, transferredBy_effect, flow_append, flow_singleton]
      rw [balance, followed]
      omega
    · simp only [transferred_append, transferredBy_effect, touches_append, touches_singleton,
        Int.natCast_add]
      rw [version, counted]
      omega
  untouched := by
    intro id unused
    have gone : db.account? id = none := by simpa using unused
    obtain ⟨new, still⟩ := accumulated.untouched id gone
    refine ⟨new, ?_⟩
    intro other member
    simp only [transferred_append, transferredBy_effect, List.mem_append, List.mem_singleton]
      at member
    rcases member with old | rfl
    · exact still other old
    · constructor
      · rintro rfl
        exact absurd (performed.sourceFound.symm.trans gone) (by simp)
      · rintro rfl
        exact absurd (performed.destinationFound.symm.trans gone) (by simp)

theorem operated {operator : Operator} (accumulated : Accumulated before db history)
    (configuration : Configuration) :
    Accumulated before (operator.operate (db, configuration)).1 (history ++ [.operated operator]) := by
  obtain ⟨follows, untouched⟩ := accumulated
  cases operator with
  | setStatus id status =>
    constructor
    · intro wanted row found
      rw [Operator.operate, account?_setStatus] at found
      obtain ⟨old, known, rfl⟩ := Option.map_eq_some_iff.mp found
      obtain ⟨first, origin, moved⟩ := follows wanted old known
      refine ⟨first, by simpa using origin, ?_⟩
      split <;> simpa using moved
    · intro wanted unused
      rw [Operator.operate, account?_setStatus, Option.map_eq_none_iff] at unused
      simpa using untouched wanted unused
  | insertExchangeRate row => constructor <;> simpa [Operator.operate]
  | insertFeeRule row => constructor <;> simpa [Operator.operate]

end Accumulated

/-- Whatever the interleaving, the tables and the answers are those of the committed requests run
one at a time in the order of their commits; no balance and no version loses an update. -/
theorem write_handlers_serializable {platform : Platform} {before after : Ledger}
    {labels : List (Label sql Attempt Operator)} (idle : before.Idle) (unused : before.history = [])
    (fixed : Admitted Operator.KeepsConfiguration labels)
    (run : Ledger.Run platform before labels after) :
    serially (engine platform) (handle platform) (before.store, before.reference) after.history =
      some ((after.store, after.reference), after.history.filterMap Event.answer?) ∧
    ∀ id row, after.store.account? id = some row → ∃ first,
      (before.store.account? id = some first ∨
        before.store.account? id = none ∧ first.id = id ∧ first ∈ openings after.history) ∧
      row.balanceMinor.val =
        first.balanceMinor.val + flow Transfer.movement (transferred after.history) id ∧
      row.version.val =
        first.version.val + touches Transfer.movement (transferred after.history) id := by
  have accumulated : Accumulated before.store after.store after.history := by
    refine run.invariant (fixedIsolation platform)
      (fun db _ history => Accumulated before.store db history) fixed idle.consistent ?_ ?_ ?_
    · rw [unused]
      exact ⟨fun id row found => ⟨row, .inl found, by simp [transferred], by simp [transferred]⟩,
        fun id unknown => ⟨unknown, by simp [transferred]⟩⟩
    · intro attempt configuration db history reply writes accumulated commits
      obtain ⟨effect, holds, rfl⟩ :=
        @handle_commits _ Eq _ _ _ _ _ (by rintro _ _ rfl; exact .refl _) commits
      rw [view_writes holds]
      cases effect with
      | replayed =>
        obtain ⟨follows, untouched⟩ := accumulated
        constructor <;> simpa [Db.after]
      | opened record account => exact accumulated.opened holds
      | posted record transfer source destination debit credit =>
        obtain ⟨_, _, posted⟩ := holds
        exact accumulated.posted posted.performed
    · intro operator configuration db history _ _ accumulated
      exact accumulated.operated configuration
  exact ⟨run.serializable (fixedIsolation platform) fixed idle unused, accumulated.follows⟩

-- Two accounts are opened at the same time, and then their owners pay each other.
def Sample.crossed : List (Move Attempt) :=
  let open₁ := Sample.account 1 "alice" "EUR" "100.00"
  let open₂ := Sample.account 2 "bob" "EUR" "5.00"
  [.begin 1 open₁, .begin 2 open₂, .advance 2, .advance 1, .advance 1, .advance 2, .advance 2,
    .advance 1, .advance 2, .advance 1, .finish 2, .finish 1] ++
  Sample.moves 3 (Sample.transfer 4 "alice" "pay" 1 2 "30.00") 10 ++
  Sample.moves 4 (Sample.transfer 5 "bob" "pay" 2 1 "1.00") 9 ++
  List.replicate 7 (.advance 3) ++ [.finish 3] ++ List.replicate 8 (.advance 4) ++ [.finish 4]

theorem write_handlers_serializable_crossed :
    ∃ after : Ledger, after.history.length = 4 ∧
      serially (engine .reference) (handle .reference) (.empty, Sample.configuration)
        after.history =
          some ((after.store, after.reference), after.history.filterMap Event.answer?) := by
  have evaluated : ((Ledger.start Sample.configuration).performAll (engine .reference)
      (handle .reference) Sample.crossed).map (fun after : Ledger => after.history.length) =
        some 4 := by decide +kernel
  obtain ⟨after, performed, four⟩ := Option.map_eq_some_iff.mp evaluated
  have idle := Ledger.start_idle Sample.configuration
  obtain ⟨labels, unattended, run⟩ := System.performAll_sound idle.known performed
  have fixed : Admitted Operator.KeepsConfiguration labels := fun operator member =>
    absurd member (unattended operator)
  exact ⟨after, four, (write_handlers_serializable idle rfl fixed run).1⟩

end LedgerService
