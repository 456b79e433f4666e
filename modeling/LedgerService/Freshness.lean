import LedgerService.Acceptance
import LedgerService.Reconciliation
import LedgerService.Transaction.Waiting

set_option autoImplicit false

namespace LedgerService

open Transaction

section Identifiers

-- The calls of `Uuid::new_v4()`.
def Attempt.minted (attempt : Attempt) : List Uuid :=
  match attempt.request with
  | .createAccount _ => [attempt.ids.resource]
  | .createTransfer _ | .reverseTransfer _ =>
      [attempt.ids.resource, attempt.ids.debitEntry, attempt.ids.creditEntry]

def Db.minted (db : Db) : List Uuid :=
  db.accounts.map Account.id ++ db.transfers.map Transfer.id ++ db.accountEntries.map AccountEntry.id

variable {platform : Platform} {attempt : Attempt} {configuration : Configuration} {db : Db}
  {reply : Reply} {effect : Effect} {id : Uuid}

theorem Db.unminted (new : id ∉ db.minted) :
    db.account? id = none ∧ db.transfer? id = none ∧ db.entryRow? id = none := by
  simp only [Db.minted, List.mem_append, List.mem_map, not_or, not_exists, not_and] at new
  exact ⟨Table.lookup_eq_none.mpr new.1.1, Table.lookup_eq_none.mpr new.1.2,
    Table.lookup_eq_none.mpr new.2⟩

def Attempt.New (attempt : Attempt) (db : Db) : Prop := ∀ id ∈ attempt.minted, id ∉ db.minted

theorem Attempt.New.resource (new : attempt.New db) : attempt.ids.resource ∉ db.minted := by
  apply new
  unfold Attempt.minted
  split <;> exact List.mem_cons_self

theorem Attempt.New.fresh (new : attempt.New db) (distinct : attempt.minted.Nodup)
    (moves : ∀ body, attempt.request ≠ .createAccount body) : attempt.Fresh db := by
  have mine : attempt.minted =
      [attempt.ids.resource, attempt.ids.debitEntry, attempt.ids.creditEntry] := by
    unfold Attempt.minted
    split
    · exact absurd ‹_› (moves _)
    all_goals rfl
  have resource := Db.unminted new.resource
  have debit := Db.unminted (new attempt.ids.debitEntry (by simp [mine]))
  have credit := Db.unminted (new attempt.ids.creditEntry (by simp [mine]))
  simp only [mine, List.nodup_cons, List.mem_singleton] at distinct
  exact ⟨resource.1, resource.2.1, debit.2.2, credit.2.2, distinct.2.1⟩

theorem minted_after (holds : effect.Holds platform attempt configuration db reply)
    (told : effect.Told attempt) (member : id ∈ (db.after effect).minted) :
    id ∈ db.minted ∨ id ∈ attempt.minted := by
  cases effect with
  | replayed => exact .inl member
  | opened record account =>
    obtain ⟨body, asked⟩ := holds.request
    have mine : attempt.minted = [account.id] := by simp [Attempt.minted, asked, told.1]
    simp only [Db.minted, Db.after, List.map_append, List.map_cons, List.map_nil, List.mem_append,
      List.mem_singleton] at member
    simp only [Db.minted, List.mem_append, mine, List.mem_singleton]
    tauto
  | posted record transfer source destination debit credit =>
    obtain ⟨_, _, posted⟩ := holds
    obtain ⟨⟨transferId, debitId, creditId⟩, _⟩ := told
    have mine : attempt.minted = [transfer.id, debit, credit] := by
      rcases posted.performed.terms with ⟨⟨_, asked⟩⟩ | ⟨⟨_, asked⟩⟩ | ⟨⟨_, asked⟩⟩
      all_goals simp [Attempt.minted, asked, transferId, debitId, creditId]
    simp only [Db.minted, Db.after, Table.keys_replace, List.map_append, List.map_cons, List.map_nil,
      Transfer.debitEntry, Transfer.creditEntry, List.mem_append, List.mem_singleton] at member
    simp only [Db.minted, List.mem_append, mine, List.mem_cons, List.not_mem_nil, or_false]
    tauto

theorem minted_operate (operator : Operator) :
    (operator.operate (db, configuration)).1.minted = db.minted := by
  cases operator with
  | setStatus id status =>
    simp only [Operator.operate, Db.minted, accounts_setStatus_ids]
    rfl
  | insertExchangeRate row => rfl
  | insertFeeRule row => rfl

theorem Ledger.Reachable.minted {ledger : Ledger} (reachable : ledger.Reachable platform)
    (member : id ∈ ledger.store.minted) : ∃ attempt reply writes,
      .committed attempt reply writes ∈ ledger.history ∧ id ∈ attempt.minted := by
  obtain ⟨configuration, labels, run⟩ := reachable
  refine run.invariant (growingIsolation platform)
    (fun db _ history => ∀ id ∈ db.minted, ∃ attempt reply writes,
      (.committed attempt reply writes : Ledger.Event) ∈ history ∧ id ∈ attempt.minted)
    (fun _ _ => trivial) (Ledger.start_idle configuration).consistent ?_ ?_ ?_ id member
  · simp [Ledger.start, Db.empty, Db.minted]
  · intro attempt configuration db history reply writes before commits id member
    obtain ⟨effect, holds, told, rfl⟩ := handle_commits_told (fun within => within) commits
    rw [view_writes holds] at member
    rcases minted_after holds told member with old | new
    · obtain ⟨attempt', reply', writes', committed, mine⟩ := before id old
      exact ⟨attempt', reply', writes', List.mem_append_left _ committed, mine⟩
    · exact ⟨attempt, reply, effect.writes, by simp, new⟩
  · intro operator configuration db history _ _ before id member
    obtain ⟨attempt, reply, writes, committed, mine⟩ := before id (minted_operate operator ▸ member)
    exact ⟨attempt, reply, writes, List.mem_append_left _ committed, mine⟩

end Identifiers

section Promises

def Label.minted : Label sql Attempt Operator → List Uuid
  | .begin _ attempt => attempt.minted
  | _ => []

def Numeric.Finite (rate : Numeric) : Prop :=
  ∃ coefficient : Int, rate = .finite coefficient ∧ coefficient < 10 ^ 30

/-- What is relied on about the requests and the operators of a run. -/
structure Promised (platform : Platform) (labels : List (Label sql Attempt Operator)) : Prop where
  served : ∀ id attempt, .begin id attempt ∈ labels → attempt.Served platform
  -- No identifier is minted twice.
  minted : (labels.flatMap Label.minted).Nodup
  rates : ∀ row, .operate (.insertExchangeRate row) ∈ labels → row.rate.Finite

variable {platform : Platform} {labels more : List (Label sql Attempt Operator)} {ledger : Ledger}
  {configuration : Configuration} {id : Nat} {attempt : Attempt}

theorem Promised.earlier (promised : Promised platform (labels ++ more)) :
    Promised platform labels where
  served id attempt member := promised.served id attempt (List.mem_append_left _ member)
  minted := by
    have whole := promised.minted
    rw [List.flatMap_append] at whole
    exact whole.of_append_left
  rates row member := promised.rates row (List.mem_append_left _ member)

theorem Promised.distinct (promised : Promised platform labels) (began : .begin id attempt ∈ labels) :
    attempt.minted.Nodup :=
  (List.nodup_flatMap.mp promised.minted).1 (.begin id attempt) began

theorem Promised.new (promised : Promised platform labels)
    (run : Ledger.Run platform (.start configuration) labels ledger)
    (began : .begin id attempt ∈ labels) (uncommitted : .commit id ∉ labels) :
    attempt.New ledger.store := by
  intro uuid mine stored
  have idle := Ledger.start_idle configuration
  obtain ⟨other, reply, writes, committed, theirs⟩ :=
    Ledger.Reachable.minted ⟨configuration, labels, run⟩ stored
  obtain ⟨other_id, otherBegan, otherCommitted⟩ := run.committed_began idle rfl committed
  have apart : (.begin id attempt : Label sql Attempt Operator) ≠ .begin other_id other := by
    rintro ⟨⟩
    exact uncommitted otherCommitted
  have symmetric : Std.Symm (Function.onFun List.Disjoint Label.minted) :=
    ⟨fun _ _ disjoint => List.Disjoint.symm disjoint⟩
  have disjoint := (List.nodup_flatMap.mp promised.minted).2.forall began otherBegan apart
  exact disjoint mine theirs

end Promises

section Configuration

variable {platform : Platform} {configuration : Configuration} {db : Db}

theorem Configuration.Valid.operate (valid : configuration.Valid) {operator : Operator}
    (admissible : operator.Admissible (db, configuration))
    (rates : ∀ row, operator = .insertExchangeRate row → row.rate.Finite) :
    (operator.operate (db, configuration)).2.Valid := by
  cases operator with
  | setStatus id status => exact valid
  | insertExchangeRate row =>
    refine ⟨?_, valid.fees⟩
    intro other member
    rcases List.mem_append.mp member with earlier | new
    · exact valid.rates other earlier
    · obtain rfl := List.mem_singleton.mp new
      obtain ⟨coefficient, finite, bounded⟩ := rates other rfl
      simp only [Operator.Admissible, exchangeRateChecks, firstViolation_cons, finite,
        Numeric.positive, decide_eq_true_eq] at admissible
      exact ⟨coefficient, finite, admissible.2.2.1, bounded⟩
  | insertFeeRule row =>
    refine ⟨valid.rates, ?_⟩
    intro other member
    rcases List.mem_append.mp member with earlier | new
    · exact valid.fees other earlier
    · obtain rfl := List.mem_singleton.mp new
      simp only [Operator.Admissible, feeRuleChecks, firstViolation_cons, Bool.and_eq_true,
        decide_eq_true_eq] at admissible
      exact admissible.1

theorem Promised.valid {labels : List (Label sql Attempt Operator)} {ledger : Ledger}
    (promised : Promised platform labels) (valid : configuration.Valid)
    (run : Ledger.Run platform (.start configuration) labels ledger) : ledger.reference.Valid := by
  apply run.induction (fun ledger => ledger.reference.Valid) valid
  intro middle next label member before step
  cases step with
  | operate operator admissible =>
    apply before.operate admissible
    rintro row rfl
    exact promised.rates row member
  | _ => exact before

end Configuration

section Versions

variable {platform : Platform} {ledger last : Ledger} {labels : List (Label sql Attempt Operator)}

theorem Ledger.Reachable.entries_kept (reachable : ledger.Reachable platform)
    (run : Ledger.Run platform ledger labels last) :
    ledger.store.accountEntries.Sublist last.store.accountEntries := by
  have both := run.induction (fun middle => Ledger.Reachable platform middle ∧
    ledger.store.accountEntries.Sublist middle.store.accountEntries) ⟨reachable, .refl _⟩ ?_
  · exact both.2
  rintro middle next label _ ⟨reached, kept⟩ step
  refine ⟨reached.step step, kept.trans ?_⟩
  rcases reached.step_store step with same | ⟨_, _, _, effect, _, _, _, after⟩ | ⟨id, status, _, after⟩
  · rw [same]
  · rw [after]
    cases effect with
    | posted record transfer source destination debit credit =>
      exact (List.sublist_append_left _ _).trans (List.sublist_append_left _ _)
    | _ => exact .refl _
  · rw [after]
    rfl

theorem Ledger.Reachable.room (reachable : ledger.Reachable platform)
    (run : Ledger.Run platform ledger labels last)
    (few : ∀ id, (last.store.entriesOf id).length + 1 < 2 ^ 63) :
    ∀ account ∈ ledger.store.accounts, account.version.val < I64.max := by
  -- The version of an account counts its entries.
  intro account member
  obtain ⟨_, _, follows⟩ :=
    reachable.reconciled.follows _ _ (reachable.keyed.account member)
  have counted := reachable.booked.length_eq_touches account.id
  have fewer := ((reachable.entries_kept run).filter fun entry => entry.accountId = account.id).length_le
  have bound := few account.id
  rw [Db.entriesOf] at bound
  rw [follows.version, ← counted, I64.max]
  omega

end Versions

end LedgerService
