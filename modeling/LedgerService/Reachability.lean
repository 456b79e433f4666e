import LedgerService.Isolation

set_option autoImplicit false

namespace LedgerService

open Transaction

abbrev Ledger.Event := Transaction.Event Attempt Write Operator Reply

structure Keyed (db : Db) : Prop where
  accounts : (db.accounts.map Account.id).Nodup
  transfers : (db.transfers.map Transfer.id).Nodup
  records : (db.idempotencyRecords.map IdempotencyRecord.scope).Nodup

section Keys

variable {platform : Platform} {attempt : Attempt} {configuration : Configuration} {db : Db}
  {reply : Reply} {effect : Effect}

theorem Keyed.after (keyed : Keyed db) (holds : effect.Holds platform attempt configuration db reply) :
    Keyed (db.after effect) := by
  cases effect with
  | replayed => exact keyed
  | opened record account =>
    exact ⟨Table.nodup_append keyed.accounts holds.unused, keyed.transfers,
      Table.nodup_append keyed.records holds.recorded.unused⟩
  | posted record transfer source destination debit credit =>
    obtain ⟨_, _, posted⟩ := holds
    refine ⟨?_, Table.nodup_append keyed.transfers posted.performed.unused,
      Table.nodup_append keyed.records posted.recorded.unused⟩
    simpa [Db.after] using keyed.accounts

theorem accounts_setStatus_ids (db : Db) (id : Uuid) (status : AccountStatus) :
    (db.setStatus id status).accounts.map Account.id = db.accounts.map Account.id := by
  simp only [Db.setStatus, List.map_map]
  apply List.map_congr_left
  intro row _
  simp only [Function.comp_apply]
  split <;> rfl

theorem Keyed.setStatus (keyed : Keyed db) (id : Uuid) (status : AccountStatus) :
    Keyed (db.setStatus id status) :=
  ⟨accounts_setStatus_ids db id status ▸ keyed.accounts, keyed.transfers, keyed.records⟩

theorem Keyed.account (keyed : Keyed db) {account : Account} (member : account ∈ db.accounts) :
    db.account? account.id = some account :=
  Table.lookup_of_mem keyed.accounts member

theorem Keyed.transfer (keyed : Keyed db) {transfer : Transfer} (member : transfer ∈ db.transfers) :
    db.transfer? transfer.id = some transfer :=
  Table.lookup_of_mem keyed.transfers member

theorem Keyed.record (keyed : Keyed db) {record : IdempotencyRecord}
    (member : record ∈ db.idempotencyRecords) : db.record? record.scope = some record :=
  Table.lookup_of_mem keyed.records member

end Keys

/-- What each committed effect and each operator preserves, and the empty ledger has. -/
structure Inductive (platform : Platform)
    (holds : Configuration → Db → List Ledger.Event → Prop) : Prop where
  empty : ∀ configuration, holds configuration .empty []
  after : ∀ {attempt configuration db history reply effect}, Keyed db →
    holds configuration db history → Effect.Holds platform attempt configuration db reply effect →
    holds configuration (db.after effect) (history ++ [.committed attempt reply effect.writes])
  setStatus : ∀ {configuration db history} (id status), Keyed db → holds configuration db history →
    holds configuration (db.setStatus id status) (history ++ [.operated (.setStatus id status)])
  grown : ∀ {configuration configuration' db history} (operator), configuration.Within configuration' →
    holds configuration db history → holds configuration' db (history ++ [.operated operator])

section Reachable

variable {platform : Platform} {ledger : Ledger}

theorem Ledger.start_idle (configuration : Configuration) : (Ledger.start configuration).Idle :=
  fun _ => rfl

theorem Ledger.Reachable.step {next : Ledger} {label : Label sql Attempt Operator}
    (reachable : ledger.Reachable platform) (step : Ledger.Step platform ledger label next) :
    next.Reachable platform := by
  obtain ⟨configuration, labels, run⟩ := reachable
  exact ⟨configuration, _, run.step step⟩

theorem Ledger.Reachable.run {last : Ledger} {labels : List (Label sql Attempt Operator)}
    (reachable : ledger.Reachable platform) (run : Ledger.Run platform ledger labels last) :
    last.Reachable platform := by
  obtain ⟨configuration, before, first⟩ := reachable
  exact ⟨configuration, _, first.trans run⟩

theorem Ledger.Reachable.consistent (reachable : ledger.Reachable platform) :
    Consistent (engine platform) (handle platform) Configuration.Within Evolves ledger := by
  obtain ⟨configuration, labels, run⟩ := reachable
  exact run.consistent (growingIsolation platform) (fun _ _ => trivial)
    (Ledger.start_idle configuration).consistent

theorem Ledger.Reachable.effect (reachable : ledger.Reachable platform) {id : Nat}
    {session : Session sql Attempt Write Lock Reply} {reply : Reply}
    (live : ledger.sessions id = some session) (finished : session.rest = .done reply) :
    ∃ effect : Effect,
      effect.Holds platform session.context ledger.reference ledger.store reply ∧
      effect.writes = session.writes ∧
      (engine platform).view ledger.store session.writes = ledger.store.after effect := by
  have commits := reachable.consistent.commits (growingIsolation platform) live finished
  obtain ⟨effect, holds, same⟩ := handle_commits (fun within => within) commits
  exact ⟨effect, holds, same, same ▸ view_writes holds⟩

theorem Ledger.Reachable.committed (reachable : ledger.Reachable platform) {id : Nat}
    {session : Session sql Attempt Write Lock Reply} {next : Ledger}
    (live : ledger.sessions id = some session)
    (step : Ledger.Step platform ledger (.commit id) next) :
    ∃ reply effect, Effect.Holds platform session.context ledger.reference ledger.store reply effect ∧
      next.store = ledger.store.after effect := by
  cases step with
  | commit committing finished =>
    rw [live] at committing
    cases committing
    obtain ⟨effect, holds, _, written⟩ := reachable.effect live finished
    exact ⟨_, effect, holds, written⟩

theorem Ledger.Reachable.step_store (reachable : ledger.Reachable platform) {next : Ledger}
    {label : Label sql Attempt Operator} (step : Ledger.Step platform ledger label next) :
    next.store = ledger.store ∨
    (∃ id session reply effect, label = .commit id ∧ ledger.sessions id = some session ∧
      Effect.Holds platform session.context ledger.reference ledger.store reply effect ∧
      next.store = ledger.store.after effect) ∨
    ∃ id status, label = .operate (.setStatus id status) ∧
      next.store = ledger.store.setStatus id status := by
  cases step with
  | commit live finished =>
    rename_i id session reply
    obtain ⟨effect, holds, _, written⟩ := reachable.effect live finished
    exact .inr (.inl ⟨id, session, reply, effect, rfl, live, holds, written⟩)
  | operate operator =>
    cases operator with
    | setStatus id status => exact .inr (.inr ⟨id, status, rfl, rfl⟩)
    | insertExchangeRate row => exact .inl rfl
    | insertFeeRule row => exact .inl rfl
  | _ => exact .inl rfl

theorem Ledger.Step.keeps_history {next : Ledger} {label : Label sql Attempt Operator}
    (step : Ledger.Step platform ledger label next) : ledger.history ⊆ next.history := by
  cases step with
  | commit | operate => exact List.subset_append_left _ _
  | _ => exact List.Subset.refl _

theorem Ledger.Run.keeps_history {last : Ledger} {labels : List (Label sql Attempt Operator)}
    (run : Ledger.Run platform ledger labels last) : ledger.history ⊆ last.history := by
  induction run with
  | refl => exact List.Subset.refl _
  | step _ step ih => exact List.Subset.trans ih (Ledger.Step.keeps_history step)

theorem Ledger.Reachable.induction {holds : Configuration → Db → List Ledger.Event → Prop}
    (preserved : Inductive platform holds) (reachable : ledger.Reachable platform) :
    Keyed ledger.store ∧ holds ledger.reference ledger.store ledger.history := by
  obtain ⟨configuration, labels, run⟩ := reachable
  apply run.invariant (growingIsolation platform)
    (fun db configuration history => Keyed db ∧ holds configuration db history)
    (fun _ _ => trivial) (Ledger.start_idle configuration).consistent
  · exact ⟨⟨List.nodup_nil, List.nodup_nil, List.nodup_nil⟩, preserved.empty configuration⟩
  · intro attempt configuration db history reply writes before commits
    obtain ⟨effect, effected, rfl⟩ := handle_commits id commits
    rw [view_writes effected]
    exact ⟨before.1.after effected, preserved.after before.1 before.2 effected⟩
  · intro operator configuration db history _ _ before
    cases operator with
    | setStatus id status =>
      exact ⟨before.1.setStatus id status, preserved.setStatus id status before.1 before.2⟩
    | insertExchangeRate row =>
      exact ⟨before.1, preserved.grown (.insertExchangeRate row)
        (Operator.configuration_within (.insertExchangeRate row) db configuration) before.2⟩
    | insertFeeRule row =>
      exact ⟨before.1, preserved.grown (.insertFeeRule row)
        (Operator.configuration_within (.insertFeeRule row) db configuration) before.2⟩

theorem Ledger.Reachable.keyed (reachable : ledger.Reachable platform) : Keyed ledger.store :=
  (@Reachable.induction _ _ (fun _ _ _ => True)
    ⟨fun _ => trivial, fun _ _ _ => trivial, fun _ _ _ _ => trivial, fun _ _ _ => trivial⟩
    reachable).1

end Reachable

section Evolution

variable {platform : Platform} {attempt : Attempt} {configuration : Configuration} {db : Db}
  {reply : Reply} {effect : Effect}

theorem evolves_after (holds : effect.Holds platform attempt configuration db reply) :
    Evolves [] db (db.after effect) := by
  -- Nothing is locked by an onlooker, who still may rely on what never changes.
  apply @evolves_of_effect _ _ (effect.writes.flatMap Write.locks) _ _ _ _ _ _ _ holds
  · intro lock member
    cases member
  · intro write member lock needed
    exact List.mem_flatMap.mpr ⟨write, member, needed⟩

theorem evolves_setStatus (platform : Platform) (db : Db) (id : Uuid) (status : AccountStatus) :
    Evolves [] db (db.setStatus id status) := by
  apply @evolves_of_operator platform _ (.setStatus id status) _ ⟨[], []⟩
  intro lock member
  cases member

end Evolution

end LedgerService
