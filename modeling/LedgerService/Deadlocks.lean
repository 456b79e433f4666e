import LedgerService.Ordering
import LedgerService.Reference

set_option autoImplicit false

namespace LedgerService

open Transaction

section Handlers

variable {platform : Platform} {attempt : Attempt} {locks : List Lock} {writes : List Write}
  {db : Db} {scope : Scope} {fingerprint : String}

theorem lock_of_find {rows : List LockedAccount} {wanted : Uuid} {row : LockedAccount}
    (held : ∀ row ∈ rows, ⟨.account row.id, .update⟩ ∈ locks)
    (found : rows.find? (fun row => row.id = wanted) = some row) :
    ⟨.account wanted, .update⟩ ∈ locks := by
  have same : row.id = wanted := by simpa using List.find?_some found
  exact same ▸ held row (List.mem_of_find?_eq_some found)

theorem performTransfer_ordered {clientId : String} {preliminary : Preliminary}
    {request : TransferRequest} {amountMinor : I64}
    (known : attempt.identity platform db = some (scope, fingerprint))
    (reserved : Reserved scope locks) (proper : Proper platform attempt locks db) :
    OrderedHandler platform attempt locks writes db
      (performTransfer clientId attempt.ids scope preliminary request amountMinor) := by
  simp only [performTransfer, Program.bind_eq]
  apply ordered_read_bind (fun _ _ => attempt.started) (fun _ _ => rfl) (fun _ => rfl) rfl proper
    (by simp [Statement.scope?])
  intro _ later₁ grown₁
  apply ordered_selectFxConfiguration_bind (proper.evolve grown₁)
  intro fx later₂ grown₂
  have since := grown₁.trans grown₂
  apply ordered_selectAccountsForUpdate_bind (proper.evolve since)
    (fun lock member => Nat.lt_of_lt_of_le (reserved.below lock member) (by decide))
  intro accounts later₃ locks₃ more₃ grown₃ proper₃ below₃ held
  apply ordered_ofExcept_bind proper₃
  rintro ⟨source, destination⟩ chosen
  obtain ⟨_, first, second, _, _⟩ := transferAccounts_eq_ok.mp chosen
  apply ordered_ofExcept_bind proper₃
  intro terms _
  apply ordered_ofExcept_bind proper₃
  rintro ⟨sourceBalance, destinationBalance⟩ _
  apply ordered_post_bind _ proper₃ below₃
  · intro createdAt later₄ locks₄ writes₄ more₄ grown₄ proper₄
    apply ordered_ofExcept_bind proper₄
    intro responseBody _
    have all := ((since.trans grown₃).fewer (List.nil_subset _)).trans
      (grown₄.fewer (List.nil_subset _))
    apply ordered_storeSuccess_bind proper₄ (identity_evolves all known)
      (more₄ (more₃ reserved.held))
    intro _ _ _ proper₅
    exact proper₅
  · exact ⟨lock_of_find held first, lock_of_find held second, by simp [transferPosting],
      ⟨rfl, rfl, rfl, rfl⟩, ⟨rfl, rfl, rfl, rfl⟩⟩

theorem performReversal_ordered {clientId : String} {id : Uuid} {record : IdempotencyRecord}
    (known : attempt.identity platform db = some (scope, fingerprint))
    (reserved : Reserved scope locks) (proper : Proper platform attempt locks db) :
    OrderedHandler platform attempt locks [.insertRecord record] db
      (performReversal clientId attempt.ids scope id) := by
  simp only [performReversal, lockOriginal, Program.bind_eq, Program.bind_assoc]
  -- The original's lock, where there is an original.
  have only : ∀ {seen : Db} {lock : Lock}, lock ∈ (Statement.lockTransfer id).locks seen →
      lock = ⟨.transfer id, .update⟩ := by
    intro seen lock member
    simp only [Statement.locks] at member
    split at member
    · exact List.mem_singleton.mp member
    · cases member
  apply ordered_send_bind proper (by simp [Statement.scope?]) (by simp [Statement.entryRow?])
  · intro configuration later answer grown _ wanted member
    rw [only member]
    right
    intro lock held
    have least := @Reserved.below _ later _ reserved lock held
    have above : (Resource.transfer id).rank later =
        if (later.transfer? id).isSome then 1 else 2 + 2 ^ 128 := rfl
    rw [above]
    split <;> omega
  intro configuration later₁ row more grown₁ ran proper₁
  cases ran
  rw [List.append_nil]
  apply ordered_orFail_bind proper₁
  intro original found
  have committed : (later₁.transfer? id).isSome = true := by
    obtain ⟨row, present, _⟩ := Option.map_eq_some_iff.mp found
    simpa using Option.isSome_iff_exists.mpr ⟨row, present⟩
  have locked : ⟨.transfer id, .update⟩ ∈ locks ++ (Statement.lockTransfer id).locks
      ((engine platform).view later₁ [.insertRecord record]) := by
    simp [Statement.locks, committed]
  have below : Below 2 (locks ++ (Statement.lockTransfer id).locks
      ((engine platform).view later₁ [.insertRecord record])) later₁ := by
    intro lock member
    rcases List.mem_append.mp member with old | new
    · exact Nat.lt_of_lt_of_le (reserved.below lock old) (by decide)
    · simp [only new, Resource.rank, committed]
  have record_held := List.mem_append_left ((Statement.lockTransfer id).locks
    ((engine platform).view later₁ [.insertRecord record])) reserved.held
  generalize locks ++ (Statement.lockTransfer id).locks
    ((engine platform).view later₁ [.insertRecord record]) = locks₁ at *
  apply ordered_ensure_bind proper₁
  intro _
  apply ordered_read_bind
    (fun _ db => (db.account? original.destinationAccountId).map Account.ownerId) (fun _ _ => rfl)
    (fun _ => rfl) rfl proper₁ (by simp [Statement.scope?])
  intro _ later₂ grown₂
  apply ordered_ensure_bind (proper₁.evolve grown₂)
  intro _
  apply ordered_read_bind (fun _ db => db.reversed id) (fun _ _ => rfl) (fun _ => rfl) rfl
    (proper₁.evolve grown₂) (by simp [Statement.scope?])
  intro _ later₃ grown₃
  have since := grown₂.trans grown₃
  apply ordered_ensure_bind (proper₁.evolve since)
  intro _
  rw [Program.done_bind]
  apply ordered_selectAccountsForUpdate_bind (proper₁.evolve since) (below.evolve since)
  intro accounts later₄ locks₄ more₄ grown₄ proper₄ below₄ held
  apply ordered_ofExcept_bind proper₄
  rintro ⟨source, destination⟩ chosen
  obtain ⟨_, first, second, _, _⟩ := reversalAccounts_eq_ok.mp chosen
  apply ordered_ofExcept_bind proper₄
  rintro ⟨sourceBalance, destinationBalance⟩ _
  apply ordered_post_bind _ proper₄ below₄
  · intro createdAt later₅ locks₅ writes₅ more₅ grown₅ proper₅
    apply ordered_ofExcept_bind proper₅
    intro responseBody _
    have all := ((grown₁.fewer (List.nil_subset _)).trans
      ((since.trans grown₄).fewer (List.nil_subset _))).trans (grown₅.fewer (List.nil_subset _))
    apply ordered_storeSuccess_bind proper₅ (identity_evolves all known)
      (more₅ (more₄ record_held))
    intro _ _ _ proper₆
    exact proper₆
  · refine ⟨lock_of_find held first, lock_of_find held second, ?_, ⟨rfl, rfl, rfl, rfl⟩,
      ⟨rfl, rfl, rfl, rfl⟩⟩
    rintro _ ⟨⟩
    exact more₄ locked

theorem createAccount_ordered {body : Option CreateAccountRequest}
    (asked : attempt.request = .createAccount body) :
    OrderedHandler platform attempt [] [] db
      (createAccount platform attempt.clientId attempt.headers body attempt.ids.resource) := by
  have proper := fun db => proper_nil platform attempt db
  simp only [createAccount, Program.bind_eq]
  apply ordered_ofExcept_bind (proper _)
  intro request valid
  apply ordered_read_bind (fun _ _ => ()) (fun _ _ => rfl) (fun _ => rfl) rfl (proper _)
    (by simp [Statement.scope?])
  intro _ later _
  have known : attempt.identity platform later =
      some (⟨attempt.clientId, .accountCreation, request.idempotencyKey.asStr⟩,
        accountCreationFingerprint platform request.currency.code request.balanceMinor) := by
    simp [Attempt.identity, asked, valid]
  apply ordered_reserve_bind known
  · intro result later' lost _
    cases result with
    | owned => exact absurd rfl lost
    | replay httpStatus responseBody => exact proper _
    | conflict => exact proper _
  · intro record later' locks' grown reserved proper'
    exact performAccountCreation_ordered (identity_evolves grown known) reserved proper'

theorem createTransfer_ordered {body : Option CreateTransferRequest}
    (asked : attempt.request = .createTransfer body) :
    OrderedHandler platform attempt [] [] db
      (createTransfer platform attempt.clientId attempt.headers body attempt.ids) := by
  have proper := fun db => proper_nil platform attempt db
  simp only [createTransfer, acquireConnection, Program.bind_eq, Program.bind_assoc]
  apply ordered_ofExcept_bind (proper _)
  intro request valid
  apply ordered_ask_bind ⟨fun _ => rfl, rfl, rfl, by rintro _ _ _ _ _ _ ⟨⟩; rfl⟩ (proper _)
  intro answer later₁ _
  cases answer with
  | error error => exact proper _
  | ok _ =>
    rw [Ordered, ensures_emit_bind]
    apply ordered_read_bind (fun _ _ => ()) (fun _ _ => rfl) (fun _ => rfl) rfl (proper _)
      (by simp [Statement.scope?])
    intro _ later₂ _
    apply ordered_read_bind
      (fun _ db => db.preliminary request.sourceAccountId request.destinationAccountId)
      (fun _ _ => rfl) (fun _ => rfl) rfl (proper _) (by simp [Statement.scope?])
    intro _ later _
    apply ordered_orFail_bind (proper _)
    intro preliminary found
    apply ordered_ofExcept_bind (proper _)
    intro operationType operation
    rw [Ordered, ensures_emit_bind]
    apply ordered_ofExcept_bind (proper _)
    intro amountMinor amount
    have known : attempt.identity platform later =
        some (⟨attempt.clientId, operationType, request.idempotencyKey.asStr⟩,
          transferFingerprint platform request.sourceAccountId request.destinationAccountId
            preliminary.sourceCurrency amountMinor) := by
      have found' : later.preliminary request.sourceAccountId request.destinationAccountId =
          some preliminary := found
      simp [Attempt.identity, asked, valid, found', operation, amount]
    apply ordered_replayOrReserve_bind known
    · intro _ later'
      exact proper later'
    · intro record later' locks' grown reserved proper'
      exact performTransfer_ordered (identity_evolves grown known) reserved proper'

theorem reverseTransfer_ordered {text : String}
    (asked : attempt.request = .reverseTransfer text) :
    OrderedHandler platform attempt [] [] db
      (reverseTransfer platform attempt.clientId attempt.headers text attempt.ids) := by
  have proper := fun db => proper_nil platform attempt db
  simp only [reverseTransfer, beginReversal, Program.bind_eq, Program.bind_assoc]
  apply ordered_ofExcept_bind (proper _)
  intro request valid
  apply ordered_ask_bind ⟨fun _ => rfl, rfl, rfl, by rintro _ _ _ _ _ _ ⟨⟩; rfl⟩ (proper _)
  intro answer later _
  cases answer with
  | error error => exact proper _
  | ok _ =>
    simp only [Program.done_bind]
    rw [Ordered, ensures_emit_bind]
    have known : attempt.identity platform later =
        some (⟨attempt.clientId, .reversal, request.idempotencyKey.asStr⟩,
          reversalFingerprint platform request.originalTransferId) := by
      simp [Attempt.identity, asked, valid]
    apply ordered_replayOrReserve_bind known
    · intro _ later'
      exact proper later'
    · intro record later' locks' grown reserved proper'
      exact performReversal_ordered (identity_evolves grown known) reserved proper'

theorem handle_ordered (platform : Platform) (attempt : Attempt) (db : Db) :
    OrderedHandler platform attempt [] [] db (handle platform attempt) := by
  unfold handle
  split
  · exact createAccount_ordered ‹_›
  · exact createTransfer_ordered ‹_›
  · exact reverseTransfer_ordered ‹_›

end Handlers

section Runs

variable {platform : Platform} {ledger : Ledger}

theorem Ledger.Reachable.orderly (reachable : ledger.Reachable platform) {id : Nat}
    {session : Session sql Attempt Write Lock Reply} (live : ledger.sessions id = some session) :
    session.Ensured (engine platform) Sound Evolves (Orderly platform session.context)
      (fun _ locks db => Proper platform session.context locks db)
      (fun _ locks _ db => Proper platform session.context locks db) ledger.store :=
  reachable.ensured live (handle_ordered platform session.context)

theorem Ledger.Reachable.proper (reachable : ledger.Reachable platform) {id : Nat}
    {session : Session sql Attempt Write Lock Reply} (live : ledger.sessions id = some session) :
    Proper platform session.context session.locks ledger.store :=
  (reachable.orderly live).knows reachable.sound (reachable.consistent.covered id session live)
    (fun _ _ sent => sent.proper) (fun _ _ grown proper => proper.evolve grown)
    (fun _ _ grown proper => proper.evolve grown)

def Ledger.entries (ledger : Ledger) (id : Nat) : List Uuid :=
  match ledger.sessions id with
  | none => []
  | some session => [session.context.ids.debitEntry, session.context.ids.creditEntry]

/-- No id is drawn twice by concurrent requests. -/
def Ledger.FreshEntries (ledger : Ledger) : Prop :=
  ∀ first second, first ≠ second → ∀ entry ∈ ledger.entries first, entry ∉ ledger.entries second

theorem Ledger.Reachable.ascending (reachable : ledger.Reachable platform)
    (fresh : ledger.FreshEntries) {first second third : Nat} {wanted held wanted' held' : Lock}
    (earlier : ledger.WaitsOn (engine platform) first second wanted held)
    (later : ledger.WaitsOn (engine platform) second third wanted' held') :
    held.resource.rank ledger.store < wanted'.resource.rank ledger.store := by
  -- What the middle session holds ranks below what it asks for.
  obtain ⟨_, _, holds, _⟩ := earlier
  obtain ⟨different, wants, holds', clash⟩ := later
  obtain ⟨session, live, mine⟩ := System.mem_held.mp holds
  obtain ⟨other, otherLive, theirs⟩ := System.mem_held.mp holds'
  obtain ⟨_, statement, next, answer, found, asked, ran, needed⟩ := System.mem_wanted wants
  rw [live] at found
  cases found
  obtain ⟨known, since, rest⟩ := reachable.orderly live
  rw [asked] at rest
  have sent := (rest _ _ reachable.sound since (reachable.consistent.covered _ _ live)).1
  have proper' := reachable.proper otherLive held' theirs
  have grows := (sent.proper.append sent.scope sent.entry) wanted' (List.mem_append_right _ needed)
  rcases sent.ascending answer ran wanted' needed with settled | below
  · exfalso
    rcases settled with own | ⟨entry, same⟩ | ⟨rate, same⟩
    · -- The other session cannot hold a lock on what is locked here.
      exact reachable.consistent.compatible second third session other different live otherLive
        _ own held' theirs ⟨clash.1.symm, LockMode.update_conflicts _⟩
    · have mine := grows.entry entry same
      have their := proper'.entry entry (clash.1.trans same)
      apply fresh second third different entry
      · simpa [Ledger.entries, live] using mine
      · simpa [Ledger.entries, otherLive] using their
    · have mode := grows.rate rate same
      have mode' := proper'.rate rate (clash.1.trans same)
      have conflict := clash.2
      rw [mode, mode'] at conflict
      cases conflict
  · exact below held mine

/-- Nobody waits in a circle, and where somebody waits, somebody else can go on. -/
theorem handlers_never_deadlock (reachable : ledger.Reachable platform)
    (fresh : ledger.FreshEntries) :
    (∀ id, ¬ Relation.TransGen (ledger.WaitsFor (engine platform)) id id) ∧
    ((∃ id, ledger.Waiting (engine platform) id) →
      ∃ id, ledger.sessions id ≠ none ∧ ¬ ledger.Waiting (engine platform) id ∧
        ∃ label next, label.actor = some id ∧ Ledger.Step platform ledger label next) := by
  have acyclic := System.no_circle (E := engine platform) (s := ledger)
    (fun lock => lock.resource.rank ledger.store)
    (fun held wanted clash => congrArg (Resource.rank ledger.store) clash.1)
    (fun _ _ _ _ _ _ _ earlier later => reachable.ascending fresh earlier later)
  refine ⟨acyclic, ?_⟩
  rintro ⟨waiting, holder, wanted, held, _, wants, _⟩
  obtain ⟨session, _, _, _, live, _⟩ := System.mem_wanted wants
  obtain ⟨configuration, labels, run⟩ := reachable
  obtain ⟨id, present, free⟩ := System.exists_not_waiting acyclic
    (fun id session live => run.live_begun (Ledger.start_idle configuration) live)
    ⟨waiting, by simp [live]⟩
  obtain ⟨one, found⟩ := Option.ne_none_iff_exists'.mp present
  exact ⟨id, present, free, System.step_of_not_waiting found free⟩

end Runs

-- Alice pays Bob while Bob pays Alice: both reach for the account with the smaller id first.
def Sample.opposed : List (Move Attempt) :=
  Sample.moves 100 (Sample.transfer 8 "alice" "pay" 1 2 "30.00") 11 ++
    Sample.moves 101 (Sample.transfer 9 "bob" "pay" 2 1 "1.00") 9

theorem handlers_never_deadlock_opposed :
    ∃ ledger : Ledger, ledger.WaitsFor (engine .reference) 101 100 ∧
      (∀ id, ¬ Relation.TransGen (ledger.WaitsFor (engine .reference)) id id) ∧
      ∃ id label next, label.actor = some id ∧ Ledger.Step .reference ledger label next := by
  have evaluated : ((Sample.ledger (Sample.paid.take 2)).performAll (engine .reference)
      (handle .reference) Sample.opposed).map (fun ledger : Ledger =>
        (ledger.wanted (engine .reference) 101, (ledger.held 100).drop 1,
          ledger.begun.map fun id => (id, ledger.entries id))) =
      some ([⟨.account (Sample.resource 16), .update⟩],
        [⟨.account (Sample.resource 16), .update⟩, ⟨.account (Sample.resource 32), .update⟩],
        [(101, [Sample.resource 145, Sample.resource 146]),
          (100, [Sample.resource 129, Sample.resource 130]), (2, []), (1, [])]) := by
    decide +kernel
  obtain ⟨ledger, performed, facts⟩ := Option.map_eq_some_iff.mp evaluated
  simp only [Prod.mk.injEq] at facts
  obtain ⟨wanted, held, drawn⟩ := facts
  have reachable := (Sample.reachable _).performAll (Sample.idle _) performed
  have listed : ∀ id entry, entry ∈ ledger.entries id → (id, ledger.entries id) ∈
      ledger.begun.map fun id => (id, ledger.entries id) := by
    intro id entry member
    obtain ⟨configuration, labels, run⟩ := reachable
    cases live : ledger.sessions id with
    | none => simp [Ledger.entries, live] at member
    | some session =>
      exact List.mem_map_of_mem (run.live_begun (Ledger.start_idle configuration) live)
  rw [drawn] at listed
  have apart : ∀ first ∈ [(101, [Sample.resource 145, Sample.resource 146]),
      (100, [Sample.resource 129, Sample.resource 130]), (2, []), (1, [])],
      ∀ second ∈ [(101, [Sample.resource 145, Sample.resource 146]),
        (100, [Sample.resource 129, Sample.resource 130]), (2, []), (1, [])],
      first.1 ≠ second.1 → first.2.all (· ∉ second.2) = true := by decide +kernel
  have fresh : ledger.FreshEntries := by
    intro first second different entry mine their
    have distinct := apart _ (listed first entry mine) _ (listed second entry their) different
    exact of_decide_eq_true (List.all_eq_true.mp distinct entry mine) their
  have waits : ledger.WaitsFor (engine .reference) 101 100 := by
    refine ⟨⟨.account (Sample.resource 16), .update⟩, ⟨.account (Sample.resource 16), .update⟩,
      by decide, by simp [wanted], ?_, ⟨rfl, rfl⟩⟩
    exact List.mem_of_mem_drop (i := 1) (by simp [held])
  obtain ⟨acyclic, progress⟩ := handlers_never_deadlock reachable fresh
  obtain ⟨id, _, _, label, next, acting, step⟩ := progress ⟨101, 100, waits⟩
  exact ⟨ledger, waits, acyclic, id, label, next, acting, step⟩

end LedgerService
