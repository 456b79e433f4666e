import LedgerService.Answers
import LedgerService.Deadlocks

set_option autoImplicit false

namespace LedgerService

open Transaction

def reservedBy (scope : Scope) : Ledger.Event → Bool
  | .committed _ _ writes =>
      writes.any fun
        | .insertRecord row => row.scope = scope
        | _ => false
  | .operated _ => false

theorem reservedBy_effect (scope : Scope) (attempt : Attempt) (reply : Reply) (effect : Effect) :
    reservedBy scope (.committed attempt reply effect.writes) =
      match effect with
      | .replayed => false
      | .opened record _ | .posted record _ _ _ _ _ => decide (record.scope = scope) := by
  cases effect <;> simp [reservedBy, Effect.writes, IdempotencyRecord.reserved]

structure Answered (platform : Platform) (db : Db) (history : List Ledger.Event) : Prop where
  answered : ∀ attempt reply writes, .committed attempt reply writes ∈ history → ∃ record,
    db.record? record.scope = some record ∧
    attempt.identity platform db = some (record.scope, record.requestFingerprint) ∧
    record.answer = some reply ∧
    (writes = [] ∨ reservedBy record.scope (.committed attempt reply writes) = true)
  once : ∀ scope, (history.filter (reservedBy scope)).length =
    if (db.record? scope).isSome then 1 else 0

namespace Answered

variable {platform : Platform} {attempt : Attempt} {configuration : Configuration} {db db' : Db}
  {history : List Ledger.Event} {reply : Reply}

theorem kept (answered : Answered platform db history) (evolves : Evolves [] db db')
    {attempt : Attempt} {reply : Reply} {writes : List Write}
    (member : .committed attempt reply writes ∈ history) : ∃ record,
      db'.record? record.scope = some record ∧
      attempt.identity platform db' = some (record.scope, record.requestFingerprint) ∧
      record.answer = some reply ∧
      (writes = [] ∨ reservedBy record.scope (.committed attempt reply writes) = true) := by
  obtain ⟨record, found, identity, rest⟩ := answered.answered attempt reply writes member
  exact ⟨record, evolves.record _ _ found, identity_evolves evolves identity, rest⟩

theorem recorded {record : IdempotencyRecord} {resource : Uuid} {effect : Effect}
    (answered : Answered platform db history)
    (holds : effect.Holds platform attempt configuration db reply)
    (recorded : Recorded platform attempt db record reply resource)
    (stored : ∀ scope, (db.after effect).record? scope =
      (db.record? scope).or (if record.scope = scope then some record else none))
    (reserves : ∀ scope, reservedBy scope (.committed attempt reply effect.writes) =
      decide (record.scope = scope)) :
    Answered platform (db.after effect) (history ++ [.committed attempt reply effect.writes]) where
  answered := by
    intro other answer writes member
    rcases List.mem_append.mp member with earlier | last
    · exact answered.kept (evolves_after holds) earlier
    · obtain ⟨rfl, rfl, rfl⟩ : other = attempt ∧ answer = reply ∧ writes = effect.writes := by
        simpa using last
      obtain ⟨body, status, answered', _, rfl⟩ := recorded.success
      refine ⟨record, ?_, identity_evolves (evolves_after holds) recorded.identity, ?_, .inr ?_⟩
      · simp [stored, recorded.unused]
      · rw [IdempotencyRecord.answer, show record.httpStatus = some (created : Int) from status,
          answered']
        rfl
      · simp [reserves]
  once := by
    intro scope
    have before := answered.once scope
    rw [List.filter_append, List.length_append, before, stored, List.filter_singleton, reserves]
    by_cases same : record.scope = scope
    · rw [← same, recorded.unused]
      simp
    · simp [same]

end Answered

theorem answered_inductive (platform : Platform) :
    Inductive platform fun _ db history => Answered platform db history where
  empty _ := ⟨by simp, by simp [Db.empty, Db.record?, Table.lookup]⟩
  after := by
    intro attempt configuration db history reply effect _ answered holds
    cases effect with
    | replayed =>
      obtain ⟨record, replayed⟩ := holds
      constructor
      · intro other answer writes member
        rcases List.mem_append.mp member with earlier | last
        · exact answered.answered other answer writes earlier
        · obtain ⟨rfl, rfl, rfl⟩ : other = attempt ∧ answer = reply ∧ writes = [] := by
            simpa [Effect.writes] using last
          exact ⟨record, replayed.found, replayed.identity, replayed.answer, .inl rfl⟩
      · intro scope
        have unreserved : reservedBy scope (.committed attempt reply Effect.replayed.writes) = false :=
          reservedBy_effect scope attempt reply .replayed
        rw [List.filter_append, List.filter_singleton, unreserved, List.length_append,
          answered.once scope]
        rfl
    | opened record account =>
      exact @Answered.recorded _ _ _ _ _ _ _ _ (.opened record account) answered holds
        holds.recorded (fun scope => Db.record?_after _ _ _)
        (fun scope => reservedBy_effect _ _ _ _)
    | posted record transfer source destination debit credit =>
      obtain ⟨oldSource, oldDestination, posted⟩ := holds
      exact @Answered.recorded _ _ _ _ _ _ _ _
        (.posted record transfer source destination debit credit) answered
        ⟨oldSource, oldDestination, posted⟩ posted.recorded (fun scope => Db.record?_after _ _ _)
        (fun scope => reservedBy_effect _ _ _ _)
  setStatus := by
    intro configuration db history id status _ answered
    constructor
    · intro attempt reply writes member
      have earlier : .committed attempt reply writes ∈ history := by simpa using member
      exact answered.kept (evolves_setStatus platform db id status) earlier
    · intro scope
      rw [List.filter_append, List.length_append, answered.once scope]
      rfl
  grown := by
    intro configuration configuration' db history operator _ answered
    constructor
    · intro attempt reply writes member
      exact answered.answered attempt reply writes (by simpa using member)
    · intro scope
      rw [List.filter_append, List.length_append, answered.once scope]
      rfl

theorem Ledger.Reachable.answered {platform : Platform} {ledger : Ledger}
    (reachable : ledger.Reachable platform) : Answered platform ledger.store ledger.history :=
  (reachable.induction (answered_inductive platform)).2

section Repeated

variable {platform : Platform} {attempt : Attempt} {configuration : Configuration} {db : Db}
  {scope : Scope} {fingerprint : String} {record : IdempotencyRecord} {reply : Reply}

theorem IdempotencyRecord.Complete.answered (complete : record.Complete)
    (answers : record.answer = some reply) :
    record.httpStatus = some (created : Int) ∧
      ∃ body, record.responseBody = some body ∧ reply = .ok ⟨created, body⟩ := by
  have status : record.httpStatus = some (created : Int) := complete.status
  obtain ⟨body, _, answered, _⟩ := complete.body
  rw [IdempotencyRecord.answer, status, answered] at answers
  exact ⟨status, body, answered, (Option.some.inj answers).symm⟩

theorem Ledger.Reachable.done_success {ledger : Ledger} (reachable : ledger.Reachable platform)
    {id : Nat} {session : Session sql Attempt Write Lock Reply}
    (live : ledger.sessions id = some session) (finished : session.rest = .done reply) :
    ∃ success, reply = .ok success := by
  -- Every effect records its answer, and only successes are recorded.
  obtain ⟨effect, holds, _⟩ := reachable.effect live finished
  have recorded : ∀ {record resource}, Recorded platform session.context ledger.store record reply
      resource → ∃ success, reply = .ok success := by
    intro record resource recorded
    obtain ⟨body, _, _, _, rfl⟩ := recorded.success
    exact ⟨_, rfl⟩
  cases effect with
  | replayed =>
    obtain ⟨record, replayed⟩ := holds
    obtain ⟨_, body, _, rfl⟩ := (reachable.corresponding.complete record
      (Table.mem_of_lookup replayed.found)).answered replayed.answer
    exact ⟨_, rfl⟩
  | opened record account => exact recorded holds.recorded
  | posted record transfer source destination debit credit =>
    obtain ⟨_, _, posted⟩ := holds
    exact recorded posted.recorded

theorem Ledger.Reachable.committed_success {ledger : Ledger} (reachable : ledger.Reachable platform)
    {writes : List Write} (member : .committed attempt reply writes ∈ ledger.history) :
    ∃ success, reply = .ok success := by
  obtain ⟨record, found, _, answer, _⟩ := reachable.answered.answered attempt reply writes member
  obtain ⟨_, body, _, rfl⟩ := (reachable.corresponding.complete record
    (Table.mem_of_lookup found)).answered answer
  exact ⟨_, rfl⟩

theorem Attempt.answer_found (documented : platform.Documented) (served : attempt.Served platform)
    (identity : attempt.identity platform db = some (scope, fingerprint))
    (found : db.record? scope = some record) (complete : record.Complete)
    (answers : record.answer = some reply) :
    attempt.answer platform configuration db =
      if record.requestFingerprint = fingerprint then .ok (reply, [])
      else .error (.app .idempotencyConflict) := by
  obtain ⟨status, body, answered, rfl⟩ := complete.answered answers
  have reservable := served.reservable_of_identity documented identity
  have replays := @replayOrReserve_finish_found platform attempt configuration db [] _
    fingerprint _ _ found status answered
  have reserves := @reserve_finish_found _ _ configuration db [] _ _ _ _ reservable found status
    answered
  unfold Attempt.identity at identity
  split at identity
  · split at identity
    · next asked _ request valid =>
      cases identity
      rw [createAccount_answer asked valid, Program.finish_bind_ok reserves]
      by_cases same : record.requestFingerprint = accountCreationFingerprint platform
          request.currency.code request.balanceMinor
      · simp only [same, if_true]
        rfl
      · simp only [same, if_false]
        rfl
    · cases identity
  · split at identity
    · next asked _ request valid =>
      obtain ⟨preliminary, known, identity⟩ := Option.bind_eq_some_iff.mp identity
      split at identity
      · next amountMinor operation amount =>
        cases identity
        rw [createTransfer_answer asked valid known operation amount, Program.finish_bind, replays]
        by_cases same : record.requestFingerprint = transferFingerprint platform
            request.sourceAccountId request.destinationAccountId preliminary.sourceCurrency amountMinor
        · simp [same]
        · simp [same]
      · cases identity
    · cases identity
  · split at identity
    · next asked _ request valid =>
      cases identity
      rw [reverseTransfer_answer asked valid, Program.finish_bind, replays]
      by_cases same : record.requestFingerprint =
          reversalFingerprint platform request.originalTransferId
      · simp [same]
      · simp [same]
    · cases identity

end Repeated

section Frame

variable {platform : Platform} {now : Timestamp} {configuration : Configuration} {db : Db}
  {scope : Scope}

def Db.withoutRecord (db : Db) (scope : Scope) : Db :=
  { db with idempotencyRecords := db.idempotencyRecords.filter fun row => row.scope ≠ scope }

theorem Db.record?_withoutRecord {other : Scope} (different : other ≠ scope) :
    (db.withoutRecord scope).record? other = db.record? other := by
  unfold Db.record? Db.withoutRecord Table.lookup
  rw [List.find?_filter]
  congr 1
  funext row
  by_cases same : row.scope = other
  · simp [same, different]
  · simp [same]

theorem exec_withoutRecord {statement : Statement} (different : statement.scope? ≠ some scope) :
    statement.exec platform now configuration (db.withoutRecord scope) =
      statement.exec platform now configuration db := by
  cases statement with
  | selectRecord other =>
    simp [Statement.exec, Db.record?_withoutRecord fun same => different (congrArg some same)]
  | insertRecord other =>
    simp [Statement.exec, insertRecord,
      Db.record?_withoutRecord fun same => different (congrArg some same)]
  | updateRecord other =>
    simp [Statement.exec, updateRecord,
      Db.record?_withoutRecord fun same => different (congrArg some same)]
  | _ => rfl

end Frame

/-- What holds of a scope in a ledger, however the requests with this scope are interleaved. -/
structure ExactlyOnce (platform : Platform) (ledger : Ledger) (scope : Scope) : Prop where
  -- At most one commit has taken effect under the scope.
  once : (ledger.history.filter (reservedBy scope)).length ≤ 1
  -- Whoever has taken effect did so under its own scope.
  effects : ∀ attempt reply writes, .committed attempt reply writes ∈ ledger.history →
    writes ≠ [] → ∃ own fingerprint, attempt.identity platform ledger.store = some (own, fingerprint) ∧
      reservedBy own (.committed attempt reply writes) = true
  -- All commits under the scope have one fingerprint and one answer.
  alike : ∀ first reply writes second reply' writes' fingerprint fingerprint',
    .committed first reply writes ∈ ledger.history →
    .committed second reply' writes' ∈ ledger.history →
    first.identity platform ledger.store = some (scope, fingerprint) →
    second.identity platform ledger.store = some (scope, fingerprint') →
    fingerprint = fingerprint' ∧ reply = reply' ∧ ∃ success, reply = .ok success
  -- Once the scope has its record, a request that comes to its end replays it and writes nothing.
  replays : ∀ record id session fingerprint reply, ledger.store.record? scope = some record →
    ledger.sessions id = some session →
    session.context.identity platform ledger.store = some (scope, fingerprint) →
    session.rest = .done reply →
    record.requestFingerprint = fingerprint ∧ session.writes = [] ∧ record.answer = some reply
  -- A request that fails then was interrupted by the database, or has another fingerprint.
  rejects : ∀ record id session failure before after labels fingerprint,
    ledger.store.record? scope = some record → Ledger.Reachable platform before →
    Ledger.Step platform before (.begin id session.context) after →
    Ledger.Run platform after labels ledger → ledger.sessions id = some session →
    session.context.Served platform →
    session.context.identity platform before.store = some (scope, fingerprint) →
    session.rest = .fail failure →
    (∃ text, failure = .database (.failure text)) ∨
      (record.requestFingerprint ≠ fingerprint ∧ failure = .app .idempotencyConflict)
  -- And nothing else can make it fail: alone, it is answered from the record.
  alone : ∀ record (attempt : Attempt) fingerprint, ledger.store.record? scope = some record →
    attempt.Served platform → attempt.identity platform ledger.store = some (scope, fingerprint) →
    ∃ reply, record.answer = some reply ∧ attempt.answer platform ledger.reference ledger.store =
      if record.requestFingerprint = fingerprint then .ok (reply, [])
      else .error (.app .idempotencyConflict)
  -- Requests of other scopes neither wait for the record nor keep it locked.
  unblocked : ∀ id session, ledger.sessions id = some session →
    (∀ fingerprint, session.context.identity platform ledger.store ≠ some (scope, fingerprint)) →
    ∀ lock, lock ∈ session.locks ∨ lock ∈ ledger.wanted (engine platform) id →
      lock.resource ≠ .idempotencyRecord scope
  -- Nor do they see it.
  unseen : ∀ id session statement next, ledger.sessions id = some session →
    (∀ fingerprint, session.context.identity platform ledger.store ≠ some (scope, fingerprint)) →
    session.rest = .query statement next →
    let view := (engine platform).view ledger.store session.writes
    statement.exec platform session.context.started ledger.reference (view.withoutRecord scope) =
      statement.exec platform session.context.started ledger.reference view

theorem idempotency_replayed {platform : Platform} {ledger : Ledger} {scope : Scope}
    {fingerprint : String} {record : IdempotencyRecord} {id : Nat} {reply : Reply}
    {session : Session sql Attempt Write Lock Reply} (reachable : ledger.Reachable platform)
    (found : ledger.store.record? scope = some record) (live : ledger.sessions id = some session)
    (identity : session.context.identity platform ledger.store = some (scope, fingerprint))
    (finished : session.rest = .done reply) :
    record.requestFingerprint = fingerprint ∧ session.writes = [] ∧ record.answer = some reply := by
  obtain ⟨effect, holds, same, _⟩ := reachable.effect live finished
  have other : ∀ {record' resource}, ¬ Recorded platform session.context ledger.store record' reply
      resource := by
    intro record' resource recorded
    obtain ⟨rfl, _⟩ := Prod.mk.inj (Option.some.inj (identity.symm.trans recorded.identity))
    exact absurd (found.symm.trans recorded.unused) (by simp)
  cases effect with
  | replayed =>
    obtain ⟨record', replayed⟩ := holds
    obtain ⟨rfl, rfl⟩ := Prod.mk.inj (Option.some.inj (identity.symm.trans replayed.identity))
    obtain rfl : record = record' := Option.some.inj (found.symm.trans replayed.found)
    exact ⟨rfl, same.symm, replayed.answer⟩
  | opened record' account => exact absurd holds.recorded other
  | posted record' transfer source destination debit credit =>
    obtain ⟨_, _, posted⟩ := holds
    exact absurd posted.recorded other

/-- Every idempotency key takes effect at most once, and is answered alike ever after. -/
theorem idempotency_exactly_once {platform : Platform} {ledger : Ledger}
    (documented : platform.Documented) (reachable : ledger.Reachable platform) (scope : Scope) :
    ExactlyOnce platform ledger scope := by
  have answered := reachable.answered
  have complete := reachable.corresponding.complete
  have orderly : ∀ {id session statement next}, ledger.sessions id = some session →
      session.rest = .query statement next →
      Orderly platform session.context statement session.locks session.writes ledger.reference
        ledger.store := by
    intro id session statement next live asked
    obtain ⟨known, since, rest⟩ := reachable.orderly live
    rw [asked] at rest
    exact (rest _ _ reachable.sound since (reachable.consistent.covered _ _ live)).1
  constructor
  · rw [answered.once scope]
    split <;> decide
  · intro attempt reply writes member effective
    obtain ⟨record, _, identity, _, reserved⟩ := answered.answered attempt reply writes member
    exact ⟨_, _, identity, reserved.resolve_left effective⟩
  · intro first reply writes second reply' writes' fingerprint fingerprint' one two mine theirs
    obtain ⟨record, found, identity, answer, _⟩ := answered.answered first reply writes one
    obtain ⟨record', found', identity', answer', _⟩ := answered.answered second reply' writes' two
    obtain ⟨rfl, rfl⟩ := Prod.mk.inj (Option.some.inj (identity.symm.trans mine))
    obtain ⟨same, rfl⟩ := Prod.mk.inj (Option.some.inj (identity'.symm.trans theirs))
    obtain rfl : record = record' := Option.some.inj (found.symm.trans (same ▸ found'))
    exact ⟨rfl, Option.some.inj (answer.symm.trans answer'), reachable.committed_success one⟩
  · exact fun record id session fingerprint reply => idempotency_replayed reachable
  · intro record id session failure before after labels fingerprint found earlier began run live
      served identity failed
    have refused := earlier.refused began run live failed
    cases refused.rejected scope fingerprint identity with
    | interrupted text => exact .inl ⟨text, rfl⟩
    | unreservable refused => exact absurd (served.reservable_of_identity documented identity) refused
    | conflict present other =>
      obtain rfl := Option.some.inj (found.symm.trans present)
      exact .inr ⟨other, rfl⟩
    | owner _ unused => exact absurd (found.symm.trans unused) (by simp)
  · intro record attempt fingerprint found served identity
    have whole := complete record (Table.mem_of_lookup found)
    obtain ⟨body, _, present, _⟩ := whole.body
    have answers : record.answer = some (.ok ⟨created, body⟩) := by
      rw [IdempotencyRecord.answer, show record.httpStatus = some (created : Int) from whole.status,
        present]
      rfl
    exact ⟨_, answers, attempt.answer_found documented served identity found whole answers⟩
  · intro id session live others lock taken resource
    have mine : ∃ fingerprint,
        session.context.identity platform ledger.store = some (scope, fingerprint) := by
      rcases taken with held | wanted
      · exact (reachable.proper live lock held).scope scope resource
      · obtain ⟨found, statement, next, answer, live', asked, _, needed⟩ := System.mem_wanted wanted
        obtain rfl := Option.some.inj (live.symm.trans live')
        have sent := orderly live asked
        exact (sent.proper.append sent.scope sent.entry lock
          (List.mem_append_right _ needed)).scope scope resource
    obtain ⟨fingerprint, identity⟩ := mine
    exact others fingerprint identity
  · intro id session statement next live others asked
    apply exec_withoutRecord
    intro named
    obtain ⟨fingerprint, identity⟩ := (orderly live asked).scope scope named
    exact others fingerprint identity

theorem not_isWhitespace_of_visible {c : Char} (seen : visible c) : Text.isWhitespace c = false := by
  obtain ⟨low, high⟩ := seen
  simp only [Text.isWhitespace, Bool.or_eq_false_iff, Bool.and_eq_false_iff, decide_eq_false_iff_not]
  omega

theorem visible_digitChar (digit : Nat) : visible (Nat.digitChar (digit % 16)) := by
  have bound : digit % 16 < 16 := Nat.mod_lt _ (by decide)
  generalize digit % 16 = hex at bound
  revert hex
  decide

theorem Platform.reference_documented : Platform.reference.Documented where
  nonblank text c member seen := by
    simp only [Platform.reference, List.any_eq_true, Bool.not_eq_true']
    exact ⟨c, member, not_isWhitespace_of_visible seen⟩
  digest bytes := by
    simp only [Platform.reference, Sha256.digest, String.toList_ofList, List.mem_flatMap, List.mem_map]
    exact ⟨_, ⟨_, List.mem_cons_self, 0, by decide, rfl⟩, visible_digitChar _⟩

theorem Sample.served (clientId key : String) (number : Nat) (request : Request)
    (named : Platform.reference.nonblank clientId = true) (early : number < 1000000) :
    (attempt clientId key number request).Served .reference where
  client := named
  retention := by
    have fits : (820746000000000 + 1000000 * number : Int) + 86400 * 1000000 < Timestamp.last := by
      simp only [Timestamp.last]
      omega
    refine ⟨⟨86400, by decide⟩, 820746000000000 + 1000000 * number + 86400 * 1000000,
      I64.tryFrom_eq_some.mpr rfl, ?_, ?_⟩
    · simp only [Platform.reference, attempt]
      rw [if_pos fits]
    · exact Int.lt_add_of_pos_right _ (by decide)

-- Alice pays, repeats her request, and asks for another amount under the same key.
def Sample.repeated : List Attempt :=
  Sample.paid ++
    [Sample.transfer 6 "alice" "pay" 1 2 "30.00", Sample.transfer 7 "alice" "pay" 1 2 "40.00"]

theorem idempotency_exactly_once_repeated :
    (Sample.ledger Sample.repeated).history.length = 4 ∧
      ((Sample.ledger Sample.repeated).history.filter
        (reservedBy ⟨"alice", .transfer, "pay"⟩)).length ≤ 1 :=
  ⟨by decide +kernel,
    (idempotency_exactly_once Platform.reference_documented (Sample.reachable _) _).once⟩

end LedgerService
