import LedgerService.Idempotence

set_option autoImplicit false

namespace LedgerService

open Transaction

section Commits

variable {platform : Platform} {older : Configuration → Configuration → Prop} {attempt : Attempt}
  {configuration : Configuration} {db : Db} {reply : Reply} {writes : List Write}

theorem reverseTransfer_commits_first {text : String} {request : ReversalRequest}
    (valid : validateReversalRequest platform attempt.headers text = .ok request)
    (commits : (reverseTransfer platform attempt.clientId attempt.headers text attempt.ids).Commits
      (engine platform) older attempt configuration db [] reply writes) :
    (∃ record,
      db.record? ⟨attempt.clientId, .reversal, request.idempotencyKey.asStr⟩ = some record) ∨
    db.reversed request.originalTransferId = false := by
  simp only [reverseTransfer, valid, Program.ofExcept, Program.bind_eq, Program.done_bind,
    Program.commits_bind, Program.commits_emit] at commits
  obtain ⟨_, _, begun, _, _, rfl, replay, _, replaying, rest⟩ := commits
  obtain rfl := beginReversal_commits begun
  rcases replayOrReserve_commits replaying with
    ⟨success, rfl, rfl, row, _, found, _⟩ | ⟨rfl, unused, expiresAt, rfl⟩
  · exact .inl ⟨row, found⟩
  · simp only [performReversal, Program.bind_eq, Program.commits_bind] at rest
    obtain ⟨_, _, locked, _⟩ := rest
    obtain ⟨rfl, _, _, _, _, _, first⟩ := lockOriginal_commits locked
    exact .inr (by simpa using first)

end Commits

section Alone

variable {platform : Platform} {attempt : Attempt} {configuration : Configuration} {db : Db}
  {text : String} {request : ReversalRequest}

theorem reverseTransfer_answer_rejected (documented : platform.Documented)
    (served : attempt.Served platform) (asked : attempt.request = .reverseTransfer text)
    (valid : validateReversalRequest platform attempt.headers text = .ok request)
    (unused : db.record? ⟨attempt.clientId, .reversal, request.idempotencyKey.asStr⟩ = none)
    {failure : Failure}
    (rejected : ∀ writes record, writes = [Write.insertRecord record] →
      (lockOriginal attempt.clientId request.originalTransferId).finish (engine platform) attempt
        configuration db writes = .error failure) :
    attempt.answer platform configuration db = .error failure := by
  have reservable := @Attempt.Served.reservable _ _ ⟨attempt.clientId, .reversal,
    request.idempotencyKey.asStr⟩ _ documented served rfl request.idempotencyKey rfl _
    (show reversalFingerprint platform request.originalTransferId = _ from rfl)
  obtain ⟨expiresAt, _, reserved⟩ := @replayOrReserve_finish_unused _ _ configuration db [] _ _
    reservable unused
  rw [reverseTransfer_answer asked valid, Program.finish_bind_ok reserved]
  simp only [performReversal, Program.bind_eq]
  exact Program.finish_bind_error (rejected _ _ rfl)

end Alone

theorem validateReversalRequest_original {platform : Platform} {headers : HeaderMap} {text : String}
    {request : ReversalRequest} {original : Uuid} (parsed : platform.parseUuid text = some original)
    (valid : validateReversalRequest platform headers text = .ok request) :
    request.originalTransferId = original := by
  simp only [validateReversalRequest, bind_eq_ok, orFailure_eq_ok, parsed] at valid
  obtain ⟨_, _, _, same, built⟩ := valid
  cases built
  exact (Option.some.inj same).symm

/-- What holds of a transfer in a ledger, however the requests to reverse it are interleaved. -/
structure ReversedOnce (platform : Platform) (ledger : Ledger) (original : Transfer) : Prop where
  once : (ledger.store.transfers.filter fun row =>
    row.reversesTransferId = some original.id).length ≤ 1
  never : original.kind = .reversal →
    ∀ row ∈ ledger.store.transfers, row.reversesTransferId ≠ some original.id
  -- A request of the destination's owner under a fresh key comes to no commit once the transfer is
  -- reversed, and is told so unless the database interrupts it.
  later : ∀ id session before after labels scope fingerprint,
    ledger.store.reversed original.id = true → Ledger.Reachable platform before →
    Ledger.Step platform before (.begin id session.context) after →
    Ledger.Run platform after labels ledger → ledger.sessions id = some session →
    session.context.Served platform → session.context.MayReverse platform before.store original →
    session.context.identity platform before.store = some (scope, fingerprint) →
    ledger.store.record? scope = none →
    (∀ reply, session.rest ≠ .done reply) ∧
      ∀ failure, session.rest = .fail failure →
        failure = alreadyReversed ∨ ∃ text, failure = .database (.failure text)
  -- Alone it is told so.
  alone : ∀ (attempt : Attempt) scope fingerprint, ledger.store.reversed original.id = true →
    attempt.Served platform → attempt.MayReverse platform ledger.store original →
    attempt.identity platform ledger.store = some (scope, fingerprint) →
    ledger.store.record? scope = none →
    attempt.answer platform ledger.reference ledger.store = .error alreadyReversed
  -- A request like the one that reversed the transfer is given the same answer.
  winner : ∀ (winner : Attempt) reply writes row, .committed winner reply writes ∈ ledger.history →
    Write.insertTransfer row ∈ writes → row.reversesTransferId = some original.id →
    ∀ attempt : Attempt, attempt.Served platform →
      attempt.identity platform ledger.store = winner.identity platform ledger.store →
      attempt.answer platform ledger.reference ledger.store = .ok (reply, []) ∧
      ∀ id session answer, ledger.sessions id = some session → session.context = attempt →
        session.rest = .done answer → answer = reply ∧ session.writes = []

/-- A transfer is reversed at most once, and whoever comes later is told so. -/
theorem transfers_reversed_once {platform : Platform} {ledger : Ledger}
    (documented : platform.Documented) (reachable : ledger.Reachable platform) :
    (∀ original ∈ ledger.store.transfers, ReversedOnce platform ledger original) ∧
    ∀ id session, ledger.sessions id = some session →
      session.rest ≠ .fail (.database (.uniqueViolation "transfers_single_reversal")) := by
  have keyed := reachable.keyed
  have provenance := reachable.provenance
  have complete := reachable.corresponding.complete
  refine ⟨fun original member => ?_, fun id session live failed =>
    (reachable.fails_ordinary live failed).2.2 rfl⟩
  constructor
  · have counted : (ledger.store.transfers.filter fun row =>
        row.reversesTransferId = some original.id).length =
        (ledger.store.transfers.filterMap Transfer.reversesTransferId).count original.id := by
      rw [List.count, List.countP_filterMap, List.countP_eq_length_filter]
      congr 2
      funext row
      cases row.reversesTransferId <;> simp [beq_eq_decide]
    rw [counted]
    exact List.nodup_iff_count_le_one.mp provenance.once original.id
  · intro kind row rowMember reverses
    exact (provenance.reverses keyed rowMember member reverses).originalKind kind
  · intro id session before after labels scope fingerprint reversed earlier began run live served
      mayReverse identity unused
    obtain ⟨text, asked, parsed⟩ := mayReverse.asked
    constructor
    · intro reply finished
      have commits := reachable.consistent.commits (growingIsolation platform) live finished
      rw [handle, asked] at commits
      simp only [Attempt.identity, asked] at identity
      split at identity
      · next request valid =>
        cases identity
        have named := validateReversalRequest_original parsed valid
        rcases reverseTransfer_commits_first valid commits with ⟨record, found⟩ | first
        · exact absurd (found.symm.trans unused) (by simp)
        · rw [named, reversed] at first
          cases first
      · cases identity
    · intro failure failed
      have refused := earlier.refused began run live failed
      cases refused.rejected scope fingerprint identity with
      | interrupted text => exact .inr ⟨text, rfl⟩
      | unreservable refused =>
        exact absurd (served.reservable_of_identity documented identity) refused
      | conflict present => exact absurd (present.symm.trans unused) (by simp)
      | owner _ _ reversal =>
        rcases reversal original mayReverse with same | failure | ⟨_, notYet⟩
        · exact .inl same
        · exact .inr failure
        · rw [reversed] at notYet
          cases notYet
  · intro attempt scope fingerprint reversed served mayReverse identity unused
    obtain ⟨text, asked, parsed⟩ := mayReverse.asked
    obtain ⟨account, found, owned⟩ := mayReverse.owner
    simp only [Attempt.identity, asked] at identity
    split at identity
    · next request valid =>
      cases identity
      have named := validateReversalRequest_original parsed valid
      apply reverseTransfer_answer_rejected documented served asked valid unused
      rintro _ record rfl
      rw [lockOriginal_finish, named]
      simp [mayReverse.found, mayReverse.kind, found, owned, reversed]
    · cases identity
  · intro winner reply writes row committed _ _ attempt served alike
    obtain ⟨record, found, identity, answer, _⟩ :=
      reachable.answered.answered winner reply writes committed
    have whole := complete record (Table.mem_of_lookup found)
    have mine := alike.trans identity
    refine ⟨?_, ?_⟩
    · rw [attempt.answer_found documented served mine found whole answer, if_pos rfl]
    · rintro id session other live rfl finished
      obtain ⟨_, silent, same⟩ := (idempotency_replayed reachable found live mine finished)
      exact ⟨Option.some.inj (same.symm.trans answer), silent⟩

theorem transfers_reversed_once_returned :
    (Sample.ledger Sample.returned).store.reversed (Sample.resource 64) = true ∧
      ∀ original ∈ (Sample.ledger Sample.returned).store.transfers,
        ((Sample.ledger Sample.returned).store.transfers.filter fun row =>
          row.reversesTransferId = some original.id).length ≤ 1 :=
  ⟨by decide +kernel, fun original member =>
    ((transfers_reversed_once Platform.reference_documented (Sample.reachable _)).1 original
      member).once⟩

end LedgerService
