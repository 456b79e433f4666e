import LedgerService.Books

set_option autoImplicit false

namespace LedgerService

open Transaction

def Attempt.AsksFor (platform : Platform) (attempt : Attempt) (source : Account)
    (transfer : Transfer) : Prop :=
  match attempt.request with
  | .createAccount _ => False
  | .createTransfer body =>
      transfer.reversesTransferId = none ∧ ∃ request, body = some request ∧
        platform.parseUuid request.sourceAccountId = some transfer.sourceAccountId ∧
        platform.parseUuid request.destinationAccountId = some transfer.destinationAccountId ∧
        ∃ scale, u8TryFrom source.currencyScale = some scale ∧
          parseMinorUnits request.amount scale = .ok transfer.sourceAmountMinor
  | .reverseTransfer transferId =>
      ∃ original, platform.parseUuid transferId = some original ∧
        transfer.reversesTransferId = some original

structure Transfer.Between (db : Db) (transfer : Transfer) (source destination : Account) : Prop where
  sourceFound : db.account? transfer.sourceAccountId = some source
  destinationFound : db.account? transfer.destinationAccountId = some destination
  active : source.status = .active ∧ destination.status = .active

structure Transfer.Admitted (platform : Platform) (attempt : Attempt) (db : Db) (transfer : Transfer)
    (source destination : Account) : Prop where
  between : transfer.Between db source destination
  asked : attempt.AsksFor platform source transfer

section Commits

variable {platform : Platform} {older : Configuration → Configuration → Prop} {attempt : Attempt}
  {configuration : Configuration} {db : Db} {writes final : List Write} {transfer : Transfer}
  {reply : Reply}

theorem validateTransferRequest_reads {body : Option CreateTransferRequest}
    {request : TransferRequest}
    (valid : validateTransferRequest platform attempt.headers body = .ok request) :
    ∃ read, body = some read ∧
      platform.parseUuid read.sourceAccountId = some request.sourceAccountId ∧
      platform.parseUuid read.destinationAccountId = some request.destinationAccountId ∧
      read.amount = request.amount := by
  simp only [validateTransferRequest, bind_eq_ok, orFailure_eq_ok, Except.ok.injEq] at valid
  obtain ⟨_, _, read, found, _, source, _, destination, _, _, rfl⟩ := valid
  exact ⟨read, found, source, destination, rfl⟩

theorem transferAmount_reads {preliminary : Preliminary} {amount : String} {amountMinor : I64}
    (read : transferAmount preliminary amount = .ok amountMinor) :
    ∃ scale, u8TryFrom preliminary.sourceScale = some scale ∧
      parseMinorUnits amount scale = .ok amountMinor := by
  simp only [transferAmount, bind_eq_ok, orFailure_eq_ok, orMoneyError_eq_ok,
    Except.ok.injEq] at read
  obtain ⟨scale, found, _, parsed, _, _, rfl⟩ := read
  exact ⟨scale, found, parsed⟩

theorem post_then_storeSuccess_inserts {posting : Posting} {scope : Scope}
    {record : IdempotencyRecord} {resource : Uuid} {createdAt : String} {body : Value}
    {between : List Write} {result : Unit}
    (reserved : ((engine platform).view db writes).record? scope = some record)
    (posted : (post posting).Commits (engine platform) older attempt configuration db writes
      createdAt between)
    (stored : (storeSuccess scope created body resource).Commits (engine platform) older attempt
      configuration db between result final) (member : .insertTransfer transfer ∈ final) :
    .insertTransfer transfer ∈ writes ∨
      ∃ rate, transfer = posting.transfer.row attempt.started rate := by
  obtain ⟨rate, _, _, sourceVersion, destinationVersion, _, rfl⟩ :=
    post_then_storeSuccess reserved posted stored
  rcases List.mem_append.mp member with old | new
  · exact .inl old
  · exact .inr ⟨rate, by simpa [Posting.writes] using new⟩

theorem performTransfer_admits {ids : NewIds} {scope : Scope} {record : IdempotencyRecord}
    {preliminary : Preliminary} {body : Option CreateTransferRequest} {request : TransferRequest}
    {amountMinor : I64}
    (within : ∀ {seen configuration}, older seen configuration → seen.Within configuration)
    (asked : attempt.request = .createTransfer body)
    (valid : validateTransferRequest platform attempt.headers body = .ok request)
    (amount : transferAmount preliminary request.amount = .ok amountMinor)
    (reserved : ((engine platform).view db writes).record? scope = some record)
    (commits : (performTransfer attempt.clientId ids scope preliminary request amountMinor).Commits
      (engine platform) older attempt configuration db writes reply final)
    (member : .insertTransfer transfer ∈ final) :
    .insertTransfer transfer ∈ writes ∨ ∃ source destination,
      transfer.Admitted platform attempt ((engine platform).view db writes) source destination := by
  simp only [performTransfer, Program.bind_eq, Program.commits_bind, Program.commits_ofExcept,
    mapError_eq_ok, Program.commits_done] at commits
  obtain ⟨time, _, timed, fx, _, selected, accounts, _, locked, ⟨source, destination⟩, _,
    ⟨checked, rfl⟩, terms, _, ⟨_, rfl⟩, ⟨sourceBalance, destinationBalance⟩, _,
    ⟨_, rfl⟩, createdAt, _, posted, body, _, ⟨_, rfl⟩, _, _, stored, rfl, rfl⟩ := commits
  obtain ⟨rfl, rfl⟩ := commits_read timed fun _ => rfl
  obtain ⟨rfl, _⟩ := selectFxConfiguration_commits within selected
  obtain ⟨rfl, rows⟩ := selectAccountsForUpdate_commits locked
  obtain ⟨_, first, second, ⟨_, active⟩, metadata⟩ := transferAccounts_eq_ok.mp checked
  rcases post_then_storeSuccess_inserts reserved posted stored member with old | ⟨rate, rfl⟩
  · exact .inl old
  · obtain ⟨oldSource, sourceFound, rfl⟩ := rows _ _ first
    obtain ⟨oldDestination, destinationFound, rfl⟩ := rows _ _ second
    refine .inr ⟨oldSource, oldDestination, ⟨sourceFound, destinationFound, active⟩, ?_⟩
    obtain ⟨read, found, sourceId, destinationId, same⟩ := validateTransferRequest_reads valid
    -- The scale that the amount was read at is still the one of the locked row.
    obtain ⟨scale, ranged, parsed⟩ := transferAmount_reads amount
    simp only [Prod.mk.injEq] at metadata
    rw [← metadata.2.1] at ranged
    rw [Attempt.AsksFor, asked]
    exact ⟨rfl, read, found, sourceId, destinationId, scale, ranged, same ▸ parsed⟩

theorem performReversal_admits {ids : NewIds} {scope : Scope} {record : IdempotencyRecord}
    {transferId : String} {request : ReversalRequest}
    (asked : attempt.request = .reverseTransfer transferId)
    (valid : validateReversalRequest platform attempt.headers transferId = .ok request)
    (reserved : ((engine platform).view db writes).record? scope = some record)
    (commits : (performReversal attempt.clientId ids scope request.originalTransferId).Commits
      (engine platform) older attempt configuration db writes reply final)
    (member : .insertTransfer transfer ∈ final) :
    .insertTransfer transfer ∈ writes ∨ ∃ source destination,
      transfer.Admitted platform attempt ((engine platform).view db writes) source destination := by
  simp only [performReversal, Program.bind_eq, Program.commits_bind, Program.commits_ofExcept,
    Program.commits_done] at commits
  obtain ⟨original, _, read, accounts, _, locked, ⟨source, destination⟩, _, ⟨checked, rfl⟩,
    ⟨sourceBalance, destinationBalance⟩, _, ⟨_, rfl⟩, createdAt, _, posted, body, _,
    ⟨_, rfl⟩, _, _, stored, rfl, rfl⟩ := commits
  obtain ⟨rfl, _⟩ := lockOriginal_commits read
  obtain ⟨rfl, rows⟩ := selectAccountsForUpdate_commits locked
  obtain ⟨_, first, second, active, _⟩ := reversalAccounts_eq_ok.mp checked
  rcases post_then_storeSuccess_inserts reserved posted stored member with old | ⟨rate, rfl⟩
  · exact .inl old
  · obtain ⟨oldSource, sourceFound, rfl⟩ := rows _ _ first
    obtain ⟨oldDestination, destinationFound, rfl⟩ := rows _ _ second
    refine .inr ⟨oldSource, oldDestination, ⟨sourceFound, destinationFound, active⟩, ?_⟩
    simp only [validateReversalRequest, bind_eq_ok, orFailure_eq_ok, Except.ok.injEq] at valid
    obtain ⟨_, _, id, parsed, rfl⟩ := valid
    rw [Attempt.AsksFor, asked]
    exact ⟨id, parsed, rfl⟩

theorem replayOrReserve_inserts {scope : Scope} {fingerprint : String} {replay : Option Success}
    (replaying : (replayOrReserve platform scope fingerprint).Commits (engine platform) older attempt
      configuration db [] replay writes) :
    replay ≠ none ∧ writes = [] ∨ replay = none ∧
      ∃ record, writes = [.insertRecord record] ∧
        ((engine platform).view db writes).record? scope = some record := by
  rcases replayOrReserve_commits replaying with
    ⟨success, rfl, rfl, _⟩ | ⟨rfl, unused, expiresAt, rfl⟩
  · exact .inl ⟨by simp, rfl⟩
  · exact .inr ⟨rfl, _, rfl, record?_reserved unused⟩

theorem Transfer.Admitted.unreserved {record : IdempotencyRecord} {source destination : Account}
    (admitted : transfer.Admitted platform attempt ((engine platform).view db [.insertRecord record])
      source destination) : transfer.Admitted platform attempt db source destination :=
  ⟨⟨admitted.between.sourceFound, admitted.between.destinationFound, admitted.between.active⟩,
    admitted.asked⟩

theorem handle_admits
    (within : ∀ {seen configuration}, older seen configuration → seen.Within configuration)
    (commits : (handle platform attempt).Commits (engine platform) older attempt configuration db []
      reply writes) (member : .insertTransfer transfer ∈ writes) :
    ∃ source destination, transfer.Admitted platform attempt db source destination := by
  unfold handle at commits
  split at commits
  · rename_i body asked
    obtain ⟨effect, holds, _, rfl⟩ := createAccount_commits asked commits
    cases effect with
    | replayed => cases member
    | opened record account => simp [Effect.writes] at member
    | posted record posted source destination debit credit =>
      obtain ⟨_, _, performed⟩ := holds
      cases performed.performed.terms with
      | ordinary request | fx request | reversal request =>
        obtain ⟨_, other⟩ := request
        cases asked.symm.trans other
  · rename_i body asked
    simp only [createTransfer, Program.bind_eq, Program.commits_bind, Program.commits_ofExcept,
      Program.commits_orFail, Program.commits_emit] at commits
    obtain ⟨request, _, ⟨valid, rfl⟩, _, _, acquired, _, _, begun, _, _, read, preliminary, _,
      ⟨rfl, rfl⟩, operationType, _, ⟨operation, rfl⟩, _, _, rfl, amountMinor, _, ⟨amount, rfl⟩,
      replay, _, replaying, rest⟩ := commits
    obtain rfl := acquireConnection_commits acquired
    obtain ⟨_, rfl⟩ := commits_read begun fun _ => rfl
    obtain ⟨_, rfl⟩ := commits_read read fun _ => rfl
    rcases replayOrReserve_inserts replaying with ⟨some, rfl⟩ | ⟨rfl, record, rfl, reserved⟩
    · obtain ⟨success, rfl⟩ := Option.ne_none_iff_exists'.mp some
      obtain ⟨rfl, rfl⟩ := rest
      cases member
    · rcases performTransfer_admits within asked valid amount reserved rest member with old | new
      · simp at old
      · obtain ⟨source, destination, admitted⟩ := new
        exact ⟨source, destination, admitted.unreserved⟩
  · rename_i transferId asked
    simp only [reverseTransfer, Program.bind_eq, Program.commits_bind, Program.commits_ofExcept,
      Program.commits_emit] at commits
    obtain ⟨request, _, ⟨valid, rfl⟩, _, _, begun, _, _, rfl, replay, _, replaying, rest⟩ := commits
    obtain rfl := beginReversal_commits begun
    rcases replayOrReserve_inserts replaying with ⟨some, rfl⟩ | ⟨rfl, record, rfl, reserved⟩
    · obtain ⟨success, rfl⟩ := Option.ne_none_iff_exists'.mp some
      obtain ⟨rfl, rfl⟩ := rest
      cases member
    · rcases performReversal_admits asked valid reserved rest member with old | new
      · simp at old
      · obtain ⟨source, destination, admitted⟩ := new
        exact ⟨source, destination, admitted.unreserved⟩

end Commits

theorem Effect.inserts_posted {record : IdempotencyRecord} {transfer : Transfer}
    {source destination : Account} {debit credit : Uuid} :
    Write.insertTransfer transfer ∈
      (Effect.posted record transfer source destination debit credit).writes := by
  simp [Effect.writes]

theorem Ledger.Reachable.admitted {platform : Platform} {ledger : Ledger}
    (reachable : ledger.Reachable platform) {id : Nat}
    {session : Session sql Attempt Write Lock Reply} {reply : Reply} {transfer : Transfer}
    (live : ledger.sessions id = some session) (finished : session.rest = .done reply)
    (member : .insertTransfer transfer ∈ session.writes) :
    ∃ source destination,
      transfer.Admitted platform session.context ledger.store source destination :=
  handle_admits (fun within => within)
    (reachable.consistent.commits (growingIsolation platform) live finished) member

end LedgerService
