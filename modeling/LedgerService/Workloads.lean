import LedgerService.Admission
import LedgerService.Fingerprints
import LedgerService.Idempotence
import LedgerService.Reconciliation
import LedgerService.Traversals

set_option autoImplicit false

namespace LedgerService

open Transaction Bookkeeping Traversals

structure Payment where
  clientId : String
  idempotencyKey : String
  sourceAccountId : Uuid
  destinationAccountId : Uuid
  amount : String
  deriving DecidableEq

namespace Payment

def scope (payment : Payment) (operation : OperationType) : Scope :=
  ⟨payment.clientId, operation, payment.idempotencyKey⟩

def Fresh (db : Db) (payment : Payment) : Prop :=
  ∀ operation, operation = .transfer ∨ operation = .fxTransfer →
    db.record? (payment.scope operation) = none

end Payment

structure Attempt.Makes (platform : Platform) (attempt : Attempt) (payment : Payment) : Prop where
  client : attempt.clientId = payment.clientId
  request : ∃ body request, attempt.request = .createTransfer body ∧
    validateTransferRequest platform attempt.headers body = .ok request ∧
    request.idempotencyKey.asStr = payment.idempotencyKey ∧
    request.sourceAccountId = payment.sourceAccountId ∧
    request.destinationAccountId = payment.destinationAccountId ∧ request.amount = payment.amount

/-- The payment has led to the transfer, and some request for it was answered so. -/
structure Payment.Settled (platform : Platform) (ledger : Ledger) (payment : Payment)
    (transfer : Transfer) : Prop where
  answered : ∃ attempt body writes,
    .committed attempt (.ok ⟨created, body⟩) writes ∈ ledger.history ∧
    attempt.Makes platform payment ∧ body.lookup "id" = some transfer.id.hyphenated
  recorded : ∃ record, ledger.store.record? (payment.scope transfer.kind.operationType) =
    some record ∧ record.resultingResourceId = some transfer.id
  initiator : transfer.initiatedBy = payment.clientId
  source : transfer.sourceAccountId = payment.sourceAccountId
  destination : transfer.destinationAccountId = payment.destinationAccountId
  reverses : transfer.reversesTransferId = none
  amount : ∃ account scale, ledger.store.account? payment.sourceAccountId = some account ∧
    u8TryFrom account.currencyScale = some scale ∧
    parseMinorUnits payment.amount scale = .ok transfer.sourceAmountMinor

section Settled

variable {platform : Platform} {ledger last : Ledger} {payment : Payment} {transfer : Transfer}
  {attempt : Attempt} {db : Db}

theorem Payment.Settled.later (settled : payment.Settled platform ledger transfer)
    (kept : ledger.history ⊆ last.history) (evolves : Evolves [] ledger.store last.store) :
    payment.Settled platform last transfer where
  answered := by
    obtain ⟨attempt, body, writes, committed, makes, named⟩ := settled.answered
    exact ⟨attempt, body, writes, kept committed, makes, named⟩
  recorded := by
    obtain ⟨record, found, result⟩ := settled.recorded
    exact ⟨record, evolves.record _ _ found, result⟩
  initiator := settled.initiator
  source := settled.source
  destination := settled.destination
  reverses := settled.reverses
  amount := by
    obtain ⟨account, scale, found, narrow, parsed⟩ := settled.amount
    obtain ⟨row, there, same⟩ := evolves.account _ _ found
    exact ⟨row, scale, there, same.currencyScale ▸ narrow, parsed⟩

theorem Attempt.Makes.identity (makes : attempt.Makes platform payment) {scope : Scope}
    {fingerprint : String} (identity : attempt.identity platform db = some (scope, fingerprint)) :
    ∃ preliminary operation,
      db.preliminary payment.sourceAccountId payment.destinationAccountId = some preliminary ∧
      transferOperation preliminary = .ok operation ∧ scope = payment.scope operation := by
  obtain ⟨body, request, asked, valid, key, source, destination, amount⟩ := makes.request
  simp only [Attempt.identity, asked, valid, source, destination] at identity
  obtain ⟨preliminary, found, rest⟩ := Option.bind_eq_some_iff.mp identity
  split at rest
  · rename_i operation amountMinor determined _
    simp only [Option.some.injEq, Prod.mk.injEq] at rest
    exact ⟨preliminary, operation, found, determined, by rw [← rest.1, makes.client, key]; rfl⟩
  · cases rest

theorem transferOperation_cases {preliminary : Preliminary} {operation : OperationType}
    (determined : transferOperation preliminary = .ok operation) :
    operation = .transfer ∨ operation = .fxTransfer := by
  rcases transferOperation_eq_ok.mp determined with ⟨rfl, _⟩ | ⟨rfl, _⟩
  · exact .inl rfl
  · exact .inr rfl

theorem Attempt.Makes.fresh (makes : attempt.Makes platform payment) (unused : payment.Fresh db)
    {scope : Scope} {fingerprint : String}
    (identity : attempt.identity platform db = some (scope, fingerprint)) :
    db.record? scope = none := by
  obtain ⟨_, operation, _, determined, rfl⟩ := makes.identity identity
  exact unused operation (transferOperation_cases determined)

theorem Attempt.Makes.asksFor (makes : attempt.Makes platform payment) {source : Account}
    (asked : attempt.AsksFor platform source transfer) :
    transfer.sourceAccountId = payment.sourceAccountId ∧
      transfer.destinationAccountId = payment.destinationAccountId ∧
      transfer.reversesTransferId = none ∧
      ∃ scale, u8TryFrom source.currencyScale = some scale ∧
        parseMinorUnits payment.amount scale = .ok transfer.sourceAmountMinor := by
  obtain ⟨body, request, sent, valid, _, sourceId, destinationId, amount⟩ := makes.request
  obtain ⟨read, rfl, sourceRead, destinationRead, same⟩ := validateTransferRequest_reads valid
  simp only [Attempt.AsksFor, sent, Option.some.injEq] at asked
  obtain ⟨forward, _, rfl, parsedSource, parsedDestination, scale, narrow, parsed⟩ := asked
  refine ⟨?_, ?_, forward, scale, narrow, ?_⟩
  · exact (Option.some.inj (parsedSource.symm.trans sourceRead)).trans sourceId
  · exact (Option.some.inj (parsedDestination.symm.trans destinationRead)).trans destinationId
  · rw [← amount, ← same]
    exact parsed

end Settled

/-- What has come of some payments since a ledger. -/
structure Progress (platform : Platform) (payments : List Payment) (before ledger : Ledger)
    (done : List Payment) (made : List Transfer) : Prop where
  within : done ⊆ payments
  once : done.Nodup
  transfers : ledger.store.transfers = before.store.transfers ++ made
  settled : List.Forall₂ (Payment.Settled platform ledger) done made
  records : ∀ payment ∈ payments, payment ∉ done → payment.Fresh ledger.store

section Steps

variable {platform : Platform} {payments done : List Payment} {made : List Transfer}
  {before ledger next : Ledger} {label : Label sql Attempt Operator}

theorem Progress.later (progress : Progress platform payments before ledger done made)
    (kept : ledger.history ⊆ next.history) (evolves : Evolves [] ledger.store next.store)
    (transfers : next.store.transfers = ledger.store.transfers)
    (records : ∀ scope, next.store.record? scope = ledger.store.record? scope) :
    Progress platform payments before next done made where
  within := progress.within
  once := progress.once
  transfers := transfers.trans progress.transfers
  settled := progress.settled.imp fun _ _ settled => settled.later kept evolves
  records payment member missing operation kind := by
    rw [records]
    exact progress.records payment member missing operation kind

theorem Progress.posted (reachable : ledger.Reachable platform)
    (progress : Progress platform payments before ledger done made)
    (distinct : (payments.map fun payment => (payment.clientId, payment.idempotencyKey)).Nodup)
    {attempt : Attempt} {reply : Reply} {payment : Payment} (member : payment ∈ payments)
    (makes : attempt.Makes platform payment) {record : IdempotencyRecord} {transfer : Transfer}
    {source destination oldSource oldDestination : Account} {debit credit : Uuid}
    (posted : Posted platform attempt ledger.reference ledger.store record reply transfer
      oldSource oldDestination source destination debit credit)
    (asked : attempt.AsksFor platform oldSource transfer)
    (store : next.store = ledger.store.after
      (.posted record transfer source destination debit credit))
    (history : next.history = ledger.history ++ [.committed attempt reply
      (Effect.posted record transfer source destination debit credit).writes]) :
    Progress platform payments before next (done ++ [payment]) (made ++ [transfer]) := by
  obtain ⟨preliminary, operation, found, determined, scope⟩ := makes.identity posted.recorded.identity
  have holds : Effect.Holds platform attempt ledger.reference ledger.store reply
      (.posted record transfer source destination debit credit) :=
    ⟨oldSource, oldDestination, posted⟩
  have evolves : Evolves [] ledger.store next.store := store ▸ evolves_after holds
  have kept : ledger.history ⊆ next.history := history ▸ List.subset_append_left _ _
  have stored : ∀ wanted, next.store.record? wanted =
      (ledger.store.record? wanted).or (if record.scope = wanted then some record else none) := by
    intro wanted
    rw [store, Db.record?_after]
  have mine : next.store.record? record.scope = some record := by
    simp [stored, posted.recorded.unused]
  have new : payment ∉ done := by
    intro already
    obtain ⟨_, _, settled⟩ := exists_of_forall₂ progress.settled already
    obtain ⟨earlier, body, writes, committed, makes', _⟩ := settled.answered
    obtain ⟨old, there, identity, _⟩ := reachable.answered.answered _ _ _ committed
    obtain ⟨preliminary', operation', found', determined', scope'⟩ := makes'.identity identity
    obtain rfl := Option.some.inj (found.symm.trans found')
    obtain rfl := Except.ok.inj (determined.symm.trans determined')
    rw [scope', ← scope, posted.recorded.unused] at there
    cases there
  obtain ⟨sourceId, destinationId, forward, scale, narrow, parsed⟩ := makes.asksFor asked
  obtain ⟨body, _, _, named, success⟩ := posted.recorded.success
  have committed : .committed attempt reply
      (Effect.posted record transfer source destination debit credit).writes ∈ next.history :=
    history ▸ List.mem_append_right _ List.mem_cons_self
  have settled : payment.Settled platform next transfer := by
    refine ⟨⟨attempt, body, _, success ▸ committed, makes, named⟩,
      ⟨record, ?_, posted.recorded.result⟩,
      posted.performed.initiator.trans makes.client, sourceId, destinationId, forward, ?_⟩
    · rw [← mine, scope, ← posted.operation, scope]
      rfl
    · obtain ⟨row, there, same⟩ := evolves.account _ _ posted.performed.sourceFound
      exact ⟨row, scale, sourceId ▸ there, same.currencyScale ▸ narrow, parsed⟩
  refine ⟨?_, ?_, ?_, ?_, ?_⟩
  · exact List.append_subset.mpr ⟨progress.within, by simpa using member⟩
  · exact List.nodup_append.mpr ⟨progress.once, List.nodup_singleton _, by
      rintro one among _ only rfl
      obtain rfl := List.mem_singleton.mp only
      exact new among⟩
  · rw [store, Db.after, progress.transfers, List.append_assoc]
  · exact List.rel_append (progress.settled.imp fun _ _ before => before.later kept evolves)
      (.cons settled .nil)
  · intro other among missing operation' kind
    simp only [List.mem_append, List.mem_singleton, not_or] at missing
    rw [stored, progress.records other among missing.1 operation' kind, Option.none_or, if_neg]
    intro same
    rw [scope] at same
    simp only [Payment.scope, Scope.mk.injEq] at same
    refine missing.2 (List.inj_on_of_nodup_map distinct among member ?_)
    rw [same.1, same.2.2]

theorem Progress.step (reachable : ledger.Reachable platform)
    (progress : Progress platform payments before ledger done made)
    (distinct : (payments.map fun payment => (payment.clientId, payment.idempotencyKey)).Nodup)
    (asked : ∀ id session, ledger.sessions id = some session →
      ∃ payment ∈ payments, session.context.Makes platform payment)
    (step : Ledger.Step platform ledger label next) :
    ∃ done' made', Progress platform payments before next (done ++ done') (made ++ made') := by
  have unchanged : next.store = ledger.store →
      ∃ done' made', Progress platform payments before next (done ++ done') (made ++ made') := by
    intro same
    refine ⟨[], [], ?_⟩
    rw [List.append_nil, List.append_nil]
    exact progress.later (Ledger.Step.keeps_history step) (same ▸ .refl _ _) (by rw [same])
      fun scope => by rw [same]
  cases step with
  | @commit _ session reply live finished =>
    obtain ⟨payment, member, makes⟩ := asked _ _ live
    obtain ⟨effect, holds, written, after⟩ := reachable.effect live finished
    cases effect with
    | replayed => exact unchanged after
    | opened record account =>
      obtain ⟨body, opens⟩ := holds.request
      obtain ⟨_, _, sent, _⟩ := makes.request
      cases opens.symm.trans sent
    | posted record transfer source destination debit credit =>
      obtain ⟨oldSource, oldDestination, posted⟩ := holds
      obtain ⟨row, _, admitted⟩ :=
        reachable.admitted live finished (written ▸ Effect.inserts_posted)
      obtain rfl := Option.some.inj
        (posted.performed.sourceFound.symm.trans admitted.between.sourceFound)
      exact ⟨[payment], [transfer], progress.posted reachable distinct member makes posted
        admitted.asked after (by rw [written])⟩
  | operate operator =>
    cases operator with
    | setStatus id status =>
      refine ⟨[], [], ?_⟩
      rw [List.append_nil, List.append_nil]
      exact progress.later (List.subset_append_left _ _) (evolves_setStatus platform _ id status) rfl
        fun _ => rfl
    | insertExchangeRate | insertFeeRule => exact unchanged rfl
  | _ => exact unchanged rfl

theorem Progress.run (reachable : before.Reachable platform) (idle : before.Idle)
    (distinct : (payments.map fun payment => (payment.clientId, payment.idempotencyKey)).Nodup)
    (fresh : ∀ payment ∈ payments, payment.Fresh before.store)
    {labels : List (Label sql Attempt Operator)} (run : Ledger.Run platform before labels ledger)
    (asked : ∀ id attempt, .begin id attempt ∈ labels →
      ∃ payment ∈ payments, attempt.Makes platform payment) :
    ∃ done made, Progress platform payments before ledger done made := by
  induction run with
  | refl =>
    exact ⟨[], [], List.nil_subset _, List.nodup_nil, (List.append_nil _).symm, .nil,
      fun payment member _ => fresh payment member⟩
  | @step middle last labels label run step ih =>
    obtain ⟨done, made, progress⟩ :=
      ih fun id attempt began => asked id attempt (List.mem_append_left _ began)
    have live : ∀ id session, middle.sessions id = some session →
        ∃ payment ∈ payments, session.context.Makes platform payment := by
      intro id session live
      obtain ⟨_, _, earlier, later, rfl, _⟩ := run.began idle live
      exact asked id session.context (by simp)
    obtain ⟨done', made', further⟩ := progress.step (reachable.run run) distinct live step
    exact ⟨_, _, further⟩

theorem Progress.done_iff (reachable : ledger.Reachable platform)
    (progress : Progress platform payments before ledger done made) {payment : Payment}
    (member : payment ∈ payments) :
    payment ∈ done ↔ ∃ attempt reply writes, .committed attempt reply writes ∈ ledger.history ∧
      attempt.Makes platform payment := by
  constructor
  · intro settled
    obtain ⟨_, _, settled⟩ := exists_of_forall₂ progress.settled settled
    obtain ⟨attempt, body, writes, committed, makes, _⟩ := settled.answered
    exact ⟨attempt, _, writes, committed, makes⟩
  · rintro ⟨attempt, reply, writes, committed, makes⟩
    by_contra missing
    obtain ⟨record, found, identity, _⟩ := reachable.answered.answered _ _ _ committed
    rw [makes.fresh (progress.records payment member missing) identity] at found
    cases found

theorem Progress.balance (reachable : before.Reachable platform)
    {labels : List (Label sql Attempt Operator)} (run : Ledger.Run platform before labels ledger)
    (progress : Progress platform payments before ledger done made) {id : Uuid} {account : Account}
    (found : before.store.account? id = some account) : ∃ row,
      ledger.store.account? id = some row ∧
      row.balanceMinor.val = account.balanceMinor.val + flow Transfer.movement made id := by
  obtain ⟨row, there, _⟩ := (reachable.run_evolves run).account id account found
  obtain ⟨opened, _, follows, follows'⟩ := reachable.opening_kept run found there
  refine ⟨row, there, ?_⟩
  rw [follows'.balance, follows.balance, progress.transfers, flow_append, Int.add_assoc]

end Steps

/-- In any interleaving of requests for some payments, each with a key of its own and any number of
retries, exactly the payments that some request was answered for are made, once, and balances
move by them alone. -/
theorem workload_exactly_once {platform : Platform} {before ledger : Ledger}
    {payments : List Payment} {labels : List (Label sql Attempt Operator)}
    (reachable : before.Reachable platform) (idle : before.Idle)
    (distinct : (payments.map fun payment => (payment.clientId, payment.idempotencyKey)).Nodup)
    (fresh : ∀ payment ∈ payments, payment.Fresh before.store)
    (run : Ledger.Run platform before labels ledger)
    (asked : ∀ id attempt, .begin id attempt ∈ labels →
      ∃ payment ∈ payments, attempt.Makes platform payment) :
    ∃ done made, done ⊆ payments ∧ done.Nodup ∧
      ledger.store.transfers = before.store.transfers ++ made ∧
      List.Forall₂ (Payment.Settled platform ledger) done made ∧
      (∀ payment ∈ payments, payment ∈ done ↔ ∃ attempt reply writes,
        .committed attempt reply writes ∈ ledger.history ∧ attempt.Makes platform payment) ∧
      ∀ id account, before.store.account? id = some account → ∃ row,
        ledger.store.account? id = some row ∧
        row.balanceMinor.val = account.balanceMinor.val + flow Transfer.movement made id := by
  obtain ⟨done, made, progress⟩ := Progress.run reachable idle distinct fresh run asked
  exact ⟨done, made, progress.within, progress.once, progress.transfers, progress.settled,
    fun payment member => progress.done_iff (reachable.run run) member,
    fun id account found => progress.balance reachable run found⟩

namespace Sample

def payment (clientId key : String) (source destination : Nat) (amount : String) : Payment :=
  ⟨clientId, key, resource (16 * source), resource (16 * destination), amount⟩

theorem moves_contexts (id : Nat) (attempt : Attempt) (count : Nat) :
    (moves id attempt count).filterMap Move.context? = [attempt] := by
  rw [moves, List.filterMap_cons_some (f := Move.context?) rfl, List.filterMap_replicate_of_none rfl]

-- Alice pays Bob, and retries while her first request is under way.
def retried : List (Move Attempt) :=
  moves 100 (transfer 4 "alice" "pay" 1 2 "30.00") 3 ++
    moves 101 (transfer 5 "alice" "pay" 1 2 "30.00") 3 ++
    List.replicate 14 (.advance 100) ++ [.finish 100] ++ List.replicate 4 (.advance 101) ++
    [.finish 101]

theorem transfer_makes (number source destination : Nat) (clientId key amount : String)
    (headers : (IdempotencyKey.fromHeaders (header key)).map IdempotencyKey.asStr = .ok key)
    (parsed : Platform.reference.parseUuid (resource (16 * source)).hyphenated =
      some (resource (16 * source)) ∧
      Platform.reference.parseUuid (resource (16 * destination)).hyphenated =
        some (resource (16 * destination)))
    (apart : resource (16 * source) ≠ resource (16 * destination)) :
    (transfer number clientId key source destination amount).Makes .reference
      (payment clientId key source destination amount) where
  client := rfl
  request := by
    cases read : IdempotencyKey.fromHeaders (header key) with
    | error => simp [read, Except.map] at headers
    | ok valid =>
      refine ⟨_, ⟨valid, resource (16 * source), resource (16 * destination), amount⟩, rfl, ?_, ?_,
        rfl, rfl, rfl⟩
      · have kept : (transfer number clientId key source destination amount).headers = header key := rfl
        simp only [validateTransferRequest, kept, read, bind, Except.bind, orFailure, parsed.1, parsed.2]
        rw [demand, if_pos apart]
      · rw [read] at headers
        exact Except.ok.inj headers

-- Bob means to pay as well, but does not ask for it.
def meant : List Payment :=
  [payment "alice" "pay" 1 2 "30.00", payment "bob" "back" 2 1 "1.00"]

end Sample

theorem workload_exactly_once_retried : ∃ (ledger : Ledger) (made : List Transfer),
    ledger.history.length = 4 ∧ ledger.store.transfers = made ∧
      List.Forall₂ (Payment.Settled .reference ledger)
        [Sample.payment "alice" "pay" 1 2 "30.00"] made := by
  have idle := Sample.idle (Sample.paid.take 2)
  have empty : (Sample.ledger (Sample.paid.take 2)).store.transfers = [] := by decide +kernel
  have fresh : ∀ payment ∈ Sample.meant,
      payment.Fresh (Sample.ledger (Sample.paid.take 2)).store := by
    have unused : ∀ payment ∈ Sample.meant, ∀ operation ∈ [OperationType.transfer, .fxTransfer],
        (Sample.ledger (Sample.paid.take 2)).store.record? (payment.scope operation) = none := by
      decide +kernel
    intro payment member operation kind
    exact unused payment member operation (by simpa using kind)
  have evaluated : (((Sample.ledger (Sample.paid.take 2)).performAll (engine .reference)
      (handle .reference) Sample.retried).map fun ledger : Ledger =>
        (ledger.history.length, ledger.store.transfers.map Transfer.initiatedBy)) =
      some (4, ["alice"]) := by
    decide +kernel
  obtain ⟨ledger, performed, counted⟩ := Option.map_eq_some_iff.mp evaluated
  obtain ⟨events, initiated⟩ := Prod.mk.inj counted
  obtain ⟨labels, stands, run⟩ := System.performAll_stands idle.known performed
  have makes : ∀ number, (Sample.transfer number "alice" "pay" 1 2 "30.00").Makes .reference
      (Sample.payment "alice" "pay" 1 2 "30.00") := fun number =>
    Sample.transfer_makes number 1 2 "alice" "pay" "30.00" (by decide) (by decide +kernel) (by decide)
  have asked : ∀ id attempt, .begin id attempt ∈ labels →
      ∃ payment ∈ Sample.meant, attempt.Makes .reference payment := by
    intro id attempt began
    have requested : attempt ∈ [Sample.transfer 4 "alice" "pay" 1 2 "30.00",
        Sample.transfer 5 "alice" "pay" 1 2 "30.00"] := Move.Stands.mem_contexts stands began
    refine ⟨Sample.payment "alice" "pay" 1 2 "30.00", List.mem_cons_self, ?_⟩
    simp only [List.mem_cons, List.not_mem_nil, or_false] at requested
    rcases requested with rfl | rfl
    · exact makes 4
    · exact makes 5
  obtain ⟨done, made, within, _, transfers, settled, _⟩ :=
    workload_exactly_once (Sample.reachable _) idle (by decide +kernel) fresh run asked
  rw [empty, List.nil_append] at transfers
  refine ⟨ledger, made, events, transfers, ?_⟩
  rw [transfers] at initiated
  obtain ⟨transfer, rfl, initiator⟩ := List.map_eq_singleton_iff.mp initiated
  cases settled with
  | @cons payment _ _ _ here rest =>
    cases rest
    have member : payment ∈ Sample.meant := within List.mem_cons_self
    have alice : payment.clientId = "alice" := here.initiator.symm.trans initiator
    simp only [Sample.meant, List.mem_cons, List.not_mem_nil, or_false] at member
    rcases member with rfl | rfl
    · exact .cons here .nil
    · exact absurd alice (by decide)

end LedgerService
