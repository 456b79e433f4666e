import LedgerService.Deadlocks
import LedgerService.Transaction.Draining

set_option autoImplicit false

namespace LedgerService

open Transaction

section Lengths

variable (platform : Platform) (clientId : String) (headers : HeaderMap) (ids : NewIds)
  (scope : Scope) (fingerprint : String)

theorem send_ends (statement : Statement) : (send statement).EndsWithin 1 := by
  intro answer
  cases answer <;> trivial

theorem ask_ends (statement : Statement) : (ask statement).EndsWithin 1 := fun _ => trivial

theorem completedSuccess_ends : (completedSuccess scope).EndsWithin 1 := by
  simp only [completedSuccess, Program.bind_eq]
  apply (send_ends _).bind
  intro found
  cases found with
  | none => trivial
  | some record =>
    apply (Program.endsWithin_orFail _ _).bind
    intro httpStatus
    apply (Program.endsWithin_orFail _ _).bind
    intro responseBody
    trivial

theorem reserve_ends : (reserve platform scope fingerprint).EndsWithin 2 := by
  simp only [reserve, Program.bind_eq]
  apply (Program.endsWithin_orFail _ _).bind
  intro retentionSeconds
  apply (send_ends _).bind
  intro inserted
  split
  · trivial
  · apply (send_ends _).bind
    intro found
    apply (Program.endsWithin_orFail _ _).bind
    intro record
    split
    · trivial
    · split <;> trivial

theorem replaySuccess_ends (httpStatus : Int) (responseBody : Value) :
    (replaySuccess httpStatus responseBody).EndsWithin 1 := by
  simp only [replaySuccess, Program.bind_eq]
  apply (Program.endsWithin_emit _).bind
  intro _
  apply (Program.endsWithin_ofExcept _).bind
  intro status
  trivial

theorem rejectConflict_ends : rejectConflict.EndsWithin 1 := by
  simp only [rejectConflict, Program.bind_eq]
  apply (Program.endsWithin_emit _).bind
  intro _
  trivial

theorem replayReserved_ends : (replayReserved platform scope fingerprint).EndsWithin 3 := by
  simp only [replayReserved, Program.bind_eq]
  apply (reserve_ends platform scope fingerprint).bind
  intro reservation
  cases reservation with
  | owned =>
    apply (Program.endsWithin_emit _).bind
    intro _
    trivial
  | replay httpStatus responseBody => exact replaySuccess_ends httpStatus responseBody
  | conflict => exact rejectConflict_ends

theorem replayOrReserve_ends : (replayOrReserve platform scope fingerprint).EndsWithin 4 := by
  simp only [replayOrReserve, Program.bind_eq]
  apply (completedSuccess_ends scope).bind
  intro completed
  cases completed with
  | none => exact replayReserved_ends platform scope fingerprint
  | some stored =>
    obtain ⟨storedFingerprint, httpStatus, responseBody⟩ := stored
    dsimp only
    split
    · exact rejectConflict_ends.mono (by decide)
    · exact (replaySuccess_ends httpStatus responseBody).mono (by decide)

theorem storeSuccess_ends (httpStatus : Int) (responseBody : Value) (resource : Uuid) :
    (storeSuccess scope httpStatus responseBody resource).EndsWithin 1 := by
  simp only [storeSuccess, Program.bind_eq]
  apply (send_ends _).bind
  intro _
  trivial

theorem lockAccounts_ends (ids : List Uuid) : (lockAccounts ids).EndsWithin ids.length := by
  induction ids with
  | nil => trivial
  | cons id rest ih =>
    simp only [lockAccounts, Program.bind_eq]
    apply (send_ends _).bind
    intro row
    rw [← Nat.zero_add rest.length]
    apply ih.bind
    intro rows
    trivial

theorem selectAccountsForUpdate_ends (ids : List Uuid) :
    (selectAccountsForUpdate ids).EndsWithin ids.length := by
  apply (lockAccounts_ends _).mono
  rw [List.length_insertionSort]
  exact (List.dedup_sublist ids).length_le

theorem post_ends (posting : Posting) : (post posting).EndsWithin 5 := by
  simp only [post, Program.bind_eq]
  apply (send_ends _).bind
  intro createdAt
  apply (send_ends _).bind
  intro _
  apply (send_ends _).bind
  intro _
  apply (send_ends _).bind
  intro _
  apply (send_ends _).bind
  intro _
  trivial

theorem selectExchangeRate_ends (source destination : String) (time : Timestamp) :
    (selectExchangeRate source destination time).EndsWithin 1 := by
  simp only [selectExchangeRate, Program.bind_eq]
  apply (ask_ends _).bind
  intro answer
  split <;> trivial

theorem selectFeeRule_ends (source destination : String) (time : Timestamp) :
    (selectFeeRule source destination time).EndsWithin 2 := by
  simp only [selectFeeRule, Program.bind_eq]
  apply (ask_ends _).bind
  intro answer
  split
  · trivial
  · trivial
  · trivial
  · apply (ask_ends _).bind
    intro defaults
    split <;> trivial

theorem selectFxConfiguration_ends (operationType : OperationType) (preliminary : Preliminary)
    (time : Timestamp) :
    (selectFxConfiguration operationType preliminary time).EndsWithin 3 := by
  unfold selectFxConfiguration
  simp only [Program.bind_eq]
  split
  · apply (selectExchangeRate_ends _ _ _).bind
    intro rate
    apply (Program.endsWithin_ofExcept _).bind
    intro rate
    apply (selectFeeRule_ends _ _ _).bind
    intro fee
    apply (Program.endsWithin_ofExcept _).bind
    intro fee
    trivial
  · trivial

theorem performTransfer_ends (preliminary : Preliminary) (request : TransferRequest)
    (amountMinor : I64) :
    (performTransfer clientId ids scope preliminary request amountMinor).EndsWithin 12 := by
  simp only [performTransfer, Program.bind_eq]
  apply (send_ends _).bind
  intro operationTime
  apply (selectFxConfiguration_ends _ _ _).bind
  intro fxConfiguration
  apply (selectAccountsForUpdate_ends [request.sourceAccountId, request.destinationAccountId]).bind
  intro accounts
  apply (Program.endsWithin_ofExcept _).bind
  intro pair
  apply (Program.endsWithin_ofExcept _).bind
  intro terms
  apply (Program.endsWithin_ofExcept _).bind
  intro balances
  apply (post_ends _).bind
  intro createdAt
  apply (Program.endsWithin_ofExcept _).bind
  intro responseBody
  apply (storeSuccess_ends _ _ _ _).bind
  intro _
  trivial

theorem lockOriginal_ends (id : Uuid) : (lockOriginal clientId id).EndsWithin 3 := by
  simp only [lockOriginal, Program.bind_eq]
  apply (send_ends _).bind
  intro found
  apply (Program.endsWithin_orFail _ _).bind
  intro original
  apply (Program.endsWithin_ensure _ _).bind
  intro _
  apply (send_ends _).bind
  intro authorized
  apply (Program.endsWithin_ensure _ _).bind
  intro _
  apply (send_ends _).bind
  intro reversed
  apply (Program.endsWithin_ensure _ _).bind
  intro _
  trivial

theorem performReversal_ends (id : Uuid) :
    (performReversal clientId ids scope id).EndsWithin 11 := by
  simp only [performReversal, Program.bind_eq]
  apply (lockOriginal_ends clientId id).bind
  intro original
  apply (selectAccountsForUpdate_ends
    [original.destinationAccountId, original.sourceAccountId]).bind
  intro accounts
  apply (Program.endsWithin_ofExcept _).bind
  intro pair
  apply (Program.endsWithin_ofExcept _).bind
  intro balances
  apply (post_ends _).bind
  intro createdAt
  apply (Program.endsWithin_ofExcept _).bind
  intro responseBody
  apply (storeSuccess_ends _ _ _ _).bind
  intro _
  trivial

theorem createAccount_ends (body : Option CreateAccountRequest) (id : Uuid) :
    (createAccount platform clientId headers body id).EndsWithin 5 := by
  simp only [createAccount, performAccountCreation, Program.bind_eq]
  apply (Program.endsWithin_ofExcept _).bind
  intro request
  apply (send_ends _).bind
  intro _
  apply (reserve_ends platform _ _).bind
  intro reservation
  cases reservation with
  | owned =>
    apply (send_ends _).bind
    intro _
    apply (Program.endsWithin_ofExcept _).bind
    intro responseBody
    apply (storeSuccess_ends _ _ _ _).bind
    intro _
    trivial
  | replay httpStatus responseBody => trivial
  | conflict => trivial

theorem acquireConnection_ends : acquireConnection.EndsWithin 2 := by
  simp only [acquireConnection, Program.bind_eq]
  apply (ask_ends _).bind
  intro answer
  cases answer with
  | ok _ => exact Program.endsWithin_emit _
  | error error =>
    apply (Program.endsWithin_emit _).bind
    intro _
    trivial

theorem createTransfer_ends (body : Option CreateTransferRequest) :
    (createTransfer platform clientId headers body ids).EndsWithin 21 := by
  simp only [createTransfer, Program.bind_eq]
  apply (Program.endsWithin_ofExcept _).bind
  intro request
  apply acquireConnection_ends.bind
  intro _
  apply (send_ends _).bind
  intro _
  apply (send_ends _).bind
  intro found
  apply (Program.endsWithin_orFail _ _).bind
  intro preliminary
  apply (Program.endsWithin_ofExcept _).bind
  intro operationType
  apply (Program.endsWithin_emit _).bind
  intro _
  apply (Program.endsWithin_ofExcept _).bind
  intro amountMinor
  apply (replayOrReserve_ends platform _ _).bind
  intro replayed
  cases replayed with
  | some success => trivial
  | none => exact performTransfer_ends clientId ids _ preliminary request amountMinor

theorem beginReversal_ends : beginReversal.EndsWithin 2 := by
  simp only [beginReversal, Program.bind_eq]
  apply (ask_ends _).bind
  intro answer
  cases answer with
  | ok _ => trivial
  | error error =>
    apply (Program.endsWithin_emit _).bind
    intro _
    trivial

theorem reverseTransfer_ends (transferId : String) :
    (reverseTransfer platform clientId headers transferId ids).EndsWithin 18 := by
  simp only [reverseTransfer, Program.bind_eq]
  apply (Program.endsWithin_ofExcept _).bind
  intro request
  apply beginReversal_ends.bind
  intro _
  apply (Program.endsWithin_emit _).bind
  intro _
  apply (replayOrReserve_ends platform _ _).bind
  intro replayed
  cases replayed with
  | some success => trivial
  | none => exact performReversal_ends clientId ids _ _

-- No handler sends more statements and signals.
def longestHandler : Nat := 21

theorem handle_ends (attempt : Attempt) : (handle platform attempt).EndsWithin longestHandler := by
  unfold handle
  split
  · exact (createAccount_ends _ _ _ _ _).mono (by decide)
  · exact createTransfer_ends _ _ _ _ _
  · exact (reverseTransfer_ends _ _ _ _ _).mono (by decide)

end Lengths

section Runs

variable {platform : Platform} {ledger : Ledger}

theorem Ledger.FreshEntries.advances (fresh : ledger.FreshEntries) {next : Ledger}
    (advances : Advances (engine platform) (handle platform) ledger next) : next.FreshEntries := by
  -- No session begins, so ids are only given up.
  obtain ⟨label, step, own, _⟩ := advances
  have kept : ∀ id, next.entries id ⊆ ledger.entries id := by
    intro id
    by_cases acting : label.actor = some id
    · cases live : next.sessions id with
      | none => simp [Ledger.entries, live]
      | some session =>
        rcases step.shorter acting live with ⟨began, _⟩ | ⟨before, present, same, _⟩
        · exact absurd began (own.not_begin _ _)
        · simp [Ledger.entries, live, present, same]
    · simp [Ledger.entries, step.sessions_of_other acting]
  intro first second different entry mine their
  exact fresh first second different entry (kept first mine) (kept second their)

theorem Ledger.Reachable.not_all_waiting (reachable : ledger.Reachable platform)
    (fresh : ledger.FreshEntries) (live : ∃ id, ledger.sessions id ≠ none) :
    ∃ id, ledger.sessions id ≠ none ∧ ¬ ledger.Waiting (engine platform) id := by
  have acyclic := System.no_circle (E := engine platform) (s := ledger)
    (fun lock => lock.resource.rank ledger.store)
    (fun held wanted clash => congrArg (Resource.rank ledger.store) clash.1)
    (fun _ _ _ _ _ _ _ earlier later => reachable.ascending fresh earlier later)
  obtain ⟨configuration, labels, run⟩ := reachable
  exact System.exists_not_waiting acyclic
    (fun id session found => run.live_begun (Ledger.start_idle configuration) found) live

def Ledger.drawn (ledger : Ledger) : List (Nat × List Uuid) :=
  ledger.begun.map fun id => (id, ledger.entries id)

theorem Ledger.Reachable.fresh_of_drawn (reachable : ledger.Reachable platform)
    (apart : ∀ first ∈ ledger.drawn, ∀ second ∈ ledger.drawn, first.1 ≠ second.1 →
      first.2.all (· ∉ second.2) = true) : ledger.FreshEntries := by
  obtain ⟨configuration, labels, run⟩ := reachable
  have known : ∀ id entry, entry ∈ ledger.entries id → (id, ledger.entries id) ∈ ledger.drawn := by
    intro id entry member
    cases live : ledger.sessions id with
    | none => simp [Ledger.entries, live] at member
    | some session =>
      exact List.mem_map_of_mem (run.live_begun (Ledger.start_idle configuration) live)
  intro first second different entry mine their
  have others := apart _ (known first entry mine) _ (known second entry their) different
  exact of_decide_eq_true (List.all_eq_true.mp others entry mine) their

/-- Whatever the schedule, each request under way ends after a bounded number of its own steps, and
all of them together do; and some schedule in which nothing fails from outside brings all of them to
their end. -/
theorem requests_end (reachable : ledger.Reachable platform) (fresh : ledger.FreshEntries) :
    (∀ labels later, Ledger.Run platform ledger labels later → ∀ id ∈ ledger.begun,
      labels.countP (fun label => label.actor = some id) ≤ longestHandler + 1) ∧
    (∀ labels later, Ledger.Run platform ledger labels later →
      (∀ id attempt, .begin id attempt ∉ labels) →
      labels.countP (fun label => label.actor.isSome) ≤
        ledger.underWay.length * (longestHandler + 1)) ∧
    ∃ later, Relation.ReflTransGen (Advances (engine platform) (handle platform)) ledger later ∧
      later.Idle := by
  have bounded : ∀ id session, ledger.sessions id = some session →
      id ∈ ledger.begun ∧ session.rest.EndsWithin longestHandler := by
    obtain ⟨configuration, labels, run⟩ := reachable
    have idle := Ledger.start_idle configuration
    exact fun id session live =>
      ⟨run.live_begun idle live, run.ends_within (handle_ends platform) idle live⟩
  have owes := System.owes_of_bounded bounded
  refine ⟨?_, ?_, owes.drains ?_⟩
  · intro labels later run id begun
    obtain ⟨fewer, _, counted⟩ := run.left begun
      fun session live => ⟨longestHandler, rfl, (bounded id session live).2⟩
    omega
  · intro labels later run closed
    obtain ⟨fewer, _, counted⟩ := run.owes closed owes
    omega
  intro later advanced live
  have kept : Ledger.Reachable platform later ∧ Ledger.FreshEntries later := by
    clear live
    induction advanced with
    | refl => exact ⟨reachable, fresh⟩
    | tail _ advances ih =>
      have drawn := ih.2.advances advances
      obtain ⟨label, step, _, _⟩ := advances
      exact ⟨ih.1.step step, drawn⟩
  exact kept.1.not_all_waiting kept.2 live

theorem requests_end_opposed :
    ∃ ledger : Ledger, ledger.underWay = [101, 100] ∧ ledger.Waiting (engine .reference) 101 ∧
      (∀ labels later, Ledger.Run .reference ledger labels later → ∀ id ∈ ledger.begun,
        labels.countP (fun label => label.actor = some id) ≤ 22) ∧
      (∀ labels later, Ledger.Run .reference ledger labels later →
        (∀ id attempt, .begin id attempt ∉ labels) →
        labels.countP (fun label => label.actor.isSome) ≤ 44) ∧
      ∃ later, Relation.ReflTransGen (Advances (engine .reference) (handle .reference)) ledger
        later ∧ later.Idle := by
  have evaluated : ((Sample.ledger (Sample.paid.take 2)).performAll (engine .reference)
      (handle .reference) Sample.opposed).map (fun ledger : Ledger =>
        ((ledger.underWay, ledger.drawn), ledger.wanted (engine .reference) 101,
          (ledger.held 100).drop 1)) =
      some (([101, 100], [(101, [Sample.resource 145, Sample.resource 146]),
          (100, [Sample.resource 129, Sample.resource 130]), (2, []), (1, [])]),
        [⟨.account (Sample.resource 16), .update⟩],
        [⟨.account (Sample.resource 16), .update⟩, ⟨.account (Sample.resource 32), .update⟩]) := by
    decide +kernel
  obtain ⟨ledger, performed, facts⟩ := Option.map_eq_some_iff.mp evaluated
  simp only [Prod.mk.injEq] at facts
  obtain ⟨⟨live, drawn⟩, wanted, held⟩ := facts
  have apart : ∀ first ∈ ledger.drawn, ∀ second ∈ ledger.drawn, first.1 ≠ second.1 →
      first.2.all (· ∉ second.2) = true := by
    rw [drawn]
    decide +kernel
  have reachable := (Sample.reachable _).performAll (Sample.idle _) performed
  obtain ⟨each, bounded, drained⟩ := requests_end reachable (reachable.fresh_of_drawn apart)
  rw [live] at bounded
  refine ⟨ledger, live, ⟨100, ⟨.account (Sample.resource 16), .update⟩,
    ⟨.account (Sample.resource 16), .update⟩, by decide, by simp [wanted], ?_, ⟨rfl, rfl⟩⟩,
    each, bounded, drained⟩
  exact List.mem_of_mem_drop (i := 1) (by simp [held])

end Runs

end LedgerService
