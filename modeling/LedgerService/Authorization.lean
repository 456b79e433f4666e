import LedgerService.Admission
import LedgerService.Authentication
import LedgerService.Fingerprints

set_option autoImplicit false

namespace LedgerService

open Transaction

/-- A committed request of the source account's owner asked for the transfer. -/
structure Transfer.Wanted (platform : Platform) (db : Db) (attempt : Attempt) (transfer : Transfer)
    (source : Account) : Prop where
  found : db.account? transfer.sourceAccountId = some source
  owner : source.ownerId = attempt.clientId
  asked : attempt.AsksFor platform source transfer

section Wanted

variable {platform : Platform} {ledger last : Ledger} {db db' : Db} {attempt : Attempt}
  {source source' : Account} {transfer : Transfer}

theorem Attempt.AsksFor.evolve (asked : attempt.AsksFor platform source transfer)
    (same : source.SameHolder source') : attempt.AsksFor platform source' transfer := by
  unfold Attempt.AsksFor at asked ⊢
  rw [same.currencyScale]
  exact asked

theorem Transfer.Wanted.evolve (wanted : transfer.Wanted platform db attempt source)
    (evolves : Evolves [] db db') : ∃ row, transfer.Wanted platform db' attempt row := by
  obtain ⟨row, found, same⟩ := evolves.account _ _ wanted.found
  exact ⟨row, found, same.ownerId.trans wanted.owner, wanted.asked.evolve same⟩

def Ledger.Wants (platform : Platform) (ledger : Ledger) (transfer : Transfer) : Prop :=
  ∃ attempt reply writes source, .committed attempt reply writes ∈ ledger.history ∧
    .insertTransfer transfer ∈ writes ∧ transfer.Wanted platform ledger.store attempt source

theorem Ledger.Wants.later (wants : ledger.Wants platform transfer)
    (kept : ledger.history ⊆ last.history) (evolves : Evolves [] ledger.store last.store) :
    last.Wants platform transfer := by
  obtain ⟨attempt, reply, writes, source, committed, inserted, wanted⟩ := wants
  obtain ⟨row, still⟩ := wanted.evolve evolves
  exact ⟨attempt, reply, writes, row, kept committed, inserted, still⟩

theorem Ledger.Reachable.wants_step (reachable : ledger.Reachable platform) {next : Ledger}
    {label : Label sql Attempt Operator} (step : Ledger.Step platform ledger label next)
    (all : ∀ transfer ∈ ledger.store.transfers, ledger.Wants platform transfer) :
    ∀ transfer ∈ next.store.transfers, next.Wants platform transfer := by
  have grows := reachable.run_evolves (.step (.refl _) step)
  have kept := Ledger.Step.keeps_history step
  have earlier : ∀ transfer ∈ ledger.store.transfers, next.Wants platform transfer :=
    fun transfer member => (all transfer member).later kept grows
  cases step with
  | commit live finished =>
    obtain ⟨effect, holds, written, after⟩ := reachable.effect live finished
    intro transfer member
    simp only [after] at member
    cases effect with
    | replayed => exact earlier transfer member
    | opened record account => exact earlier transfer member
    | posted record made source destination debit credit =>
      rcases List.mem_append.mp member with old | new
      · exact earlier transfer old
      · obtain rfl := List.mem_singleton.mp new
        obtain ⟨oldSource, _, posted⟩ := holds
        have inserted := written ▸ @Effect.inserts_posted record transfer source destination debit credit
        obtain ⟨row, _, admitted⟩ := reachable.admitted live finished inserted
        obtain rfl : oldSource = row :=
          Option.some.inj (posted.performed.sourceFound.symm.trans admitted.between.sourceFound)
        have wanted : transfer.Wanted platform ledger.store _ oldSource :=
          ⟨admitted.between.sourceFound, posted.performed.owner, admitted.asked⟩
        obtain ⟨later, still⟩ := wanted.evolve grows
        exact ⟨_, _, _, later, List.mem_append_right _ List.mem_cons_self, inserted, still⟩
  | operate operator =>
    cases operator with
    | setStatus | insertExchangeRate | insertFeeRule => exact earlier
  | _ => exact earlier

theorem Ledger.Run.wants {configuration : Configuration} {labels : List (Label sql Attempt Operator)}
    (run : Ledger.Run platform (.start configuration) labels ledger) :
    ∀ transfer ∈ ledger.store.transfers, ledger.Wants platform transfer := by
  have all := run.induction (fun middle => Ledger.Reachable platform middle ∧
    ∀ transfer ∈ middle.store.transfers, Ledger.Wants platform middle transfer)
    ⟨Ledger.start_reachable platform configuration, fun transfer member => by cases member⟩ ?_
  · exact all.2
  · intro middle next label _ before step
    exact ⟨before.1.step step, before.1.wants_step step before.2⟩

end Wanted

/-- Where every request is let in by the extractor, each transfer of the ledger was inserted by the
commit of a request that asked for it and carries a token of the owner of its source account. -/
theorem debits_authorized {platform : Platform} {jwt : Jsonwebtoken} {config : AuthConfig}
    {verifier : AuthVerifier jwt} (built : AuthVerifier.new jwt config = some verifier)
    {configuration : Configuration} {labels : List (Label sql Attempt Operator)} {ledger : Ledger}
    (run : Ledger.Run platform (.start configuration) labels ledger)
    (extracted : ∀ id attempt, .begin id attempt ∈ labels →
      ∃ client, AuthenticatedClient.fromRequestParts verifier attempt.headers = .ok client ∧
        client.clientId = attempt.clientId) {transfer : Transfer}
    (member : transfer ∈ ledger.store.transfers) :
    ∃ id attempt reply writes token source, .begin id attempt ∈ labels ∧ .commit id ∈ labels ∧
      .committed attempt reply writes ∈ ledger.history ∧ .insertTransfer transfer ∈ writes ∧
      Presents attempt.headers token ∧ jwt.Verifies config token source.ownerId ∧
      ledger.store.account? transfer.sourceAccountId = some source ∧
      attempt.AsksFor platform source transfer := by
  obtain ⟨attempt, reply, writes, source, committed, inserted, wanted⟩ := run.wants transfer member
  obtain ⟨id, began, ended⟩ := run.committed_began (Ledger.start_idle configuration) rfl committed
  obtain ⟨client, accepted, same⟩ := extracted id attempt began
  obtain ⟨token, presents, verified⟩ := (extracted_iff built).mp accepted
  refine ⟨id, attempt, reply, writes, token, source, began, ended, committed, inserted, presents, ?_,
    wanted.found, wanted.asked⟩
  rw [wanted.owner, ← same]
  exact verified

namespace Sample

def signed (token : String) (attempt : Attempt) : Attempt :=
  { attempt with headers := authorization token ++ attempt.headers }

def alices (attempt : Attempt) : Attempt := signed "e30.YWxpY2U.c2ln" attempt

def bobs (attempt : Attempt) : Attempt := signed "e30.Ym9i.c2ln" attempt

-- Alice and Bob open accounts, and Alice pays Bob.
def signedMoves : List (Move Attempt) :=
  moves 1 (alices (account 1 "alice" "EUR" "100.00")) 4 ++ [.finish 1] ++
    moves 2 (bobs (account 2 "bob" "EUR" "5.00")) 4 ++ [.finish 2] ++
    moves 3 (alices (transfer 4 "alice" "pay" 1 2 "30.00")) 17 ++ [.finish 3]

theorem signedMoves_contexts : signedMoves.filterMap Move.context? =
    [alices (account 1 "alice" "EUR" "100.00"), bobs (account 2 "bob" "EUR" "5.00"),
      alices (transfer 4 "alice" "pay" 1 2 "30.00")] := rfl

theorem signedMoves_extracted : ∀ attempt ∈ signedMoves.filterMap Move.context?, ∃ client,
    AuthenticatedClient.fromRequestParts verifier attempt.headers = .ok client ∧
      client.clientId = attempt.clientId := by
  have alice : AuthenticatedClient.fromRequestParts verifier
      (authorization "e30.YWxpY2U.c2ln" ++ header "open") = .ok ⟨"alice", by decide⟩ := by
    decide +kernel
  have bob : AuthenticatedClient.fromRequestParts verifier
      (authorization "e30.Ym9i.c2ln" ++ header "open") = .ok ⟨"bob", by decide⟩ := by
    decide +kernel
  have payer : AuthenticatedClient.fromRequestParts verifier
      (authorization "e30.YWxpY2U.c2ln" ++ header "pay") = .ok ⟨"alice", by decide⟩ := by
    decide +kernel
  rw [signedMoves_contexts]
  simp only [List.forall_mem_cons]
  exact ⟨⟨_, alice, rfl⟩, ⟨_, bob, rfl⟩, ⟨_, payer, rfl⟩, by simp⟩

end Sample

theorem debits_authorized_alice : ∃ (ledger : Ledger) (attempt : Attempt) (token : List Char)
    (transfer : Transfer) (source : Account), transfer ∈ ledger.store.transfers ∧
      ledger.store.account? transfer.sourceAccountId = some source ∧
      Presents attempt.headers token ∧
      Sample.jwt.Verifies (Sample.config 86400).auth token source.ownerId ∧
      attempt.AsksFor .reference source transfer := by
  have idle := Ledger.start_idle Sample.configuration
  have performed : (((Ledger.start Sample.configuration).performAll (engine .reference)
      (handle .reference) Sample.signedMoves).map fun ledger : Ledger =>
        ledger.store.transfers.length) = some 1 := by
    decide +kernel
  obtain ⟨ledger, performed, one⟩ := Option.map_eq_some_iff.mp performed
  obtain ⟨transfer, member⟩ := List.exists_mem_of_length_pos (one ▸ Nat.one_pos)
  obtain ⟨labels, stands, run⟩ := System.performAll_stands idle.known performed
  have extracted : ∀ id attempt, .begin id attempt ∈ labels →
      ∃ client, AuthenticatedClient.fromRequestParts Sample.verifier attempt.headers = .ok client ∧
        client.clientId = attempt.clientId := by
    intro id attempt began
    exact Sample.signedMoves_extracted attempt (Move.Stands.mem_contexts stands began)
  obtain ⟨_, attempt, _, _, token, source, _, _, _, _, presents, verifies, found, asked⟩ :=
    debits_authorized Sample.verifier_built run extracted member
  exact ⟨ledger, attempt, token, transfer, source, member, found, presents, verifies, asked⟩

end LedgerService
