import LedgerService.Workloads

set_option autoImplicit false

namespace LedgerService

open Transaction Bookkeeping

namespace Payment

def Answered (platform : Platform) (ledger : Ledger) (payment : Payment) : Prop :=
  ∃ attempt reply writes, .committed attempt reply writes ∈ ledger.history ∧
    attempt.Makes platform payment

structure Ordinary (db : Db) (minor : Int) (payment : Payment) : Prop where
  accounts : ∃ source destination, db.account? payment.sourceAccountId = some source ∧
    db.account? payment.destinationAccountId = some destination ∧
    source.currency = destination.currency ∧
    ∀ scale, u8TryFrom source.currencyScale = some scale →
      ∃ value, parseMinorUnits payment.amount scale = .ok value ∧ value.val = minor

def movement (debit credit : Int) (payment : Payment) : Movement Uuid :=
  ⟨payment.sourceAccountId, payment.destinationAccountId, debit, credit⟩

end Payment

section Settled

variable {platform : Platform} {before ledger : Ledger} {payment : Payment} {transfer : Transfer}
  {minor : Int}

theorem Payment.Settled.ordinary (settled : payment.Settled platform ledger transfer)
    (reachable : ledger.Reachable platform) (evolves : Evolves [] before.store ledger.store)
    (ordinary : payment.Ordinary before.store minor) (member : transfer ∈ ledger.store.transfers) :
    transfer.kind = .transfer ∧ transfer.movement = payment.movement minor minor := by
  obtain ⟨source, destination, sourceFound, destinationFound, currency, amount⟩ := ordinary.accounts
  obtain ⟨source', sourceThere, sameSource⟩ := evolves.account _ _ sourceFound
  obtain ⟨destination', destinationThere, sameDestination⟩ := evolves.account _ _ destinationFound
  obtain ⟨row, row', grounded⟩ := reachable.provenance.grounded _ member
  obtain rfl := Option.some.inj ((settled.source ▸ grounded.sourceFound).symm.trans sourceThere)
  obtain rfl :=
    Option.some.inj ((settled.destination ▸ grounded.destinationFound).symm.trans destinationThere)
  have within : transfer.sourceCurrency = transfer.destinationCurrency := by
    rw [← grounded.sourceCurrency, ← grounded.destinationCurrency, sameSource.currency,
      sameDestination.currency, currency]
  have terms : OrdinaryTerms transfer := by
    rcases grounded.terms with terms | terms | ⟨_, _, terms⟩
    · exact terms
    · exact absurd within terms.currencies
    · cases settled.reverses.symm.trans terms.reverses
  obtain ⟨account, scale, found, narrow, parsed⟩ := settled.amount
  obtain rfl := Option.some.inj (sourceThere.symm.trans found)
  obtain ⟨value, read, rfl⟩ := amount scale (sameSource.currencyScale ▸ narrow)
  obtain rfl := Outcome.ok.inj (read.symm.trans parsed)
  refine ⟨terms.kind, ?_⟩
  rw [Transfer.movement, settled.source, settled.destination, terms.destinationAmount,
    ← terms.sourceAmount]
  rfl

theorem Payment.Settled.exchanged (settled : payment.Settled platform ledger transfer)
    (reachable : ledger.Reachable platform) (evolves : Evolves [] before.store ledger.store)
    {source destination : Account}
    (sourceFound : before.store.account? payment.sourceAccountId = some source)
    (destinationFound : before.store.account? payment.destinationAccountId = some destination)
    (crossing : source.currency ≠ destination.currency) (member : transfer ∈ ledger.store.transfers) :
    ∃ source' destination', source.SameHolder source' ∧ destination.SameHolder destination' ∧
      transfer.sourceCurrency = source.currency ∧
      transfer.destinationCurrency = destination.currency ∧
      FxTerms ledger.reference source' destination' transfer := by
  obtain ⟨source', sourceThere, sameSource⟩ := evolves.account _ _ sourceFound
  obtain ⟨destination', destinationThere, sameDestination⟩ := evolves.account _ _ destinationFound
  obtain ⟨row, row', grounded⟩ := reachable.provenance.grounded _ member
  obtain rfl := Option.some.inj ((settled.source ▸ grounded.sourceFound).symm.trans sourceThere)
  obtain rfl :=
    Option.some.inj ((settled.destination ▸ grounded.destinationFound).symm.trans destinationThere)
  have sourceCurrency := grounded.sourceCurrency.symm.trans sameSource.currency
  have destinationCurrency := grounded.destinationCurrency.symm.trans sameDestination.currency
  refine ⟨row, row', sameSource, sameDestination, sourceCurrency, destinationCurrency, ?_⟩
  rcases grounded.terms with terms | terms | ⟨_, _, terms⟩
  · exact absurd (sourceCurrency.symm.trans (terms.currencies.trans destinationCurrency)) crossing
  · exact terms
  · cases settled.reverses.symm.trans terms.reverses

end Settled

section Progress

variable {platform : Platform} {payments done : List Payment} {made : List Transfer}
  {before ledger : Ledger} {minor : Int}

theorem Progress.settled_zip (progress : Progress platform payments before ledger done made)
    {payment : Payment} {transfer : Transfer} (among : (payment, transfer) ∈ done.zip made) :
    payment.Settled platform ledger transfer :=
  (List.forall₂_iff_zip.mp progress.settled).2 among

theorem Progress.fst_zip (progress : Progress platform payments before ledger done made) :
    (done.zip made).map Prod.fst = done :=
  List.map_fst_zip progress.settled.length_eq.le

theorem Progress.snd_zip (progress : Progress platform payments before ledger done made) :
    (done.zip made).map Prod.snd = made :=
  List.map_snd_zip progress.settled.length_eq.ge

theorem Progress.mem_made (progress : Progress platform payments before ledger done made)
    {transfer : Transfer} (among : transfer ∈ made) : transfer ∈ ledger.store.transfers :=
  progress.transfers ▸ List.mem_append_right _ among

theorem Progress.transfer_of (progress : Progress platform payments before ledger done made)
    {payment : Payment} (member : payment ∈ done) :
    ∃ transfer ∈ made, (payment, transfer) ∈ done.zip made := by
  rw [← progress.fst_zip] at member
  obtain ⟨pair, among, rfl⟩ := List.mem_map.mp member
  exact ⟨pair.2, (List.of_mem_zip among).2, among⟩

theorem Progress.ids_nodup (progress : Progress platform payments before ledger done made)
    (reachable : ledger.Reachable platform) : (made.map Transfer.id).Nodup := by
  have unique := reachable.keyed.transfers
  rw [progress.transfers, List.map_append] at unique
  exact (List.nodup_append.mp unique).2.1

theorem Progress.payment_eq (progress : Progress platform payments before ledger done made)
    (reachable : ledger.Reachable platform) {first second : Payment × Transfer}
    (here : first ∈ done.zip made) (there : second ∈ done.zip made)
    (same : first.2.id = second.2.id) : first = second := by
  have unique : ((done.zip made).map fun pair => pair.2.id).Nodup := by
    have ids := progress.ids_nodup reachable
    rwa [← progress.snd_zip, List.map_map] at ids
  exact List.inj_on_of_nodup_map unique here there same

def Uniform (kind : TransferKind) (debit credit : Int) (done : List Payment) (made : List Transfer) :
    Prop :=
  ∀ payment transfer, (payment, transfer) ∈ done.zip made →
    transfer.kind = kind ∧ transfer.movement = payment.movement debit credit

theorem Progress.uniform (progress : Progress platform payments before ledger done made)
    (ordinary : ∀ payment ∈ payments, payment.Ordinary before.store minor)
    (reachable : ledger.Reachable platform) (evolves : Evolves [] before.store ledger.store) :
    Uniform .transfer minor minor done made := fun payment _ among =>
  (progress.settled_zip among).ordinary reachable evolves
    (ordinary payment (progress.within (List.of_mem_zip among).1))
    (progress.mem_made (List.of_mem_zip among).2)

theorem Progress.flow_made (progress : Progress platform payments before ledger done made)
    {kind : TransferKind} {debit credit : Int} (uniform : Uniform kind debit credit done made)
    (id : Uuid) : flow Transfer.movement made id = flow (Payment.movement debit credit) done id := by
  have each : (done.zip made).map (Transfer.movement ∘ Prod.snd) =
      (done.zip made).map (Payment.movement debit credit ∘ Prod.fst) := by
    apply List.map_congr_left
    rintro ⟨payment, transfer⟩ among
    exact (uniform _ _ among).2
  apply flow_congr
  rwa [← List.map_map, ← List.map_map, progress.snd_zip, progress.fst_zip] at each

theorem Progress.recorded (progress : Progress platform payments before ledger done made)
    {kind : TransferKind} {debit credit : Int} (uniform : Uniform kind debit credit done made)
    {payment : Payment} {transfer : Transfer} (among : (payment, transfer) ∈ done.zip made) :
    ∃ record, ledger.store.record? (payment.scope kind.operationType) = some record ∧
      record.resultingResourceId = some transfer.id := by
  have recorded := (progress.settled_zip among).recorded
  rwa [(uniform _ _ among).1] at recorded

theorem Progress.perm_filter (progress : Progress platform payments before ledger done made)
    (distinct : payments.Nodup) : done.Perm (payments.filter (· ∈ done)) := by
  rw [List.perm_ext_iff_of_nodup progress.once (distinct.filter _)]
  intro payment
  rw [List.mem_filter, decide_eq_true_eq]
  exact ⟨fun member => ⟨progress.within member, member⟩, fun both => both.2⟩

theorem Progress.flow_lost (progress : Progress platform payments before ledger done made)
    {debit credit : Int} (distinct : payments.Nodup) (id : Uuid) :
    flow (Payment.movement debit credit) payments id =
      flow (Payment.movement debit credit) done id +
        flow (Payment.movement debit credit) (payments.filter (· ∉ done)) id := by
  have parts : flow (Payment.movement debit credit) payments id = _ :=
    flow_filter_add (fun payment => decide (payment ∈ done))
  simpa only [flow_perm (progress.perm_filter distinct), decide_not] using parts

theorem Progress.run_answered (reachable : before.Reachable platform) (idle : before.Idle)
    (keys : (payments.map Payment.idempotencyKey).Nodup)
    (fresh : ∀ payment ∈ payments, payment.Fresh before.store)
    {labels : List (Label sql Attempt Operator)} (run : Ledger.Run platform before labels ledger)
    (asked : ∀ id attempt, .begin id attempt ∈ labels →
      ∃ payment ∈ payments, attempt.Makes platform payment) :
    ∃ done made, Progress platform payments before ledger done made ∧
      ∀ payment ∈ payments, (payment ∈ done ↔ payment.Answered platform ledger) := by
  have scopes : (payments.map fun payment => (payment.clientId, payment.idempotencyKey)).Nodup := by
    apply List.Nodup.of_map Prod.snd
    rwa [List.map_map]
  obtain ⟨done, made, progress⟩ := Progress.run reachable idle scopes fresh run asked
  exact ⟨done, made, progress, fun payment member => progress.done_iff (reachable.run run) member⟩

end Progress

end LedgerService
