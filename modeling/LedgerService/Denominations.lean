import LedgerService.Provenance

set_option autoImplicit false

namespace LedgerService

open Transaction

section Currencies

variable {account row : Account}

theorem Account.Listed.same (listed : row.Listed) (same : row.SameHolder account) :
    account.Listed := by
  obtain ⟨currency, member, code, scale⟩ := listed
  exact ⟨currency, member, same.currency.trans code, same.currencyScale.trans scale⟩

theorem Account.Listed.scale (listed : account.Listed) :
    u8TryFrom account.currencyScale = some (asU8 account.currencyScale) ∧
      (asU8 account.currencyScale : Int) = account.currencyScale ∧
      asU8 account.currencyScale ≤ 18 := by
  -- No currency has more than two decimals.
  obtain ⟨currency, member, _, scale⟩ := listed
  have bound : currency.scale ≤ 2 := by
    simp only [currencies, List.mem_cons, List.not_mem_nil, or_false] at member
    rcases member with rfl | rfl | rfl | rfl <;> decide
  rw [scale]
  have exact : asU8 currency.scale = currency.scale := by
    simp only [asU8]
    omega
  refine ⟨?_, ?_, ?_⟩
  · simp only [u8TryFrom, exact]
    rw [if_pos (by omega)]
    simp
  · rw [exact]
  · omega

theorem Account.Listed.scale_eq (listed : account.Listed) (other : row.Listed)
    (same : account.currency = row.currency) : account.currencyScale = row.currencyScale := by
  -- Currencies differ in their codes.
  obtain ⟨first, firstMember, firstCode, firstScale⟩ := listed
  obtain ⟨second, secondMember, secondCode, secondScale⟩ := other
  have unique : ∀ one ∈ currencies, ∀ two ∈ currencies, one.code = two.code →
      one.scale = two.scale := by decide
  rw [firstScale, secondScale,
    unique first firstMember second secondMember (firstCode.symm.trans (same.trans secondCode))]

theorem Account.Listed.code (listed : account.Listed) : isCurrencyCode account.currency = true := by
  obtain ⟨currency, member, code, _⟩ := listed
  have codes : ∀ one ∈ currencies, isCurrencyCode one.code = true := by decide
  rw [code]
  exact codes currency member

end Currencies

/-- What the history and the tables say of each other. -/
structure Chronicle (db : Db) (history : List Ledger.Event) : Prop where
  listed : ∀ account ∈ db.accounts, account.Listed
  charged : ∀ transfer ∈ db.transfers,
    0 < transfer.totalSourceDebitMinor.val ∧ 0 < transfer.destinationAmountMinor.val
  posted : ∀ transfer ∈ db.transfers, ∃ attempt reply writes,
    .committed attempt reply writes ∈ history ∧ .insertTransfer transfer ∈ writes
  told : ∀ attempt reply writes transfer, .committed attempt reply writes ∈ history →
    .insertTransfer transfer ∈ writes → transfer ∈ db.transfers ∧
      ∃ body source destination, reply = .ok ⟨created, body⟩ ∧
        db.account? transfer.sourceAccountId = some source ∧
        db.account? transfer.destinationAccountId = some destination ∧
        ∀ field ∈ transfer.reported (asU8 source.currencyScale) (asU8 destination.currencyScale),
          body.Shows field

namespace Chronicle

variable {platform : Platform} {attempt : Attempt} {configuration : Configuration} {db db' : Db}
  {history : List Ledger.Event} {reply : Reply} {effect : Effect}

theorem told_evolves (chronicle : Chronicle db history) (evolves : Evolves [] db db')
    (kept : db.transfers ⊆ db'.transfers) {writes : List Write} {transfer : Transfer}
    (member : .committed attempt reply writes ∈ history)
    (inserted : .insertTransfer transfer ∈ writes) : transfer ∈ db'.transfers ∧
      ∃ body source destination, reply = .ok ⟨created, body⟩ ∧
        db'.account? transfer.sourceAccountId = some source ∧
        db'.account? transfer.destinationAccountId = some destination ∧
        ∀ field ∈ transfer.reported (asU8 source.currencyScale) (asU8 destination.currencyScale),
          body.Shows field := by
  obtain ⟨present, body, source, destination, answer, sourceFound, destinationFound, shown⟩ :=
    chronicle.told attempt reply writes transfer member inserted
  obtain ⟨source', sourceFound', sameSource⟩ := evolves.account _ _ sourceFound
  obtain ⟨destination', destinationFound', sameDestination⟩ := evolves.account _ _ destinationFound
  refine ⟨kept present, body, source', destination', answer, sourceFound', destinationFound', ?_⟩
  rw [sameSource.currencyScale, sameDestination.currencyScale]
  exact shown

theorem listed_after (chronicle : Chronicle db history)
    (holds : effect.Holds platform attempt configuration db reply) (told : effect.Told attempt) :
    ∀ account ∈ (db.after effect).accounts, account.Listed := by
  intro account member
  cases effect with
  | replayed => exact chronicle.listed account member
  | opened record opened =>
    rcases List.mem_append.mp member with earlier | new
    · exact chronicle.listed account earlier
    · obtain rfl := List.mem_singleton.mp new
      exact told.2
  | posted record transfer source destination debit credit =>
    obtain ⟨oldSource, oldDestination, posted⟩ := holds
    have performed := posted.performed
    have listed : ∀ id row, db.account? id = some row → row.Listed := fun id row found =>
      chronicle.listed row (Table.mem_of_lookup found)
    rcases Table.mem_replace member with rfl | ⟨other, _⟩
    · exact (listed _ _ performed.destinationFound).same performed.destinationMoved.sameHolder
    · rcases Table.mem_replace other with rfl | ⟨earlier, _⟩
      · exact (listed _ _ performed.sourceFound).same performed.sourceMoved.sameHolder
      · exact chronicle.listed account earlier

theorem after (chronicle : Chronicle db history)
    (holds : effect.Holds platform attempt configuration db reply) (told : effect.Told attempt) :
    Chronicle (db.after effect) (history ++ [.committed attempt reply effect.writes]) := by
  have evolves := evolves_after holds
  have listed := chronicle.listed_after holds told
  have older : ∀ transfer ∈ db.transfers, ∃ attempt' reply' writes',
      (.committed attempt' reply' writes' : Ledger.Event) ∈
        history ++ [.committed attempt reply effect.writes] ∧
      .insertTransfer transfer ∈ writes' := by
    intro transfer member
    obtain ⟨attempt', reply', writes', committed, inserted⟩ := chronicle.posted transfer member
    exact ⟨attempt', reply', writes', List.mem_append_left _ committed, inserted⟩
  cases effect with
  | replayed =>
    refine ⟨listed, chronicle.charged, older, ?_⟩
    intro attempt' reply' writes' transfer member inserted
    rcases List.mem_append.mp member with earlier | new
    · exact chronicle.told _ _ _ transfer earlier inserted
    · cases List.mem_singleton.mp new
      simp [Effect.writes] at inserted
  | opened record account =>
    refine ⟨listed, chronicle.charged, older, ?_⟩
    intro attempt' reply' writes' transfer member inserted
    rcases List.mem_append.mp member with earlier | new
    · exact chronicle.told_evolves evolves (List.Subset.refl _) earlier inserted
    · cases List.mem_singleton.mp new
      simp [Effect.writes] at inserted
  | posted record transfer source destination debit credit =>
    have kept : db.transfers ⊆ (db.after (.posted record transfer source destination debit
        credit)).transfers := fun row member => List.mem_append_left _ member
    obtain ⟨oldSource, oldDestination, posted⟩ := holds
    have performed := posted.performed
    obtain ⟨_, body, responded, shown⟩ := told
    obtain ⟨body', _, stored, _, answer⟩ := posted.recorded.success
    obtain rfl : body = body' := Option.some.inj (responded.symm.trans stored)
    refine ⟨listed, ?_, ?_, ?_⟩
    · intro row member
      rcases List.mem_append.mp member with earlier | new
      · exact chronicle.charged row earlier
      · obtain rfl := List.mem_singleton.mp new
        exact ⟨performed.total, performed.destinationAmount⟩
    · intro row member
      rcases List.mem_append.mp member with earlier | new
      · exact older row earlier
      · obtain rfl := List.mem_singleton.mp new
        exact ⟨attempt, reply, _, List.mem_append_right _ List.mem_cons_self, by
          simp [Effect.writes]⟩
    · intro attempt' reply' writes' row member inserted
      rcases List.mem_append.mp member with earlier | new
      · exact chronicle.told_evolves evolves kept earlier inserted
      · cases List.mem_singleton.mp new
        obtain rfl : row = transfer := by simpa [Effect.writes] using inserted
        have distinct : destination.id ≠ row.sourceAccountId := by
          rw [performed.destination_id]
          exact performed.distinct.symm
        refine ⟨List.mem_append_right _ List.mem_cons_self, body, source, destination, answer, ?_,
          ?_, shown⟩
        · simp [performed.sourceFound, performed.source_id, distinct]
        · simp [performed.destinationFound, performed.destination_id]

end Chronicle

theorem Ledger.Reachable.chronicle {platform : Platform} {ledger : Ledger}
    (reachable : ledger.Reachable platform) : Chronicle ledger.store ledger.history := by
  obtain ⟨configuration, labels, run⟩ := reachable
  refine run.invariant (growingIsolation platform) (fun db _ history => Chronicle db history)
    (fun _ _ => trivial) (Ledger.start_idle configuration).consistent ?_ ?_ ?_
  · constructor <;> simp [Ledger.start, Db.empty]
  · intro attempt configuration db history reply writes before commits
    obtain ⟨effect, holds, told, rfl⟩ := handle_commits_told id commits
    rw [view_writes holds]
    exact before.after holds told
  · intro operator configuration db history _ _ before
    have later : ∀ event ∈ history, event ∈ history ++ [.operated operator] := fun event member =>
      List.mem_append_left _ member
    have earlier : ∀ attempt reply writes,
        (.committed attempt reply writes : Ledger.Event) ∈ history ++ [.operated operator] →
        .committed attempt reply writes ∈ history := by
      intro attempt reply writes member
      simpa using member
    have evolves : Evolves [] db (operator.operate (db, configuration)).1 :=
      @evolves_of_operator platform _ _ _ _ (by intro lock member; cases member)
    have kept : (operator.operate (db, configuration)).1.transfers = db.transfers := by
      cases operator <;> rfl
    refine ⟨?_, ?_, ?_, ?_⟩
    · cases operator with
      | setStatus id status =>
        intro account member
        obtain ⟨row, present, rfl⟩ := List.mem_map.mp member
        obtain ⟨currency, listed, code, scale⟩ := before.listed row present
        by_cases same : row.id = id
        · exact ⟨currency, listed, by simpa [same] using code, by simpa [same] using scale⟩
        · exact ⟨currency, listed, by simpa [same] using code, by simpa [same] using scale⟩
      | insertExchangeRate row => exact before.listed
      | insertFeeRule row => exact before.listed
    · intro transfer member
      exact before.charged transfer (kept ▸ member)
    · intro transfer member
      obtain ⟨attempt, reply, writes, committed, inserted⟩ :=
        before.posted transfer (kept ▸ member)
      exact ⟨attempt, reply, writes, later _ committed, inserted⟩
    · intro attempt reply writes transfer member inserted
      exact before.told_evolves evolves (by rw [kept]; exact List.Subset.refl _)
        (earlier _ _ _ member) inserted

section Found

variable {platform : Platform} {ledger : Ledger}

theorem Ledger.Reachable.listed (reachable : ledger.Reachable platform) {id : Uuid}
    {account : Account} (found : ledger.store.account? id = some account) : account.Listed :=
  reachable.chronicle.listed account (Table.mem_of_lookup found)

end Found

end LedgerService
