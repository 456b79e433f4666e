import LedgerService.Books
import LedgerService.Reference

set_option autoImplicit false

namespace LedgerService

open Transaction Bookkeeping

structure Account.Follows (opened account : Account) (transfers : List Transfer) (id : Uuid) :
    Prop where
  holder : opened.SameHolder account
  balance : account.balanceMinor.val =
    opened.balanceMinor.val + flow Transfer.movement transfers id
  version : account.version.val = touches Transfer.movement transfers id

structure Reconciled (db : Db) (history : List Ledger.Event) : Prop where
  keys : (openings history).map Account.id = db.accounts.map Account.id
  follows : ∀ id account, db.account? id = some account → ∃ opened,
    Table.lookup Account.id (openings history) id = some opened ∧
    opened.Follows account db.transfers id
  untouched : ∀ id, db.account? id = none → ∀ transfer ∈ db.transfers,
    transfer.sourceAccountId ≠ id ∧ transfer.destinationAccountId ≠ id
  balanced : ∀ transfer ∈ db.transfers, transfer.sourceCurrency = transfer.destinationCurrency →
    transfer.totalSourceDebitMinor.val = transfer.destinationAmountMinor.val
  totals : ∀ currency, totalIn currency db.accounts =
    totalIn currency (openings history) + flow Transfer.exchange db.transfers currency

section Steps

variable {platform : Platform} {attempt : Attempt} {configuration : Configuration} {db : Db}
  {history : List Ledger.Event} {reply : Reply}

theorem openings_unused (keys : (openings history).map Account.id = db.accounts.map Account.id)
    {id : Uuid} (unused : db.account? id = none) :
    Table.lookup Account.id (openings history) id = none := by
  rw [Table.lookup_eq_none]
  intro row member same
  have known : id ∈ db.accounts.map Account.id := keys ▸ same ▸ List.mem_map_of_mem member
  obtain ⟨account, present, rfl⟩ := List.mem_map.mp known
  exact Table.lookup_eq_none.mp unused account present rfl

theorem Reconciled.opened {record : IdempotencyRecord} {account : Account}
    (reconciled : Reconciled db history)
    (opened : Opened platform attempt db record reply account) :
    Reconciled (db.after (.opened record account))
      (history ++ [.committed attempt reply (Effect.opened record account).writes]) where
  keys := by simp [Db.after, reconciled.keys]
  follows := by
    intro id row found
    rw [openings_append, openedBy_effect, Table.lookup_append]
    rw [Db.account?_after] at found
    cases before : db.account? id with
    | some old =>
      obtain ⟨first, present, follows⟩ := reconciled.follows id old before
      simp only [before, Option.some_or, Option.some.injEq] at found
      exact ⟨first, by simp [present], found ▸ follows⟩
    | none =>
      simp only [before, Option.none_or] at found
      have same : account.id = id ∧ account = row := by simpa using found
      have still := reconciled.untouched id before
      have unmoved : flow Transfer.movement db.transfers id = 0 :=
        flow_eq_zero fun transfer member => transfer.movement.on_of_untouched id
          (still transfer member).1 (still transfer member).2
      have untouched : touches Transfer.movement db.transfers id = 0 :=
        touches_eq_zero fun transfer member => still transfer member
      refine ⟨account, ?_, ?_⟩
      · rw [openings_unused reconciled.keys before, same.1]
        simp
      · rw [← same.2]
        exact ⟨.refl account, by simp [Db.after, unmoved], by simp [Db.after, opened.version, untouched]⟩
  untouched := by
    intro id unused
    rw [Db.account?_after, Option.or_eq_none_iff] at unused
    exact reconciled.untouched id unused.1
  balanced := reconciled.balanced
  totals := by
    intro currency
    have before := reconciled.totals currency
    simp only [openings_append, openedBy_effect, totalIn_append, Db.after]
    omega

theorem Reconciled.balanced_terms (reconciled : Reconciled db history) {transfer : Transfer}
    {source destination : Account}
    (terms : Terms attempt configuration db source destination transfer)
    (within : transfer.sourceCurrency = transfer.destinationCurrency) :
    transfer.totalSourceDebitMinor.val = transfer.destinationAmountMinor.val := by
  cases terms with
  | ordinary _ _ terms => rw [terms.destinationAmount]
  | fx _ _ terms => exact absurd within terms.currencies
  | reversal _ original found _ terms =>
    have originalWithin : original.sourceCurrency = original.destinationCurrency := by
      rw [← terms.sourceCurrency, ← terms.destinationCurrency, within]
    have balanced := reconciled.balanced original (Table.mem_of_lookup found) originalWithin
    rw [terms.total, terms.destinationAmount, balanced]

variable {transfer : Transfer} {oldSource oldDestination source destination : Account}
  {debit credit : Uuid}

theorem Performed.totalIn_after (keyed : Keyed db)
    (performed : Performed attempt configuration db transfer oldSource oldDestination source
      destination debit credit) (currency : String) :
    totalIn currency
        (Table.replace Account.id (Table.replace Account.id db.accounts source) destination) =
      totalIn currency db.accounts + transfer.exchange.on currency := by
  have apart : source.id ≠ destination.id := by
    rw [performed.source_id, performed.destination_id]
    exact performed.distinct
  have sourceFound : Table.lookup Account.id db.accounts source.id = some oldSource := by
    rw [performed.source_id]
    exact performed.sourceFound
  have destinationFound : Table.lookup Account.id (Table.replace Account.id db.accounts source)
      destination.id = some oldDestination := by
    have before : Table.lookup Account.id db.accounts destination.id = some oldDestination := by
      rw [performed.destination_id]
      exact performed.destinationFound
    simp [Table.lookup_replace, before, apart]
  have sourceHolder := performed.sourceMoved.sameHolder.currency.trans performed.sourceCurrency
  have destinationHolder :=
    performed.destinationMoved.sameHolder.currency.trans performed.destinationCurrency
  rw [totalIn, Table.sum_replace (by simpa using keyed.accounts) destinationFound,
    Table.sum_replace keyed.accounts sourceFound, ← totalIn]
  simp only [Movement.on, Transfer.exchange, sourceHolder, destinationHolder,
    performed.sourceCurrency, performed.destinationCurrency, performed.sourceMoved.balance,
    performed.destinationMoved.balance]
  by_cases isSource : transfer.sourceCurrency = currency <;>
    by_cases isDestination : transfer.destinationCurrency = currency <;>
      simp only [isSource, isDestination, if_true, if_false] <;> omega

theorem Reconciled.posted (keyed : Keyed db) {record : IdempotencyRecord}
    (reconciled : Reconciled db history)
    (performed : Performed attempt configuration db transfer oldSource oldDestination source
      destination debit credit) :
    Reconciled (db.after (.posted record transfer source destination debit credit))
      (history ++ [.committed attempt reply
        (Effect.posted record transfer source destination debit credit).writes]) where
  keys := by simpa [Db.after] using reconciled.keys
  follows := by
    intro id row found
    obtain ⟨old, before, holder, balance, version, _⟩ := performed.account_after found
    obtain ⟨first, present, follows⟩ := reconciled.follows id old before
    refine ⟨first, by simpa using present, follows.holder.trans holder, ?_, ?_⟩
    · simp only [Db.after, flow_append, flow_singleton]
      rw [balance, follows.balance]
      omega
    · simp only [Db.after, touches_append, touches_singleton, Int.natCast_add]
      rw [version, follows.version]
  untouched := by
    intro id unused other member
    have gone : db.account? id = none := by simpa using unused
    rcases List.mem_append.mp member with old | new
    · exact reconciled.untouched id gone other old
    · obtain rfl := List.mem_singleton.mp new
      constructor
      · rintro rfl
        exact absurd (performed.sourceFound.symm.trans gone) (by simp)
      · rintro rfl
        exact absurd (performed.destinationFound.symm.trans gone) (by simp)
  balanced := by
    intro other member within
    rcases List.mem_append.mp member with old | new
    · exact reconciled.balanced other old within
    · obtain rfl := List.mem_singleton.mp new
      exact reconciled.balanced_terms performed.terms within
  totals := by
    intro currency
    have before := reconciled.totals currency
    have after := performed.totalIn_after keyed currency
    simp only [openings_append, openedBy_effect, List.append_nil, Db.after, flow_append,
      flow_singleton]
    omega

theorem Reconciled.setStatus (reconciled : Reconciled db history) (id : Uuid)
    (status : AccountStatus) :
    Reconciled (db.setStatus id status) (history ++ [.operated (.setStatus id status)]) where
  keys := by
    rw [openings_append, openedBy_operated, List.append_nil, reconciled.keys, accounts_setStatus_ids]
  follows := by
    intro wanted row found
    rw [account?_setStatus] at found
    obtain ⟨old, before, rfl⟩ := Option.map_eq_some_iff.mp found
    obtain ⟨first, present, follows⟩ := reconciled.follows wanted old before
    refine ⟨first, by simpa using present, ?_⟩
    split
    · have holder := follows.holder
      exact ⟨⟨holder.ownerId, holder.currency, holder.currencyScale⟩, follows.balance,
        follows.version⟩
    · exact follows
  untouched := by
    intro wanted unused
    rw [account?_setStatus, Option.map_eq_none_iff] at unused
    exact reconciled.untouched wanted unused
  balanced := reconciled.balanced
  totals := by
    intro currency
    have before := reconciled.totals currency
    have kept : totalIn currency (db.setStatus id status).accounts =
        totalIn currency db.accounts := by
      simp only [totalIn, Db.setStatus, List.map_map]
      congr 1
      apply List.map_congr_left
      intro row _
      simp only [Function.comp_apply]
      split <;> rfl
    rw [kept, openings_append, openedBy_operated, List.append_nil]
    exact before

end Steps

theorem reconciled_inductive (platform : Platform) :
    Inductive platform fun _ db history => Reconciled db history where
  empty _ := by constructor <;> simp [openings, Db.empty, Db.account?, Table.lookup, totalIn]
  after := by
    intro attempt configuration db history reply effect keyed reconciled holds
    cases effect with
    | replayed =>
      obtain ⟨keys, follows, untouched, balanced, totals⟩ := reconciled
      constructor <;> simpa [Db.after]
    | opened record account => exact reconciled.opened holds
    | posted record transfer source destination debit credit =>
      obtain ⟨_, _, posted⟩ := holds
      exact reconciled.posted keyed posted.performed
  setStatus id status _ reconciled := reconciled.setStatus id status
  grown operator _ reconciled := by
    obtain ⟨keys, follows, untouched, balanced, totals⟩ := reconciled
    constructor <;> simpa

theorem Ledger.Reachable.reconciled {platform : Platform} {ledger : Ledger}
    (reachable : ledger.Reachable platform) : Reconciled ledger.store ledger.history :=
  (reachable.induction (reconciled_inductive platform)).2

theorem Reconciled.opened_once {db : Db} {history : List Ledger.Event} (keyed : Keyed db)
    (reconciled : Reconciled db history) {account : Account} (member : account ∈ db.accounts) :
    ∃ opened, (openings history).filter (fun row => row.id = account.id) = [opened] ∧
      opened.Follows account db.transfers account.id := by
  obtain ⟨opened, present, follows⟩ :=
    reconciled.follows account.id account (keyed.account member)
  refine ⟨opened, ?_, follows⟩
  exact Table.filter_of_lookup (reconciled.keys ▸ keyed.accounts) present

theorem Ledger.Reachable.opening_kept {platform : Platform} {ledger last : Ledger}
    (reachable : ledger.Reachable platform) {labels : List (Label sql Attempt Operator)}
    (run : Ledger.Run platform ledger labels last) {id : Uuid} {account row : Account}
    (found : ledger.store.account? id = some account)
    (found' : last.store.account? id = some row) :
    ∃ opened, (openings last.history).filter (fun row => row.id = id) = [opened] ∧
      opened.Follows account ledger.store.transfers id ∧
      opened.Follows row last.store.transfers id := by
  have later := reachable.run run
  obtain ⟨opened, once, follows⟩ :=
    reachable.reconciled.opened_once reachable.keyed (Table.mem_of_lookup found)
  obtain ⟨opened', once', follows'⟩ :=
    later.reconciled.opened_once later.keyed (Table.mem_of_lookup found')
  rw [Table.key_of_lookup found] at once follows
  rw [Table.key_of_lookup found'] at once' follows'
  have member : opened ∈ (openings ledger.history).filter (fun row => row.id = id) := by
    simp [once]
  obtain ⟨known, named⟩ := List.mem_filter.mp member
  obtain ⟨event, happened, opens⟩ := List.mem_flatMap.mp known
  have still : opened ∈ (openings last.history).filter (fun row => row.id = id) :=
    List.mem_filter.mpr ⟨List.mem_flatMap.mpr
      ⟨event, Ledger.Run.keeps_history run happened, opens⟩, named⟩
  obtain rfl : opened = opened' := by simpa [once'] using still
  exact ⟨opened, once', follows, follows'⟩

def Transfer.crossing (transfer : Transfer) : Bool :=
  transfer.sourceCurrency ≠ transfer.destinationCurrency

theorem Reconciled.flow_crossing {db : Db} {history : List Ledger.Event}
    (reconciled : Reconciled db history) (currency : String) :
    flow Transfer.exchange (db.transfers.filter Transfer.crossing) currency =
      flow Transfer.exchange db.transfers currency := by
  apply flow_filter
  intro transfer member within
  have same : transfer.sourceCurrency = transfer.destinationCurrency := by
    simpa [Transfer.crossing] using within
  exact transfer.exchange.on_of_within currency same (reconciled.balanced transfer member same)

/-- An account's balance is what it was opened with, plus its credits, minus its debits; its version
counts its entries.  Only transfers between two currencies change the total of a currency. -/
theorem balances_reconcile {platform : Platform} {ledger : Ledger}
    (reachable : ledger.Reachable platform) :
    (∀ account ∈ ledger.store.accounts, ∃ opened,
      (openings ledger.history).filter (fun row => row.id = account.id) = [opened] ∧
      opened.currency = account.currency ∧
      account.balanceMinor.val = opened.balanceMinor.val + ledger.store.credits account.id -
        ledger.store.debits account.id ∧
      account.version.val = (ledger.store.entriesOf account.id).length) ∧
    (∀ currency, totalIn currency ledger.store.accounts =
      totalIn currency (openings ledger.history) +
        flow Transfer.exchange (ledger.store.transfers.filter Transfer.crossing) currency) ∧
    ((∀ transfer ∈ ledger.store.transfers,
        transfer.sourceCurrency = transfer.destinationCurrency) →
      ∀ currency, totalIn currency ledger.store.accounts =
        totalIn currency (openings ledger.history)) := by
  have keyed := reachable.keyed
  have reconciled := reachable.reconciled
  have totals : ∀ currency, totalIn currency ledger.store.accounts =
      totalIn currency (openings ledger.history) +
        flow Transfer.exchange (ledger.store.transfers.filter Transfer.crossing) currency := by
    intro currency
    rw [reconciled.flow_crossing, reconciled.totals]
  refine ⟨?_, totals, ?_⟩
  · intro account member
    obtain ⟨opened, once, follows⟩ := reconciled.opened_once keyed member
    have moved := reachable.booked.net_eq_flow account.id
    refine ⟨opened, once, follows.holder.currency.symm, ?_, ?_⟩
    · have balance := follows.balance
      simp only [Db.credits, Db.debits, net] at moved ⊢
      omega
    · rw [follows.version, Db.entriesOf, reachable.booked.length_eq_touches]
  · intro within currency
    have none : ledger.store.transfers.filter Transfer.crossing = [] := by
      rw [List.filter_eq_nil_iff]
      intro transfer member
      simp [Transfer.crossing, within transfer member]
    rw [totals currency, none, flow_nil, Int.add_zero]

theorem balances_reconcile_paid :
    (Sample.ledger Sample.paid).store.transfers.length = 1 ∧
      ∀ account ∈ (Sample.ledger Sample.paid).store.accounts,
        account.version.val = ((Sample.ledger Sample.paid).store.entriesOf account.id).length := by
  refine ⟨by decide +kernel, fun account member => ?_⟩
  obtain ⟨_, _, _, _, version⟩ :=
    (balances_reconcile (Sample.reachable Sample.paid)).1 account member
  exact version

end LedgerService
