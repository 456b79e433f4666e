import LedgerService.Pagination
import LedgerService.Reconciliation

set_option autoImplicit false

namespace LedgerService

open Transaction Keyset Traversals

def AccountEntry.signed (entry : AccountEntry) : Int :=
  match entry.direction with
  | .credit => entry.amountMinor.val
  | .debit => -entry.amountMinor.val

-- The same, as a client reads it from the item.
def AccountEntryResponse.change (scale : Nat) (item : AccountEntryResponse) : Option Int :=
  match parseMinorUnits item.amount scale with
  | .ok amount =>
      if item.direction = "credit" then some amount.val
      else if item.direction = "debit" then some (-amount.val)
      else none
  | .error _ | .panic => none

section Reading

variable {platform : Platform} {clientId accountText : String} {accountId : Uuid} {db seen : Db}

theorem getBalance_eq_ok (parsed : platform.parseUuid accountText = some accountId)
    {response : AccountBalanceResponse} :
    getBalance platform clientId accountText db = .ok response ↔
      ∃ account balance, db.account? accountId = some account ∧ account.ownerId = clientId ∧
        formatMinorUnits account.balanceMinor (asU8 account.currencyScale) = some balance ∧
        response = ⟨accountId, account.currency, balance, account.version⟩ := by
  simp only [getBalance, parsed, bind_eq_ok, orFailure_eq_ok, formatAmount, Except.ok.injEq,
    Option.some.injEq, Option.filter_eq_some_iff, decide_eq_true_eq]
  constructor
  · rintro ⟨_, rfl, account, ⟨found, owned⟩, balance, shown, rfl⟩
    exact ⟨account, balance, found, owned, shown, rfl⟩
  · rintro ⟨account, balance, found, owned, shown, rfl⟩
    exact ⟨accountId, rfl, account, ⟨found, owned⟩, balance, shown, rfl⟩

theorem selectEntries_subset (counterparty : Option Uuid) (cursor : Option (Timestamp × Uuid))
    (limit : Nat) : db.selectEntries accountId counterparty cursor limit ⊆ db.accountEntries := by
  intro entry member
  have sorted := List.mem_of_mem_take member
  rw [List.mem_insertionSort] at sorted
  cases counterparty with
  | none => exact (List.mem_filter.mp sorted).1
  | some other => exact (List.mem_filter.mp sorted).1

theorem getAccountHistory_items {serde : Serde} {raw : Option String}
    {response : AccountHistoryResponse} (parsed : platform.parseUuid accountText = some accountId)
    (answered : getAccountHistory platform serde clientId accountText raw seen db = .ok response) :
    ∃ account scale, seen.account? accountId = some account ∧
      u8TryFrom account.currencyScale = some scale ∧
      ∀ item ∈ response.items, ∃ entry ∈ db.accountEntries,
        accountEntryResponse serde accountId scale entry = .ok item := by
  simp only [getAccountHistory, parsed, bind_eq_ok, orFailure_eq_ok, Except.ok.injEq,
    Option.some.injEq] at answered
  obtain ⟨_, rfl, query, _, stored, selected, _, _, scale, narrow, items, shown, rfl⟩ := answered
  obtain ⟨account, found, rfl⟩ := Option.map_eq_some_iff.mp selected
  refine ⟨account, scale, (Option.filter_eq_some_iff.mp found).1, narrow, fun item member => ?_⟩
  obtain ⟨entry, among, built⟩ := exists_of_forall₂ (mapM_eq_ok.mp shown).flip member
  exact ⟨entry, selectEntries_subset _ _ _ (List.mem_of_mem_take among), built⟩

theorem change_of_entry {serde : Serde} {scale : Nat} {entry : AccountEntry}
    {item : AccountEntryResponse} (bounded : scale ≤ 18)
    (shown : accountEntryResponse serde accountId scale entry = .ok item) :
    item.entryId = entry.id ∧ item.change scale = some entry.signed := by
  simp only [accountEntryResponse, bind_eq_ok, formatAmount, orFailure_eq_ok, Except.ok.injEq] at shown
  obtain ⟨amount, formatted, _, _, _, _, rfl⟩ := shown
  have back : parseMinorUnits amount scale = .ok entry.amountMinor := by
    rw [formatMinorUnits_eq bounded, Option.some.injEq] at formatted
    rw [← formatted, parseMinorUnits_formatted bounded]
  refine ⟨rfl, ?_⟩
  simp only [AccountEntryResponse.change, AccountEntry.signed, back]
  cases entry.direction <;> simp [EntryDirection.asStr]

theorem net_eq_sum (id : Uuid) (entries : List AccountEntry) :
    net id entries =
      ((entries.filter fun entry => entry.accountId = id).map AccountEntry.signed).sum := by
  induction entries with
  | nil => rfl
  | cons entry rest ih =>
    have split : net id (entry :: rest) = net id [entry] + net id rest := by
      simp only [net, ← List.singleton_append (l := rest), amounts_append]
      omega
    rw [split, ih]
    by_cases own : entry.accountId = id
    · cases direction : entry.direction <;>
        simp [net, AccountEntry.signed, own, direction]
    · simp [net, own]

end Reading

section Adding

variable {platform : Platform} {serde : Serde} {clientId accountText : String} {accountId : Uuid}
  {ledger last : Ledger} {account : Account}

theorem mapM_change {entries rows : List AccountEntry} {items : List AccountEntryResponse}
    {scale : Nat} (distinct : (entries.map AccountEntry.id).Nodup) (present : rows ⊆ entries)
    (ids : items.map AccountEntryResponse.entryId = rows.map AccountEntry.id)
    (read : ∀ item ∈ items, ∃ entry ∈ entries,
      item.entryId = entry.id ∧ item.change scale = some entry.signed) :
    items.mapM (AccountEntryResponse.change scale) = some (rows.map AccountEntry.signed) := by
  induction items generalizing rows with
  | nil =>
    obtain rfl : rows = [] := by simpa using ids.symm
    rfl
  | cons item items ih =>
    cases rows with
    | nil => simp at ids
    | cons row rows =>
      rw [List.map_cons, List.map_cons, List.cons.injEq] at ids
      obtain ⟨entry, member, named, changes⟩ := read item List.mem_cons_self
      obtain rfl : entry = row := List.inj_on_of_nodup_map distinct member
        (present List.mem_cons_self) (named.symm.trans ids.1)
      have rest := ih (fun other among => present (List.mem_cons_of_mem _ among)) ids.2
        fun other among => read other (List.mem_cons_of_mem _ among)
      rw [List.mapM_cons, changes, rest]
      rfl

theorem Followed.read {counterparty : Option Uuid} {cursor : Option String} {before : Ledger}
    {pages : List PageRead}
    (followed : Followed platform serde clientId accountText counterparty cursor before pages) :
    ∀ page ∈ pages, (∃ labels, Ledger.Run platform before labels page.seen) ∧
      getAccountHistory platform serde clientId accountText page.raw page.seen.store
        page.ledger.store = .ok page.response := by
  induction followed with
  | stop => simp
  | page begun run requests answered ended followed ih =>
    intro other member
    rcases List.mem_cons.mp member with rfl | later
    · exact ⟨⟨_, begun⟩, answered⟩
    · obtain ⟨⟨labels, onwards⟩, read⟩ := ih other later
      exact ⟨⟨_, (begun.trans run).trans onwards⟩, read⟩

theorem Followed.changes {counterparty : Option Uuid} {pages : List PageRead}
    (followed : Followed platform serde clientId accountText counterparty none ledger pages)
    (parsed : platform.parseUuid accountText = some accountId)
    (reachable : ledger.Reachable platform) (found : ledger.store.account? accountId = some account)
    (within : ∀ page ∈ pages, page.ledger.store.accountEntries ⊆ last.store.accountEntries) :
    ∀ item ∈ pages.flatMap (fun page => page.response.items),
      ∃ entry ∈ last.store.accountEntries, item.entryId = entry.id ∧
        item.change (asU8 account.currencyScale) = some entry.signed := by
  intro item member
  obtain ⟨page, among, shown⟩ := List.mem_flatMap.mp member
  obtain ⟨⟨labels, run⟩, answered⟩ := followed.read page among
  obtain ⟨row, scale, present, narrow, all⟩ := getAccountHistory_items parsed answered
  obtain ⟨later, there, same⟩ := (reachable.run_evolves run).account _ _ found
  obtain rfl := Option.some.inj (there.symm.trans present)
  obtain ⟨ranged, _, bounded⟩ := (reachable.listed found).scale
  rw [same.currencyScale, ranged, Option.some.injEq] at narrow
  obtain ⟨entry, here, built⟩ := all item shown
  obtain ⟨named, changes⟩ := change_of_entry (narrow ▸ bounded) built
  exact ⟨entry, within page among here, named, narrow ▸ changes⟩

theorem Followed.entryIds {counterparty : Option Uuid} {pages : List PageRead}
    {rows : List (List AccountEntry)}
    (shows : List.Forall₂ (PageRead.Shows serde accountId counterparty) pages rows) :
    (pages.flatMap fun page => page.response.items).map AccountEntryResponse.entryId =
      rows.flatten.map AccountEntry.id := by
  induction shows with
  | nil => rfl
  | cons shows _ ih => simp [shows.ids, ih]

theorem Ledger.Reachable.version_eq (reachable : ledger.Reachable platform)
    (found : ledger.store.account? accountId = some account) :
    account.version.val = (ledger.store.entriesOf accountId).length := by
  obtain ⟨opened, _, follows⟩ := reachable.reconciled.follows accountId account found
  rw [follows.version, Db.entriesOf, reachable.booked.length_eq_touches]

theorem history_entriesOf (db : Db) : db.history accountId none = db.entriesOf accountId := by
  simp [Db.history, Db.entriesOf]

theorem Ledger.Reachable.balance_eq (reachable : ledger.Reachable platform)
    (found : ledger.store.account? accountId = some account) :
    ∃ opened, (openings ledger.history).filter (fun row => row.id = accountId) = [opened] ∧
      account.balanceMinor.val =
        opened.balanceMinor.val + ((ledger.store.entriesOf accountId).map AccountEntry.signed).sum := by
  obtain ⟨opened, once, follows⟩ :=
    reachable.reconciled.opened_once reachable.keyed (Table.mem_of_lookup found)
  obtain rfl : account.id = accountId := Table.key_of_lookup found
  refine ⟨opened, once, ?_⟩
  rw [follows.balance, ← reachable.booked.net_eq_flow, net_eq_sum]
  rfl

theorem Account.Listed.currency_eq (listed : account.Listed) :
    ∃ currency, LedgerService.currency account.currency = some currency ∧
      asU8 account.currencyScale = currency.scale := by
  obtain ⟨currency, member, code, scale⟩ := listed
  have known : ∀ currency ∈ currencies, LedgerService.currency currency.code = some currency ∧
      asU8 currency.scale = currency.scale := by decide
  rw [code, scale]
  exact ⟨currency, known currency member⟩

theorem Ledger.Reachable.balance_unchanged (reachable : ledger.Reachable platform)
    {labels : List (Label sql Attempt Operator)} (run : Ledger.Run platform ledger labels last)
    (found : ledger.store.account? accountId = some account) {row : Account}
    (found' : last.store.account? accountId = some row)
    (unchanged : (ledger.store.entriesOf accountId).Perm (last.store.entriesOf accountId)) :
    row.balanceMinor = account.balanceMinor := by
  have later := reachable.run run
  obtain ⟨opened, _, follows, follows'⟩ := reachable.opening_kept run found found'
  rw [I64.ext_iff, follows.balance, follows'.balance, ← reachable.booked.net_eq_flow,
    ← later.booked.net_eq_flow, net_eq_sum, net_eq_sum]
  exact congrArg _ (unchanged.map AccountEntry.signed).sum_eq.symm

theorem Ledger.Reachable.entries_unchanged (reachable : ledger.Reachable platform)
    {labels : List (Label sql Attempt Operator)} (run : Ledger.Run platform ledger labels last)
    (found : ledger.store.account? accountId = some account) {row : Account}
    (found' : last.store.account? accountId = some row) (same : row.version = account.version) :
    (ledger.store.entriesOf accountId).Perm (last.store.entriesOf accountId) := by
  -- The version counts the entries, and none is ever lost.
  have count := reachable.version_eq found
  have count' := (reachable.run run).version_eq found'
  have distinct : (ledger.store.entriesOf accountId).Nodup :=
    List.Nodup.filter _ (List.Nodup.of_map _ reachable.entries_distinct)
  refine (List.subperm_of_subset distinct ?_).perm_of_length_le (by rw [same] at count'; omega)
  rw [← history_entriesOf, ← history_entriesOf]
  exact history_subset (reachable.run_entries run)

theorem Followed.shown_perm {pages : List PageRead} {page : PageRead}
    {labels : List (Label sql Attempt Operator)}
    (followed : Followed platform serde clientId accountText none none ledger pages)
    (parsed : platform.parseUuid accountText = some accountId)
    (reachable : ledger.Reachable platform)
    (inverts : ∀ page ∈ pages, ∀ entry ∈ page.ledger.store.history accountId none,
      serde.Inverts (cursorAt accountId none entry.position))
    (ends : pages.getLast? = some page) (complete : page.response.nextCursor = none)
    (run : Ledger.Run platform page.ledger labels last)
    (still : (last.store.entriesOf accountId).length ≤ (ledger.store.entriesOf accountId).length) :
    ∃ rows, List.Forall₂ (PageRead.Shows serde accountId none) pages rows ∧
      rows.flatten.Perm (last.store.entriesOf accountId) := by
  obtain ⟨walk, shows, finished, _⟩ := @Followed.walked _ _ _ _ _ _ _ _ _ followed parsed
    none rfl reachable (by simp) inverts (by simp)
  have there := (followed.reachable reachable page (List.mem_of_getLast? ends)).1
  have distinct : (ledger.store.history accountId none).Nodup :=
    List.Nodup.of_map _ (history_distinct reachable.entries_distinct)
  refine ⟨_, shows, ?_⟩
  rw [← history_entriesOf] at still ⊢
  refine walk.shown_perm (finished page ends complete) ?_ distinct
    (by rwa [← history_entriesOf] at still)
  intro visit member
  exact List.Subset.trans (followed.within reachable ends visit member)
    (history_subset (there.run_entries run))

end Adding

/-- Two answers with the same version are the same, and what an owner reads on all pages in between
adds up to them. -/
theorem statements_reconcile {platform : Platform} {serde : Serde} {clientId accountText : String}
    {accountId : Uuid} {ledger last : Ledger} {pages : List PageRead} {page : PageRead}
    {labels : List (Label sql Attempt Operator)} {before after : AccountBalanceResponse}
    (parsed : platform.parseUuid accountText = some accountId)
    (reachable : ledger.Reachable platform)
    (first : getBalance platform clientId accountText ledger.store = .ok before)
    (followed : Followed platform serde clientId accountText none none ledger pages)
    (inverts : ∀ page ∈ pages, ∀ entry ∈ page.ledger.store.history accountId none,
      serde.Inverts (cursorAt accountId none entry.position))
    (ends : pages.getLast? = some page) (complete : page.response.nextCursor = none)
    (run : Ledger.Run platform page.ledger labels last)
    (second : getBalance platform clientId accountText last.store = .ok after)
    (same : after.version = before.version) :
    before = after ∧ ∃ currency opened balance changes,
      LedgerService.currency after.currency = some currency ∧
      (openings last.history).filter (fun row => row.id = accountId) = [opened] ∧
      parseMinorUnits after.balance currency.scale = .ok balance ∧
      (pages.flatMap fun page => page.response.items).mapM
        (AccountEntryResponse.change currency.scale) = some changes ∧
      changes.length = after.version.val ∧
      balance.val = opened.balanceMinor.val + changes.sum := by
  obtain ⟨account, balance, found, _, shown, rfl⟩ := (getBalance_eq_ok parsed).mp first
  obtain ⟨row, balance', found', _, shown', rfl⟩ := (getBalance_eq_ok parsed).mp second
  obtain ⟨there, _, onwards⟩ := followed.reachable reachable page (List.mem_of_getLast? ends)
  have whole := onwards.trans run
  have unchanged := reachable.entries_unchanged whole found found' same
  obtain ⟨rows, shows, perm⟩ := followed.shown_perm parsed reachable inverts ends complete run
    unchanged.length_eq.ge
  have holder : account.SameHolder row := by
    obtain ⟨_, evolved, holder⟩ := (reachable.run_evolves whole).account _ _ found
    exact Option.some.inj (evolved.symm.trans found') ▸ holder
  have version : row.version = account.version := same
  have kept := reachable.balance_unchanged whole found found' unchanged
  have scales : row.currencyScale = account.currencyScale := holder.currencyScale
  obtain ⟨opened, once, reconciled⟩ := (there.run run).balance_eq found'
  obtain ⟨currency, listed, scale⟩ := ((there.run run).listed found').currency_eq
  obtain ⟨_, _, bounded⟩ := ((there.run run).listed found').scale
  have parsedBack : parseMinorUnits balance' (asU8 row.currencyScale) = .ok row.balanceMinor := by
    rw [formatMinorUnits_eq bounded, Option.some.injEq] at shown'
    rw [← shown', parseMinorUnits_formatted bounded]
  have within : ∀ page ∈ pages, page.ledger.store.accountEntries ⊆ last.store.accountEntries := by
    intro other member
    obtain ⟨_, onwards'⟩ := followed.run ends other member
    exact (followed.reachable reachable other member).1.run_entries (onwards'.trans run)
  have changes := mapM_change (there.run run).entries_distinct
    (List.Subset.trans perm.subset (List.filter_subset_self _)) (Followed.entryIds shows)
    (followed.changes parsed reachable found within)
  rw [← scales, scale] at changes
  refine ⟨?_, currency, opened, row.balanceMinor, _, listed, once, scale ▸ parsedBack, changes, ?_, ?_⟩
  · rw [kept, scales, shown] at shown'
    rw [Option.some.inj shown', holder.currency, version]
  · rw [List.length_map, perm.length_eq, (there.run run).version_eq found']
  · rw [reconciled, (perm.map AccountEntry.signed).sum_eq]

namespace Sample

theorem limit_bounds : I64.min ≤ 50 ∧ 50 ≤ I64.max := by decide

def whole : PageRead :=
  ⟨none, ⟨50, limit_bounds⟩, ledger paidAgain, ledger paidAgain,
    ⟨[item 5 "1.00" "2026-01-03T09:00:05+00:00", item 4 "30.00" "2026-01-03T09:00:04+00:00"], none⟩⟩

theorem whole_followed :
    Followed .reference cursors "alice" (resource 16).hyphenated none none (ledger paidAgain)
      [whole] := by
  obtain ⟨parsed, scale⟩ :
      Platform.reference.parseUuid (resource 16).hyphenated = some (resource 16) ∧
      (ledger paidAgain).store.selectScale (resource 16) "alice" = some 2 := by
    decide +kernel
  obtain ⟨shown, following⟩ :
      page AccountEntry.position none 50 [first, second] = [second, first] ∧
      next AccountEntry.position none 50 [first, second] = none := by
    decide +kernel
  have requests : Requests .reference whole.raw none ⟨50, by decide⟩ none :=
    ⟨⟨⟨none, by decide, rfl⟩, none, by decide, rfl⟩, by decide⟩
  have answer : getAccountHistory .reference cursors "alice" (resource 16).hyphenated whole.raw
      whole.seen.store whole.ledger.store = .ok whole.response := by
    rw [@getAccountHistory_eq _ _ _ _ _ _ none _ _ _ _ parsed requests (by simp)]
    have fifty : Int.toNat 50 = 50 := rfl
    simp only [whole, scale, history_paidAgain.1, fifty, shown, following]
    rfl
  refine @Followed.page _ _ _ _ _ _ _ _ _ [] [] ?_ ?_ requests answer (fun _ => rfl) .stop
  · dsimp only [whole]
    exact .refl _
  · dsimp only [whole]
    exact .refl _

end Sample

theorem statements_reconcile_whole : ∃ (currency : Currency) (opened : Account) (changes : List Int),
    LedgerService.currency "EUR" = some currency ∧
      (Sample.whole.response.items).mapM (AccountEntryResponse.change currency.scale) =
        some changes ∧ (6900 : Int) = opened.balanceMinor.val + changes.sum := by
  have read : getBalance .reference "alice" (Sample.resource 16).hyphenated
      (Sample.ledger Sample.paidAgain).store =
        .ok ⟨Sample.resource 16, "EUR", "69.00", ⟨2, by decide⟩⟩ := by
    decide +kernel
  have parsed : Platform.reference.parseUuid (Sample.resource 16).hyphenated =
      some (Sample.resource 16) := by
    decide +kernel
  obtain ⟨_, currency, opened, balance, changes, listed, _, shown, read, _, sum⟩ :=
    statements_reconcile parsed (Sample.reachable Sample.paidAgain) read Sample.whole_followed
      (by
        intro page member entry present
        obtain rfl : page = Sample.whole := by simpa using member
        rw [Sample.whole, Sample.history_paidAgain.1] at present
        exact Sample.cursors_inverts entry (List.mem_append_left [Sample.third] present))
      rfl rfl (.refl _) read rfl
  have euro : LedgerService.currency "EUR" = some ⟨"EUR", 2⟩ := by decide
  obtain rfl := Option.some.inj (euro.symm.trans listed)
  have back : parseMinorUnits "69.00" 2 = .ok ⟨6900, by decide⟩ := by
    decide +kernel
  obtain rfl := Outcome.ok.inj (back.symm.trans shown)
  exact ⟨_, opened, changes, listed, by simpa using read, sum⟩

end LedgerService
