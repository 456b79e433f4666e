import Mathlib.Data.Prod.Lex
import LedgerService.Acceptance
import LedgerService.Cursors
import LedgerService.Fingerprints
import LedgerService.Keyset
import LedgerService.Traversals

set_option autoImplicit false

namespace LedgerService

open Transaction Keyset Traversals

section Entries

variable {platform : Platform} {ledger last : Ledger} {labels : List (Label sql Attempt Operator)}

theorem entries_inductive (platform : Platform) :
    Inductive platform fun _ db _ => (db.accountEntries.map AccountEntry.id).Nodup where
  empty _ := List.nodup_nil
  after := by
    intro attempt configuration db history reply effect _ distinct holds
    cases effect with
    | replayed => exact distinct
    | opened record account => exact distinct
    | posted record transfer source destination debit credit =>
      obtain ⟨_, _, posted⟩ := holds
      have one := @Table.nodup_append _ _ _ _ _ (transfer.debitEntry debit) distinct
        posted.performed.debitUnused
      refine @Table.nodup_append _ _ _ _ _ (transfer.creditEntry credit) one ?_
      rw [Table.lookup_append, Option.or_eq_none_iff]
      exact ⟨posted.performed.creditUnused, if_neg posted.performed.entries⟩
  setStatus _ _ _ distinct := distinct
  grown _ _ distinct := distinct

theorem Ledger.Reachable.entries_distinct (reachable : ledger.Reachable platform) :
    (ledger.store.accountEntries.map AccountEntry.id).Nodup :=
  (reachable.induction (entries_inductive platform)).2

theorem Ledger.Reachable.run_entries (reachable : ledger.Reachable platform)
    (run : Ledger.Run platform ledger labels last) :
    ledger.store.accountEntries ⊆ last.store.accountEntries := by
  induction run with
  | refl => exact List.Subset.refl _
  | step run step ih =>
    rcases (reachable.run run).step_store step with same | ⟨_, _, _, effect, _, _, _, same⟩ |
      ⟨_, _, _, same⟩
    · exact same ▸ ih
    · rw [same]
      refine List.Subset.trans ih ?_
      cases effect with
      | replayed => exact List.Subset.refl _
      | opened record account => exact List.Subset.refl _
      | posted record transfer source destination debit credit =>
        intro entry member
        simp [Db.after, member]
    · exact same ▸ ih

end Entries

section Selected

abbrev Position := Timestamp ×ₗ Fin (2 ^ 128)

def AccountEntry.position (entry : AccountEntry) : Position :=
  toLex (entry.createdAt, entry.id.toFin)

theorem position_lt {first second : AccountEntry} :
    first.position < second.position ↔ second.Later first := by
  rw [AccountEntry.position, AccountEntry.position, Prod.Lex.toLex_lt_toLex]
  exact Iff.rfl

def Db.history (db : Db) (accountId : Uuid) (counterparty : Option Uuid) : List AccountEntry :=
  db.accountEntries.filter fun entry =>
    entry.accountId = accountId ∧ counterparty.all fun id => entry.counterpartyAccountId = id

def Position.bound (position : Position) : Timestamp × Uuid :=
  ((ofLex position).1, BitVec.ofFin (ofLex position).2)

theorem under_iff {entry : AccountEntry} {bound : Option Position} :
    Under AccountEntry.position bound entry ↔ entry.Below (bound.map Position.bound) := by
  cases bound with
  | none => simp [Under, AccountEntry.Below]
  | some position =>
    simp only [Under, AccountEntry.Below, Option.mem_def, Option.some.injEq, forall_eq',
      Option.map_some, AccountEntry.position, Prod.Lex.lt_iff]
    exact Iff.rfl

theorem insertionSort_congr {Row : Type} {one two : Row → Row → Prop} [DecidableRel one]
    [DecidableRel two] (same : ∀ first second, one first second ↔ two first second)
    (rows : List Row) : rows.insertionSort one = rows.insertionSort two := by
  obtain rfl : one = two := by
    funext first second
    exact propext (same first second)
  congr!

theorem selectEntries_eq (db : Db) (accountId : Uuid) (counterparty : Option Uuid)
    (bound : Option Position) (limit : Nat) :
    db.selectEntries accountId counterparty (bound.map Position.bound) limit =
      (under AccountEntry.position bound (db.history accountId counterparty)).take limit := by
  have order : ∀ first second : AccountEntry,
      ¬ second.Later first ↔ second.position ≤ first.position := by
    intro first second
    rw [← position_lt, not_lt]
  unfold Db.selectEntries under Db.history
  rw [List.filter_filter, ← insertionSort_congr order]
  cases counterparty with
  | none =>
    dsimp only
    congr 2
    apply List.filter_congr
    intro entry _
    simp [under_iff, Bool.and_comm]
  | some id =>
    dsimp only
    congr 2
    apply List.filter_congr
    intro entry _
    simp [under_iff, Bool.and_comm, Bool.and_assoc]

end Selected

section Pages

variable {platform : Platform} {serde : Serde} {clientId accountText : String} {accountId : Uuid}
  {counterparty : Option Uuid} {bound : Option Position} {limit : I64} {raw : Option String}
  {seen db : Db}

def cursorAt (accountId : Uuid) (counterparty : Option Uuid) (position : Position) : Cursor :=
  ⟨1, accountId, counterparty, position.bound.1, position.bound.2⟩

/-- The cursor is read back, as serialisation promises. -/
def Serde.Inverts (serde : Serde) (cursor : Cursor) : Prop :=
  serde.fromSlice (serde.toVec cursor) = some cursor

theorem toVec_timestamp {first second : Position}
    (same : serde.toVec (cursorAt accountId counterparty first) =
      serde.toVec (cursorAt accountId counterparty second))
    (length : (serde.timestamp first.bound.1).length = (serde.timestamp second.bound.1).length) :
    serde.timestamp first.bound.1 = serde.timestamp second.bound.1 := by
  have texts := congrArg String.toList (Text.utf8_injective same)
  simp only [cursorAt, String.toList_append, List.append_assoc, List.append_cancel_left_eq] at texts
  have lengths : (serde.timestamp first.bound.1).toList.length =
      (serde.timestamp second.bound.1).toList.length := by
    rwa [String.length_toList, String.length_toList]
  exact String.toList_injective (List.append_inj texts lengths).1

/-- A query for the page below a cursor, or for the first page. -/
structure Requests (platform : Platform) (raw : Option String) (counterparty : Option Uuid)
    (limit : I64) (cursor : Option String) : Prop where
  parts : ValidParts platform (queryParts raw) counterparty limit
  cursor : valuesOf "cursor" (queryParts raw) = (cursor.map String.toList).toList

theorem parseLimit_bounds {text : Option (List Char)} (parsed : parseLimit text = .ok limit) :
    1 ≤ limit.val ∧ limit.val ≤ 100 := by
  cases text with
  | none =>
    cases parsed
    decide
  | some text =>
    have found := orFailure_eq_ok.mp parsed
    have within := Option.filter_eq_some_iff.mp found
    simpa using within.2

theorem parseQuery_position
    (requests : Requests platform raw counterparty limit
      (bound.map fun position => encodeCursor serde (cursorAt accountId counterparty position)))
    (inverts : ∀ position ∈ bound, serde.Inverts (cursorAt accountId counterparty position)) :
    parseQuery platform serde raw accountId =
      .ok ⟨counterparty, limit, bound.map (cursorAt accountId counterparty)⟩ := by
  rw [@parseQuery_eq _ _ _ _ _ _ (bound.map fun position =>
    (encodeCursor serde (cursorAt accountId counterparty position)).toList) requests.parts
    (by rw [requests.cursor, Option.map_map]; rfl)]
  cases bound with
  | none => rfl
  | some position =>
    have decoded := decodeCursor_encodeCursor (inverts position rfl) rfl
    simp only [Option.map_some, transposed, String.ofList_toList, decoded, Except.map, Except.bind]
    rw [if_pos]
    rintro read ⟨⟩
    exact ⟨rfl, rfl⟩

theorem queryParts_limit_cursor {limit cursor : String} (plain : '&' ∉ limit.toList)
    (plain' : '&' ∉ cursor.toList) :
    queryParts (some ("limit=" ++ limit ++ "&cursor=" ++ cursor)) =
      [("limit".toList, limit.toList), ("cursor".toList, cursor.toList)] := by
  have text : ("limit=" ++ limit ++ "&cursor=" ++ cursor).toList =
      ("limit=".toList ++ limit.toList) ++ '&' :: ("cursor=".toList ++ cursor.toList) := by
    simp [String.toList_append]
  have first : '&' ∉ "limit=".toList ++ limit.toList := by
    simpa [List.mem_append] using plain
  have second : '&' ∉ "cursor=".toList ++ cursor.toList := by
    simpa [List.mem_append] using plain'
  rw [queryParts, Option.getD_some, text, List.splitOn_append_cons_self_of_not_mem first,
    List.splitOn_eq_singleton second]
  rfl

theorem requests_following {limitText : String} (platform : Platform) (serde : Serde)
    (cursor : Cursor) (plain : '&' ∉ limitText.toList)
    (parsed : parseLimit (some limitText.toList) = .ok limit) :
    Requests platform (some ("limit=" ++ limitText ++ "&cursor=" ++ encodeCursor serde cursor)) none
      limit (some (encodeCursor serde cursor)) := by
  -- Neither the mark of a cursor nor its digits are separators, so it stands in the query as it is.
  have digits := all_hexText (serde.toVec cursor)
  have plain' : '&' ∉ (encodeCursor serde cursor).toList := by
    rw [encodeCursor, String.toList_ofList, List.mem_append]
    rintro (mark | digit)
    · revert mark
      decide
    · have hexadecimal := List.all_eq_true.mp digits '&' digit
      revert hexadecimal
      decide
  have parts := queryParts_limit_cursor plain plain'
  refine ⟨⟨⟨none, ?_, rfl⟩, some limitText.toList, ?_, parsed⟩, ?_⟩
  · rw [parts]
    simp [valuesOf]
  · rw [parts]
    simp [valuesOf]
  · rw [parts]
    simp [valuesOf]

theorem nextCursor_eq (serde : Serde) (table : List AccountEntry) {count : Nat}
    (positive : 0 < count) :
    nextCursor serde accountId counterparty
        (count < ((under AccountEntry.position bound table).take (count + 1)).length)
        (page AccountEntry.position bound count table) =
      .ok ((next AccountEntry.position bound count table).map fun position =>
        encodeCursor serde (cursorAt accountId counterparty position)) := by
  -- The cursor of a page comes from its last row, not from the row that was looked ahead.
  have longer : count < ((under AccountEntry.position bound table).take (count + 1)).length ↔
      count < (under AccountEntry.position bound table).length := by
    rw [List.length_take]
    omega
  by_cases more : count < (under AccountEntry.position bound table).length
  · have nonempty : page AccountEntry.position bound count table ≠ [] := by
      rw [page, ne_eq, List.take_eq_nil_iff]
      rintro (zero | empty)
      · omega
      · rw [empty] at more
        cases more
    rw [nextCursor, if_pos (decide_eq_true (longer.mpr more)), next, if_pos more,
      List.getLast?_eq_some_getLast nonempty]
    rfl
  · rw [nextCursor, if_neg (by simpa using fun long => more (longer.mp long)), next, if_neg more]
    rfl

theorem getAccountHistory_eq (parsed : platform.parseUuid accountText = some accountId)
    (requests : Requests platform raw counterparty limit
      (bound.map fun position => encodeCursor serde (cursorAt accountId counterparty position)))
    (inverts : ∀ position ∈ bound, serde.Inverts (cursorAt accountId counterparty position)) :
    getAccountHistory platform serde clientId accountText raw seen db = (do
      let scale ← orFailure (.app .notFound) (seen.selectScale accountId clientId)
      let scale ← orFailure (.internal .conversion) (u8TryFrom scale)
      let items ← (page AccountEntry.position bound limit.val.toNat
        (db.history accountId counterparty)).mapM (accountEntryResponse serde accountId scale)
      .ok ⟨items, (next AccountEntry.position bound limit.val.toNat
        (db.history accountId counterparty)).map fun position =>
          encodeCursor serde (cursorAt accountId counterparty position)⟩) := by
  obtain ⟨_, _, limited⟩ := requests.parts.limit
  have bounds := parseLimit_bounds limited
  have count : (limit.val + 1).toNat = limit.val.toNat + 1 := by omega
  have positions : (bound.map (cursorAt accountId counterparty)).map (fun cursor =>
      (cursor.createdAt, cursor.entryId)) = bound.map Position.bound := by
    rw [Option.map_map]
    rfl
  have entries : ((under AccountEntry.position bound (db.history accountId counterparty)).take
      (limit.val.toNat + 1)).take limit.val.toNat =
        page AccountEntry.position bound limit.val.toNat (db.history accountId counterparty) := by
    rw [page, List.take_take, min_eq_left (Nat.le_succ _)]
  have following := @nextCursor_eq accountId counterparty bound serde
    (db.history accountId counterparty) limit.val.toNat (by omega)
  unfold getAccountHistory
  rw [parsed]
  simp only [orFailure, Except.bind, bind, parseQuery_position requests inverts, positions, count,
    selectEntries_eq, entries] at following ⊢
  cases seen.selectScale accountId clientId with
  | none => rfl
  | some scale =>
    dsimp only
    rw [following]

end Pages

section Following

variable {platform : Platform} {serde : Serde} {clientId accountText : String} {accountId : Uuid}
  {counterparty : Option Uuid}

/-- A page as it was read: its request, the ledgers its two statements saw, and its answer. -/
structure PageRead where
  raw : Option String
  limit : I64
  seen : Ledger
  ledger : Ledger
  response : AccountHistoryResponse

/-- Pages that are read one after the other, each from the cursor of the one before, while the
ledger goes on. -/
inductive Followed (platform : Platform) (serde : Serde) (clientId accountText : String)
    (counterparty : Option Uuid) : Option String → Ledger → List PageRead → Prop where
  | stop {cursor : Option String} {before : Ledger} :
      Followed platform serde clientId accountText counterparty cursor before []
  | page {cursor : Option String} {before : Ledger} {page : PageRead} {rest : List PageRead}
      {labels labels' : List (Label sql Attempt Operator)}
      (begun : Ledger.Run platform before labels page.seen)
      (run : Ledger.Run platform page.seen labels' page.ledger)
      (requests : Requests platform page.raw counterparty page.limit cursor)
      (answered : getAccountHistory platform serde clientId accountText page.raw page.seen.store
        page.ledger.store = .ok page.response)
      (ended : page.response.nextCursor = none → rest = [])
      (followed : Followed platform serde clientId accountText counterparty
        page.response.nextCursor page.ledger rest) :
      Followed platform serde clientId accountText counterparty cursor before (page :: rest)

def PageRead.visit (accountId : Uuid) (counterparty : Option Uuid) (page : PageRead) :
    Visit AccountEntry :=
  ⟨page.ledger.store.history accountId counterparty, page.limit.val.toNat⟩

structure PageRead.Shows (serde : Serde) (accountId : Uuid) (counterparty : Option Uuid)
    (page : PageRead) (rows : List AccountEntry) : Prop where
  items : ∃ scale, rows.mapM (accountEntryResponse serde accountId scale) = .ok page.response.items
  ids : page.response.items.map AccountEntryResponse.entryId = rows.map AccountEntry.id
  members : ∀ row ∈ rows, row ∈ page.ledger.store.accountEntries ∧ row.accountId = accountId ∧
    ∀ id ∈ counterparty, row.counterpartyAccountId = id
  cursor : page.response.nextCursor.isSome ↔
    ∃ row ∈ page.ledger.store.accountEntries, row.accountId = accountId ∧
      (∀ id ∈ counterparty, row.counterpartyAccountId = id) ∧ ∀ other ∈ rows, other.Later row

theorem mem_history {db : Db} {row : AccountEntry} :
    row ∈ db.history accountId counterparty ↔
      row ∈ db.accountEntries ∧ row.accountId = accountId ∧
        ∀ id ∈ counterparty, row.counterpartyAccountId = id := by
  cases counterparty <;> simp [Db.history]

theorem history_distinct {db : Db} (distinct : (db.accountEntries.map AccountEntry.id).Nodup) :
    ((db.history accountId counterparty).map AccountEntry.position).Nodup := by
  have ids : ((db.history accountId counterparty).map AccountEntry.id).Nodup :=
    distinct.sublist (List.filter_sublist.map _)
  have same : ((db.history accountId counterparty).map AccountEntry.position).map
      (fun position => position.bound.2) = (db.history accountId counterparty).map AccountEntry.id := by
    rw [List.map_map]
    rfl
  exact List.Nodup.of_map _ (same ▸ ids)

theorem history_subset {db db' : Db} (grown : db.accountEntries ⊆ db'.accountEntries) :
    db.history accountId counterparty ⊆ db'.history accountId counterparty := by
  intro row member
  obtain ⟨present, matching⟩ := mem_history.mp member
  exact mem_history.mpr ⟨grown present, matching⟩

theorem entryIds_of_items {rows : List AccountEntry} {items : List AccountEntryResponse} {scale : Nat}
    (read : rows.mapM (accountEntryResponse serde accountId scale) = .ok items) :
    items.map AccountEntryResponse.entryId = rows.map AccountEntry.id := by
  have each := mapM_eq_ok.mp read
  clear read
  induction each with
  | nil => rfl
  | cons one _ ih =>
    simp only [accountEntryResponse, bind_eq_ok, Except.ok.injEq] at one
    obtain ⟨_, _, _, _, _, _, rfl⟩ := one
    rw [List.map_cons, List.map_cons, ih]

theorem PageRead.shows {page : PageRead} {bound : Option Position}
    (parsed : platform.parseUuid accountText = some accountId)
    (reachable : page.ledger.Reachable platform)
    (requests : Requests platform page.raw counterparty page.limit
      (bound.map fun position => encodeCursor serde (cursorAt accountId counterparty position)))
    (inverts : ∀ position ∈ bound, serde.Inverts (cursorAt accountId counterparty position))
    (answered : getAccountHistory platform serde clientId accountText page.raw page.seen.store
      page.ledger.store = .ok page.response)
    (nonempty : bound.isSome → ∃ row ∈ page.ledger.store.history accountId counterparty,
      Under AccountEntry.position bound row) :
    let visit := page.visit accountId counterparty
    page.Shows serde accountId counterparty
        (Keyset.page AccountEntry.position bound visit.limit visit.table) ∧
      page.response.nextCursor = (next AccountEntry.position bound visit.limit visit.table).map
        fun position => encodeCursor serde (cursorAt accountId counterparty position) := by
  obtain ⟨_, _, limited⟩ := requests.parts.limit
  have bounds := parseLimit_bounds limited
  have positive : 0 < page.limit.val.toNat := by omega
  have distinct := @history_distinct accountId counterparty _ reachable.entries_distinct
  rw [getAccountHistory_eq parsed requests inverts] at answered
  simp only [bind_eq_ok, Except.ok.injEq] at answered
  obtain ⟨_, _, scale, _, items, shown, built⟩ := answered
  rw [← built]
  refine ⟨⟨⟨scale, ?_⟩, ?_, ?_, ?_⟩, rfl⟩
  · rw [← built]
    exact shown
  · rw [← built]
    exact entryIds_of_items shown
  · intro row member
    exact mem_history.mp (mem_of_mem_page member).1
  · have more := next_isSome_iff_below distinct positive nonempty
    rw [← built, Option.isSome_map]
    refine more.trans ?_
    constructor
    · rintro ⟨row, member, below⟩
      obtain ⟨present, owned, matching⟩ := mem_history.mp member
      exact ⟨row, present, owned, matching, fun other shown => position_lt.mp (below other shown)⟩
    · rintro ⟨row, present, owned, matching, below⟩
      exact ⟨row, mem_history.mpr ⟨present, owned, matching⟩,
        fun other shown => position_lt.mpr (below other shown)⟩

structure Followed.Walked (serde : Serde) (accountId : Uuid) (counterparty : Option Uuid)
    (bound : Option Position) (before : Ledger) (pages : List PageRead) : Prop where
  walk : Walk AccountEntry.position bound (before.store.history accountId counterparty)
    (pages.map (PageRead.visit accountId counterparty))
  shows : List.Forall₂ (PageRead.Shows serde accountId counterparty) pages
    (shown AccountEntry.position bound (pages.map (PageRead.visit accountId counterparty)))
  finished : ∀ last ∈ pages.getLast?, last.response.nextCursor = none →
    Finished AccountEntry.position bound (pages.map (PageRead.visit accountId counterparty))
  stands : ∀ last ∈ pages.getLast?, ∀ text ∈ last.response.nextCursor,
    ∃ entry ∈ last.ledger.store.history accountId counterparty,
      text = encodeCursor serde (cursorAt accountId counterparty entry.position)

theorem Followed.walked {cursor : Option String} {before : Ledger} {pages : List PageRead}
    (followed : Followed platform serde clientId accountText counterparty cursor before pages)
    (parsed : platform.parseUuid accountText = some accountId) {bound : Option Position}
    (same : cursor = bound.map fun position =>
      encodeCursor serde (cursorAt accountId counterparty position))
    (reachable : before.Reachable platform)
    (bounded : ∀ position ∈ bound, serde.Inverts (cursorAt accountId counterparty position))
    (inverts : ∀ page ∈ pages, ∀ entry ∈ page.ledger.store.history accountId counterparty,
      serde.Inverts (cursorAt accountId counterparty entry.position))
    (nonempty : bound.isSome → ∃ row ∈ before.store.history accountId counterparty,
      Under AccountEntry.position bound row) :
    Followed.Walked serde accountId counterparty bound before pages := by
  induction followed generalizing bound with
  | stop => exact ⟨.stop, .nil, by simp, by simp⟩
  | @page cursor before page rest labels labels' begun run requests answered ended followed ih =>
    subst same
    have later := reachable.run begun
    have grown : before.store.accountEntries ⊆ page.ledger.store.accountEntries :=
      List.Subset.trans (reachable.run_entries begun) (later.run_entries run)
    have now := later.run run
    have distinct := @history_distinct accountId counterparty _ now.entries_distinct
    obtain ⟨_, _, limited⟩ := requests.parts.limit
    have bounds := parseLimit_bounds limited
    have positive : 0 < page.limit.val.toNat := by omega
    obtain ⟨shows, continued⟩ := PageRead.shows parsed now requests bounded answered fun below => by
      obtain ⟨row, member, under⟩ := nonempty below
      exact ⟨row, history_subset grown member, under⟩
    cases more : next AccountEntry.position bound page.limit.val.toNat
        (page.ledger.store.history accountId counterparty) with
    | none =>
      have final : page.response.nextCursor = none := by
        rw [continued, PageRead.visit, more]
        rfl
      obtain rfl := ended final
      refine ⟨.last (history_subset grown) distinct positive more, ?_, ?_, ?_⟩
      · exact .cons shows .nil
      · intro _ _ _
        exact .inl more
      · intro last ends text stands
        obtain rfl : page = last := by simpa using ends
        rw [final] at stands
        cases stands
    | some position =>
      obtain ⟨⟨entry, here, rfl⟩, _, below⟩ := continues_of_next distinct more
      have present := (mem_of_mem_page here).1
      have text : page.response.nextCursor =
          some (encodeCursor serde (cursorAt accountId counterparty entry.position)) := by
        rw [continued, PageRead.visit, more]
        rfl
      have walked := @ih (some entry.position) text now
        (fun _ at_entry => Option.some.inj at_entry ▸ inverts page List.mem_cons_self entry present)
        (fun page member => inverts page (List.mem_cons_of_mem _ member))
        (fun _ => by
          obtain ⟨row, member, under⟩ := below
          exact ⟨row, member, fun limit is => Option.some.inj is ▸ under⟩)
      refine ⟨.page (history_subset grown) distinct positive more walked.walk, ?_, ?_, ?_⟩
      · rw [List.map_cons, shown]
        refine .cons shows ?_
        rw [PageRead.visit, more]
        exact walked.shows
      · intro last ends none
        refine .inr ?_
        rw [PageRead.visit, more]
        cases rest with
        | nil =>
          obtain rfl : page = last := by simpa using ends
          rw [text] at none
          cases none
        | cons => exact walked.finished last ends none
      · intro last ends
        cases rest with
        | nil =>
          obtain rfl : page = last := by simpa using ends
          intro _ is
          rw [text] at is
          obtain rfl := Option.some.inj is
          exact ⟨entry, present, rfl⟩
        | cons => exact walked.stands last ends

theorem accountEntryResponse_ok {scale : Nat} (bounded : scale ≤ 18) (row : AccountEntry) :
    ∃ item, accountEntryResponse serde accountId scale row = .ok item := by
  have shown : ∀ amount : Option I64,
      ∃ text, transposed (fun amount => formatAmount amount scale) amount = .ok text := by
    intro amount
    cases amount with
    | none => exact ⟨none, rfl⟩
    | some amount =>
      obtain ⟨text, formatted⟩ := formatAmount_ok bounded amount
      exact ⟨some text, by simp [transposed, formatted, Except.map]⟩
  obtain ⟨amount, one⟩ := formatAmount_ok bounded row.amountMinor
  obtain ⟨principal, two⟩ := shown row.principalAmountMinor
  obtain ⟨fee, three⟩ := shown row.feeAmountMinor
  simp only [accountEntryResponse, one, two, three]
  exact ⟨_, rfl⟩

theorem getAccountHistory_ok {raw : Option String} {limit : I64} {bound : Option Position}
    {seen : Ledger} {db : Db} (parsed : platform.parseUuid accountText = some accountId)
    (requests : Requests platform raw counterparty limit
      (bound.map fun position => encodeCursor serde (cursorAt accountId counterparty position)))
    (inverts : ∀ position ∈ bound, serde.Inverts (cursorAt accountId counterparty position))
    (reachable : seen.Reachable platform) {account : Account}
    (found : seen.store.account? accountId = some account) (owned : account.ownerId = clientId) :
    ∃ response,
      getAccountHistory platform serde clientId accountText raw seen.store db = .ok response := by
  obtain ⟨narrow, _, bounded⟩ := (reachable.listed found).scale
  have scale : seen.store.selectScale accountId clientId = some account.currencyScale := by
    simp [Db.selectScale, found, owned]
  rw [getAccountHistory_eq parsed requests inverts, scale]
  simp only [orFailure, bind, Except.bind, narrow]
  obtain ⟨items, shown⟩ := mapM_ok (@accountEntryResponse_ok serde accountId _ bounded)
    (page AccountEntry.position bound limit.val.toNat (db.history accountId counterparty))
  rw [shown]
  exact ⟨_, rfl⟩

theorem Followed.run {cursor : Option String} {before : Ledger} {pages : List PageRead}
    (followed : Followed platform serde clientId accountText counterparty cursor before pages)
    {last : PageRead} (ends : pages.getLast? = some last) :
    ∀ page ∈ pages, ∃ labels, Ledger.Run platform page.ledger labels last.ledger := by
  induction followed with
  | stop => simp at ends
  | @page cursor before page rest labels labels' begun run requests answered ended followed ih =>
    cases rest with
    | nil =>
      obtain rfl : page = last := by simpa using ends
      intro other member
      obtain rfl : other = page := by simpa using member
      exact ⟨[], .refl _⟩
    | cons following rest =>
      intro other member
      rcases List.mem_cons.mp member with rfl | later
      · obtain ⟨more, onwards⟩ := ih ends following List.mem_cons_self
        cases followed with
        | page begun' run' => exact ⟨_, (begun'.trans run').trans onwards⟩
      · exact ih ends other later

theorem Followed.reachable {cursor : Option String} {before : Ledger} {pages : List PageRead}
    (followed : Followed platform serde clientId accountText counterparty cursor before pages)
    (reachable : before.Reachable platform) :
    ∀ page ∈ pages, page.ledger.Reachable platform ∧
      ∃ labels, Ledger.Run platform before labels page.ledger := by
  induction followed with
  | stop => simp
  | page begun run requests answered ended followed ih =>
    have now := (reachable.run begun).run run
    intro other member
    rcases List.mem_cons.mp member with rfl | later
    · exact ⟨now, _, begun.trans run⟩
    · obtain ⟨there, _, onwards⟩ := ih now other later
      exact ⟨there, _, (begun.trans run).trans onwards⟩

theorem Followed.within {cursor : Option String} {before : Ledger} {pages : List PageRead}
    (followed : Followed platform serde clientId accountText counterparty cursor before pages)
    (reachable : before.Reachable platform) {last : PageRead} (ends : pages.getLast? = some last) :
    ∀ visit ∈ pages.map (PageRead.visit accountId counterparty),
      visit.table ⊆ last.ledger.store.history accountId counterparty := by
  intro visit member
  obtain ⟨page, present, rfl⟩ := List.mem_map.mp member
  obtain ⟨_, run⟩ := followed.run ends page present
  exact history_subset ((followed.reachable reachable page present).1.run_entries run)

theorem nodup_ids {db : Db} (distinct : (db.accountEntries.map AccountEntry.id).Nodup)
    {rows : List AccountEntry} (present : rows ⊆ db.accountEntries)
    (decreasing : rows.Pairwise AccountEntry.Later) : (rows.map AccountEntry.id).Nodup := by
  have once : rows.Nodup := by
    apply decreasing.imp
    rintro first _ later rfl
    exact lt_irrefl _ (position_lt.mpr later)
  apply once.map_on
  intro first member second member' same
  exact List.inj_on_of_nodup_map distinct (present member) (present member') same

end Following

/-- Whoever asks for the page of a cursor is answered, whatever has been committed by then. -/
def PageAnswered (platform : Platform) (serde : Serde) (clientId accountText : String)
    (counterparty : Option Uuid) (cursor : Option String) (before : Ledger) : Prop :=
  ∀ (labels labels' : List (Label sql Attempt Operator)) (seen next : Ledger) (raw : Option String)
    (limit : I64), Ledger.Run platform before labels seen → Ledger.Run platform seen labels' next →
    Requests platform raw counterparty limit cursor →
    ∃ response,
      getAccountHistory platform serde clientId accountText raw seen.store next.store = .ok response

/-- Following the cursors from the first page on shows the entries of the account and counterparty in
strictly decreasing order and none of them twice; when no cursor is left, none of those is missing
that were there at the first page; and no more pages are read than the account has entries, and one.
The owner is answered at first, and as long as there is a cursor. -/
theorem history_pagination_exact {platform : Platform} {serde : Serde} {clientId accountText : String}
    {accountId : Uuid} {counterparty : Option Uuid} {ledger : Ledger} {pages : List PageRead}
    (parsed : platform.parseUuid accountText = some accountId)
    (reachable : ledger.Reachable platform)
    (followed : Followed platform serde clientId accountText counterparty none ledger pages)
    (inverts : ∀ page ∈ pages, ∀ entry ∈ page.ledger.store.history accountId counterparty,
      serde.Inverts (cursorAt accountId counterparty entry.position)) :
    (∃ rows : List (List AccountEntry),
      List.Forall₂ (PageRead.Shows serde accountId counterparty) pages rows ∧
      rows.flatten.Pairwise AccountEntry.Later ∧
      (rows.flatten.map AccountEntry.id).Nodup ∧
      ∀ first ∈ pages.head?, ∀ last ∈ pages.getLast?, last.response.nextCursor = none →
        ∀ row ∈ first.ledger.store.history accountId counterparty, row ∈ rows.flatten) ∧
    (∀ last ∈ pages.getLast?,
      pages.length ≤ (last.ledger.store.history accountId counterparty).length + 1) ∧
    ∀ account, ledger.store.account? accountId = some account → account.ownerId = clientId →
      PageAnswered platform serde clientId accountText counterparty none ledger ∧
      ∀ last ∈ pages.getLast?, ∀ cursor ∈ last.response.nextCursor,
        PageAnswered platform serde clientId accountText counterparty (some cursor) last.ledger := by
  obtain ⟨walk, shows, finished, stands⟩ := @Followed.walked _ _ _ _ _ _ _ _ _ followed parsed
    none rfl reachable (by simp) inverts (by simp)
  have decreasing := walk.decreasing.imp fun below => position_lt.mp below
  refine ⟨⟨_, shows, decreasing, ?_, ?_⟩, ?_, ?_⟩
  · cases ends : pages.getLast? with
    | none =>
      obtain rfl := List.getLast?_eq_none_iff.mp ends
      exact List.nodup_nil
    | some last =>
      have there := (followed.reachable reachable last (List.mem_of_getLast? ends)).1
      refine nodup_ids there.entries_distinct ?_ decreasing
      intro row member
      exact (mem_history.mp (walk.shown_subset (followed.within reachable ends) member)).1
  · intro first starts last ends none row member
    cases pages with
    | nil => cases starts
    | cons page rest =>
      obtain rfl := Option.some.inj starts
      exact walk.from_first.complete (finished last ends none) row member (by simp [Under])
  · intro last ends
    have fewer := walk.length_le_table (followed.within reachable ends)
    rwa [List.length_map] at fewer
  · intro account found owned
    constructor
    · intro labels labels' seen next raw limit begun run requests
      obtain ⟨row, there, same⟩ := (reachable.run_evolves begun).account accountId account found
      exact @getAccountHistory_ok _ _ _ _ _ _ _ _ none _ _ parsed requests (by simp)
        (reachable.run begun) _ there (same.ownerId.trans owned)
    · intro last ends cursor following labels labels' seen next raw limit begun run requests
      have member := List.mem_of_getLast? ends
      obtain ⟨there, _, onwards⟩ := followed.reachable reachable last member
      obtain ⟨entry, present, rfl⟩ := stands last ends cursor following
      obtain ⟨row, found, same⟩ :=
        (reachable.run_evolves (onwards.trans begun)).account accountId account found
      refine @getAccountHistory_ok _ _ _ _ _ _ _ _ (some entry.position) _ _ parsed requests ?_
        (there.run begun) _ found (same.ownerId.trans owned)
      intro position at_entry
      exact Option.some.inj at_entry ▸ inverts last member entry present

namespace Sample

def rfc3339 (zone : String) (instant : Timestamp) : String :=
  String.ofList ((((Timestamp.text instant).toList.reverse.drop 3).reverse).map fun c =>
    if c = ' ' then 'T' else c) ++ zone

def serde (known : List Cursor) : Serde where
  timestamp := rfc3339 "Z"
  rfc3339 := rfc3339 "+00:00"
  fromSlice bytes := known.find? fun cursor =>
    Serde.toVec ⟨rfc3339 "Z", rfc3339 "+00:00", fun _ => none⟩ cursor = bytes

theorem serde_fromSlice (known : List Cursor) (bytes : List UInt8) :
    (serde known).fromSlice bytes =
      known.find? fun cursor => (serde known).toVec cursor = bytes := rfl

theorem run (attempts more : List Attempt) :
    ∃ labels, Ledger.Run .reference (ledger attempts) labels (ledger (attempts ++ more)) := by
  obtain ⟨_, labels, _, run⟩ := @System.Idle.serveAll _ _ _ _ _ _ _ _ (engine .reference)
    (handle .reference) _ (idle attempts) more
  refine ⟨labels, ?_⟩
  rw [ledger, ledger, System.serveAll, System.serveAll, List.foldl_append]
  exact run

def paidAgain : List Attempt := paid ++ [transfer 5 "alice" "again" 1 2 "1.00"]

def returnedAgain : List Attempt := paidAgain ++ [reversal 6 "bob" "undo" 4]

def entry (number offset account counterparty : Nat) (direction : EntryDirection)
    (kind : TransferKind) (amountMinor : I64) : AccountEntry :=
  ⟨resource (16 * number + offset), resource (16 * account), resource (16 * number),
    resource (16 * counterparty), direction, kind, amountMinor, "EUR", none, none,
    820746000000000 + 1000000 * number⟩

def first : AccountEntry := entry 4 1 1 2 .debit .transfer ⟨3000, by decide⟩

def second : AccountEntry := entry 5 1 1 2 .debit .transfer ⟨100, by decide⟩

def third : AccountEntry := entry 6 2 1 2 .credit .reversal ⟨3000, by decide⟩

def payments : List AccountEntry :=
  [first, entry 4 2 2 1 .credit .transfer ⟨3000, by decide⟩, second,
    entry 5 2 2 1 .credit .transfer ⟨100, by decide⟩]

def returns : List AccountEntry := [entry 6 1 2 1 .debit .reversal ⟨3000, by decide⟩, third]

def cursor (entry : AccountEntry) : Cursor := cursorAt (resource 16) none entry.position

def cursors : Serde := serde ([first, second, third].map cursor)

theorem cursors_inverts : ∀ entry ∈ [first, second, third], cursors.Inverts (cursor entry) := by
  have apart : ∀ one two : AccountEntry,
      (cursors.timestamp one.position.bound.1).length =
        (cursors.timestamp two.position.bound.1).length →
      cursors.timestamp one.position.bound.1 ≠ cursors.timestamp two.position.bound.1 →
      cursors.toVec (cursor one) ≠ cursors.toVec (cursor two) :=
    fun one two length different same => different (toVec_timestamp same length)
  have one := apart first second (by decide +kernel) (by decide +kernel)
  have two := apart first third (by decide +kernel) (by decide +kernel)
  have three := apart second third (by decide +kernel) (by decide +kernel)
  intro entry member
  simp only [List.mem_cons, List.not_mem_nil, or_false] at member
  rw [Serde.Inverts, cursors, serde_fromSlice, ← cursors]
  rcases member with rfl | rfl | rfl
  · simp
  · simp [one]
  · simp [two, three]

def item (number : Nat) (amount createdAt : String) : AccountEntryResponse :=
  ⟨resource (16 * number + 1), resource (16 * number), resource 16, resource 32, "debit", "transfer",
    amount, "EUR", none, none, createdAt⟩

def newest : PageRead :=
  ⟨some "limit=1", ⟨1, by decide⟩, ledger paidAgain, ledger paidAgain,
    ⟨[item 5 "1.00" "2026-01-03T09:00:05+00:00"], some (encodeCursor cursors (cursor second))⟩⟩

-- The reversal is committed between the two statements.
def oldest : PageRead :=
  ⟨some ("limit=" ++ "1" ++ "&cursor=" ++ encodeCursor cursors (cursor second)), ⟨1, by decide⟩,
    ledger paidAgain, ledger returnedAgain, ⟨[item 4 "30.00" "2026-01-03T09:00:04+00:00"], none⟩⟩

theorem history_paidAgain :
    (ledger paidAgain).store.history (resource 16) none = [first, second] ∧
      (ledger returnedAgain).store.history (resource 16) none = [first, second, third] := by
  obtain ⟨before, after⟩ :
      (ledger paidAgain).store.accountEntries = payments ∧
      (ledger returnedAgain).store.accountEntries = payments ++ returns := by
    decide +kernel
  rw [Db.history, Db.history, before, after]
  decide +kernel

theorem answered :
    Followed .reference cursors "alice" (resource 16).hyphenated none none (ledger paidAgain)
      [newest, oldest] := by
  obtain ⟨history, history'⟩ := history_paidAgain
  obtain ⟨parsed, limited, scale⟩ :
      Platform.reference.parseUuid (resource 16).hyphenated = some (resource 16) ∧
      queryParts newest.raw = [("limit".toList, "1".toList)] ∧
      (ledger paidAgain).store.selectScale (resource 16) "alice" = some 2 := by
    decide +kernel
  obtain ⟨shown, following, shown', final⟩ :
      page AccountEntry.position none 1 [first, second] = [second] ∧
      next AccountEntry.position none 1 [first, second] = some second.position ∧
      page AccountEntry.position (some second.position) 1 [first, second, third] = [first] ∧
      next AccountEntry.position (some second.position) 1 [first, second, third] = none := by
    decide +kernel
  have requests : Requests .reference newest.raw none ⟨1, by decide⟩ none :=
    ⟨⟨⟨none, by rw [limited]; decide, rfl⟩, some "1".toList, by rw [limited]; decide,
      by decide +kernel⟩, by rw [limited]; decide⟩
  have requests' : Requests .reference oldest.raw none ⟨1, by decide⟩
      (some (encodeCursor cursors (cursor second))) :=
    requests_following .reference cursors (cursor second) (by decide) (by decide +kernel)
  have one : getAccountHistory .reference cursors "alice" (resource 16).hyphenated newest.raw
      newest.seen.store newest.ledger.store = .ok newest.response := by
    rw [@getAccountHistory_eq _ _ _ _ _ _ none _ _ _ _ parsed requests (by simp)]
    simp only [newest, scale, history, Int.toNat_one, shown, following]
    rfl
  have two : getAccountHistory .reference cursors "alice" (resource 16).hyphenated oldest.raw
      oldest.seen.store oldest.ledger.store = .ok oldest.response := by
    rw [@getAccountHistory_eq _ _ _ _ _ _ (some second.position) _ _ _ _ parsed requests' (by
      rintro _ ⟨⟩
      exact cursors_inverts second (by simp))]
    simp only [oldest, scale, history', Int.toNat_one, shown', final]
    rfl
  obtain ⟨labels, run⟩ := run paidAgain [reversal 6 "bob" "undo" 4]
  have rest : Followed .reference cursors "alice" (resource 16).hyphenated none
      (some (encodeCursor cursors (cursor second))) (ledger paidAgain) [oldest] := by
    refine @Followed.page _ _ _ _ _ _ _ _ _ [] labels ?_ ?_ requests' two (fun _ => rfl) .stop
    · dsimp only [oldest]
      exact .refl _
    · dsimp only [oldest]
      exact run
  refine @Followed.page _ _ _ _ _ _ _ _ _ [] [] ?_ ?_ requests one
    (fun none => absurd none (Option.some_ne_none _)) ?_
  · dsimp only [newest]
    exact .refl _
  · dsimp only [newest]
    exact .refl _
  · dsimp only [newest]
    exact rest

end Sample

theorem history_pagination_exact_followed :
    ∃ rows, List.Forall₂ (PageRead.Shows Sample.cursors (Sample.resource 16) none)
        [Sample.newest, Sample.oldest] rows ∧
      rows.flatten.Pairwise AccountEntry.Later := by
  -- Bob gives the first payment back between Alice's two pages.
  obtain ⟨history, history'⟩ := Sample.history_paidAgain
  have inverts : ∀ page ∈ [Sample.newest, Sample.oldest],
      ∀ entry ∈ page.ledger.store.history (Sample.resource 16) none,
        Sample.cursors.Inverts (cursorAt (Sample.resource 16) none entry.position) := by
    intro page member entry present
    simp only [List.mem_cons, List.not_mem_nil, or_false] at member
    refine Sample.cursors_inverts entry ?_
    rcases member with rfl | rfl
    · rw [Sample.newest, history] at present
      exact List.mem_append_left [Sample.third] present
    · rw [Sample.oldest, history'] at present
      exact present
  obtain ⟨⟨rows, shows, decreasing, _⟩, _⟩ := history_pagination_exact (by decide +kernel)
    (Sample.reachable Sample.paidAgain) Sample.answered inverts
  exact ⟨rows, shows, decreasing⟩

end LedgerService
