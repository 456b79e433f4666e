import LedgerService.Parsing
import LedgerService.Postings

set_option autoImplicit false

/-!
# The history of an account

The two statements of `get_account_history` are not in one transaction, so each reads tables of its
own.
-/

namespace LedgerService

structure AccountEntryResponse where
  entryId : Uuid
  transferId : Uuid
  accountId : Uuid
  counterpartyAccountId : Uuid
  direction : String
  operationKind : String
  amount : String
  currency : String
  principalAmount : Option String
  feeAmount : Option String
  createdAt : String
  deriving DecidableEq

structure AccountHistoryResponse where
  items : List AccountEntryResponse
  nextCursor : Option String
  deriving DecidableEq

structure Cursor where
  v : UInt8
  accountId : Uuid
  counterpartyAccountId : Option Uuid
  createdAt : Timestamp
  entryId : Uuid
  deriving DecidableEq

structure Query where
  counterpartyAccountId : Option Uuid
  limit : I64
  cursor : Option Cursor

/-- How timestamps are written, and cursors are read, outside the repository. -/
structure Serde where
  -- `DateTime<Utc>::serialize`.
  timestamp : Timestamp → String
  -- `DateTime<Utc>::to_rfc3339`.
  rfc3339 : Timestamp → String
  -- `serde_json::from_slice`.
  fromSlice : List UInt8 → Option Cursor

-- `serde_json::to_vec` of the derived serialisation.
def Serde.toVec (serde : Serde) (cursor : Cursor) : List UInt8 :=
  let quoted (text : String) := "\"" ++ text ++ "\""
  let counterparty := (cursor.counterpartyAccountId.map fun id => quoted id.hyphenated).getD "null"
  Text.utf8 ("\x7b\"v\":" ++ toString cursor.v ++
    ",\"account_id\":" ++ quoted cursor.accountId.hyphenated ++
    ",\"counterparty_account_id\":" ++ counterparty ++
    ",\"created_at\":" ++ quoted (serde.timestamp cursor.createdAt) ++
    ",\"entry_id\":" ++ quoted cursor.entryId.hyphenated ++ "\x7d")

def invalidQuery : Failure :=
  .validation "invalid_limit" "The limit must be an integer from 1 to 100"

def invalidCursor : Failure := .validation "invalid_cursor" "The cursor is invalid"

-- `\x7bbyte:02x\x7d` for each byte.
def hexText (bytes : List UInt8) : List Char :=
  bytes.flatMap fun byte => [Nat.digitChar (byte.toNat / 16), Nat.digitChar (byte.toNat % 16)]

def encodeCursor (serde : Serde) (cursor : Cursor) : String :=
  String.ofList ("v1.".toList ++ hexText (serde.toVec cursor))

-- The byte at an index of the digits; a slice that is out of place panics.
def readByte (hex : List Char) (index : Nat) : Except Failure UInt8 := do
  let digits ← orFailure (.panic "byte index is not a char boundary")
    (Text.slice index (index + 2) hex)
  orFailure invalidCursor (Text.u8FromStrRadix16 digits)

def decodeCursor (serde : Serde) (value : String) : Except Failure Cursor := do
  let hex ← orFailure invalidCursor (Text.stripPrefix "v1.".toList value.toList)
  demand (¬ (hex = [] ∨ Text.byteLength hex % 2 ≠ 0 ∨
    ¬ (hex.flatMap String.utf8EncodeChar).all Text.isAsciiHexdigit)) invalidCursor
  let bytes ← (List.range' 0 (Text.byteLength hex / 2) 2).mapM (readByte hex)
  let cursor ← orFailure invalidCursor (serde.fromSlice bytes)
  demand (cursor.v = 1) invalidCursor
  .ok cursor

structure Parameters where
  counterparty : Option (List Char)
  limit : Option (List Char)
  cursor : Option (List Char)

-- The parts of a query between ampersands, split at their first equals sign.
def queryParts (raw : Option String) : List (List Char × List Char) :=
  ((((raw.getD "").toList.splitOn '&').filter fun part => part ≠ []).map fun part =>
    (Text.splitOnce '=' part).getD (part, []))

def Parameters.read (parameters : Parameters) :
    List Char × List Char → Except Failure Parameters
  | (key, value) =>
      if key = "counterparty_account_id".toList then do
        demand (parameters.counterparty = none) invalidQuery
        .ok { parameters with counterparty := some value }
      else if key = "limit".toList then do
        demand (parameters.limit = none) invalidQuery
        .ok { parameters with limit := some value }
      else if key = "cursor".toList then do
        demand (parameters.cursor = none) invalidCursor
        .ok { parameters with cursor := some value }
      else .ok parameters

-- `Option::transpose`, after `Option::map`.
def transposed {α β : Type} (read : α → Except Failure β) : Option α → Except Failure (Option β)
  | none => .ok none
  | some value => (read value).map some

def parseCounterparty (platform : Platform) (value : List Char) : Except Failure Uuid :=
  orFailure (.validation "malformed_counterparty_account_id" "The counterparty account ID is invalid")
    (platform.parseUuid (String.ofList value))

def parseLimit : Option (List Char) → Except Failure I64
  | none => .ok ⟨50, by decide⟩
  | some value =>
      orFailure invalidQuery
        ((Text.parseI64 value).filter fun limit => 1 ≤ limit.val && limit.val ≤ 100)

def parseQuery (platform : Platform) (serde : Serde) (raw : Option String) (accountId : Uuid) :
    Except Failure Query := do
  let parameters ← (queryParts raw).foldlM Parameters.read ⟨none, none, none⟩
  let counterpartyAccountId ← transposed (parseCounterparty platform) parameters.counterparty
  let limit ← parseLimit parameters.limit
  let cursor ← transposed (fun value => decodeCursor serde (String.ofList value)) parameters.cursor
  demand (∀ read ∈ cursor, ¬ (read.accountId ≠ accountId ∨
    read.counterpartyAccountId ≠ counterpartyAccountId)) invalidCursor
  .ok ⟨counterpartyAccountId, limit, cursor⟩

-- `ORDER BY created_at DESC, id DESC`.
def AccountEntry.Later (first second : AccountEntry) : Prop :=
  second.createdAt < first.createdAt ∨
    (second.createdAt = first.createdAt ∧ second.id < first.id)

instance (first second : AccountEntry) : Decidable (first.Later second) :=
  inferInstanceAs (Decidable (_ ∨ _))

-- `$3 IS NULL OR (created_at, id) < ($3, $4)`.
def AccountEntry.Below (entry : AccountEntry) (cursor : Option (Timestamp × Uuid)) : Prop :=
  ∀ bound ∈ cursor, entry.createdAt < bound.1 ∨ (entry.createdAt = bound.1 ∧ entry.id < bound.2)

instance (entry : AccountEntry) (cursor : Option (Timestamp × Uuid)) :
    Decidable (entry.Below cursor) :=
  inferInstanceAs (Decidable (∀ _ ∈ cursor, _))

-- The statement with a counterparty, and the one without.
def Db.selectEntries (db : Db) (accountId : Uuid) (counterparty : Option Uuid)
    (cursor : Option (Timestamp × Uuid)) (limit : Nat) : List AccountEntry :=
  let rows : List AccountEntry :=
    match counterparty with
    | some counterparty =>
        db.accountEntries.filter fun entry =>
          entry.accountId = accountId ∧ entry.counterpartyAccountId = counterparty ∧
            entry.Below cursor
    | none =>
        db.accountEntries.filter fun entry => entry.accountId = accountId ∧ entry.Below cursor
  (rows.insertionSort fun first second => ¬ second.Later first).take limit

-- `SELECT currency_scale FROM accounts WHERE id = $1 AND owner_id = $2`.
def Db.selectScale (db : Db) (accountId : Uuid) (clientId : String) : Option Int :=
  ((db.account? accountId).filter fun account => account.ownerId = clientId).map
    Account.currencyScale

def EntryDirection.asStr : EntryDirection → String
  | .debit => "debit"
  | .credit => "credit"

def accountEntryResponse (serde : Serde) (accountId : Uuid) (scale : Nat) (row : AccountEntry) :
    Except Failure AccountEntryResponse := do
  let amount ← formatAmount row.amountMinor scale
  let principalAmount ← transposed (fun amount => formatAmount amount scale) row.principalAmountMinor
  let feeAmount ← transposed (fun amount => formatAmount amount scale) row.feeAmountMinor
  .ok {
    entryId := row.id
    transferId := row.transferId
    accountId := accountId
    counterpartyAccountId := row.counterpartyAccountId
    direction := row.direction.asStr
    operationKind := row.operationKind.asStr
    amount := amount
    currency := row.currency
    principalAmount := principalAmount
    feeAmount := feeAmount
    createdAt := serde.rfc3339 row.createdAt }

-- `has_next.then(..)`: the cursor of a page, of its last row.
def nextCursor (serde : Serde) (accountId : Uuid) (counterparty : Option Uuid) (hasNext : Bool)
    (entries : List AccountEntry) : Except Failure (Option String) :=
  if hasNext then do
    let last ← orFailure (.panic "a page with a successor is non-empty") entries.getLast?
    .ok (some (encodeCursor serde ⟨1, accountId, counterparty, last.createdAt, last.id⟩))
  else .ok none

def getAccountHistory (platform : Platform) (serde : Serde) (clientId : String)
    (accountId : String) (rawQuery : Option String) (seen db : Db) :
    Except Failure AccountHistoryResponse := do
  let accountId ←
    orFailure (.validation "malformed_account_id" "The account ID is invalid")
      (platform.parseUuid accountId)
  let query ← parseQuery platform serde rawQuery accountId
  let scale ← orFailure (.app .notFound) (seen.selectScale accountId clientId)
  let rows := db.selectEntries accountId query.counterpartyAccountId
    (query.cursor.map fun cursor => (cursor.createdAt, cursor.entryId)) (query.limit.val + 1).toNat
  let hasNext := query.limit.val.toNat < rows.length
  let entries := rows.take query.limit.val.toNat
  let nextCursor ← nextCursor serde accountId query.counterpartyAccountId hasNext entries
  let scale ← orFailure (.internal .conversion) (u8TryFrom scale)
  let items ← entries.mapM (accountEntryResponse serde accountId scale)
  .ok ⟨items, nextCursor⟩

end LedgerService
