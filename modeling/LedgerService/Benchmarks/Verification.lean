import LedgerService.Benchmarks.Driver
import LedgerService.Joins
import LedgerService.Workloads

set_option autoImplicit false

namespace LedgerService.Benchmarks

open Joins

structure Check where
  name : String
  passed : Bool
  detail : String

structure Verification where
  checks : List Check
  valid : Bool

/-- An `i64` result of a release build, which wraps around. -/
def wrapI64 (value : Int) : Int := value.bmod (2 ^ 64)

-- `as i64`.
def asI64 (count : Nat) : Int := wrapI64 count

def usizeDouble (count : Nat) : Nat := count * 2 % 2 ^ 64

def check (name : String) (passed : Bool) (detail : String) : Check := ⟨name, passed, detail⟩

def finish (checks : List Check) : Verification := ⟨checks, checks.all Check.passed⟩

section Counts

variable (db : Db)

-- `WHERE source_account_id = ANY($1)`.
def fromSources (sources : List Uuid) : List Transfer :=
  db.transfers.filter fun transfer => transfer.sourceAccountId ∈ sources

-- `AND kind = ...`.
def kindCount (kind : TransferKind) (sources : List Uuid) : Int :=
  ((fromSources db sources).filter fun transfer => transfer.kind = kind).length

def transferCount (sources : List Uuid) : Int := kindCount db .transfer sources

def entryCount (sources : List Uuid) : Int :=
  (db.accountEntries.filter fun entry =>
    entry.transferId ∈ (fromSources db sources).map Transfer.id).length

-- The rows by their id; no two accounts have the same.
def balances (ids : List Uuid) : List (Uuid × Int) :=
  (db.accounts.filter fun account => account.id ∈ ids).map fun account =>
    (account.id, account.balanceMinor.val)

def sides (pairs : List (Uuid × Uuid)) : List Uuid :=
  pairs.flatMap fun pair => [pair.1, pair.2]

-- The groups with `count(*) > 1`.
def duplicateGroups (column : Transfer → Uuid) (sources : List Uuid) : Int :=
  ((groupBy column (fromSources db sources)).filter fun group => 1 < group.2.length).length

end Counts

def noUnexpectedOverdrafts (balances : List (Uuid × Int)) : Check :=
  check "no_unexpected_overdrafts" ((balances.map Prod.snd).all (0 ≤ ·)) "all balances non-negative"

def pairsHold (name : String) (balances : List (Uuid × Int)) (pairs : List (Uuid × Uuid))
    (source destination : Int) (detail : String) : Check :=
  check name
    (pairs.all fun pair =>
      balances.lookup pair.1 = some source && balances.lookup pair.2 = some destination)
    detail

def committedTransfers (name : String) (committed : Int) (expected : Nat) : Check :=
  check name (committed = asI64 expected)
    ("expected " ++ toString expected ++ ", found " ++ toString committed)

def twoEntries (name : String) (entries : Int) (expected : Nat) : Check :=
  check name (entries = wrapI64 (asI64 expected * 2))
    ("expected " ++ toString (usizeDouble expected) ++ ", found " ++ toString entries)

def evaluateIndependent (committed entries duplicates : Int) (balances : List (Uuid × Int))
    (pairs : List (Uuid × Uuid)) (expected : Nat) : Verification :=
  finish [
    committedTransfers "committed_measured_transfers" committed expected,
    twoEntries "exactly_two_entries_per_transfer" entries expected,
    check "no_duplicate_transfer_side_effects" (duplicates = 0)
      ("duplicate transfer groups: " ++ toString duplicates),
    pairsHold "expected_final_balances_and_pair_conservation" balances pairs 900 1100
      "each pair must be 9.00 / 11.00",
    noUnexpectedOverdrafts balances]

def independent (db : Db) (pairs : List (Uuid × Uuid)) (expected : Nat) : Verification :=
  let sources := pairs.map Prod.fst
  evaluateIndependent (transferCount db sources) (entryCount db sources)
    (duplicateGroups db Transfer.sourceAccountId sources)
    (balances db (sides pairs)) pairs expected

def fxIndependent (db : Db) (pairs : List (Uuid × Uuid)) (expected : Nat) : Verification :=
  let sources := pairs.map Prod.fst
  let balances := balances db (sides pairs)
  finish [
    committedTransfers "committed_measured_fx_transfers" (kindCount db .fxTransfer sources) expected,
    twoEntries "exactly_two_entries_per_fx_transfer" (entryCount db sources) expected,
    pairsHold "expected_fx_balances" balances pairs 1899 1400
      "each USD/PLN pair must be 18.99 / 14.00 after the 1% fee",
    noUnexpectedOverdrafts balances]

def evaluateHot (committed entries duplicates : Int) (balances : List (Uuid × Int)) (source : Uuid)
    (destinations : List Uuid) (expected : Nat) : Verification :=
  finish [
    committedTransfers "committed_measured_transfers" committed expected,
    twoEntries "exactly_two_entries_per_transfer" entries expected,
    check "no_duplicate_transfer_side_effects" (duplicates = 0)
      ("duplicate destination groups: " ++ toString duplicates),
    check "shared_source_final_balance" (balances.lookup source = some 1000)
      "source balance must equal initial funding minus measured amount",
    check "every_destination_received_once"
      (destinations.all fun id => balances.lookup id = some 1100)
      "every destination must be 11.00",
    check "total_conservation"
      (wrapI64 (balances.map Prod.snd).sum = wrapI64 (wrapI64 (asI64 expected * 1100) + 1000))
      "sum of shared-source and destination balances must be conserved",
    noUnexpectedOverdrafts balances]

def hotAccount (db : Db) (source : Uuid) (destinations : List Uuid) (expected : Nat) :
    Verification :=
  evaluateHot (transferCount db [source]) (entryCount db [source])
    (duplicateGroups db Transfer.destinationAccountId [source])
    (balances db (destinations ++ [source])) source destinations expected

structure AccountPoolKeyMapping where
  key : String
  recordCount : Int
  resultingTransferId : Option Uuid
  transferCount : Int
  entryCount : Int
  deriving DecidableEq

structure AccountPoolSnapshot where
  transfers : Int
  entries : Int
  keyMappings : List AccountPoolKeyMapping
  balances : List (Uuid × Int)

structure PlannedRecord where
  key : String
  recordCount : Int
  resultingTransferId : Option Uuid
  deriving DecidableEq

-- `LEFT JOIN LATERAL`: the aggregates of the records of a planned key.
def plannedRecord (db : Db) (plan : TransferPlan) : PlannedRecord :=
  let records := db.idempotencyRecords.filter fun record =>
    record.scope = ⟨plan.owner, .transfer, plan.key⟩
  ⟨plan.key, records.length, records.head?.bind IdempotencyRecord.resultingResourceId⟩

abbrev PlannedRow := (PlannedRecord × Option Transfer) × Option AccountEntry

-- `transfer.id = record.resulting_transfer_id`.
def matchingTransfers (db : Db) (record : PlannedRecord) : List Transfer :=
  db.transfers.filter fun transfer => some transfer.id = record.resultingTransferId

-- `entry.transfer_id = record.resulting_transfer_id`.
def matchingEntries (db : Db) (row : PlannedRecord × Option Transfer) : List AccountEntry :=
  db.accountEntries.filter fun entry => some entry.transferId = row.1.resultingTransferId

def plannedRows (db : Db) (records : List PlannedRecord) : List PlannedRow :=
  leftJoin (matchingEntries db) (leftJoin (matchingTransfers db) records)

-- `count(DISTINCT transfer.id)` and `count(entry.id)` of a group.
def keyMapping (group : PlannedRecord × List PlannedRow) : AccountPoolKeyMapping where
  key := group.1.key
  recordCount := group.1.recordCount
  resultingTransferId := group.1.resultingTransferId
  transferCount := (group.2.filterMap fun row => row.1.2.map Transfer.id).dedup.length
  entryCount := (group.2.filterMap fun row => row.2.map AccountEntry.id).length

def keyMappings (db : Db) (plans : List TransferPlan) : List AccountPoolKeyMapping :=
  (groupBy (fun row => row.1.1) (plannedRows db (plans.map (plannedRecord db)))).map keyMapping

def evaluateAccountPool (snapshot : AccountPoolSnapshot) (accountIds : List Uuid)
    (expectedBalances : List Int) (expected : Nat) : Verification :=
  let actual := accountIds.map fun id => snapshot.balances.lookup id
  finish [
    committedTransfers "committed_measured_transfers" snapshot.transfers expected,
    twoEntries "exactly_two_entries_per_transfer" snapshot.entries expected,
    check "every_planned_key_has_exactly_one_idempotency_record"
      (snapshot.keyMappings.length = expected &&
        snapshot.keyMappings.all fun mapping => mapping.recordCount = 1)
      ("expected " ++ toString expected ++ " key mappings, found " ++
        toString snapshot.keyMappings.length),
    check "every_planned_key_maps_to_one_transfer_with_two_entries"
      (snapshot.keyMappings.all fun mapping => mapping.resultingTransferId.isSome &&
        mapping.transferCount = 1 && mapping.entryCount = 2)
      "each planned key must map to one committed transfer and two entries",
    check "no_duplicate_transfer_side_effects"
      ((snapshot.keyMappings.filterMap AccountPoolKeyMapping.resultingTransferId).dedup.length =
        expected)
      "every planned key must map to a distinct transfer",
    check "entire_account_pool_exists" (snapshot.balances.length = accountIds.length)
      ("expected " ++ toString accountIds.length ++ ", found " ++
        toString snapshot.balances.length),
    check "expected_final_balances"
      ((actual.zip expectedBalances).all fun (actual, expected) => actual = some expected)
      "every pool balance must match deterministic simulation",
    noUnexpectedOverdrafts snapshot.balances,
    check "total_conservation"
      (wrapI64 (snapshot.balances.map Prod.snd).sum = wrapI64 expectedBalances.sum)
      "pool total must be conserved"]

def accountPool (db : Db) (accountIds : List Uuid) (expectedBalances : List Int)
    (measuredPlans : List TransferPlan) (expectedTransfers : Nat) : Verification :=
  let mappings := keyMappings db measuredPlans
  evaluateAccountPool
    { transfers := wrapI64 (mappings.map AccountPoolKeyMapping.transferCount).sum
      entries := wrapI64 (mappings.map AccountPoolKeyMapping.entryCount).sum
      keyMappings := mappings
      balances := balances db accountIds }
    accountIds expectedBalances expectedTransfers

section Prepared

/-- What `prepare` has paired the plans of the pool with; an index out of bounds panics. -/
def poolAccounts (poolIds : List Uuid) (plans : List TransferPlan) : Option (List (Uuid × Uuid)) :=
  plans.mapM fun plan => do some (← poolIds[plan.source]?, ← poolIds[plan.destination]?)

def hotAccounts (sourceIds destinations : List Uuid) (plans : List TransferPlan) :
    Option (List (Uuid × Uuid)) :=
  (plans.zip destinations).mapM fun pair => do some (← sourceIds[pair.1.source]?, pair.2)

-- The request of each plan: `transfer` asks for 1.00.
def payments (plans : List TransferPlan) (accounts : List (Uuid × Uuid)) : List Payment :=
  List.zipWith (fun plan pair => ⟨plan.owner, plan.key, pair.1, pair.2, "1.00"⟩) plans accounts

end Prepared

end LedgerService.Benchmarks
