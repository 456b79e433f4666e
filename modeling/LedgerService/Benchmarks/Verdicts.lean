import LedgerService.Benchmarks.Pools
import LedgerService.Benchmarks.Verification
import LedgerService.Decimals
import LedgerService.Tallies

set_option autoImplicit false

namespace LedgerService.Benchmarks

open Bookkeeping Joins Transaction Traversals

theorem lookup_of_mem {α β : Type} [BEq α] [LawfulBEq α] {pairs : List (α × β)} {key : α} {value : β}
    (unique : (pairs.map Prod.fst).Nodup) (member : (key, value) ∈ pairs) :
    pairs.lookup key = some value := by
  obtain ⟨before, after, rfl⟩ := List.append_of_mem member
  rw [List.lookup_eq_some_iff]
  refine ⟨before, after, rfl, ?_⟩
  intro other earlier
  rw [List.map_append, List.nodup_append] at unique
  have apart := unique.2.2 _ (List.mem_map_of_mem earlier) key (by simp)
  exact bne_iff_ne.mpr (Ne.symm apart)

section Balances

variable {db : Db} {ids : List Uuid} {held : Uuid → Int}

theorem balances_keys (keyed : Keyed db) : ((balances db ids).map Prod.fst).Nodup := by
  have same : (balances db ids).map Prod.fst =
      (db.accounts.filter fun account => account.id ∈ ids).map Account.id := by
    rw [balances, List.map_map]
    rfl
  rw [same]
  exact keyed.accounts.sublist (List.filter_sublist.map _)

theorem mem_balances (keyed : Keyed db) {id : Uuid} {balance : Int} :
    (id, balance) ∈ balances db ids ↔
      id ∈ ids ∧ ∃ account, db.account? id = some account ∧ account.balanceMinor.val = balance := by
  simp only [balances, List.mem_map, List.mem_filter, decide_eq_true_eq, Prod.mk.injEq]
  constructor
  · rintro ⟨account, ⟨member, among⟩, rfl, rfl⟩
    exact ⟨among, account, keyed.account member, rfl⟩
  · rintro ⟨among, account, found, rfl⟩
    obtain rfl := Table.key_of_lookup found
    exact ⟨account, ⟨Table.mem_of_lookup found, among⟩, rfl, rfl⟩

theorem balances_perm (keyed : Keyed db) (distinct : ids.Nodup)
    (each : ∀ id ∈ ids, ∃ account, db.account? id = some account ∧
      account.balanceMinor.val = held id) :
    (balances db ids).Perm (ids.map fun id => (id, held id)) := by
  rw [List.perm_ext_iff_of_nodup (balances_keys keyed).of_map
    (distinct.map fun _ _ same => (Prod.mk.inj same).1)]
  rintro ⟨id, balance⟩
  rw [mem_balances keyed, List.mem_map]
  constructor
  · rintro ⟨among, account, found, rfl⟩
    obtain ⟨row, there, same⟩ := each id among
    obtain rfl := Option.some.inj (found.symm.trans there)
    exact ⟨id, among, by rw [same]⟩
  · rintro ⟨id, among, same⟩
    obtain ⟨rfl, rfl⟩ := Prod.mk.inj same
    exact ⟨among, each id among⟩

theorem lookup_balances (keyed : Keyed db) {id : Uuid} (among : id ∈ ids) {account : Account}
    (found : db.account? id = some account) :
    (balances db ids).lookup id = some account.balanceMinor.val :=
  lookup_of_mem (balances_keys keyed) ((mem_balances keyed).mpr ⟨among, account, found, rfl⟩)

end Balances

section Keys

variable {db : Db} {plan : TransferPlan} {plans : List TransferPlan}

theorem plannedRows_flatMap (records : List PlannedRecord) :
    plannedRows db records = records.flatMap fun record => plannedRows db [record] := by
  unfold plannedRows
  conv_lhs => rw [leftJoin_eq_flatMap records, leftJoin_flatMap]

theorem record_of_plannedRows {record : PlannedRecord} {row : PlannedRow}
    (member : row ∈ plannedRows db [record]) : row.1.1 = record :=
  List.mem_singleton.mp (fst_of_mem_leftJoin (fst_of_mem_leftJoin member))

theorem keyMappings_eq (distinct : (plans.map TransferPlan.key).Nodup) :
    keyMappings db plans = plans.map fun plan =>
      keyMapping (plannedRecord db plan, plannedRows db [plannedRecord db plan]) := by
  have records : (plans.map (plannedRecord db)).Nodup := by
    apply List.Nodup.of_map PlannedRecord.key
    rwa [List.map_map]
  have groups : groupBy (fun row => row.1.1) (plannedRows db (plans.map (plannedRecord db))) =
      (plans.map (plannedRecord db)).map fun record => (record, plannedRows db [record]) := by
    rw [plannedRows_flatMap]
    apply groupBy_flatMap
    · exact fun record _ row member => record_of_plannedRows member
    · exact fun record _ => leftJoin_ne_nil (leftJoin_ne_nil (List.cons_ne_nil _ _))
    · rwa [List.map_id']
  rw [keyMappings, groups, List.map_map, List.map_map]
  rfl

theorem keyMapping_unused (unused : db.record? ⟨plan.owner, .transfer, plan.key⟩ = none) :
    (keyMapping (plannedRecord db plan, plannedRows db [plannedRecord db plan])).recordCount = 0 := by
  have none : db.idempotencyRecords.filter
      (fun record => record.scope = ⟨plan.owner, .transfer, plan.key⟩) = [] := by
    rw [List.filter_eq_nil_iff]
    intro record member same
    exact Table.lookup_eq_none.mp unused record member (of_decide_eq_true same)
  simp [keyMapping, plannedRecord, none]

theorem keyMapping_used (keyed : Keyed db) (booked : Booked db.transfers db.accountEntries)
    {record : IdempotencyRecord} {transfer : Transfer}
    (used : db.record? ⟨plan.owner, .transfer, plan.key⟩ = some record)
    (result : record.resultingResourceId = some transfer.id) (member : transfer ∈ db.transfers) :
    keyMapping (plannedRecord db plan, plannedRows db [plannedRecord db plan]) =
      ⟨plan.key, 1, some transfer.id, 1, 2⟩ := by
  have records : db.idempotencyRecords.filter
      (fun record => record.scope = ⟨plan.owner, .transfer, plan.key⟩) = [record] :=
    Table.filter_of_lookup keyed.records used
  have planned : plannedRecord db plan = ⟨plan.key, 1, some transfer.id⟩ := by
    simp [plannedRecord, records, result]
  have transfers : matchingTransfers db ⟨plan.key, 1, some transfer.id⟩ = [transfer] := by
    simpa [matchingTransfers] using Table.filter_of_lookup keyed.transfers (keyed.transfer member)
  obtain ⟨debit, credit, entries⟩ := booked.entries_of keyed.transfers member
  have entries : matchingEntries db (⟨plan.key, 1, some transfer.id⟩, some transfer) =
      [transfer.debitEntry debit, transfer.creditEntry credit] := by
    simpa [matchingEntries] using entries
  rw [planned, plannedRows, leftJoin_matched transfers (List.cons_ne_nil _ _), List.map_singleton,
    leftJoin_matched entries (List.cons_ne_nil _ _)]
  simp [keyMapping]

end Keys

structure Planned (ids : List Uuid) (plan : TransferPlan) (payment : Payment) : Prop where
  client : payment.clientId = plan.owner
  key : payment.idempotencyKey = plan.key
  source : ids[plan.source]? = some payment.sourceAccountId
  destination : ids[plan.destination]? = some payment.destinationAccountId
  amount : payment.amount = "1.00"

section Planned

variable {ids : List Uuid} {plans : List TransferPlan} {accounts : List (Uuid × Uuid)}

theorem planned (paired : poolAccounts ids plans = some accounts) :
    List.Forall₂ (Planned ids) plans (payments plans accounts) := by
  have each := mapM_eq_some.mp paired
  clear paired
  induction each with
  | nil => exact .nil
  | cons found _ ih =>
    simp only [bind, Option.bind_eq_some_iff, Option.some.injEq] at found
    obtain ⟨source, sourceFound, destination, destinationFound, rfl⟩ := found
    exact .cons ⟨rfl, rfl, sourceFound, destinationFound, rfl⟩ ih

theorem planned_keys {payments : List Payment} (planned : List.Forall₂ (Planned ids) plans payments) :
    payments.map Payment.idempotencyKey = plans.map TransferPlan.key := by
  induction planned with
  | nil => rfl
  | cons first _ ih => rw [List.map_cons, List.map_cons, ih, first.key]

theorem Planned.on {plan : TransferPlan} {payment : Payment} (planned : Planned ids plan payment)
    (distinct : ids.Nodup) {index : Nat} {id : Uuid} (here : ids[index]? = some id) :
    (payment.movement 100 100).on id = 100 * Rounds.net [plan.move] index := by
  obtain ⟨within, _⟩ := List.getElem?_eq_some_iff.mp here
  have place : ∀ {other account}, ids[other]? = some account → (account = id ↔ other = index) := by
    intro other account there
    constructor
    · rintro rfl
      exact ((List.getElem?_inj within distinct).mp (here.trans there.symm)).symm
    · rintro rfl
      exact Option.some.inj (there.symm.trans here)
  simp only [Movement.on, Payment.movement, place planned.source, place planned.destination]
  by_cases given : plan.source = index <;> by_cases taken : plan.destination = index <;>
    simp [Rounds.net, TransferPlan.move, given, taken]

theorem flow_planned {payments : List Payment} (planned : List.Forall₂ (Planned ids) plans payments)
    (distinct : ids.Nodup) {index : Nat} {id : Uuid} (here : ids[index]? = some id) :
    flow (Payment.movement 100 100) payments id =
      100 * Rounds.net (plans.map TransferPlan.move) index := by
  induction planned with
  | nil => rfl
  | @cons plan payment plans payments first _ ih =>
    have joined := Rounds.net_append [plan.move] (plans.map TransferPlan.move) index
    rw [List.singleton_append] at joined
    rw [List.map_cons, joined, Int.mul_add, ← ih, ← first.on distinct here]
    simp [flow]

end Planned

section Indices

variable {first second warmup : Nat} {rest rest' : List Char}

theorem index_eq (same : Nat.toDigits 10 first ++ '-' :: rest = Nat.toDigits 10 second ++ '-' :: rest') :
    first = second := by
  have split := congrArg (Text.splitOnce '-') same
  rw [Text.splitOnce_append (Text.not_mem_toDigits rfl first),
    Text.splitOnce_append (Text.not_mem_toDigits rfl second)] at split
  have digits := (Prod.mk.inj (Option.some.inj split)).1
  rw [← Nat.ofDigitChars_ten_toDigits (n := first), digits, Nat.ofDigitChars_ten_toDigits]

theorem phased_eq (same :
    (phaseName first warmup).toList ++ '-' :: (Nat.toDigits 10 first ++ '-' :: rest) =
    (phaseName second warmup).toList ++ '-' :: (Nat.toDigits 10 second ++ '-' :: rest')) :
    first = second := by
  unfold phaseName at same
  by_cases early : first < warmup <;> by_cases early' : second < warmup <;>
    simp only [early, early', if_true, if_false] at same
  · exact index_eq (by simpa using same)
  · simp at same
  · simp at same
  · exact index_eq (by simpa using same)

end Indices

section Pool

variable {seed clients poolSize warmup measured : Nat}

theorem pool_keys_nodup :
    ((accountPoolPlans seed clients poolSize warmup measured).map TransferPlan.key).Nodup := by
  rw [accountPoolPlans, List.map_map]
  refine List.Nodup.map_on ?_ List.nodup_range
  intro first _ second _ same
  have texts := congrArg String.toList same
  simp only [Function.comp_apply, accountPoolPlan, String.toList_append, List.append_assoc,
    List.append_cancel_left_eq] at texts
  exact phased_eq (by simpa using texts)

theorem pool_net (pool : 2 ≤ poolSize) (small : poolSize ≤ 2 ^ 63)
    (counted : seed + warmup + measured < 2 ^ 64) (account : Nat) :
    |Rounds.net ((accountPoolPlans seed clients poolSize warmup measured).map TransferPlan.move)
      account| ≤ 3 := by
  have every : ((poolChunks seed clients poolSize warmup measured).map fun chunk =>
      chunk.map TransferPlan.move).flatten =
        (accountPoolPlans seed clients poolSize warmup measured).map TransferPlan.move ++ [] := by
    rw [← List.map_flatten, poolChunks_flatten (by omega), List.append_nil]
  have fair : ∀ round ∈ (poolChunks seed clients poolSize warmup measured).map fun chunk =>
      chunk.map TransferPlan.move, Rounds.Fair round := by
    intro round member
    obtain ⟨chunk, present, rfl⟩ := List.mem_map.mp member
    exact (poolRound_of_mem pool small counted present).fair
  have runs : Rounds.Runs ((poolChunks seed clients poolSize warmup measured).map fun chunk =>
      chunk.map TransferPlan.move) ((poolChunks seed clients poolSize warmup measured).map fun chunk =>
      chunk.map TransferPlan.move) := List.forall₂_same.mpr fun _ _ => .refl _
  have bound := runs.net_prefix fair every account
  have short := @poolChunks_short _ clients _ _ _ pool small counted
  omega

/-- The accounts of the pool, as `prepare` has opened them. -/
structure PoolPrepared (db : Db) (poolSize : Nat) (ids : List Uuid) : Prop where
  size : ids.length = poolSize
  distinct : ids.Nodup
  opened : ∀ id ∈ ids, ∃ account, db.account? id = some account ∧ account.currency = "USD" ∧
    account.balanceMinor.val = accountPoolInitialBalanceMinor

theorem dollar {account : Account} (listed : account.Listed) (currency : account.currency = "USD") :
    ∀ scale, u8TryFrom account.currencyScale = some scale →
      ∃ value, parseMinorUnits "1.00" scale = .ok value ∧ value.val = 100 := by
  intro scale narrow
  obtain ⟨known, member, code, scaled⟩ := listed
  have two : ∀ one ∈ currencies, one.code = "USD" → one.scale = 2 := by decide
  rw [scaled, two known member (code.symm.trans currency)] at narrow
  obtain rfl := Option.some.inj narrow
  exact ⟨⟨100, by decide⟩, by decide, rfl⟩

variable {platform : Platform} {before ledger : Ledger} {ids : List Uuid} {plans : List TransferPlan}
  {payments done : List Payment} {made : List Transfer}

theorem PoolPrepared.ordinary (prepared : PoolPrepared before.store poolSize ids)
    (reachable : before.Reachable platform) (planned : List.Forall₂ (Planned ids) plans payments) :
    ∀ payment ∈ payments, payment.Ordinary before.store 100 := by
  intro payment member
  obtain ⟨plan, _, planned⟩ := exists_of_forall₂ planned.flip member
  obtain ⟨source, sourceFound, currency, _⟩ :=
    prepared.opened _ (List.mem_of_getElem? planned.source)
  obtain ⟨destination, destinationFound, currency', _⟩ :=
    prepared.opened _ (List.mem_of_getElem? planned.destination)
  refine ⟨source, destination, sourceFound, destinationFound, currency.trans currency'.symm, ?_⟩
  rw [planned.amount]
  exact dollar (reachable.listed sourceFound) currency

theorem expected_eq (size : ids.length = poolSize) (distinct : ids.Nodup)
    (planned : List.Forall₂ (Planned ids) plans payments) :
    expectedPoolBalances poolSize plans = ids.map fun id =>
      accountPoolInitialBalanceMinor + flow (Payment.movement 100 100) payments id := by
  apply List.ext_getElem?
  intro index
  rw [List.getElem?_map, expectedPoolBalances, settled_getElem?, List.getElem?_replicate, ← size]
  cases here : ids[index]? with
  | none =>
    rw [if_neg (Nat.not_lt.mpr (List.getElem?_eq_none_iff.mp here))]
    rfl
  | some id =>
    rw [if_pos (List.getElem?_eq_some_iff.mp here).1, Option.map_some, Option.map_some,
      flow_planned planned distinct here]

theorem evaluateAccountPool_valid {snapshot : AccountPoolSnapshot} {expectedBalances : List Int}
    {expected : Nat} :
    (evaluateAccountPool snapshot ids expectedBalances expected).valid = true ↔
      snapshot.transfers = asI64 expected ∧ snapshot.entries = wrapI64 (asI64 expected * 2) ∧
      (snapshot.keyMappings.length = expected ∧
        ∀ mapping ∈ snapshot.keyMappings, mapping.recordCount = 1) ∧
      (∀ mapping ∈ snapshot.keyMappings, mapping.resultingTransferId.isSome = true ∧
        mapping.transferCount = 1 ∧ mapping.entryCount = 2) ∧
      (snapshot.keyMappings.filterMap AccountPoolKeyMapping.resultingTransferId).dedup.length =
        expected ∧
      snapshot.balances.length = ids.length ∧
      (∀ pair ∈ (ids.map fun id => snapshot.balances.lookup id).zip expectedBalances,
        pair.1 = some pair.2) ∧
      (∀ balance ∈ snapshot.balances.map Prod.snd, 0 ≤ balance) ∧
      wrapI64 (snapshot.balances.map Prod.snd).sum = wrapI64 expectedBalances.sum := by
  simp only [evaluateAccountPool, finish, check, committedTransfers, twoEntries,
    noUnexpectedOverdrafts, List.all_cons, List.all_nil, Bool.and_eq_true, decide_eq_true_eq,
    List.all_eq_true, Bool.and_true, and_assoc]

end Pool

section Mappings

variable {platform : Platform} {before ledger : Ledger} {ids : List Uuid} {plans : List TransferPlan}
  {payments done : List Payment} {made : List Transfer} {plan : TransferPlan} {payment : Payment}

theorem Planned.scope (planned : Planned ids plan payment) :
    payment.scope .transfer = ⟨plan.owner, .transfer, plan.key⟩ := by
  rw [Payment.scope, planned.client, planned.key]

theorem Planned.missing (planned : Planned ids plan payment)
    (progress : Progress platform payments before ledger done made) (member : payment ∈ payments)
    (lost : payment ∉ done) :
    (keyMapping (plannedRecord ledger.store plan,
      plannedRows ledger.store [plannedRecord ledger.store plan])).recordCount = 0 := by
  apply keyMapping_unused
  rw [← planned.scope]
  exact progress.records payment member lost .transfer (.inl rfl)

variable (progress : Progress platform payments before ledger done made)
  (uniform : Uniform .transfer 100 100 done made) (reachable : ledger.Reachable platform)
include progress uniform reachable

theorem Planned.mapping (planned : Planned ids plan payment) {transfer : Transfer}
    (among : (payment, transfer) ∈ done.zip made) :
    keyMapping (plannedRecord ledger.store plan,
      plannedRows ledger.store [plannedRecord ledger.store plan]) =
        ⟨plan.key, 1, some transfer.id, 1, 2⟩ := by
  obtain ⟨record, found, result⟩ := progress.recorded uniform among
  rw [TransferKind.operationType, planned.scope] at found
  exact keyMapping_used reachable.keyed reachable.booked found result
    (progress.mem_made (List.of_mem_zip among).2)

theorem keyMappings_made {these : List Payment} (planned : List.Forall₂ (Planned ids) plans these)
    (distinct : (plans.map TransferPlan.key).Nodup) (all : these ⊆ done) :
    ∃ resulting : TransferPlan → Uuid, (plans.map resulting).Nodup ∧
      keyMappings ledger.store plans =
        plans.map fun plan => ⟨plan.key, 1, some (resulting plan), 1, 2⟩ := by
  have each : ∀ plan ∈ plans, ∃ payment transfer, Planned ids plan payment ∧
      (payment, transfer) ∈ done.zip made := by
    intro plan member
    obtain ⟨payment, among, planned⟩ := exists_of_forall₂ planned member
    obtain ⟨transfer, _, here⟩ := progress.transfer_of (all among)
    exact ⟨payment, transfer, planned, here⟩
  let resulting (plan : TransferPlan) : Uuid := (keyMapping (plannedRecord ledger.store plan,
    plannedRows ledger.store [plannedRecord ledger.store plan])).resultingTransferId.getD 0
  refine ⟨resulting, List.Nodup.map_on ?_ (List.Nodup.of_map _ distinct), ?_⟩
  · intro first member second member' same
    obtain ⟨payment, transfer, planned, among⟩ := each first member
    obtain ⟨payment', transfer', planned', among'⟩ := each second member'
    simp only [resulting, planned.mapping progress uniform reachable among,
      planned'.mapping progress uniform reachable among', Option.getD_some] at same
    have pair := progress.payment_eq reachable among among' same
    apply List.inj_on_of_nodup_map distinct member member'
    rw [← planned.key, ← planned'.key, (Prod.mk.inj pair).1]
  · rw [keyMappings_eq distinct]
    apply List.map_congr_left
    intro plan member
    obtain ⟨payment, transfer, planned, among⟩ := each plan member
    simp only [resulting, planned.mapping progress uniform reachable among,
      Option.getD_some]

end Mappings

section Verdict

variable {platform : Platform} {before ledger : Ledger} {ids : List Uuid}
  {payments done : List Payment} {made : List Transfer}
  {seed clients poolSize warmup measured : Nat}

theorem wrapI64_double (count : Nat) : wrapI64 (asI64 count * 2) = wrapI64 (count * 2) := by
  simp only [asI64, wrapI64, Int.bmod_mul_bmod]

theorem mappings_pass {plans : List TransferPlan} {resulting : TransferPlan → Uuid}
    {mappings : List AccountPoolKeyMapping} (apart : (plans.map resulting).Nodup)
    (made : mappings = plans.map fun plan => ⟨plan.key, 1, some (resulting plan), 1, 2⟩) :
    wrapI64 (mappings.map AccountPoolKeyMapping.transferCount).sum = asI64 plans.length ∧
      wrapI64 (mappings.map AccountPoolKeyMapping.entryCount).sum =
        wrapI64 (asI64 plans.length * 2) ∧
      (mappings.length = plans.length ∧ ∀ mapping ∈ mappings, mapping.recordCount = 1) ∧
      (∀ mapping ∈ mappings, mapping.resultingTransferId.isSome = true ∧
        mapping.transferCount = 1 ∧ mapping.entryCount = 2) ∧
      (mappings.filterMap AccountPoolKeyMapping.resultingTransferId).dedup.length =
        plans.length := by
  subst made
  have results : (plans.map fun plan => (⟨plan.key, 1, some (resulting plan), 1, 2⟩ :
      AccountPoolKeyMapping)).filterMap AccountPoolKeyMapping.resultingTransferId =
        plans.map resulting := by
    rw [List.filterMap_map, ← List.filterMap_eq_map]
    rfl
  refine ⟨?_, ?_, ⟨List.length_map _, ?_⟩, ?_, ?_⟩
  · rw [List.map_map]
    simp [Function.comp_def, asI64]
  · rw [List.map_map, wrapI64_double]
    simp [Function.comp_def]
  · intro mapping member
    obtain ⟨_, _, rfl⟩ := List.mem_map.mp member
    rfl
  · intro mapping member
    obtain ⟨_, _, rfl⟩ := List.mem_map.mp member
    exact ⟨rfl, rfl, rfl⟩
  · rw [results, apart.dedup, List.length_map]

theorem measured_length (counted : seed + warmup + measured < 2 ^ 64) :
    ((accountPoolPlans seed clients poolSize warmup measured).drop warmup).length = measured := by
  have sum : usizeAdd warmup measured = warmup + measured := Nat.mod_eq_of_lt (by omega)
  rw [accountPoolPlans, sum, List.length_drop, List.length_map, List.length_range,
    Nat.add_sub_cancel_left]

theorem accountPool_valid (pool : 2 ≤ poolSize) (small : poolSize ≤ 2 ^ 63)
    (counted : seed + warmup + measured < 2 ^ 64)
    (reachable : before.Reachable platform)
    {labels : List (Label sql Attempt Operator)} (run : Ledger.Run platform before labels ledger)
    (prepared : PoolPrepared before.store poolSize ids)
    (planned : List.Forall₂ (Planned ids)
      (accountPoolPlans seed clients poolSize warmup measured) payments)
    (distinct : payments.Nodup)
    (progress : Progress platform payments before ledger done made) :
    (accountPool ledger.store ids
        (expectedPoolBalances poolSize (accountPoolPlans seed clients poolSize warmup measured))
        ((accountPoolPlans seed clients poolSize warmup measured).drop warmup) measured).valid = true ↔
      payments.drop warmup ⊆ done ∧
        ∀ id ∈ ids, flow (Payment.movement 100 100) (payments.filter (· ∉ done)) id = 0 := by
  have last := reachable.run run
  have evolves := reachable.run_evolves run
  have uniform := progress.uniform (prepared.ordinary reachable planned) last evolves
  have held : ∀ id ∈ ids, ∃ row, ledger.store.account? id = some row ∧
      row.balanceMinor.val =
        accountPoolInitialBalanceMinor + flow (Payment.movement 100 100) done id := by
    intro id member
    obtain ⟨account, found, _, opened⟩ := prepared.opened id member
    obtain ⟨row, there, balance⟩ := progress.balance reachable run found
    rw [opened, progress.flow_made uniform] at balance
    exact ⟨row, there, balance⟩
  have rows := balances_perm last.keyed prepared.distinct held
  have actual : ids.map (fun id => (balances ledger.store ids).lookup id) = ids.map fun id =>
      some (accountPoolInitialBalanceMinor + flow (Payment.movement 100 100) done id) := by
    apply List.map_congr_left
    intro id member
    obtain ⟨row, there, balance⟩ := held id member
    rw [lookup_balances last.keyed member there, balance]
  have keys : (((accountPoolPlans seed clients poolSize warmup measured).drop warmup).map
      TransferPlan.key).Nodup := by
    rw [List.map_drop]
    exact pool_keys_nodup.sublist (List.drop_sublist _ _)
  have later := List.forall₂_drop warmup planned
  have compared : (∀ pair ∈ (ids.map fun id => (balances ledger.store ids).lookup id).zip
      (expectedPoolBalances poolSize (accountPoolPlans seed clients poolSize warmup measured)),
        pair.1 = some pair.2) ↔
      ∀ id ∈ ids, flow (Payment.movement 100 100) (payments.filter (· ∉ done)) id = 0 := by
    rw [actual, expected_eq prepared.size prepared.distinct planned, List.zip_map', List.forall_mem_map]
    apply forall₂_congr
    intro id member
    rw [progress.flow_lost distinct id, Option.some.injEq]
    omega
  simp only [accountPool, evaluateAccountPool_valid, compared]
  constructor
  · rintro ⟨_, _, ⟨_, once⟩, _, _, _, none, _, _⟩
    refine ⟨?_, none⟩
    intro payment member
    by_contra lost
    -- The key of a payment that was not made has no record.
    obtain ⟨plan, among, planned⟩ := exists_of_forall₂ later.flip member
    have one := once _ (keyMappings_eq keys ▸ List.mem_map_of_mem among)
    rw [planned.missing progress (List.mem_of_mem_drop member) lost] at one
    cases one
  · rintro ⟨all, none⟩
    obtain ⟨resulting, apart, mappings⟩ :=
      keyMappings_made progress uniform last later keys all
    have length := @measured_length seed clients poolSize _ _ counted
    have values : ((balances ledger.store ids).map Prod.snd).Perm (expectedPoolBalances poolSize
        (accountPoolPlans seed clients poolSize warmup measured)) := by
      have same := rows.map Prod.snd
      rw [List.map_map] at same
      refine same.trans (.of_eq ?_)
      rw [expected_eq prepared.size prepared.distinct planned]
      apply List.map_congr_left
      intro id member
      rw [progress.flow_lost distinct id, none id member, Int.add_zero]
      rfl
    obtain ⟨transfers, entries, records, transfer, distinctly⟩ := mappings_pass apart mappings
    rw [length] at transfers entries records distinctly
    refine ⟨transfers, entries, records, transfer, distinctly, ?_, none, ?_, ?_⟩
    · rw [rows.length_eq, List.length_map]
    · intro balance member
      -- Over whole rounds an account is down by three payments at most.
      obtain ⟨index, here⟩ := List.mem_iff_getElem?.mp (values.mem_iff.mp member)
      have bound := abs_le.mp (@pool_net seed clients _ _ _ pool small counted index)
      rw [expectedPoolBalances, settled_getElem?, List.getElem?_replicate] at here
      split at here
      · rw [Option.map_some, Option.some.injEq, accountPoolInitialBalanceMinor] at here
        omega
      · cases here
    · rw [values.sum_eq]

end Verdict

/-- On a ledger that has served nothing else, an account-pool level is valid if and only if every
measured transfer was made and the warm-up transfers that were lost cancel out. -/
theorem account_pool_verdict {platform : Platform} {before ledger : Ledger} {ids : List Uuid}
    {accounts : List (Uuid × Uuid)} {plans : List TransferPlan}
    {seed clients poolSize warmup measured : Nat} {labels : List (Label sql Attempt Operator)}
    (pool : 2 ≤ poolSize) (small : poolSize ≤ 2 ^ 63) (counted : seed + warmup + measured < 2 ^ 64)
    (reachable : before.Reachable platform) (idle : before.Idle)
    (prepared : PoolPrepared before.store poolSize ids)
    (generated : plans = accountPoolPlans seed clients poolSize warmup measured)
    (paired : poolAccounts ids plans = some accounts)
    (fresh : ∀ payment ∈ payments plans accounts, payment.Fresh before.store)
    (run : Ledger.Run platform before labels ledger)
    (asked : ∀ id attempt, .begin id attempt ∈ labels →
      ∃ payment ∈ payments plans accounts, attempt.Makes platform payment) :
    ∃ lost : List Payment, lost.Sublist ((payments plans accounts).take warmup) ∧
      (∀ payment ∈ (payments plans accounts).take warmup,
        payment ∈ lost ↔ ¬ payment.Answered platform ledger) ∧
      ((accountPool ledger.store ids (expectedPoolBalances poolSize plans) (plans.drop warmup)
          measured).valid = true ↔
        (∀ payment ∈ (payments plans accounts).drop warmup, payment.Answered platform ledger) ∧
          ∀ id ∈ ids, flow (Payment.movement 100 100) lost id = 0) := by
  subst generated
  have planned := planned paired
  have keys : ((payments (accountPoolPlans seed clients poolSize warmup measured) accounts).map
      Payment.idempotencyKey).Nodup := planned_keys planned ▸ pool_keys_nodup
  have distinct := List.Nodup.of_map _ keys
  obtain ⟨done, made, progress, answered⟩ :=
    Progress.run_answered reachable idle keys fresh run asked
  have verdict :=
    accountPool_valid pool small counted reachable run prepared planned distinct progress
  generalize payments (accountPoolPlans seed clients poolSize warmup measured) accounts = payments at *
  refine ⟨(payments.take warmup).filter (· ∉ done), List.filter_sublist, ?_, verdict.trans ?_⟩
  · intro payment member
    rw [List.mem_filter, decide_eq_true_eq, answered payment (List.mem_of_mem_take member)]
    exact and_iff_right member
  · have all : payments.drop warmup ⊆ done ↔
        ∀ payment ∈ payments.drop warmup, payment.Answered platform ledger :=
      forall₂_congr fun payment member => answered payment (List.mem_of_mem_drop member)
    rw [← all]
    apply and_congr_right
    intro every
    -- What was lost was lost in the warm-up.
    have lost : payments.filter (· ∉ done) = (payments.take warmup).filter (· ∉ done) := by
      conv_lhs => rw [← List.take_append_drop warmup payments, List.filter_append]
      rw [List.append_right_eq_self, List.filter_eq_nil_iff]
      intro payment member
      simp [every member]
    rw [lost]

namespace Sample

open LedgerService.Sample

-- Some requests are given up, one is sent again while it is under way, and one is sent once.
def level (givenUp : List (Move Attempt)) (first again second : Attempt) (statements : Nat) :
    List (Move Attempt) :=
  givenUp ++ moves 200 first 3 ++ moves 201 again 3 ++
    List.replicate (statements - 3) (.advance 200) ++ [.finish 200] ++
    List.replicate 4 (.advance 201) ++ [.finish 201] ++ moves 202 second statements ++
    [.finish 202]

theorem level_contexts (givenUp : List (Move Attempt)) (first again second : Attempt)
    (statements : Nat) :
    (level givenUp first again second statements).filterMap Move.context? =
      givenUp.filterMap Move.context? ++ [first, again, second] := by
  have advances : ∀ count id, (List.replicate count (Move.advance id : Move Attempt)).filterMap
      Move.context? = [] := fun count id => List.filterMap_replicate_of_none rfl
  simp only [level, List.filterMap_append, moves_contexts, advances, List.append_assoc,
    List.nil_append]
  rfl

theorem fresh_of_openings {db : Db} (payment : Payment)
    (opening : ∀ operation ∈ db.idempotencyRecords.map (fun record => record.scope.operationType),
      operation = .accountCreation) : payment.Fresh db := by
  intro operation kind
  refine Table.lookup_eq_none.mpr fun record among same => ?_
  have creation := opening _ (List.mem_map_of_mem among)
  rw [same] at creation
  obtain rfl : operation = .accountCreation := creation
  rcases kind with kind | kind <;> cases kind

theorem opened_row {db : Db} (keyed : Keyed db) {rows : List (Uuid × String × Int)}
    (opened : db.accounts.map (fun account =>
      (account.id, account.currency, account.balanceMinor.val)) = rows) :
    ∀ row ∈ rows, ∃ account, db.account? row.1 = some account ∧ account.currency = row.2.1 ∧
      account.balanceMinor.val = row.2.2 := by
  intro row member
  rw [← opened] at member
  obtain ⟨account, among, rfl⟩ := List.mem_map.mp member
  exact ⟨account, keyed.account among, rfl, rfl⟩

def poolPlans : List TransferPlan := accountPoolPlans 1 2 2 2 2

def poolIds : List Uuid := [resource 16, resource 32]

def poolPairs : List (Uuid × Uuid) :=
  [(resource 32, resource 16), (resource 16, resource 32), (resource 32, resource 16),
    (resource 16, resource 32)]

def poolOpenings : List Attempt :=
  [account 1 "benchmark-1-0" "USD" "100.00", account 2 "benchmark-1-1" "USD" "100.00"]

def poolPayments : List Payment :=
  [payment "benchmark-1-1" "benchmark-1-account-pool-warmup-0-1" 2 1 "1.00",
    payment "benchmark-1-0" "benchmark-1-account-pool-warmup-1-0" 1 2 "1.00",
    payment "benchmark-1-1" "benchmark-1-account-pool-measured-2-1" 2 1 "1.00",
    payment "benchmark-1-0" "benchmark-1-account-pool-measured-3-0" 1 2 "1.00"]

-- Both warm-up requests are given up; they would have moved a dollar there and back.
def poolLevel : List (Move Attempt) :=
  level
    (moves 100 (transfer 4 "benchmark-1-1" "benchmark-1-account-pool-warmup-0-1" 2 1 "1.00") 3 ++
      moves 101 (transfer 5 "benchmark-1-0" "benchmark-1-account-pool-warmup-1-0" 1 2 "1.00") 3)
    (transfer 6 "benchmark-1-1" "benchmark-1-account-pool-measured-2-1" 2 1 "1.00")
    (transfer 7 "benchmark-1-1" "benchmark-1-account-pool-measured-2-1" 2 1 "1.00")
    (transfer 8 "benchmark-1-0" "benchmark-1-account-pool-measured-3-0" 1 2 "1.00") 17

theorem poolLevel_asks : ∀ attempt ∈ poolLevel.filterMap Move.context?,
    ∃ payment ∈ poolPayments, attempt.Makes .reference payment := by
  have known : ∀ number ∈ [1, 2], Platform.reference.parseUuid (resource (16 * number)).hyphenated =
      some (resource (16 * number)) := by decide +kernel
  simp only [List.forall_mem_cons] at known
  obtain ⟨one, two, -⟩ := known
  rw [poolLevel, level_contexts, List.filterMap_append, moves_contexts, moves_contexts]
  simp only [List.cons_append, List.nil_append, List.forall_mem_cons]
  exact
    ⟨⟨_, .head _, transfer_makes 4 2 1 _ _ _ (by decide +kernel) ⟨two, one⟩ (by decide)⟩,
      ⟨_, .tail _ (.head _), transfer_makes 5 1 2 _ _ _ (by decide +kernel) ⟨one, two⟩ (by decide)⟩,
      ⟨_, .tail _ (.tail _ (.head _)),
        transfer_makes 6 2 1 _ _ _ (by decide +kernel) ⟨two, one⟩ (by decide)⟩,
      ⟨_, .tail _ (.tail _ (.head _)),
        transfer_makes 7 2 1 _ _ _ (by decide +kernel) ⟨two, one⟩ (by decide)⟩,
      ⟨_, .tail _ (.tail _ (.tail _ (.head _))),
        transfer_makes 8 1 2 _ _ _ (by decide +kernel) ⟨one, two⟩ (by decide)⟩, by simp⟩

end Sample

theorem account_pool_verdict_level : ∃ ledger : Ledger, ledger.history.length = 5 ∧
    ledger.store.transfers.length = 2 ∧
    ∀ payment ∈ Sample.poolPayments.drop 2, payment.Answered .reference ledger := by
  have idle := LedgerService.Sample.idle Sample.poolOpenings
  have reachable := LedgerService.Sample.reachable Sample.poolOpenings
  obtain ⟨rows, scopes⟩ : (LedgerService.Sample.ledger Sample.poolOpenings).store.accounts.map
      (fun account => (account.id, account.currency, account.balanceMinor.val)) =
        Sample.poolIds.map (fun id => (id, "USD", 10000)) ∧
      (LedgerService.Sample.ledger Sample.poolOpenings).store.idempotencyRecords.map
        (fun record => record.scope.operationType) = [.accountCreation, .accountCreation] := by
    decide +kernel
  have prepared :
      PoolPrepared (LedgerService.Sample.ledger Sample.poolOpenings).store 2 Sample.poolIds := by
    refine ⟨rfl, by decide, fun id member => ?_⟩
    have opened : (id, "USD", (10000 : Int)) ∈ Sample.poolIds.map (fun id => (id, "USD", 10000)) :=
      List.mem_map_of_mem member
    obtain ⟨account, found, currency, balance⟩ := Sample.opened_row reachable.keyed rows _ opened
    exact ⟨account, found, currency, balance⟩
  have evaluated : (((LedgerService.Sample.ledger Sample.poolOpenings).performAll (engine .reference)
      (handle .reference) Sample.poolLevel).map fun ledger : Ledger =>
        (ledger.history.length, ledger.store.transfers.length, (accountPool ledger.store
          Sample.poolIds (expectedPoolBalances 2 Sample.poolPlans) (Sample.poolPlans.drop 2)
            2).valid)) = some (5, 2, true) := by
    decide +kernel
  obtain ⟨ledger, performed, counted⟩ := Option.map_eq_some_iff.mp evaluated
  simp only [Prod.mk.injEq] at counted
  obtain ⟨events, transfers, valid⟩ := counted
  obtain ⟨labels, stands, run⟩ := System.performAll_stands idle.known performed
  have meant : payments Sample.poolPlans Sample.poolPairs = Sample.poolPayments := by
    decide +kernel
  have asked : ∀ id attempt, .begin id attempt ∈ labels →
      ∃ payment ∈ payments Sample.poolPlans Sample.poolPairs, attempt.Makes .reference payment := by
    intro id attempt began
    rw [meant]
    exact Sample.poolLevel_asks attempt (Move.Stands.mem_contexts stands began)
  obtain ⟨_, _, _, verdict⟩ :=
    @account_pool_verdict .reference _ ledger Sample.poolIds Sample.poolPairs Sample.poolPlans
      1 2 2 2 2 labels (by decide) (by decide) (by decide) reachable idle prepared rfl
      (by decide +kernel) (fun payment _ => Sample.fresh_of_openings payment (by simp [scopes])) run
      asked
  rw [meant] at verdict
  exact ⟨ledger, events, transfers, (verdict.mp valid).1⟩

end LedgerService.Benchmarks
