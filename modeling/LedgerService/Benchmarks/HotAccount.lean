import LedgerService.Benchmarks.Pairs

set_option autoImplicit false

namespace LedgerService.Benchmarks

open Bookkeeping Joins Transaction Traversals

/-- The accounts that `prepare` has opened: the sources of the phases and the destinations. -/
structure HotPrepared (db : Db) (measured : Nat) (sourceIds destinations : List Uuid) : Prop where
  distinct : (sourceIds ++ destinations).Nodup
  sources : ∀ id ∈ sourceIds, ∃ account, db.account? id = some account ∧ account.currency = "USD"
  funded : ∀ id, sourceIds[1]? = some id → ∃ account, db.account? id = some account ∧
    account.balanceMinor.val = (measured + 10) * 100
  destinations : ∀ id ∈ destinations, ∃ account, db.account? id = some account ∧
    account.currency = "USD" ∧ account.balanceMinor.val = 1000
  unused : ∀ transfer ∈ db.transfers, transfer.sourceAccountId ∉ sourceIds

structure Hot (sourceIds destinations : List Uuid) (warmup : Nat) (source : Uuid)
    (payments : List Payment) : Prop where
  sources : ∀ payment ∈ payments, payment.sourceAccountId ∈ sourceIds
  destinations : payments.map Payment.destinationAccountId = destinations
  shared : ∀ payment ∈ payments,
    (payment.sourceAccountId = source ↔ payment ∈ payments.drop warmup)
  place : sourceIds[1]? = some source

section Plans

variable {seed clients warmup measured : Nat} {plans : List TransferPlan}
  {accounts : List (Uuid × Uuid)} {sourceIds destinations : List Uuid}

theorem hot_plan_source {index : Nat} {result : TransferPlan}
    (planned : plan .hotAccount seed clients warmup index = some result) :
    result.source = if index < warmup then 0 else 1 := by
  simp only [plan, bind, Option.bind_some, Option.some.injEq] at planned
  rw [← planned, phaseName]
  by_cases early : index < warmup <;> simp [early]

theorem hot_getElem? (generated : Benchmarks.plans .hotAccount seed clients warmup measured = some plans)
    (paired : hotAccounts sourceIds destinations plans = some accounts) {index : Nat}
    {payment : Payment} (here : (payments plans accounts)[index]? = some payment) :
    sourceIds[if index < warmup then 0 else 1]? = some payment.sourceAccountId ∧
      destinations[index]? = some payment.destinationAccountId := by
  obtain ⟨plan, pair, planHere, pairHere, rfl⟩ := List.getElem?_zipWith_eq_some.mp here
  obtain ⟨index', ranged, planned⟩ := forall₂_getElem? (mapM_eq_some.mp generated) planHere
  obtain ⟨within, rfl⟩ := List.getElem?_eq_some_iff.mp ranged
  rw [List.getElem_range] at planned
  obtain ⟨zipped, zippedHere, found⟩ := forall₂_getElem? (mapM_eq_some.mp paired) pairHere
  obtain ⟨planThere, destinationHere⟩ := List.getElem?_zip_eq_some.mp zippedHere
  obtain rfl : zipped.1 = plan := Option.some.inj (planThere.symm.trans planHere)
  simp only [bind, Option.bind_eq_some_iff, Option.some.injEq] at found
  obtain ⟨source, sourceHere, rfl⟩ := found
  rw [hot_plan_source planned] at sourceHere
  exact ⟨sourceHere, destinationHere⟩

theorem hot (distinct : sourceIds.Nodup)
    (generated : Benchmarks.plans .hotAccount seed clients warmup measured = some plans)
    (paired : hotAccounts sourceIds destinations plans = some accounts)
    (sized : destinations.length = plans.length) (length : plans.length = accounts.length)
    {pair : Uuid × Uuid} (first : accounts[warmup]? = some pair) :
    Hot sourceIds destinations warmup pair.1 (payments plans accounts) := by
  have each := fun {index payment} => @hot_getElem? _ _ _ _ _ _ _ _ generated paired index payment
  have counted : (payments plans accounts).length = destinations.length := by
    rw [payments, List.length_zipWith, ← length, Nat.min_self, sized]
  have late : ∀ index payment, (payments plans accounts)[index]? = some payment → warmup ≤ index →
      sourceIds[1]? = some payment.sourceAccountId := by
    intro index payment here measuring
    have source := (each here).1
    rwa [if_neg (Nat.not_lt.mpr measuring)] at source
  have place : sourceIds[1]? = some pair.1 := by
    have within := (List.getElem?_eq_some_iff.mp first).1
    obtain ⟨plan, planned⟩ : ∃ plan, plans[warmup]? = some plan :=
      ⟨_, List.getElem?_eq_getElem (length ▸ within)⟩
    exact late warmup ⟨plan.owner, plan.key, pair.1, pair.2, "1.00"⟩
      (List.getElem?_zipWith_eq_some.mpr ⟨plan, pair, planned, first, rfl⟩) le_rfl
  refine ⟨?_, ?_, ?_, place⟩
  · intro payment member
    obtain ⟨index, here⟩ := List.mem_iff_getElem?.mp member
    exact List.mem_of_getElem? (each here).1
  · apply List.ext_getElem?
    intro index
    rw [List.getElem?_map]
    cases here : (payments plans accounts)[index]? with
    | none =>
      rw [List.getElem?_eq_none_iff, counted] at here
      exact (List.getElem?_eq_none_iff.mpr here).symm
    | some payment => exact (each here).2.symm
  · intro payment member
    constructor
    · intro same
      obtain ⟨index, here⟩ := List.mem_iff_getElem?.mp member
      by_cases early : index < warmup
      · -- The source of the warm-up is another account.
        have source := (each here).1
        rw [if_pos early, same, ← place] at source
        have within := (List.getElem?_eq_some_iff.mp place).1
        cases (List.getElem?_inj (by omega) distinct).mp source
      · refine List.mem_iff_getElem?.mpr ⟨index - warmup, ?_⟩
        rwa [List.getElem?_drop, Nat.add_sub_cancel' (Nat.not_lt.mp early)]
    · intro later
      obtain ⟨index, here⟩ := List.mem_iff_getElem?.mp later
      rw [List.getElem?_drop] at here
      exact Option.some.inj ((late _ _ here (Nat.le_add_right _ _)).symm.trans place)

end Plans

section Verdict

variable {platform : Platform} {before ledger : Ledger} {payments done : List Payment}
  {made : List Transfer} {labels : List (Label sql Attempt Operator)} {warmup measured : Nat}
  {sourceIds destinations : List Uuid} {source : Uuid}

theorem flow_shared {debit credit : Int}
    (crossing : ∀ payment ∈ done, payment.destinationAccountId ≠ source) :
    flow (Payment.movement debit credit) done source =
      -debit * (done.filter fun payment => payment.sourceAccountId = source).length := by
  induction done with
  | nil => simp
  | cons payment done ih =>
    have later := ih fun other member => crossing other (List.mem_cons_of_mem _ member)
    have other := crossing payment List.mem_cons_self
    have cons : flow (Payment.movement debit credit) (payment :: done) source =
        (payment.movement debit credit).on source +
          flow (Payment.movement debit credit) done source := by
      simp [flow]
    rw [cons, later]
    by_cases mine : payment.sourceAccountId = source
    · simp only [Movement.on, Payment.movement, mine, other, if_true, if_false, List.filter_cons,
        decide_true, List.length_cons, Nat.cast_add, Nat.cast_one]
      ring
    · simp [Movement.on, Payment.movement, mine, other]

theorem HotPrepared.ordinary (reachable : before.Reachable platform)
    (prepared : HotPrepared before.store measured sourceIds destinations)
    (hot : Hot sourceIds destinations warmup source payments)
    (amounts : ∀ payment ∈ payments, payment.amount = "1.00") :
    ∀ payment ∈ payments, payment.Ordinary before.store 100 := by
  intro payment member
  obtain ⟨source, sourceFound, currency⟩ := prepared.sources _ (hot.sources payment member)
  obtain ⟨destination, destinationFound, currency', _⟩ := prepared.destinations
    payment.destinationAccountId (hot.destinations ▸ List.mem_map_of_mem member)
  refine ⟨source, destination, sourceFound, destinationFound, currency.trans currency'.symm, ?_⟩
  rw [amounts payment member]
  exact dollar (reachable.listed sourceFound) currency

theorem Hot.crossing (hot : Hot sourceIds destinations warmup source payments)
    (distinct : (sourceIds ++ destinations).Nodup) : ∀ payment ∈ payments, ∀ other ∈ payments,
      payment.sourceAccountId ≠ other.destinationAccountId := by
  intro payment member other among
  exact (List.nodup_append.mp distinct).2.2 _ (hot.sources payment member) _
    (hot.destinations ▸ List.mem_map_of_mem among)

theorem Hot.untouched (hot : Hot sourceIds destinations warmup source payments)
    (distinct : (sourceIds ++ destinations).Nodup) :
    ∀ payment ∈ payments, payment.destinationAccountId ≠ source := by
  intro payment member
  exact ((List.nodup_append.mp distinct).2.2 _ (List.mem_of_getElem? hot.place) _
    (hot.destinations ▸ List.mem_map_of_mem member)).symm

theorem evaluateHot_valid {committed entries duplicates : Int} {rows : List (Uuid × Int)}
    {ids : List Uuid} {expected : Nat} :
    (evaluateHot committed entries duplicates rows source ids expected).valid = true ↔
      committed = asI64 expected ∧ entries = wrapI64 (asI64 expected * 2) ∧ duplicates = 0 ∧
      rows.lookup source = some 1000 ∧ (∀ id ∈ ids, rows.lookup id = some 1100) ∧
      wrapI64 (rows.map Prod.snd).sum = wrapI64 (wrapI64 (asI64 expected * 1100) + 1000) ∧
      ∀ balance ∈ rows.map Prod.snd, 0 ≤ balance := by
  simp only [evaluateHot, finish, check, committedTransfers, twoEntries, noUnexpectedOverdrafts,
    List.all_cons, List.all_nil, Bool.and_eq_true, decide_eq_true_eq, List.all_eq_true, Bool.and_true]

def hotBalance (done : List Payment) (measured : Nat) (source id : Uuid) : Int :=
  if id = source then
    (measured + 10) * 100 - 100 *
      ((done.filter fun payment => payment.sourceAccountId = source).length : Int)
  else if done.any fun payment => payment.destinationAccountId = id then 1100 else 1000

variable (reachable : before.Reachable platform) (run : Ledger.Run platform before labels ledger)
  (progress : Progress platform payments before ledger done made)
  (uniform : Uniform .transfer 100 100 done made)
  (prepared : HotPrepared before.store measured sourceIds destinations)
  (hot : Hot sourceIds destinations warmup source payments)
include reachable run progress uniform prepared hot

theorem hot_balances : ∀ id ∈ (payments.drop warmup).map Payment.destinationAccountId ++ [source],
    ∃ row, ledger.store.account? id = some row ∧
      row.balanceMinor.val = hotBalance done measured source id := by
  have crossing := hot.crossing prepared.distinct
  intro id member
  rcases List.mem_append.mp member with destination | shared
  · obtain ⟨payment, among, rfl⟩ := List.mem_map.mp destination
    have there := List.mem_of_mem_drop among
    obtain ⟨account, found, _, held⟩ := prepared.destinations
      payment.destinationAccountId (hot.destinations ▸ List.mem_map_of_mem there)
    obtain ⟨row, rowFound, balance⟩ := progress.balance reachable run found
    have apart : payment.destinationAccountId ≠ source := by
      rw [← (hot.shared payment there).mpr among]
      exact (crossing payment there payment there).symm
    have distinct : (payments.map Payment.destinationAccountId).Nodup :=
      hot.destinations ▸ (List.nodup_append.mp prepared.distinct).2.1
    -- Each destination is of one payment only.
    have listed : (done.any fun other =>
        other.destinationAccountId = payment.destinationAccountId) = true ↔ payment ∈ done := by
      rw [List.any_eq_true]
      constructor
      · rintro ⟨other, here, same⟩
        obtain rfl := List.inj_on_of_nodup_map distinct (progress.within here) there
          (of_decide_eq_true same)
        exact here
      · exact fun here => ⟨payment, here, decide_eq_true rfl⟩
    rw [progress.flow_made uniform, held,
      flow_destination progress.within progress.once crossing distinct there] at balance
    refine ⟨row, rowFound, ?_⟩
    simp only [hotBalance, if_neg apart, listed, balance]
    split <;> rfl
  · obtain rfl := List.mem_singleton.mp shared
    obtain ⟨account, found, held⟩ := prepared.funded _ hot.place
    obtain ⟨row, rowFound, balance⟩ := progress.balance reachable run found
    have untouched := fun payment (member : payment ∈ done) =>
      hot.untouched prepared.distinct payment (progress.within member)
    rw [progress.flow_made uniform, held, flow_shared untouched] at balance
    refine ⟨row, rowFound, ?_⟩
    rw [hotBalance, if_pos rfl, balance, sub_eq_add_neg, Int.neg_mul]

theorem hotAccount_valid (length : (payments.drop warmup).length = measured)
    (few : measured < 2 ^ 62) :
    (hotAccount ledger.store source ((payments.drop warmup).map Payment.destinationAccountId)
      measured).valid = true ↔ payments.drop warmup ⊆ done := by
  have last := reachable.run run
  have held := hot_balances reachable run progress uniform prepared hot
  have destinations_nodup : (payments.map Payment.destinationAccountId).Nodup :=
    hot.destinations ▸ (List.nodup_append.mp prepared.distinct).2.1
  have distinct := List.Nodup.of_map _ destinations_nodup
  have ids : ((payments.drop warmup).map Payment.destinationAccountId ++ [source]).Nodup := by
    refine List.nodup_append.mpr ⟨?_, List.nodup_singleton _, ?_⟩
    · rw [List.map_drop]
      exact destinations_nodup.sublist (List.drop_sublist _ _)
    · intro id destination other shared
      obtain ⟨payment, among, rfl⟩ := List.mem_map.mp destination
      obtain rfl := List.mem_singleton.mp shared
      exact hot.untouched prepared.distinct payment (List.mem_of_mem_drop among)
  have rows := balances_perm last.keyed ids held
  have read : ∀ id ∈ (payments.drop warmup).map Payment.destinationAccountId ++ [source],
      (balances ledger.store ((payments.drop warmup).map Payment.destinationAccountId ++
        [source])).lookup id = some (hotBalance done measured source id) := by
    intro id member
    obtain ⟨row, found, balance⟩ := held id member
    rw [lookup_balances last.keyed member found, balance]
  have untouched : ∀ payment ∈ payments.drop warmup, payment.destinationAccountId ≠ source :=
    fun payment member => hot.untouched prepared.distinct payment (List.mem_of_mem_drop member)
  rw [hotAccount, evaluateHot_valid]
  constructor
  · rintro ⟨_, _, _, _, received, _, _⟩ payment member
    -- A destination that was not paid still holds its 10.00.
    have among := List.mem_map_of_mem (f := Payment.destinationAccountId) member
    have balance := received _ among
    rw [read _ (List.mem_append_left _ among), Option.some.injEq, hotBalance,
      if_neg (untouched payment member)] at balance
    split at balance
    · rename_i again
      obtain ⟨other, here, same⟩ := List.any_eq_true.mp again
      obtain rfl := List.inj_on_of_nodup_map destinations_nodup (progress.within here)
        (List.mem_of_mem_drop member) (of_decide_eq_true same)
      exact here
    · cases balance
  · intro all
    -- Every measured payment took a dollar, so 10.00 are left on the shared source.
    have exactly : ∀ payment ∈ payments,
        (payment.sourceAccountId ∈ [source] ↔ payment ∈ payments.drop warmup) := by
      intro payment member
      rw [List.mem_singleton]
      exact hot.shared payment member
    have mine := measured_perm progress distinct exactly all
    have unused : ∀ transfer ∈ before.store.transfers, transfer.sourceAccountId ∉ [source] := by
      intro transfer member among
      obtain same := List.mem_singleton.mp among
      exact prepared.unused transfer member (same ▸ List.mem_of_getElem? hot.place)
    have left : hotBalance done measured source source = 1000 := by
      have shared := mine.length_eq
      simp only [List.mem_singleton] at shared
      rw [hotBalance, if_pos rfl, shared, length]
      ring
    have received : ∀ id ∈ (payments.drop warmup).map Payment.destinationAccountId,
        hotBalance done measured source id = 1100 := by
      intro id member
      obtain ⟨payment, among, rfl⟩ := List.mem_map.mp member
      rw [hotBalance, if_neg (untouched payment among),
        if_pos (List.any_eq_true.mpr ⟨payment, all among, decide_eq_true rfl⟩)]
    have values : ((balances ledger.store ((payments.drop warmup).map Payment.destinationAccountId ++
        [source])).map Prod.snd).Perm (List.replicate measured 1100 ++ [1000]) := by
      have same := rows.map Prod.snd
      rw [List.map_map, List.map_append] at same
      refine same.trans (.of_eq ?_)
      have each : ((payments.drop warmup).map Payment.destinationAccountId).map
          (Prod.snd ∘ fun id => (id, hotBalance done measured source id)) =
            List.replicate measured 1100 := by
        rw [List.eq_replicate_iff, List.length_map, List.length_map]
        refine ⟨length, fun balance among => ?_⟩
        obtain ⟨id, here, rfl⟩ := List.mem_map.mp among
        exact received id here
      rw [each, List.map_singleton, Function.comp_apply, left]
    refine ⟨?_, ?_, ?_, ?_, ?_, ?_, ?_⟩
    · rw [transferCount, kindCount_made progress unused uniform, mine.length_eq, length,
        asI64_few few]
    · rw [entryCount_made progress unused last, mine.length_eq, length, asI64_few few,
        wrapI64_few few, Int.mul_comm]
    · apply duplicateGroups_made progress unused
      · exact fun payment transfer among => (progress.settled_zip among).destination
      · rw [(mine.map _).nodup_iff, List.map_drop]
        exact destinations_nodup.sublist (List.drop_sublist _ _)
    · rw [read source (by simp), left]
    · intro id member
      rw [read id (List.mem_append_left _ member), received id member]
    · rw [values.sum_eq, asI64_few few]
      simp only [wrapI64, Int.bmod_add_bmod, List.sum_append, List.sum_replicate, List.sum_singleton,
        nsmul_eq_mul]
    · intro balance member
      have among := values.mem_iff.mp member
      simp only [List.mem_append, List.mem_replicate, List.mem_singleton] at among
      omega

end Verdict

namespace Sample

open LedgerService.Sample

-- The sources of the phases, and a destination for each plan.
def sharedOpenings : List Attempt :=
  [opening 1 "a" "USD" "10.00", opening 2 "b" "USD" "12.00", opening 3 "c" "USD" "10.00",
    opening 4 "d" "USD" "10.00", opening 5 "e" "USD" "10.00"]

def sharedSources : List Uuid := [resource 16, resource 32]

def sharedDestinations : List Uuid := [resource 48, resource 64, resource 80]

def sharedAccounts : List (Uuid × Uuid) :=
  [(resource 16, resource 48), (resource 32, resource 64), (resource 32, resource 80)]

theorem shared_opened :
    HotPrepared (ledger sharedOpenings).store 2 sharedSources sharedDestinations ∧
      ∀ payment : Payment, payment.Fresh (ledger sharedOpenings).store := by
  have opened : ((ledger sharedOpenings).store.accounts.map (fun account =>
        (account.id, account.currency, account.balanceMinor.val)),
      (ledger sharedOpenings).store.idempotencyRecords.map (fun record =>
        record.scope.operationType), (ledger sharedOpenings).store.transfers) =
      ([(resource 16, "USD", 1000), (resource 32, "USD", 1200), (resource 48, "USD", 1000),
        (resource 64, "USD", 1000), (resource 80, "USD", 1000)],
        List.replicate 5 .accountCreation, []) := by
    decide +kernel
  simp only [Prod.mk.injEq] at opened
  obtain ⟨rows, scopes, transfers⟩ := opened
  have found := opened_row (LedgerService.Sample.reachable sharedOpenings).keyed rows
  simp only [List.forall_mem_cons] at found
  obtain ⟨warming, shared, received, received', received'', -⟩ := found
  refine ⟨⟨by decide, ?_, ?_, ?_, by simp [transfers]⟩, ?_⟩
  · obtain ⟨account, here, currency, _⟩ := warming
    obtain ⟨account', here', currency', _⟩ := shared
    simp only [sharedSources, List.forall_mem_cons]
    exact ⟨⟨account, here, currency⟩, ⟨account', here', currency'⟩, by simp⟩
  · rintro id place
    obtain rfl : resource 32 = id := Option.some.inj place
    obtain ⟨account, here, _, funds⟩ := shared
    exact ⟨account, here, funds⟩
  · simp only [sharedDestinations, List.forall_mem_cons]
    exact ⟨received, received', received'', by simp⟩
  · intro payment
    exact fresh_of_openings payment (by simp [scopes])

end Sample

/-- A level on a hot account is valid if and only if every measured transfer was made. -/
theorem hot_account_verdict {platform : Platform} {before ledger : Ledger}
    {plans : List TransferPlan} {accounts : List (Uuid × Uuid)} {pair : Uuid × Uuid}
    {sourceIds destinations : List Uuid} {seed clients warmup measured : Nat}
    {labels : List (Label sql Attempt Operator)}
    (few : measured < 2 ^ 62) (counted : warmup + measured < 2 ^ 64)
    (reachable : before.Reachable platform) (idle : before.Idle)
    (generated : Benchmarks.plans .hotAccount seed clients warmup measured = some plans)
    (sized : destinations.length = plans.length)
    (paired : hotAccounts sourceIds destinations plans = some accounts)
    (prepared : HotPrepared before.store measured sourceIds destinations)
    (first : accounts[warmup]? = some pair)
    (fresh : ∀ payment ∈ payments plans accounts, payment.Fresh before.store)
    (run : Ledger.Run platform before labels ledger)
    (asked : ∀ id attempt, .begin id attempt ∈ labels →
      ∃ payment ∈ payments plans accounts, attempt.Makes platform payment) :
    (hotAccount ledger.store pair.1 ((accounts.drop warmup).map Prod.snd) measured).valid = true ↔
      ∀ payment ∈ (payments plans accounts).drop warmup, payment.Answered platform ledger := by
  have length : plans.length = accounts.length := by
    rw [← (mapM_eq_some.mp paired).length_eq, List.length_zip, sized, Nat.min_self]
  obtain ⟨done, made, progress, answered⟩ := Progress.run_answered reachable idle
    (payments_keys length ▸ plans_keys_nodup generated) fresh run asked
  have number := measured_payments counted generated length
  have amounts : ∀ payment ∈ payments plans accounts, payment.amount = "1.00" :=
    fun payment member => payments_amount member
  have shared := hot (List.nodup_append.mp prepared.distinct).1 generated paired sized length first
  have uniform := progress.uniform (prepared.ordinary reachable shared amounts)
    (reachable.run run) (reachable.run_evolves run)
  have received : (accounts.drop warmup).map Prod.snd =
      ((payments plans accounts).drop warmup).map Payment.destinationAccountId := by
    conv_lhs => rw [← payments_pairs length, ← List.map_drop, List.map_map]
    rfl
  rw [received, hotAccount_valid reachable run progress uniform prepared shared number few]
  exact forall₂_congr fun payment member => answered payment (List.mem_of_mem_drop member)

theorem hot_account_verdict_level : ∃ ledger : Ledger, ledger.history.length = 8 ∧
    ledger.store.transfers.length = 2 ∧
    ∀ payment ∈ (Sample.threePayments (1, 3) (2, 4) (2, 5)).drop 1,
      payment.Answered .reference ledger := by
  have idle := LedgerService.Sample.idle Sample.sharedOpenings
  obtain ⟨prepared, fresh⟩ := Sample.shared_opened
  have evaluated : ((LedgerService.Sample.ledger Sample.sharedOpenings).performAll
      (engine .reference) (handle .reference)
      (Sample.threeRequests (1, 3) (2, 4) (2, 5) 17)).map (fun ledger : Ledger =>
        (ledger.history.length, ledger.store.transfers.length,
          (hotAccount ledger.store (LedgerService.Sample.resource 32)
            ((Sample.sharedAccounts.drop 1).map Prod.snd) 2).valid)) = some (8, 2, true) := by
    decide +kernel
  obtain ⟨ledger, performed, counted⟩ := Option.map_eq_some_iff.mp evaluated
  simp only [Prod.mk.injEq] at counted
  obtain ⟨events, transfers, valid⟩ := counted
  obtain ⟨labels, stands, run⟩ := System.performAll_stands idle.known performed
  obtain ⟨plans, generated, sized, paired, meant⟩ : ∃ plans,
      Benchmarks.plans .hotAccount 1 1 1 2 = some plans ∧
      Sample.sharedDestinations.length = plans.length ∧
      hotAccounts Sample.sharedSources Sample.sharedDestinations plans =
        some Sample.sharedAccounts ∧
      payments plans Sample.sharedAccounts = Sample.threePayments (1, 3) (2, 4) (2, 5) :=
    ⟨_, rfl, rfl, rfl, by decide +kernel⟩
  have asks := @Sample.threeRequests_asks (1, 3) (2, 4) (2, 5) 17 (by decide +kernel)
  have verdict := hot_account_verdict (by decide) (by decide)
    (LedgerService.Sample.reachable Sample.sharedOpenings) idle generated sized paired prepared rfl
    (fun payment _ => fresh payment) run fun id attempt began =>
      meant ▸ asks attempt (Move.Stands.mem_contexts stands began)
  rw [meant] at verdict
  exact ⟨ledger, events, transfers, verdict.mp valid⟩

end LedgerService.Benchmarks
