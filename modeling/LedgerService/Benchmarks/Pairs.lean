import LedgerService.Benchmarks.Verdicts

set_option autoImplicit false

namespace LedgerService.Benchmarks

open Bookkeeping Joins Transaction Traversals

theorem length_entries {transfers : List Transfer} {entries : List AccountEntry}
    (booked : Booked transfers entries) (unique : (transfers.map Transfer.id).Nodup)
    (keep : Transfer → Bool) :
    (entries.filter fun entry => entry.transferId ∈ (transfers.filter keep).map Transfer.id).length =
      2 * (transfers.filter keep).length := by
  induction booked with
  | none => rfl
  | @booked transfers entries before transfer debit credit ih =>
    rw [List.map_append, List.nodup_append] at unique
    obtain ⟨earlier, _, apart⟩ := unique
    have old : ∀ entry ∈ entries, entry.transferId ≠ transfer.id := fun entry member =>
      apart _ (before.transferId_mem member) transfer.id (by simp)
    have debited : (transfer.debitEntry debit).transferId = transfer.id := rfl
    have credited : (transfer.creditEntry credit).transferId = transfer.id := rfl
    have absent : transfer.id ∉ (transfers.filter keep).map Transfer.id := by
      intro member
      obtain ⟨other, among, same⟩ := List.mem_map.mp member
      exact apart _ (List.mem_map_of_mem (List.mem_of_mem_filter among)) transfer.id (by simp) same
    have kept : (entries.filter fun entry =>
        entry.transferId ∈ ((transfers ++ [transfer]).filter keep).map Transfer.id).length =
          2 * (transfers.filter keep).length := by
      rw [← ih earlier]
      congr 1
      apply List.filter_congr
      intro entry member
      cases chosen : keep transfer <;> simp [chosen, old entry member]
    rw [List.filter_append, List.filter_append, List.length_append, List.length_append, kept]
    cases chosen : keep transfer with
    | false =>
      simp only [List.filter_append, List.filter_cons, chosen, Bool.false_eq_true, if_false,
        List.filter_nil, List.append_nil, debited, credited, absent, decide_false, List.length_nil]
      omega
    | true =>
      simp only [List.filter_append, List.filter_cons, chosen, if_true, List.filter_nil,
        List.map_append, List.map_cons, List.map_nil, List.mem_append, List.mem_singleton, debited,
        credited, or_true, decide_true, List.length_append, List.length_cons, List.length_nil]
      omega

theorem asI64_few {count : Nat} (few : count < 2 ^ 62) : asI64 count = count := by
  rw [asI64, wrapI64, Int.bmod_eq_of_le] <;> omega

theorem wrapI64_few {count : Nat} (few : count < 2 ^ 62) : wrapI64 (count * 2) = count * 2 := by
  rw [wrapI64, Int.bmod_eq_of_le] <;> omega

section Counts

variable {platform : Platform} {before ledger : Ledger} {payments done : List Payment}
  {made : List Transfer} {sources : List Uuid}

theorem fromSources_made (progress : Progress platform payments before ledger done made)
    (unused : ∀ transfer ∈ before.store.transfers, transfer.sourceAccountId ∉ sources) :
    fromSources ledger.store sources =
      ((done.zip made).filter fun pair => pair.1.sourceAccountId ∈ sources).map Prod.snd := by
  have none : before.store.transfers.filter (fun transfer => transfer.sourceAccountId ∈ sources) =
      [] := by
    rw [List.filter_eq_nil_iff]
    exact fun transfer member chosen => unused transfer member (of_decide_eq_true chosen)
  have same : (done.zip made).filter (fun pair => pair.1.sourceAccountId ∈ sources) =
      (done.zip made).filter fun pair => pair.2.sourceAccountId ∈ sources := by
    apply List.filter_congr
    rintro ⟨payment, transfer⟩ among
    rw [(progress.settled_zip among).source]
  conv_lhs =>
    rw [fromSources, progress.transfers, List.filter_append, none, List.nil_append, ← progress.snd_zip,
      List.filter_map]
  rw [same]
  rfl

theorem fst_made (progress : Progress platform payments before ledger done made) :
    ((done.zip made).filter fun pair => pair.1.sourceAccountId ∈ sources).map Prod.fst =
      done.filter fun payment => payment.sourceAccountId ∈ sources := by
  conv_rhs => rw [← progress.fst_zip, List.filter_map]
  rfl

variable {kind : TransferKind} {debit credit : Int}

theorem kindCount_made (progress : Progress platform payments before ledger done made)
    (unused : ∀ transfer ∈ before.store.transfers, transfer.sourceAccountId ∉ sources)
    (uniform : Uniform kind debit credit done made) :
    kindCount ledger.store kind sources =
      (done.filter fun payment => payment.sourceAccountId ∈ sources).length := by
  have all : (fromSources ledger.store sources).filter (fun transfer => transfer.kind = kind) =
      fromSources ledger.store sources := by
    rw [List.filter_eq_self, fromSources_made progress unused]
    intro transfer member
    obtain ⟨pair, among, rfl⟩ := List.mem_map.mp member
    exact decide_eq_true (uniform _ _ (List.mem_of_mem_filter among)).1
  rw [kindCount, all, fromSources_made progress unused, ← fst_made progress, List.length_map,
    List.length_map]

theorem entryCount_made (progress : Progress platform payments before ledger done made)
    (unused : ∀ transfer ∈ before.store.transfers, transfer.sourceAccountId ∉ sources)
    (reachable : ledger.Reachable platform) :
    entryCount ledger.store sources =
      2 * (done.filter fun payment => payment.sourceAccountId ∈ sources).length := by
  have twice := length_entries reachable.booked reachable.keyed.transfers fun transfer =>
    decide (transfer.sourceAccountId ∈ sources)
  have mine : (fromSources ledger.store sources).length =
      (done.filter fun payment => payment.sourceAccountId ∈ sources).length := by
    rw [fromSources_made progress unused, ← fst_made progress, List.length_map, List.length_map]
  rw [fromSources] at mine
  rw [entryCount, fromSources, twice, mine]
  rfl

theorem duplicateGroups_made (progress : Progress platform payments before ledger done made)
    (unused : ∀ transfer ∈ before.store.transfers, transfer.sourceAccountId ∉ sources)
    {column : Transfer → Uuid} {side : Payment → Uuid}
    (read : ∀ payment transfer, (payment, transfer) ∈ done.zip made → column transfer = side payment)
    (distinct : ((done.filter fun payment => payment.sourceAccountId ∈ sources).map side).Nodup) :
    duplicateGroups ledger.store column sources = 0 := by
  have columns : (fromSources ledger.store sources).map column =
      (done.filter fun payment => payment.sourceAccountId ∈ sources).map side := by
    rw [fromSources_made progress unused, ← fst_made progress, List.map_map, List.map_map]
    apply List.map_congr_left
    rintro ⟨payment, transfer⟩ member
    exact read _ _ (List.mem_of_mem_filter member)
  rw [← columns] at distinct
  have none : (groupBy column (fromSources ledger.store sources)).filter
      (fun group => 1 < group.2.length) = [] := by
    rw [List.filter_eq_nil_iff]
    intro group member many
    exact Nat.not_lt.mpr (groupBy_single distinct group member) (of_decide_eq_true many)
  rw [duplicateGroups, none]
  rfl

end Counts

section Payments

variable {plans : List TransferPlan} {accounts : List (Uuid × Uuid)}

theorem payments_pairs (same : plans.length = accounts.length) :
    (payments plans accounts).map (fun payment =>
      (payment.sourceAccountId, payment.destinationAccountId)) = accounts := by
  induction plans generalizing accounts with
  | nil => exact (List.length_eq_zero_iff.mp same.symm).symm
  | cons plan plans ih =>
    cases accounts with
    | nil => cases same
    | cons pair accounts =>
      rw [payments, List.zipWith_cons_cons, List.map_cons, ← payments, ih (Nat.succ.inj same)]

theorem payments_keys (same : plans.length = accounts.length) :
    (payments plans accounts).map Payment.idempotencyKey = plans.map TransferPlan.key := by
  induction plans generalizing accounts with
  | nil => rfl
  | cons plan plans ih =>
    cases accounts with
    | nil => cases same
    | cons pair accounts =>
      rw [payments, List.zipWith_cons_cons, List.map_cons, ← payments, ih (Nat.succ.inj same),
        List.map_cons]

theorem payments_amount {payment : Payment} (member : payment ∈ payments plans accounts) :
    payment.amount = "1.00" := by
  induction plans generalizing accounts with
  | nil => cases member
  | cons plan plans ih =>
    cases accounts with
    | nil => cases member
    | cons pair accounts =>
      rcases List.mem_cons.mp member with rfl | later
      · rfl
      · exact ih later

end Payments

section Moved

variable {payments done : List Payment} {debit credit : Int}

variable (within : done ⊆ payments) (once : done.Nodup)
  (crossing : ∀ payment ∈ payments, ∀ other ∈ payments,
    payment.sourceAccountId ≠ other.destinationAccountId)
include within once crossing

theorem flow_source (sources : (payments.map Payment.sourceAccountId).Nodup) {payment : Payment}
    (member : payment ∈ payments) :
    flow (Payment.movement debit credit) done payment.sourceAccountId =
      if payment ∈ done then -debit else 0 := by
  have others : ∀ other ∈ done, other ≠ payment →
      (other.movement debit credit).on payment.sourceAccountId = 0 := by
    intro other among different
    refine Movement.on_of_untouched _ _ (fun same => different ?_)
      (crossing payment member other (within among)).symm
    exact List.inj_on_of_nodup_map sources (within among) member same
  by_cases made : payment ∈ done
  · rw [flow_eq_on once made others, if_pos made]
    exact Movement.on_source _ (crossing payment member payment member)
  · rw [if_neg made]
    refine flow_eq_zero fun other among => others other among ?_
    rintro rfl
    exact made among

theorem flow_destination (destinations : (payments.map Payment.destinationAccountId).Nodup)
    {payment : Payment} (member : payment ∈ payments) :
    flow (Payment.movement debit credit) done payment.destinationAccountId =
      if payment ∈ done then credit else 0 := by
  have others : ∀ other ∈ done, other ≠ payment →
      (other.movement debit credit).on payment.destinationAccountId = 0 := by
    intro other among different
    refine Movement.on_of_untouched _ _ (crossing other (within among) payment member)
      (fun same => different ?_)
    exact List.inj_on_of_nodup_map destinations (within among) member same
  by_cases made : payment ∈ done
  · rw [flow_eq_on once made others, if_pos made]
    exact Movement.on_destination _ (crossing payment member payment member)
  · rw [if_neg made]
    refine flow_eq_zero fun other among => others other among ?_
    rintro rfl
    exact made among

end Moved

/-- The accounts of the plans, as `prepare` has opened them: each serves one plan, on one side, and
nothing was paid from it. -/
structure PairsPrepared (db : Db) (accounts : List (Uuid × Uuid)) (currency currency' : String)
    (held held' : Int) : Prop where
  distinct : (accounts.map Prod.fst ++ accounts.map Prod.snd).Nodup
  sources : ∀ pair ∈ accounts, ∃ account, db.account? pair.1 = some account ∧
    account.currency = currency ∧ account.balanceMinor.val = held
  destinations : ∀ pair ∈ accounts, ∃ account, db.account? pair.2 = some account ∧
    account.currency = currency' ∧ account.balanceMinor.val = held'
  unused : ∀ transfer ∈ db.transfers, transfer.sourceAccountId ∉ accounts.map Prod.fst

section Verdict

variable {platform : Platform} {before ledger : Ledger} {payments done : List Payment}
  {made : List Transfer} {labels : List (Label sql Attempt Operator)} {kind : TransferKind}
  {debit credit held held' : Int} {currency currency' : String} {warmup : Nat}

def pairsOf (payments : List Payment) : List (Uuid × Uuid) :=
  payments.map fun payment => (payment.sourceAccountId, payment.destinationAccountId)

theorem PairsPrepared.sides
    (prepared : PairsPrepared before.store (pairsOf payments) currency currency' held held') :
    (payments.map Payment.sourceAccountId).Nodup ∧
      (payments.map Payment.destinationAccountId).Nodup ∧
      ∀ payment ∈ payments, ∀ other ∈ payments,
        payment.sourceAccountId ≠ other.destinationAccountId := by
  have distinct := prepared.distinct
  rw [pairsOf, List.map_map, List.map_map, List.nodup_append] at distinct
  exact ⟨distinct.1, distinct.2.1, fun payment member other among =>
    distinct.2.2 _ (List.mem_map_of_mem member) _ (List.mem_map_of_mem among)⟩

theorem measured_perm (progress : Progress platform payments before ledger done made)
    (distinct : payments.Nodup) {sources : List Uuid}
    (exactly : ∀ payment ∈ payments,
      (payment.sourceAccountId ∈ sources ↔ payment ∈ payments.drop warmup))
    (all : payments.drop warmup ⊆ done) :
    (done.filter fun payment => payment.sourceAccountId ∈ sources).Perm (payments.drop warmup) := by
  rw [List.perm_ext_iff_of_nodup (progress.once.filter _) (distinct.sublist (List.drop_sublist _ _))]
  intro payment
  rw [List.mem_filter, decide_eq_true_eq]
  constructor
  · exact fun both => (exactly payment (progress.within both.1)).mp both.2
  · exact fun member => ⟨all member, (exactly payment (List.mem_of_mem_drop member)).mpr member⟩

theorem made_perm (progress : Progress platform payments before ledger done made)
    (prepared : PairsPrepared before.store (pairsOf payments) currency currency' held held')
    (all : payments.drop warmup ⊆ done) :
    (done.filter fun payment => payment.sourceAccountId ∈
      (pairsOf (payments.drop warmup)).map Prod.fst).Perm (payments.drop warmup) := by
  have sources := prepared.sides.1
  refine measured_perm progress (List.Nodup.of_map _ sources) (fun payment member => ?_) all
  rw [pairsOf, List.map_map]
  constructor
  · intro source
    obtain ⟨other, among, same⟩ := List.mem_map.mp source
    obtain rfl := List.inj_on_of_nodup_map sources (List.mem_of_mem_drop among) member same
    exact among
  · exact fun among => List.mem_map_of_mem (f := Prod.fst ∘ fun payment : Payment =>
      (payment.sourceAccountId, payment.destinationAccountId)) among

theorem PairsPrepared.unused_drop
    (prepared : PairsPrepared before.store (pairsOf payments) currency currency' held held')
    (warmup : Nat) : ∀ transfer ∈ before.store.transfers,
    transfer.sourceAccountId ∉ (pairsOf (payments.drop warmup)).map Prod.fst := by
  intro transfer member among
  apply prepared.unused transfer member
  rw [pairsOf, List.map_drop, List.map_drop] at among
  exact List.mem_of_mem_drop among

variable (reachable : before.Reachable platform) (run : Ledger.Run platform before labels ledger)
  (progress : Progress platform payments before ledger done made)
  (uniform : Uniform kind debit credit done made)
  (prepared : PairsPrepared before.store (pairsOf payments) currency currency' held held')
include reachable run progress uniform prepared

theorem balances_of {payment : Payment} (member : payment ∈ payments.drop warmup) :
    (balances ledger.store (sides (pairsOf (payments.drop warmup)))).lookup payment.sourceAccountId =
        some (held + if payment ∈ done then -debit else 0) ∧
      (balances ledger.store (sides (pairsOf (payments.drop warmup)))).lookup
          payment.destinationAccountId =
        some (held' + if payment ∈ done then credit else 0) := by
  have there := List.mem_of_mem_drop member
  have pair := List.mem_map_of_mem
    (f := fun payment : Payment => (payment.sourceAccountId, payment.destinationAccountId)) there
  have last := reachable.run run
  obtain ⟨sources, destinations, crossing⟩ := prepared.sides
  obtain ⟨source, sourceFound, _, sourceHeld⟩ := prepared.sources _ pair
  obtain ⟨destination, destinationFound, _, destinationHeld⟩ := prepared.destinations _ pair
  obtain ⟨row, rowFound, balance⟩ := progress.balance reachable run sourceFound
  obtain ⟨row', rowFound', balance'⟩ := progress.balance reachable run destinationFound
  rw [progress.flow_made uniform, sourceHeld,
    flow_source progress.within progress.once crossing sources there] at balance
  rw [progress.flow_made uniform, destinationHeld,
    flow_destination progress.within progress.once crossing destinations there] at balance'
  have among : ∀ id ∈ [payment.sourceAccountId, payment.destinationAccountId],
      id ∈ sides (pairsOf (payments.drop warmup)) := by
    intro id side
    exact List.mem_flatMap.mpr ⟨_, List.mem_map_of_mem member, side⟩
  constructor
  · rw [lookup_balances last.keyed (among _ (by simp)) rowFound, balance]
  · rw [lookup_balances last.keyed (among _ (by simp)) rowFound', balance']

theorem pairsHold_iff (moves : debit ≠ 0) (name detail : String) :
    (pairsHold name (balances ledger.store (sides (pairsOf (payments.drop warmup))))
        (pairsOf (payments.drop warmup)) (held - debit) (held' + credit) detail).passed = true ↔
      payments.drop warmup ⊆ done := by
  have read : ∀ payment ∈ payments.drop warmup, _ := fun payment member =>
    balances_of reachable run progress uniform prepared member
  simp only [pairsHold, check, List.all_eq_true, Bool.and_eq_true, decide_eq_true_eq]
  generalize balances ledger.store (sides (pairsOf (payments.drop warmup))) = rows at *
  rw [pairsOf, List.forall_mem_map]
  refine forall₂_congr fun payment member => ?_
  obtain ⟨source, destination⟩ := read payment member
  rw [source, destination]
  by_cases made : payment ∈ done
  · simp [made, sub_eq_add_neg]
  · simp [made, sub_eq_add_neg, moves]

theorem nonnegative_of_made (enough : debit ≤ held) (more : 0 ≤ held' + credit)
    (all : payments.drop warmup ⊆ done) :
    (noUnexpectedOverdrafts (balances ledger.store
      (sides (pairsOf (payments.drop warmup))))).passed = true := by
  have last := reachable.run run
  simp only [noUnexpectedOverdrafts, check, List.all_map, List.all_eq_true, Function.comp_apply,
    decide_eq_true_eq]
  rintro ⟨id, balance⟩ member
  obtain ⟨among, _⟩ := (mem_balances last.keyed).mp member
  have found := lookup_of_mem (balances_keys last.keyed) member
  obtain ⟨pair, here, side⟩ := List.mem_flatMap.mp among
  obtain ⟨payment, there, rfl⟩ := List.mem_map.mp here
  obtain ⟨source, destination⟩ := balances_of reachable run progress uniform prepared there
  rw [if_pos (all there)] at source destination
  simp only [List.mem_cons, List.not_mem_nil, or_false] at side
  rcases side with rfl | rfl
  · obtain rfl := Option.some.inj (found.symm.trans source)
    omega
  · obtain rfl := Option.some.inj (found.symm.trans destination)
    exact more

theorem pairs_checks (moves : debit ≠ 0) (enough : debit ≤ held) (more : 0 ≤ held' + credit)
    {measured : Nat} (length : (payments.drop warmup).length = measured) (few : measured < 2 ^ 62)
    (names : String × String × String) (detail : String) :
    ((committedTransfers names.1
          (kindCount ledger.store kind ((pairsOf (payments.drop warmup)).map Prod.fst))
          measured).passed = true ∧
      (twoEntries names.2.1 (entryCount ledger.store ((pairsOf (payments.drop warmup)).map Prod.fst))
          measured).passed = true ∧
      (pairsHold names.2.2 (balances ledger.store (sides (pairsOf (payments.drop warmup))))
          (pairsOf (payments.drop warmup)) (held - debit) (held' + credit) detail).passed = true ∧
      (noUnexpectedOverdrafts (balances ledger.store
        (sides (pairsOf (payments.drop warmup))))).passed = true) ↔
      payments.drop warmup ⊆ done := by
  have holds := @pairsHold_iff _ _ _ _ _ _ _ _ _ _ _ _ _ _ warmup reachable run progress uniform
    prepared moves names.2.2 detail
  constructor
  · -- The balances alone tell that every payment was made.
    rintro ⟨_, _, held, _⟩
    exact holds.mp held
  · intro all
    have mine := (made_perm progress prepared all).length_eq
    have unused := prepared.unused_drop warmup
    refine ⟨?_, ?_, holds.mpr all, nonnegative_of_made reachable run progress uniform prepared enough
      more all⟩
    · rw [committedTransfers, check, decide_eq_true_eq, kindCount_made progress unused uniform, mine,
        length, asI64_few few]
    · rw [twoEntries, check, decide_eq_true_eq,
        entryCount_made progress unused (reachable.run run), mine, length, asI64_few few,
        wrapI64_few few, Int.mul_comm]

end Verdict

section Plans

variable {scenario : ScenarioPlan} {seed clients warmup measured : Nat} {plans : List TransferPlan}

theorem plan_key {index : Nat} {result : TransferPlan}
    (planned : plan scenario seed clients warmup index = some result) :
    result.key = "benchmark-" ++ toString seed ++ "-" ++ phaseName index warmup ++ "-" ++
      toString index ++ "-" ++ toString result.client := by
  cases scenario <;> simp only [plan, bind, Option.bind_some, Option.bind_none, Option.some.injEq,
    reduceCtorEq] at planned <;> rw [← planned]

theorem plans_keys_nodup
    (generated : Benchmarks.plans scenario seed clients warmup measured = some plans) :
    (plans.map TransferPlan.key).Nodup := by
  refine nodup_of_forall₂ (mapM_eq_some.mp generated) List.nodup_range ?_
  intro first second result result' one two same
  have texts := congrArg String.toList ((plan_key one).symm.trans (same.trans (plan_key two)))
  simp only [String.toList_append, List.append_assoc, List.append_cancel_left_eq] at texts
  exact phased_eq (by simpa using texts)

theorem plans_length (generated : Benchmarks.plans scenario seed clients warmup measured = some plans)
    (counted : warmup + measured < 2 ^ 64) : plans.length = warmup + measured := by
  rw [← (mapM_eq_some.mp generated).length_eq, List.length_range, usizeAdd, Nat.mod_eq_of_lt counted]

end Plans

theorem sources_once {platform : Platform} {before ledger : Ledger} {payments done : List Payment}
    {made : List Transfer} {currency currency' : String} {held held' : Int} {warmup : Nat}
    (progress : Progress platform payments before ledger done made)
    (prepared : PairsPrepared before.store (pairsOf payments) currency currency' held held')
    (all : payments.drop warmup ⊆ done) :
    duplicateGroups ledger.store Transfer.sourceAccountId
      ((pairsOf (payments.drop warmup)).map Prod.fst) = 0 := by
  apply duplicateGroups_made progress (prepared.unused_drop warmup)
  · exact fun payment transfer among => (progress.settled_zip among).source
  · rw [((made_perm progress prepared all).map _).nodup_iff, List.map_drop]
    exact prepared.sides.1.sublist (List.drop_sublist _ _)

theorem measured_payments {scenario : ScenarioPlan} {seed clients warmup measured : Nat}
    {plans : List TransferPlan} {accounts : List (Uuid × Uuid)} (counted : warmup + measured < 2 ^ 64)
    (generated : Benchmarks.plans scenario seed clients warmup measured = some plans)
    (paired : plans.length = accounts.length) :
    ((payments plans accounts).drop warmup).length = measured := by
  rw [List.length_drop, payments, List.length_zipWith, ← paired, Nat.min_self,
    plans_length generated counted, Nat.add_sub_cancel_left]

theorem PairsPrepared.ordinary {platform : Platform} {before : Ledger} {payments : List Payment}
    {held held' : Int} (reachable : before.Reachable platform)
    (prepared : PairsPrepared before.store (pairsOf payments) "USD" "USD" held held')
    (amounts : ∀ payment ∈ payments, payment.amount = "1.00") :
    ∀ payment ∈ payments, payment.Ordinary before.store 100 := by
  intro payment member
  have pair := List.mem_map_of_mem
    (f := fun payment : Payment => (payment.sourceAccountId, payment.destinationAccountId)) member
  obtain ⟨source, sourceFound, currency, _⟩ := prepared.sources _ pair
  obtain ⟨destination, destinationFound, currency', _⟩ := prepared.destinations _ pair
  refine ⟨source, destination, sourceFound, destinationFound, currency.trans currency'.symm, ?_⟩
  rw [amounts payment member]
  exact dollar (reachable.listed sourceFound) currency

theorem evaluateIndependent_valid {committed entries duplicates : Int}
    {balances : List (Uuid × Int)} {pairs : List (Uuid × Uuid)} {expected : Nat} :
    (evaluateIndependent committed entries duplicates balances pairs expected).valid = true ↔
      duplicates = 0 ∧ (committedTransfers "committed_measured_transfers" committed expected).passed =
        true ∧ (twoEntries "exactly_two_entries_per_transfer" entries expected).passed = true ∧
      (pairsHold "expected_final_balances_and_pair_conservation" balances pairs 900 1100
        "each pair must be 9.00 / 11.00").passed = true ∧
      (noUnexpectedOverdrafts balances).passed = true := by
  simp only [evaluateIndependent, finish, List.all_cons, List.all_nil, Bool.and_eq_true,
    Bool.and_true]
  rw [check, decide_eq_true_eq]
  tauto

namespace Sample

open LedgerService.Sample

-- What `seed_fx_configuration` installs.
def fxConfiguration : Configuration where
  exchangeRates :=
    [⟨resource 1000, "USD", "PLN", .finite 4000000000000, 820000000000000, 830000000000000⟩]
  fxFeeRules := [⟨resource 1001, some "USD", some "PLN", 100, 820000000000000, 830000000000000⟩]

def opening (number : Nat) (key currency balance : String) : Attempt :=
  attempt "benchmark-1-0" key number (.createAccount (some ⟨currency, balance⟩))

-- A pair of accounts for the warm-up plan, and one for each of the two measured plans.
def pairs (configuration : Configuration) (currency first second : String) : Ledger :=
  (Ledger.start configuration).serveAll (engine .reference) (handle .reference)
    [opening 1 "a" "USD" first, opening 2 "b" currency second, opening 3 "c" "USD" first,
      opening 4 "d" currency second, opening 5 "e" "USD" first, opening 6 "f" currency second]

theorem pairs_idle (configuration : Configuration) (currency first second : String) :
    (pairs configuration currency first second).Idle :=
  (System.Idle.serveAll (Ledger.start_idle configuration) _).1

theorem pairs_reachable (configuration : Configuration) (currency first second : String) :
    (pairs configuration currency first second).Reachable .reference :=
  (Ledger.start_reachable .reference configuration).serveAll (Ledger.start_idle configuration) _

def pairAccounts : List (Uuid × Uuid) :=
  [(resource 16, resource 32), (resource 48, resource 64), (resource 80, resource 96)]

abbrev PairsOpened (db : Db) (currency : String) (held held' : Int) : Prop :=
  (db.accounts.map (fun account => (account.id, account.currency, account.balanceMinor.val)),
    db.idempotencyRecords.map (fun record => record.scope.operationType), db.transfers) =
      (pairAccounts.flatMap (fun pair => [(pair.1, "USD", held), (pair.2, currency, held')]),
        List.replicate 6 .accountCreation, [])

theorem PairsOpened.prepared {db : Db} {currency : String} {held held' : Int}
    (opened : PairsOpened db currency held held') (keyed : Keyed db) :
    PairsPrepared db pairAccounts "USD" currency held held' ∧
      ∀ payment : Payment, payment.Fresh db := by
  simp only [PairsOpened, Prod.mk.injEq] at opened
  obtain ⟨rows, scopes, transfers⟩ := opened
  have found := opened_row keyed rows
  refine ⟨⟨by decide, ?_, ?_, by simp [transfers]⟩, ?_⟩
  · intro pair member
    exact found (pair.1, "USD", held) (List.mem_flatMap.mpr ⟨pair, member, List.mem_cons_self⟩)
  · intro pair member
    exact found (pair.2, currency, held')
      (List.mem_flatMap.mpr ⟨pair, member, List.mem_cons_of_mem _ List.mem_cons_self⟩)
  · intro payment
    exact fresh_of_openings payment (by simp [scopes])

def threePayments (warming first second : Nat × Nat) : List Payment :=
  [payment "benchmark-1-0" "benchmark-1-warmup-0-0" warming.1 warming.2 "1.00",
    payment "benchmark-1-0" "benchmark-1-measured-1-0" first.1 first.2 "1.00",
    payment "benchmark-1-0" "benchmark-1-measured-2-0" second.1 second.2 "1.00"]

-- The warm-up request is given up.
def threeRequests (warming first second : Nat × Nat) (statements : Nat) : List (Move Attempt) :=
  level
    (moves 100
      (transfer 7 "benchmark-1-0" "benchmark-1-warmup-0-0" warming.1 warming.2 "1.00") 3)
    (transfer 8 "benchmark-1-0" "benchmark-1-measured-1-0" first.1 first.2 "1.00")
    (transfer 9 "benchmark-1-0" "benchmark-1-measured-1-0" first.1 first.2 "1.00")
    (transfer 10 "benchmark-1-0" "benchmark-1-measured-2-0" second.1 second.2 "1.00") statements

theorem threeRequests_asks {warming first second : Nat × Nat} {statements : Nat}
    (known : ∀ sides ∈ [warming, first, second],
      (Platform.reference.parseUuid (resource (16 * sides.1)).hyphenated =
          some (resource (16 * sides.1)) ∧
        Platform.reference.parseUuid (resource (16 * sides.2)).hyphenated =
          some (resource (16 * sides.2))) ∧
      resource (16 * sides.1) ≠ resource (16 * sides.2)) :
    ∀ attempt ∈ (threeRequests warming first second statements).filterMap Move.context?,
      ∃ payment ∈ threePayments warming first second, attempt.Makes .reference payment := by
  simp only [List.forall_mem_cons] at known
  obtain ⟨⟨parsed, apart⟩, ⟨parsed', apart'⟩, ⟨parsed'', apart''⟩, -⟩ := known
  rw [threeRequests, level_contexts, moves_contexts]
  simp only [List.cons_append, List.nil_append, List.forall_mem_cons]
  exact
    ⟨⟨_, .head _, transfer_makes 7 _ _ _ _ _ (by decide +kernel) parsed apart⟩,
      ⟨_, .tail _ (.head _), transfer_makes 8 _ _ _ _ _ (by decide +kernel) parsed' apart'⟩,
      ⟨_, .tail _ (.head _), transfer_makes 9 _ _ _ _ _ (by decide +kernel) parsed' apart'⟩,
      ⟨_, .tail _ (.tail _ (.head _)),
        transfer_makes 10 _ _ _ _ _ (by decide +kernel) parsed'' apart''⟩, by simp⟩

end Sample

/-- An independent level is valid if and only if every measured transfer was made. -/
theorem independent_verdict {platform : Platform} {before ledger : Ledger}
    {plans : List TransferPlan} {accounts : List (Uuid × Uuid)}
    {seed clients warmup measured : Nat} {labels : List (Label sql Attempt Operator)}
    (few : measured < 2 ^ 62) (counted : warmup + measured < 2 ^ 64)
    (reachable : before.Reachable platform) (idle : before.Idle)
    (generated : Benchmarks.plans .independent seed clients warmup measured = some plans)
    (paired : plans.length = accounts.length)
    (prepared : PairsPrepared before.store accounts "USD" "USD" 1000 1000)
    (fresh : ∀ payment ∈ payments plans accounts, payment.Fresh before.store)
    (run : Ledger.Run platform before labels ledger)
    (asked : ∀ id attempt, .begin id attempt ∈ labels →
      ∃ payment ∈ payments plans accounts, attempt.Makes platform payment) :
    (independent ledger.store (accounts.drop warmup) measured).valid = true ↔
      ∀ payment ∈ (payments plans accounts).drop warmup, payment.Answered platform ledger := by
  obtain ⟨done, made, progress, answered⟩ := Progress.run_answered reachable idle
    (payments_keys paired ▸ plans_keys_nodup generated) fresh run asked
  have length := measured_payments counted generated paired
  have amounts : ∀ payment ∈ payments plans accounts, payment.amount = "1.00" :=
    fun payment member => payments_amount member
  have pairs : accounts = pairsOf (payments plans accounts) := (payments_pairs paired).symm
  generalize payments plans accounts = payments at *
  subst pairs
  have uniform := progress.uniform (prepared.ordinary reachable amounts) (reachable.run run)
    (reachable.run_evolves run)
  have checks := pairs_checks reachable run progress uniform prepared (by decide) (by decide)
    (by decide) length few ("committed_measured_transfers", "exactly_two_entries_per_transfer",
      "expected_final_balances_and_pair_conservation") "each pair must be 9.00 / 11.00"
  have all : payments.drop warmup ⊆ done ↔
      ∀ payment ∈ payments.drop warmup, payment.Answered platform ledger :=
    forall₂_congr fun payment member => answered payment (List.mem_of_mem_drop member)
  have dropped : (pairsOf payments).drop warmup = pairsOf (payments.drop warmup) := List.map_drop.symm
  rw [← all, dropped, independent, evaluateIndependent_valid, ← checks]
  refine and_iff_right_of_imp fun passed => ?_
  exact sources_once progress prepared (checks.mp passed)

theorem independent_verdict_level : ∃ ledger : Ledger, ledger.history.length = 9 ∧
    ledger.store.transfers.length = 2 ∧
    ∀ payment ∈ (Sample.threePayments (1, 2) (3, 4) (5, 6)).drop 1,
      payment.Answered .reference ledger := by
  have idle := Sample.pairs_idle Sample.fxConfiguration "USD" "10.00" "10.00"
  have reachable := Sample.pairs_reachable Sample.fxConfiguration "USD" "10.00" "10.00"
  obtain ⟨opened, evaluated⟩ :
      Sample.PairsOpened (Sample.pairs Sample.fxConfiguration "USD" "10.00" "10.00").store
        "USD" 1000 1000 ∧
      (((Sample.pairs Sample.fxConfiguration "USD" "10.00" "10.00").performAll
        (engine .reference) (handle .reference)
        (Sample.threeRequests (1, 2) (3, 4) (5, 6) 17)).map fun ledger : Ledger =>
          (ledger.history.length, ledger.store.transfers.length,
            (independent ledger.store (Sample.pairAccounts.drop 1) 2).valid)) =
        some (9, 2, true) := by
    decide +kernel
  obtain ⟨prepared, fresh⟩ := opened.prepared reachable.keyed
  obtain ⟨ledger, performed, counted⟩ := Option.map_eq_some_iff.mp evaluated
  simp only [Prod.mk.injEq] at counted
  obtain ⟨events, transfers, valid⟩ := counted
  obtain ⟨labels, stands, run⟩ := System.performAll_stands idle.known performed
  obtain ⟨plans, generated, paired, meant⟩ : ∃ plans,
      Benchmarks.plans .independent 1 1 1 2 = some plans ∧
      plans.length = Sample.pairAccounts.length ∧
      payments plans Sample.pairAccounts = Sample.threePayments (1, 2) (3, 4) (5, 6) :=
    ⟨_, rfl, rfl, by decide +kernel⟩
  have asks := @Sample.threeRequests_asks (1, 2) (3, 4) (5, 6) 17 (by decide +kernel)
  have verdict := independent_verdict (by decide) (by decide) reachable idle generated paired
    prepared (fun payment _ => fresh payment) run fun id attempt began =>
      meant ▸ asks attempt (Move.Stands.mem_contexts stands began)
  rw [meant] at verdict
  exact ⟨ledger, events, transfers, verdict.mp valid⟩

/-- The FX configuration that `seed_fx_configuration` installs, and no other. -/
structure Seeded (configuration : Configuration) : Prop where
  rates : ∀ row ∈ configuration.exchangeRates, row.sourceCurrency = "USD" →
    row.destinationCurrency = "PLN" → row.rate = .finite 4000000000000
  fees : ∀ row ∈ configuration.fxFeeRules, row.feeBps = 100

section Exchanged

variable {platform : Platform} {before ledger : Ledger} {payments done : List Payment}
  {made : List Transfer} {held held' : Int}

theorem scale_two {account : Account} (listed : account.Listed)
    (currency : account.currency = "USD" ∨ account.currency = "PLN") :
    account.currencyScale = 2 := by
  obtain ⟨known, member, code, scaled⟩ := listed
  have two : ∀ one ∈ currencies, one.code = "USD" ∨ one.code = "PLN" → one.scale = 2 := by decide
  rw [scaled, two known member (code ▸ currency)]
  rfl

theorem Seeded.terms {configuration : Configuration} (seeded : Seeded configuration)
    {transfer : Transfer} {source destination : Account}
    (terms : FxTerms configuration source destination transfer)
    (currencies : transfer.sourceCurrency = "USD" ∧ transfer.destinationCurrency = "PLN")
    (scales : source.currencyScale = 2 ∧ destination.currencyScale = 2)
    (amount : transfer.sourceAmountMinor.val = 100) :
    transfer.totalSourceDebitMinor.val = 101 ∧ transfer.destinationAmountMinor.val = 400 := by
  -- One dollar is four zlotys, and a cent is the fee.
  have hundred : transfer.sourceAmountMinor = ⟨100, by decide⟩ := I64.ext amount
  constructor
  · obtain ⟨rule, member, _, _, calculated⟩ := terms.fee
    rw [seeded.fees rule member, hundred] at calculated
    have computed : calculateFee ⟨100, by decide⟩ 100 = .ok ⟨⟨1, by decide⟩, ⟨101, by decide⟩⟩ := by
      decide
    rw [computed, Except.ok.injEq, FeeCalculation.mk.injEq] at calculated
    rw [← calculated.2]
  · obtain ⟨row, member, _, _, sourceCurrency, destinationCurrency, _, rate, parsed, calculated⟩ :=
      terms.rate
    rw [seeded.rates row member (sourceCurrency.trans currencies.1)
      (destinationCurrency.trans currencies.2)] at parsed
    have four : ExactRate.parse (Numeric.finite 4000000000000).text =
        .ok ⟨4000000000000, 12, by decide, by decide⟩ := by decide
    obtain rfl := Except.ok.inj (four.symm.trans parsed)
    have computed : calculateDestination ⟨100, by decide⟩ (asU8 2) (asU8 2)
        ⟨4000000000000, 12, by decide, by decide⟩ = .ok ⟨400, by decide⟩ := by decide
    rw [hundred, scales.1, scales.2, computed] at calculated
    rw [← Except.ok.inj calculated]

theorem uniform_fx (progress : Progress platform payments before ledger done made)
    (reachable : before.Reachable platform) {labels : List (Label sql Attempt Operator)}
    (run : Ledger.Run platform before labels ledger)
    (prepared : PairsPrepared before.store (pairsOf payments) "USD" "PLN" held held')
    (seeded : Seeded ledger.reference)
    (amounts : ∀ payment ∈ payments, payment.amount = "1.00") :
    Uniform .fxTransfer 101 400 done made := by
  intro payment transfer among
  have member := progress.within (List.of_mem_zip among).1
  have pair := List.mem_map_of_mem
    (f := fun payment : Payment => (payment.sourceAccountId, payment.destinationAccountId)) member
  obtain ⟨source, sourceFound, currency, _⟩ := prepared.sources _ pair
  obtain ⟨destination, destinationFound, currency', _⟩ := prepared.destinations _ pair
  have last := reachable.run run
  have evolves := reachable.run_evolves run
  have settled := progress.settled_zip among
  obtain ⟨source', destination', sameSource, sameDestination, sourceCurrency, destinationCurrency,
    terms⟩ := settled.exchanged last evolves sourceFound destinationFound
      (by rw [currency, currency']; decide) (progress.mem_made (List.of_mem_zip among).2)
  have scale := scale_two (reachable.listed sourceFound) (.inl currency)
  have scale' := scale_two (reachable.listed destinationFound) (.inr currency')
  obtain ⟨account, narrow, found, ranged, parsed⟩ := settled.amount
  obtain ⟨row, there, same⟩ := evolves.account _ _ sourceFound
  obtain rfl := Option.some.inj (there.symm.trans found)
  rw [same.currencyScale, scale] at ranged
  obtain rfl := Option.some.inj ranged
  have hundred : transfer.sourceAmountMinor.val = 100 := by
    have read : parseMinorUnits "1.00" 2 = .ok ⟨100, by decide⟩ := by decide
    rw [amounts payment member] at parsed
    rw [← Outcome.ok.inj (read.symm.trans parsed)]
  obtain ⟨debited, credited⟩ := seeded.terms terms
    ⟨sourceCurrency.trans currency, destinationCurrency.trans currency'⟩
    ⟨sameSource.currencyScale.trans scale, sameDestination.currencyScale.trans scale'⟩ hundred
  refine ⟨terms.kind, ?_⟩
  rw [Transfer.movement, settled.source, settled.destination, debited, credited]
  rfl

end Exchanged

/-- An FX level is valid if and only if every measured exchange was made. -/
theorem fx_independent_verdict {platform : Platform} {before ledger : Ledger}
    {plans : List TransferPlan} {accounts : List (Uuid × Uuid)}
    {seed clients warmup measured : Nat} {labels : List (Label sql Attempt Operator)}
    (few : measured < 2 ^ 62) (counted : warmup + measured < 2 ^ 64)
    (reachable : before.Reachable platform) (idle : before.Idle)
    (generated : Benchmarks.plans .fxIndependent seed clients warmup measured = some plans)
    (paired : plans.length = accounts.length)
    (prepared : PairsPrepared before.store accounts "USD" "PLN" 2000 1000)
    (fresh : ∀ payment ∈ payments plans accounts, payment.Fresh before.store)
    (run : Ledger.Run platform before labels ledger) (seeded : Seeded ledger.reference)
    (asked : ∀ id attempt, .begin id attempt ∈ labels →
      ∃ payment ∈ payments plans accounts, attempt.Makes platform payment) :
    (fxIndependent ledger.store (accounts.drop warmup) measured).valid = true ↔
      ∀ payment ∈ (payments plans accounts).drop warmup, payment.Answered platform ledger := by
  obtain ⟨done, made, progress, answered⟩ := Progress.run_answered reachable idle
    (payments_keys paired ▸ plans_keys_nodup generated) fresh run asked
  have length := measured_payments counted generated paired
  have amounts : ∀ payment ∈ payments plans accounts, payment.amount = "1.00" :=
    fun payment member => payments_amount member
  have pairs : accounts = pairsOf (payments plans accounts) := (payments_pairs paired).symm
  generalize payments plans accounts = payments at *
  subst pairs
  have uniform := uniform_fx progress reachable run prepared seeded amounts
  have checks := pairs_checks reachable run progress uniform prepared (by decide) (by decide)
    (by decide) length few ("committed_measured_fx_transfers",
      "exactly_two_entries_per_fx_transfer", "expected_fx_balances")
      "each USD/PLN pair must be 18.99 / 14.00 after the 1% fee"
  have all : payments.drop warmup ⊆ done ↔
      ∀ payment ∈ payments.drop warmup, payment.Answered platform ledger :=
    forall₂_congr fun payment member => answered payment (List.mem_of_mem_drop member)
  have dropped : (pairsOf payments).drop warmup = pairsOf (payments.drop warmup) := List.map_drop.symm
  rw [← all, dropped, ← checks]
  simp only [fxIndependent, finish, List.all_cons, List.all_nil, Bool.and_eq_true, Bool.and_true]
  rfl

theorem fx_independent_verdict_level : ∃ ledger : Ledger, ledger.history.length = 9 ∧
    ledger.store.transfers.length = 2 ∧
    ∀ payment ∈ (Sample.threePayments (1, 2) (3, 4) (5, 6)).drop 1,
      payment.Answered .reference ledger := by
  have idle := Sample.pairs_idle Sample.fxConfiguration "PLN" "20.00" "10.00"
  have reachable := Sample.pairs_reachable Sample.fxConfiguration "PLN" "20.00" "10.00"
  obtain ⟨opened, evaluated⟩ :
      Sample.PairsOpened (Sample.pairs Sample.fxConfiguration "PLN" "20.00" "10.00").store
        "PLN" 2000 1000 ∧
      (((Sample.pairs Sample.fxConfiguration "PLN" "20.00" "10.00").performAll
        (engine .reference) (handle .reference)
        (Sample.threeRequests (1, 2) (3, 4) (5, 6) 19)).map fun ledger : Ledger =>
          (ledger.history.length, ledger.store.transfers.length, ledger.reference,
            (fxIndependent ledger.store (Sample.pairAccounts.drop 1) 2).valid)) =
        some (9, 2, Sample.fxConfiguration, true) := by
    decide +kernel
  obtain ⟨prepared, fresh⟩ := opened.prepared reachable.keyed
  obtain ⟨ledger, performed, counted⟩ := Option.map_eq_some_iff.mp evaluated
  simp only [Prod.mk.injEq] at counted
  obtain ⟨events, transfers, reference, valid⟩ := counted
  have seeded : Seeded ledger.reference := reference ▸ ⟨by decide, by decide⟩
  obtain ⟨labels, stands, run⟩ := System.performAll_stands idle.known performed
  obtain ⟨plans, generated, paired, meant⟩ : ∃ plans,
      Benchmarks.plans .fxIndependent 1 1 1 2 = some plans ∧
      plans.length = Sample.pairAccounts.length ∧
      payments plans Sample.pairAccounts = Sample.threePayments (1, 2) (3, 4) (5, 6) :=
    ⟨_, rfl, rfl, by decide +kernel⟩
  have asks := @Sample.threeRequests_asks (1, 2) (3, 4) (5, 6) 19 (by decide +kernel)
  have verdict := fx_independent_verdict (by decide) (by decide) reachable idle generated paired
    prepared (fun payment _ => fresh payment) run seeded fun id attempt began =>
      meant ▸ asks attempt (Move.Stands.mem_contexts stands began)
  rw [meant] at verdict
  exact ⟨ledger, events, transfers, verdict.mp valid⟩

end LedgerService.Benchmarks
