import Mathlib.Data.Nat.ModEq
import LedgerService.Benchmarks.Driver
import LedgerService.Rounds

set_option autoImplicit false

namespace LedgerService.Benchmarks

open Rounds

def TransferPlan.move (plan : TransferPlan) : Move Nat := ⟨plan.source, plan.destination⟩

section Ring

variable {seed clients poolSize warmup : Nat}

theorem poolOffset_pos (seed poolSize : Nat) : 0 < poolOffset seed poolSize := Nat.succ_pos _

theorem poolOffset_lt (seed : Nat) (pool : 2 ≤ poolSize) : poolOffset seed poolSize < poolSize := by
  have bound := Nat.mod_lt seed (show 0 < poolSize - 1 by omega)
  rw [poolOffset]
  omega

theorem source_eq {index : Nat} (counted : index + seed < 2 ^ 64) :
    (accountPoolPlan seed clients poolSize warmup index).source = (index + seed) % poolSize := by
  simp only [accountPoolPlan, usizeAdd, Nat.mod_eq_of_lt counted]

theorem destination_eq {index : Nat} (pool : 2 ≤ poolSize) (small : poolSize ≤ 2 ^ 63)
    (counted : index + seed < 2 ^ 64) :
    (accountPoolPlan seed clients poolSize warmup index).destination =
      (index + (seed + poolOffset seed poolSize)) % poolSize := by
  have source := Nat.mod_lt (index + seed) (show 0 < poolSize by omega)
  have offset := poolOffset_lt seed pool
  have sum : (index + seed) % poolSize + poolOffset seed poolSize < 2 ^ 64 := by omega
  simp only [accountPoolPlan, usizeAdd, Nat.mod_eq_of_lt counted, Nat.mod_eq_of_lt sum]
  rw [Nat.mod_add_mod, Nat.add_assoc]

theorem source_ne_destination {index : Nat} (pool : 2 ≤ poolSize) (small : poolSize ≤ 2 ^ 63)
    (counted : index + seed < 2 ^ 64) :
    (accountPoolPlan seed clients poolSize warmup index).source ≠
      (accountPoolPlan seed clients poolSize warmup index).destination := by
  rw [source_eq counted, destination_eq pool small counted, ← Nat.add_assoc]
  intro same
  have none : poolOffset seed poolSize ≡ 0 [MOD poolSize] :=
    Nat.ModEq.add_left_cancel' (index + seed) same.symm
  have zero := Nat.ModEq.eq_of_lt_of_lt none (poolOffset_lt seed pool) (by omega)
  exact (poolOffset_pos seed poolSize).ne' zero

theorem ring_nodup (start shift : Nat) {count : Nat} (short : count ≤ poolSize) :
    ((List.range' start count).map fun index => (index + shift) % poolSize).Nodup := by
  refine List.Nodup.map_on ?_ List.nodup_range'
  intro first member second member' same
  obtain ⟨first, within, rfl⟩ := List.mem_range'.mp member
  obtain ⟨second, within', rfl⟩ := List.mem_range'.mp member'
  have shifted : start + shift + 1 * first ≡ start + shift + 1 * second [MOD poolSize] := by
    rw [Nat.add_right_comm start shift (1 * first), Nat.add_right_comm start shift (1 * second)]
    exact same
  have equal := Nat.ModEq.eq_of_lt_of_lt (Nat.ModEq.add_left_cancel' _ shifted) (by omega) (by omega)
  omega

theorem ring_perm (start shift : Nat) (positive : 0 < poolSize) :
    ((List.range' start poolSize).map fun index => (index + shift) % poolSize).Perm
      (List.range poolSize) := by
  have within : (List.range' start poolSize).map (fun index => (index + shift) % poolSize) ⊆
      List.range poolSize := by
    intro account member
    obtain ⟨index, _, rfl⟩ := List.mem_map.mp member
    exact List.mem_range.mpr (Nat.mod_lt _ positive)
  exact (List.subperm_of_subset (ring_nodup start shift le_rfl) within).perm_of_length_le (by simp)

end Ring

def poolChunks (seed clients poolSize warmup measured : Nat) : List (List TransferPlan) :=
  let plans := accountPoolPlans seed clients poolSize warmup measured
  chunks poolSize (plans.take warmup) ++ chunks poolSize (plans.drop warmup)

section Chunks

variable {seed clients poolSize warmup measured : Nat}

theorem poolChunks_flatten (positive : 0 < poolSize) :
    (poolChunks seed clients poolSize warmup measured).flatten =
      accountPoolPlans seed clients poolSize warmup measured := by
  rw [poolChunks, List.flatten_append, chunks_flatten positive, chunks_flatten positive,
    List.take_append_drop]

theorem mem_poolChunks (counted : warmup + measured < 2 ^ 64) {chunk : List TransferPlan}
    (member : chunk ∈ poolChunks seed clients poolSize warmup measured) :
    ∃ start count, chunk =
        (List.range' start count).map (accountPoolPlan seed clients poolSize warmup) ∧
      count ≤ poolSize ∧ (0 < count → start + count ≤ warmup + measured) := by
  have sum : usizeAdd warmup measured = warmup + measured := Nat.mod_eq_of_lt counted
  have slice : ∀ start length index, start + length ≤ warmup + measured →
      ∃ first count, ((((List.range' start length).map
          (accountPoolPlan seed clients poolSize warmup)).drop (index * poolSize)).take poolSize) =
        (List.range' first count).map (accountPoolPlan seed clients poolSize warmup) ∧
      count ≤ poolSize ∧ (0 < count → first + count ≤ warmup + measured) := by
    intro start length index within
    rw [← List.map_drop, ← List.map_take, List.drop_range']
    by_cases short : length - index * poolSize ≤ poolSize
    · rw [List.take_range'_of_length_le short]
      exact ⟨_, _, rfl, short, by omega⟩
    · rw [List.take_range'_of_length_ge (by omega)]
      exact ⟨_, _, rfl, le_rfl, by omega⟩
  rw [poolChunks, accountPoolPlans, sum, List.range_eq_range', ← List.map_take, ← List.map_drop,
    List.take_range'_of_length_ge (by omega), List.drop_range', Nat.zero_add, Nat.mul_one,
    Nat.add_sub_cancel_left, List.mem_append] at member
  rcases member with warm | measure
  · obtain ⟨index, rfl⟩ := mem_chunks warm
    exact slice 0 warmup index (by omega)
  · obtain ⟨index, rfl⟩ := mem_chunks measure
    exact slice warmup measured index le_rfl

/-- The plans of a chunk are a round: fair, and complete if the chunk is full. -/
structure PoolRound (poolSize : Nat) (chunk : List TransferPlan) : Prop where
  fair : Fair (chunk.map TransferPlan.move)
  distinct : ∀ plan ∈ chunk, plan.source ≠ plan.destination
  within : ∀ plan ∈ chunk, plan.source < poolSize ∧ plan.destination < poolSize
  full : chunk.length = poolSize →
    (chunk.map TransferPlan.source).Perm (List.range poolSize) ∧
      (chunk.map TransferPlan.destination).Perm (List.range poolSize)

theorem poolRound_of_mem (pool : 2 ≤ poolSize) (small : poolSize ≤ 2 ^ 63)
    (counted : seed + warmup + measured < 2 ^ 64) {chunk : List TransferPlan}
    (member : chunk ∈ poolChunks seed clients poolSize warmup measured) :
    PoolRound poolSize chunk := by
  obtain ⟨start, count, rfl, short, last⟩ := mem_poolChunks (by omega) member
  have early : ∀ index ∈ List.range' start count, index + seed < 2 ^ 64 := by
    intro index here
    obtain ⟨ahead, below, rfl⟩ := List.mem_range'.mp here
    have bound := last (by omega)
    omega
  have sources : ((List.range' start count).map (accountPoolPlan seed clients poolSize warmup)).map
      TransferPlan.source =
        (List.range' start count).map fun index => (index + seed) % poolSize := by
    rw [List.map_map]
    exact List.map_congr_left fun index here => source_eq (early index here)
  have destinations :
      ((List.range' start count).map (accountPoolPlan seed clients poolSize warmup)).map
        TransferPlan.destination =
          (List.range' start count).map fun index =>
            (index + (seed + poolOffset seed poolSize)) % poolSize := by
    rw [List.map_map]
    exact List.map_congr_left fun index here => destination_eq pool small (early index here)
  refine ⟨⟨?_, ?_⟩, ?_, ?_, ?_⟩
  · rw [List.map_map]
    exact sources ▸ ring_nodup start seed short
  · rw [List.map_map]
    exact destinations ▸ ring_nodup start _ short
  · intro plan present
    obtain ⟨index, here, rfl⟩ := List.mem_map.mp present
    exact source_ne_destination pool small (early index here)
  · intro plan present
    obtain ⟨index, here, rfl⟩ := List.mem_map.mp present
    rw [source_eq (early index here), destination_eq pool small (early index here)]
    exact ⟨Nat.mod_lt _ (by omega), Nat.mod_lt _ (by omega)⟩
  · intro full
    obtain rfl : count = poolSize := by simpa using full
    rw [sources, destinations]
    exact ⟨ring_perm start seed (by omega), ring_perm start _ (by omega)⟩

theorem poolChunks_short (pool : 2 ≤ poolSize) (small : poolSize ≤ 2 ^ 63)
    (counted : seed + warmup + measured < 2 ^ 64) :
    (((poolChunks seed clients poolSize warmup measured).map fun chunk =>
      chunk.map TransferPlan.move).filter fun round => ¬ Complete round).length ≤ 2 := by
  -- Two chunks at most are not full: the last of the warm-up, and the last of all.
  have fewer : ∀ part : List (List TransferPlan),
      part ⊆ poolChunks seed clients poolSize warmup measured →
      ((part.map fun chunk => chunk.map TransferPlan.move).filter fun round =>
        ¬ Complete round).length ≤ (part.filter fun chunk => chunk.length ≠ poolSize).length := by
    intro part within
    rw [List.filter_map, List.length_map, ← List.countP_eq_length_filter,
      ← List.countP_eq_length_filter]
    apply List.countP_mono_left
    intro chunk member incomplete
    have round := poolRound_of_mem pool small counted (within member)
    by_contra full
    obtain ⟨sources, destinations⟩ := round.full (by simpa using full)
    have complete : Complete (chunk.map TransferPlan.move) := by
      rw [Complete, List.map_map, List.map_map]
      exact sources.trans destinations.symm
    simp [complete] at incomplete
  have positive : 0 < poolSize := by omega
  unfold poolChunks at fewer ⊢
  rw [List.map_append, List.filter_append, List.length_append]
  have warm := (fewer _ (List.subset_append_left _ _)).trans (chunks_short positive _)
  have last := (fewer _ (List.subset_append_right _ _)).trans (chunks_short positive _)
  omega

end Chunks

section Balances

variable {balances : List Int} {plans : List TransferPlan}

theorem settle_getElem? (balances : List Int) (plan : TransferPlan) (account : Nat) :
    (settle balances plan)[account]? = balances[account]?.map (· + 100 * net [plan.move] account) := by
  rw [settle, List.getElem?_modify, List.getElem?_modify]
  cases balances[account]? with
  | none => rfl
  | some balance =>
    by_cases given : plan.source = account <;> by_cases taken : plan.destination = account <;>
      simp [net, TransferPlan.move, given, taken, sub_eq_add_neg]

theorem settled_getElem? (balances : List Int) (plans : List TransferPlan) (account : Nat) :
    (plans.foldl settle balances)[account]? =
      balances[account]?.map (· + 100 * net (plans.map TransferPlan.move) account) := by
  induction plans generalizing balances with
  | nil => simp
  | cons plan plans ih =>
    have joined := net_append [plan.move] (plans.map TransferPlan.move) account
    rw [List.singleton_append] at joined
    rw [List.foldl_cons, ih, settle_getElem?, Option.map_map, List.map_cons, joined]
    congr 1
    funext balance
    simp only [Function.comp_apply]
    ring

theorem settled_perm {more : List TransferPlan} (same : plans.Perm more) (balances : List Int) :
    plans.foldl settle balances = more.foldl settle balances := by
  apply List.ext_getElem?
  intro account
  rw [settled_getElem?, settled_getElem?, net_perm (same.map _)]

def execute (balances : List Int) (plan : TransferPlan) : Option (List Int) :=
  if 100 ≤ balances[plan.source]?.getD 0 then some (settle balances plan) else none

def initialBalances (poolSize : Nat) : List Int :=
  List.replicate poolSize accountPoolInitialBalanceMinor

theorem balance_eq {poolSize account : Nat} (within : account < poolSize)
    (plans : List TransferPlan) :
    (plans.foldl settle (initialBalances poolSize))[account]? =
      some (accountPoolInitialBalanceMinor + 100 * net (plans.map TransferPlan.move) account) := by
  rw [settled_getElem?, initialBalances, List.getElem?_replicate, if_pos within]
  rfl

theorem execute_all {poolSize : Nat} {order : List TransferPlan}
    (within : ∀ plan ∈ order, plan.source < poolSize)
    (bounded : ∀ before after, order = before ++ after → ∀ account,
      |net (before.map TransferPlan.move) account| ≤ 3) :
    order.foldlM execute (initialBalances poolSize) =
      some (order.foldl settle (initialBalances poolSize)) := by
  -- The induction is on the last transfer: until then its source is down by three at most.
  induction order using List.reverseRecOn with
  | nil => rfl
  | append_singleton order plan ih =>
    have earlier := ih (fun plan member => within plan (List.mem_append_left _ member))
      fun before after split => bounded before (after ++ [plan]) (by rw [split, List.append_assoc])
    have bound := abs_le.mp (bounded order [plan] rfl plan.source)
    rw [List.foldlM_append, earlier, List.foldl_append]
    simp only [bind, Option.bind_some, List.foldlM_cons, List.foldlM_nil, List.foldl_cons,
      List.foldl_nil, execute]
    rw [if_pos]
    · rfl
    · rw [balance_eq (within plan (by simp)), Option.getD_some, accountPoolInitialBalanceMinor]
      omega

end Balances

/-- No transfer of the account pool is refused, in whatever order the transfers of a chunk are made:
an account gives and takes once a chunk at most, never to itself, and a full chunk is a turn of the
ring.  The chunks hold all the plans, and each plan has a client.  A pool of more than `2 ^ 63`
accounts has no place in memory, and `validate` admits ten thousand. -/
theorem account_pool_never_rejected {seed clients poolSize warmup measured : Nat}
    (served : 1 ≤ clients) (pool : 2 ≤ poolSize) (small : poolSize ≤ 2 ^ 63)
    (counted : seed + warmup + measured < 2 ^ 64) :
    (poolChunks seed clients poolSize warmup measured).flatten =
      accountPoolPlans seed clients poolSize warmup measured ∧
    (accountPoolPlans seed clients poolSize warmup measured).length = warmup + measured ∧
    (∀ chunk ∈ poolChunks seed clients poolSize warmup measured, PoolRound poolSize chunk) ∧
    (∀ plan ∈ accountPoolPlans seed clients poolSize warmup measured, plan.client < clients) ∧
    ∀ runs, List.Forall₂ List.Perm runs (poolChunks seed clients poolSize warmup measured) →
      runs.flatten.foldlM execute (initialBalances poolSize) =
        some (expectedPoolBalances poolSize
          (accountPoolPlans seed clients poolSize warmup measured)) ∧
      ∀ before after, runs.flatten = before ++ after →
        ∃ balances, before.foldlM execute (initialBalances poolSize) = some balances ∧
          (∀ balance ∈ balances, 0 ≤ balance) ∧
          ∀ plan ∈ after.head?, 100 ≤ balances[plan.source]?.getD 0 := by
  have rounds : ∀ chunk ∈ poolChunks seed clients poolSize warmup measured,
      PoolRound poolSize chunk := fun chunk member => poolRound_of_mem pool small counted member
  have every : (poolChunks seed clients poolSize warmup measured).flatten =
      accountPoolPlans seed clients poolSize warmup measured := poolChunks_flatten (by omega)
  refine ⟨every, ?_, rounds, ?_, ?_⟩
  · have sum : usizeAdd warmup measured = warmup + measured := Nat.mod_eq_of_lt (by omega)
    rw [accountPoolPlans, sum, List.length_map, List.length_range]
  · intro plan member
    obtain ⟨index, _, rfl⟩ := List.mem_map.mp member
    exact Nat.mod_lt _ served
  intro runs ordered
  have moves : Runs ((poolChunks seed clients poolSize warmup measured).map fun chunk =>
      chunk.map TransferPlan.move) (runs.map fun run => run.map TransferPlan.move) := by
    rw [Runs, List.forall₂_map_left_iff, List.forall₂_map_right_iff]
    exact ordered.imp fun _ _ same => same.map _
  have fair : ∀ round ∈ (poolChunks seed clients poolSize warmup measured).map fun chunk =>
      chunk.map TransferPlan.move, Fair round := by
    intro round member
    obtain ⟨chunk, present, rfl⟩ := List.mem_map.mp member
    exact (rounds chunk present).fair
  have short := @poolChunks_short _ clients _ _ _ pool small counted
  have bounded : ∀ before after, runs.flatten = before ++ after → ∀ account,
      |net (before.map TransferPlan.move) account| ≤ 3 := by
    intro before after split account
    have cut : (runs.map fun run => run.map TransferPlan.move).flatten =
        before.map TransferPlan.move ++ after.map TransferPlan.move := by
      rw [← List.map_flatten, split, List.map_append]
    have bound := moves.net_prefix fair cut account
    omega
  have within : ∀ plan ∈ runs.flatten, plan.source < poolSize := by
    intro plan member
    obtain ⟨chunk, present, here⟩ := List.mem_flatten.mp ((perm_flatten ordered).mem_iff.mp member)
    exact ((rounds chunk present).within plan here).1
  constructor
  · rw [execute_all within bounded, settled_perm (perm_flatten ordered), every]
    rfl
  · intro before after split
    have members : ∀ plan ∈ before ++ after, plan.source < poolSize := split ▸ within
    refine ⟨_, execute_all (fun plan member => members plan (List.mem_append_left _ member)) ?_,
      ?_, ?_⟩
    · intro earlier later cut account
      exact bounded earlier (later ++ after) (by rw [split, cut, List.append_assoc]) account
    · intro balance member
      obtain ⟨account, found⟩ := List.mem_iff_getElem?.mp member
      have bound := abs_le.mp (bounded before after split account)
      rw [settled_getElem?, initialBalances, List.getElem?_replicate] at found
      split at found
      · rw [Option.map_some, Option.some.injEq, accountPoolInitialBalanceMinor] at found
        omega
      · cases found
    · intro plan following
      have member : plan ∈ before ++ after :=
        List.mem_append_right _ (List.mem_of_head? following)
      have bound := abs_le.mp (bounded before after split plan.source)
      rw [balance_eq (members plan member), Option.getD_some, accountPoolInitialBalanceMinor]
      omega

theorem account_pool_never_rejected_three :
    (poolChunks 5 2 3 4 7).flatten.foldlM execute (initialBalances 3) =
      some (expectedPoolBalances 3 (accountPoolPlans 5 2 3 4 7)) :=
  ((account_pool_never_rejected (by decide) (by decide) (by decide) (by decide)).2.2.2.2 _
    (List.forall₂_same.mpr fun _ _ => .refl _)).1

end LedgerService.Benchmarks
