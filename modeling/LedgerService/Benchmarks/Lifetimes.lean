import Mathlib.Algebra.Order.BigOperators.Group.List
import LedgerService.Benchmarks.Config
import LedgerService.Traversals

set_option autoImplicit false

namespace LedgerService.Benchmarks

open Traversals

namespace Config

variable (config : Config)

def topologyRuns (instances : Nat) : Except String (List (Nat × Nat)) := do
  let levels ← config.levels
  .ok (levels.map fun concurrency => (instances, concurrency))

-- The loops of `run`, over instances that are all ready.
def runs : Except String (List (Nat × Nat)) := do
  let topologies ← config.topologyLevels
  let sweeps ← topologies.mapM config.topologyRuns
  .ok sweeps.flatten

/-- The seconds that one run may take: every request waits for its timeout. -/
def runSecs (concurrency : Nat) : Nat :=
  config.requestTimeoutSecs * divCeil (config.operations + config.warmupOperations) concurrency

def sweepSecs (runs : List (Nat × Nat)) : Nat := (runs.map fun run => config.runSecs run.2).sum

def slowest : Nat := config.concurrencyLevels.min?.getD config.concurrency

/-- Besides one run of the slowest level the sweep takes a minute at most, and its times can be
counted. -/
structure WithinSlack (runs : List (Nat × Nat)) : Prop where
  count : config.operations + config.warmupOperations ≤ u64Max
  total : config.sweepSecs runs ≤ u64Max
  others : config.sweepSecs runs ≤ config.runSecs config.slowest + 60

end Config

section Sweep

variable {config : Config} {host : Host}

theorem divCeil_add_mul (value count : Nat) {divisor : Nat} (positive : 0 < divisor) :
    divCeil (value + count * divisor) divisor = divCeil value divisor + count := by
  have numerator : value + count * divisor + divisor - 1 =
      value + divisor - 1 + count * divisor := by omega
  rw [divCeil, divCeil, numerator, Nat.add_mul_div_right _ _ positive]

theorem divCeil_mono {value more divisor : Nat} (fewer : value ≤ more) :
    divCeil value divisor ≤ divCeil more divisor :=
  Nat.div_le_div_right (by omega)

theorem levels_ok (checked : config.Checked host) :
    ∃ levels, config.levels = .ok levels ∧ config.slowest ∈ levels ∧ 1 ≤ config.slowest ∧
      config.slowest ≤ maxConcurrency := by
  obtain ⟨levels, parsed⟩ := checked.concurrency
  obtain ⟨range, _, sorted⟩ := parseLevels_eq_ok.mp parsed
  unfold Config.levels Config.slowest
  by_cases single : config.concurrencyLevels = []
  · have positive := checked.positive
    rw [if_pos single, single]
    refine ⟨_, rfl, by simp, ?_, ?_⟩ <;> simp only [List.min?_nil, Option.getD_none] <;> omega
  · obtain ⟨least, found⟩ := Option.isSome_iff_exists.mp (List.isSome_min?_of_ne_nil single)
    have member := List.min?_mem found
    rw [if_neg single, found, Option.getD_some]
    refine ⟨levels, parsed, ?_, range least member⟩
    rw [← sorted]
    exact (List.mem_insertionSort _).mpr member

theorem topologyLevels_ok (checked : config.Checked host) :
    ∃ topologies, config.topologyLevels = .ok topologies ∧ topologies ≠ [] := by
  obtain ⟨levels, parsed, _⟩ := checked.instances
  obtain ⟨_, _, sorted⟩ := parseLevels_eq_ok.mp parsed
  unfold Config.topologyLevels
  by_cases single : config.instanceLevels = []
  · exact ⟨_, if_pos single, by simp⟩
  · refine ⟨levels, by rw [if_neg single, parsed], ?_⟩
    rintro rfl
    exact single (List.perm_nil.mp (sorted ▸ (List.perm_insertionSort _ _).symm))

theorem runs_ok (checked : config.Checked host) :
    ∃ runs, config.runs = .ok runs ∧ ∃ instances, (instances, config.slowest) ∈ runs := by
  obtain ⟨levels, levelled, slowest, _⟩ := levels_ok checked
  obtain ⟨topologies, topologied, nonempty⟩ := topologyLevels_ok checked
  have sweeps : topologies.mapM config.topologyRuns = .ok (topologies.map fun instances =>
      levels.map fun concurrency => (instances, concurrency)) := by
    rw [mapM_eq_ok, List.forall₂_map_right_iff, List.forall₂_same]
    intro instances _
    rw [Config.topologyRuns, levelled]
    rfl
  have swept : config.runs = .ok (topologies.map fun instances =>
      levels.map fun concurrency => (instances, concurrency)).flatten := by
    rw [Config.runs, topologied]
    simp only [bind, Except.bind, sweeps]
  obtain ⟨instances, member⟩ := List.exists_mem_of_ne_nil topologies nonempty
  exact ⟨_, swept, instances, List.mem_flatten.mpr ⟨_, List.mem_map_of_mem member,
    List.mem_map_of_mem slowest⟩⟩

theorem runSecs_le_sweepSecs {runs : List (Nat × Nat)} {instances concurrency : Nat}
    (member : (instances, concurrency) ∈ runs) :
    config.runSecs concurrency ≤ config.sweepSecs runs :=
  List.le_sum_of_mem (List.mem_map_of_mem (f := fun run => config.runSecs run.2) member)

theorem minimum_eq (count : config.operations + config.warmupOperations ≤ u64Max) :
    config.minimum = min (config.runSecs config.slowest + 60) u64Max := by
  have sum : usizeAdd config.operations config.warmupOperations =
      config.operations + config.warmupOperations := by
    rw [usizeAdd, Nat.mod_eq_of_lt]
    simp only [u64Max] at count
    omega
  simp only [Config.minimum, Config.runSecs, Config.slowest, saturatingAdd, saturatingMul, sum]
  omega

theorem minimum_lt_runSecs (checked : config.Checked host)
    (overflow : u64Max < config.operations + config.warmupOperations) :
    config.minimum < config.runSecs config.slowest := by
  -- The sum wraps around, and loses more than the minute adds.
  obtain ⟨_, _, _, positive, small⟩ := levels_ok checked
  have timeout := checked.timeout
  have wrapped : usizeAdd config.operations config.warmupOperations + 2 ^ 56 * config.slowest ≤
      config.operations + config.warmupOperations := by
    have bound : 2 ^ 56 * config.slowest ≤ 2 ^ 64 := by
      simp only [maxConcurrency] at small
      omega
    simp only [usizeAdd, u64Max] at overflow ⊢
    omega
  have rounds := @divCeil_mono _ _ config.slowest wrapped
  rw [divCeil_add_mul _ _ positive] at rounds
  calc config.minimum
      ≤ config.requestTimeoutSecs *
          divCeil (usizeAdd config.operations config.warmupOperations) config.slowest + 60 := by
        simp only [Config.minimum, Config.slowest, saturatingAdd, saturatingMul]
        omega
    _ < config.requestTimeoutSecs *
          (divCeil (usizeAdd config.operations config.warmupOperations) config.slowest + 2 ^ 56) := by
        rw [Nat.mul_add]
        omega
    _ ≤ config.runSecs config.slowest := Nat.mul_le_mul_left _ rounds

end Sweep

/-- Every lifetime that is accepted covers the sweep, if and only if the sweep takes at most a minute
besides one run of its slowest level. -/
theorem lifetime_outlasts_iff {config : Config} {host : Host}
    (accepted : config.validate host = .ok ()) :
    ∃ runs, config.runs = .ok runs ∧
      ((∀ lifetime ≤ u64Max, { config with jwtLifetimeSecs := lifetime }.validate host = .ok () →
        config.sweepSecs runs ≤ lifetime) ↔ config.WithinSlack runs) ∧
      (config.WithinSlack runs → config.sweepSecs runs ≤ config.jwtLifetimeSecs) := by
  obtain ⟨checked, alive, covered⟩ := Config.validate_eq_ok.mp accepted
  obtain ⟨runs, swept, instances, member⟩ := runs_ok checked
  have longest := @runSecs_le_sweepSecs config _ _ _ member
  have enough : config.WithinSlack runs → config.sweepSecs runs ≤ config.minimum := by
    intro slack
    rw [minimum_eq slack.count]
    exact le_min slack.others slack.total
  refine ⟨runs, swept, ⟨?_, ?_⟩, fun slack => (enough slack).trans covered⟩
  · intro every
    have bounded : config.minimum ≤ u64Max := min_le_right _ _
    have least : { config with jwtLifetimeSecs := config.minimum }.validate host = .ok () := by
      refine Config.validate_eq_ok.mpr ⟨?_, ?_, le_rfl⟩
      · exact { checked with }
      · simp only [Config.minimum, saturatingAdd, u64Max]
        omega
    have fits := every config.minimum bounded least
    have count : config.operations + config.warmupOperations ≤ u64Max := by
      by_contra overflow
      have short := minimum_lt_runSecs checked (Nat.not_le.mp overflow)
      omega
    rw [minimum_eq count] at fits
    exact ⟨count, fits.trans (min_le_right _ _), fits.trans (min_le_left _ _)⟩
  · intro slack lifetime _ accepted'
    obtain ⟨_, _, covered'⟩ := Config.validate_eq_ok.mp accepted'
    exact (enough slack).trans covered'

namespace Sample

def sweep (concurrencyLevels : List Nat) (jwtLifetimeSecs : Nat) : Config :=
  { config with concurrencyLevels := concurrencyLevels, jwtLifetimeSecs := jwtLifetimeSecs }

end Sample

theorem lifetime_outlasts_iff_two :
    ∃ runs, (Sample.sweep [2, 8] 180).runs = .ok runs ∧ runs.length = 2 ∧
      (Sample.sweep [2, 8] 180).sweepSecs runs ≤ (Sample.sweep [2, 8] 180).jwtLifetimeSecs := by
  obtain ⟨runs, swept, _, enough⟩ :=
    lifetime_outlasts_iff (@Sample.accepted (Sample.sweep [2, 8] 180) (by decide +kernel))
  obtain rfl : [(1, 2), (1, 8)] = runs := Except.ok.inj swept
  exact ⟨_, swept, rfl, enough ⟨by decide, by decide, by decide⟩⟩

theorem lifetime_outlasts_sweep :
    (Sample.sweep [1, 2] 300).validate Sample.host = .ok () ∧
      (Sample.sweep [1, 2] 300).runs = .ok [(1, 1), (1, 2)] ∧
      ¬ (Sample.sweep [1, 2] 300).sweepSecs [(1, 1), (1, 2)] ≤ 300 :=
  ⟨Sample.accepted (by decide +kernel), rfl, by decide⟩

end LedgerService.Benchmarks
