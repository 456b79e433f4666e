import Mathlib.Data.List.Sort
import Mathlib.Data.String.Basic
import LedgerService.ApiError
import LedgerService.Benchmarks.Dataset
import LedgerService.Parsing

set_option autoImplicit false

namespace LedgerService.Benchmarks

def maxConcurrency : Nat := 256

def maxInstances : Nat := 16

def maxAccountPoolSize : Nat := 10000

-- The greatest `u64` and `usize`.
def u64Max : Nat := 2 ^ 64 - 1

inductive Scenario where
  | independent
  | hotAccount
  | idempotentReplay
  | accountPool
  | fxIndependent
  deriving DecidableEq

structure Url where
  scheme : String
  path : String

/-- What is read outside the repository: `Url::parse`, and whether a path names a file. -/
structure Host where
  parseUrl : String → Option Url
  isFile : String → Bool

structure Config where
  serviceUrls : List String
  instanceLevels : List Nat
  databaseUrl : String
  scenario : Scenario
  logicalClients : Nat
  concurrency : Nat
  concurrencyLevels : List Nat
  operations : Nat
  accountPoolSize : Nat
  warmupOperations : Nat
  seed : Nat
  requestTimeoutSecs : Nat
  allowDestructive : Bool
  jwtIssuer : String
  jwtAudience : String
  jwtPrivateKey : String
  jwtLifetimeSecs : Nat
  dbMaxConnections : Nat
  -- Counts of operations are `usize` values.
  counts : operations ≤ u64Max ∧ warmupOperations ≤ u64Max

-- `windows(2).any(..)`, of equal neighbours.
def equalNeighbours {α : Type} [DecidableEq α] (values : List α) : Bool :=
  (values.zip values.tail).any fun pair => pair.1 = pair.2

def parseLevels (values : List Nat) (maximum : Nat) (name : String) : Except String (List Nat) := do
  bailIf (values.any fun level => level = 0 || level > maximum)
    (name ++ " levels must be between 1 and " ++ toString maximum)
  let levels := values.insertionSort (· ≤ ·)
  bailIf (equalNeighbours levels) (name ++ " levels must not contain duplicates")
  .ok levels

def parseConcurrencyLevels (values : List Nat) : Except String (List Nat) :=
  parseLevels values maxConcurrency "concurrency"

def parseInstanceLevels (values : List Nat) : Except String (List Nat) :=
  parseLevels values maxInstances "instance"

def databaseName (host : Host) (databaseUrl : String) : Except String String := do
  let url ← withContext "benchmark database URL cannot be parsed safely" (host.parseUrl databaseUrl)
  bailIf (¬ (url.scheme = "postgres" ∨ url.scheme = "postgresql") ∨ '%' ∈ url.path.toList)
    "benchmark database URL cannot be parsed safely"
  let name ← withContext "benchmark database name cannot be parsed safely"
    ((Text.stripPrefix ['/'] url.path.toList).filter fun name => name ≠ [] ∧ '/' ∉ name)
  bailIf (¬ "_benchmark".toList <:+ name ∨ ¬ name.all fun c => c.isAlphanum || c = '_')
    "benchmark database name must be an ASCII identifier ending in _benchmark"
  .ok (String.ofList name)

def saturatingMul (first second : Nat) : Nat := min (first * second) u64Max

def saturatingAdd (first second : Nat) : Nat := min (first + second) u64Max

def divCeil (value divisor : Nat) : Nat := (value + divisor - 1) / divisor

namespace Config

variable (config : Config)

def minimum : Nat :=
  let longest := config.concurrencyLevels.min?.getD config.concurrency
  saturatingAdd
    (saturatingMul config.requestTimeoutSecs
      (divCeil (usizeAdd config.operations config.warmupOperations) longest)) 60

def validate (host : Host) : Except String Unit := do
  bailIf (config.allowDestructive = false)
    "BENCHMARK_ALLOW_DESTRUCTIVE=1 (or --allow-destructive) is required"
  let _ ← databaseName host config.databaseUrl
  bailIf (config.serviceUrls = [] ∨ config.serviceUrls.any fun url =>
      (host.parseUrl url).all fun parsed => ¬ (parsed.scheme = "http" ∨ parsed.scheme = "https"))
    "at least one valid service URL is required"
  bailIf (equalNeighbours (config.serviceUrls.insertionSort (· ≤ ·)))
    "service URLs must not contain duplicates"
  let instanceLevels ← parseInstanceLevels config.instanceLevels
  bailIf (∃ largest ∈ instanceLevels.getLast?, config.serviceUrls.length ≠ largest)
    "service URL count must equal the largest declared instance level"
  bailIf (config.logicalClients = 0 ∨ config.concurrency = 0 ∨ config.concurrency > maxConcurrency ∨
      config.operations = 0)
    ("logical clients, operations, and concurrency (maximum " ++ toString maxConcurrency ++
      ") must be greater than zero")
  bailIf (config.scenario = .accountPool ∧
      ¬ (2 ≤ config.accountPoolSize ∧ config.accountPoolSize ≤ maxAccountPoolSize))
    ("account pool size must be between 2 and " ++ toString maxAccountPoolSize)
  bailIf (config.scenario = .accountPool ∧ config.operations ≤ config.accountPoolSize)
    "account-pool operations must exceed account pool size to reuse accounts"
  let _ ← parseConcurrencyLevels config.concurrencyLevels
  bailIf (config.requestTimeoutSecs = 0 ∨ config.jwtLifetimeSecs = 0)
    "request timeout and JWT lifetime must be greater than zero"
  bailIf (config.dbMaxConnections = 0) "DB_MAX_CONNECTIONS must be greater than zero"
  bailIf (Text.trim config.jwtIssuer.toList = [] ∨ Text.trim config.jwtAudience.toList = [])
    "JWT issuer and audience must not be blank"
  bailIf (host.isFile config.jwtPrivateKey = false)
    "BENCHMARK_JWT_PRIVATE_KEY must name a readable private-key file"
  bailIf (config.jwtLifetimeSecs < config.minimum)
    ("JWT lifetime is shorter than the conservative configured run duration (" ++
      toString config.minimum ++ "s)")

def levels : Except String (List Nat) :=
  if config.concurrencyLevels = [] then .ok [config.concurrency]
  else parseConcurrencyLevels config.concurrencyLevels

-- `instance_levels()`.
def topologyLevels : Except String (List Nat) :=
  if config.instanceLevels = [] then .ok [config.serviceUrls.length]
  else parseInstanceLevels config.instanceLevels

end Config

section Levels

theorem equalNeighbours_of_sorted {α : Type} [LinearOrder α] [DecidableEq α] {values : List α}
    (sorted : values.Pairwise (· ≤ ·)) : equalNeighbours values = false ↔ values.Nodup := by
  induction values with
  | nil => simp [equalNeighbours]
  | cons first rest ih =>
    cases rest with
    | nil => simp [equalNeighbours]
    | cons second rest =>
      obtain ⟨least, sorted⟩ := List.pairwise_cons.mp sorted
      have above := (List.pairwise_cons.mp sorted).1
      have step : equalNeighbours (first :: second :: rest) =
          (decide (first = second) || equalNeighbours (second :: rest)) := by
        simp [equalNeighbours]
      have apart : first ∉ second :: rest ↔ first ≠ second := by
        constructor
        · rintro absent rfl
          exact absent List.mem_cons_self
        · intro different member
          rcases List.mem_cons.mp member with same | later
          · exact different same
          · exact different (le_antisymm (least second List.mem_cons_self) (above first later))
      rw [step, Bool.or_eq_false_iff, decide_eq_false_iff_not, ih sorted,
        List.nodup_cons (a := first), apart]

theorem equalNeighbours_insertionSort {α : Type} [LinearOrder α] [DecidableEq α] (values : List α) :
    equalNeighbours (values.insertionSort (· ≤ ·)) = false ↔ values.Nodup := by
  rw [equalNeighbours_of_sorted (List.pairwise_insertionSort _ _),
    (List.perm_insertionSort _ values).nodup_iff]

theorem parseLevels_eq_ok {values levels : List Nat} {maximum : Nat} {name : String} :
    parseLevels values maximum name = .ok levels ↔
      (∀ level ∈ values, 1 ≤ level ∧ level ≤ maximum) ∧ values.Nodup ∧
        values.insertionSort (· ≤ ·) = levels := by
  simp only [parseLevels, bind_eq_ok, Except.ok.injEq]
  constructor
  · rintro ⟨⟨⟩, range, ⟨⟩, distinct, rfl⟩
    rw [bailIf_eq_ok] at range distinct
    refine ⟨?_, (equalNeighbours_insertionSort values).mp (by simpa using distinct), rfl⟩
    intro level member
    by_contra outside
    refine range (List.any_eq_true.mpr ⟨level, member, ?_⟩)
    simp only [Bool.or_eq_true, decide_eq_true_eq]
    omega
  · rintro ⟨range, distinct, rfl⟩
    refine ⟨(), bailIf_eq_ok.mpr ?_, (), bailIf_eq_ok.mpr ?_, rfl⟩
    · intro outside
      obtain ⟨level, member, either⟩ := List.any_eq_true.mp outside
      have within := range level member
      simp only [Bool.or_eq_true, decide_eq_true_eq] at either
      omega
    · rw [(equalNeighbours_insertionSort values).mpr distinct]
      simp

end Levels

namespace Config

/-- What `validate` has checked, but for the lifetime of the tokens. -/
structure Checked (config : Config) (host : Host) : Prop where
  allowDestructive : config.allowDestructive = true
  database : ∃ name, databaseName host config.databaseUrl = .ok name
  urls : ¬ (config.serviceUrls = [] ∨ config.serviceUrls.any fun url =>
    (host.parseUrl url).all fun parsed => ¬ (parsed.scheme = "http" ∨ parsed.scheme = "https"))
  distinct : equalNeighbours (config.serviceUrls.insertionSort (· ≤ ·)) = false
  instances : ∃ levels, parseInstanceLevels config.instanceLevels = .ok levels ∧
    ∀ largest ∈ levels.getLast?, config.serviceUrls.length = largest
  positive : ¬ (config.logicalClients = 0 ∨ config.concurrency = 0 ∨
    config.concurrency > maxConcurrency ∨ config.operations = 0)
  pool : config.scenario = .accountPool →
    2 ≤ config.accountPoolSize ∧ config.accountPoolSize ≤ maxAccountPoolSize
  reused : config.scenario = .accountPool → config.accountPoolSize < config.operations
  concurrency : ∃ levels, parseConcurrencyLevels config.concurrencyLevels = .ok levels
  timeout : config.requestTimeoutSecs ≠ 0
  connections : config.dbMaxConnections ≠ 0
  named : ¬ (Text.trim config.jwtIssuer.toList = [] ∨ Text.trim config.jwtAudience.toList = [])
  key : host.isFile config.jwtPrivateKey = true

theorem validate_eq_ok {config : Config} {host : Host} :
    config.validate host = .ok () ↔
      config.Checked host ∧ config.jwtLifetimeSecs ≠ 0 ∧ config.minimum ≤ config.jwtLifetimeSecs := by
  simp only [validate, bind_eq_ok]
  constructor
  · rintro ⟨⟨⟩, allowed, _, database, ⟨⟩, urls, ⟨⟩, distinct, levels, instances, ⟨⟩, largest, ⟨⟩,
      positive, ⟨⟩, pool, ⟨⟩, reused, _, concurrency, ⟨⟩, timeout, ⟨⟩, connections, ⟨⟩, named, ⟨⟩, key,
      lifetime⟩
    rw [bailIf_eq_ok] at allowed urls distinct largest positive pool reused timeout
    rw [bailIf_eq_ok] at connections named key lifetime
    refine ⟨⟨by simpa using allowed, ⟨_, database⟩, urls, by simpa using distinct,
      ⟨levels, instances, ?_⟩, positive, ?_, ?_, ⟨_, concurrency⟩, ?_, connections, named,
      by simpa using key⟩, ?_, Nat.not_lt.mp lifetime⟩
    · intro last ends
      by_contra different
      exact largest ⟨last, ends, different⟩
    · intro scenario
      by_contra outside
      exact pool ⟨scenario, outside⟩
    · intro scenario
      by_contra few
      exact reused ⟨scenario, Nat.not_lt.mp few⟩
    · exact fun zero => timeout (.inl zero)
    · exact fun zero => timeout (.inr zero)
  · rintro ⟨checked, alive, lifetime⟩
    obtain ⟨_, database⟩ := checked.database
    obtain ⟨levels, instances, largest⟩ := checked.instances
    obtain ⟨_, concurrency⟩ := checked.concurrency
    refine ⟨(), ?_, _, database, (), bailIf_eq_ok.mpr checked.urls, (), ?_, levels, instances, (), ?_,
      (), bailIf_eq_ok.mpr checked.positive, (), ?_, (), ?_, _, concurrency, (), ?_, (),
      bailIf_eq_ok.mpr checked.connections, (), bailIf_eq_ok.mpr checked.named, (), ?_,
      bailIf_eq_ok.mpr (Nat.not_lt.mpr lifetime)⟩ <;> rw [bailIf_eq_ok]
    · simp [checked.allowDestructive]
    · simp [checked.distinct]
    · rintro ⟨last, ends, different⟩
      exact different (largest last ends)
    · exact fun ⟨scenario, outside⟩ => outside (checked.pool scenario)
    · exact fun ⟨scenario, few⟩ => absurd few (Nat.not_le.mpr (checked.reused scenario))
    · exact not_or.mpr ⟨checked.timeout, alive⟩
    · simp [checked.key]

end Config

namespace Sample

def host : Host where
  parseUrl text :=
    if text ∈ ["http://localhost:3000", "http://localhost:3001", "http://localhost:3002"] then
      some ⟨"http", "/"⟩
    else if text = "postgres://localhost/ledger_benchmark" then
      some ⟨"postgres", "/ledger_benchmark"⟩
    else none
  isFile path := path = "key.pem"

def config : Config where
  serviceUrls := ["http://localhost:3000"]
  instanceLevels := []
  databaseUrl := "postgres://localhost/ledger_benchmark"
  scenario := .independent
  logicalClients := 2
  concurrency := 2
  concurrencyLevels := []
  operations := 20
  accountPoolSize := 1000
  warmupOperations := 4
  seed := 1
  requestTimeoutSecs := 10
  allowDestructive := true
  jwtIssuer := "issuer"
  jwtAudience := "ledger"
  jwtPrivateKey := "key.pem"
  jwtLifetimeSecs := 3600
  dbMaxConnections := 10
  counts := by decide

theorem accepted {config : Config} (valid : (config.validate host).toBool = true) :
    config.validate host = .ok () := by
  cases result : config.validate host with
  | error message =>
    rw [result] at valid
    cases valid
  | ok => rfl

end Sample

end LedgerService.Benchmarks
