import Mathlib.Algebra.Order.Ring.Int
import Mathlib.Data.List.Range

set_option autoImplicit false

namespace LedgerService.Benchmarks

inductive ScenarioPlan where
  | independent
  | hotAccount
  | idempotentReplay
  | accountPool
  | fxIndependent
  deriving DecidableEq

structure TransferPlan where
  owner : String
  client : Nat
  phase : String
  source : Nat
  destination : Nat
  key : String
  deriving DecidableEq

def accountPoolInitialBalanceMinor : Int := 10000

-- The sum of two `usize` values, as a release build computes it.
def usizeAdd (first second : Nat) : Nat := (first + second) % 2 ^ 64

def subject (seed client : Nat) : String := "benchmark-" ++ toString seed ++ "-" ++ toString client

def phaseName (index warmup : Nat) : String := if index < warmup then "warmup" else "measured"

/-- The plan of one index; none is reachable for the account pool. -/
def plan (scenario : ScenarioPlan) (seed clients warmup index : Nat) : Option TransferPlan := do
  let phase := phaseName index warmup
  let client ←
    match scenario with
    | .hotAccount => some 0
    | .independent | .idempotentReplay | .fxIndependent => some (index % clients)
    | .accountPool => none
  let (source, destination) ←
    match scenario with
    | .independent | .idempotentReplay | .fxIndependent => some (index, index)
    | .accountPool => none
    | .hotAccount => some (if phase = "warmup" then 0 else 1, index)
  some {
    owner := subject seed client
    client := client
    phase := phase
    source := source
    destination := destination
    key := "benchmark-" ++ toString seed ++ "-" ++ phase ++ "-" ++ toString index ++ "-" ++
      toString client }

def plans (scenario : ScenarioPlan) (seed clients warmup measured : Nat) :
    Option (List TransferPlan) :=
  (List.range (usizeAdd warmup measured)).mapM (plan scenario seed clients warmup)

def poolOffset (seed poolSize : Nat) : Nat := seed % (poolSize - 1) + 1

def accountPoolPlan (seed clients poolSize warmup index : Nat) : TransferPlan :=
  let source := usizeAdd index seed % poolSize
  let destination := usizeAdd source (poolOffset seed poolSize) % poolSize
  let phase := phaseName index warmup
  { owner := subject seed (source % clients)
    client := source % clients
    phase := phase
    source := source
    destination := destination
    key := "benchmark-" ++ toString seed ++ "-account-pool-" ++ phase ++ "-" ++ toString index ++
      "-" ++ toString source }

def accountPoolPlans (seed clients poolSize warmup measured : Nat) : List TransferPlan :=
  (List.range (usizeAdd warmup measured)).map (accountPoolPlan seed clients poolSize warmup)

def settle (balances : List Int) (plan : TransferPlan) : List Int :=
  (balances.modify plan.source (· - 100)).modify plan.destination (· + 100)

def expectedPoolBalances (poolSize : Nat) (plans : List TransferPlan) : List Int :=
  plans.foldl settle (List.replicate poolSize accountPoolInitialBalanceMinor)

end LedgerService.Benchmarks
