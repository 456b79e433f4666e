import LedgerService.Benchmarks.Config

set_option autoImplicit false

/-!
# Runs of the benchmark driver

Requests of a phase are dispatched together and complete in any order; what the service answers is
not the driver's choice.
-/

namespace LedgerService.Benchmarks

/-- The instances under test, of which there is one at least. -/
structure Http where
  urls : List String
  nonempty : urls ≠ []

def Http.urlFor (http : Http) (operation : Nat) : String :=
  http.urls.get ⟨operation % http.urls.length, Nat.mod_lt _ (List.length_pos_iff.mpr http.nonempty)⟩

structure Operation where
  valid : Bool
  transferId : Option Uuid
  requestKey : Option String
  serviceUrl : String
  deriving DecidableEq

/-- What becomes of a request: an answer with its status and the `id` of its body, if that is JSON,
or a failure of the transport. -/
inductive Response where
  | answer (status : Nat) (id : Option String)
  | failure

def Http.transfer (http : Http) (parseUuid : String → Option Uuid) (operation : Nat)
    (response : Response) : Operation :=
  let serviceUrl := http.urlFor operation
  match response with
  | .answer status (some id) =>
      if status = 201 then ⟨true, parseUuid id, none, serviceUrl⟩
      else ⟨false, none, none, serviceUrl⟩
  | .answer _ none | .failure => ⟨false, none, none, serviceUrl⟩

-- `slice::chunks`.
def chunks {α : Type} (size : Nat) (values : List α) : List (List α) :=
  (List.range (divCeil values.length size)).map fun index => (values.drop (index * size)).take size

section Chunks

variable {α : Type} {size : Nat} {values : List α}

theorem flatten_slices (size count : Nat) (values : List α) :
    ((List.range count).map fun index => (values.drop (index * size)).take size).flatten =
      values.take (count * size) := by
  induction count with
  | zero => simp
  | succ count ih =>
    rw [List.range_succ, List.map_append, List.flatten_append, ih, Nat.add_mul, Nat.one_mul,
      List.take_add]
    simp

theorem divCeil_mul_ge (value : Nat) (positive : 0 < size) : value ≤ divCeil value size * size := by
  have division := Nat.div_add_mod (value + size - 1) size
  have remainder := Nat.mod_lt (value + size - 1) positive
  rw [divCeil, Nat.mul_comm]
  omega

theorem chunks_flatten (positive : 0 < size) (values : List α) :
    (chunks size values).flatten = values := by
  rw [chunks, flatten_slices, List.take_of_length_le (divCeil_mul_ge _ positive)]

theorem mem_chunks {chunk : List α} (member : chunk ∈ chunks size values) :
    ∃ index, chunk = (values.drop (index * size)).take size := by
  obtain ⟨index, _, rfl⟩ := List.mem_map.mp member
  exact ⟨index, rfl⟩

theorem chunks_short (positive : 0 < size) (values : List α) :
    ((chunks size values).filter fun chunk => chunk.length ≠ size).length ≤ 1 := by
  unfold chunks
  cases number : divCeil values.length size with
  | zero => simp
  | succ count =>
    have below : count * size < values.length := by
      by_contra above
      have few : divCeil values.length size ≤ divCeil (count * size) size :=
        Nat.div_le_div_right (by omega)
      have exact : divCeil (count * size) size = count := by
        rw [divCeil, Nat.add_sub_assoc positive, Nat.add_comm, Nat.add_mul_div_right _ _ positive,
          Nat.div_eq_of_lt (by omega), Nat.zero_add]
      omega
    have full : ((List.range count).map fun index => (values.drop (index * size)).take size).filter
        (fun chunk => chunk.length ≠ size) = [] := by
      rw [List.filter_eq_nil_iff]
      intro chunk member
      obtain ⟨index, earlier, rfl⟩ := List.mem_map.mp member
      have before : (index + 1) * size ≤ count * size :=
        Nat.mul_le_mul_right _ (List.mem_range.mp earlier)
      rw [Nat.add_mul] at before
      simp only [List.length_take, List.length_drop, decide_not, Bool.not_eq_true',
        decide_eq_false_iff_not, not_not]
      omega
    rw [List.range_succ, List.map_append, List.filter_append, full, List.nil_append]
    exact (List.length_filter_le _ _)

end Chunks

section Run

variable (config : Config) (http : Http) (parseUuid : String → Option Uuid)

def dispatched (responses : Nat → Response) (plans : List TransferPlan) : List Operation :=
  plans.zipIdx.map fun (plan, index) =>
    { http.transfer parseUuid index (responses index) with requestKey := some plan.key }

/-- `run_phase` returns the operations as they complete. -/
def RunPhase (plans : List TransferPlan) (operations : List Operation) : Prop :=
  ∃ responses, operations.Perm (dispatched http parseUuid responses plans)

def phases (plans : List TransferPlan) : List (List TransferPlan) :=
  if config.scenario = .accountPool then chunks config.accountPoolSize plans else [plans]

def RunOperations (plans : List TransferPlan) (operations : List Operation) : Prop :=
  ∃ parts, List.Forall₂ (RunPhase http parseUuid) (phases config plans) parts ∧
    operations = parts.flatten

def Scenario.plan : Scenario → ScenarioPlan
  | .independent => .independent
  | .hotAccount => .hotAccount
  | .idempotentReplay => .idempotentReplay
  | .accountPool => .accountPool
  | .fxIndependent => .fxIndependent

def levelPlans : Option (List TransferPlan) :=
  if config.scenario = .accountPool then
    some (accountPoolPlans config.seed config.logicalClients config.accountPoolSize
      config.warmupOperations config.operations)
  else
    plans config.scenario.plan config.seed config.logicalClients config.warmupOperations
      config.operations

-- `plans[config.warmup_operations..]`.
def measuredPlans : Option (List TransferPlan) := do
  let plans ← levelPlans config
  if config.warmupOperations ≤ plans.length then some (plans.drop config.warmupOperations) else none

end Run

/-- `*counts.entry(url).or_default() += 1`; the order of the keys is of no account here. -/
def increment (url : String) : List (String × Nat) → List (String × Nat)
  | [] => [(url, 1)]
  | (key, count) :: rest =>
      if key = url then (key, count + 1) :: rest else (key, count) :: increment url rest

def measuredRequestsPerUrl (operations : List Operation) : List (String × Nat) :=
  operations.foldl (fun counts operation => increment operation.serviceUrl counts) []

def everyInstanceReceivedMeasuredTraffic (urls : List String) (operations : Nat)
    (counts : List (String × Nat)) : Bool :=
  operations < urls.length || urls.all fun url => counts.any fun entry => entry.1 = url

end LedgerService.Benchmarks
