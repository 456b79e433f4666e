import LedgerService.Benchmarks.Driver
import LedgerService.Traversals

set_option autoImplicit false

namespace LedgerService.Benchmarks

open Traversals

section Counts

variable {counts : List (String × Nat)} {url key : String} {operations : List Operation}

theorem increment_any : (increment url counts).any (fun entry => entry.1 = key) =
    (decide (url = key) || counts.any fun entry => entry.1 = key) := by
  induction counts with
  | nil => simp [increment]
  | cons entry rest ih =>
    obtain ⟨name, count⟩ := entry
    by_cases same : name = url
    · subst same
      simp [increment]
    · simp only [increment, if_neg same, List.any_cons, ih]
      exact Bool.or_left_comm _ _ _

theorem increment_lookup : ((increment url counts).lookup key).getD 0 =
    (counts.lookup key).getD 0 + if url = key then 1 else 0 := by
  induction counts with
  | nil =>
    by_cases same : url = key
    · simp [increment, same]
    · have different : (key == url) = false := by simpa using Ne.symm same
      simp [increment, List.lookup_cons, different, same]
  | cons entry rest ih =>
    obtain ⟨name, count⟩ := entry
    by_cases same : name = url
    · subst same
      by_cases here : name = key
      · simp [increment, here]
      · have different : (key == name) = false := by simpa using Ne.symm here
        simp [increment, List.lookup_cons, different, here]
    · by_cases here : name = key
      · subst here
        simp [increment, Ne.symm same, same]
      · have different : (key == name) = false := by simpa using Ne.symm here
        simp only [increment, if_neg same, List.lookup_cons, different]
        exact ih

theorem increment_sum : ((increment url counts).map Prod.snd).sum = (counts.map Prod.snd).sum + 1 := by
  induction counts with
  | nil => rfl
  | cons entry rest ih =>
    obtain ⟨name, count⟩ := entry
    by_cases same : name = url
    · simp only [increment, if_pos same, List.map_cons, List.sum_cons]
      omega
    · simp only [increment, if_neg same, List.map_cons, List.sum_cons, ih]
      omega

structure Counted (counts : List (String × Nat)) (urls : List String) : Prop where
  each : ∀ url, (counts.lookup url).getD 0 = urls.count url
  total : (counts.map Prod.snd).sum = urls.length
  present : ∀ url, (counts.any fun entry => entry.1 = url) = true ↔ url ∈ urls

theorem Counted.increment {urls : List String} (counted : Counted counts urls) (url : String) :
    Counted (increment url counts) (urls ++ [url]) where
  each key := by
    rw [increment_lookup, counted.each, List.count_append, List.count_singleton]
    simp only [beq_iff_eq]
  total := by
    rw [increment_sum, counted.total]
    simp
  present key := by
    rw [increment_any, Bool.or_eq_true, counted.present, decide_eq_true_eq, List.mem_append,
      List.mem_singleton, or_comm, eq_comm (a := url)]

theorem counted (operations : List Operation) :
    Counted (measuredRequestsPerUrl operations) (operations.map Operation.serviceUrl) := by
  unfold measuredRequestsPerUrl
  induction operations using List.reverseRecOn with
  | nil => exact ⟨fun _ => rfl, rfl, by simp⟩
  | append_singleton operations operation ih =>
    rw [List.foldl_append, List.map_append]
    exact ih.increment operation.serviceUrl

end Counts

section Dispatch

variable {config : Config} {http : Http} {parseUuid : String → Option Uuid}
  {plans : List TransferPlan} {operations : List Operation}

theorem transfer_serviceUrl (operation : Nat) (response : Response) :
    (http.transfer parseUuid operation response).serviceUrl = http.urlFor operation := by
  cases response with
  | failure => rfl
  | answer status id =>
    cases id with
    | none => rfl
    | some id =>
      unfold Http.transfer
      dsimp only
      split <;> rfl

theorem dispatched_urls (responses : Nat → Response) :
    (dispatched http parseUuid responses plans).map Operation.serviceUrl =
      (List.range plans.length).map http.urlFor := by
  have indices : plans.zipIdx.map Prod.snd = List.range plans.length := by
    rw [List.zipIdx_map_snd, List.range_eq_range']
  rw [dispatched, List.map_map, ← indices, List.map_map]
  apply List.map_congr_left
  intro pair _
  exact transfer_serviceUrl _ _

def phaseUrls (http : Http) (phase : List TransferPlan) : List String :=
  (List.range phase.length).map http.urlFor

theorem RunOperations.urls (ran : RunOperations config http parseUuid plans operations) :
    (operations.map Operation.serviceUrl).Perm ((phases config plans).flatMap (phaseUrls http)) := by
  obtain ⟨parts, ran, rfl⟩ := ran
  generalize phases config plans = rounds at ran
  induction ran with
  | nil => exact .nil
  | cons phase ran ih =>
    obtain ⟨responses, same⟩ := phase
    rw [List.flatten_cons, List.map_append, List.flatMap_cons]
    refine List.Perm.append ?_ ih
    rw [phaseUrls, ← @dispatched_urls _ parseUuid _ responses]
    exact same.map _

theorem levelPlans_length {plans : List TransferPlan} (planned : levelPlans config = some plans) :
    plans.length = usizeAdd config.warmupOperations config.operations := by
  unfold levelPlans at planned
  split at planned
  · obtain rfl := Option.some.inj planned
    rw [accountPoolPlans, List.length_map, List.length_range]
  · rw [← (mapM_eq_some.mp planned).length_eq, List.length_range]

theorem measuredPlans_length (planned : measuredPlans config = some plans) :
    plans.length = config.operations := by
  simp only [measuredPlans, bind, Option.bind_eq_some_iff, Option.ite_none_right_eq_some,
    Option.some.injEq] at planned
  obtain ⟨all, planned, within, rfl⟩ := planned
  rw [levelPlans_length planned, usizeAdd] at within
  rw [List.length_drop, levelPlans_length planned, usizeAdd]
  have bounds := config.counts
  simp only [u64Max] at bounds
  omega

theorem phases_flatten {host : Host} (checked : config.Checked host) (plans : List TransferPlan) :
    (phases config plans).flatten = plans := by
  unfold phases
  split
  · rename_i pool
    have positive := (checked.pool pool).1
    exact chunks_flatten (by omega) plans
  · simp

theorem RunOperations.length {host : Host} (checked : config.Checked host)
    (ran : RunOperations config http parseUuid plans operations) :
    operations.length = plans.length := by
  have urls := ran.urls.length_eq
  have lengths : (phaseUrls http · |>.length) = (List.length : List TransferPlan → Nat) := by
    funext phase
    simp [phaseUrls]
  rw [List.length_map, List.length_flatMap, lengths, ← List.length_flatten,
    phases_flatten checked] at urls
  exact urls

theorem runOperations_dispatched (responses : Nat → Response) (plans : List TransferPlan) :
    RunOperations config http parseUuid plans
      ((phases config plans).flatMap (dispatched http parseUuid responses)) := by
  -- Each phase is a permutation of itself.
  refine ⟨(phases config plans).map (dispatched http parseUuid responses), ?_, rfl⟩
  rw [List.forall₂_map_right_iff, List.forall₂_same]
  exact fun phase _ => ⟨responses, .refl _⟩

theorem urlFor_of_lt {index : Nat} (small : index < http.urls.length) :
    http.urls[index]? = some (http.urlFor index) := by
  simp [Http.urlFor, Nat.mod_eq_of_lt small, List.getElem?_eq_getElem small]

theorem RunOperations.reached (ran : RunOperations config http parseUuid plans operations)
    (url : String) : url ∈ operations.map Operation.serviceUrl ↔
      ∃ phase ∈ phases config plans, ∃ index < phase.length, http.urlFor index = url := by
  rw [ran.urls.mem_iff, List.mem_flatMap]
  simp only [phaseUrls, List.mem_map, List.mem_range]

theorem RunOperations.all_reached (ran : RunOperations config http parseUuid plans operations)
    {phase : List TransferPlan} (member : phase ∈ phases config plans)
    (long : http.urls.length ≤ phase.length) :
    ∀ url ∈ http.urls, url ∈ operations.map Operation.serviceUrl := by
  intro url present
  obtain ⟨index, small, rfl⟩ := List.getElem_of_mem present
  refine (ran.reached _).mpr ⟨phase, member, index, by omega, ?_⟩
  have found := urlFor_of_lt small
  rw [List.getElem?_eq_getElem small] at found
  exact (Option.some.inj found).symm

theorem RunOperations.not_all_reached (ran : RunOperations config http parseUuid plans operations)
    (distinct : http.urls.Nodup) {size : Nat} (fewer : size < http.urls.length)
    (short : ∀ phase ∈ phases config plans, phase.length ≤ size) :
    ∃ url ∈ http.urls, url ∉ operations.map Operation.serviceUrl := by
  refine ⟨http.urls[size], List.getElem_mem fewer, ?_⟩
  rw [ran.reached]
  rintro ⟨phase, member, index, within, same⟩
  have bound := short phase member
  have found := @urlFor_of_lt http index (by omega)
  rw [same, ← List.getElem?_eq_getElem fewer] at found
  have equal := (List.getElem?_inj (by omega) distinct).mp found
  omega

/-- The phases do not cut the list of instances short. -/
def Config.Spreads (config : Config) (instances : Nat) : Prop :=
  config.scenario = .accountPool →
    config.operations < instances ∨ instances ≤ config.accountPoolSize

theorem RunOperations.all_reached_iff {host : Host} (checked : config.Checked host)
    (distinct : http.urls.Nodup) (planned : measuredPlans config = some plans)
    (ran : RunOperations config http parseUuid plans operations) :
    (http.urls.length ≤ config.operations →
      ∀ url ∈ http.urls, url ∈ operations.map Operation.serviceUrl) ↔
        config.Spreads http.urls.length := by
  have count := measuredPlans_length planned
  by_cases pool : config.scenario = .accountPool
  · have positive := (checked.pool pool).1
    have reused := checked.reused pool
    have cut : phases config plans = chunks config.accountPoolSize plans := if_pos pool
    constructor
    · intro reaches _
      by_contra neither
      obtain ⟨covered, fewer⟩ := not_or.mp neither
      obtain ⟨url, present, absent⟩ := ran.not_all_reached distinct (Nat.not_le.mp fewer) (by
        intro phase member
        obtain ⟨index, rfl⟩ := mem_chunks (cut ▸ member)
        exact List.length_take_le _ _)
      exact absent (reaches (Nat.not_lt.mp covered) url present)
    · intro spreads covered
      have long : http.urls.length ≤ config.accountPoolSize := by
        rcases spreads pool with few | long
        · omega
        · exact long
      have first : plans.take config.accountPoolSize ∈ phases config plans := by
        have some : 0 < divCeil plans.length config.accountPoolSize :=
          Nat.div_pos (by omega) (by omega)
        rw [cut]
        exact List.mem_map.mpr ⟨0, List.mem_range.mpr some, by simp⟩
      refine ran.all_reached first ?_
      rw [List.length_take]
      omega
  · have single : phases config plans = [plans] := if_neg pool
    refine ⟨fun _ here => absurd here pool, fun _ covered => @RunOperations.all_reached _ _ _ _ _
      ran plans ?_ ?_⟩
    · rw [single]
      exact List.mem_singleton_self plans
    · omega

end Dispatch

/-- Every measured operation is counted once.  All instances receive measured traffic, where the
operations cover them, if and only if the phases are not shorter than the list of instances. -/
theorem measured_traffic_iff {config : Config} {host : Host} (accepted : config.validate host = .ok ())
    {http : Http} {instances : Nat} (urls : http.urls = config.serviceUrls.take instances)
    {parseUuid : String → Option Uuid} {plans : List TransferPlan}
    (planned : measuredPlans config = some plans) {measured : List Operation}
    (ran : RunOperations config http parseUuid plans measured) :
    ((measuredRequestsPerUrl measured).map Prod.snd).sum = config.operations ∧
    (∀ url, ((measuredRequestsPerUrl measured).lookup url).getD 0 =
      (measured.map Operation.serviceUrl).count url) ∧
    ((http.urls.length ≤ config.operations →
      ∀ url ∈ http.urls, url ∈ (measuredRequestsPerUrl measured).map Prod.fst) ↔
        config.Spreads http.urls.length) ∧
    (everyInstanceReceivedMeasuredTraffic http.urls config.operations
      (measuredRequestsPerUrl measured) = true ↔ config.Spreads http.urls.length) := by
  obtain ⟨checked, _⟩ := Config.validate_eq_ok.mp accepted
  have distinct : http.urls.Nodup := by
    have all := (equalNeighbours_insertionSort config.serviceUrls).mp checked.distinct
    rw [urls]
    exact all.sublist (List.take_sublist _ _)
  obtain ⟨each, total, present⟩ := counted measured
  have reached := RunOperations.all_reached_iff checked distinct planned ran
  have keys : ∀ url, url ∈ (measuredRequestsPerUrl measured).map Prod.fst ↔
      url ∈ measured.map Operation.serviceUrl := by
    intro url
    rw [← present url]
    simp
  have length : measured.length = config.operations := by
    rw [ran.length checked, measuredPlans_length planned]
  refine ⟨by rw [total, List.length_map, length], each, ?_, ?_⟩
  · simp only [keys]
    exact reached
  · rw [← reached, everyInstanceReceivedMeasuredTraffic, Bool.or_eq_true, decide_eq_true_eq,
      List.all_eq_true]
    simp only [present]
    constructor
    · rintro (few | all) covered
      · omega
      · exact all
    · intro reaches
      by_cases covered : http.urls.length ≤ config.operations
      · exact .inr (reaches covered)
      · exact .inl (Nat.not_le.mp covered)

namespace Sample

def pool (serviceUrls : List String) : Config :=
  { config with
    serviceUrls := serviceUrls, scenario := .accountPool, accountPoolSize := 2, operations := 3,
    counts := by decide }

def plans (config : Config) : List TransferPlan := (measuredPlans config).getD []

def measured (http : Http) (config : Config) : List Operation :=
  (phases config (plans config)).flatMap (dispatched http (fun _ => some 1) fun _ =>
    .answer 201 (some "00000000-0000-0000-0000-000000000001"))

def two : Http := ⟨["http://localhost:3000", "http://localhost:3001"], by simp⟩

def three : Http :=
  ⟨["http://localhost:3000", "http://localhost:3001", "http://localhost:3002"], by simp⟩

end Sample

theorem measured_traffic_iff_two :
    everyInstanceReceivedMeasuredTraffic Sample.two.urls 3
      (measuredRequestsPerUrl (Sample.measured Sample.two (Sample.pool Sample.two.urls))) = true := by
  have planned : measuredPlans (Sample.pool Sample.two.urls) =
      some (Sample.plans (Sample.pool Sample.two.urls)) := by decide +kernel
  exact (@measured_traffic_iff _ _ (Sample.accepted (by decide +kernel)) _ 2 rfl _ _ planned _
    (runOperations_dispatched _ _)).2.2.2.mpr fun _ => .inr (by decide)

theorem measured_traffic_three :
    (Sample.pool Sample.three.urls).validate Sample.host = .ok () ∧
      measuredPlans (Sample.pool Sample.three.urls) =
        some (Sample.plans (Sample.pool Sample.three.urls)) ∧
      RunOperations (Sample.pool Sample.three.urls) Sample.three (fun _ => some 1)
        (Sample.plans (Sample.pool Sample.three.urls))
        (Sample.measured Sample.three (Sample.pool Sample.three.urls)) ∧
      everyInstanceReceivedMeasuredTraffic Sample.three.urls 3
        (measuredRequestsPerUrl (Sample.measured Sample.three (Sample.pool Sample.three.urls))) =
        false :=
  ⟨Sample.accepted (by decide +kernel), by decide +kernel, runOperations_dispatched _ _,
    by decide +kernel⟩

end LedgerService.Benchmarks
