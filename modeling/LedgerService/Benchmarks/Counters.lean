import LedgerService.Benchmarks.Snapshots

set_option autoImplicit false

namespace LedgerService.Benchmarks

open Python

section Texts

variable {c d : Char} {text rest : List Char}

theorem isSpace_of_isLineBoundary (boundary : isLineBoundary c) : isSpace c := by
  simp only [isLineBoundary, isSpace, Text.isWhitespace, Bool.or_eq_true, Bool.and_eq_true,
    decide_eq_true_eq] at *
  omega

theorem isLineBoundary_of_visible (visible : isSpace c = false) : isLineBoundary c = false := by
  by_contra boundary
  rw [isSpace_of_isLineBoundary (by simpa using boundary)] at visible
  cases visible

theorem unbroken_of_all (plain : text.all (fun c => !isLineBoundary c) = true) :
    ∀ c ∈ text, isLineBoundary c = false := by
  simpa using plain

theorem splitlines_append (unbroken : ∀ c ∈ text, isLineBoundary c = false) :
    splitlines (text ++ '\n' :: rest) = text :: splitlines rest := by
  induction text with
  | nil =>
    have feed : isLineBoundary '\n' = true := by decide
    simp [splitlines, feed]
  | cons c more ih =>
    have plain : isLineBoundary c = false := unbroken c (by simp)
    have later := ih fun d member => unbroken d (by simp [member])
    have carriage : c ≠ '\r' := by
      rintro rfl
      cases plain
    rw [List.cons_append, splitlines, plain, later]
    · rfl
    · intro more' same
      exact absurd same carriage

theorem strip_cons {off : Char → Bool} (first : off c = false) :
    ∃ kept, strip off (c :: text) = c :: kept := by
  rw [strip, List.dropWhile_cons_of_neg (by simp [first]), List.reverse_cons, List.dropWhile_append]
  split
  · simp [first]
  · simp

theorem strip_eq_self {off : Char → Bool} (first : off c = false) (last : off d = false) :
    strip off (c :: (text ++ [d])) = c :: (text ++ [d]) := by
  rw [strip, List.dropWhile_cons_of_neg (by simp [first])]
  simp [last]

end Texts

variable {python : Interpreter} (display : python.Value → List Char)

/-- A line of a rendered snapshot: families are described by comments and kept apart. -/
inductive Line (python : Interpreter) where
  | comment (text : List Char) (unbroken : ∀ c ∈ text, isLineBoundary c = false)
  | blank
  | sample (series : Series) (value : python.Value) (finite : python.isfinite value = true)

namespace Line

def chars : Line python → List Char
  | .comment text _ => '#' :: ' ' :: text
  | .blank => []
  | .sample series value _ => TextFormat.sample display (series.sample value)

def HasParameter : Line python → Prop
  | .sample series _ _ => ∃ route, series.route = some route ∧ route.HasParameter
  | _ => False

def reading : Line python → Option (Series × python.Value)
  | .sample series value _ => some (series, value)
  | _ => none

end Line

def render (lines : List (Line python)) : List Char :=
  lines.flatMap fun line => line.chars display ++ ['\n']

def readings (lines : List (Line python)) : List (Series × python.Value) :=
  lines.filterMap Line.reading

def samples (lines : List (Line python)) : List (Sample python.Value) :=
  (readings lines).map fun reading => reading.1.sample reading.2

section Reading

variable {display}

theorem unbroken_sample (reads : python.Reads display) {sample : Sample python.Value}
    (readable : ReadableSample sample) (finite : python.isfinite sample.value) :
    ∀ c ∈ TextFormat.sample display sample, isLineBoundary c = false := by
  intro c member
  simp only [TextFormat.sample, List.mem_append, List.mem_cons] at member
  rcases member with name | rfl | labels | rfl | rfl | number
  · exact isLineBoundary_of_visible
      (isSpace_of_continuesName (List.all_eq_true.mp readable.continues c name))
  · decide
  · exact isLineBoundary_of_visible
      (isSpace_of_visibleLetter (visibleLetter_labels readable.labels c labels))
  · decide
  · decide
  · exact isLineBoundary_of_visible
      (isSpace_of_visibleLetter (reads.plain sample.value finite c number))

theorem strip_sample (reads : python.Reads display) {sample : Sample python.Value}
    (readable : ReadableSample sample) (finite : python.isfinite sample.value) :
    strip isSpace (TextFormat.sample display sample) = TextFormat.sample display sample ∧
      ¬ (TextFormat.sample display sample = [] ∨
        (TextFormat.sample display sample).head? = some '#') := by
  -- A sample's line begins with a letter of its name and ends with one of its number.
  obtain ⟨starts, _⟩ := And.intro readable.starts readable.continues
  cases name : sample.name with
  | nil => simp [name] at starts
  | cons c rest =>
    simp only [name, List.head?_cons, Option.any_some] at starts
    have continues := continuesName_of_startsName starts
    obtain ⟨front, d, number⟩ : ∃ front d, display sample.value = front ++ [d] :=
      ⟨_, _, (List.dropLast_append_getLast (reads.shown sample.value finite)).symm⟩
    have last : isSpace d = false :=
      isSpace_of_visibleLetter (reads.plain sample.value finite d (by simp [number]))
    have text : TextFormat.sample display sample =
        c :: ((rest ++ '{' :: (TextFormat.labels sample.labels ++ '}' :: ' ' :: front)) ++ [d]) := by
      simp [TextFormat.sample, name, number]
    rw [text]
    refine ⟨strip_eq_self (isSpace_of_continuesName continues) last, ?_⟩
    simp [ne_of_continuesName continues (by decide : continuesName '#' = false)]

theorem Line.unbroken (reads : python.Reads display) (line : Line python) :
    ∀ c ∈ line.chars display, isLineBoundary c = false := by
  cases line with
  | comment text plain =>
    intro c member
    simp only [Line.chars, List.mem_cons] at member
    rcases member with rfl | rfl | inside
    · decide
    · decide
    · exact plain c inside
  | blank => simp [Line.chars]
  | sample series value finite => exact unbroken_sample reads (readable_sample series value) finite

theorem splitlines_render (reads : python.Reads display) (line : Line python)
    (more : List (Line python)) :
    splitlines (render display (line :: more)) =
      line.chars display :: splitlines (render display more) := by
  have text : render display (line :: more) = line.chars display ++ '\n' :: render display more := by
    simp [render]
  rw [text, splitlines_append (line.unbroken reads)]

theorem readLines_skipped {line : Line python} (skipped : line.reading = none)
    (rest : List (List Char)) :
    readLines python (line.chars display :: rest) = readLines python rest := by
  cases line with
  | comment text unbroken =>
    obtain ⟨kept, stripped⟩ := @strip_cons _ (' ' :: text) _ (by decide : isSpace '#' = false)
    simp [Line.chars, readLines, stripped]
  | blank =>
    have stripped : strip isSpace [] = [] := rfl
    simp [Line.chars, readLines, stripped]
  | sample series value finite => cases skipped

theorem readLines_sample (reads : python.Reads display) {series : Series} {value : python.Value}
    (finite : python.isfinite value) (rest : List (List Char)) :
    readLines python ((Line.sample series value finite).chars display :: rest) =
      if ∃ pair ∈ (series.sample value).labels, '}' ∈ pair.2 then .ok none
      else (readLines python rest).map (Option.map (series.sample value :: ·)) := by
  obtain ⟨stripped, kept⟩ := strip_sample reads (readable_sample series value) finite
  have read := readSample_sample reads (readable_sample series value) finite
  by_cases braced : ∃ pair ∈ (series.sample value).labels, '}' ∈ pair.2
  · rw [if_pos braced] at read ⊢
    simp only [Line.chars, readLines, stripped, if_neg kept, read]
  · rw [if_neg braced] at read ⊢
    simp only [Line.chars, readLines, stripped, if_neg kept, read]

theorem parsePrometheus_render (reads : python.Reads display) (lines : List (Line python)) :
    ((∀ line ∈ lines, ¬ line.HasParameter) →
      parsePrometheus python (some (render display lines)) = .ok (some (samples lines))) ∧
    ((∃ line ∈ lines, line.HasParameter) →
      parsePrometheus python (some (render display lines)) = .ok none) := by
  induction lines with
  | nil => simp [parsePrometheus, render, splitlines, readLines, samples, readings]
  | cons line more ih =>
    obtain ⟨whole, none⟩ := ih
    simp only [parsePrometheus, splitlines_render reads, List.forall_mem_cons,
      List.exists_mem_cons_iff] at whole none ⊢
    cases reading : line.reading with
    | none =>
      have plain : ¬ line.HasParameter := by
        cases line <;> simp_all [Line.HasParameter, Line.reading]
      have same : samples (line :: more) = samples more := by
        simp [samples, readings, reading]
      rw [readLines_skipped reading, same]
      exact ⟨fun plain => whole plain.2, fun braced => none (braced.resolve_left plain)⟩
    | some entry =>
      cases line with
      | comment => cases reading
      | blank => cases reading
      | sample series value finite =>
        rw [readLines_sample reads finite]
        constructor
        · rintro ⟨plain, others⟩
          rw [if_neg fun braced => plain ((braced_iff series value).mp braced), whole others]
          rfl
        · rintro (braced | others)
          · rw [if_pos ((braced_iff series value).mpr braced)]
          · rw [none others]
            split <;> rfl

end Reading

inductive Measure where
  | count
  | sum

def Measure.part : Measure → HistogramPart
  | .count => .count
  | .sum => .sum

inductive Counter where
  | operations
  | http (measure : Measure)
  | transactions (measure : Measure)
  | poolAcquires (outcome : PoolAcquireOutcome) (measure : Measure)

namespace Counter

def selects : Counter → Series → Bool
  | .operations, .operations .transfer .success _ => true
  | .http measure, .httpRequestDuration .post .transfers part => part = measure.part
  | .transactions measure, .transactionDuration .transfer .success part => part = measure.part
  | .poolAcquires outcome measure, .poolAcquireDuration outcome' part =>
      outcome' = outcome && part = measure.part
  | _, _ => false

def total (counter : Counter) (lines : List (Line python)) : Option python.Value :=
  match ((readings lines).filter fun reading => counter.selects reading.1).map (·.2) with
  | [] => none
  | values => some (python.sum values)

def growth (counter : Counter) (before after : List (Line python)) : Option python.Value :=
  match counter.total before, counter.total after with
  | some left, some right => if python.lt right left then none else some (python.sub right left)
  | _, _ => none

def growthFromZero (counter : Counter) (before after : List (Line python)) : Option python.Value :=
  let left := (counter.total before).getD python.zero
  let right := (counter.total after).getD python.zero
  if python.lt right left then none else some (python.sub right left)

def name : Counter → String
  | .operations => "ledger_operations_total"
  | .http .count => "ledger_http_request_duration_seconds_count"
  | .http .sum => "ledger_http_request_duration_seconds_sum"
  | .transactions .count => "ledger_database_transaction_duration_seconds_count"
  | .transactions .sum => "ledger_database_transaction_duration_seconds_sum"
  | .poolAcquires _ .count => "ledger_database_pool_acquire_duration_seconds_count"
  | .poolAcquires _ .sum => "ledger_database_pool_acquire_duration_seconds_sum"

def labels : Counter → List (String × String)
  | .operations | .transactions _ | .poolAcquires .success _ =>
      [("operation", "transfer"), ("outcome", "success")]
  | .poolAcquires .failure _ => [("operation", "transfer"), ("outcome", "failure")]
  | .http _ => [("method", "POST"), ("route", "/transfers")]

end Counter

inductive Family where
  | httpRequests
  | httpRequestDuration (suffix : Fin 3)
  | operations
  | transactionDuration (suffix : Fin 3)
  | idempotencyOutcomes
  | poolAcquireDuration (suffix : Fin 3)
  | readinessChecks
  | readinessCheckDuration (suffix : Fin 3)
  deriving DecidableEq

namespace Family

def suffixOf : HistogramPart → Fin 3
  | .bucket _ | .total => 0
  | .sum => 1
  | .count => 2

def suffixes : Fin 3 → String
  | 0 => "_bucket"
  | 1 => "_sum"
  | 2 => "_count"

def name : Family → List Char
  | .httpRequests => "ledger_http_requests_total".toList
  | .httpRequestDuration suffix =>
      "ledger_http_request_duration_seconds".toList ++ (suffixes suffix).toList
  | .operations => "ledger_operations_total".toList
  | .transactionDuration suffix =>
      "ledger_database_transaction_duration_seconds".toList ++ (suffixes suffix).toList
  | .idempotencyOutcomes => "ledger_idempotency_outcomes_total".toList
  | .poolAcquireDuration suffix =>
      "ledger_database_pool_acquire_duration_seconds".toList ++ (suffixes suffix).toList
  | .readinessChecks => "ledger_readiness_checks_total".toList
  | .readinessCheckDuration suffix =>
      "ledger_readiness_check_duration_seconds".toList ++ (suffixes suffix).toList

def families : List Family :=
  [.httpRequests, .operations, .idempotencyOutcomes, .readinessChecks] ++
    (List.finRange 3).flatMap fun suffix =>
      [.httpRequestDuration suffix, .transactionDuration suffix, .poolAcquireDuration suffix,
        .readinessCheckDuration suffix]

theorem mem_families (family : Family) : family ∈ families := by
  cases family <;> simp [families]

theorem name_injective : Function.Injective name := by
  have distinct : ∀ first ∈ families, ∀ second ∈ families,
      first.name = second.name → first = second := by
    decide +kernel
  exact fun first second => distinct first (mem_families first) second (mem_families second)

def ofSeries : Series → Family
  | .httpRequests .. => .httpRequests
  | .httpRequestDuration _ _ part => .httpRequestDuration (suffixOf part)
  | .operations .. => .operations
  | .transactionDuration _ _ part => .transactionDuration (suffixOf part)
  | .idempotencyOutcomes .. => .idempotencyOutcomes
  | .poolAcquireDuration _ part => .poolAcquireDuration (suffixOf part)
  | .readinessChecks .. => .readinessChecks
  | .readinessCheckDuration _ part => .readinessCheckDuration (suffixOf part)

theorem name_ofSeries (series : Series) : series.name = (ofSeries series).name := by
  have suffix : ∀ part : HistogramPart, part.suffix = suffixes (suffixOf part) := by
    intro part
    cases part <;> rfl
  have suffixed : ∀ (base : List Char) (part : HistogramPart),
      base ++ part.suffix.toList = base ++ (suffixes (suffixOf part)).toList := by
    intro base part
    rw [suffix]
  cases series with
  | httpRequestDuration _ _ part => exact suffixed _ part
  | transactionDuration _ _ part => exact suffixed _ part
  | poolAcquireDuration _ part => exact suffixed _ part
  | readinessCheckDuration _ part => exact suffixed _ part
  | _ => rfl

end Family

namespace Counter

def family : Counter → Family
  | .operations => .operations
  | .http measure => .httpRequestDuration (Family.suffixOf measure.part)
  | .transactions measure => .transactionDuration (Family.suffixOf measure.part)
  | .poolAcquires _ measure => .poolAcquireDuration (Family.suffixOf measure.part)

theorem name_family (counter : Counter) : counter.name.toList = counter.family.name := by
  cases counter with
  | operations => decide +kernel
  | http measure => cases measure <;> decide +kernel
  | transactions measure => cases measure <;> decide +kernel
  | poolAcquires outcome measure => cases outcome <;> cases measure <;> decide +kernel

theorem suffixOf_eq {part : HistogramPart} {measure : Measure} :
    Family.suffixOf part = Family.suffixOf measure.part ↔ part = measure.part := by
  cases measure <;> cases part <;> simp [Family.suffixOf, Measure.part]

theorem family_of_selects {counter : Counter} {series : Series} (selected : counter.selects series) :
    Family.ofSeries series = counter.family := by
  unfold selects at selected
  split at selected <;> simp_all [Family.ofSeries, family]

theorem labels_sample {counter : Counter} {series : Series}
    (named : Family.ofSeries series = counter.family) (value : python.Value) :
    (counter.labels.all fun (key, text) =>
      (series.sample value).labels.lookup key.toList = some text.toList) = counter.selects series := by
  have post : ∀ method : MethodLabel, method.asStr.toList = "POST".toList ↔ method = .post := by
    intro method
    cases method <;> decide
  have transfers : ∀ route : RouteLabel,
      route.asStr.toList = "/transfers".toList ↔ route = .transfers := by
    intro route
    cases route <;> decide
  cases counter with
  | operations =>
    cases series <;> simp only [Family.ofSeries, family, reduceCtorEq] at named
    case operations operation outcome reason => cases operation <;> cases outcome <;> rfl
  | http measure =>
    cases series <;> simp only [Family.ofSeries, family, reduceCtorEq,
      Family.httpRequestDuration.injEq, suffixOf_eq] at named
    case httpRequestDuration method route part =>
      subst named
      have looked : ((http measure).labels.all fun (key, text) =>
          ((Series.httpRequestDuration method route measure.part).sample value).labels.lookup
            key.toList = some text.toList) =
          (decide (some method.asStr.toList = some "POST".toList) &&
            decide (some route.asStr.toList = some "/transfers".toList)) := by
        cases measure <;> simp [labels, Series.sample, Series.labels, List.lookup_cons]
      have chosen : (http measure).selects (.httpRequestDuration method route measure.part) =
          (decide (method = .post) && decide (route = .transfers)) := by
        cases measure <;> cases method <;> first | rfl | (cases route <;> rfl)
      simp only [looked, chosen, Option.some.injEq, post, transfers]
  | transactions measure =>
    cases series <;> simp only [Family.ofSeries, family, reduceCtorEq,
      Family.transactionDuration.injEq, suffixOf_eq] at named
    case transactionDuration operation outcome part =>
      subst named
      cases operation <;> cases outcome <;> cases measure <;> rfl
  | poolAcquires acquired measure =>
    cases series <;> simp only [Family.ofSeries, family, reduceCtorEq,
      Family.poolAcquireDuration.injEq, suffixOf_eq] at named
    case poolAcquireDuration outcome part =>
      subst named
      cases acquired <;> cases outcome <;> cases measure <;> rfl

theorem matches_sample (counter : Counter) (series : Series) (value : python.Value) :
    Sample.matches counter.name counter.labels (series.sample value) = counter.selects series := by
  have name : (series.sample value).name = counter.name.toList ↔
      Family.ofSeries series = counter.family := by
    rw [counter.name_family, ← Family.name_injective.eq_iff, ← Family.name_ofSeries]
    rfl
  by_cases named : Family.ofSeries series = counter.family
  · rw [Sample.matches, labels_sample named value, decide_eq_true (name.mpr named), Bool.true_and]
  · have missed : counter.selects series = false := by
      by_contra selected
      exact named (family_of_selects (by simpa using selected))
    rw [Sample.matches, decide_eq_false (mt name.mp named), Bool.false_and, missed]

theorem metricValue_samples (counter : Counter) (lines : List (Line python)) :
    metricValue counter.name counter.labels (some (samples lines)) = counter.total lines := by
  have filtered : ((samples lines).filter (Sample.matches counter.name counter.labels)).map (·.value) =
      ((readings lines).filter fun reading => counter.selects reading.1).map (·.2) := by
    have same : (Sample.matches counter.name counter.labels) ∘
        (fun reading : Series × python.Value => reading.1.sample reading.2) =
          fun reading => counter.selects reading.1 :=
      funext fun reading => counter.matches_sample reading.1 reading.2
    rw [samples, List.filter_map, List.map_map, same]
    rfl
  cases selected : ((readings lines).filter fun reading => counter.selects reading.1).map (·.2) with
  | nil => simp only [metricValue, filtered, total, selected]
  | cons value more => simp only [metricValue, filtered, total, selected]

theorem delta_samples (counter : Counter) (before after : List (Line python)) :
    delta counter.name counter.labels (some (samples before)) (some (samples after)) =
      counter.growth before after := by
  cases first : counter.total before <;> cases second : counter.total after <;>
    simp only [delta, metricValue_samples, growth, first, second]

theorem deltaWithAbsentAsZero_samples (counter : Counter) (before after : List (Line python)) :
    deltaWithAbsentAsZero counter.name counter.labels (some (samples before)) (some (samples after)) =
      counter.growthFromZero before after := by
  simp only [deltaWithAbsentAsZero, metricValue_samples, growthFromZero]

end Counter

def growths (before after : List (Line python)) : MetricDeltas python.Value :=
  let growth (counter : Counter) := counter.growth before after
  let failed (measure : Measure) := (Counter.poolAcquires .failure measure).growthFromZero before after
  { successfulTransferOperations := growth .operations
    transferHttpRequests := growth (.http .count)
    transferHttpMeanMs := meanMs python (growth (.http .count)) (growth (.http .sum))
    successfulTransferDbTransactions := growth (.transactions .count)
    successfulTransferDbMeanMs :=
      meanMs python (growth (.transactions .count)) (growth (.transactions .sum))
    successfulTransferPoolAcquires := growth (.poolAcquires .success .count)
    successfulTransferPoolAcquireMeanMs :=
      meanMs python (growth (.poolAcquires .success .count)) (growth (.poolAcquires .success .sum))
    failedTransferPoolAcquires := failed .count
    failedTransferPoolAcquireMeanMs := meanMs python (failed .count) (failed .sum) }

theorem metricDeltas_render {display : python.Value → List Char} {before after : List (Line python)}
    (first : parsePrometheus python (some (render display before)) = .ok (some (samples before)))
    (second : parsePrometheus python (some (render display after)) = .ok (some (samples after))) :
    metricDeltas python (some (render display before)) (some (render display after)) =
      .ok (growths before after) := by
  simp only [metricDeltas, first, second, bind, Except.bind, pure, Except.pure, growths,
    ← Counter.delta_samples, ← Counter.deltaWithAbsentAsZero_samples, Counter.name, Counter.labels]

/-- The summarizer reads two snapshots, and the growth between them, exactly as neither has a sample
about a route with a parameter. -/
theorem snapshots_read_iff {python : Interpreter} {display : python.Value → List Char}
    (reads : python.Reads display) (before after : List (Line python)) :
    (parsePrometheus python (some (render display before)) = .ok (some (samples before)) ∧
      parsePrometheus python (some (render display after)) = .ok (some (samples after)) ∧
      metricDeltas python (some (render display before)) (some (render display after)) =
        .ok (growths before after)) ↔
      ∀ line ∈ before ++ after, ¬ line.HasParameter := by
  have whole : ∀ lines : List (Line python),
      parsePrometheus python (some (render display lines)) = .ok (some (samples lines)) ↔
        ∀ line ∈ lines, ¬ line.HasParameter := by
    intro lines
    refine ⟨?_, (parsePrometheus_render reads lines).1⟩
    intro parsed line member braced
    rw [(parsePrometheus_render reads lines).2 ⟨line, member, braced⟩] at parsed
    cases parsed
  rw [List.forall_mem_append, ← whole, ← whole]
  constructor
  · rintro ⟨first, second, _⟩
    exact ⟨first, second⟩
  · rintro ⟨first, second⟩
    exact ⟨first, second, metricDeltas_render first second⟩

def wholeNumbers : Interpreter where
  Value := Nat
  float text := if text ≠ [] ∧ text.all Char.isDigit then some (Nat.ofDigitChars 10 text 0) else none
  isfinite _ := true
  zero := (0 : Nat)
  isZero value := value = (0 : Nat)
  sum values := values.foldl Nat.add 0
  sub first second := Nat.sub first second
  lt first second := Nat.blt first second
  thousandfold value := Nat.mul 1000 value
  div first second := Nat.div first second
  named _ := none

def decimal (value : Nat) : List Char := Nat.toDigits 10 value

theorem wholeNumbers_reads : wholeNumbers.Reads decimal where
  shown _ _ := Nat.toDigits_ne_nil
  plain (value : Nat) _ c member := by
    have digit : c.isDigit = true :=
      Nat.isDigit_of_mem_toDigits (n := value) (b := 10) (by decide) (by decide) member
    exact visibleLetter_of_continuesName (by simp [continuesName, Char.isAlphanum, digit])
  exact (value : Nat) _ := by
    have digits : (Nat.toDigits 10 value).all Char.isDigit = true :=
      List.all_eq_true.mpr fun c member =>
        Nat.isDigit_of_mem_toDigits (n := value) (b := 10) (by decide) (by decide) member
    have someDigit : Nat.toDigits 10 value ≠ [] := Nat.toDigits_ne_nil
    simp [wholeNumbers, decimal, digits, someDigit]

def afterTransfers (count : Nat) : List (Line wholeNumbers) :=
  [.comment "TYPE ledger_operations_total counter".toList (unbroken_of_all (by decide)),
    .sample (.operations .transfer .success .none) count rfl,
    .blank,
    .sample (.httpRequests .post .transfers .success) count rfl]

def looked : List (Line wholeNumbers) :=
  [.sample (.httpRequests .get .transfer .success) (1 : Nat) rfl]

theorem snapshots_read_iff_counted :
    metricDeltas wholeNumbers (some (render decimal (afterTransfers 3)))
        (some (render decimal (afterTransfers 8))) =
        .ok (growths (afterTransfers 3) (afterTransfers 8)) ∧
      Counter.operations.growth (afterTransfers 3) (afterTransfers 8) = some (5 : Nat) := by
  have plain : ¬ RouteLabel.transfers.HasParameter := by decide
  have read := (snapshots_read_iff wholeNumbers_reads (afterTransfers 3) (afterTransfers 8)).mpr
    (by simp [afterTransfers, Line.HasParameter, Series.route, plain])
  exact ⟨read.2.2, rfl⟩

theorem snapshots_read_iff_looked :
    render decimal looked = "ledger_http_requests_total".toList ++
        "\x7bmethod=\"GET\",route=\"/transfers/\x7btransfer_id\x7d\",status_class=\"2xx\"\x7d 1\n".toList ∧
      parsePrometheus wholeNumbers (some (render decimal looked)) = .ok none ∧
      parsePrometheus wholeNumbers (some (render decimal looked)) ≠ .ok (some (samples looked)) := by
  have lost : parsePrometheus wholeNumbers (some (render decimal looked)) = .ok none :=
    (parsePrometheus_render wholeNumbers_reads looked).2
      ⟨_, List.mem_singleton_self _, .transfer, rfl, by decide⟩
  refine ⟨by decide, lost, ?_⟩
  rw [lost]
  exact fun same => nomatch same

end LedgerService.Benchmarks
