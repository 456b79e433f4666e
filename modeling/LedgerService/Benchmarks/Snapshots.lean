import LedgerService.Benchmarks.Summaries

set_option autoImplicit false

namespace LedgerService.Benchmarks

open Regex Pattern Python

section Names

variable {c : Char}

theorem continuesName_of_startsName (starts : startsName c) : continuesName c := by
  simp only [startsName, continuesName, Char.isAlphanum, Bool.or_eq_true] at *
  tauto

theorem continuesName_bounds (continues : continuesName c) :
    (48 ≤ c.toNat ∧ c.toNat ≤ 57) ∨ (65 ≤ c.toNat ∧ c.toNat ≤ 90) ∨
      (97 ≤ c.toNat ∧ c.toNat ≤ 122) ∨ c.toNat = 95 := by
  change (((decide (c.val ≥ 'A'.val ∧ c.val ≤ 'Z'.val) ||
    (decide (c.val ≥ 'a'.val) && decide (c.val ≤ 'z'.val))) ||
    (decide (c.val ≥ '0'.val) && decide (c.val ≤ '9'.val))) || decide (c = '_')) = true at continues
  simp only [Bool.or_eq_true, Bool.and_eq_true, decide_eq_true_eq, UInt32.le_iff_toNat_le,
    ge_iff_le] at continues
  simp only [Char.toNat_val] at continues
  rcases continues with ((upper | lower) | digit) | rfl
  · exact .inr (.inl upper)
  · exact .inr (.inr (.inl lower))
  · exact .inl digit
  · exact .inr (.inr (.inr rfl))

theorem isSpace_of_continuesName (continues : continuesName c) : isSpace c = false := by
  have bounds := continuesName_bounds continues
  simp only [isSpace, Text.isWhitespace, Bool.or_eq_false_iff, Bool.and_eq_false_iff,
    decide_eq_false_iff_not]
  omega

theorem ne_of_continuesName {mark : Char} (continues : continuesName c)
    (other : continuesName mark = false) : c ≠ mark := by
  rintro rfl
  rw [continues] at other
  cases other

end Names

section Samples

variable {k : Match Char → List (Match Char)} {c : Char} {name raw number rest : List Char}

theorem flatMap_measurement_of_not (visible : isSpace c = false) :
    (measurement.runs (c :: rest)).flatMap k = [] := by
  rw [measurement, flatMap_seq, flatMap_plus, space, flatMap_one_of_not visible]

theorem flatMap_measurement (visible : ∀ d ∈ number, isSpace d = false) (here : number ≠ []) :
    (measurement.runs (' ' :: number)).flatMap k =
      k { text := ' ' :: number, groups := [(3, number)], rest := [] } := by
  obtain ⟨digit, digits, rfl⟩ := List.exists_cons_of_ne_nil here
  have seen : ∀ d ∈ digit :: digits, isVisible d = true := by
    intro d member
    simp [isVisible, visible d member]
  have units : ∀ d ∈ digits, ∀ after, (one isVisible).runs (d :: after) =
      [{ text := [d], groups := [], rest := after }] := by
    intro d member after
    simp [runs, seen d (by simp [member])]
  have spaces : ∀ k : Match Char → List (Match Char),
      ((star (one isSpace)).runs (digit :: digits)).flatMap k = k (.nothing (digit :: digits)) := by
    intro k
    exact @flatMap_star _ _ _ _ [] _ (by simp) (by simp [runs, visible digit (by simp)])
      (by simp)
  have numbers : ∀ k : Match Char → List (Match Char), (∀ taken d left, digits = taken ++ d :: left →
        k { text := taken, groups := [], rest := d :: (left ++ []) } = []) →
      ((star (one isVisible)).runs digits).flatMap k =
        k { text := digits, groups := [], rest := [] } := by
    intro k blocked
    have taken := flatMap_star units (by simp [runs]) blocked
    rwa [List.append_nil] at taken
  rw [measurement, flatMap_seq, flatMap_plus, space, flatMap_one (by decide)]
  dsimp only
  rw [spaces]
  simp only [Match.append_rest, Match.nothing_rest]
  rw [flatMap_seq, flatMap_group, flatMap_plus, flatMap_one (seen digit (by simp))]
  dsimp only
  rw [numbers]
  · simp only [Match.capture_rest, Match.append_rest]
    rw [flatMap_seq, flatMap_optional, flatMap_seq, flatMap_plus, flatMap_one_nil, atEnd,
      Match.nothing_rest, flatMap_ahead (by decide)]
    simp [Match.append, Match.capture, Match.nothing]
  · intro taken d left split
    have hidden : isSpace d = false := visible d (by simp [split])
    have feed : d ≠ '\n' := by
      rintro rfl
      cases hidden
    simp only [Match.capture_rest, Match.append_rest]
    rw [flatMap_seq, flatMap_optional, flatMap_seq, flatMap_plus, flatMap_one_of_not hidden, atEnd,
      Match.nothing_rest, flatMap_ahead_of_not (by simp [feed])]
    rfl

theorem flatMap_labelSet (inside : '}' ∉ raw) :
    (labelSet.runs ('{' :: (raw ++ '}' :: rest))).flatMap k =
      k { text := '{' :: (raw ++ ['}']), groups := [(2, raw)], rest } := by
  have units : ∀ c ∈ raw, ∀ after, (one (· ≠ '}')).runs (c :: after) =
      [{ text := [c], groups := [], rest := after }] := by
    intro c member after
    have other : c ≠ '}' := fun same => inside (same ▸ member)
    simp [runs, other]
  simp only [labelSet, flatMap_seq, flatMap_group]
  rw [flatMap_one (by simp), flatMap_star units (by simp [runs])]
  · simp only [Match.capture_rest]
    rw [flatMap_one (by simp)]
    simp [Match.append, Match.capture]
  · intro taken c left split
    have other : c ≠ '}' := fun same => inside (by simp [split, same])
    exact flatMap_one_of_not (by simpa using other)

theorem flatMap_SAMPLE (starts : startsName c) (continues : ∀ d ∈ name, continuesName d) :
    (SAMPLE.runs (c :: (name ++ '{' :: rest))).flatMap k =
      ((seq labelSet.optional measurement).runs ('{' :: rest)).flatMap fun found =>
        k (Match.append
          { text := c :: name, groups := [(1, c :: name)], rest := '{' :: rest } found) := by
  -- What follows the name is tried only after all of it.
  have units : ∀ d ∈ name, ∀ after, (one continuesMetricName).runs (d :: after) =
      [{ text := [d], groups := [], rest := after }] := by
    intro d member after
    simp [runs, continuesMetricName, continues d member]
  rw [SAMPLE, flatMap_seq, flatMap_group, metricName, flatMap_seq,
    flatMap_one (by simp [startsMetricName, starts]),
    flatMap_star units (by simp [runs, continuesMetricName, continuesName])]
  · simp [Match.append, Match.capture]
  · intro taken d left split
    have continued : continuesName d := continues d (by simp [split])
    have other : d ≠ '{' := ne_of_continuesName continued rfl
    simp only [Match.capture_rest, Match.append_rest]
    rw [flatMap_seq, flatMap_optional, labelSet, flatMap_seq, flatMap_one_of_not (by simpa using other),
      Match.nothing_rest, flatMap_measurement_of_not (isSpace_of_continuesName continued)]
    rfl

theorem firstMatch_SAMPLE (starts : startsName c) (continues : ∀ d ∈ name, continuesName d)
    (inside : '}' ∉ raw) (visible : ∀ d ∈ number, isSpace d = false) (here : number ≠ []) :
    SAMPLE.firstMatch (c :: (name ++ '{' :: (raw ++ '}' :: ' ' :: number))) =
      some
        { text := c :: name ++ ('{' :: (raw ++ ['}']) ++ ' ' :: number)
          groups := [(1, c :: name), (2, raw), (3, number)]
          rest := [] } := by
  rw [firstMatch_eq, flatMap_SAMPLE starts continues, flatMap_seq, flatMap_optional,
    flatMap_labelSet inside]
  dsimp only
  rw [flatMap_measurement visible here]
  simp [Match.append]

theorem firstMatch_SAMPLE_eq_none (starts : startsName c) (continues : ∀ d ∈ name, continuesName d)
    (inside : '}' ∉ raw) {d : Char} (visible : isSpace d = false) :
    SAMPLE.firstMatch (c :: (name ++ '{' :: (raw ++ '}' :: d :: rest))) = none := by
  rw [firstMatch_eq, flatMap_SAMPLE starts continues, flatMap_seq, flatMap_optional,
    flatMap_labelSet inside]
  dsimp only
  rw [flatMap_measurement_of_not visible, Match.nothing_rest, flatMap_measurement_of_not (by decide)]
  rfl

end Samples

section Labels

variable {c : Char} {name value rest : List Char}

theorem firstMatch_LABEL (starts : startsName c) (continues : ∀ d ∈ name, continuesName d)
    (plain : ∀ d ∈ value, d ≠ '"' ∧ d ≠ '\\') :
    LABEL.firstMatch (c :: (name ++ '=' :: '"' :: (value ++ '"' :: rest))) =
      some
        { text := c :: name ++ ('=' :: '"' :: (value ++ ['"']))
          groups := [(1, c :: name), (2, value)]
          rest } := by
  have units : ∀ d ∈ name, ∀ after, (one continuesName).runs (d :: after) =
      [{ text := [d], groups := [], rest := after }] := by
    intro d member after
    simp [runs, continues d member]
  have letters : ∀ d ∈ value, ∀ after, labelLetter.runs (d :: after) =
      [{ text := [d], groups := [], rest := after }] := by
    intro d member after
    simp [labelLetter, runs, plain d member]
  rw [firstMatch_eq, LABEL, flatMap_seq, flatMap_group, labelName, flatMap_seq, flatMap_one starts,
    flatMap_star units (by simp [runs, continuesName])]
  · simp only [Match.capture_rest, Match.append_rest]
    rw [flatMap_seq, flatMap_one (by decide)]
    dsimp only
    rw [flatMap_seq, flatMap_one (by decide)]
    dsimp only
    rw [flatMap_seq, flatMap_group, flatMap_star letters (by simp [labelLetter, runs])]
    · simp only [Match.capture_rest]
      rw [flatMap_one (by decide)]
      simp [Match.append, Match.capture]
    · intro taken d left split
      have other : d ≠ '"' := (plain d (by simp [split])).1
      simp only [Match.capture_rest]
      rw [flatMap_one_of_not (by simpa using other)]
  · intro taken d left split
    have other : d ≠ '=' := ne_of_continuesName (continues d (by simp [split])) rfl
    simp only [Match.capture_rest, Match.append_rest]
    rw [flatMap_seq, flatMap_one_of_not (by simpa using other)]

theorem firstMatch_LABEL_of_not (other : startsName c = false) :
    LABEL.firstMatch (c :: rest) = none := by
  rw [firstMatch_eq, LABEL, flatMap_seq, flatMap_group, labelName, flatMap_seq,
    flatMap_one_of_not other]
  rfl

end Labels

def plainLetter (c : Char) : Bool := 33 ≤ c.toNat && c.toNat < 127 && c ≠ '"' && c ≠ '\\'

structure ReadableLabel (pair : List Char × List Char) : Prop where
  starts : pair.1.head?.any startsName
  continues : pair.1.all continuesName
  value : pair.2.all plainLetter

section Values

variable {value : List Char}

theorem plainLetter_bounds {c : Char} (plain : plainLetter c) :
    33 ≤ c.toNat ∧ c.toNat < 127 ∧ c ≠ '"' ∧ c ≠ '\\' := by
  simpa [plainLetter, and_assoc] using plain

theorem escape_eq_self (plain : value.all plainLetter) : TextFormat.escape value = value := by
  induction value with
  | nil => rfl
  | cons c more ih =>
    simp only [List.all_cons, Bool.and_eq_true] at plain
    obtain ⟨low, high, quote, backslash⟩ := plainLetter_bounds plain.1
    have feed : c ≠ '\n' := by
      rintro rfl
      exact absurd low (by decide)
    have rest := ih plain.2
    rw [TextFormat.escape] at rest ⊢
    simp [quote, backslash, feed, rest]

theorem unicodeEscape_utf8 {named : List UInt8 → Option Char} (plain : value.all plainLetter) :
    unicodeEscape named (utf8 value) = some value := by
  induction value with
  | nil => rfl
  | cons c more ih =>
    simp only [List.all_cons, Bool.and_eq_true] at plain
    obtain ⟨low, high, quote, backslash⟩ := plainLetter_bounds plain.1
    have byte : String.utf8EncodeChar c = [UInt8.ofNat c.toNat] := by
      have small : c.toNat ≤ 127 := by omega
      simp [String.utf8EncodeChar, small]
    have exact : (UInt8.ofNat c.toNat).toNat = c.toNat := by
      simp only [UInt8.toNat_ofNat']
      omega
    have other : UInt8.ofNat c.toNat ≠ 92 := by
      intro same
      apply backslash
      have code : c.toNat = 92 := by rw [← exact, same]; rfl
      rw [← Char.ofNat_toNat c, code]
    have rest := ih plain.2
    simp only [unicodeEscape, utf8, List.flatMap_cons, byte, List.singleton_append] at rest ⊢
    rw [decodeFrom, if_neg other, rest, exact, Char.ofNat_toNat]
    rfl

theorem inside_label {pair : List Char × List Char} (readable : ReadableLabel pair) :
    ∃ c name, pair.1 = c :: name ∧ startsName c ∧ (∀ d ∈ name, continuesName d) ∧
      (∀ d ∈ pair.2, d ≠ '"' ∧ d ≠ '\\') ∧
        TextFormat.label pair = c :: (name ++ '=' :: '"' :: (pair.2 ++ ['"'])) := by
  obtain ⟨starts, continues, value⟩ := readable
  obtain ⟨key, text⟩ := pair
  cases key with
  | nil => cases starts
  | cons c name =>
    simp only [List.head?_cons, Option.any_some, List.all_cons, Bool.and_eq_true] at starts continues
    refine ⟨c, name, rfl, starts, List.all_eq_true.mp continues.2, ?_, ?_⟩
    · intro d member
      have bounds := plainLetter_bounds (List.all_eq_true.mp value d member)
      exact bounds.2.2
    · simp [TextFormat.label, escape_eq_self value]

theorem search_LABEL {pair : List Char × List Char} (readable : ReadableLabel pair)
    {gap rest : List Char} (separated : gap = [] ∨ gap = [',']) :
    ∃ found : Match Char, LABEL.search (gap ++ (TextFormat.label pair ++ rest)) = some (gap, found) ∧
      found.captured 1 = some pair.1 ∧ found.captured 2 = some pair.2 ∧ found.rest = rest := by
  obtain ⟨c, name, key, starts, continues, value, text⟩ := inside_label readable
  have first := @firstMatch_LABEL _ _ _ rest starts continues value
  let found : Match Char :=
    { text := c :: name ++ ('=' :: '"' :: (pair.2 ++ ['"']))
      groups := [(1, c :: name), (2, pair.2)]
      rest }
  have here : LABEL.search (TextFormat.label pair ++ rest) = some ([], found) := by
    simp only [text, List.cons_append, List.append_assoc, List.nil_append] at first ⊢
    rw [search, first]
    rfl
  refine ⟨found, ?_, by rw [key]; rfl, rfl, rfl⟩
  rcases separated with rfl | rfl
  · exact here
  · rw [List.singleton_append, search, firstMatch_LABEL_of_not (by decide), here]
    rfl

end Values

def collect (labels : List (List Char × List Char)) (pairs : List (List Char × List Char)) :
    List (List Char × List Char) :=
  pairs.foldl (fun labels pair => setItem pair.1 pair.2 labels) labels

theorem setItem_of_not_mem {key value : List Char} {labels : List (List Char × List Char)}
    (fresh : key ∉ labels.map (·.1)) : setItem key value labels = labels ++ [(key, value)] := by
  induction labels with
  | nil => rfl
  | cons entry more ih =>
    simp only [List.map_cons, List.mem_cons, not_or] at fresh
    simp [setItem, Ne.symm fresh.1, ih fresh.2]

theorem collect_eq {labels pairs : List (List Char × List Char)}
    (distinct : ((labels ++ pairs).map (·.1)).Nodup) : collect labels pairs = labels ++ pairs := by
  induction pairs generalizing labels with
  | nil => simp [collect]
  | cons pair more ih =>
    have fresh : pair.1 ∉ labels.map (·.1) := by
      intro member
      simp only [List.map_append, List.map_cons] at distinct
      exact (List.nodup_append.mp distinct).2.2 _ member _ (by simp) rfl
    have next := @ih (labels ++ [pair]) (by simpa using distinct)
    simpa [collect, setItem_of_not_mem fresh] using next

theorem readLabels_labels (python : Interpreter) :
    ∀ (pairs : List (List Char × List Char)) (labels : List (List Char × List Char))
      (gap : List Char) (fuel : Nat),
      pairs ≠ [] → (∀ pair ∈ pairs, ReadableLabel pair) → gap = [] ∨ gap = [','] →
      (gap ++ TextFormat.labels pairs).length ≤ fuel →
      readLabels python labels (LABEL.findFrom fuel (gap ++ TextFormat.labels pairs)).1
        (LABEL.findFrom fuel (gap ++ TextFormat.labels pairs)).2 =
          .ok (some (collect labels pairs)) := by
  intro pairs
  induction pairs with
  | nil => simp
  | cons pair more ih =>
    intro labels gap fuel _ readable separated enough
    have apart : strip (fun c => c = ',' || c = ' ') gap = [] := by
      rcases separated with rfl | rfl <;> decide
    have decoded := @unicodeEscape_utf8 _ python.named (readable pair (by simp)).value
    have long : 0 < (TextFormat.label pair).length := by
      simp only [TextFormat.label, List.length_append, List.length_cons]
      omega
    cases fuel with
    | zero =>
      cases more <;> simp only [TextFormat.labels, List.length_append] at enough <;> omega
    | succ fuel =>
      cases more with
      | nil =>
        obtain ⟨found, searched, key, value, rest⟩ :=
          @search_LABEL _ (readable pair (by simp)) _ [] separated
        rw [List.append_nil] at searched
        have last : LABEL.findFrom fuel [] = ([], []) := by cases fuel <;> rfl
        simp only [TextFormat.labels, findFrom, searched, rest, last, readLabels, apart, key, value,
          Option.getD_some, decoded]
        rfl
      | cons next others =>
        obtain ⟨found, searched, key, value, rest⟩ :=
          @search_LABEL _ (readable pair (by simp)) _ (',' :: TextFormat.labels (next :: others))
            separated
        have room : ([','] ++ TextFormat.labels (next :: others)).length ≤ fuel := by
          simp only [TextFormat.labels, List.length_append, List.length_cons,
            List.length_nil] at enough ⊢
          omega
        have later := ih (setItem pair.1 pair.2 labels) [','] fuel (by simp)
          (fun pair member => readable pair (by simp [member])) (.inr rfl) room
        simp only [TextFormat.labels, findFrom, searched, rest, readLabels, apart, key, value,
          Option.getD_some, decoded]
        exact later

section Lines

variable {c : Char} {text rest : List Char}

def visibleLetter (c : Char) : Prop := 33 ≤ c.toNat ∧ c.toNat < 127

instance : DecidablePred visibleLetter := fun c =>
  inferInstanceAs (Decidable (33 ≤ c.toNat ∧ c.toNat < 127))

theorem isSpace_of_visibleLetter (visible : visibleLetter c) : isSpace c = false := by
  obtain ⟨low, high⟩ := visible
  simp only [isSpace, Text.isWhitespace, Bool.or_eq_false_iff, Bool.and_eq_false_iff,
    decide_eq_false_iff_not]
  omega

theorem visibleLetter_of_continuesName (continues : continuesName c) : visibleLetter c := by
  have bounds := continuesName_bounds continues
  unfold visibleLetter
  omega

theorem visibleLetter_label {pair : List Char × List Char} (readable : ReadableLabel pair) :
    ∀ c ∈ TextFormat.label pair, visibleLetter c := by
  intro c member
  simp only [TextFormat.label, escape_eq_self readable.value, List.mem_append, List.mem_cons,
    List.not_mem_nil, or_false] at member
  rcases member with name | rfl | rfl | value | rfl
  · exact visibleLetter_of_continuesName (List.all_eq_true.mp readable.continues c name)
  · decide
  · decide
  · obtain ⟨low, high, _⟩ := plainLetter_bounds (List.all_eq_true.mp readable.value c value)
    exact ⟨low, high⟩
  · decide

theorem brace_mem_label {pair : List Char × List Char} (readable : ReadableLabel pair) :
    '}' ∈ TextFormat.label pair ↔ '}' ∈ pair.2 := by
  have name : '}' ∉ pair.1 := by
    intro member
    exact ne_of_continuesName (List.all_eq_true.mp readable.continues _ member)
      (by decide : continuesName '}' = false) rfl
  simp [TextFormat.label, escape_eq_self readable.value, name]

theorem labels_cons (pair : List Char × List Char) (more : List (List Char × List Char)) :
    TextFormat.labels (pair :: more) =
      TextFormat.label pair ++ (if more = [] then [] else ',' :: TextFormat.labels more) := by
  cases more <;> simp [TextFormat.labels]

theorem visibleLetter_labels {pairs : List (List Char × List Char)}
    (readable : ∀ pair ∈ pairs, ReadableLabel pair) :
    ∀ c ∈ TextFormat.labels pairs, visibleLetter c := by
  induction pairs with
  | nil => simp [TextFormat.labels]
  | cons pair more ih =>
    intro c member
    rw [labels_cons, List.mem_append] at member
    rcases member with here | later
    · exact visibleLetter_label (readable pair (by simp)) c here
    · split at later
      · cases later
      · rcases List.mem_cons.mp later with rfl | later
        · decide
        · exact ih (fun pair member => readable pair (by simp [member])) c later

theorem brace_mem_labels {pairs : List (List Char × List Char)}
    (readable : ∀ pair ∈ pairs, ReadableLabel pair) :
    '}' ∈ TextFormat.labels pairs ↔ ∃ pair ∈ pairs, '}' ∈ pair.2 := by
  induction pairs with
  | nil => simp [TextFormat.labels]
  | cons pair more ih =>
    have rest := ih fun pair member => readable pair (by simp [member])
    rw [labels_cons, List.mem_append, brace_mem_label (readable pair (by simp))]
    cases more with
    | nil => simp
    | cons next others => simp [rest]

theorem labels_last {pairs : List (List Char × List Char)} (here : pairs ≠ []) :
    (TextFormat.labels pairs).getLast? = some '"' := by
  induction pairs with
  | nil => exact absurd rfl here
  | cons pair more ih =>
    rw [labels_cons]
    split
    · simp [TextFormat.label, List.getLast?_append, List.getLast?_cons]
    · rename_i others
      simp [List.getLast?_append, List.getLast?_cons, ih others]

end Lines

/-- What the exporter writes: names, and labels that need no escape. -/
structure ReadableSample {Value : Type} (sample : Sample Value) : Prop where
  starts : sample.name.head?.any startsName
  continues : sample.name.all continuesName
  labelled : sample.labels ≠ []
  labels : ∀ pair ∈ sample.labels, ReadableLabel pair
  distinct : (sample.labels.map (·.1)).Nodup

/-- How the exporter shows numbers, and that they are read back. -/
structure Python.Interpreter.Reads (python : Interpreter) (display : python.Value → List Char) :
    Prop where
  shown : ∀ value, python.isfinite value → display value ≠ []
  plain : ∀ value, python.isfinite value → ∀ c ∈ display value, visibleLetter c
  exact : ∀ value, python.isfinite value → python.float (display value) = some value

section Samples

variable {python : Interpreter} {display : python.Value → List Char}

theorem readSample_sample (reads : python.Reads display) {sample : Sample python.Value}
    (readable : ReadableSample sample) (finite : python.isfinite sample.value) :
    readSample python (TextFormat.sample display sample) =
      .ok (if ∃ pair ∈ sample.labels, '}' ∈ pair.2 then none else some sample) := by
  obtain ⟨name, labels, value⟩ := sample
  obtain ⟨starts, continues, labelled, labels_readable, distinct⟩ := readable
  cases name with
  | nil => cases starts
  | cons c name =>
    simp only [List.head?_cons, Option.any_some, List.all_cons, Bool.and_eq_true] at starts continues
    have following := List.all_eq_true.mp continues.2
    simp only [TextFormat.sample, List.cons_append, ← brace_mem_labels labels_readable]
    split
    · rename_i brace
      obtain ⟨before, after, split, first⟩ := List.eq_append_cons_of_mem brace
      cases after with
      | nil =>
        have last := labels_last labelled
        rw [split] at last
        simp at last
      | cons d after =>
        have visible : isSpace d = false :=
          isSpace_of_visibleLetter (visibleLetter_labels labels_readable d (by simp [split]))
        have failed := @firstMatch_SAMPLE_eq_none _ _ _ (after ++ '}' :: ' ' :: display value)
          starts following first _ visible
        simp only [split, List.append_assoc, List.cons_append, readSample, failed]
    · rename_i unbraced
      have number : ∀ d ∈ display value, isSpace d = false := fun d member =>
        isSpace_of_visibleLetter (reads.plain value finite d member)
      obtain ⟨found, matched, first, second, third⟩ : ∃ found, SAMPLE.firstMatch
          (c :: (name ++ '{' :: (TextFormat.labels labels ++ '}' :: ' ' :: display value))) =
            some found ∧ found.captured 1 = some (c :: name) ∧
          found.captured 2 = some (TextFormat.labels labels) ∧
          found.captured 3 = some (display value) :=
        ⟨_, firstMatch_SAMPLE starts following unbraced number (reads.shown value finite), rfl, rfl, rfl⟩
      have read := readLabels_labels python labels [] [] _ labelled labels_readable (.inl rfl)
        (Nat.le_refl _)
      rw [List.nil_append, collect_eq (by simpa using distinct), List.nil_append] at read
      have finding : ∃ c more, TextFormat.labels labels = c :: more := by
        cases labels with
        | nil => exact absurd rfl labelled
        | cons pair more => exact List.exists_cons_of_ne_nil (by simp [labels_cons, TextFormat.label])
      obtain ⟨c, more, text⟩ := finding
      simp only [readSample, matched]
      simp only [first, second, third, Option.getD_some, reads.exact value finite, finite, not_true,
        if_false]
      rw [text] at read ⊢
      simp only [finditer, read]
      rfl

end Samples

section Series

def Spelled (text : String) : Prop := text.toList.all plainLetter

def Plain (text : String) : Prop := Spelled text ∧ '}' ∉ text.toList

instance (text : String) : Decidable (Spelled text) :=
  inferInstanceAs (Decidable (text.toList.all plainLetter = true))

instance (text : String) : Decidable (Plain text) :=
  inferInstanceAs (Decidable (text.toList.all plainLetter = true ∧ '}' ∉ text.toList))

theorem plain_operation (operation : FinancialOperation) : Plain operation.asStr := by
  cases operation <;> decide

theorem plain_terminalOutcome (outcome : TerminalOutcome) : Plain outcome.asStr := by
  cases outcome <;> decide

theorem plain_reason (reason : FinancialReason) : Plain reason.asStr := by
  cases reason <;> decide

theorem plain_poolAcquireOutcome (outcome : PoolAcquireOutcome) : Plain outcome.asStr := by
  cases outcome <;> decide

theorem plain_idempotencyOutcome (outcome : IdempotencyOutcome) : Plain outcome.asStr := by
  cases outcome <;> decide

theorem plain_readinessOutcome (outcome : ReadinessOutcome) : Plain outcome.asStr := by
  cases outcome <;> decide

theorem plain_readinessReason (reason : ReadinessReason) : Plain reason.asStr := by
  cases reason <;> decide

theorem plain_method (method : MethodLabel) : Plain method.asStr := by
  cases method <;> decide

theorem plain_status (status : StatusClass) : Plain status.asStr := by
  cases status <;> decide

theorem spelled_route (route : RouteLabel) : Spelled route.asStr := by
  cases route <;> decide

theorem brace_mem_route (route : RouteLabel) :
    '}' ∈ route.asStr.toList ↔ route.HasParameter := by
  cases route <;> decide

theorem plain_bound : ∀ bound : Fin BUCKETS.length, Plain (BUCKETS.get bound) := by
  decide

def IsName (text : String) : Prop :=
  text.toList.head?.any startsName ∧ text.toList.all continuesName

instance (text : String) : Decidable (IsName text) :=
  inferInstanceAs (Decidable (_ ∧ _))

def Labelled (label : String × String) : Prop := IsName label.1 ∧ Spelled label.2

theorem labelled_bounds (part : HistogramPart) : ∀ label ∈ part.bounds, Labelled label := by
  cases part with
  | bucket bound =>
    simp only [HistogramPart.bounds, List.forall_mem_singleton]
    exact ⟨(by decide : IsName "le"), (plain_bound bound).1⟩
  | total =>
    simp only [HistogramPart.bounds, List.forall_mem_singleton]
    exact ⟨(by decide : IsName "le"), (by decide : Plain "+Inf").1⟩
  | sum => simp [HistogramPart.bounds]
  | count => simp [HistogramPart.bounds]

theorem labelled_labels (series : Series) : ∀ label ∈ series.labels, Labelled label := by
  cases series <;> simp only [Series.labels, List.cons_append, List.nil_append,
    List.forall_mem_cons, List.not_mem_nil, false_imp_iff, implies_true, and_true]
  case httpRequests method route status =>
    exact ⟨⟨(by decide : IsName "method"), (plain_method method).1⟩,
      ⟨(by decide : IsName "route"), spelled_route route⟩,
      ⟨(by decide : IsName "status_class"), (plain_status status).1⟩⟩
  case httpRequestDuration method route part =>
    exact ⟨⟨(by decide : IsName "method"), (plain_method method).1⟩,
      ⟨(by decide : IsName "route"), spelled_route route⟩, labelled_bounds part⟩
  case operations operation outcome reason =>
    exact ⟨⟨(by decide : IsName "operation"), (plain_operation operation).1⟩,
      ⟨(by decide : IsName "outcome"), (plain_terminalOutcome outcome).1⟩,
      ⟨(by decide : IsName "reason"), (plain_reason reason).1⟩⟩
  case transactionDuration operation outcome part =>
    exact ⟨⟨(by decide : IsName "operation"), (plain_operation operation).1⟩,
      ⟨(by decide : IsName "outcome"), (plain_terminalOutcome outcome).1⟩,
      labelled_bounds part⟩
  case idempotencyOutcomes operation outcome =>
    exact ⟨⟨(by decide : IsName "operation"), (plain_operation operation).1⟩,
      ⟨(by decide : IsName "outcome"), (plain_idempotencyOutcome outcome).1⟩⟩
  case poolAcquireDuration outcome part =>
    exact ⟨⟨(by decide : IsName "operation"), (plain_operation .transfer).1⟩,
      ⟨(by decide : IsName "outcome"), (plain_poolAcquireOutcome outcome).1⟩,
      labelled_bounds part⟩
  case readinessChecks outcome reason =>
    exact ⟨⟨(by decide : IsName "outcome"), (plain_readinessOutcome outcome).1⟩,
      ⟨(by decide : IsName "reason"), (plain_readinessReason reason).1⟩⟩
  case readinessCheckDuration outcome part =>
    exact ⟨⟨(by decide : IsName "outcome"), (plain_readinessOutcome outcome).1⟩,
      labelled_bounds part⟩

theorem keys_nodup (series : Series) : (series.labels.map (·.1.toList)).Nodup := by
  have bounds : ∀ part : HistogramPart, (part.bounds.map (·.1.toList)).Sublist ["le".toList] := by
    intro part
    cases part <;> simp [HistogramPart.bounds]
  have apart : ∀ (part : HistogramPart) (keys : List (List Char)),
      (keys ++ ["le".toList]).Nodup → (keys ++ part.bounds.map (·.1.toList)).Nodup :=
    fun part keys distinct => distinct.sublist ((List.Sublist.refl keys).append (bounds part))
  cases series <;> simp only [Series.labels, List.map_append, List.map_cons, List.map_nil]
  case httpRequests => decide
  case httpRequestDuration part => exact apart part _ (by decide)
  case operations => decide
  case transactionDuration part => exact apart part _ (by decide)
  case idempotencyOutcomes => decide
  case poolAcquireDuration part => exact apart part _ (by decide)
  case readinessChecks => decide
  case readinessCheckDuration part => exact apart part _ (by decide)

theorem name_suffixed {base : String} (name : IsName base) (part : HistogramPart) :
    (base.toList ++ part.suffix.toList).head?.any startsName ∧
      (base.toList ++ part.suffix.toList).all continuesName := by
  obtain ⟨starts, continues⟩ := name
  have suffix : part.suffix.toList.all continuesName := by
    cases part with
    | bucket => exact (by decide : "_bucket".toList.all continuesName = true)
    | total => decide
    | sum => decide
    | count => decide
  constructor
  · cases text : base.toList with
    | nil => simp [text] at starts
    | cons c rest => simpa [text] using starts
  · rw [List.all_append, continues, suffix]
    rfl

theorem name_isName (series : Series) :
    series.name.head?.any startsName ∧ series.name.all continuesName := by
  cases series with
  | httpRequests => exact (by decide : IsName "ledger_http_requests_total")
  | httpRequestDuration _ _ part =>
    exact name_suffixed (by decide : IsName "ledger_http_request_duration_seconds") part
  | operations => exact (by decide : IsName "ledger_operations_total")
  | transactionDuration _ _ part =>
    exact name_suffixed (by decide : IsName "ledger_database_transaction_duration_seconds") part
  | idempotencyOutcomes => exact (by decide : IsName "ledger_idempotency_outcomes_total")
  | poolAcquireDuration _ part =>
    exact name_suffixed (by decide : IsName "ledger_database_pool_acquire_duration_seconds") part
  | readinessChecks => exact (by decide : IsName "ledger_readiness_checks_total")
  | readinessCheckDuration _ part =>
    exact name_suffixed (by decide : IsName "ledger_readiness_check_duration_seconds") part

theorem readable_sample {Value : Type} (series : Series) (value : Value) :
    ReadableSample (series.sample value) where
  starts := (name_isName series).1
  continues := (name_isName series).2
  labelled := by cases series <;> simp [Series.sample, Series.labels]
  labels := by
    intro pair member
    obtain ⟨label, listed, rfl⟩ := List.mem_map.mp member
    obtain ⟨⟨starts, continues⟩, plain⟩ := labelled_labels series label listed
    exact ⟨starts, continues, plain⟩
  distinct := by
    have distinct := keys_nodup series
    simpa [Series.sample, Function.comp_def] using distinct

theorem braced_iff {Value : Type} (series : Series) (value : Value) :
    (∃ pair ∈ (series.sample value).labels, '}' ∈ pair.2) ↔
      ∃ route, series.route = some route ∧ route.HasParameter := by
  have bounds : ∀ (part : HistogramPart), ¬ ∃ label ∈ part.bounds, '}' ∈ label.2.toList := by
    intro part
    cases part with
    | bucket bound => simpa [HistogramPart.bounds] using (plain_bound bound).2
    | total => decide
    | sum => simp [HistogramPart.bounds]
    | count => simp [HistogramPart.bounds]
  have labels : (∃ pair ∈ (series.sample value).labels, '}' ∈ pair.2) ↔
      ∃ label ∈ series.labels, '}' ∈ label.2.toList := by
    simp [Series.sample]
  rw [labels]
  cases series <;> simp only [Series.labels, Series.route, List.cons_append, List.nil_append,
    List.exists_mem_cons_iff, List.not_mem_nil, false_and, exists_const, reduceCtorEq, exists_false,
    Option.some.injEq, exists_eq_left', iff_false, not_or, or_false, bounds]
  case httpRequests method route status =>
    simp [(plain_method method).2, (plain_status status).2, brace_mem_route]
  case httpRequestDuration method route part => simp [(plain_method method).2, brace_mem_route]
  case operations operation outcome reason =>
    exact ⟨(plain_operation operation).2, (plain_terminalOutcome outcome).2, (plain_reason reason).2⟩
  case transactionDuration operation outcome part =>
    exact ⟨(plain_operation operation).2, (plain_terminalOutcome outcome).2⟩
  case idempotencyOutcomes operation outcome =>
    exact ⟨(plain_operation operation).2, (plain_idempotencyOutcome outcome).2⟩
  case poolAcquireDuration outcome part =>
    exact ⟨(plain_operation .transfer).2, (plain_poolAcquireOutcome outcome).2⟩
  case readinessChecks outcome reason =>
    exact ⟨(plain_readinessOutcome outcome).2, (plain_readinessReason reason).2⟩
  case readinessCheckDuration outcome part => exact (plain_readinessOutcome outcome).2

end Series

end LedgerService.Benchmarks
