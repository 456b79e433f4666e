import LedgerService.Decisions
import LedgerService.Intervals
import LedgerService.Reference

set_option autoImplicit false

namespace LedgerService

open Transaction Intervals

section Selects

variable {Row Result : Type}

structure Selects (rows : Finset Row) (select : Row → Result)
    (unavailable ambiguous : ConfigurationError) (result : Except ConfigurationError Result) :
    Prop where
  one : ∀ found, result = .ok found ↔ ∃ row, rows = {row} ∧ found = select row
  none : result = .error unavailable ↔ rows = ∅
  many : result = .error ambiguous ↔ 2 ≤ rows.card

variable {rows : List Row} {select : Row → Result} {unavailable ambiguous : ConfigurationError}

theorem Selects.of_empty (different : unavailable ≠ ambiguous) :
    Selects ∅ select unavailable ambiguous (.error unavailable) where
  one := by simp
  none := by simp
  many := by simp [different]

theorem Selects.of_singleton (row : Row) :
    Selects {row} select unavailable ambiguous (.ok (select row)) where
  one := by simp [eq_comm]
  none := by simp
  many := by simp

theorem Selects.of_two {rows : Finset Row} (different : unavailable ≠ ambiguous)
    (many : 2 ≤ rows.card) : Selects rows select unavailable ambiguous (.error ambiguous) where
  one found := by
    simp only [reduceCtorEq, false_iff]
    rintro ⟨row, rfl, _⟩
    simp at many
  none := by
    simp only [Except.error.injEq, different.symm, false_iff]
    rintro rfl
    simp at many
  many := by simp [many]

theorem two_le_card [DecidableEq Row] {first second : Row} (distinct : (first :: second :: rows).Nodup) :
    2 ≤ (first :: second :: rows).toFinset.card := by
  rw [List.toFinset_card_of_nodup distinct]
  simp

end Selects

section Queries

variable {configuration : Configuration} {source destination : String} {time : Timestamp}

theorem Configuration.rate_selects
    (distinct : (configuration.exchangeRateRows source destination time).Nodup) :
    Selects (configuration.exchangeRateRows source destination time).toFinset ExchangeRateRow.select
      .rateUnavailable .rateAmbiguous (configuration.rate source destination time) := by
  unfold Configuration.rate
  generalize configuration.exchangeRateRows source destination time = rows at distinct ⊢
  rcases rows with _ | ⟨row, _ | ⟨other, rows⟩⟩
  · exact Selects.of_empty (by decide)
  · exact Selects.of_singleton row
  · exact Selects.of_two (by decide) (two_le_card distinct)

theorem Configuration.feeRule_selects
    (distinct : (configuration.pairFeeRows source destination time).Nodup)
    (distinct' : (configuration.defaultFeeRows time).Nodup) :
    Selects
      (if (configuration.pairFeeRows source destination time).toFinset = ∅ then
        (configuration.defaultFeeRows time).toFinset
      else (configuration.pairFeeRows source destination time).toFinset)
      FeeRuleRow.select .feeRuleUnavailable .feeRuleAmbiguous
      (configuration.feeRule source destination time) := by
  unfold Configuration.feeRule
  generalize configuration.pairFeeRows source destination time = rows at distinct ⊢
  generalize configuration.defaultFeeRows time = defaults at distinct' ⊢
  rcases rows with _ | ⟨row, _ | ⟨other, rows⟩⟩
  · simp only [List.toFinset_nil, if_true]
    rcases defaults with _ | ⟨row, _ | ⟨other, rows⟩⟩
    · exact Selects.of_empty (by decide)
    · exact Selects.of_singleton row
    · exact Selects.of_two (by decide) (two_le_card distinct')
  · rw [if_neg (by simp)]
    exact Selects.of_singleton row
  · rw [if_neg (by simp)]
    exact Selects.of_two (by decide) (two_le_card distinct)

structure Configuration.Keyed (configuration : Configuration) : Prop where
  exchangeRates : (configuration.exchangeRates.map ExchangeRateRow.id).Nodup
  fxFeeRules : (configuration.fxFeeRules.map FeeRuleRow.id).Nodup

theorem Configuration.Keyed.fee_eq (keyed : configuration.Keyed) {first second : FeeRuleRow}
    (one : first ∈ configuration.fxFeeRules) (two : second ∈ configuration.fxFeeRules)
    (same : first.id = second.id) : first = second :=
  List.inj_on_of_nodup_map keyed.fxFeeRules one two same

theorem Configuration.Keyed.feeRule_ne_default (keyed : configuration.Keyed) {row : FeeRuleRow}
    (applies : row ∈ configuration.pairFeeRows source destination time) {default : FeeRuleRow}
    (present : default ∈ configuration.fxFeeRules) (isDefault : default.sourceCurrency = none) :
    configuration.feeRule source destination time ≠ .ok default.select := by
  intro chosen
  obtain ⟨rule, same, rules | ⟨none, _⟩⟩ :=
    (configuration.feeRule_eq_ok source destination time).mp chosen
  · have member : rule ∈ configuration.pairFeeRows source destination time := by simp [rules]
    simp only [pairFeeRows, List.mem_filter, decide_eq_true_eq] at member
    obtain ⟨member, ofSource, _⟩ := member
    have id : rule.id = default.id := congrArg FeeRule.id same
    rw [keyed.fee_eq member present id, isDefault] at ofSource
    cases ofSource
  · rw [none] at applies
    cases applies

end Queries

/-- The FX selectors return the one row that applies, whatever the order of the tables, and refuse
none and several. -/
theorem fx_selection_fails_closed (platform : Platform) (attempt : Attempt) (db : Db)
    (writes : List Write) (configuration : Configuration) (keyed : configuration.Keyed)
    (source destination : String) (time : Timestamp) :
    let rates := configuration.exchangeRates.toFinset.filter fun row =>
      row.sourceCurrency = source ∧ row.destinationCurrency = destination ∧
        row.validFrom ≤ time ∧ time < row.validUntil
    let pairs := configuration.fxFeeRules.toFinset.filter fun row =>
      row.sourceCurrency = some source ∧ row.destinationCurrency = some destination ∧
        row.validFrom ≤ time ∧ time < row.validUntil
    let defaults := configuration.fxFeeRules.toFinset.filter fun row =>
      row.sourceCurrency = none ∧ row.destinationCurrency = none ∧
        row.validFrom ≤ time ∧ time < row.validUntil
    ∃ rate rule,
      (selectExchangeRate source destination time).finish (engine platform) attempt configuration
        db writes = .ok (rate, writes) ∧
      (selectFeeRule source destination time).finish (engine platform) attempt configuration
        db writes = .ok (rule, writes) ∧
      Selects rates ExchangeRateRow.select .rateUnavailable .rateAmbiguous rate ∧
      Selects (if pairs = ∅ then defaults else pairs) FeeRuleRow.select .feeRuleUnavailable
        .feeRuleAmbiguous rule ∧
      OneAt ExchangeRateRow.validFrom ExchangeRateRow.validUntil time (fun row =>
        row ∈ configuration.exchangeRates ∧ row.sourceCurrency = source ∧
          row.destinationCurrency = destination) rates ∧
      OneAt FeeRuleRow.validFrom FeeRuleRow.validUntil time (fun row =>
        row ∈ configuration.fxFeeRules ∧ row.sourceCurrency = some source ∧
          row.destinationCurrency = some destination) pairs ∧
      OneAt FeeRuleRow.validFrom FeeRuleRow.validUntil time (fun row =>
        row ∈ configuration.fxFeeRules ∧ row.sourceCurrency = none ∧
          row.destinationCurrency = none) defaults ∧
      ∀ row : FeeRuleRow, row.id ∉ configuration.fxFeeRules.map FeeRuleRow.id →
        row.sourceCurrency = some source → row.destinationCurrency = some destination →
        row.validFrom ≤ time → time < row.validUntil →
        ∃ rule', (selectFeeRule source destination time).finish (engine platform) attempt
            { configuration with fxFeeRules := configuration.fxFeeRules ++ [row] } db writes =
              .ok (rule', writes) ∧
          ∀ default ∈ configuration.fxFeeRules, default.sourceCurrency = none →
            rule' ≠ .ok default.select := by
  intro rates pairs defaults
  have rateRows : (configuration.exchangeRateRows source destination time).toFinset = rates := by
    ext row
    simp [rates, Configuration.exchangeRateRows, validAt]
  have pairRows : (configuration.pairFeeRows source destination time).toFinset = pairs := by
    ext row
    simp [pairs, Configuration.pairFeeRows, validAt]
  have defaultRows : (configuration.defaultFeeRows time).toFinset = defaults := by
    ext row
    simp [defaults, Configuration.defaultFeeRows, validAt]
  have distinctRates : (configuration.exchangeRateRows source destination time).Nodup :=
    keyed.exchangeRates.of_map.filter _
  have distinctPairs : (configuration.pairFeeRows source destination time).Nodup :=
    keyed.fxFeeRules.of_map.filter _
  have distinctDefaults : (configuration.defaultFeeRows time).Nodup :=
    keyed.fxFeeRules.of_map.filter _
  refine ⟨_, _, selectExchangeRate_finish _ _ _ _, selectFeeRule_finish _ _ _ _, ?_, ?_, ?_, ?_, ?_,
    ?_⟩
  · rw [← rateRows]
    exact Configuration.rate_selects distinctRates
  · rw [← pairRows, ← defaultRows]
    exact Configuration.feeRule_selects distinctPairs distinctDefaults
  · apply oneAt
    intro row
    simp [rates, HoldsAt, and_assoc]
  · apply oneAt
    intro row
    simp [pairs, HoldsAt, and_assoc]
  · apply oneAt
    intro row
    simp [defaults, HoldsAt, and_assoc]
  · intro row fresh ofSource toDestination begun ahead
    refine ⟨_, selectFeeRule_finish _ _ _ _, ?_⟩
    intro default present isDefault
    have keyed' : Configuration.Keyed
        { configuration with fxFeeRules := configuration.fxFeeRules ++ [row] } := by
      refine ⟨keyed.exchangeRates, ?_⟩
      rw [List.map_append, List.nodup_append]
      simpa [keyed.fxFeeRules] using fresh
    apply @Configuration.Keyed.feeRule_ne_default _ _ _ _ keyed' row _ _ (List.mem_append_left _ present)
      isDefault
    simp [Configuration.pairFeeRows, ofSource, toDestination, validAt, begun, ahead]

def Sample.twoDays : Configuration where
  exchangeRates := [⟨Sample.resource 1, "EUR", "JPY", .finite 161000000000000, 86400, 172800⟩,
    ⟨Sample.resource 2, "EUR", "JPY", .finite 160250000000000, 0, 86400⟩]
  fxFeeRules := [⟨Sample.resource 3, none, none, 25, 0, 172800⟩]

theorem fx_selection_fails_closed_midnight :
    ∃ rate, (selectExchangeRate "EUR" "JPY" 86400).finish (engine .reference)
        (Sample.transfer 5 "alice" "pay" 1 3 "10.00") Sample.twoDays
        (Ledger.start Sample.twoDays).store [] = .ok (.ok rate, []) ∧ rate.id = Sample.resource 1 := by
  -- At midnight the second rate holds, and it alone.
  obtain ⟨rate, _, answered, _, selected, _⟩ := fx_selection_fails_closed .reference
    (Sample.transfer 5 "alice" "pay" 1 3 "10.00") (Ledger.start Sample.twoDays).store []
    Sample.twoDays ⟨by decide, by decide⟩ "EUR" "JPY" 86400
  obtain rfl := (selected.one _).mpr
    ⟨⟨Sample.resource 1, "EUR", "JPY", .finite 161000000000000, 86400, 172800⟩, by decide, rfl⟩
  exact ⟨_, answered, rfl⟩

end LedgerService
