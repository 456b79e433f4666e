import Mathlib.Algebra.Order.Field.Power
import Mathlib.Data.Rat.Floor
import Mathlib.Tactic.Linarith
import Mathlib.Tactic.NormNum
import Mathlib.Tactic.FieldSimp
import LedgerService.Fx

set_option autoImplicit false

namespace LedgerService

def halfUp (value : Rat) : Int := ⌊value + 1 / 2⌋

theorem halfUp_near (value : Rat) : |(halfUp value : Rat) - value| ≤ 1 / 2 := by
  have below := Int.floor_le (value + 1 / 2)
  have above := Int.lt_floor_add_one (value + 1 / 2)
  rw [abs_le]
  unfold halfUp
  constructor <;> linarith

theorem halfUp_mono {first second : Rat} (le : first ≤ second) : halfUp first ≤ halfUp second :=
  Int.floor_le_floor (by linarith)

theorem halfUp_nonneg {value : Rat} (nonneg : 0 ≤ value) : 0 ≤ halfUp value :=
  Int.floor_nonneg.mpr (by linarith)

theorem halfUp_eq_zero {value : Rat} (nonneg : 0 ≤ value) : halfUp value = 0 ↔ value < 1 / 2 := by
  unfold halfUp
  rw [Int.floor_eq_zero_iff, Set.mem_Ico]
  constructor
  · rintro ⟨_, below⟩
    linarith
  · intro below
    constructor <;> linarith

theorem halfUpDivide_eq {numerator denominator : Int} (nonneg : 0 ≤ numerator)
    (positive : 0 < denominator) :
    halfUpDivide numerator denominator = .ok (halfUp (numerator / denominator)) := by
  have value : halfUp (numerator / denominator : Rat) =
      if denominator ≤ numerator % denominator * 2 then numerator / denominator + 1
      else numerator / denominator := by
    have euclid := Int.emod_add_mul_ediv numerator denominator
    have small := Int.emod_lt_of_pos numerator positive
    have least := Int.emod_nonneg numerator positive.ne'
    have positive' : (0 : Rat) < denominator := by exact_mod_cast positive
    have ratio : (numerator / denominator : Rat) =
        (numerator / denominator : Int) + (numerator % denominator : Int) / denominator := by
      have cast : (numerator : Rat) =
          (numerator % denominator : Int) + denominator * (numerator / denominator : Int) := by
        exact_mod_cast euclid.symm
      field_simp
      linarith
    unfold halfUp
    rw [Int.floor_eq_iff, ratio]
    split
    · rename_i up
      have half : (1 : Rat) / 2 ≤ (numerator % denominator : Int) / denominator := by
        rw [le_div_iff₀ positive']
        have up' : (denominator : Rat) ≤ (numerator % denominator : Int) * 2 := by exact_mod_cast up
        linarith
      have one : ((numerator % denominator : Int) / denominator : Rat) < 1 := by
        rw [div_lt_one positive']
        exact_mod_cast small
      push_cast
      constructor <;> linarith
    · rename_i down
      have half : ((numerator % denominator : Int) / denominator : Rat) < 1 / 2 := by
        rw [div_lt_iff₀ positive']
        have down' : ((numerator % denominator : Int) : Rat) * 2 < denominator := by
          exact_mod_cast Int.not_le.mp down
        linarith
      have zero : (0 : Rat) ≤ (numerator % denominator : Int) / denominator := by
        apply div_nonneg _ positive'.le
        exact_mod_cast least
      constructor <;> linarith
  rw [value, halfUpDivide, if_neg (Int.not_le.mpr positive)]
  simp only [Int.tdiv_eq_ediv_of_nonneg nonneg, Int.tmod_eq_emod_of_nonneg nonneg]
  split <;> rfl

namespace ExactRate

def value (rate : ExactRate) : Rat := rate.coefficient / 10 ^ rate.scale

theorem value_pos (rate : ExactRate) : 0 < rate.value := by
  have positive : (0 : Rat) < rate.coefficient := by exact_mod_cast rate.positive
  exact div_pos positive (by positivity)

end ExactRate

def converted (sourceMinor : Int) (sourceScale destinationScale : Nat) (rate : ExactRate) : Rat :=
  sourceMinor * rate.value * 10 ^ ((destinationScale : Int) - sourceScale)

section Converted

variable {sourceMinor sourceMinor' : Int} {sourceScale destinationScale : Nat}
  {rate rate' : ExactRate}

theorem converted_nonneg (nonneg : 0 ≤ sourceMinor) :
    0 ≤ converted sourceMinor sourceScale destinationScale rate := by
  have amount : (0 : Rat) ≤ sourceMinor := by exact_mod_cast nonneg
  exact mul_nonneg (mul_nonneg amount rate.value_pos.le) (by positivity)

theorem converted_mono (nonneg : 0 ≤ sourceMinor) (more : sourceMinor ≤ sourceMinor')
    (better : rate.value ≤ rate'.value) :
    converted sourceMinor sourceScale destinationScale rate ≤
      converted sourceMinor' sourceScale destinationScale rate' := by
  have amount : (0 : Rat) ≤ sourceMinor := by exact_mod_cast nonneg
  have larger : (sourceMinor : Rat) ≤ sourceMinor' := by exact_mod_cast more
  have nonneg' : (0 : Rat) ≤ sourceMinor' := amount.trans larger
  have positive := rate.value_pos
  unfold converted
  gcongr

theorem converted_eq_div :
    converted sourceMinor sourceScale destinationScale rate =
      ((sourceMinor * rate.coefficient * pow10 destinationScale : Int) : Rat) /
        ((pow10 rate.scale * pow10 sourceScale : Int) : Rat) := by
  unfold converted ExactRate.value pow10
  rw [zpow_sub₀ (by norm_num), zpow_natCast, zpow_natCast]
  push_cast
  field_simp

end Converted

theorem calculateDestination_eq {sourceMinor : I64} {sourceScale destinationScale : Nat}
    {rate : ExactRate} (positive : 0 < sourceMinor.val) (source : sourceScale ≤ 18)
    (destination : destinationScale ≤ 18) :
    calculateDestination sourceMinor sourceScale destinationScale rate =
      let rounded := halfUp (converted sourceMinor.val sourceScale destinationScale rate)
      if rounded = 0 then .error .destinationTooSmall else orOverflow (I64.tryFrom rounded) := by
  have numerator : 0 ≤ sourceMinor.val * rate.coefficient * pow10 destinationScale :=
    Int.mul_nonneg (Int.mul_nonneg positive.le rate.positive.le) (Int.pow_nonneg (by decide))
  have denominator : 0 < pow10 rate.scale * pow10 sourceScale :=
    Int.mul_pos (Int.pow_pos (by decide)) (Int.pow_pos (by decide))
  unfold calculateDestination
  rw [if_neg (Int.not_le.mpr positive), if_neg (by omega)]
  dsimp only
  rw [halfUpDivide_eq numerator denominator, ← converted_eq_div]
  rfl

theorem calculateDestination_error {sourceMinor : I64} {sourceScale destinationScale : Nat}
    {rate : ExactRate} :
    (sourceMinor.val ≤ 0 →
      calculateDestination sourceMinor sourceScale destinationScale rate = .error .invalidAmount) ∧
    (0 < sourceMinor.val → 18 < sourceScale ∨ 18 < destinationScale →
      calculateDestination sourceMinor sourceScale destinationScale rate = .error .invalidScale) := by
  unfold calculateDestination
  constructor
  · intro nonpositive
    rw [if_pos nonpositive]
  · intro positive large
    rw [if_neg (Int.not_le.mpr positive), if_pos large]

section Outcomes

variable {sourceMinor : I64} {sourceScale destinationScale : Nat} {rate : ExactRate}

theorem calculateDestination_eq_ok {result : I64} :
    calculateDestination sourceMinor sourceScale destinationScale rate = .ok result ↔
      0 < sourceMinor.val ∧ sourceScale ≤ 18 ∧ destinationScale ≤ 18 ∧ 0 < result.val ∧
        result.val = halfUp (converted sourceMinor.val sourceScale destinationScale rate) := by
  by_cases positive : 0 < sourceMinor.val
  · by_cases scales : sourceScale ≤ 18 ∧ destinationScale ≤ 18
    · have nonneg := halfUp_nonneg (@converted_nonneg _ sourceScale destinationScale rate
        positive.le)
      rw [calculateDestination_eq positive scales.1 scales.2]
      dsimp only
      by_cases small : halfUp (converted sourceMinor.val sourceScale destinationScale rate) = 0
      · rw [if_pos small]
        simp only [reduceCtorEq, false_iff]
        omega
      · rw [if_neg small]
        simp only [positive, scales, true_and]
        cases fits :
          I64.tryFrom (halfUp (converted sourceMinor.val sourceScale destinationScale rate)) with
        | none =>
          simp only [orOverflow, reduceCtorEq, false_iff, not_and]
          intro _ same
          have found := I64.tryFrom_eq_some.mpr same
          rw [fits] at found
          cases found
        | some value =>
          have same := I64.tryFrom_eq_some.mp fits
          simp only [orOverflow, Except.ok.injEq]
          constructor
          · rintro rfl
            omega
          · rintro ⟨_, equal⟩
            exact I64.ext (same.trans equal.symm)
    · rw [calculateDestination_error.2 positive (by omega)]
      simp only [reduceCtorEq, false_iff]
      omega
  · rw [calculateDestination_error.1 (by omega)]
    simp [positive]

end Outcomes

/-- A conversion is exact up to one rounding, half up, and stays within its range. -/
theorem calculate_destination_exact (sourceMinor : I64) (sourceScale destinationScale : Nat)
    (rate : ExactRate) :
    let exact := converted sourceMinor.val sourceScale destinationScale rate
    let rounded := ⌊exact + 1 / 2⌋
    let result := calculateDestination sourceMinor sourceScale destinationScale rate
    (sourceMinor.val ≤ 0 → result = .error .invalidAmount) ∧
    (0 < sourceMinor.val → 18 < sourceScale ∨ 18 < destinationScale →
      result = .error .invalidScale) ∧
    (0 < sourceMinor.val → sourceScale ≤ 18 → destinationScale ≤ 18 →
      (result = .error .destinationTooSmall ↔ rounded = 0) ∧ (rounded = 0 ↔ exact < 1 / 2) ∧
      (result = .error .overflow ↔ I64.max < rounded) ∧
      ∀ value : I64, value.val = rounded → rounded ≠ 0 → result = .ok value) ∧
    (∀ value, result = .ok value →
      value.val = rounded ∧ 1 ≤ value.val ∧ value.val ≤ I64.max ∧ |(value.val : Rat) - exact| ≤ 1 / 2) ∧
    ∀ (sourceMinor' : I64) (rate' : ExactRate) (value value' : I64),
      sourceMinor.val ≤ sourceMinor'.val → rate.value ≤ rate'.value → result = .ok value →
      calculateDestination sourceMinor' sourceScale destinationScale rate' = .ok value' →
      value.val ≤ value'.val := by
  intro exact rounded result
  refine ⟨calculateDestination_error.1, calculateDestination_error.2, ?_, ?_, ?_⟩
  · intro positive source destination
    have nonneg : 0 ≤ exact := converted_nonneg positive.le
    have least : 0 ≤ rounded := halfUp_nonneg nonneg
    have computed : result = if rounded = 0 then .error .destinationTooSmall
        else orOverflow (I64.tryFrom rounded) := calculateDestination_eq positive source destination
    refine ⟨?_, halfUp_eq_zero nonneg, ?_, ?_⟩
    · rw [computed]
      split
      · simp [*]
      · cases I64.tryFrom rounded <;> simp [orOverflow, *]
    · rw [computed]
      split
      · rename_i small
        simp [small, I64.max]
      · cases fits : I64.tryFrom rounded with
        | none =>
          simp only [orOverflow, true_iff]
          by_contra within
          have bounds : I64.min ≤ rounded ∧ rounded ≤ I64.max := by
            have lower : I64.min ≤ 0 := by decide
            omega
          simp [I64.tryFrom, bounds] at fits
        | some value =>
          have same := I64.tryFrom_eq_some.mp fits
          have bound := value.bounds
          simp only [orOverflow, reduceCtorEq, false_iff]
          omega
    · intro value same nonzero
      rw [computed, if_neg nonzero, I64.tryFrom_eq_some.mpr same]
      rfl
  · intro value converted
    obtain ⟨_, _, _, positive, same⟩ := calculateDestination_eq_ok.mp converted
    refine ⟨same, positive, value.bounds.2, ?_⟩
    rw [same]
    exact halfUp_near exact
  · intro sourceMinor' rate' value value' more better first second
    obtain ⟨positive, _, _, _, same⟩ := calculateDestination_eq_ok.mp first
    obtain ⟨_, _, _, _, same'⟩ := calculateDestination_eq_ok.mp second
    rw [same, same']
    exact halfUp_mono (converted_mono positive.le more better)

end LedgerService
