import LedgerService.Conversion

set_option autoImplicit false

namespace LedgerService

def feeShare (sourceMinor feeBps : Int) : Rat := sourceMinor * feeBps / 10000

section Share

variable {sourceMinor sourceMinor' feeBps feeBps' : Int}

theorem feeShare_eq_div :
    feeShare sourceMinor feeBps = ((sourceMinor * feeBps : Int) : Rat) / (10000 : Int) := by
  unfold feeShare
  push_cast
  rfl

theorem feeShare_nonneg (nonneg : 0 ≤ sourceMinor) (least : 0 ≤ feeBps) :
    0 ≤ feeShare sourceMinor feeBps := by
  have product : (0 : Rat) ≤ sourceMinor * feeBps := by
    exact_mod_cast Int.mul_nonneg nonneg least
  exact div_nonneg product (by norm_num)

theorem feeShare_le (nonneg : 0 ≤ sourceMinor) (most : feeBps ≤ 10000) :
    feeShare sourceMinor feeBps ≤ sourceMinor := by
  have product : (sourceMinor * feeBps : Rat) ≤ sourceMinor * 10000 := by
    exact_mod_cast Int.mul_le_mul_of_nonneg_left most nonneg
  exact (div_le_iff₀ (by norm_num)).mpr product

theorem feeShare_mono (nonneg : 0 ≤ sourceMinor) (least : 0 ≤ feeBps)
    (more : sourceMinor ≤ sourceMinor') (dearer : feeBps ≤ feeBps') :
    feeShare sourceMinor feeBps ≤ feeShare sourceMinor' feeBps' := by
  have product : (sourceMinor * feeBps : Rat) ≤ sourceMinor' * feeBps' := by
    exact_mod_cast Int.mul_le_mul more dearer least (nonneg.trans more)
  exact div_le_div_of_nonneg_right product (by norm_num)

theorem halfUp_feeShare_le (nonneg : 0 ≤ sourceMinor) (most : feeBps ≤ 10000) :
    halfUp (feeShare sourceMinor feeBps) ≤ sourceMinor := by
  -- Rounding up does not take the fee over the principal, which is an integer.
  calc halfUp (feeShare sourceMinor feeBps)
      ≤ halfUp sourceMinor := halfUp_mono (feeShare_le nonneg most)
    _ = sourceMinor := by
      unfold halfUp
      rw [Int.floor_intCast_add, show ⌊(1 / 2 : Rat)⌋ = 0 by norm_num, Int.add_zero]

theorem halfUp_feeShare_eq_zero (nonneg : 0 ≤ sourceMinor) (least : 0 ≤ feeBps) :
    halfUp (feeShare sourceMinor feeBps) = 0 ↔ 2 * sourceMinor * feeBps < 10000 := by
  rw [halfUp_eq_zero (feeShare_nonneg nonneg least), feeShare, div_lt_iff₀ (by norm_num)]
  constructor
  · intro small
    have small' : (2 * sourceMinor * feeBps : Rat) < 10000 := by linarith
    exact_mod_cast small'
  · intro small
    have small' : (2 * sourceMinor * feeBps : Rat) < 10000 := by exact_mod_cast small
    linarith

end Share

section Calculation

variable {sourceMinor : I64} {feeBps : Int}

theorem calculateFee_invalid :
    sourceMinor.val ≤ 0 ∨ ¬ (0 ≤ feeBps ∧ feeBps ≤ 10000) →
      calculateFee sourceMinor feeBps = .error .invalidAmount := by
  intro invalid
  unfold calculateFee
  rw [if_pos invalid]

theorem calculateFee_eq (positive : 0 < sourceMinor.val) (least : 0 ≤ feeBps)
    (most : feeBps ≤ 10000) :
    ∃ feeMinor : I64, feeMinor.val = halfUp (feeShare sourceMinor.val feeBps) ∧
      calculateFee sourceMinor feeBps =
        (orOverflow (I64.checkedAdd sourceMinor feeMinor)).map (⟨feeMinor, ·⟩) := by
  have numerator : 0 ≤ sourceMinor.val * feeBps := Int.mul_nonneg positive.le least
  have nonneg : 0 ≤ halfUp (feeShare sourceMinor.val feeBps) :=
    halfUp_nonneg (feeShare_nonneg positive.le least)
  have within := halfUp_feeShare_le positive.le most
  have bounds := sourceMinor.bounds
  have fits : I64.min ≤ halfUp (feeShare sourceMinor.val feeBps) ∧
      halfUp (feeShare sourceMinor.val feeBps) ≤ I64.max := by
    have lower : I64.min ≤ 0 := by decide
    omega
  refine ⟨⟨_, fits⟩, rfl, ?_⟩
  unfold calculateFee
  rw [if_neg (by omega), halfUpDivide_eq numerator (by decide), ← feeShare_eq_div]
  have converted : I64.tryFrom (halfUp (feeShare sourceMinor.val feeBps)) = some ⟨_, fits⟩ :=
    I64.tryFrom_eq_some.mpr rfl
  simp only [Bind.bind, Except.bind, converted, orOverflow]
  cases I64.checkedAdd sourceMinor ⟨_, fits⟩ with
  | none => rfl
  | some _ => rfl

theorem calculateFee_eq_error (positive : 0 < sourceMinor.val) (least : 0 ≤ feeBps)
    (most : feeBps ≤ 10000) {error : ArithmeticError} :
    calculateFee sourceMinor feeBps = .error error ↔
      error = .overflow ∧ I64.max < sourceMinor.val + halfUp (feeShare sourceMinor.val feeBps) := by
  obtain ⟨feeMinor, rounded, calculated⟩ := calculateFee_eq positive least most
  have nonneg : 0 ≤ halfUp (feeShare sourceMinor.val feeBps) :=
    halfUp_nonneg (feeShare_nonneg positive.le least)
  have lower : I64.min ≤ 0 := by decide
  rw [calculated, ← rounded]
  cases summed : I64.checkedAdd sourceMinor feeMinor with
  | none =>
    have large : I64.max < sourceMinor.val + feeMinor.val := by
      by_contra within
      have bounds : I64.min ≤ sourceMinor.val + feeMinor.val ∧
          sourceMinor.val + feeMinor.val ≤ I64.max := by omega
      have found := @I64.checkedAdd_eq_some sourceMinor feeMinor ⟨_, bounds⟩
      simp [summed] at found
    simp [orOverflow, Except.map, large, eq_comm]
  | some total =>
    have sum := I64.checkedAdd_eq_some.mp summed
    have bound := total.bounds.2
    simp only [orOverflow, Except.map, reduceCtorEq, false_iff]
    omega

theorem calculateFee_eq_ok (positive : 0 < sourceMinor.val) (least : 0 ≤ feeBps)
    (most : feeBps ≤ 10000) {calculation : FeeCalculation}
    (calculated : calculateFee sourceMinor feeBps = .ok calculation) :
    calculation.feeMinor.val = halfUp (feeShare sourceMinor.val feeBps) ∧
      calculation.totalSourceDebitMinor.val = sourceMinor.val + calculation.feeMinor.val := by
  obtain ⟨feeMinor, rounded, computed⟩ := calculateFee_eq positive least most
  rw [computed] at calculated
  cases summed : I64.checkedAdd sourceMinor feeMinor with
  | none =>
    rw [summed] at calculated
    cases calculated
  | some total =>
    rw [summed] at calculated
    cases calculated
    exact ⟨rounded, I64.checkedAdd_eq_some.mp summed⟩

theorem calculateFee_nonneg (positive : 0 < sourceMinor.val) (least : 0 ≤ feeBps)
    (most : feeBps ≤ 10000) {calculation : FeeCalculation}
    (calculated : calculateFee sourceMinor feeBps = .ok calculation) :
    0 ≤ calculation.feeMinor.val := by
  rw [(calculateFee_eq_ok positive least most calculated).1]
  exact halfUp_nonneg (feeShare_nonneg positive.le least)

end Calculation

/-- A fee is exact up to one rounding, half up, and never above the principal. -/
theorem calculate_fee_exact (sourceMinor : I64) (feeBps : Int) :
    let fee := ⌊(sourceMinor.val * feeBps / 10000 : Rat) + 1 / 2⌋
    let result := calculateFee sourceMinor feeBps
    (result = .error .invalidAmount ↔
      sourceMinor.val ≤ 0 ∨ ¬ (0 ≤ feeBps ∧ feeBps ≤ 10000)) ∧
    (0 < sourceMinor.val → 0 ≤ feeBps → feeBps ≤ 10000 →
      0 ≤ fee ∧ fee ≤ sourceMinor.val ∧ (fee = 0 ↔ 2 * sourceMinor.val * feeBps < 10000) ∧
      (result = .error .overflow ↔ I64.max < sourceMinor.val + fee) ∧
      (sourceMinor.val + fee ≤ I64.max → ∃ calculation, result = .ok calculation ∧
        calculation.feeMinor.val = fee ∧
        calculation.totalSourceDebitMinor.val = sourceMinor.val + fee) ∧
      ∀ sourceMinor' feeBps' : Int, sourceMinor.val ≤ sourceMinor' → feeBps ≤ feeBps' →
        fee ≤ ⌊(sourceMinor' * feeBps' / 10000 : Rat) + 1 / 2⌋) := by
  intro fee result
  refine ⟨⟨?_, calculateFee_invalid⟩, ?_⟩
  · intro refused
    by_contra valid
    have least : 0 ≤ feeBps := by omega
    have most : feeBps ≤ 10000 := by omega
    have reason := (calculateFee_eq_error (by omega) least most).mp refused
    cases reason.1
  · intro positive least most
    have refused := fun error =>
      @calculateFee_eq_error _ _ positive least most error
    refine ⟨halfUp_nonneg (feeShare_nonneg positive.le least),
      halfUp_feeShare_le positive.le most, halfUp_feeShare_eq_zero positive.le least, ?_, ?_, ?_⟩
    · rw [refused]
      simp [fee, halfUp, feeShare]
    · intro within
      cases calculated : result with
      | error error =>
        have large : I64.max < sourceMinor.val + fee := ((refused error).mp calculated).2
        omega
      | ok calculation =>
        obtain ⟨rounded, total⟩ := calculateFee_eq_ok positive least most calculated
        rw [rounded] at total
        exact ⟨calculation, rfl, rounded, total⟩
    · intro sourceMinor' feeBps' more dearer
      exact halfUp_mono (feeShare_mono positive.le least more dearer)

end LedgerService
