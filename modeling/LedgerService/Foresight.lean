import LedgerService.Fingerprints
import LedgerService.Freshness

set_option autoImplicit false

namespace LedgerService

open Literals Transaction

/-- The failure answers the request; it does not report a state that should not be. -/
def Failure.Foreseen (failure : Failure) : Prop :=
  (∀ source, failure ≠ .app (.internal source)) ∧ ∀ message, failure ≠ .panic message

section Decisions

def Foresees {α : Type} (result : Except Failure α) : Prop :=
  ∀ failure, result = .error failure → failure.Foreseen

theorem foreseen_app {error : AppError} (external : ∀ source, error ≠ .internal source) :
    Failure.Foreseen (.app error) :=
  ⟨fun source same => external source (Failure.app.inj same), fun _ => by simp⟩

theorem foreseen_validation (code message : String) : (Failure.validation code message).Foreseen :=
  foreseen_app (by simp)

theorem foreseen_business (code message : String) : (Failure.business code message).Foreseen :=
  foreseen_app (by simp)

variable {α β : Type}

theorem foresees_ok (value : α) : Foresees (.ok value) := by
  rintro failure ⟨⟩

theorem Foresees.bind {first : Except Failure α} {next : α → Except Failure β}
    (foresees : Foresees first) (later : ∀ value, first = .ok value → Foresees (next value)) :
    Foresees (first >>= next) := by
  intro failure failed
  rcases bind_eq_error.mp failed with early | ⟨value, succeeded, late⟩
  · exact foresees failure early
  · exact later value succeeded failure late

theorem foresees_demand {condition : Prop} [Decidable condition] {failure : Failure}
    (foreseen : failure.Foreseen) : Foresees (demand condition failure) := by
  intro reason failed
  obtain ⟨_, rfl⟩ := demand_eq_error.mp failed
  exact foreseen

theorem foresees_orFailure {failure : Failure} (foreseen : failure.Foreseen) (value : Option α) :
    Foresees (orFailure failure value) := by
  intro reason failed
  obtain ⟨_, rfl⟩ := orFailure_eq_error.mp failed
  exact foreseen

theorem fromHeaders_foresees (headers : HeaderMap) :
    Foresees (IdempotencyKey.fromHeaders headers) := by
  intro failure failed
  unfold IdempotencyKey.fromHeaders at failed
  repeat' split at failed
  all_goals
    cases failed
    try exact foreseen_validation _ _

theorem foresees_orMoneyError {convert : MoneyError → AppError}
    (external : ∀ error source, convert error ≠ .internal source) {parsed : Outcome MoneyError I64}
    (calm : parsed ≠ .panic) : Foresees (orMoneyError convert parsed) := by
  intro failure failed
  cases parsed with
  | ok amount => cases failed
  | error error =>
    cases failed
    exact foreseen_app (external error)
  | panic => exact absurd rfl calm

theorem moneyError_external (error : MoneyError) (source : InternalCause) :
    moneyError error ≠ .internal source := by
  cases error <;> simp [moneyError]

theorem transferMoneyError_external (error : MoneyError) (source : InternalCause) :
    transferMoneyError error ≠ .internal source := by
  cases error <;> simp [transferMoneyError]

theorem parseMinorUnits_calm {input : String} {scale : Nat} (bounded : scale ≤ 18) :
    parseMinorUnits input scale ≠ .panic := by
  by_cases wellFormed : ∃ literal : Literal, input.toList = literal.chars
  · obtain ⟨literal, reads⟩ := wellFormed
    rw [parseMinorUnits_of_literal bounded reads]
    split
    · simp
    · cases I64.tryFrom (literal.units scale) <;> simp [Outcome.orError]
  · rw [parseMinorUnits_of_no_literal wellFormed]
    simp

theorem parseInitialBalance_calm {input : String} {scale : Nat} (bounded : scale ≤ 18) :
    parseInitialBalance input scale ≠ .panic := by
  have calm := @parseMinorUnits_calm input scale bounded
  cases parsed : parseMinorUnits input scale with
  | ok amount =>
    simp only [parseInitialBalance, bind, Outcome.bind, parsed]
    split <;> simp
  | error error => simp [parseInitialBalance, bind, Outcome.bind, parsed]
  | panic => exact absurd parsed calm

theorem validateAccountRequest_foresees (headers : HeaderMap)
    (request : Option CreateAccountRequest) : Foresees (validateAccountRequest headers request) :=
  (fromHeaders_foresees headers).bind fun _ _ =>
    (foresees_orFailure (foreseen_validation _ _) _).bind fun _ _ =>
      (foresees_orFailure (foreseen_validation _ _) _).bind fun _ known =>
        (foresees_orMoneyError moneyError_external (parseInitialBalance_calm
          (currency_scale (orFailure_eq_ok.mp known)))).bind fun _ _ =>
            foresees_ok _

theorem validateTransferRequest_foresees (platform : Platform) (headers : HeaderMap)
    (request : Option CreateTransferRequest) :
    Foresees (validateTransferRequest platform headers request) :=
  (fromHeaders_foresees headers).bind fun _ _ =>
    (foresees_orFailure (foreseen_validation _ _) _).bind fun _ _ =>
      (foresees_orFailure (foreseen_validation _ _) _).bind fun _ _ =>
        (foresees_orFailure (foreseen_validation _ _) _).bind fun _ _ =>
          (foresees_demand (foreseen_validation _ _)).bind fun _ _ => foresees_ok _

theorem validateReversalRequest_foresees (platform : Platform) (headers : HeaderMap)
    (transferId : String) : Foresees (validateReversalRequest platform headers transferId) :=
  (fromHeaders_foresees headers).bind fun _ _ =>
    (foresees_orFailure (foreseen_validation _ _) _).bind fun _ _ => foresees_ok _

section Listed

variable {source destination : Account}

theorem transferAmount_foresees (listed : source.Listed) (amount : String) :
    Foresees (transferAmount (source.preliminary destination) amount) := by
  -- The scale of a listed account is a `u8`, and small enough for its powers of ten.
  have scale := listed.scale
  intro failure failed
  simp only [transferAmount, Account.preliminary, scale.1] at failed
  exact ((foresees_orMoneyError transferMoneyError_external (parseMinorUnits_calm scale.2.2)).bind
    fun _ _ => (foresees_demand (foreseen_validation _ _)).bind fun _ _ => foresees_ok _)
      failure failed

theorem transferTerms_foresees {configuration : Configuration} {amountMinor : I64}
    {fx : Option (ExchangeRate × FeeRule)} (valid : configuration.Valid)
    (offers : configuration.Offers fx) (positive : 0 < amountMinor.val)
    (sourceListed : source.Listed) (destinationListed : destination.Listed) :
    Foresees ((transferTerms amountMinor fx source.locked destination.locked).mapError
      transferArithmeticError) := by
  intro failure failed
  cases computed : transferTerms amountMinor fx source.locked destination.locked with
  | ok terms => simp [computed, Except.mapError] at failed
  | error error =>
    simp only [computed, Except.mapError, Except.error.injEq] at failed
    subst failed
    rcases transferTerms_error valid offers positive sourceListed.scale.2.2
      destinationListed.scale.2.2 computed with rfl | rfl
    all_goals exact foreseen_business _ _

end Listed

theorem transferBalances_foresees (terms : TransferTerms) (source destination : LockedAccount) :
    Foresees (transferBalances terms source destination) :=
  (foresees_demand (foreseen_business _ _)).bind fun _ _ =>
    (foresees_orFailure (foreseen_business _ _) _).bind fun _ _ =>
      (foresees_orFailure (foreseen_business _ _) _).bind fun _ _ => foresees_ok _

theorem reversalBalances_foresees (original : OriginalTransfer)
    (source destination : LockedAccount) :
    Foresees (reversalBalances original source destination) :=
  (foresees_orFailure (foreseen_business _ _) _).bind fun _ _ =>
    (foresees_orFailure (foreseen_business _ _) _).bind fun _ _ => foresees_ok _

theorem accountUnavailable_foreseen : Failure.Foreseen (.app .accountUnavailable) :=
  foreseen_app (by simp)

end Decisions

end LedgerService
