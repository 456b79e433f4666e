import LedgerService.Schema

set_option autoImplicit false

namespace LedgerService

/-- What an internal error wraps; none of it is shown to a client. -/
inductive InternalCause where
  | database (error : DbError)
  | conversion
  | message (text : String)
  deriving DecidableEq

inductive AppError where
  | badRequest
  | validation (code message : String)
  | unauthorized
  | forbidden
  | notFound
  | conflict
  | idempotencyConflict
  | accountUnavailable
  | business (code message : String)
  | serviceUnavailable
  | internal (source : InternalCause)
  deriving DecidableEq

/-- How a handler ends without a success: with an error response or with a panic. -/
inductive Failure where
  | app (error : AppError)
  | panic (message : String)
  deriving DecidableEq

namespace Failure

def validation (code message : String) : Failure := .app (.validation code message)

def business (code message : String) : Failure := .app (.business code message)

def internal (source : InternalCause) : Failure := .app (.internal source)

def database (error : DbError) : Failure := .app (.internal (.database error))

end Failure

def demand (condition : Prop) [Decidable condition] (failure : Failure) : Except Failure Unit :=
  if condition then .ok () else .error failure

def orFailure {α : Type} (failure : Failure) : Option α → Except Failure α
  | some value => .ok value
  | none => .error failure

section Inversion

variable {α β : Type}

theorem bind_eq_ok {ε : Type} {first : Except ε α} {next : α → Except ε β} {result : β} :
    (first >>= next) = .ok result ↔ ∃ value, first = .ok value ∧ next value = .ok result := by
  cases first with
  | error failure => simp [bind, Except.bind]
  | ok value => simp [bind, Except.bind]

theorem bind_eq_error {ε : Type} {first : Except ε α} {next : α → Except ε β} {failure : ε} :
    (first >>= next) = .error failure ↔
      first = .error failure ∨ ∃ value, first = .ok value ∧ next value = .error failure := by
  cases first with
  | error failure => simp [bind, Except.bind]
  | ok value => simp [bind, Except.bind]

theorem demand_eq_error {condition : Prop} [Decidable condition] {failure reason : Failure} :
    demand condition failure = .error reason ↔ ¬ condition ∧ failure = reason := by
  by_cases holds : condition <;> simp [demand, holds]

theorem orFailure_eq_error {failure reason : Failure} {value : Option α} :
    orFailure failure value = .error reason ↔ value = none ∧ failure = reason := by
  cases value <;> simp [orFailure]

theorem demand_eq_ok {condition : Prop} [Decidable condition] {failure : Failure} :
    demand condition failure = .ok () ↔ condition := by
  by_cases holds : condition <;> simp [demand, holds]

theorem orFailure_eq_ok {failure : Failure} {value : Option α} {result : α} :
    orFailure failure value = .ok result ↔ value = some result := by
  cases value <;> simp [orFailure]

theorem mapError_eq_ok {ε ε' : Type} {convert : ε → ε'} {value : Except ε α} {result : α} :
    value.mapError convert = .ok result ↔ value = .ok result := by
  cases value <;> simp [Except.mapError]

end Inversion

end LedgerService
