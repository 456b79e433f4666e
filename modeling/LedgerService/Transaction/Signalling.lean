import LedgerService.Transaction.Program

set_option autoImplicit false

/-!
# The order of a program's signals

An automaton reads the signals that a program sends.  The program follows it when no path sends a
signal that the automaton has no move for.
-/

namespace Transaction

variable {I : Interface} {State α β : Type}

namespace Program

/-- `post` is what holds of an answer and of the state the automaton is in by then. -/
def Follows (move : State → I.Signal → Option State) :
    Program I α → State → (α → State → Prop) → Prop
  | .done value, state, post => post value state
  | .fail _, _, _ => True
  | .signal sent rest, state, post =>
      ∃ next, move state sent = some next ∧ rest.Follows move next post
  | .query _ next, state, post => ∀ answer, (next answer).Follows move state post

variable {move : State → I.Signal → Option State} {state : State}

section Silent

def Silent : Program I α → Prop
  | .done _ => True
  | .fail _ => True
  | .signal _ _ => False
  | .query _ next => ∀ answer, (next answer).Silent

variable {program : Program I α} {f : α → Program I β}

theorem Silent.bind (silent : program.Silent) (later : ∀ value, (f value).Silent) :
    (program.bind f).Silent := by
  induction program with
  | done value => exact later value
  | fail failure => trivial
  | signal sent rest => exact silent.elim
  | query statement next ih => exact fun answer => ih answer (silent answer)

theorem Silent.follows_bind {post : β → State → Prop} (silent : program.Silent)
    (later : ∀ value, (f value).Follows move state post) :
    (program.bind f).Follows move state post := by
  induction program with
  | done value => exact later value
  | fail failure => trivial
  | signal sent rest => exact silent.elim
  | query statement next ih => exact fun answer => ih answer (silent answer)

theorem silent_ensure {condition : Prop} [Decidable condition] {failure : I.Failure} :
    (ensure condition failure).Silent := by
  by_cases holds : condition <;> simp [ensure, holds, Silent]

theorem silent_orFail {failure : I.Failure} {value : Option α} : (orFail failure value).Silent := by
  cases value <;> trivial

theorem silent_ofExcept {value : Except I.Failure α} : (ofExcept value : Program I α).Silent := by
  cases value <;> trivial

end Silent

end Program

end Transaction
