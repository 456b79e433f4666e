import LedgerService.Transaction.Engine

set_option autoImplicit false

/-!
# Running alone

`Commits` says what a program commits when nothing else runs between its statements.  A statement
may read the reference tables as they were at some earlier time, as far as `older` allows.
-/

namespace Transaction

variable {I : Interface} {Context Store Reference Write Lock Operator α β : Type}

namespace Program

section Finish

variable (E : Engine I Context Store Reference Write Lock Operator) (context : Context)
  (reference : Reference) (store : Store)

def finish : Program I α → List Write → Except I.Failure (α × List Write)
  | .done value, writes => .ok (value, writes)
  | .fail failure, _ => .error failure
  | .signal _ rest, writes => rest.finish writes
  | .query statement next, writes =>
      match E.exec context statement reference (E.view store writes) with
      | .ok (result, more) => (next (.ok result)).finish (writes ++ more)
      | .error error => (next (.error error)).finish writes

section Equations

variable {E context reference store}

@[simp] theorem finish_done {value : α} {writes : List Write} :
    (Program.done value : Program I α).finish E context reference store writes =
      .ok (value, writes) := rfl

@[simp] theorem finish_fail {failure : I.Failure} {writes : List Write} :
    (Program.fail failure : Program I α).finish E context reference store writes =
      .error failure := rfl

theorem finish_bind {program : Program I α} {f : α → Program I β} {writes : List Write} :
    (program.bind f).finish E context reference store writes =
      match program.finish E context reference store writes with
      | .ok (value, between) => (f value).finish E context reference store between
      | .error failure => .error failure := by
  induction program generalizing writes with
  | done value => rfl
  | fail failure => rfl
  | signal sent rest ih => exact ih
  | query statement next ih =>
    simp only [query_bind, finish]
    split
    · exact ih _
    · exact ih _

theorem finish_bind_ok {program : Program I α} {f : α → Program I β} {value : α}
    {writes between : List Write}
    (first : program.finish E context reference store writes = .ok (value, between)) :
    (program.bind f).finish E context reference store writes =
      (f value).finish E context reference store between := by
  rw [finish_bind, first]

theorem finish_bind_error {program : Program I α} {f : α → Program I β} {failure : I.Failure}
    {writes : List Write}
    (first : program.finish E context reference store writes = .error failure) :
    (program.bind f).finish E context reference store writes = .error failure := by
  rw [finish_bind, first]

@[simp] theorem finish_emit {sent : I.Signal} {writes : List Write} :
    (emit sent).finish E context reference store writes = .ok ((), writes) := rfl

theorem finish_ensure {condition : Prop} [Decidable condition] {failure : I.Failure}
    {writes : List Write} :
    (ensure condition failure).finish E context reference store writes =
      if condition then .ok ((), writes) else .error failure := by
  by_cases holds : condition <;> simp [ensure, holds]

theorem finish_ofExcept {value : Except I.Failure α} {writes : List Write} :
    (ofExcept value).finish E context reference store writes =
      value.map fun result => (result, writes) := by
  cases value <;> rfl

end Equations

end Finish

section Commits

variable (E : Engine I Context Store Reference Write Lock Operator)
  (older : Reference → Reference → Prop) (context : Context) (reference : Reference)
  (store : Store)

def Commits : Program I α → List Write → α → List Write → Prop
  | .done value, writes, result, final => value = result ∧ writes = final
  | .fail _, _, _, _ => False
  | .signal _ rest, writes, result, final => rest.Commits writes result final
  | .query statement next, writes, result, final =>
      ∃ seen answer more, older seen reference ∧
        E.exec context statement seen (E.view store writes) = .ok (answer, more) ∧
        (next (.ok answer)).Commits (writes ++ more) result final

variable {E older context reference store}

@[simp] theorem commits_done {value result : α} {writes final : List Write} :
    (Program.done value).Commits E older context reference store writes result final ↔
      value = result ∧ writes = final := Iff.rfl

@[simp] theorem commits_fail {failure : I.Failure} {result : α} {writes final : List Write} :
    (Program.fail failure).Commits E older context reference store writes result final ↔
      False := Iff.rfl

@[simp] theorem commits_signal {sent : I.Signal} {rest : Program I α} {result : α}
    {writes final : List Write} :
    (Program.signal sent rest).Commits E older context reference store writes result final ↔
      rest.Commits E older context reference store writes result final := Iff.rfl

theorem commits_query {statement : I.Statement}
    {next : Except I.Error (I.Result statement) → Program I α} {result : α}
    {writes final : List Write} :
    (Program.query statement next).Commits E older context reference store writes result final ↔
      ∃ seen answer more, older seen reference ∧
        E.exec context statement seen (E.view store writes) = .ok (answer, more) ∧
        (next (.ok answer)).Commits E older context reference store (writes ++ more) result
          final := Iff.rfl

theorem commits_bind {program : Program I α} {f : α → Program I β} {result : β}
    {writes final : List Write} :
    (program.bind f).Commits E older context reference store writes result final ↔
      ∃ value between, program.Commits E older context reference store writes value between ∧
        (f value).Commits E older context reference store between result final := by
  induction program generalizing writes with
  | done value => simp [and_assoc]
  | fail failure => simp
  | signal sent rest ih => simpa using ih
  | query statement next ih =>
    simp only [query_bind, commits_query, ih]
    constructor
    · rintro ⟨seen, answer, more, old, answered, value, between, first, second⟩
      exact ⟨value, between, ⟨seen, answer, more, old, answered, first⟩, second⟩
    · rintro ⟨value, between, ⟨seen, answer, more, old, answered, first⟩, second⟩
      exact ⟨seen, answer, more, old, answered, value, between, first, second⟩

@[simp] theorem commits_emit {sent : I.Signal} {result : Unit} {writes final : List Write} :
    (emit sent).Commits E older context reference store writes result final ↔
      writes = final := by
  simp [emit]

@[simp] theorem commits_ensure {condition : Prop} [Decidable condition] {failure : I.Failure}
    {result : Unit} {writes final : List Write} :
    (ensure condition failure).Commits E older context reference store writes result final ↔
      condition ∧ writes = final := by
  by_cases holds : condition <;> simp [ensure, holds]

@[simp] theorem commits_orFail {failure : I.Failure} {value : Option α} {result : α}
    {writes final : List Write} :
    (orFail failure value).Commits E older context reference store writes result final ↔
      value = some result ∧ writes = final := by
  cases value <;> simp [orFail, eq_comm]

@[simp] theorem commits_ofExcept {value : Except I.Failure α} {result : α}
    {writes final : List Write} :
    (ofExcept value).Commits E older context reference store writes result final ↔
      value = .ok result ∧ writes = final := by
  cases value <;> simp [ofExcept, eq_comm]

theorem finish_of_commits {program : Program I α} {writes final : List Write} {result : α}
    (commits : program.Commits E Eq context reference store writes result final) :
    program.finish E context reference store writes = .ok (result, final) := by
  induction program generalizing writes with
  | done value =>
    obtain ⟨rfl, rfl⟩ := commits
    rfl
  | fail failure => exact commits.elim
  | signal sent rest ih => exact ih commits
  | query statement next ih =>
    obtain ⟨_, answer, more, rfl, answered, rest⟩ := commits
    simpa only [finish, answered] using ih _ rest

end Commits

end Program

end Transaction
