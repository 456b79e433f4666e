set_option autoImplicit false

/-!
# Programs of statements

A request handler, seen from the database, is a tree: it sends a statement, looks at the answer,
and goes on.  An error answer is handed to the handler like any other answer.
-/

namespace Transaction

structure Interface where
  Statement : Type
  Result : Statement → Type
  Error : Type
  Signal : Type
  Failure : Type

inductive Program (I : Interface) (α : Type) where
  | done (value : α)
  | fail (failure : I.Failure)
  | signal (sent : I.Signal) (rest : Program I α)
  | query (statement : I.Statement)
      (next : Except I.Error (I.Result statement) → Program I α)

namespace Program

variable {I : Interface} {α β γ : Type}

def bind : Program I α → (α → Program I β) → Program I β
  | .done value, f => f value
  | .fail failure, _ => .fail failure
  | .signal sent rest, f => .signal sent (rest.bind f)
  | .query statement next, f => .query statement fun answer => (next answer).bind f

instance : Monad (Program I) where
  pure := .done
  bind := bind

@[simp] theorem pure_eq (value : α) : (pure value : Program I α) = .done value := rfl

@[simp] theorem bind_eq (program : Program I α) (f : α → Program I β) :
    program >>= f = program.bind f := rfl

@[simp] theorem done_bind (value : α) (f : α → Program I β) :
    (Program.done value).bind f = f value := rfl

@[simp] theorem fail_bind (failure : I.Failure) (f : α → Program I β) :
    (Program.fail failure).bind f = .fail failure := rfl

@[simp] theorem signal_bind (sent : I.Signal) (rest : Program I α) (f : α → Program I β) :
    (Program.signal sent rest).bind f = .signal sent (rest.bind f) := rfl

@[simp] theorem query_bind (statement : I.Statement)
    (next : Except I.Error (I.Result statement) → Program I α) (f : α → Program I β) :
    (Program.query statement next).bind f = .query statement fun answer => (next answer).bind f :=
  rfl

theorem bind_assoc (program : Program I α) (f : α → Program I β) (g : β → Program I γ) :
    (program.bind f).bind g = program.bind fun value => (f value).bind g := by
  induction program with
  | done value => rfl
  | fail failure => rfl
  | signal sent rest ih => simp [ih]
  | query statement next ih => simp [ih]

def emit (sent : I.Signal) : Program I Unit := .signal sent (.done ())

def ensure (condition : Prop) [Decidable condition] (failure : I.Failure) : Program I Unit :=
  if condition then .done () else .fail failure

def orFail (failure : I.Failure) : Option α → Program I α
  | some value => .done value
  | none => .fail failure

def ofExcept : Except I.Failure α → Program I α
  | .ok value => .done value
  | .error failure => .fail failure

end Program

end Transaction
