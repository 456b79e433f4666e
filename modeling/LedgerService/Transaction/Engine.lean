import Mathlib.Logic.Function.Basic
import LedgerService.Transaction.Program

set_option autoImplicit false

/-!
# Sessions that share a store

Every statement reads the latest committed store under the session's own writes, takes its locks
and keeps them until the session ends.  Nothing a session writes is in the store before its commit.
Reference tables are read by sessions and written by operators only.
-/

namespace Transaction

structure Engine (I : Interface) (Context Store Reference Write Lock Operator : Type) where
  exec : Context → (statement : I.Statement) → Reference → Store →
    Except I.Error (I.Result statement × List Write)
  apply : Store → Write → Store
  locks : Context → I.Statement → Store → List Lock
  writeLocks : Write → List Lock
  conflict : Lock → Lock → Prop
  -- The errors a statement may end with whatever the tables hold.
  fault : I.Error → Prop
  operate : Operator → Store × Reference → Store × Reference
  operatorLocks : Operator → List Lock
  admissible : Operator → Store × Reference → Prop

structure Session (I : Interface) (Context Write Lock α : Type) where
  context : Context
  rest : Program I α
  writes : List Write
  locks : List Lock

inductive Event (Context Write Operator α : Type) where
  | committed (context : Context) (value : α) (writes : List Write)
  | operated (operator : Operator)

structure System (I : Interface) (Context Store Reference Write Lock Operator α : Type) where
  store : Store
  reference : Reference
  sessions : Nat → Option (Session I Context Write Lock α)
  -- The identities handed out so far; none is used twice.
  begun : List Nat
  history : List (Event Context Write Operator α)

inductive Label (I : Interface) (Context Operator : Type) where
  | begin (id : Nat) (context : Context)
  | signal (id : Nat)
  | query (id : Nat)
  | refuse (id : Nat)
  | fault (id : Nat) (error : I.Error)
  | commit (id : Nat)
  | rollback (id : Nat)
  | operate (operator : Operator)

variable {I : Interface} {Context Store Reference Write Lock Operator α : Type}

def Label.actor : Label I Context Operator → Option Nat
  | .begin id _ | .signal id | .query id | .refuse id | .fault id _ | .commit id | .rollback id =>
      some id
  | .operate _ => none

namespace Engine

variable (E : Engine I Context Store Reference Write Lock Operator)

def view (store : Store) (writes : List Write) : Store := writes.foldl E.apply store

@[simp] theorem view_nil (store : Store) : E.view store [] = store := rfl

@[simp] theorem view_append (store : Store) (writes more : List Write) :
    E.view store (writes ++ more) = E.view (E.view store writes) more :=
  List.foldl_append

@[simp] theorem view_cons (store : Store) (write : Write) (more : List Write) :
    E.view store (write :: more) = E.view (E.apply store write) more := rfl

def Covered (locks : List Lock) (writes : List Write) : Prop :=
  ∀ write ∈ writes, ∀ lock ∈ E.writeLocks write, lock ∈ locks

def Compatible (held wanted : List Lock) : Prop :=
  ∀ lock ∈ held, ∀ other ∈ wanted, ¬ E.conflict lock other

end Engine

namespace System

def put (s : System I Context Store Reference Write Lock Operator α) (id : Nat)
    (session : Option (Session I Context Write Lock α)) :
    System I Context Store Reference Write Lock Operator α :=
  { s with sessions := Function.update s.sessions id session }

@[simp] theorem put_store (s : System I Context Store Reference Write Lock Operator α) (id : Nat)
    (session : Option (Session I Context Write Lock α)) : (s.put id session).store = s.store := rfl

@[simp] theorem put_reference (s : System I Context Store Reference Write Lock Operator α)
    (id : Nat) (session : Option (Session I Context Write Lock α)) :
    (s.put id session).reference = s.reference := rfl

@[simp] theorem put_history (s : System I Context Store Reference Write Lock Operator α) (id : Nat)
    (session : Option (Session I Context Write Lock α)) :
    (s.put id session).history = s.history := rfl

@[simp] theorem put_begun (s : System I Context Store Reference Write Lock Operator α) (id : Nat)
    (session : Option (Session I Context Write Lock α)) : (s.put id session).begun = s.begun := rfl

@[simp] theorem put_sessions (s : System I Context Store Reference Write Lock Operator α)
    (id : Nat) (session : Option (Session I Context Write Lock α)) :
    (s.put id session).sessions = Function.update s.sessions id session := rfl

def Idle (s : System I Context Store Reference Write Lock Operator α) : Prop :=
  ∀ id, s.sessions id = none

def Free (E : Engine I Context Store Reference Write Lock Operator)
    (s : System I Context Store Reference Write Lock Operator α) (actor : Option Nat)
    (wanted : List Lock) : Prop :=
  ∀ other session, some other ≠ actor → s.sessions other = some session →
    E.Compatible session.locks wanted

end System

variable (E : Engine I Context Store Reference Write Lock Operator)
  (handler : Context → Program I α)

inductive Step : System I Context Store Reference Write Lock Operator α →
    Label I Context Operator → System I Context Store Reference Write Lock Operator α → Prop
  | begin {s : System I Context Store Reference Write Lock Operator α} (id : Nat)
      (context : Context) (fresh : id ∉ s.begun) :
      Step s (.begin id context)
        { s.put id (some ⟨context, handler context, [], []⟩) with begun := id :: s.begun }
  | signal {s : System I Context Store Reference Write Lock Operator α} {id : Nat}
      {session : Session I Context Write Lock α} {signal : I.Signal} {rest : Program I α}
      (live : s.sessions id = some session) (next : session.rest = .signal signal rest) :
      Step s (.signal id) (s.put id (some { session with rest := rest }))
  | query {s : System I Context Store Reference Write Lock Operator α} {id : Nat}
      {session : Session I Context Write Lock α} {statement : I.Statement}
      {next : Except I.Error (I.Result statement) → Program I α}
      {result : I.Result statement} {writes : List Write}
      (live : s.sessions id = some session) (asked : session.rest = .query statement next)
      (free : s.Free E (some id)
        (E.locks session.context statement (E.view s.store session.writes)))
      (answer : E.exec session.context statement s.reference (E.view s.store session.writes) =
        .ok (result, writes)) :
      Step s (.query id) (s.put id (some
        { session with
          rest := next (.ok result)
          writes := session.writes ++ writes
          locks := session.locks ++
            E.locks session.context statement (E.view s.store session.writes) }))
  | refuse {s : System I Context Store Reference Write Lock Operator α} {id : Nat}
      {session : Session I Context Write Lock α} {statement : I.Statement}
      {next : Except I.Error (I.Result statement) → Program I α} {error : I.Error}
      (live : s.sessions id = some session) (asked : session.rest = .query statement next)
      (answer : E.exec session.context statement s.reference (E.view s.store session.writes) =
        .error error) :
      Step s (.refuse id) (s.put id (some { session with rest := next (.error error) }))
  | fault {s : System I Context Store Reference Write Lock Operator α} {id : Nat}
      {session : Session I Context Write Lock α} {statement : I.Statement}
      {next : Except I.Error (I.Result statement) → Program I α} {error : I.Error}
      (live : s.sessions id = some session) (asked : session.rest = .query statement next)
      (faulty : E.fault error) :
      Step s (.fault id error) (s.put id (some { session with rest := next (.error error) }))
  | commit {s : System I Context Store Reference Write Lock Operator α} {id : Nat}
      {session : Session I Context Write Lock α} {value : α}
      (live : s.sessions id = some session) (finished : session.rest = .done value) :
      Step s (.commit id)
        { s.put id none with
          store := E.view s.store session.writes
          history := s.history ++ [.committed session.context value session.writes] }
  | rollback {s : System I Context Store Reference Write Lock Operator α} {id : Nat}
      {session : Session I Context Write Lock α} (live : s.sessions id = some session) :
      -- A failed handler, a dropped request and a failed commit all end here.
      Step s (.rollback id) (s.put id none)
  | operate {s : System I Context Store Reference Write Lock Operator α} (operator : Operator)
      (admissible : E.admissible operator (s.store, s.reference))
      (free : s.Free E none (E.operatorLocks operator)) :
      Step s (.operate operator)
        { s with
          store := (E.operate operator (s.store, s.reference)).1
          reference := (E.operate operator (s.store, s.reference)).2
          history := s.history ++ [.operated operator] }

inductive Run : System I Context Store Reference Write Lock Operator α →
    List (Label I Context Operator) → System I Context Store Reference Write Lock Operator α → Prop
  | refl (s : System I Context Store Reference Write Lock Operator α) : Run s [] s
  | step {s middle last : System I Context Store Reference Write Lock Operator α}
      {labels : List (Label I Context Operator)} {label : Label I Context Operator}
      (run : Run s labels middle) (next : Step E handler middle label last) :
      Run s (labels ++ [label]) last

variable {E handler}

theorem Run.trans {s middle last : System I Context Store Reference Write Lock Operator α}
    {labels more : List (Label I Context Operator)} (first : Run E handler s labels middle)
    (second : Run E handler middle more last) : Run E handler s (labels ++ more) last := by
  induction second with
  | refl => simpa using first
  | step _ next ih => simpa [List.append_assoc] using Run.step ih next

theorem Step.sessions_of_other {s t : System I Context Store Reference Write Lock Operator α}
    {label : Label I Context Operator} (step : Step E handler s label t) {id : Nat}
    (other : label.actor ≠ some id) : t.sessions id = s.sessions id := by
  have away : ∀ actor, label.actor = some actor → id ≠ actor := by
    rintro actor same rfl
    exact other same
  cases step with
  | operate => rfl
  | _ => exact Function.update_of_ne (away _ rfl) _ _

theorem Step.begun_subset {s t : System I Context Store Reference Write Lock Operator α}
    {label : Label I Context Operator} (step : Step E handler s label t) : s.begun ⊆ t.begun := by
  cases step with
  | begin => exact List.subset_cons_self _ _
  | _ => exact List.Subset.refl _

theorem Run.begun_subset {s t : System I Context Store Reference Write Lock Operator α}
    {labels : List (Label I Context Operator)} (run : Run E handler s labels t) :
    s.begun ⊆ t.begun := by
  induction run with
  | refl => exact List.Subset.refl _
  | step _ next ih => exact List.Subset.trans ih next.begun_subset

theorem Step.live_before {s t : System I Context Store Reference Write Lock Operator α}
    {label : Label I Context Operator} (step : Step E handler s label t) {id : Nat}
    (begun : id ∈ s.begun) {session : Session I Context Write Lock α}
    (live : t.sessions id = some session) : ∃ before, s.sessions id = some before := by
  by_cases own : label.actor = some id
  · cases step with
    | begin _ _ fresh =>
      cases own
      exact absurd begun fresh
    | commit =>
      cases own
      simp at live
    | rollback =>
      cases own
      simp at live
    | operate => cases own
    | signal acting | query acting | refuse acting | fault acting =>
      cases own
      exact ⟨_, acting⟩
  · exact ⟨session, (step.sessions_of_other own).symm.trans live⟩

theorem Run.induction {s last : System I Context Store Reference Write Lock Operator α}
    {labels : List (Label I Context Operator)} (run : Run E handler s labels last)
    (holds : System I Context Store Reference Write Lock Operator α → Prop) (first : holds s)
    (preserved : ∀ middle next label, label ∈ labels → holds middle →
      Step E handler middle label next → holds next) : holds last := by
  induction run with
  | refl => exact first
  | @step middle last labels label run next ih =>
    have before := ih (fun middle next label member =>
      preserved middle next label (List.mem_append_left _ member))
    exact preserved _ _ label (by simp) before next

end Transaction
