import Mathlib.Data.List.Forall2
import LedgerService.Transaction.Guarantee

set_option autoImplicit false

namespace Transaction

variable {I : Interface} {Context Store Reference Write Lock Operator α : Type}

inductive Move (Context : Type) where
  | begin (id : Nat) (context : Context)
  -- One statement or signal more.
  | advance (id : Nat)
  -- Commit what is done, roll back what has failed.
  | finish (id : Nat)

def Move.context? : Move Context → Option Context
  | .begin _ context => some context
  | .advance _ | .finish _ => none

section Perform

variable (E : Engine I Context Store Reference Write Lock Operator) (handler : Context → Program I α)
  [DecidableRel E.conflict]

-- `Free`, for the sessions that may be live.
def System.free (s : System I Context Store Reference Write Lock Operator α) (id : Nat)
    (wanted : List Lock) : Bool :=
  s.begun.all fun other => other = id ||
    (s.sessions other).all fun session =>
      session.locks.all fun held => wanted.all fun lock => !decide (E.conflict held lock)

def System.advance (s : System I Context Store Reference Write Lock Operator α) (id : Nat)
    (session : Session I Context Write Lock α) :
    Option (System I Context Store Reference Write Lock Operator α) :=
  match session.rest with
  | .signal _ rest => some (s.put id (some { session with rest := rest }))
  | .query statement next =>
      let view := E.view s.store session.writes
      match E.exec session.context statement s.reference view with
      | .ok (result, writes) =>
          if s.free E id (E.locks session.context statement view) then
            some (s.put id (some
              { session with
                rest := next (.ok result)
                writes := session.writes ++ writes
                locks := session.locks ++ E.locks session.context statement view }))
          else none
      | .error error => some (s.put id (some { session with rest := next (.error error) }))
  | .done _ | .fail _ => none

def System.finished (s : System I Context Store Reference Write Lock Operator α) (id : Nat)
    (session : Session I Context Write Lock α) :
    Option (System I Context Store Reference Write Lock Operator α) :=
  match session.rest with
  | .done value =>
      some { s.put id none with
        store := E.view s.store session.writes
        history := s.history ++ [.committed session.context value session.writes] }
  | .fail _ => some (s.put id none)
  | .signal _ _ | .query _ _ => none

def System.perform (s : System I Context Store Reference Write Lock Operator α) :
    Move Context → Option (System I Context Store Reference Write Lock Operator α)
  | .begin id context =>
      if id ∈ s.begun then none
      else some { s.put id (some ⟨context, handler context, [], []⟩) with begun := id :: s.begun }
  | .advance id => (s.sessions id).bind (s.advance E id)
  | .finish id => (s.sessions id).bind (s.finished E id)

def System.performAll (s : System I Context Store Reference Write Lock Operator α) :
    List (Move Context) → Option (System I Context Store Reference Write Lock Operator α)
  | [] => some s
  | move :: moves => (s.perform E handler move).bind fun next => next.performAll moves

end Perform

section Sound

variable {E : Engine I Context Store Reference Write Lock Operator} {handler : Context → Program I α}
  [DecidableRel E.conflict] {s t : System I Context Store Reference Write Lock Operator α}

def System.Known (s : System I Context Store Reference Write Lock Operator α) : Prop :=
  ∀ id session, s.sessions id = some session → id ∈ s.begun

theorem System.free_sound (known : s.Known) {id : Nat} {wanted : List Lock}
    (free : s.free E id wanted = true) : s.Free E (some id) wanted := by
  intro other session different live held member lock needed
  simp only [System.free, List.all_eq_true, Bool.or_eq_true, decide_eq_true_eq] at free
  rcases free other (known other session live) with same | compatible
  · exact absurd (congrArg some same) different
  · rw [live] at compatible
    simpa using List.all_eq_true.mp (List.all_eq_true.mp compatible held member) lock needed

omit [DecidableRel E.conflict] in
theorem System.Known.step {label : Label I Context Operator} (known : s.Known)
    (step : Step E handler s label t) : t.Known := by
  intro id session live
  by_cases own : label.actor = some id
  · cases step with
    | begin =>
      cases own
      exact List.mem_cons_self
    | signal acting | query acting | refuse acting | fault acting | commit acting | rollback acting =>
      cases own
      exact known id _ acting
    | operate => cases own
  · exact step.begun_subset (known id session ((step.sessions_of_other own).symm.trans live))

def Move.Stands : Move Context → Label I Context Operator → Prop
  | .begin id context, label => label = .begin id context
  | .advance id, label => label = .signal id ∨ label = .query id ∨ label = .refuse id
  | .finish id, label => label = .commit id ∨ label = .rollback id

theorem System.perform_stands (known : s.Known) {move : Move Context}
    (performed : s.perform E handler move = some t) :
    ∃ label, move.Stands label ∧ Step E handler s label t := by
  cases move with
  | begin id context =>
    simp only [System.perform, Option.ite_none_left_eq_some, Option.some.injEq] at performed
    obtain ⟨fresh, rfl⟩ := performed
    exact ⟨.begin id context, rfl, .begin id context fresh⟩
  | advance id =>
    obtain ⟨session, live, performed⟩ := Option.bind_eq_some_iff.mp performed
    unfold System.advance at performed
    split at performed
    · cases performed
      exact ⟨.signal id, .inl rfl, .signal live ‹_›⟩
    · rename_i statement next asked
      dsimp only at performed
      split at performed
      · rename_i result writes answer
        split at performed
        · rename_i free
          cases performed
          exact ⟨.query id, .inr (.inl rfl),
            .query live asked (System.free_sound known free) answer⟩
        · cases performed
      · rename_i error answer
        cases performed
        exact ⟨.refuse id, .inr (.inr rfl), .refuse live asked answer⟩
    · cases performed
    · cases performed
  | finish id =>
    obtain ⟨session, live, performed⟩ := Option.bind_eq_some_iff.mp performed
    unfold System.finished at performed
    split at performed
    · cases performed
      exact ⟨.commit id, .inl rfl, .commit live ‹_›⟩
    · cases performed
      exact ⟨.rollback id, .inr rfl, .rollback live⟩
    · cases performed
    · cases performed

omit [DecidableRel E.conflict] in
theorem System.Known.run {labels : List (Label I Context Operator)} (known : s.Known)
    (run : Run E handler s labels t) : t.Known := by
  induction run with
  | refl => exact known
  | step _ next ih => exact ih.step next

theorem System.performAll_append (moves more : List (Move Context)) :
    s.performAll E handler (moves ++ more) =
      (s.performAll E handler moves).bind fun next => next.performAll E handler more := by
  induction moves generalizing s with
  | nil => rfl
  | cons move moves ih => simp [System.performAll, Option.bind_assoc, ih]

theorem System.performAll_stands {moves : List (Move Context)} (known : s.Known)
    (performed : s.performAll E handler moves = some t) :
    ∃ labels : List (Label I Context Operator),
      List.Forall₂ Move.Stands moves labels ∧ Run E handler s labels t := by
  induction moves generalizing s with
  | nil =>
    cases performed
    exact ⟨[], .nil, .refl t⟩
  | cons move moves ih =>
    obtain ⟨next, first, rest⟩ := Option.bind_eq_some_iff.mp performed
    obtain ⟨label, stands, step⟩ := System.perform_stands known first
    obtain ⟨labels, others, run⟩ := ih (known.step step) rest
    exact ⟨label :: labels, .cons stands others, (Run.step (.refl s) step).trans run⟩

omit [DecidableRel E.conflict] in
theorem Move.Stands.of_mem {moves : List (Move Context)} {labels : List (Label I Context Operator)}
    (stands : List.Forall₂ Move.Stands moves labels) {label : Label I Context Operator}
    (member : label ∈ labels) : ∃ move ∈ moves, move.Stands label := by
  induction stands with
  | nil => cases member
  | @cons move first moves labels here _ ih =>
    rcases List.mem_cons.mp member with rfl | later
    · exact ⟨move, List.mem_cons_self, here⟩
    · obtain ⟨other, among, stands⟩ := ih later
      exact ⟨other, List.mem_cons_of_mem _ among, stands⟩

omit [DecidableRel E.conflict] in
theorem Move.Stands.mem_contexts {moves : List (Move Context)}
    {labels : List (Label I Context Operator)} (stands : List.Forall₂ Move.Stands moves labels)
    {id : Nat} {context : Context} (began : .begin id context ∈ labels) :
    context ∈ moves.filterMap Move.context? := by
  obtain ⟨move, among, here⟩ := Move.Stands.of_mem stands began
  cases move with
  | begin id context =>
    cases here
    exact List.mem_filterMap.mpr ⟨_, among, rfl⟩
  | advance id => simp [Move.Stands] at here
  | finish id => simp [Move.Stands] at here

theorem System.performAll_sound {moves : List (Move Context)} (known : s.Known)
    (performed : s.performAll E handler moves = some t) :
    ∃ labels : List (Label I Context Operator),
      (∀ operator, Label.operate operator ∉ labels) ∧ Run E handler s labels t := by
  obtain ⟨labels, stands, run⟩ := System.performAll_stands known performed
  refine ⟨labels, ?_, run⟩
  intro operator member
  obtain ⟨move, _, here⟩ := Move.Stands.of_mem stands member
  cases move <;> simp [Move.Stands] at here

end Sound

theorem System.Idle.known {s : System I Context Store Reference Write Lock Operator α}
    (idle : s.Idle) : s.Known := by
  intro id session live
  rw [idle id] at live
  cases live

end Transaction
