import Mathlib.Tactic.SplitIfs
import LedgerService.Transaction.Discipline

set_option autoImplicit false

/-!
# Commit order is a serial order

The invariant of a live session: whatever the rest of its program commits from the present store,
or from any store this one evolves to, the whole handler commits there when it runs alone.
-/

namespace Transaction

variable {I : Interface} {Context Store Reference Write Lock Operator α : Type}
  {E : Engine I Context Store Reference Write Lock Operator} {handler : Context → Program I α}
  {allowed : Operator → Prop} {older : Reference → Reference → Prop}
  {evolves : List Lock → Store → Store → Prop}

theorem Engine.Covered.append {locks more : List Lock} {writes added : List Write}
    (covered : E.Covered locks writes) (extra : E.Covered more added) :
    E.Covered (locks ++ more) (writes ++ added) := by
  intro write member lock needed
  rcases List.mem_append.mp member with old | new
  · exact List.mem_append_left _ (covered write old lock needed)
  · exact List.mem_append_right _ (extra write new lock needed)

theorem Engine.Compatible.append {held wanted more : List Lock}
    (compatible : E.Compatible held wanted) (extra : E.Compatible held more) :
    E.Compatible held (wanted ++ more) := by
  intro lock member other wanted
  rcases List.mem_append.mp wanted with old | new
  · exact compatible lock member other old
  · exact extra lock member other new

variable (E handler older evolves) in
def Session.Replays (session : Session I Context Write Lock α) (store : Store)
    (reference : Reference) : Prop :=
  ∃ replayable : Prop,
    session.rest.Disciplined E older evolves session.context replayable session.locks
      session.writes (fun _ replayable _ _ => replayable) ∧
    (replayable → ∀ reference' store' result final, older reference reference' →
      evolves session.locks store store' →
      session.rest.Commits E older session.context reference' store' session.writes result final →
      (handler session.context).Commits E older session.context reference' store' [] result final)

variable (E handler older evolves) in
structure Consistent (s : System I Context Store Reference Write Lock Operator α) : Prop where
  replays : ∀ id session, s.sessions id = some session →
    session.Replays E handler older evolves s.store s.reference
  covered : ∀ id session, s.sessions id = some session →
    E.Covered session.locks session.writes
  compatible : ∀ first second one other, first ≠ second → s.sessions first = some one →
    s.sessions second = some other → E.Compatible one.locks other.locks

theorem Session.Replays.evolve (isolation : Isolation E handler allowed older evolves)
    {session : Session I Context Write Lock α} {store store' : Store}
    {reference reference' : Reference}
    (replays : session.Replays E handler older evolves store reference)
    (grown : evolves session.locks store store') (old : older reference reference') :
    session.Replays E handler older evolves store' reference' := by
  obtain ⟨replayable, disciplined, whole⟩ := replays
  refine ⟨replayable, disciplined, fun sure later store'' result final later_old later_grown => ?_⟩
  exact whole sure later store'' result final (isolation.older_trans old later_old)
    (isolation.evolves_trans grown later_grown)

theorem Session.Replays.query (isolation : Isolation E handler allowed older evolves)
    {session : Session I Context Write Lock α} {store : Store} {reference : Reference}
    {statement : I.Statement} {next : Except I.Error (I.Result statement) → Program I α}
    {answer : I.Result statement} {writes : List Write}
    (replays : session.Replays E handler older evolves store reference)
    (covered : E.Covered session.locks session.writes)
    (asked : session.rest = .query statement next)
    (answered : E.exec session.context statement reference (E.view store session.writes) =
      .ok (answer, writes)) :
    Session.Replays E handler older evolves
      { session with
        rest := next (.ok answer)
        writes := session.writes ++ writes
        locks := session.locks ++
          E.locks session.context statement (E.view store session.writes) } store reference := by
  obtain ⟨replayable, disciplined, whole⟩ := replays
  rw [asked] at disciplined whole
  refine ⟨_, disciplined.2 reference store answer writes covered answered, ?_⟩
  intro sure reference' store' result final old grown commits
  apply whole sure.1 reference' store' result final old
    (isolation.evolves_fewer (List.subset_append_left _ _) grown)
  exact sure.2 reference' store' result final old grown commits

theorem Session.Replays.error {session : Session I Context Write Lock α} {store : Store}
    {reference : Reference} {statement : I.Statement}
    {next : Except I.Error (I.Result statement) → Program I α}
    (replays : session.Replays E handler older evolves store reference)
    (asked : session.rest = .query statement next) (error : I.Error) :
    Session.Replays E handler older evolves { session with rest := next (.error error) } store
      reference := by
  obtain ⟨replayable, disciplined, whole⟩ := replays
  rw [asked] at disciplined
  exact ⟨False, disciplined.1 error, fun impossible => impossible.elim⟩

theorem Consistent.commits (isolation : Isolation E handler allowed older evolves)
    {s : System I Context Store Reference Write Lock Operator α}
    (consistent : Consistent E handler older evolves s) {id : Nat}
    {session : Session I Context Write Lock α} {value : α}
    (live : s.sessions id = some session) (finished : session.rest = .done value) :
    (handler session.context).Commits E older session.context s.reference s.store [] value
      session.writes := by
  obtain ⟨replayable, disciplined, whole⟩ := consistent.replays id session live
  rw [finished] at disciplined whole
  exact whole disciplined s.reference s.store value session.writes (isolation.older_refl _)
    (isolation.evolves_refl _ _) ⟨rfl, rfl⟩

section Put

variable {s : System I Context Store Reference Write Lock Operator α}

theorem Consistent.put (isolation : Isolation E handler allowed older evolves)
    (consistent : Consistent E handler older evolves s) {id : Nat}
    {session : Session I Context Write Lock α}
    (replays : session.Replays E handler older evolves s.store s.reference)
    (covered : E.Covered session.locks session.writes)
    (compatible : ∀ other one, other ≠ id → s.sessions other = some one →
      E.Compatible one.locks session.locks) :
    Consistent E handler older evolves (s.put id (some session)) := by
  constructor
  · intro other one live
    by_cases same : other = id
    · subst same
      simp only [System.put_sessions, Function.update_self, Option.some.injEq] at live
      exact live ▸ replays
    · simp only [System.put_sessions, Function.update_of_ne same] at live
      exact consistent.replays other one live
  · intro other one live
    by_cases same : other = id
    · subst same
      simp only [System.put_sessions, Function.update_self, Option.some.injEq] at live
      exact live ▸ covered
    · simp only [System.put_sessions, Function.update_of_ne same] at live
      exact consistent.covered other one live
  · intro first second one other different firstLive secondLive
    simp only [System.put_sessions, Function.update_apply] at firstLive secondLive
    split_ifs at firstLive secondLive with isFirst isSecond
    · exact absurd (isFirst.trans isSecond.symm) different
    · cases firstLive
      intro lock held wanted needed clash
      exact compatible second other isSecond secondLive wanted needed lock held
        (isolation.conflict_symm clash)
    · cases secondLive
      exact compatible first one isFirst firstLive
    · exact consistent.compatible first second one other different firstLive secondLive

theorem Consistent.forget (consistent : Consistent E handler older evolves s) (id : Nat) :
    Consistent E handler older evolves (s.put id none) := by
  have kept : ∀ other one, (s.put id none).sessions other = some one →
      s.sessions other = some one := by
    intro other one live
    simp only [System.put_sessions, Function.update_apply] at live
    split_ifs at live
    exact live
  exact ⟨fun other one live => consistent.replays other one (kept other one live),
    fun other one live => consistent.covered other one (kept other one live),
    fun first second one other different firstLive secondLive =>
      consistent.compatible first second one other different (kept first one firstLive)
        (kept second other secondLive)⟩

end Put

theorem Consistent.step_evolves (isolation : Isolation E handler allowed older evolves)
    {s t : System I Context Store Reference Write Lock Operator α} {label : Label I Context Operator}
    (consistent : Consistent E handler older evolves s) (step : Step E handler s label t)
    (admitted : ∀ operator, label = .operate operator → allowed operator) {other : Nat}
    {one : Session I Context Write Lock α} (bystander : label.actor ≠ some other)
    (live : s.sessions other = some one) :
    evolves one.locks s.store t.store ∧ older s.reference t.reference := by
  cases step with
  | commit committing finished =>
    rename_i id session value
    have different : other ≠ id := by
      rintro rfl
      exact bystander rfl
    exact ⟨isolation.commit_evolves
      (consistent.compatible other id one session different live committing)
      (consistent.covered id session committing)
      (consistent.commits isolation committing finished), isolation.older_refl _⟩
  | operate operator admissible free =>
    exact isolation.operate_evolves (admitted operator rfl) admissible
      (free other one (by simp) live)
  | _ => exact ⟨isolation.evolves_refl _ _, isolation.older_refl _⟩

theorem Consistent.step (isolation : Isolation E handler allowed older evolves)
    {s t : System I Context Store Reference Write Lock Operator α} {label : Label I Context Operator}
    (consistent : Consistent E handler older evolves s) (step : Step E handler s label t)
    (admitted : ∀ operator, label = .operate operator → allowed operator) :
    Consistent E handler older evolves t := by
  have evolved := fun other one => @Consistent.step_evolves _ _ _ _ _ _ _ _ _ _ _ _ _ isolation _
    _ _ consistent step admitted other one
  cases step with
  | begin id context fresh =>
    have begun := @Consistent.put _ _ _ _ _ _ _ _ _ _ _ _ _ _ isolation consistent id
      ⟨context, handler context, [], []⟩
      ⟨True, isolation.disciplined context, fun _ _ _ _ _ _ _ commits => commits⟩
      (by simp [Engine.Covered]) (by simp [Engine.Compatible])
    exact ⟨begun.replays, begun.covered, begun.compatible⟩
  | signal live next =>
    rename_i id session sent rest
    apply Consistent.put isolation consistent
    · obtain ⟨replayable, disciplined, whole⟩ := consistent.replays id session live
      rw [next] at disciplined whole
      exact ⟨replayable, disciplined, whole⟩
    · exact consistent.covered id session live
    · intro other one different otherLive
      exact consistent.compatible other id one session different otherLive live
  | query live asked free answer =>
    rename_i id session statement next result writes
    have covered := consistent.covered id session live
    apply Consistent.put isolation consistent
    · exact (consistent.replays id session live).query isolation covered asked answer
    · exact covered.append (isolation.covers answer)
    · intro other one different otherLive
      exact (consistent.compatible other id one session different otherLive live).append
        (free other one (by simpa using different) otherLive)
  | refuse live asked answer =>
    rename_i id session statement next error
    apply Consistent.put isolation consistent ((consistent.replays id session live).error asked error)
      (consistent.covered id session live)
    intro other one different otherLive
    exact consistent.compatible other id one session different otherLive live
  | fault live asked faulty =>
    rename_i id session statement next error
    apply Consistent.put isolation consistent ((consistent.replays id session live).error asked error)
      (consistent.covered id session live)
    intro other one different otherLive
    exact consistent.compatible other id one session different otherLive live
  | commit live finished =>
    rename_i id session value
    have rest := consistent.forget id
    refine ⟨fun other one otherLive => ?_, rest.covered, rest.compatible⟩
    have different : other ≠ id := by
      rintro rfl
      simp at otherLive
    have before : s.sessions other = some one := by
      simpa [Function.update_of_ne different] using otherLive
    have change := evolved other one (by simpa [Label.actor] using different.symm) before
    exact (consistent.replays other one before).evolve isolation change.1 change.2
  | rollback live => exact consistent.forget _
  | operate operator admissible free =>
    refine ⟨fun other one otherLive => ?_, consistent.covered, consistent.compatible⟩
    have change := evolved other one (by simp [Label.actor]) otherLive
    exact (consistent.replays other one otherLive).evolve isolation change.1 change.2

theorem System.Idle.consistent {s : System I Context Store Reference Write Lock Operator α}
    (idle : s.Idle) : Consistent E handler older evolves s := by
  constructor <;> intros <;> simp_all [System.Idle]

def Admitted (allowed : Operator → Prop) (labels : List (Label I Context Operator)) : Prop :=
  ∀ operator, Label.operate operator ∈ labels → allowed operator

theorem Run.consistent (isolation : Isolation E handler allowed older evolves)
    {s t : System I Context Store Reference Write Lock Operator α}
    {labels : List (Label I Context Operator)} (run : Run E handler s labels t)
    (admitted : Admitted allowed labels) (consistent : Consistent E handler older evolves s) :
    Consistent E handler older evolves t := by
  apply run.induction _ consistent
  intro middle next label member before step
  apply before.step isolation step
  rintro operator rfl
  exact admitted operator member

theorem Run.invariant (isolation : Isolation E handler allowed older evolves)
    (holds : Store → Reference → List (Event Context Write Operator α) → Prop)
    {s t : System I Context Store Reference Write Lock Operator α}
    {labels : List (Label I Context Operator)} (run : Run E handler s labels t)
    (admitted : Admitted allowed labels) (consistent : Consistent E handler older evolves s)
    (initially : holds s.store s.reference s.history)
    (committed : ∀ context reference store history value writes, holds store reference history →
      (handler context).Commits E older context reference store [] value writes →
      holds (E.view store writes) reference (history ++ [.committed context value writes]))
    (operated : ∀ operator reference store history, allowed operator →
      E.admissible operator (store, reference) → holds store reference history →
      holds (E.operate operator (store, reference)).1 (E.operate operator (store, reference)).2
        (history ++ [.operated operator])) :
    holds t.store t.reference t.history := by
  -- Consistency is carried along: by it a commit is a run alone.
  have both := run.induction
    (fun m => Consistent E handler older evolves m ∧ holds m.store m.reference m.history)
    ⟨consistent, initially⟩ ?_
  · exact both.2
  intro middle next label member before step
  have admittedStep : ∀ operator, label = .operate operator → allowed operator := by
    rintro operator rfl
    exact admitted operator member
  refine ⟨before.1.step isolation step admittedStep, ?_⟩
  cases step with
  | commit live finished =>
    exact committed _ _ _ _ _ _ before.2 (before.1.commits isolation live finished)
  | operate operator admissible free =>
    exact operated operator _ _ _ (admittedStep operator rfl) admissible before.2
  | _ => exact before.2

section Serially

variable (E handler)

def serially : Store × Reference → List (Event Context Write Operator α) →
    Option ((Store × Reference) × List α)
  | state, [] => some (state, [])
  | state, .operated operator :: rest => serially (E.operate operator state) rest
  | (store, reference), .committed context _ _ :: rest =>
      match (handler context).finish E context reference store [] with
      | .ok (value, writes) =>
          (serially (E.view store writes, reference) rest).map fun (last, values) =>
            (last, value :: values)
      | .error _ => none

variable {E handler}

theorem serially_append {state middle last : Store × Reference} {values more : List α}
    {history rest : List (Event Context Write Operator α)}
    (first : serially E handler state history = some (middle, values))
    (second : serially E handler middle rest = some (last, more)) :
    serially E handler state (history ++ rest) = some (last, values ++ more) := by
  induction history generalizing state values with
  | nil =>
    simp only [serially, Option.some.injEq, Prod.mk.injEq] at first
    obtain ⟨rfl, rfl⟩ := first
    exact second
  | cons event history ih =>
    cases event with
    | operated operator => exact ih first
    | committed context value writes =>
      obtain ⟨store, reference⟩ := state
      simp only [List.cons_append, serially] at first ⊢
      split at first
      · rename_i result written ran
        obtain ⟨⟨reached, answers⟩, ran, same⟩ := Option.map_eq_some_iff.mp first
        obtain ⟨rfl, rfl⟩ := Prod.mk.inj same
        simp only [ih ran, Option.map_some, List.cons_append]
      · cases first

end Serially

def Event.answer? : Event Context Write Operator α → Option α
  | .committed _ value _ => some value
  | .operated _ => none

theorem Run.serializable (isolation : Isolation E handler allowed Eq evolves)
    {s t : System I Context Store Reference Write Lock Operator α}
    {labels : List (Label I Context Operator)} (run : Run E handler s labels t)
    (admitted : Admitted allowed labels) (idle : s.Idle) (unused : s.history = []) :
    serially E handler (s.store, s.reference) t.history =
      some ((t.store, t.reference), t.history.filterMap Event.answer?) := by
  apply run.invariant isolation (fun store reference history =>
    serially E handler (s.store, s.reference) history =
      some ((store, reference), history.filterMap Event.answer?)) admitted idle.consistent
  · simp [unused, serially]
  · intro context reference store history value writes before commits
    simp only [List.filterMap_append]
    apply serially_append before
    simp [serially, Program.finish_of_commits commits, Event.answer?]
  · intro operator reference store history _ _ before
    simp only [List.filterMap_append]
    apply serially_append before
    simp [serially, Event.answer?]

end Transaction
