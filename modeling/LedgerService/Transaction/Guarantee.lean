import LedgerService.Transaction.Tracking

set_option autoImplicit false

/-!
# What a session knows on its way

A program relies on how the store evolves under its locks, and guarantees something of each
statement it sends and that it fails for a reason.  Serializability speaks of sessions that commit;
this speaks of all others, too.
-/

namespace Transaction

variable {I : Interface} {Context Store Reference Write Lock Operator α β : Type}

section Ensures

variable (E : Engine I Context Store Reference Write Lock Operator)
  (holds : Reference → Store → Prop) (evolves : List Lock → Store → Store → Prop)
  (context : Context) (sends : I.Statement → List Lock → List Write → Reference → Store → Prop)
  (failed : I.Failure → List Lock → Store → Prop)

/-- The store is the committed one at the last answer; `holds` is an invariant of committed stores. -/
def Program.Ensures : Program I α → List Lock → List Write → Store →
    (α → List Lock → List Write → Store → Prop) → Prop
  | .done value, locks, writes, store, post => post value locks writes store
  | .fail failure, locks, _, store, _ => failed failure locks store
  | .signal _ rest, locks, writes, store, post => rest.Ensures locks writes store post
  | .query statement next, locks, writes, store, post =>
      ∀ reference later, holds reference later → evolves locks store later →
        E.Covered locks writes →
        sends statement locks writes reference later ∧
        (∀ error, E.fault error ∨
            E.exec context statement reference (E.view later writes) = .error error →
          (next (.error error)).Ensures locks writes later post) ∧
        ∀ answer more,
          E.exec context statement reference (E.view later writes) = .ok (answer, more) →
          (next (.ok answer)).Ensures (locks ++ E.locks context statement (E.view later writes))
            (writes ++ more) later post

variable {E holds evolves context sends failed} {locks : List Lock} {writes : List Write} {store : Store}

theorem Program.Ensures.mono {program : Program I α}
    {post weaker : α → List Lock → List Write → Store → Prop}
    (ensures : program.Ensures E holds evolves context sends failed locks writes store post)
    (implies : ∀ value locks writes store, post value locks writes store →
      weaker value locks writes store) :
    program.Ensures E holds evolves context sends failed locks writes store weaker := by
  induction program generalizing locks writes store with
  | done value => exact implies value locks writes store ensures
  | fail failure => exact ensures
  | signal sent rest ih => exact ih ensures
  | query statement next ih =>
    intro reference later sound grown covered
    obtain ⟨sent, errors, answers⟩ := ensures reference later sound grown covered
    exact ⟨sent, fun error reason => ih _ (errors error reason),
      fun answer more ran => ih _ (answers answer more ran)⟩

theorem ensures_iff_tracks {program : Program I α} (reference : Reference)
    {post : α → List Lock → List Write → Store → Prop} :
    program.Ensures E holds evolves context sends failed locks writes store post ↔
      program.Tracks E holds (fun _ _ => True) evolves context E.fault sends failed locks writes
        reference store fun value locks writes _ store => post value locks writes store := by
  -- Nothing is tracked of the reference tables, and every fault may come.
  induction program generalizing locks writes reference store with
  | done value => exact Iff.rfl
  | fail failure => exact Iff.rfl
  | signal sent rest ih => exact ih reference
  | query statement next ih =>
    constructor
    · intro ensures current later sound _ grown covered
      obtain ⟨sent, errors, answers⟩ := ensures current later sound grown covered
      exact ⟨sent, fun error reason => (ih _ current).mp (errors error reason),
        fun answer more ran => (ih _ current).mp (answers answer more ran)⟩
    · intro tracks current later sound grown covered
      obtain ⟨sent, errors, answers⟩ := tracks current later sound trivial grown covered
      exact ⟨sent, fun error reason => (ih _ current).mpr (errors error reason),
        fun answer more ran => (ih _ current).mpr (answers answer more ran)⟩

section Rules

variable {post : β → List Lock → List Write → Store → Prop}

theorem ensures_emit_bind {sent : I.Signal} {f : Unit → Program I β} :
    ((Program.emit sent).bind f).Ensures E holds evolves context sends failed locks writes store post ↔
      (f ()).Ensures E holds evolves context sends failed locks writes store post := Iff.rfl

theorem ensures_ensure_bind {condition : Prop} [Decidable condition] {failure : I.Failure}
    {f : Unit → Program I β} :
    ((Program.ensure condition failure).bind f).Ensures E holds evolves context sends failed locks writes
        store post ↔
      (¬ condition → failed failure locks store) ∧
      (condition → (f ()).Ensures E holds evolves context sends failed locks writes store post) := by
  by_cases here : condition <;> simp [Program.ensure, here, Program.Ensures]

theorem ensures_orFail_bind {failure : I.Failure} {value : Option α} {f : α → Program I β} :
    ((Program.orFail failure value).bind f).Ensures E holds evolves context sends failed locks writes
        store post ↔
      (value = none → failed failure locks store) ∧
      ∀ result, value = some result →
        (f result).Ensures E holds evolves context sends failed locks writes store post := by
  cases value <;> simp [Program.orFail, Program.Ensures]

theorem ensures_ofExcept_bind {value : Except I.Failure α} {f : α → Program I β} :
    ((Program.ofExcept value).bind f).Ensures E holds evolves context sends failed locks writes store
        post ↔
      (∀ failure, value = .error failure → failed failure locks store) ∧
      ∀ result, value = .ok result →
        (f result).Ensures E holds evolves context sends failed locks writes store post := by
  cases value <;> simp [Program.ofExcept, Program.Ensures]

end Rules

end Ensures

section Runs

variable {E : Engine I Context Store Reference Write Lock Operator} {handler : Context → Program I α}
  {allowed : Operator → Prop} {older : Reference → Reference → Prop}
  {holds : Reference → Store → Prop} {evolves : List Lock → Store → Store → Prop}

variable (E holds evolves) in
def Session.Ensured (session : Session I Context Write Lock α)
    (sends : I.Statement → List Lock → List Write → Reference → Store → Prop)
    (failed : I.Failure → List Lock → Store → Prop)
    (post : α → List Lock → List Write → Store → Prop) (store : Store) : Prop :=
  ∃ known, evolves session.locks known store ∧
    session.rest.Ensures E holds evolves session.context sends failed session.locks session.writes
      known post

theorem Session.ensured_iff_tracked {session : Session I Context Write Lock α}
    {sends : I.Statement → List Lock → List Write → Reference → Store → Prop}
    {failed : I.Failure → List Lock → Store → Prop}
    {post : α → List Lock → List Write → Store → Prop} {store : Store} (reference : Reference) :
    session.Ensured E holds evolves sends failed post store ↔
      session.Tracked E holds (fun _ _ => True) evolves E.fault sends failed
        (fun value locks writes _ store => post value locks writes store) reference store := by
  constructor
  · rintro ⟨known, since, rest⟩
    exact ⟨reference, known, trivial, since, (ensures_iff_tracks reference).mp rest⟩
  · rintro ⟨seen, known, _, since, rest⟩
    exact ⟨known, since, (ensures_iff_tracks seen).mpr rest⟩

theorem Session.Ensured.knows {session : Session I Context Write Lock α}
    {sends : I.Statement → List Lock → List Write → Reference → Store → Prop}
    {failed : I.Failure → List Lock → Store → Prop}
    {post : α → List Lock → List Write → Store → Prop} {store : Store} {reference : Reference}
    (ensured : session.Ensured E holds evolves sends failed post store)
    (sound : holds reference store) (covered : E.Covered session.locks session.writes)
    {knows : Prop}
    (sending : ∀ statement writes, sends statement session.locks writes reference store → knows)
    (failing : ∀ failure known, evolves session.locks known store →
      failed failure session.locks known → knows)
    (ending : ∀ value known, evolves session.locks known store →
      post value session.locks session.writes known → knows) : knows := by
  obtain ⟨known, since, rest⟩ := ensured
  induction program : session.rest generalizing session with
  | done value =>
    rw [program] at rest
    exact ending value known since rest
  | fail failure =>
    rw [program] at rest
    exact failing failure known since rest
  | signal sent next ih =>
    rw [program] at rest
    exact @ih { session with rest := next } covered sending failing ending since rest rfl
  | query statement next _ =>
    rw [program] at rest
    exact sending statement _ (rest reference store sound since covered).1

theorem Run.ensured (isolation : Isolation E handler allowed older evolves)
    {s t : System I Context Store Reference Write Lock Operator α}
    {labels : List (Label I Context Operator)} (run : Run E handler s labels t)
    (admitted : Admitted allowed labels) (consistent : Consistent E handler older evolves s)
    (sound : ∀ labels middle, Run E handler s labels middle → Admitted allowed labels →
      holds middle.reference middle.store)
    {id : Nat} (begun : id ∈ s.begun) {before : Session I Context Write Lock α}
    (live : s.sessions id = some before)
    {sends : I.Statement → List Lock → List Write → Reference → Store → Prop}
    {failed : I.Failure → List Lock → Store → Prop}
    {post : α → List Lock → List Write → Store → Prop}
    (ensured : before.Ensured E holds evolves sends failed post s.store)
    {session : Session I Context Write Lock α} (still : t.sessions id = some session) :
    session.context = before.context ∧
      session.Ensured E holds evolves sends failed post t.store := by
  have untracked : Tracking older (fun _ _ : Reference => True) :=
    ⟨fun _ => trivial, fun _ _ => trivial⟩
  obtain ⟨context, tracked⟩ := run.tracked isolation untracked admitted consistent
    (fun earlier later middle split first _ => sound earlier middle first fun operator member =>
      admitted operator (split ▸ List.mem_append_left later member))
    (fun _ _ fault => fault) begun live ((Session.ensured_iff_tracked s.reference).mp ensured) still
  exact ⟨context, (Session.ensured_iff_tracked t.reference).mpr tracked⟩

theorem Run.began {s t : System I Context Store Reference Write Lock Operator α}
    {labels : List (Label I Context Operator)} (run : Run E handler s labels t) (idle : s.Idle)
    {id : Nat} {session : Session I Context Write Lock α} (live : t.sessions id = some session) :
    ∃ before after earlier later, labels = earlier ++ .begin id session.context :: later ∧
      Run E handler s earlier before ∧
      Step E handler before (.begin id session.context) after ∧ Run E handler after later t := by
  induction run generalizing session with
  | refl =>
    rw [idle id] at live
    cases live
  | @step middle last labels label run next ih =>
    have extend : ∀ between : Session I Context Write Lock α, middle.sessions id = some between →
        session.context = between.context →
        ∃ before after earlier later, labels ++ [label] = earlier ++ .begin id session.context :: later ∧
          Run E handler s earlier before ∧
          Step E handler before (.begin id session.context) after ∧
          Run E handler after later last := by
      intro between present same
      obtain ⟨before, after, earlier, later, rfl, first, began, rest⟩ := ih present
      rw [same]
      exact ⟨before, after, earlier, later ++ [label], by simp, first, began, rest.step next⟩
    by_cases own : label.actor = some id
    · cases next with
      | begin _ context fresh =>
        cases own
        simp only [System.put_sessions, Function.update_self, Option.some.injEq] at live
        subst live
        exact ⟨middle, _, labels, [], rfl, run, .begin id context fresh, .refl _⟩
      | signal acting | query acting | refuse acting | fault acting =>
        cases own
        simp only [System.put_sessions, Function.update_self, Option.some.injEq] at live
        subst live
        exact extend _ acting rfl
      | commit =>
        cases own
        simp at live
      | rollback =>
        cases own
        simp at live
      | operate => cases own
    · exact extend session ((next.sessions_of_other own).symm.trans live) rfl

end Runs

end Transaction
