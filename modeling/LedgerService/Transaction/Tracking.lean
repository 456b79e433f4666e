import LedgerService.Transaction.Serializable

set_option autoImplicit false

/-!
# What a session knows of the store and of the reference tables

A program goes from answer to answer; between two of them the store evolves under its locks and the
reference tables as `tracks` allows.  What it needs of the states in between, `holds`, is only asked
of the states that its run passes through.
-/

namespace Transaction

variable {I : Interface} {Context Store Reference Write Lock Operator α β : Type}

section Tracks

variable (E : Engine I Context Store Reference Write Lock Operator)
  (holds : Reference → Store → Prop) (tracks : Reference → Reference → Prop)
  (evolves : List Lock → Store → Store → Prop) (context : Context) (fault : I.Error → Prop)
  (sends : I.Statement → List Lock → List Write → Reference → Store → Prop)
  (failed : I.Failure → List Lock → Store → Prop)

/-- Reference and store are the committed ones at the last answer; `fault` are the errors from
outside. -/
def Program.Tracks : Program I α → List Lock → List Write → Reference → Store →
    (α → List Lock → List Write → Reference → Store → Prop) → Prop
  | .done value, locks, writes, reference, store, post => post value locks writes reference store
  | .fail failure, locks, _, _, store, _ => failed failure locks store
  | .signal _ rest, locks, writes, reference, store, post =>
      rest.Tracks locks writes reference store post
  | .query statement next, locks, writes, reference, store, post =>
      ∀ current later, holds current later → tracks reference current → evolves locks store later →
        E.Covered locks writes →
        sends statement locks writes current later ∧
        (∀ error, fault error ∨
            E.exec context statement current (E.view later writes) = .error error →
          (next (.error error)).Tracks locks writes current later post) ∧
        ∀ answer more,
          E.exec context statement current (E.view later writes) = .ok (answer, more) →
          (next (.ok answer)).Tracks (locks ++ E.locks context statement (E.view later writes))
            (writes ++ more) current later post

variable {E holds tracks evolves context fault sends failed} {locks : List Lock}
  {writes : List Write} {reference : Reference} {store : Store}

section Rules

variable {post : β → List Lock → List Write → Reference → Store → Prop}

theorem tracks_emit_bind {sent : I.Signal} {f : Unit → Program I β} :
    ((Program.emit sent).bind f).Tracks E holds tracks evolves context fault sends failed locks writes
        reference store post ↔
      (f ()).Tracks E holds tracks evolves context fault sends failed locks writes reference store
        post := Iff.rfl

theorem tracks_ensure_bind {condition : Prop} [Decidable condition] {failure : I.Failure}
    {f : Unit → Program I β} :
    ((Program.ensure condition failure).bind f).Tracks E holds tracks evolves context fault sends
        failed locks writes reference store post ↔
      (¬ condition → failed failure locks store) ∧
      (condition → (f ()).Tracks E holds tracks evolves context fault sends failed locks writes
        reference store post) := by
  by_cases here : condition <;> simp [Program.ensure, here, Program.Tracks]

theorem tracks_orFail_bind {failure : I.Failure} {value : Option α} {f : α → Program I β} :
    ((Program.orFail failure value).bind f).Tracks E holds tracks evolves context fault sends failed
        locks writes reference store post ↔
      (value = none → failed failure locks store) ∧
      ∀ result, value = some result →
        (f result).Tracks E holds tracks evolves context fault sends failed locks writes reference
          store post := by
  cases value <;> simp [Program.orFail, Program.Tracks]

theorem tracks_ofExcept_bind {value : Except I.Failure α} {f : α → Program I β} :
    ((Program.ofExcept value).bind f).Tracks E holds tracks evolves context fault sends failed locks
        writes reference store post ↔
      (∀ failure, value = .error failure → failed failure locks store) ∧
      ∀ result, value = .ok result →
        (f result).Tracks E holds tracks evolves context fault sends failed locks writes reference
          store post := by
  cases value <;> simp [Program.ofExcept, Program.Tracks]

end Rules

end Tracks

section Runs

variable {E : Engine I Context Store Reference Write Lock Operator} {handler : Context → Program I α}
  {allowed : Operator → Prop} {older : Reference → Reference → Prop}
  {holds : Reference → Store → Prop} {tracks : Reference → Reference → Prop}
  {evolves : List Lock → Store → Store → Prop} {fault : I.Error → Prop}
  {sends : I.Statement → List Lock → List Write → Reference → Store → Prop}
  {failed : I.Failure → List Lock → Store → Prop}
  {post : α → List Lock → List Write → Reference → Store → Prop}

variable (E holds tracks evolves fault) in
def Session.Tracked (session : Session I Context Write Lock α)
    (sends : I.Statement → List Lock → List Write → Reference → Store → Prop)
    (failed : I.Failure → List Lock → Store → Prop)
    (post : α → List Lock → List Write → Reference → Store → Prop) (reference : Reference)
    (store : Store) : Prop :=
  ∃ seen known, tracks seen reference ∧ evolves session.locks known store ∧
    session.rest.Tracks E holds tracks evolves session.context fault sends failed session.locks
      session.writes seen known post

structure Tracking (older tracks : Reference → Reference → Prop) : Prop where
  older : ∀ {first second}, older first second → tracks first second
  trans : ∀ {first second third}, tracks first second → tracks second third → tracks first third

theorem Session.Tracked.evolve (isolation : Isolation E handler allowed older evolves)
    (tracking : Tracking older tracks) {session : Session I Context Write Lock α}
    {reference reference' : Reference} {store store' : Store}
    (tracked : session.Tracked E holds tracks evolves fault sends failed post reference store)
    (grown : evolves session.locks store store') (old : older reference reference') :
    session.Tracked E holds tracks evolves fault sends failed post reference' store' := by
  obtain ⟨seen, known, before, since, rest⟩ := tracked
  exact ⟨seen, known, tracking.trans before (tracking.older old),
    isolation.evolves_trans since grown, rest⟩

theorem Session.Tracked.step (isolation : Isolation E handler allowed older evolves)
    (tracking : Tracking older tracks)
    {s t : System I Context Store Reference Write Lock Operator α} {label : Label I Context Operator}
    (consistent : Consistent E handler older evolves s) (sound : holds s.reference s.store)
    (step : Step E handler s label t)
    (admitted : ∀ operator, label = .operate operator → allowed operator) {id : Nat}
    (faulty : ∀ error, label = .fault id error → E.fault error → fault error)
    (begun : id ∈ s.begun) {before session : Session I Context Write Lock α}
    (live : s.sessions id = some before) (still : t.sessions id = some session)
    (tracked : before.Tracked E holds tracks evolves fault sends failed post s.reference s.store) :
    session.context = before.context ∧
      session.Tracked E holds tracks evolves fault sends failed post t.reference t.store := by
  have stays : tracks s.reference s.reference := tracking.older (isolation.older_refl _)
  by_cases own : label.actor = some id
  · have covered := consistent.covered id before live
    obtain ⟨seen, known, old, since, rest⟩ := tracked
    cases step with
    | begin _ _ fresh =>
      cases own
      exact absurd begun fresh
    | signal acting next =>
      cases own
      rw [live] at acting
      cases acting
      simp only [System.put_sessions, Function.update_self, Option.some.injEq] at still
      subst still
      rw [next] at rest
      exact ⟨rfl, seen, known, old, since, rest⟩
    | query acting asked _ answer =>
      cases own
      rw [live] at acting
      cases acting
      simp only [System.put_sessions, Function.update_self, Option.some.injEq] at still
      subst still
      rw [asked] at rest
      exact ⟨rfl, s.reference, s.store, stays, isolation.evolves_refl _ _,
        (rest s.reference s.store sound old since covered).2.2 _ _ answer⟩
    | refuse acting asked answer =>
      cases own
      rw [live] at acting
      cases acting
      simp only [System.put_sessions, Function.update_self, Option.some.injEq] at still
      subst still
      rw [asked] at rest
      exact ⟨rfl, s.reference, s.store, stays, isolation.evolves_refl _ _,
        (rest s.reference s.store sound old since covered).2.1 _ (.inr answer)⟩
    | fault acting asked outside =>
      cases own
      rw [live] at acting
      cases acting
      simp only [System.put_sessions, Function.update_self, Option.some.injEq] at still
      subst still
      rw [asked] at rest
      exact ⟨rfl, s.reference, s.store, stays, isolation.evolves_refl _ _,
        (rest s.reference s.store sound old since covered).2.1 _ (.inl (faulty _ rfl outside))⟩
    | commit =>
      cases own
      simp at still
    | rollback =>
      cases own
      simp at still
    | operate => cases own
  · have same : session = before := by
      have kept := step.sessions_of_other own
      rw [still, live] at kept
      exact Option.some.inj kept
    subst same
    obtain ⟨grown, old⟩ := consistent.step_evolves isolation step admitted own live
    exact ⟨rfl, tracked.evolve isolation tracking grown old⟩

theorem Run.tracked (isolation : Isolation E handler allowed older evolves)
    (tracking : Tracking older tracks)
    {s t : System I Context Store Reference Write Lock Operator α}
    {labels : List (Label I Context Operator)} (run : Run E handler s labels t)
    (admitted : Admitted allowed labels) (consistent : Consistent E handler older evolves s)
    (sound : ∀ earlier later middle, labels = earlier ++ later → Run E handler s earlier middle →
      Run E handler middle later t → holds middle.reference middle.store)
    {id : Nat} (faulty : ∀ error, .fault id error ∈ labels → E.fault error → fault error)
    (begun : id ∈ s.begun) {before : Session I Context Write Lock α}
    (live : s.sessions id = some before)
    (tracked : before.Tracked E holds tracks evolves fault sends failed post s.reference s.store)
    {session : Session I Context Write Lock α} (still : t.sessions id = some session) :
    session.context = before.context ∧
      session.Tracked E holds tracks evolves fault sends failed post t.reference t.store := by
  induction run generalizing session with
  | refl =>
    rw [live] at still
    cases still
    exact ⟨rfl, tracked⟩
  | @step middle last labels label run next ih =>
    have earlier : Admitted allowed labels := fun operator member =>
      admitted operator (List.mem_append_left _ member)
    have now : ∀ operator, label = .operate operator → allowed operator := by
      rintro operator rfl
      exact admitted operator (by simp)
    have interrupted : ∀ error, label = .fault id error → E.fault error → fault error := by
      rintro error rfl
      exact faulty error (by simp)
    have used := run.begun_subset begun
    obtain ⟨between, present⟩ := next.live_before used still
    obtain ⟨context, known⟩ := ih earlier
      (fun first second between split one other =>
        sound first (second ++ [label]) between (by simp [split]) one (other.step next))
      (fun error member => faulty error (List.mem_append_left _ member)) present
    have here := sound labels [label] middle rfl run (.step (.refl _) next)
    obtain ⟨same, after⟩ := known.step isolation tracking
      (run.consistent isolation earlier consistent) here next now interrupted used present still
    exact ⟨same.trans context, after⟩

end Runs

end Transaction
