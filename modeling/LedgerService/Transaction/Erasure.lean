import LedgerService.Transaction.Serializable

set_option autoImplicit false

/-!
# Erasing a session

A session that does not commit can be taken out of a run; nobody else notices.
-/

namespace Transaction

variable {I : Interface} {Context Store Reference Write Lock Operator α : Type}

namespace System

def without (s : System I Context Store Reference Write Lock Operator α) (id : Nat) :
    System I Context Store Reference Write Lock Operator α :=
  { s.put id none with begun := s.begun.filter (· ≠ id) }

variable (s : System I Context Store Reference Write Lock Operator α) (id : Nat)

@[simp] theorem without_store : (s.without id).store = s.store := rfl

@[simp] theorem without_reference : (s.without id).reference = s.reference := rfl

@[simp] theorem without_history : (s.without id).history = s.history := rfl

@[simp] theorem without_begun : (s.without id).begun = s.begun.filter (· ≠ id) := rfl

@[simp] theorem without_sessions :
    (s.without id).sessions = Function.update s.sessions id none := rfl

variable {s id}

theorem without_of_unknown (idle : s.sessions id = none) (unused : id ∉ s.begun) :
    s.without id = s := by
  have sessions : Function.update s.sessions id none = s.sessions := by
    rw [← idle, Function.update_eq_self]
  have begun : s.begun.filter (· ≠ id) = s.begun := by
    rw [List.filter_eq_self]
    intro other member
    have different : other ≠ id := fun same => unused (same ▸ member)
    simpa using different
  cases s
  simp_all [without, put]

theorem without_put (session : Option (Session I Context Write Lock α)) :
    (s.put id session).without id = s.without id := by
  simp [without, put]

theorem put_without {other : Nat} (different : other ≠ id)
    (session : Option (Session I Context Write Lock α)) :
    (s.without id).put other session = (s.put other session).without id := by
  simp [without, put, Function.update_comm different]

theorem Free.without {E : Engine I Context Store Reference Write Lock Operator}
    {actor : Option Nat} {wanted : List Lock} (free : s.Free E actor wanted) :
    (s.without id).Free E actor wanted := by
  intro other session different live
  apply free other session different
  by_cases same : other = id
  · simp [same] at live
  · simpa [same] using live

end System

variable {E : Engine I Context Store Reference Write Lock Operator} {handler : Context → Program I α}
  {s t : System I Context Store Reference Write Lock Operator α} {label : Label I Context Operator}
  {id : Nat}

theorem Step.without_own (step : Step E handler s label t) (own : label.actor = some id)
    (uncommitted : label ≠ .commit id) : t.without id = s.without id := by
  cases step with
  | begin =>
    cases own
    simp [System.without, System.put]
  | commit =>
    cases own
    exact absurd rfl uncommitted
  | operate => cases own
  | _ =>
    cases own
    exact System.without_put _

theorem Step.without_other (step : Step E handler s label t) (other : label.actor ≠ some id) :
    Step E handler (s.without id) label (t.without id) := by
  have live : ∀ {actor : Nat} {session : Session I Context Write Lock α},
      label.actor = some actor → s.sessions actor = some session →
      (s.without id).sessions actor = some session := by
    intro actor session acting found
    have different : actor ≠ id := fun same => other (same ▸ acting)
    simpa [different] using found
  have different : ∀ {actor : Nat}, label.actor = some actor → actor ≠ id := by
    intro actor acting same
    exact other (same ▸ acting)
  cases step with
  | begin actor context fresh =>
    have next := @Step.begin _ _ _ _ _ _ _ _ E handler (s.without id) actor context
      (by simp [fresh])
    simpa [System.without, System.put, Function.update_comm (different rfl), different rfl] using next
  | signal found next =>
    rw [← System.put_without (different rfl)]
    exact .signal (live rfl found) next
  | query found asked free answer =>
    rw [← System.put_without (different rfl)]
    exact .query (live rfl found) asked free.without answer
  | refuse found asked answer =>
    rw [← System.put_without (different rfl)]
    exact .refuse (live rfl found) asked answer
  | fault found asked faulty =>
    rw [← System.put_without (different rfl)]
    exact .fault (live rfl found) asked faulty
  | commit found finished =>
    have next := @Step.commit _ _ _ _ _ _ _ _ E handler _ _ _ _ (live rfl found) finished
    simpa [System.without, System.put, Function.update_comm (different rfl)] using next
  | rollback found =>
    rw [← System.put_without (different rfl)]
    exact .rollback (live rfl found)
  | operate operator admissible free =>
    exact .operate (s := s.without id) operator admissible free.without

theorem Run.eq_of_nil {labels : List (Label I Context Operator)} (run : Run E handler s labels t)
    (nothing : labels = []) : t = s := by
  cases run with
  | refl => rfl
  | step => simp at nothing

def others (id : Nat) (labels : List (Label I Context Operator)) : List (Label I Context Operator) :=
  labels.filter fun label => label.actor ≠ some id

theorem Run.without {labels : List (Label I Context Operator)} (run : Run E handler s labels t)
    (uncommitted : Label.commit id ∉ labels) :
    Run E handler (s.without id) (others id labels) (t.without id) := by
  induction run with
  | refl => exact .refl _
  | @step middle last labels label run next ih =>
    simp only [List.mem_append, List.mem_singleton, not_or] at uncommitted
    have before := ih uncommitted.1
    rw [others, List.filter_append, ← others]
    by_cases own : label.actor = some id
    · rw [next.without_own own (Ne.symm uncommitted.2)]
      simpa [own] using before
    · simpa [own] using before.step (next.without_other own)

theorem Run.uncommitted {labels : List (Label I Context Operator)} (run : Run E handler s labels t)
    (begun : id ∈ s.begun) {session : Session I Context Write Lock α}
    (live : t.sessions id = some session) : Label.commit id ∉ labels := by
  induction run generalizing session with
  | refl => exact List.not_mem_nil
  | @step middle last labels label run next ih =>
    obtain ⟨before, found⟩ := next.live_before (run.begun_subset begun) live
    have earlier := ih found
    simp only [List.mem_append, List.mem_singleton, not_or]
    refine ⟨earlier, ?_⟩
    rintro rfl
    cases next with
    | commit => simp at live

section Doomed

variable {allowed : Operator → Prop} {older : Reference → Reference → Prop}
  {evolves : List Lock → Store → Store → Prop}

variable (E older evolves) in
def Session.Doomed (session : Session I Context Write Lock α) : Prop :=
  session.rest.Disciplined E older evolves session.context False session.locks session.writes
    fun _ replayable _ _ => replayable

variable (E older evolves) in
def System.Stopped (s : System I Context Store Reference Write Lock Operator α) (id : Nat) : Prop :=
  id ∈ s.begun ∧ ∀ session, s.sessions id = some session → session.Doomed E older evolves

theorem Session.doomed_of_fail {session : Session I Context Write Lock α} {failure : I.Failure}
    (failed : session.rest = .fail failure) : session.Doomed E older evolves := by
  rw [Session.Doomed, failed]
  trivial

theorem Consistent.doomed (consistent : Consistent E handler older evolves s)
    {session : Session I Context Write Lock α} {statement : I.Statement}
    {next : Except I.Error (I.Result statement) → Program I α}
    (live : s.sessions id = some session) (asked : session.rest = .query statement next)
    (error : I.Error) :
    Session.Doomed E older evolves { session with rest := next (.error error) } := by
  obtain ⟨_, disciplined, _⟩ := consistent.replays id session live
  rw [asked] at disciplined
  exact disciplined.1 error

theorem System.Stopped.step (consistent : Consistent E handler older evolves s)
    (stopped : s.Stopped E older evolves id) (step : Step E handler s label t) :
    label ≠ .commit id ∧ t.Stopped E older evolves id := by
  obtain ⟨begun, doomed⟩ := stopped
  by_cases own : label.actor = some id
  · cases step with
    | begin _ _ fresh =>
      cases own
      exact absurd begun fresh
    | signal live next =>
      cases own
      have before := doomed _ live
      rw [Session.Doomed, next] at before
      refine ⟨nofun, begun, fun session still => ?_⟩
      obtain rfl : _ = session := by simpa using still
      exact before
    | query live asked _ answer =>
      cases own
      have before := doomed _ live
      rw [Session.Doomed, asked] at before
      refine ⟨nofun, begun, fun session still => ?_⟩
      obtain rfl : _ = session := by simpa using still
      have rest := before.2 _ _ _ _ (consistent.covered id _ live) answer
      exact rest.mono And.left fun _ _ _ _ _ implies holds => implies holds
    | refuse live asked | fault live asked =>
      cases own
      refine ⟨nofun, begun, fun session still => ?_⟩
      obtain rfl : _ = session := by simpa using still
      exact consistent.doomed live asked _
    | commit live finished =>
      cases own
      have before := doomed _ live
      rw [Session.Doomed, finished] at before
      exact before.elim
    | rollback =>
      cases own
      exact ⟨nofun, begun, by simp⟩
    | operate => cases own
  · refine ⟨fun commits => own (commits ▸ rfl), step.begun_subset begun, ?_⟩
    rw [step.sessions_of_other own]
    exact doomed

theorem System.Stopped.run (isolation : Isolation E handler allowed older evolves)
    {labels : List (Label I Context Operator)} (consistent : Consistent E handler older evolves s)
    (stopped : s.Stopped E older evolves id) (run : Run E handler s labels t)
    (admitted : Admitted allowed labels) :
    Label.commit id ∉ labels ∧ t.Stopped E older evolves id := by
  induction run with
  | refl => exact ⟨List.not_mem_nil, stopped⟩
  | @step middle last labels label run next ih =>
    have earlier : Admitted allowed labels := fun operator member =>
      admitted operator (List.mem_append_left _ member)
    obtain ⟨uncommitted, still⟩ := ih earlier
    obtain ⟨other, after⟩ := still.step (run.consistent isolation earlier consistent) next
    simp only [List.mem_append, List.mem_singleton, not_or]
    exact ⟨⟨uncommitted, Ne.symm other⟩, after⟩

end Doomed

end Transaction
