import Mathlib.Data.Finite.Defs
import Mathlib.Data.List.Sublists
import Mathlib.Data.Set.Finite.List
import Mathlib.Logic.Relation
import Mathlib.Order.WellFounded
import LedgerService.Transaction.Guarantee

set_option autoImplicit false

/-!
# Who waits for whom

A session waits for another one that holds a lock in conflict with one its next statement takes.
Where every session asks for what ranks above all it holds, nobody waits in a circle.
-/

namespace Transaction

variable {I : Interface} {Context Store Reference Write Lock Operator α : Type}

section Definitions

variable (E : Engine I Context Store Reference Write Lock Operator)
  (s : System I Context Store Reference Write Lock Operator α)

def System.wanted (id : Nat) : List Lock :=
  match s.sessions id with
  | none => []
  | some session =>
      match session.rest with
      | .query statement _ =>
          match E.exec session.context statement s.reference (E.view s.store session.writes) with
          | .ok _ => E.locks session.context statement (E.view s.store session.writes)
          | .error _ => []
      | _ => []

def System.held (id : Nat) : List Lock :=
  match s.sessions id with
  | none => []
  | some session => session.locks

def System.WaitsOn (waiting holder : Nat) (wanted held : Lock) : Prop :=
  waiting ≠ holder ∧ wanted ∈ s.wanted E waiting ∧ held ∈ s.held holder ∧ E.conflict held wanted

def System.WaitsFor (waiting holder : Nat) : Prop :=
  ∃ wanted held, s.WaitsOn E waiting holder wanted held

def System.Waiting (id : Nat) : Prop := ∃ holder, s.WaitsFor E id holder

end Definitions

section Lists

variable {E : Engine I Context Store Reference Write Lock Operator}
  {s : System I Context Store Reference Write Lock Operator α} {id : Nat} {lock : Lock}

theorem System.mem_wanted (member : lock ∈ s.wanted E id) :
    ∃ session statement next answer, s.sessions id = some session ∧
      session.rest = .query statement next ∧
      E.exec session.context statement s.reference (E.view s.store session.writes) = .ok answer ∧
      lock ∈ E.locks session.context statement (E.view s.store session.writes) := by
  unfold System.wanted at member
  split at member
  · cases member
  · split at member
    · split at member
      · exact ⟨_, _, _, _, ‹_›, ‹_›, ‹_›, member⟩
      · cases member
    · cases member

theorem System.mem_held : lock ∈ s.held id ↔
    ∃ session, s.sessions id = some session ∧ lock ∈ session.locks := by
  unfold System.held
  cases s.sessions id <;> simp

end Lists

section Acyclic

variable {E : Engine I Context Store Reference Write Lock Operator}
  {s : System I Context Store Reference Write Lock Operator α} (rank : Lock → Nat)

theorem System.chain_ascends (same : ∀ held wanted, E.conflict held wanted → rank held = rank wanted)
    (ascending : ∀ first second third wanted held wanted' held',
      s.WaitsOn E first second wanted held → s.WaitsOn E second third wanted' held' →
        rank held < rank wanted')
    {first last : Nat} (chain : Relation.TransGen (s.WaitsFor E) first last) :
    ∃ second wanted held before wanted' held', s.WaitsOn E first second wanted held ∧
      s.WaitsOn E before last wanted' held' ∧ rank wanted ≤ rank held' := by
  -- By induction on the chain: who holds what is waited for waits for something above it.
  induction chain with
  | single waits =>
    rename_i last
    obtain ⟨wanted, held, waits⟩ := waits
    exact ⟨last, wanted, held, first, wanted, held, waits, waits,
      (same held wanted waits.2.2.2).ge⟩
  | tail _ waits ih =>
    rename_i middle last _
    obtain ⟨second, wanted, held, before, wanted', held', start, reached, le⟩ := ih
    obtain ⟨wanted'', held'', waits⟩ := waits
    have above := ascending _ _ _ _ _ _ _ reached waits
    have equal := same held'' wanted'' waits.2.2.2
    exact ⟨second, wanted, held, middle, wanted'', held'', start, waits, by omega⟩

theorem System.no_circle (same : ∀ held wanted, E.conflict held wanted → rank held = rank wanted)
    (ascending : ∀ first second third wanted held wanted' held',
      s.WaitsOn E first second wanted held → s.WaitsOn E second third wanted' held' →
        rank held < rank wanted') (id : Nat) :
    ¬ Relation.TransGen (s.WaitsFor E) id id := by
  intro circle
  obtain ⟨second, wanted, held, before, wanted', held', start, reached, le⟩ :=
    System.chain_ascends rank same ascending circle
  have above := ascending _ _ _ _ _ _ _ reached start
  omega

theorem System.exists_not_waiting
    (acyclic : ∀ id, ¬ Relation.TransGen (s.WaitsFor E) id id)
    (begun : ∀ id session, s.sessions id = some session → id ∈ s.begun)
    (live : ∃ id, s.sessions id ≠ none) :
    ∃ id, s.sessions id ≠ none ∧ ¬ s.Waiting E id := by
  let Live := {id // s.sessions id ≠ none}
  have finite : Finite Live := by
    have list : {id | id ∈ s.begun}.Finite := List.finite_toSet s.begun
    apply list.subset
    intro id present
    obtain ⟨session, found⟩ := Option.ne_none_iff_exists'.mp present
    exact begun id session found
  let After : Live → Live → Prop := fun later earlier =>
    Relation.TransGen (s.WaitsFor E) earlier.val later.val
  have transitive : IsTrans Live After := ⟨fun _ _ _ second first => first.trans second⟩
  have irreflexive : Std.Irrefl After := ⟨fun id circle => acyclic id.val circle⟩
  have wellFounded : WellFounded After := Finite.wellFounded_of_trans_of_irrefl After
  obtain ⟨start, present⟩ := live
  obtain ⟨last, _, least⟩ := wellFounded.has_min Set.univ ⟨⟨start, present⟩, trivial⟩
  refine ⟨last.val, last.property, ?_⟩
  rintro ⟨holder, waits⟩
  have present' : s.sessions holder ≠ none := by
    obtain ⟨_, _, _, _, holds, _⟩ := waits
    obtain ⟨session, found, _⟩ := System.mem_held.mp holds
    simp [found]
  exact least ⟨holder, present'⟩ trivial (.single waits)

end Acyclic

section Progress

variable {E : Engine I Context Store Reference Write Lock Operator} {handler : Context → Program I α}
  {s : System I Context Store Reference Write Lock Operator α}

def Label.Own : Label I Context Operator → Prop
  | .signal _ | .query _ | .refuse _ | .commit _ | .rollback _ => True
  | .begin _ _ | .fault _ _ | .operate _ => False

theorem Label.Own.not_begin {label : Label I Context Operator} (own : label.Own) (id : Nat)
    (context : Context) : label ≠ .begin id context := by
  rintro rfl
  exact own

variable (E handler) in
structure Advance (s : System I Context Store Reference Write Lock Operator α)
    (label : Label I Context Operator) (t : System I Context Store Reference Write Lock Operator α) :
    Prop where
  step : Step E handler s label t
  own : label.Own
  failed : ∀ id, label = .rollback id →
    ∃ session failure, s.sessions id = some session ∧ session.rest = .fail failure

theorem System.advance_of_not_waiting {id : Nat} {session : Session I Context Write Lock α}
    (live : s.sessions id = some session) (free : ¬ s.Waiting E id) :
    ∃ label t, label.actor = some id ∧ Advance E handler s label t := by
  cases rest : session.rest with
  | done value => exact ⟨_, _, rfl, .commit live rest, trivial, nofun⟩
  | fail failure =>
    refine ⟨_, _, rfl, .rollback live, trivial, ?_⟩
    intro other same
    cases same
    exact ⟨session, failure, live, rest⟩
  | signal sent next => exact ⟨_, _, rfl, .signal live rest, trivial, nofun⟩
  | query statement next =>
    cases answer : E.exec session.context statement s.reference (E.view s.store session.writes) with
    | error error => exact ⟨_, _, rfl, .refuse live rest answer, trivial, nofun⟩
    | ok answered =>
      obtain ⟨result, writes⟩ := answered
      refine ⟨_, _, rfl, .query live rest ?_ answer, trivial, nofun⟩
      intro other one different otherLive held member wanted needed clash
      apply free
      refine ⟨other, wanted, held, ?_, ?_, System.mem_held.mpr ⟨one, otherLive, member⟩, clash⟩
      · rintro rfl
        exact different rfl
      · simpa [System.wanted, live, rest, answer] using needed

theorem System.step_of_not_waiting {id : Nat} {session : Session I Context Write Lock α}
    (live : s.sessions id = some session) (free : ¬ s.Waiting E id) :
    ∃ label t, label.actor = some id ∧ Step E handler s label t := by
  obtain ⟨label, t, acting, advance⟩ := System.advance_of_not_waiting live free
  exact ⟨label, t, acting, advance.step⟩

theorem Run.live_begun {t : System I Context Store Reference Write Lock Operator α}
    {labels : List (Label I Context Operator)} (run : Run E handler s labels t) (idle : s.Idle)
    {id : Nat} {session : Session I Context Write Lock α} (live : t.sessions id = some session) :
    id ∈ t.begun := by
  obtain ⟨before, after, _, _, _, _, began, rest⟩ := run.began idle live
  cases began with
  | begin => exact rest.begun_subset List.mem_cons_self

theorem Run.commit_begun {t : System I Context Store Reference Write Lock Operator α}
    {labels : List (Label I Context Operator)} (run : Run E handler s labels t) (idle : s.Idle)
    {id : Nat} (committed : .commit id ∈ labels) : id ∈ t.begun := by
  induction run with
  | refl => cases committed
  | @step middle last labels label run next ih =>
    rcases List.mem_append.mp committed with earlier | now
    · exact next.begun_subset (ih earlier)
    · cases List.mem_singleton.mp now
      cases next with
      | commit live => exact run.live_begun idle live

theorem Run.not_committed {t : System I Context Store Reference Write Lock Operator α}
    {labels : List (Label I Context Operator)} (run : Run E handler s labels t) (idle : s.Idle)
    {id : Nat} {session : Session I Context Write Lock α} (live : t.sessions id = some session) :
    .commit id ∉ labels := by
  induction run generalizing session with
  | refl => simp
  | @step middle last labels label run next ih =>
    intro committed
    rcases List.mem_append.mp committed with earlier | now
    · obtain ⟨before, present⟩ := next.live_before (run.commit_begun idle earlier) live
      exact ih present earlier
    · cases List.mem_singleton.mp now
      cases next with
      | commit => simp at live

theorem Run.committed_began {t : System I Context Store Reference Write Lock Operator α}
    {labels : List (Label I Context Operator)} (run : Run E handler s labels t) (idle : s.Idle)
    (nothing : s.history = []) {context : Context} {value : α} {writes : List Write}
    (committed : .committed context value writes ∈ t.history) :
    ∃ id, .begin id context ∈ labels ∧ .commit id ∈ labels := by
  induction run with
  | refl =>
    rw [nothing] at committed
    cases committed
  | @step middle last labels label run next ih =>
    have earlier : .committed context value writes ∈ middle.history →
        ∃ id, .begin id context ∈ labels ++ [label] ∧ .commit id ∈ labels ++ [label] := by
      intro before
      obtain ⟨id, began, ended⟩ := ih before
      exact ⟨id, List.mem_append_left _ began, List.mem_append_left _ ended⟩
    cases next with
    | commit live =>
      rcases List.mem_append.mp committed with before | now
      · exact earlier before
      · cases List.mem_singleton.mp now
        obtain ⟨_, _, first, later, rfl, _⟩ := run.began idle live
        exact ⟨_, List.mem_append_left _ (by simp), List.mem_append_right _ List.mem_cons_self⟩
    | operate =>
      rcases List.mem_append.mp committed with before | now
      · exact earlier before
      · cases List.mem_singleton.mp now
    | _ => exact earlier committed

end Progress

end Transaction
