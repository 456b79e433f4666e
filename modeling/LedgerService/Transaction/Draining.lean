import Mathlib.Algebra.GroupWithZero.Nat
import Mathlib.Algebra.Order.BigOperators.Group.List
import Mathlib.Algebra.Order.Group.Nat
import LedgerService.Transaction.Waiting

set_option autoImplicit false

namespace Transaction

variable {I : Interface} {Context Store Reference Write Lock Operator α β : Type}

namespace Program

def EndsWithin : Program I α → Nat → Prop
  | .done _, _ | .fail _, _ => True
  | .signal _ _, 0 | .query _ _, 0 => False
  | .signal _ rest, limit + 1 => rest.EndsWithin limit
  | .query _ next, limit + 1 => ∀ answer, (next answer).EndsWithin limit

theorem EndsWithin.mono {program : Program I α} {limit more : Nat}
    (ends : program.EndsWithin limit) (fewer : limit ≤ more) : program.EndsWithin more := by
  induction program generalizing limit more with
  | done value => trivial
  | fail failure => trivial
  | signal sent rest ih =>
    cases limit with
    | zero => exact ends.elim
    | succ limit =>
      obtain ⟨more, rfl⟩ := Nat.exists_eq_succ_of_ne_zero (by omega : more ≠ 0)
      exact ih ends (Nat.le_of_succ_le_succ fewer)
  | query statement next ih =>
    cases limit with
    | zero => exact ends.elim
    | succ limit =>
      obtain ⟨more, rfl⟩ := Nat.exists_eq_succ_of_ne_zero (by omega : more ≠ 0)
      exact fun answer => ih answer (ends answer) (Nat.le_of_succ_le_succ fewer)

theorem EndsWithin.bind {program : Program I α} {f : α → Program I β} {first second : Nat}
    (ends : program.EndsWithin first) (rest : ∀ value, (f value).EndsWithin second) :
    (program.bind f).EndsWithin (second + first) := by
  induction program generalizing first with
  | done value => exact (rest value).mono (Nat.le_add_right _ _)
  | fail failure => trivial
  | signal sent program ih =>
    cases first with
    | zero => exact ends.elim
    | succ first =>
      rw [signal_bind]
      exact ih ends
  | query statement next ih =>
    cases first with
    | zero => exact ends.elim
    | succ first =>
      rw [query_bind]
      exact fun answer => ih answer (ends answer)

theorem endsWithin_emit (sent : I.Signal) : (emit sent).EndsWithin 1 := trivial

theorem endsWithin_orFail (failure : I.Failure) (value : Option α) :
    (orFail failure value).EndsWithin 0 := by
  cases value <;> trivial

theorem endsWithin_ofExcept (value : Except I.Failure α) : (ofExcept value).EndsWithin 0 := by
  cases value <;> trivial

theorem endsWithin_ensure (condition : Prop) [Decidable condition] (failure : I.Failure) :
    (ensure condition failure).EndsWithin 0 := by
  unfold ensure
  split <;> trivial

end Program

section Owed

variable {E : Engine I Context Store Reference Write Lock Operator} {handler : Context → Program I α}
  {s t : System I Context Store Reference Write Lock Operator α} {steps : Nat}

def System.underWay (s : System I Context Store Reference Write Lock Operator α) : List Nat :=
  s.begun.filter fun id => (s.sessions id).isSome

/-- A session of a program that ends within a limit has one step more to take: its commit or its
rollback. -/
def System.Owes (s : System I Context Store Reference Write Lock Operator α) (steps : Nat) : Prop :=
  ∃ limit : Nat → Nat,
    (∀ id session, s.sessions id = some session →
      id ∈ s.begun ∧ session.rest.EndsWithin (limit id)) ∧
    (s.begun.map fun id => if (s.sessions id).isSome then limit id + 1 else 0).sum ≤ steps

theorem System.owes_of_bounded {limit : Nat}
    (bounded : ∀ id session, s.sessions id = some session →
      id ∈ s.begun ∧ session.rest.EndsWithin limit) : s.Owes (s.underWay.length * (limit + 1)) := by
  have total : ∀ ids : List Nat,
      (ids.map fun id => if (s.sessions id).isSome then limit + 1 else 0).sum =
        (ids.filter fun id => (s.sessions id).isSome).length * (limit + 1) := by
    intro ids
    induction ids with
    | nil => simp
    | cons id rest ih =>
      rw [List.map_cons, List.sum_cons, ih]
      cases live : (s.sessions id).isSome with
      | false => simp [live]
      | true =>
        simp only [List.filter_cons, live, if_true, List.length_cons, Nat.succ_mul]
        omega
  exact ⟨fun _ => limit, bounded, (total s.begun).le⟩

theorem System.Owes.closer (owes : s.Owes steps) {id : Nat}
    {session : Session I Context Write Lock α} (live : s.sessions id = some session)
    (begun : t.begun = s.begun) (others : ∀ other, other ≠ id → t.sessions other = s.sessions other)
    (shorter : ∀ limit, session.rest.EndsWithin limit → ∀ after, t.sessions id = some after →
      ∃ less, less < limit ∧ after.rest.EndsWithin less) :
    ∃ fewer, t.Owes fewer ∧ fewer + 1 ≤ steps := by
  obtain ⟨limit, bounded, total⟩ := owes
  obtain ⟨known, ends⟩ := bounded id session live
  have less : ∃ less, (∀ after, t.sessions id = some after → after.rest.EndsWithin less) ∧
      (if (t.sessions id).isSome then less + 1 else 0) < limit id + 1 := by
    cases gone : t.sessions id with
    | none => exact ⟨0, by simp, by simp⟩
    | some after =>
      obtain ⟨less, below, within⟩ := shorter (limit id) ends after gone
      exact ⟨less, by simpa using within, by simpa using below⟩
  obtain ⟨less, within, below⟩ := less
  refine ⟨_, ⟨Function.update limit id less, ?_, le_refl _⟩, Nat.succ_le_of_lt ?_⟩
  · intro other after found
    by_cases same : other = id
    · subst same
      simpa [begun, known] using within after found
    · rw [others other same] at found
      simpa [begun, same] using bounded other after found
  · apply Nat.lt_of_lt_of_le _ total
    rw [begun]
    apply List.sum_lt_sum
    · intro other _
      by_cases same : other = id
      · subst same
        simpa [live] using Nat.le_of_lt below
      · simp [same, others other same]
    · exact ⟨id, known, by simpa [live] using below⟩

theorem Step.shorter {label : Label I Context Operator} (step : Step E handler s label t) {id : Nat}
    {after : Session I Context Write Lock α} (own : label.actor = some id)
    (live : t.sessions id = some after) :
    label = .begin id after.context ∧ after.rest = handler after.context ∨
    ∃ before, s.sessions id = some before ∧ after.context = before.context ∧
      ∀ limit, before.rest.EndsWithin limit → ∃ less, less < limit ∧ after.rest.EndsWithin less := by
  cases step with
  | begin =>
    cases own
    obtain rfl : _ = after := by simpa using live
    exact .inl ⟨rfl, rfl⟩
  | commit | rollback =>
    cases own
    simp at live
  | operate => cases own
  | signal acting next =>
    cases own
    obtain rfl : _ = after := by simpa using live
    refine .inr ⟨_, acting, rfl, ?_⟩
    rw [next]
    intro limit ends
    cases limit with
    | zero => exact ends.elim
    | succ limit => exact ⟨limit, Nat.lt_succ_self limit, ends⟩
  | query acting asked | refuse acting asked | fault acting asked =>
    cases own
    obtain rfl : _ = after := by simpa using live
    refine .inr ⟨_, acting, rfl, ?_⟩
    rw [asked]
    intro limit ends
    cases limit with
    | zero => exact ends.elim
    | succ limit => exact ⟨limit, Nat.lt_succ_self limit, ends _⟩

theorem Step.live_of_actor {label : Label I Context Operator} (step : Step E handler s label t)
    {id : Nat} (own : label.actor = some id) (old : ∀ context, label ≠ .begin id context) :
    ∃ session, s.sessions id = some session := by
  cases step with
  | begin =>
    cases own
    exact absurd rfl (old _)
  | operate => cases own
  | signal live | query live | refuse live | fault live | commit live | rollback live =>
    cases own
    exact ⟨_, live⟩

/-- A session has at most so many steps left, of which the last is its commit or its rollback. -/
def System.Left (s : System I Context Store Reference Write Lock Operator α) (id left : Nat) : Prop :=
  ∀ session, s.sessions id = some session →
    ∃ limit, limit + 1 = left ∧ session.rest.EndsWithin limit

theorem Step.left {label : Label I Context Operator} (step : Step E handler s label t) {id left : Nat}
    (begun : id ∈ s.begun) (before : s.Left id left) :
    ∃ fewer, t.Left id fewer ∧ fewer + (if label.actor = some id then 1 else 0) ≤ left := by
  by_cases own : label.actor = some id
  · have old : ∀ context, label ≠ .begin id context := by
      rintro context rfl
      cases step with
      | begin _ _ fresh => exact fresh begun
    obtain ⟨session, live⟩ := step.live_of_actor own old
    obtain ⟨limit, rfl, ends⟩ := before session live
    rw [if_pos own]
    refine ⟨limit, ?_, le_refl _⟩
    intro after found
    rcases step.shorter own found with ⟨began, _⟩ | ⟨_, present, _, shorter⟩
    · exact absurd began (old _)
    · cases live.symm.trans present
      obtain ⟨less, below, rest⟩ := shorter limit ends
      obtain ⟨more, rfl⟩ := Nat.exists_eq_succ_of_ne_zero (by omega : limit ≠ 0)
      exact ⟨more, rfl, rest.mono (Nat.le_of_lt_succ below)⟩
  · rw [if_neg own]
    refine ⟨left, ?_, le_refl _⟩
    intro after found
    rw [step.sessions_of_other own] at found
    exact before after found

theorem Run.left {labels : List (Label I Context Operator)} (run : Run E handler s labels t)
    {id left : Nat} (begun : id ∈ s.begun) (before : s.Left id left) :
    ∃ fewer, t.Left id fewer ∧ fewer + labels.countP (fun label => label.actor = some id) ≤ left := by
  induction run with
  | refl => exact ⟨left, before, by simp⟩
  | @step middle last labels label run next ih =>
    obtain ⟨fewer, present, counted⟩ := ih
    obtain ⟨least, after, one⟩ := next.left (run.begun_subset begun) present
    refine ⟨least, after, ?_⟩
    rw [List.countP_append, List.countP_singleton]
    simp only [decide_eq_true_eq]
    omega

theorem Step.owes {label : Label I Context Operator} (step : Step E handler s label t)
    (closed : ∀ id context, label ≠ .begin id context) (owes : s.Owes steps) :
    ∃ fewer, t.Owes fewer ∧ fewer + (if label.actor.isSome then 1 else 0) ≤ steps := by
  cases acting : label.actor with
  | none =>
    cases step with
    | operate => exact ⟨steps, owes, le_refl _⟩
    | _ => cases acting
  | some id =>
    have same : t.begun = s.begun := by
      cases step with
      | begin => exact absurd rfl (closed _ _)
      | _ => rfl
    obtain ⟨session, live⟩ := step.live_of_actor acting (closed id)
    apply owes.closer live same
    · intro other different
      apply step.sessions_of_other
      rw [acting]
      exact fun clash => different (Option.some.inj clash).symm
    · intro limit ends after found
      rcases step.shorter acting found with ⟨began, _⟩ | ⟨before, present, _, shorter⟩
      · exact absurd began (closed _ _)
      · cases live.symm.trans present
        exact shorter limit ends

theorem Run.owes {labels : List (Label I Context Operator)} (run : Run E handler s labels t)
    (closed : ∀ id context, .begin id context ∉ labels) (owes : s.Owes steps) :
    ∃ fewer, t.Owes fewer ∧ fewer + labels.countP (fun label => label.actor.isSome) ≤ steps := by
  induction run with
  | refl => exact ⟨steps, owes, by simp⟩
  | @step middle last labels label run next ih =>
    obtain ⟨fewer, owed, counted⟩ := ih
      fun id context member => closed id context (List.mem_append_left _ member)
    obtain ⟨least, left, one⟩ := next.owes
      (fun id context same => closed id context (by simp [same])) owed
    refine ⟨least, left, ?_⟩
    rw [List.countP_append, List.countP_singleton]
    omega

theorem Run.ends_within {limit : Nat} {labels : List (Label I Context Operator)}
    (bounded : ∀ context, (handler context).EndsWithin limit) (idle : s.Idle)
    (run : Run E handler s labels t) {id : Nat} {session : Session I Context Write Lock α}
    (live : t.sessions id = some session) : session.rest.EndsWithin limit := by
  have all := run.induction (fun middle => ∀ id session, middle.sessions id = some session →
    session.rest.EndsWithin limit) (fun id session found => by simp [idle id] at found) ?_
  · exact all id session live
  intro middle next label _ within step id session found
  by_cases own : label.actor = some id
  · rcases step.shorter own found with ⟨_, whole⟩ | ⟨before, present, _, shorter⟩
    · exact whole ▸ bounded session.context
    · obtain ⟨less, below, ends⟩ := shorter limit (within id before present)
      exact ends.mono (Nat.le_of_lt below)
  · rw [step.sessions_of_other own] at found
    exact within id session found

end Owed

section Drained

variable {E : Engine I Context Store Reference Write Lock Operator} {handler : Context → Program I α}
  {s : System I Context Store Reference Write Lock Operator α}

variable (E handler) in
def Advances (s t : System I Context Store Reference Write Lock Operator α) : Prop :=
  ∃ label, Advance E handler s label t

theorem System.Owes.drains {steps : Nat} (owes : s.Owes steps)
    (progress : ∀ t, Relation.ReflTransGen (Advances E handler) s t → (∃ id, t.sessions id ≠ none) →
      ∃ id, t.sessions id ≠ none ∧ ¬ t.Waiting E id) :
    ∃ t, Relation.ReflTransGen (Advances E handler) s t ∧ t.Idle := by
  -- By induction on the steps that are owed, of which each advance takes one.
  induction steps using Nat.strongRecOn generalizing s with
  | ind steps ih =>
    by_cases live : ∃ id, s.sessions id ≠ none
    · obtain ⟨id, present, free⟩ := progress s .refl live
      obtain ⟨session, found⟩ := Option.ne_none_iff_exists'.mp present
      obtain ⟨label, next, acting, advance⟩ :=
        @System.advance_of_not_waiting _ _ _ _ _ _ _ _ E handler s id session found free
      have advances : Advances E handler s next := ⟨label, advance⟩
      obtain ⟨fewer, owed, less⟩ := advance.step.owes advance.own.not_begin owes
      rw [acting] at less
      obtain ⟨last, drained, idle⟩ := ih fewer (Nat.lt_of_succ_le less) owed
        (fun t later => progress t (.head advances later))
      exact ⟨last, .head advances drained, idle⟩
    · refine ⟨s, .refl, fun id => ?_⟩
      by_contra present
      exact live ⟨id, present⟩

end Drained

end Transaction
