import LedgerService.Transaction.Alone

set_option autoImplicit false

/-!
# Lock discipline

`evolves locks` relates a store to what other sessions may make of it while the locks are held.
A program is disciplined if each answer it goes on with stays the right one while the store
evolves, or is one that running alone from the later store comes to terms with.
-/

namespace Transaction

variable {I : Interface} {Context Store Reference Write Lock Operator α β : Type}

section Discipline

variable (E : Engine I Context Store Reference Write Lock Operator)
  (older : Reference → Reference → Prop) (evolves : List Lock → Store → Store → Prop)
  (context : Context)

def Settled (locks : List Lock) (writes : List Write) (reference : Reference) (store : Store)
    (statement : I.Statement) (next : Except I.Error (I.Result statement) → Program I α)
    (answer : I.Result statement) (more : List Write) : Prop :=
  ∀ reference' store' result final, older reference reference' → evolves locks store store' →
    (next (.ok answer)).Commits E older context reference' store' (writes ++ more) result final →
    (Program.query statement next).Commits E older context reference' store' writes result final

/-- `replayable` says that all answers so far are settled.  An error leaves nothing to replay. -/
def Program.Disciplined : Program I α → Prop → List Lock → List Write →
    (α → Prop → List Lock → List Write → Prop) → Prop
  | .done value, replayable, locks, writes, post => post value replayable locks writes
  | .fail _, _, _, _, _ => True
  | .signal _ rest, replayable, locks, writes, post =>
      rest.Disciplined replayable locks writes post
  | .query statement next, replayable, locks, writes, post =>
      (∀ error, (next (.error error)).Disciplined False locks writes post) ∧
      ∀ reference store answer more, E.Covered locks writes →
        E.exec context statement reference (E.view store writes) = .ok (answer, more) →
        (next (.ok answer)).Disciplined
          (replayable ∧ Settled E older evolves context
            (locks ++ E.locks context statement (E.view store writes)) writes reference store
            statement next answer more)
          (locks ++ E.locks context statement (E.view store writes)) (writes ++ more) post

variable {E older evolves context}

theorem Program.Disciplined.mono {program : Program I α} {replayable certain : Prop}
    {locks : List Lock} {writes : List Write}
    {post weaker : α → Prop → List Lock → List Write → Prop}
    (disciplined : program.Disciplined E older evolves context replayable locks writes post)
    (more : replayable → certain)
    (implies : ∀ value replayable certain locks writes, (replayable → certain) →
      post value replayable locks writes → weaker value certain locks writes) :
    program.Disciplined E older evolves context certain locks writes weaker := by
  induction program generalizing replayable certain locks writes with
  | done value => exact implies value replayable certain locks writes more disciplined
  | fail failure => trivial
  | signal sent rest ih => exact ih disciplined more
  | query statement next ih =>
    refine ⟨fun error => ih _ (disciplined.1 error) id, ?_⟩
    intro reference store answer added covered answered
    exact ih _ (disciplined.2 reference store answer added covered answered)
      (fun both => ⟨more both.1, both.2⟩)

theorem Settled.bind {locks : List Lock} {writes more : List Write} {reference : Reference}
    {store : Store} {statement : I.Statement}
    {next : Except I.Error (I.Result statement) → Program I α} {answer : I.Result statement}
    (settled : Settled E older evolves context locks writes reference store statement next answer
      more) (f : α → Program I β) :
    Settled E older evolves context locks writes reference store statement
      (fun answer => (next answer).bind f) answer more := by
  intro reference' store' result final old grown commits
  obtain ⟨value, between, first, second⟩ := Program.commits_bind.mp commits
  rw [← Program.query_bind, Program.commits_bind]
  exact ⟨value, between, settled reference' store' value between old grown first, second⟩

theorem Program.Disciplined.bind {program : Program I α} {f : α → Program I β}
    {replayable : Prop} {locks : List Lock} {writes : List Write}
    {post : β → Prop → List Lock → List Write → Prop}
    (monotone : ∀ value replayable certain locks writes, (replayable → certain) →
      post value replayable locks writes → post value certain locks writes)
    (disciplined : program.Disciplined E older evolves context replayable locks writes
      fun value replayable locks writes =>
        (f value).Disciplined E older evolves context replayable locks writes post) :
    (program.bind f).Disciplined E older evolves context replayable locks writes post := by
  induction program generalizing replayable locks writes with
  | done value => exact disciplined
  | fail failure => trivial
  | signal sent rest ih => exact ih disciplined
  | query statement next ih =>
    refine ⟨fun error => ih _ (disciplined.1 error), ?_⟩
    intro reference store answer more covered answered
    refine ih _ ((disciplined.2 reference store answer more covered answered).mono
      (fun both => ⟨both.1, both.2.bind f⟩) ?_)
    intro value replayable certain locks writes implied disciplined
    exact disciplined.mono implied monotone

section Rules

variable {replayable : Prop} {locks : List Lock} {writes : List Write}

@[simp] theorem disciplined_done {value : α} {post : α → Prop → List Lock → List Write → Prop} :
    (Program.done value : Program I α).Disciplined E older evolves context replayable locks writes
      post ↔ post value replayable locks writes := Iff.rfl

@[simp] theorem disciplined_fail {failure : I.Failure}
    {post : α → Prop → List Lock → List Write → Prop} :
    (Program.fail failure : Program I α).Disciplined E older evolves context replayable locks
      writes post ↔ True := Iff.rfl

@[simp] theorem disciplined_signal {sent : I.Signal} {rest : Program I α}
    {post : α → Prop → List Lock → List Write → Prop} :
    (Program.signal sent rest).Disciplined E older evolves context replayable locks writes post ↔
      rest.Disciplined E older evolves context replayable locks writes post := Iff.rfl

variable {f : α → Program I β} {post : β → Prop → List Lock → List Write → Prop}

theorem disciplined_emit_bind {sent : I.Signal} {g : Unit → Program I β} :
    ((Program.emit sent).bind g).Disciplined E older evolves context replayable locks writes post ↔
      (g ()).Disciplined E older evolves context replayable locks writes post := Iff.rfl

theorem disciplined_ensure_bind {condition : Prop} [Decidable condition] {failure : I.Failure}
    {g : Unit → Program I β} :
    ((Program.ensure condition failure).bind g).Disciplined E older evolves context replayable locks
      writes post ↔
      (condition → (g ()).Disciplined E older evolves context replayable locks writes post) := by
  by_cases holds : condition <;> simp [Program.ensure, holds]

theorem disciplined_orFail_bind {failure : I.Failure} {value : Option α} :
    ((Program.orFail failure value).bind f).Disciplined E older evolves context replayable locks
      writes post ↔ ∀ result, value = some result →
        (f result).Disciplined E older evolves context replayable locks writes post := by
  cases value <;> simp [Program.orFail]

theorem disciplined_ofExcept_bind {value : Except I.Failure α} :
    ((Program.ofExcept value).bind f).Disciplined E older evolves context replayable locks writes
      post ↔ ∀ result, value = .ok result →
        (f result).Disciplined E older evolves context replayable locks writes post := by
  cases value <;> simp [Program.ofExcept]

end Rules

end Discipline

/-- The facts about an engine and a handler from which isolation follows. -/
structure Isolation (E : Engine I Context Store Reference Write Lock Operator)
    (handler : Context → Program I α) (allowed : Operator → Prop)
    (older : Reference → Reference → Prop) (evolves : List Lock → Store → Store → Prop) : Prop where
  older_refl : ∀ reference, older reference reference
  older_trans : ∀ {first second third}, older first second → older second third →
    older first third
  evolves_refl : ∀ locks store, evolves locks store store
  evolves_trans : ∀ {locks first second third}, evolves locks first second →
    evolves locks second third → evolves locks first third
  evolves_fewer : ∀ {locks more store store'}, locks ⊆ more → evolves more store store' →
    evolves locks store store'
  conflict_symm : ∀ {first second}, E.conflict first second → E.conflict second first
  covers : ∀ {context statement reference store answer writes},
    E.exec context statement reference store = .ok (answer, writes) →
    E.Covered (E.locks context statement store) writes
  commit_evolves : ∀ {context held locks reference store result writes},
    E.Compatible held locks → E.Covered locks writes →
    (handler context).Commits E older context reference store [] result writes →
    evolves held store (E.view store writes)
  operate_evolves : ∀ {operator held store reference}, allowed operator →
    E.admissible operator (store, reference) → E.Compatible held (E.operatorLocks operator) →
    evolves held store (E.operate operator (store, reference)).1 ∧
      older reference (E.operate operator (store, reference)).2
  disciplined : ∀ context, (handler context).Disciplined E older evolves context True [] []
    fun _ replayable _ _ => replayable

end Transaction
