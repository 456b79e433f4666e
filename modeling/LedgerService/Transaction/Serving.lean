import Mathlib.Algebra.Order.BigOperators.Group.List
import Mathlib.Algebra.Order.Group.Nat
import Mathlib.Algebra.Order.Ring.Int
import LedgerService.Transaction.Alone

set_option autoImplicit false

namespace Transaction

variable {I : Interface} {Context Store Reference Write Lock Operator α : Type}
  (E : Engine I Context Store Reference Write Lock Operator) (handler : Context → Program I α)

namespace System

def fresh (s : System I Context Store Reference Write Lock Operator α) : Nat := s.begun.sum + 1

theorem fresh_not_mem (s : System I Context Store Reference Write Lock Operator α) :
    s.fresh ∉ s.begun := by
  intro used
  have bound : s.begun.sum + 1 ≤ s.begun.sum := List.single_le_sum (by simp) _ used
  omega

def ended (s : System I Context Store Reference Write Lock Operator α) (id : Nat)
    (context : Context) : Except I.Failure (α × List Write) →
      System I Context Store Reference Write Lock Operator α
  | .ok (value, writes) =>
      { s.put id none with
        store := E.view s.store writes
        history := s.history ++ [.committed context value writes] }
  | .error _ => s.put id none

theorem ended_put (s : System I Context Store Reference Write Lock Operator α) (id : Nat)
    (session : Option (Session I Context Write Lock α)) (context : Context)
    (outcome : Except I.Failure (α × List Write)) :
    (s.put id session).ended E id context outcome = s.ended E id context outcome := by
  cases outcome <;> simp [ended, put]

def serve (s : System I Context Store Reference Write Lock Operator α) (context : Context) :
    System I Context Store Reference Write Lock Operator α :=
  match (handler context).finish E context s.reference s.store [] with
  | .ok (value, writes) =>
      { s with
        store := E.view s.store writes
        begun := s.fresh :: s.begun
        history := s.history ++ [.committed context value writes] }
  | .error _ => { s with begun := s.fresh :: s.begun }

theorem put_live (s : System I Context Store Reference Write Lock Operator α) (id : Nat)
    (session : Session I Context Write Lock α) :
    (s.put id (some session)).sessions id = some session := by simp

theorem put_alone {s : System I Context Store Reference Write Lock Operator α} {id : Nat}
    (alone : ∀ other, other ≠ id → s.sessions other = none)
    (session : Option (Session I Context Write Lock α)) (other : Nat) (different : other ≠ id) :
    (s.put id session).sessions other = none := by
  simp [Function.update_of_ne different, alone other different]

def serveAll (s : System I Context Store Reference Write Lock Operator α)
    (contexts : List Context) : System I Context Store Reference Write Lock Operator α :=
  contexts.foldl (serve E handler) s

end System

variable {E handler}

theorem Run.finish {s : System I Context Store Reference Write Lock Operator α} {id : Nat}
    {context : Context} {rest : Program I α} {writes : List Write} {locks : List Lock}
    (live : s.sessions id = some ⟨context, rest, writes, locks⟩)
    (alone : ∀ other, other ≠ id → s.sessions other = none) :
    ∃ labels, (∀ label ∈ labels, label.actor = some id) ∧
      Run E handler s labels
        (s.ended E id context (rest.finish E context s.reference s.store writes)) := by
  induction rest generalizing s writes locks with
  | done value => exact ⟨[.commit id], by simp [Label.actor], .step (.refl s) (.commit live rfl)⟩
  | fail failure => exact ⟨[.rollback id], by simp [Label.actor], .step (.refl s) (.rollback live)⟩
  | signal sent rest ih =>
    have first := Run.step (.refl s) (@Step.signal _ _ _ _ _ _ _ _ E handler _ _ _ _ _ live rfl)
    obtain ⟨labels, own, run⟩ := ih (System.put_live s id _) (System.put_alone alone _)
    rw [System.ended_put] at run
    exact ⟨_, by simpa [Label.actor] using own, first.trans run⟩
  | query statement next ih =>
    cases answer : E.exec context statement s.reference (E.view s.store writes) with
    | ok answered =>
      obtain ⟨result, more⟩ := answered
      have free : s.Free E (some id) (E.locks context statement (E.view s.store writes)) := by
        intro other session different otherLive
        rw [alone other (by simpa using different)] at otherLive
        cases otherLive
      have first := Run.step (.refl s) (@Step.query _ _ _ _ _ _ _ _ E handler _ _ _ _ _ _ _ live
        rfl free answer)
      obtain ⟨labels, own, run⟩ := ih _ (System.put_live s id _) (System.put_alone alone _)
      rw [System.ended_put] at run
      refine ⟨.query id :: labels, by simpa [Label.actor] using own, ?_⟩
      simpa [Program.finish, answer] using first.trans run
    | error error =>
      have first := Run.step (.refl s) (@Step.refuse _ _ _ _ _ _ _ _ E handler _ _ _ _ _ _ live
        rfl answer)
      obtain ⟨labels, own, run⟩ := ih _ (System.put_live s id _) (System.put_alone alone _)
      rw [System.ended_put] at run
      refine ⟨.refuse id :: labels, by simpa [Label.actor] using own, ?_⟩
      simpa [Program.finish, answer] using first.trans run

def Unattended (labels : List (Label I Context Operator)) : Prop :=
  ∀ operator, Label.operate operator ∉ labels

theorem System.Idle.serve {s : System I Context Store Reference Write Lock Operator α}
    (idle : s.Idle) (context : Context) :
    (s.serve E handler context).Idle ∧
      ∃ labels, Unattended labels ∧ Run E handler s labels (s.serve E handler context) := by
  refine ⟨?_, ?_⟩
  · unfold System.serve
    split <;> exact idle
  · have began := @Step.begin _ _ _ _ _ _ _ _ E handler s s.fresh context s.fresh_not_mem
    obtain ⟨labels, own, run⟩ := @Run.finish _ _ _ _ _ _ _ _ E handler _ _ _ _ _ _
      (System.put_live { s with begun := s.fresh :: s.begun } s.fresh ⟨context, handler context, [], []⟩)
      (System.put_alone (s := { s with begun := s.fresh :: s.begun }) (fun other _ => idle other) _)
    have back : Function.update s.sessions s.fresh none = s.sessions := by
      rw [← idle s.fresh, Function.update_eq_self]
    refine ⟨.begin s.fresh context :: labels, ?_, ?_⟩
    · intro operator member
      have actor := own (.operate operator) (by simpa using member)
      simp [Label.actor] at actor
    · rw [System.ended_put] at run
      have same : s.serve E handler context = System.ended E { s with begun := s.fresh :: s.begun }
          s.fresh context ((handler context).finish E context s.reference s.store []) := by
        unfold System.serve
        split <;> rename_i ran <;> simp [System.ended, System.put, ran, back]
      rw [same]
      exact (Run.step (.refl s) began).trans run

theorem System.Idle.serveAll {s : System I Context Store Reference Write Lock Operator α}
    (idle : s.Idle) (contexts : List Context) :
    (s.serveAll E handler contexts).Idle ∧
      ∃ labels, Unattended labels ∧ Run E handler s labels (s.serveAll E handler contexts) := by
  induction contexts generalizing s with
  | nil => exact ⟨idle, [], by simp [Unattended], .refl s⟩
  | cons context rest ih =>
    obtain ⟨idle, labels, unattended, run⟩ := @Idle.serve _ _ _ _ _ _ _ _ E handler _ idle context
    obtain ⟨last, more, alsoUnattended, further⟩ := ih idle
    refine ⟨last, labels ++ more, ?_, run.trans further⟩
    intro operator member
    rcases List.mem_append.mp member with first | second
    · exact unattended operator first
    · exact alsoUnattended operator second

end Transaction
