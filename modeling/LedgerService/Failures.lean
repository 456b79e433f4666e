import LedgerService.Idempotence
import LedgerService.Transaction.Erasure

set_option autoImplicit false

namespace LedgerService

open Transaction

variable {platform : Platform} {id : Nat}

variable (platform id) in
/-- How an attempt fails: its handler ends in an error or a panic, one of its statements is answered
with an error, or its transaction is dropped. -/
inductive Fails : Ledger → List (Label sql Attempt Operator) → Ledger → Prop
  | rejected {ledger : Ledger} {session : Session sql Attempt Write Lock Reply} {failure : Failure}
      (live : ledger.sessions id = some session) (ended : session.rest = .fail failure) :
      Fails ledger [] ledger
  | refused {ledger next : Ledger} (step : Ledger.Step platform ledger (.refuse id) next) :
      Fails ledger [.refuse id] next
  | interrupted {ledger next : Ledger} (error : DbError)
      (step : Ledger.Step platform ledger (.fault id error) next) :
      Fails ledger [.fault id error] next
  | dropped {ledger next : Ledger} (step : Ledger.Step platform ledger (.rollback id) next) :
      Fails ledger [.rollback id] next

/-- Nothing is answered but successes, so what has not failed is no failed attempt. -/
structure Successful (ledger : Ledger) : Prop where
  done : ∀ other session reply, ledger.sessions other = some session → session.rest = .done reply →
    ∃ success, reply = .ok success
  committed : ∀ attempt reply writes, .committed attempt reply writes ∈ ledger.history →
    ∃ success, reply = .ok success

theorem Ledger.Reachable.successful {ledger : Ledger} (reachable : ledger.Reachable platform) :
    Successful ledger where
  done _ _ _ live finished := reachable.done_success live finished
  committed _ _ _ member := reachable.committed_success member

namespace Fails

variable {ledger next : Ledger} {labels : List (Label sql Attempt Operator)}

theorem run (fails : Fails platform id ledger labels next) :
    Ledger.Run platform ledger labels next := by
  cases fails with
  | rejected => exact .refl ledger
  | refused step | interrupted _ step | dropped step => exact .step (.refl ledger) step

theorem live (fails : Fails platform id ledger labels next) :
    ∃ session, ledger.sessions id = some session := by
  cases fails with
  | rejected live => exact ⟨_, live⟩
  | refused step | interrupted _ step | dropped step =>
    cases step with
    | _ live => exact ⟨_, live⟩

theorem uncommitted (fails : Fails platform id ledger labels next) :
    Label.commit id ∉ labels := by
  cases fails <;> simp

theorem stopped (fails : Fails platform id ledger labels next) (reachable : ledger.Reachable platform)
    (begun : id ∈ ledger.begun) :
    next.Stopped (engine platform) Configuration.Within Evolves id := by
  refine ⟨fails.run.begun_subset begun, ?_⟩
  intro session still
  cases fails with
  | rejected live ended =>
    obtain rfl : _ = session := Option.some.inj (live.symm.trans still)
    exact Session.doomed_of_fail ended
  | refused step =>
    cases step with
    | refuse live asked =>
      obtain rfl : _ = session := by simpa using still
      exact reachable.consistent.doomed live asked _
  | interrupted _ step =>
    cases step with
    | fault live asked =>
      obtain rfl : _ = session := by simpa using still
      exact reachable.consistent.doomed live asked _
  | dropped step =>
    cases step with
    | rollback => simp at still

end Fails

variable {before began failing stopped after : Ledger} {attempt : Attempt}
  {earlier last later : List (Label sql Attempt Operator)}

/-- Wherever an attempt fails, the tables, the answers and everybody else are as in the run without
it; where only the attempt has run, the tables are as before.  There is no other way to fail: an
error is never what a handler commits. -/
theorem failed_attempts_leave_nothing (reachable : before.Reachable platform)
    (begins : Ledger.Step platform before (.begin id attempt) began)
    (runs : Ledger.Run platform began earlier failing)
    (fails : Fails platform id failing last stopped)
    (goesOn : Ledger.Run platform stopped later after) :
    (∀ ledger : Ledger, ledger.Reachable platform → Successful ledger) ∧
    Label.commit id ∉ earlier ++ last ++ later ∧
    (∃ alone, Ledger.Run platform before (others id (earlier ++ last ++ later)) alone ∧
      alone.store = after.store ∧ alone.reference = after.reference ∧
      alone.history = after.history ∧ alone.sessions id = none ∧
      ∀ other, other ≠ id → alone.sessions other = after.sessions other) ∧
    (others id (earlier ++ last) = [] →
      stopped.store = before.store ∧ stopped.reference = before.reference ∧
        stopped.history = before.history) := by
  have begun : id ∈ began.begun := by
    cases begins with
    | begin => exact List.mem_cons_self
  have unknown : before.without id = before := by
    cases begins with
    | begin _ _ fresh =>
      obtain ⟨configuration, labels, run⟩ := reachable
      apply System.without_of_unknown _ fresh
      cases live : before.sessions id with
      | none => rfl
      | some session => exact absurd (run.live_begun (Ledger.start_idle configuration) live) fresh
  have start : began.without id = before := by
    rw [begins.without_own rfl nofun, unknown]
  have here := (reachable.step begins).run runs
  obtain ⟨session, live⟩ := fails.live
  have notYet := runs.uncommitted begun live
  have doomed := fails.stopped here (runs.begun_subset begun)
  have never := (doomed.run (growingIsolation platform) (here.run fails.run).consistent goesOn
    (fun _ _ => trivial)).1
  have half : Label.commit id ∉ earlier ++ last := by
    simpa using ⟨notYet, fails.uncommitted⟩
  have all : Label.commit id ∉ earlier ++ last ++ later := by
    simpa using ⟨notYet, fails.uncommitted, never⟩
  have first := (runs.trans fails.run).without half
  have whole := ((runs.trans fails.run).trans goesOn).without all
  rw [start] at first whole
  refine ⟨fun ledger reachable => reachable.successful, all,
    ⟨after.without id, whole, rfl, rfl, rfl, by simp, ?_⟩, ?_⟩
  · intro other different
    simp [different]
  · intro alone
    have same := first.eq_of_nil alone
    refine ⟨?_, ?_, ?_⟩
    · rw [← same, System.without_store]
    · rw [← same, System.without_reference]
    · rw [← same, System.without_history]

namespace Sample

def failure (ledger : Ledger) (id : Nat) : Option Failure :=
  match ledger.sessions id with
  | some ⟨_, .fail failure, _, _⟩ => some failure
  | _ => none

theorem failed {ledger : Ledger} {id : Nat} {failed : Failure}
    (found : failure ledger id = some failed) :
    ∃ session, ledger.sessions id = some session ∧ session.rest = .fail failed := by
  unfold failure at found
  split at found
  · next live =>
    cases found
    exact ⟨_, live, rfl⟩
  · cases found

def opened : List Attempt := [account 1 "alice" "EUR" "100.00", account 2 "bob" "EUR" "5.00"]

-- Alice asks for more than she has.
def overdrawn : Attempt := transfer 4 "alice" "pay" 1 2 "300.00"

def begun : Ledger :=
  { (ledger opened).put 100 (some ⟨overdrawn, handle .reference overdrawn, [], []⟩) with
    begun := 100 :: (ledger opened).begun }

theorem begins : Ledger.Step .reference (ledger opened) (.begin 100 overdrawn) begun :=
  .begin 100 overdrawn (by decide +kernel)

-- Alice asks again under the same key, for less.
def corrected : List (Move Attempt) :=
  .finish 100 :: moves 101 (transfer 5 "alice" "pay" 1 2 "30.00") 17 ++ [.finish 101]

end Sample

theorem failed_attempts_leave_nothing_overdrawn :
    ∃ failing after : Ledger,
      Sample.failure failing 100 =
        some (.business "insufficient_funds" "The source account has insufficient funds") ∧
      after.store.transfers.map (fun row => row.sourceAmountMinor.val) = [3000] ∧
      ∃ labels alone, Ledger.Run .reference (Sample.ledger Sample.opened) labels alone ∧
        alone.store = after.store := by
  have evaluated : (Sample.begun.performAll (engine .reference) (handle .reference)
      (List.replicate 11 (.advance 100))).map (fun failing => Sample.failure failing 100) =
        some (some (.business "insufficient_funds" "The source account has insufficient funds")) := by
    decide +kernel
  obtain ⟨failing, performed, reason⟩ := Option.map_eq_some_iff.mp evaluated
  have again : (Sample.begun.performAll (engine .reference) (handle .reference)
      (List.replicate 11 (.advance 100) ++ Sample.corrected)).map (fun after =>
        after.store.transfers.map (fun row => row.sourceAmountMinor.val)) = some [3000] := by
    decide +kernel
  obtain ⟨after, served, amounts⟩ := Option.map_eq_some_iff.mp again
  have known : Sample.begun.Known := (Sample.idle Sample.opened).known.step Sample.begins
  obtain ⟨_, _, runs⟩ := System.performAll_sound known performed
  rw [System.performAll_append] at served
  obtain ⟨middle, first, later⟩ := Option.bind_eq_some_iff.mp served
  obtain rfl : failing = middle := Option.some.inj (performed.symm.trans first)
  obtain ⟨_, _, goesOn⟩ := System.performAll_sound (known.run runs) later
  obtain ⟨session, live, ended⟩ := Sample.failed reason
  obtain ⟨_, _, ⟨alone, run, store, _⟩, _⟩ := failed_attempts_leave_nothing (Sample.reachable _)
    Sample.begins runs (.rejected live ended) goesOn
  exact ⟨failing, after, reason, amounts, _, alone, run, store⟩

end LedgerService
