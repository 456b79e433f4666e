import LedgerService.Correspondence
import LedgerService.Provenance
import LedgerService.Transaction.Guarantee

set_option autoImplicit false

namespace LedgerService

open Transaction

def alreadyReversed : Failure :=
  .business "transfer_already_reversed" "The transfer has already been reversed"

/-- All failures but three: the panics on incomplete records, and the index on second reversals. -/
def Ordinary (failure : Failure) : Prop :=
  failure ≠ incompleteRecord ∧ failure ≠ incompleteReservation ∧
    failure ≠ .database (.uniqueViolation "transfers_single_reversal")

instance (failure : Failure) : Decidable (Ordinary failure) :=
  inferInstanceAs (Decidable (_ ∧ _ ∧ _))

/-- The database can store a reservation of this key: clock, retention and texts are in range. -/
def Attempt.Reservable (platform : Platform) (attempt : Attempt) (scope : Scope)
    (fingerprint : String) : Prop :=
  ∃ retention expiresAt, I64.tryFrom platform.idempotencyRetention = some retention ∧
    platform.expiresAt attempt.started retention = some expiresAt ∧
    firstViolation (recordChecks platform
      (reservation attempt.started expiresAt scope fingerprint)) = .ok ()

structure Attempt.MayReverse (platform : Platform) (attempt : Attempt) (began : Db)
    (original : Transfer) : Prop where
  asked : ∃ text, attempt.request = .reverseTransfer text ∧
    platform.parseUuid text = some original.id
  found : began.transfer? original.id = some original
  kind : original.kind ≠ .reversal
  owner : ∃ account, began.account? original.destinationAccountId = some account ∧
    account.ownerId = attempt.clientId

section Reasons

variable (platform : Platform) (attempt : Attempt) (began : Db)

/-- How a request fails whose scope and fingerprint were known when it began. -/
inductive Rejected (scope : Scope) (fingerprint : String) (locks : List Lock) (db : Db) :
    Failure → Prop
  | interrupted (text : String) : Rejected scope fingerprint locks db (.database (.failure text))
  | unreservable {failure : Failure}
      (refused : ¬ attempt.Reservable platform scope fingerprint) :
      Rejected scope fingerprint locks db failure
  | conflict {row : IdempotencyRecord} (found : db.record? scope = some row)
      (other : row.requestFingerprint ≠ fingerprint) :
      Rejected scope fingerprint locks db (.app .idempotencyConflict)
  | owner {failure : Failure} (held : Held locks (.idempotencyRecord scope))
      (unused : db.record? scope = none)
      (reversal : ∀ original, attempt.MayReverse platform began original →
        failure = alreadyReversed ∨ (∃ text, failure = .database (.failure text)) ∨
        (⟨.transfer original.id, .update⟩ ∈ locks ∧ db.reversed original.id = false)) :
      Rejected scope fingerprint locks db failure

structure Refused (failure : Failure) (locks : List Lock) (db : Db) : Prop where
  ordinary : Ordinary failure
  rejected : ∀ scope fingerprint, attempt.identity platform began = some (scope, fingerprint) →
    Rejected platform attempt began scope fingerprint locks db failure

end Reasons

section Stability

variable {platform : Platform} {attempt : Attempt} {began db db' : Db} {locks : List Lock}
  {failure : Failure}

theorem Rejected.evolve {scope : Scope} {fingerprint : String} (evolves : Evolves locks db db')
    (rejected : Rejected platform attempt began scope fingerprint locks db failure) :
    Rejected platform attempt began scope fingerprint locks db' failure := by
  cases rejected with
  | interrupted text => exact .interrupted text
  | unreservable refused => exact .unreservable refused
  | conflict found other => exact .conflict (evolves.record _ _ found) other
  | owner held unused reversal =>
    refine .owner held (by rw [evolves.recordHeld _ held, unused]) fun original may => ?_
    rcases reversal original may with already | interrupted | ⟨locked, first⟩
    · exact .inl already
    · exact .inr (.inl interrupted)
    · exact .inr (.inr ⟨locked, by rw [evolves.reversedHeld _ (.inl locked), first]⟩)

theorem Refused.evolve (evolves : Evolves locks db db')
    (refused : Refused platform attempt began failure locks db) :
    Refused platform attempt began failure locks db' :=
  ⟨refused.ordinary, fun scope fingerprint identity =>
    (refused.rejected scope fingerprint identity).evolve evolves⟩

end Stability

structure Sound (configuration : Configuration) (db : Db) : Prop where
  keyed : Keyed db
  corresponding : Corresponding db
  provenance : Provenance configuration db

theorem Ledger.Reachable.sound {platform : Platform} {ledger : Ledger}
    (reachable : ledger.Reachable platform) : Sound ledger.reference ledger.store :=
  ⟨reachable.keyed, reachable.corresponding, reachable.provenance⟩

section Errors

theorem firstViolation_error {checks : List (Bool × DbError)} {error : DbError}
    (violated : firstViolation checks = .error error) : (false, error) ∈ checks := by
  induction checks with
  | nil => cases violated
  | cons check rest ih =>
    obtain ⟨holds, reason⟩ := check
    cases holds with
    | true => exact List.mem_cons_of_mem _ (ih (by simpa [firstViolation] using violated))
    | false =>
      have same : reason = error := by simpa [firstViolation] using violated
      simp [same]

theorem checked_eq_error {α : Type} {checks : List (Bool × DbError)} {value : α} {error : DbError} :
    (firstViolation checks).map (fun _ => value) = .error error ↔
      firstViolation checks = .error error := by
  cases checked : firstViolation checks <;> simp [Except.map]

variable {platform : Platform} {now : Timestamp} {configuration : Configuration} {db : Db}

theorem Ordinary.of_fault {error : DbError} (fault : error.Fault) : Ordinary (.database error) := by
  obtain ⟨text, rfl⟩ := fault
  simp [Ordinary, incompleteRecord, incompleteReservation, Failure.database]

theorem Ordinary.of_ne {error : DbError}
    (other : error ≠ .uniqueViolation "transfers_single_reversal") : Ordinary (.database error) := by
  simpa [Ordinary, incompleteRecord, incompleteReservation, Failure.database] using other

def Statement.Reinserts (db : Db) (statement : Statement) : Prop :=
  ∃ values original, statement = .insertTransfer values ∧
    values.reversesTransferId = some original ∧ db.reversed original = true

theorem recordChecks_ordinary {row : IdempotencyRecord} {error : DbError}
    (violated : firstViolation (recordChecks platform row) = .error error) :
    Ordinary (.database error) := by
  have member := firstViolation_error violated
  apply Ordinary.of_ne
  rintro rfl
  simp [recordChecks] at member

theorem exec_error_ordinary {statement : Statement} {error : DbError}
    (harmless : ¬ statement.Reinserts db)
    (ran : statement.exec platform now configuration db = .error error) :
    Ordinary (.database error) := by
  -- Only a second reversal violates the index on reversals.
  cases statement with
  | insertRecord scope fingerprint retention =>
    simp only [Statement.exec, insertRecord] at ran
    split at ran
    · cases ran
      decide
    · exact recordChecks_ordinary (checked_eq_error.mp ran)
  | insertAccount values =>
    have member := firstViolation_error (checked_eq_error.mp ran)
    apply Ordinary.of_ne
    rintro rfl
    simp [accountChecks] at member
  | insertTransfer values =>
    simp only [Statement.exec, insertTransfer] at ran
    split at ran
    · rename_i bad cast
      cases ran
      unfold castRate at cast
      split at cast
      · cases cast
      · split at cast
        · cases cast
        · cases cast
          decide
    · rename_i rate cast
      have member := firstViolation_error (checked_eq_error.mp ran)
      apply Ordinary.of_ne
      rintro rfl
      simp only [transferChecks, List.mem_cons, Prod.mk.injEq, reduceCtorEq, and_false, false_or,
        DbError.uniqueViolation.injEq, String.reduceEq, List.not_mem_nil, or_false,
        and_true] at member
      cases reverses : values.reversesTransferId with
      | none => simp [TransferValues.row, reverses] at member
      | some original =>
        apply harmless
        refine ⟨values, original, rfl, reverses, ?_⟩
        simpa [TransferValues.row, reverses] using member.symm
  | updateAccount balance id =>
    simp only [Statement.exec, updateAccount] at ran
    split at ran
    · cases ran
    · split at ran
      · cases ran
        decide
      · cases ran
  | insertEntry values =>
    have member := firstViolation_error (checked_eq_error.mp ran)
    apply Ordinary.of_ne
    rintro rfl
    simp [entryChecks] at member
  | updateRecord scope status body resource =>
    simp only [Statement.exec, updateRecord] at ran
    split at ran
    · cases ran
    · exact recordChecks_ordinary (checked_eq_error.mp ran)
  | _ => cases ran

end Errors

end LedgerService
