import LedgerService.Metrics
import LedgerService.Reference
import LedgerService.Transaction.Signalling

set_option autoImplicit false

/-!
# The terminal outcome of a financial write

A handler may end at any of its awaits and by a panic between them.  Whatever it has not reported by
then is left to the destructor of its observation.
-/

namespace LedgerService

open Transaction

/-- Each record is written as the series that it counts in; a duration counts in `_count`. -/
structure TransactionObservation where
  operation : FinancialOperation
  completed : Bool

namespace TransactionObservation

def started (operation : FinancialOperation) : TransactionObservation := ⟨operation, false⟩

def idempotency (observation : TransactionObservation) (outcome : IdempotencyOutcome) :
    List Series :=
  [.idempotencyOutcomes observation.operation outcome]

def complete (observation : TransactionObservation) (outcome : TerminalOutcome)
    (reason : FinancialReason) : TransactionObservation × List Series :=
  if observation.completed then (observation, [])
  else
    ({ observation with completed := true },
      [.operations observation.operation outcome reason,
        .transactionDuration observation.operation outcome .count])

def reject (observation : TransactionObservation) (error : AppError) :
    TransactionObservation × List Series :=
  let (outcome, reason) := error.financialMetricOutcome
  observation.complete outcome reason

def drop (observation : TransactionObservation) : List Series :=
  if observation.completed then []
  else (observation.complete .internalError .internalError).2

end TransactionObservation

def recordOperationWithoutTransaction (operation : FinancialOperation) (outcome : TerminalOutcome)
    (reason : FinancialReason) : List Series :=
  [.operations operation outcome reason]

def recordTransferPoolAcquire (outcome : PoolAcquireOutcome) : List Series :=
  [.poolAcquireDuration outcome .count]

def Signal.record (observation : Option TransactionObservation) : Signal → List Series
  | .poolAcquire outcome => recordTransferPoolAcquire outcome
  | .operationWithoutTransaction operation outcome reason =>
      recordOperationWithoutTransaction operation outcome reason
  | .started _ => []
  | .idempotency outcome =>
      match observation with
      | some observation => observation.idempotency outcome
      | none => []

/-- What an await comes to; a dropped future is not polled again. -/
inductive Awaited (α : Type) where
  | ready (value : α)
  | panicked
  | dropped

/-- What happens to one attempt, step by step. -/
structure Fate where
  answer : Nat → (statement : Statement) → Awaited (Except DbError statement.Result)
  -- A panic of the code before the step.
  panics : Nat → Bool
  commit : Awaited (Except DbError Unit)
  rollback : Awaited (Except DbError Unit)

inductive Ending where
  | returned (reply : Reply)
  | panicked
  | dropped

structure Execution where
  -- The operation of the observation, once there is one.
  observed : Option FinancialOperation
  recorded : List Series
  -- Whether `transaction.commit()` returned `Ok`.
  committed : Bool
  ending : Ending

namespace Execution

def operations (execution : Execution) :
    List (FinancialOperation × TerminalOutcome × FinancialReason) :=
  execution.recorded.filterMap fun
    | .operations operation outcome reason => some (operation, outcome, reason)
    | _ => none

def durations (execution : Execution) : List (FinancialOperation × TerminalOutcome) :=
  execution.recorded.filterMap fun
    | .transactionDuration operation outcome _ => some (operation, outcome)
    | _ => none

def idempotencyOutcomes (execution : Execution) : List (FinancialOperation × IdempotencyOutcome) :=
  execution.recorded.filterMap fun
    | .idempotencyOutcomes operation outcome => some (operation, outcome)
    | _ => none

def after (before : List Series) (execution : Execution) : Execution :=
  { execution with recorded := before ++ execution.recorded }

end Execution

section Execute

variable (observation : Option TransactionObservation)

/-- The future is dropped, by its owner or by unwinding, and the observation with it. -/
def abandon (ending : Ending) : Execution where
  observed := observation.map (·.operation)
  recorded :=
    match observation with
    | some observation => observation.drop
    | none => []
  committed := false
  ending := ending

/-- The handler returns; its observation is completed before it is dropped. -/
def leave (complete : TransactionObservation → TransactionObservation × List Series)
    (committed : Bool) (reply : Reply) : Execution where
  observed := observation.map (·.operation)
  recorded :=
    match observation with
    | some observation =>
        let (observation, recorded) := complete observation
        recorded ++ observation.drop
    | none => []
  committed := committed
  ending := .returned reply

def closeWithCommit (reply : Reply) : Awaited (Except DbError Unit) → Execution
  | .ready (.ok _) => leave observation (·.complete .success .none) true reply
  | .ready (.error error) =>
      let error : AppError := .internal (.database error)
      leave observation (·.reject error) false (.error (.app error))
  | .panicked => abandon observation .panicked
  | .dropped => abandon observation .dropped

/-- Before there is an observation, an error is returned with no rollback to wait for. -/
def closeWithRollback (error : AppError) (rollback : Awaited (Except DbError Unit)) : Execution :=
  match observation, rollback with
  | none, _ => leave none (·.reject error) false (.error (.app error))
  | some observation, .ready _ => leave observation (·.reject error) false (.error (.app error))
  | some observation, .panicked => abandon observation .panicked
  | some observation, .dropped => abandon observation .dropped

end Execute

/-- One attempt at a financial write, with all that it records.  Making an observation cannot panic,
and neither can the other records that are made without one. -/
def execute (fate : Fate) : Nat → Option TransactionObservation → Handler Reply → Execution
  | step, observation, .done reply =>
      if fate.panics step then abandon observation .panicked
      else closeWithCommit observation reply fate.commit
  | _, observation, .fail (.panic _) => abandon observation .panicked
  | step, observation, .fail (.app error) =>
      if fate.panics step then abandon observation .panicked
      else closeWithRollback observation error fate.rollback
  | step, _, .signal (.started operation) rest =>
      execute fate (step + 1) (some (.started operation)) rest
  | step, observation, .signal sent rest =>
      if observation.isSome && fate.panics step then abandon observation .panicked
      else (execute fate (step + 1) observation rest).after (sent.record observation)
  | step, observation, .query statement next =>
      match fate.answer step statement with
      | .ready answer => execute fate (step + 1) observation (next answer)
      | .panicked => abandon observation .panicked
      | .dropped => abandon observation .dropped

/-- The outcome that an ending calls for. -/
def Execution.terminal (execution : Execution) : Option (TerminalOutcome × FinancialReason) :=
  match execution.committed, execution.ending with
  | true, .returned (.ok _) => some (.success, .none)
  | false, .returned (.error (.app error)) => some error.financialMetricOutcome
  | false, .panicked | false, .dropped => some (.internalError, .internalError)
  | _, _ => none

/-- The operation and its duration are recorded once, with the outcome that the ending calls for. -/
structure Execution.Reports (execution : Execution) (operation : FinancialOperation) (most : Nat) :
    Prop where
  observed : execution.observed = some operation
  terminal : ∃ outcome reason, execution.terminal = some (outcome, reason) ∧
    execution.operations = [(operation, outcome, reason)] ∧
    execution.durations = [(operation, outcome)] ∧
    (outcome = .success ↔ execution.committed = true)
  idempotency : ∃ outcomes : List IdempotencyOutcome,
    execution.idempotencyOutcomes = outcomes.map (operation, ·) ∧
      outcomes.length ≤ most

theorem financialMetricOutcome_ne_success (error : AppError) :
    error.financialMetricOutcome.1 ≠ .success := by
  cases error <;> simp [AppError.financialMetricOutcome]

section Closing

variable {observation : TransactionObservation} {most : Nat}

theorem abandon_reports (pending : observation.completed = false) {ending : Ending}
    (early : ending = .panicked ∨ ending = .dropped) :
    (abandon (some observation) ending).Reports observation.operation most where
  observed := rfl
  terminal := by
    refine ⟨.internalError, .internalError, ?_⟩
    rcases early with rfl | rfl <;>
      simp [abandon, Execution.terminal, Execution.operations, Execution.durations,
        TransactionObservation.drop, TransactionObservation.complete, pending]
  idempotency :=
    ⟨[], by simp [abandon, Execution.idempotencyOutcomes, TransactionObservation.drop,
      TransactionObservation.complete, pending]⟩

theorem leave_reports (pending : observation.completed = false) {outcome : TerminalOutcome}
    {reason : FinancialReason} {committed : Bool} {reply : Reply}
    (called : (leave (some observation) (·.complete outcome reason) committed reply).terminal =
      some (outcome, reason))
    (success : outcome = .success ↔ committed = true) :
    (leave (some observation) (·.complete outcome reason) committed reply).Reports
      observation.operation most where
  observed := rfl
  terminal := by
    refine ⟨outcome, reason, called, ?_⟩
    simp [leave, Execution.operations, Execution.durations, TransactionObservation.drop,
      TransactionObservation.complete, pending, success]
  idempotency :=
    ⟨[], by simp [leave, Execution.idempotencyOutcomes, TransactionObservation.drop,
      TransactionObservation.complete, pending]⟩

theorem rejected_reports (pending : observation.completed = false) (error : AppError) :
    (leave (some observation) (·.reject error) false (.error (.app error))).Reports
      observation.operation most :=
  leave_reports pending rfl
    ⟨fun same => absurd same (financialMetricOutcome_ne_success error), nofun⟩

theorem closeWithCommit_reports (pending : observation.completed = false) (success : Success)
    (commit : Awaited (Except DbError Unit)) :
    (closeWithCommit (some observation) (.ok success) commit).Reports observation.operation most := by
  cases commit with
  | ready result =>
    cases result with
    | ok done => exact leave_reports pending rfl (by simp)
    | error error => exact rejected_reports pending (.internal (.database error))
  | panicked => exact abandon_reports pending (.inl rfl)
  | dropped => exact abandon_reports pending (.inr rfl)

theorem closeWithRollback_reports (pending : observation.completed = false) (error : AppError)
    (rollback : Awaited (Except DbError Unit)) :
    (closeWithRollback (some observation) error rollback).Reports observation.operation most := by
  cases rollback with
  | ready result => exact rejected_reports pending error
  | panicked => exact abandon_reports pending (.inl rfl)
  | dropped => exact abandon_reports pending (.inr rfl)

end Closing

namespace Observing

/-- Under an observation only the outcome of the key is sent, and that once; the state tells whether
it has been. -/
def move : Bool → Signal → Option Bool
  | false, .idempotency _ => some true
  | _, _ => none

def Answers (reply : Reply) (_ : Bool) : Prop := ∃ success, reply = .ok success

def budget (settled : Bool) : Nat := if settled then 0 else 1

end Observing

section Walk

theorem silent_send {statement : Statement} : (send statement).Silent := by
  intro answer
  cases answer <;> trivial

theorem silent_ask {statement : Statement} : (ask statement).Silent := fun _ => trivial

theorem silent_lockAccounts {ids : List Uuid} : (lockAccounts ids).Silent := by
  induction ids with
  | nil => trivial
  | cons id rest ih =>
    exact silent_send.bind fun row => Program.Silent.bind ih fun rows => trivial

theorem silent_selectExchangeRate {source destination : String} {time : Timestamp} :
    (selectExchangeRate source destination time).Silent := by
  apply silent_ask.bind
  rintro (error | _ | ⟨rate, _ | ⟨other, rows⟩⟩) <;> trivial

theorem silent_selectFeeRule {source destination : String} {time : Timestamp} :
    (selectFeeRule source destination time).Silent := by
  apply silent_ask.bind
  rintro (error | _ | ⟨rule, _ | ⟨other, rows⟩⟩)
  case ok.nil =>
    apply silent_ask.bind
    rintro (error | _ | ⟨rule, _ | ⟨other, rows⟩⟩) <;> trivial
  all_goals trivial

theorem silent_selectFxConfiguration {operationType : OperationType} {preliminary : Preliminary}
    {time : Timestamp} : (selectFxConfiguration operationType preliminary time).Silent := by
  unfold selectFxConfiguration
  split
  · apply silent_selectExchangeRate.bind
    intro rate
    apply Program.silent_ofExcept.bind
    intro rate
    apply silent_selectFeeRule.bind
    intro fee
    exact Program.silent_ofExcept.bind fun fee => trivial
  · trivial

theorem silent_post {posting : Posting} : (post posting).Silent := by
  apply silent_send.bind
  intro createdAt
  iterate 4 refine silent_send.bind fun _ => ?_
  trivial

theorem silent_storeSuccess {scope : Scope} {status : Int} {body : Value} {resource : Uuid} :
    (storeSuccess scope status body resource).Silent :=
  silent_send.bind fun _ => trivial

theorem silent_lockOriginal {clientId : String} {originalTransferId : Uuid} :
    (lockOriginal clientId originalTransferId).Silent := by
  apply silent_send.bind
  intro row
  apply Program.silent_orFail.bind
  intro original
  apply Program.silent_ensure.bind
  intro forward
  apply silent_send.bind
  intro authorized
  apply Program.silent_ensure.bind
  intro mine
  apply silent_send.bind
  intro alreadyReversed
  exact Program.silent_ensure.bind fun _ => trivial

theorem silent_completedSuccess {scope : Scope} : (completedSuccess scope).Silent := by
  apply silent_send.bind
  intro record
  cases record with
  | none => trivial
  | some record =>
    apply Program.silent_orFail.bind
    intro httpStatus
    exact Program.silent_orFail.bind fun responseBody => trivial

theorem silent_reserve {platform : Platform} {scope : Scope} {fingerprint : String} :
    (reserve platform scope fingerprint).Silent := by
  apply Program.silent_orFail.bind
  intro retentionSeconds
  apply silent_send.bind
  intro inserted
  split
  · trivial
  · apply silent_send.bind
    intro found
    apply Program.silent_orFail.bind
    intro record
    split
    · trivial
    · split <;> trivial

theorem replayOrReserve_follows {platform : Platform} {scope : Scope} {fingerprint : String}
    {f : Option Success → Handler Reply}
    (step : ∀ found, (f found).Follows Observing.move true Observing.Answers) :
    ((replayOrReserve platform scope fingerprint).bind f).Follows Observing.move false
      Observing.Answers := by
  have replayed (httpStatus : Int) (responseBody : Value) :
      ((replaySuccess httpStatus responseBody).bind f).Follows Observing.move false
        Observing.Answers := by
    simp only [replaySuccess, Program.bind_eq, Program.bind_assoc]
    exact ⟨_, rfl, Program.silent_ofExcept.follows_bind fun status => step _⟩
  have conflicting : (rejectConflict.bind f).Follows Observing.move false
      Observing.Answers := ⟨_, rfl, trivial⟩
  simp only [replayOrReserve, Program.bind_eq, Program.bind_assoc]
  apply silent_completedSuccess.follows_bind
  intro found
  rcases found with _ | ⟨storedFingerprint, httpStatus, responseBody⟩
  case some =>
    simp only
    split
    · exact conflicting
    · exact replayed httpStatus responseBody
  case none =>
    simp only [replayReserved, Program.bind_eq, Program.bind_assoc]
    apply silent_reserve.follows_bind
    intro reservation
    cases reservation with
    | owned => exact ⟨_, rfl, step none⟩
    | replay httpStatus responseBody => exact replayed httpStatus responseBody
    | conflict => exact conflicting

theorem performTransfer_follows {clientId : String} {ids : NewIds} {scope : Scope}
    {preliminary : Preliminary} {request : TransferRequest} {amountMinor : I64} :
    (performTransfer clientId ids scope preliminary request amountMinor).Follows Observing.move true
      Observing.Answers := by
  apply silent_send.follows_bind
  intro operationTime
  apply silent_selectFxConfiguration.follows_bind
  intro fxConfiguration
  apply Program.Silent.follows_bind silent_lockAccounts
  intro accounts
  apply Program.silent_ofExcept.follows_bind
  rintro ⟨source, destination⟩
  apply Program.silent_ofExcept.follows_bind
  intro terms
  apply Program.silent_ofExcept.follows_bind
  rintro ⟨sourceBalance, destinationBalance⟩
  apply silent_post.follows_bind
  intro createdAt
  apply Program.silent_ofExcept.follows_bind
  intro responseBody
  apply silent_storeSuccess.follows_bind
  intro _
  exact ⟨_, rfl⟩

theorem performReversal_follows {clientId : String} {ids : NewIds} {scope : Scope}
    {originalTransferId : Uuid} :
    (performReversal clientId ids scope originalTransferId).Follows Observing.move true
      Observing.Answers := by
  apply silent_lockOriginal.follows_bind
  intro original
  apply Program.Silent.follows_bind silent_lockAccounts
  intro accounts
  apply Program.silent_ofExcept.follows_bind
  rintro ⟨source, destination⟩
  apply Program.silent_ofExcept.follows_bind
  rintro ⟨sourceBalance, destinationBalance⟩
  apply silent_post.follows_bind
  intro createdAt
  apply Program.silent_ofExcept.follows_bind
  intro responseBody
  apply silent_storeSuccess.follows_bind
  intro _
  exact ⟨_, rfl⟩

end Walk

/-- Nothing is recorded of an operation that is not classified. -/
structure Execution.Unreported (execution : Execution) : Prop where
  observed : execution.observed = none
  operations : execution.operations = []
  durations : execution.durations = []
  idempotency : execution.idempotencyOutcomes = []

section Executions

variable {fate : Fate} {step : Nat} {program : Handler Reply} {operation : FinancialOperation}

theorem Execution.Reports.after_idempotency {execution : Execution}
    (reports : execution.Reports operation 0) (outcome : IdempotencyOutcome) :
    (execution.after [.idempotencyOutcomes operation outcome]).Reports operation 1 where
  observed := reports.observed
  terminal := reports.terminal
  idempotency := by
    obtain ⟨outcomes, same, short⟩ := reports.idempotency
    exact ⟨outcome :: outcomes, congrArg (_ :: ·) same, by simpa using short⟩

theorem Execution.Reports.after_poolAcquire {execution : Execution} {most : Nat}
    (reports : execution.Reports operation most) (outcome : PoolAcquireOutcome) :
    (execution.after (recordTransferPoolAcquire outcome)).Reports operation most :=
  ⟨reports.observed, reports.terminal, reports.idempotency⟩

theorem Execution.Unreported.after_poolAcquire {execution : Execution}
    (unreported : execution.Unreported) (outcome : PoolAcquireOutcome) :
    (execution.after (recordTransferPoolAcquire outcome)).Unreported :=
  ⟨unreported.observed, unreported.operations, unreported.durations, unreported.idempotency⟩

theorem execute_observing {settled : Bool}
    (follows : program.Follows Observing.move settled Observing.Answers) :
    (execute fate step (some (.started operation)) program).Reports operation
      (Observing.budget settled) := by
  -- By induction on the program: the state bounds what is left to be recorded.
  induction program generalizing step settled with
  | done reply =>
    obtain ⟨success, rfl⟩ := follows
    simp only [execute]
    split
    · exact abandon_reports rfl (.inl rfl)
    · exact closeWithCommit_reports rfl success fate.commit
  | fail failure =>
    cases failure with
    | panic message => exact abandon_reports rfl (.inl rfl)
    | app error =>
      simp only [execute]
      split
      · exact abandon_reports rfl (.inl rfl)
      · exact closeWithRollback_reports rfl error fate.rollback
  | signal sent rest ih =>
    obtain ⟨next, moved, follows⟩ := follows
    cases settled <;> cases sent <;> cases moved
    case signal.false.idempotency.refl outcome =>
      simp only [execute]
      split
      · exact abandon_reports rfl (.inl rfl)
      · exact (ih follows).after_idempotency outcome
  | query statement next ih =>
    simp only [execute]
    cases fate.answer step statement with
    | ready answer => exact ih answer (follows answer)
    | panicked => exact abandon_reports rfl (.inl rfl)
    | dropped => exact abandon_reports rfl (.inr rfl)

def OperationType.observed (operationType : OperationType) : FinancialOperation :=
  if operationType = .transfer then .transfer else .fxTransfer

/-- A transfer is classified: it is valid, it has a connection and a transaction, and the query of
its two accounts is answered with a row that tells the operation. -/
structure Classified (platform : Platform) (headers : HeaderMap)
    (body : Option CreateTransferRequest) (fate : Fate) (operationType : OperationType) : Prop where
  connected : fate.answer 0 .acquire = .ready (.ok ())
  begun : fate.answer 2 .begin = .ready (.ok ())
  operation : ∃ request preliminary, validateTransferRequest platform headers body = .ok request ∧
    fate.answer 3 (.selectPreliminary request.sourceAccountId request.destinationAccountId) =
      .ready (.ok (some preliminary)) ∧
    transferOperation preliminary = .ok operationType

section Classification

variable {platform : Platform} {clientId : String} {headers : HeaderMap}
  {body : Option CreateTransferRequest} {ids : NewIds} {operationType : OperationType}

theorem Classified.reports (classified : Classified platform headers body fate operationType) :
    (execute fate 0 none (createTransfer platform clientId headers body ids)).Reports
      operationType.observed 1 := by
  obtain ⟨connected, begun, request, preliminary, valid, found, known⟩ := classified
  simp only [createTransfer, acquireConnection, ask, send, valid, known, connected, begun, found,
    Program.ofExcept, Program.emit, Program.orFail, Program.bind_eq, Program.query_bind,
    Program.signal_bind, Program.done_bind, execute, Option.isSome_none, Bool.false_and,
    Bool.false_eq_true, if_false]
  apply Execution.Reports.after_poolAcquire
  change (execute fate 5 (some (.started operationType.observed)) _).Reports _
    (Observing.budget false)
  apply execute_observing
  apply Program.silent_ofExcept.follows_bind
  intro amountMinor
  apply replayOrReserve_follows
  intro replayed
  cases replayed with
  | some success => exact ⟨_, rfl⟩
  | none => exact performTransfer_follows

theorem execute_fail_unreported {failure : Failure} :
    (execute fate step none (.fail failure)).Unreported := by
  cases failure with
  | panic message => exact ⟨rfl, rfl, rfl, rfl⟩
  | app error =>
    simp only [execute]
    split <;> exact ⟨rfl, rfl, rfl, rfl⟩

theorem execute_query_unreported {statement : Statement}
    {next : Except DbError statement.Result → Handler Reply}
    (goesOn : ∀ answer, fate.answer step statement = .ready answer →
      (execute fate (step + 1) none (next answer)).Unreported) :
    (execute fate step none (.query statement next)).Unreported := by
  simp only [execute]
  cases answered : fate.answer step statement with
  | ready answer => exact goesOn answer answered
  | panicked | dropped => exact ⟨rfl, rfl, rfl, rfl⟩

theorem execute_send_unreported {statement : Statement} {f : statement.Result → Handler Reply}
    (goesOn : ∀ result, fate.answer step statement = .ready (.ok result) →
      (execute fate (step + 1) none (f result)).Unreported) :
    (execute fate step none ((send statement).bind f)).Unreported := by
  apply execute_query_unreported
  intro answer answered
  cases answer with
  | error error => exact execute_fail_unreported
  | ok result => exact goesOn result answered

theorem unreported_of_unclassified
    (unclassified : ∀ operationType, ¬ Classified platform headers body fate operationType) :
    (execute fate 0 none (createTransfer platform clientId headers body ids)).Unreported := by
  simp only [createTransfer, acquireConnection, ask, Program.bind_eq, Program.bind_assoc]
  cases valid : validateTransferRequest platform headers body with
  | error failure => exact execute_fail_unreported
  | ok request =>
    apply execute_query_unreported
    intro acquired connected
    cases acquired with
    | error error => exact execute_fail_unreported.after_poolAcquire .failure
    | ok connection =>
      apply Execution.Unreported.after_poolAcquire _ .success
      apply execute_send_unreported
      intro transaction begun
      apply execute_send_unreported
      intro row found
      cases row with
      | none => exact execute_fail_unreported
      | some preliminary =>
        simp only [Program.orFail, Program.done_bind]
        cases known : transferOperation preliminary with
        | error failure => exact execute_fail_unreported
        | ok operationType =>
          exact absurd ⟨connected, begun, request, preliminary, valid, found, known⟩
            (unclassified operationType)

end Classification

theorem execute_refused {error : DbError} :
    let execution := (execute fate step none (.fail (.database error))).after
      (recordOperationWithoutTransaction .reversal .internalError .internalError)
    execution.operations = [(.reversal, .internalError, .internalError)] ∧
      execution.durations = [] ∧ execution.idempotencyOutcomes = [] := by
  -- The record is made without an observation, and what follows leaves nothing to be recorded.
  have ended : (execute fate step none (.fail (.database error))).recorded = [] := by
    simp only [Failure.database, execute]
    split <;> rfl
  simp [Execution.operations, Execution.durations, Execution.idempotencyOutcomes, Execution.after,
    recordOperationWithoutTransaction, ended]

end Executions

/-- A transfer that is classified reports one terminal outcome of its operation, however it ends,
and one that is not reports none. So does a reversal from the moment its transaction is begun; where
the database refuses that, the operation is counted without a duration. -/
theorem financial_writes_reported_once (platform : Platform) (fate : Fate) (clientId : String)
    (headers : HeaderMap) (ids : NewIds) :
    (∀ body,
      let execution := execute fate 0 none (createTransfer platform clientId headers body ids)
      (∀ operationType, Classified platform headers body fate operationType →
        execution.Reports operationType.observed 1) ∧
      ((∀ operationType, ¬ Classified platform headers body fate operationType) →
        execution.Unreported)) ∧
    ∀ transferId request, validateReversalRequest platform headers transferId = .ok request →
      let execution := execute fate 0 none (reverseTransfer platform clientId headers transferId ids)
      (fate.answer 0 .begin = .ready (.ok ()) → execution.Reports .reversal 1) ∧
      ∀ error, fate.answer 0 .begin = .ready (.error error) →
        execution.operations = [(.reversal, .internalError, .internalError)] ∧
        execution.durations = [] ∧ execution.idempotencyOutcomes = [] := by
  refine ⟨fun body => ⟨fun operationType classified => classified.reports,
    unreported_of_unclassified⟩, fun transferId request valid => ?_⟩
  simp only [reverseTransfer, valid, Program.ofExcept, beginReversal, ask, Program.bind_eq,
    Program.query_bind, Program.done_bind, execute]
  constructor
  · intro begun
    rw [begun]
    change (execute fate 2 (some (.started .reversal)) _).Reports .reversal
      (Observing.budget false)
    apply execute_observing
    apply replayOrReserve_follows
    intro replayed
    cases replayed with
    | some success => exact ⟨_, rfl⟩
    | none => exact performReversal_follows
  · intro error refused
    rw [refused]
    exact execute_refused

section Commits

variable {fate other : Fate} {step : Nat} {program : Handler Reply}
  {observation : Option TransactionObservation}

theorem execute_congr (answers : ∀ later, step ≤ later → fate.answer later = other.answer later)
    (panics : fate.panics = other.panics) (commit : fate.commit = other.commit)
    (rollback : fate.rollback = other.rollback) :
    execute fate step observation program = execute other step observation program := by
  induction program generalizing step observation with
  | done reply => simp only [execute, panics, commit]
  | fail failure => cases failure <;> simp only [execute, panics, rollback]
  | signal sent rest ih =>
    have next := fun observation => @ih (step + 1) observation fun later after =>
      answers later (Nat.le_of_succ_le after)
    cases sent <;> simp only [execute, panics, next]
  | query statement next ih =>
    simp only [execute, answers step (Nat.le_refl _)]
    cases other.answer step statement with
    | ready answer => exact ih answer fun later after => answers later (Nat.le_of_succ_le after)
    | panicked => rfl
    | dropped => rfl

/-- A fate in which nothing fails once the transaction is to be committed. -/
structure Fate.Smooth (fate : Fate) : Prop where
  panics : fate.panics = fun _ => false
  commit : fate.commit = .ready (.ok ())
  rollback : fate.rollback = .ready (.ok ())

open Classical in
-- The statement is answered at this step, and then everything goes on as before.
noncomputable def Fate.answering (fate : Fate) (step : Nat) (statement : Statement)
    (answer : statement.Result) : Fate :=
  { fate with
    answer := fun later =>
      if later = step then fun asked =>
        if same : asked = statement then .ready (.ok (same ▸ answer)) else .dropped
      else fate.answer later }

variable {E : Engine sql Attempt Db Configuration Write Lock Operator}
  {older : Configuration → Configuration → Prop} {attempt : Attempt} {configuration : Configuration}
  {db : Db} {reply : Reply} {writes final : List Write}

theorem executes_of_commits
    (commits : program.Commits E older attempt configuration db writes reply final) :
    ∃ fate : Fate, fate.Smooth ∧ (execute fate step observation program).committed = true ∧
      (execute fate step observation program).ending = .returned reply := by
  induction program generalizing step observation writes with
  | done value =>
    obtain ⟨rfl, _⟩ := commits
    exact ⟨⟨fun _ _ => .dropped, fun _ => false, .ready (.ok ()), .ready (.ok ())⟩, ⟨rfl, rfl, rfl⟩,
      rfl, rfl⟩
  | fail failure => exact commits.elim
  | signal sent rest ih =>
    cases sent
    case started operation =>
      obtain ⟨fate, smooth, ended⟩ := @ih (step + 1) (some (.started operation)) writes commits
      exact ⟨fate, smooth, ended⟩
    all_goals
      obtain ⟨fate, smooth, ended⟩ := @ih (step + 1) observation writes commits
      refine ⟨fate, smooth, ?_⟩
      simp only [execute, smooth.panics, Bool.and_false, Bool.false_eq_true, if_false]
      exact ended
  | query statement next ih =>
    obtain ⟨seen, answer, more, _, _, later⟩ := commits
    obtain ⟨fate, smooth, committed, ending⟩ := @ih (.ok answer) (step + 1) observation _ later
    have continued : execute (fate.answering step statement answer) step observation
        (.query statement next) = execute fate (step + 1) observation (next (.ok answer)) := by
      simp only [execute, Fate.answering, if_true, dif_pos]
      apply execute_congr
      · intro later after
        simp only [if_neg (Nat.ne_of_gt after)]
      all_goals rfl
    exact ⟨fate.answering step statement answer, ⟨smooth.panics, smooth.commit, smooth.rollback⟩,
      by rw [continued]; exact committed, by rw [continued]; exact ending⟩

/-- The executions of a handler are those of its sessions: no commit of the ledger is left out. -/
theorem Ledger.Reachable.executes {platform : Platform} {ledger : Ledger}
    (reachable : ledger.Reachable platform) {id : Nat}
    {session : Session sql Attempt Write Lock Reply} {reply : Reply}
    (live : ledger.sessions id = some session) (finished : session.rest = .done reply) :
    ∃ fate, (execute fate 0 none (handle platform session.context)).committed = true ∧
      (execute fate 0 none (handle platform session.context)).ending = .returned reply := by
  have commits := reachable.consistent.commits (growingIsolation platform) live finished
  obtain ⟨fate, _, ended⟩ := @executes_of_commits 0 _ none _ _ _ _ _ _ _ _ commits
  exact ⟨fate, ended⟩

end Commits

-- The request is cancelled while it looks for its key.
def Sample.cancelled : Fate where
  answer
    | _, .acquire => .ready (.ok ())
    | _, .begin => .ready (.ok ())
    | _, .selectPreliminary _ _ => .ready (.ok (some ⟨"EUR", 2, "EUR", 2⟩))
    | _, _ => .dropped
  panics _ := false
  commit := .dropped
  rollback := .dropped

theorem financial_writes_reported_once_cancelled :
    (execute Sample.cancelled 0 none (createTransfer .reference "alice" (Sample.header "pay")
      (some ⟨(Sample.resource 16).hyphenated, (Sample.resource 32).hyphenated, "30.00"⟩)
      ⟨6, 7, 8⟩)).Reports .transfer 1 ∧
    let execution := execute Sample.cancelled 0 none (reverseTransfer .reference "alice"
      (Sample.header "undo") (Sample.resource 64).hyphenated ⟨6, 7, 8⟩)
    execution.Reports .reversal 1 ∧ execution.terminal = some (.internalError, .internalError) := by
  obtain ⟨key, source, destination⟩ :
      IdempotencyKey.fromHeaders (Sample.header "pay") = .ok ⟨"pay", by decide⟩ ∧
      Platform.reference.parseUuid (Sample.resource 16).hyphenated = some (Sample.resource 16) ∧
      Platform.reference.parseUuid (Sample.resource 32).hyphenated = some (Sample.resource 32) := by
    decide +kernel
  have forward : validateTransferRequest .reference (Sample.header "pay")
      (some ⟨(Sample.resource 16).hyphenated, (Sample.resource 32).hyphenated, "30.00"⟩) =
        .ok ⟨⟨"pay", by decide⟩, Sample.resource 16, Sample.resource 32, "30.00"⟩ := by
    simp only [validateTransferRequest, key, source, destination, orFailure, bind, Except.bind]
    rw [demand, if_pos (by decide)]
  obtain ⟨valid, terminal⟩ :
      validateReversalRequest .reference (Sample.header "undo") (Sample.resource 64).hyphenated =
        .ok ⟨⟨"undo", by decide⟩, Sample.resource 64⟩ ∧
      (execute Sample.cancelled 0 none (reverseTransfer .reference "alice" (Sample.header "undo")
        (Sample.resource 64).hyphenated ⟨6, 7, 8⟩)).terminal =
          some (.internalError, .internalError) := by
    decide +kernel
  refine ⟨?_, ?_, terminal⟩
  · exact ((financial_writes_reported_once .reference Sample.cancelled "alice" (Sample.header "pay")
      ⟨6, 7, 8⟩).1 _).1 .transfer ⟨rfl, rfl, _, _, forward, rfl, rfl⟩
  · exact ((financial_writes_reported_once .reference Sample.cancelled "alice" (Sample.header "undo")
      ⟨6, 7, 8⟩).2 _ _ valid).1 rfl

end LedgerService
