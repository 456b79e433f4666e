import LedgerService.Rejections

set_option autoImplicit false

namespace LedgerService

open Transaction

section Decisions

def Rejects {α : Type} (result : Except Failure α) : Prop :=
  ∀ failure, result = .error failure → Ordinary failure

variable {α β : Type}

theorem rejects_ok (value : α) : Rejects (.ok value) := by
  intro failure impossible
  cases impossible

theorem Rejects.bind {first : Except Failure α} {next : α → Except Failure β}
    (rejects : Rejects first) (later : ∀ value, Rejects (next value)) :
    Rejects (first >>= next) := by
  intro failure failed
  cases first with
  | error reason => exact rejects failure (by simpa [Bind.bind, Except.bind] using failed)
  | ok value => exact later value failure failed

theorem rejects_demand {condition : Prop} [Decidable condition] {failure : Failure}
    (ordinary : Ordinary failure) : Rejects (demand condition failure) := by
  intro reason failed
  unfold demand at failed
  split at failed
  · cases failed
  · cases failed
    exact ordinary

theorem rejects_orFailure {failure : Failure} (ordinary : Ordinary failure) (value : Option α) :
    Rejects (orFailure failure value) := by
  intro reason failed
  cases value with
  | none =>
    cases failed
    exact ordinary
  | some value => cases failed

theorem rejects_formatAmount (amount : I64) (scale : Nat) : Rejects (formatAmount amount scale) :=
  rejects_orFailure (by decide) _

theorem transferOperation_rejects (preliminary : Preliminary) :
    Rejects (transferOperation preliminary) := by
  intro failure failed
  unfold transferOperation at failed
  split at failed
  · split at failed
    · cases failed
      decide
    · cases failed
  · cases failed

theorem transferMoneyError_ordinary (error : MoneyError) :
    Ordinary (.app (transferMoneyError error)) := by
  cases error <;> decide

theorem moneyError_ordinary (error : MoneyError) : Ordinary (.app (moneyError error)) := by
  cases error <;> decide

theorem rejects_orMoneyError {convert : MoneyError → AppError}
    (ordinary : ∀ error, Ordinary (.app (convert error))) (parsed : Outcome MoneyError I64) :
    Rejects (orMoneyError convert parsed) := by
  intro failure failed
  cases parsed with
  | ok amount => cases failed
  | error error =>
    cases failed
    exact ordinary error
  | panic =>
    cases failed
    decide

theorem transferAmount_rejects (preliminary : Preliminary) (amount : String) :
    Rejects (transferAmount preliminary amount) :=
  (rejects_orFailure (by decide) _).bind fun _ =>
    (rejects_orMoneyError transferMoneyError_ordinary _).bind fun _ =>
      (rejects_demand (by decide)).bind fun _ => rejects_ok _

theorem fromHeaders_rejects (headers : HeaderMap) :
    Rejects (IdempotencyKey.fromHeaders headers) := by
  intro failure failed
  unfold IdempotencyKey.fromHeaders at failed
  repeat' split at failed
  all_goals
    cases failed
    try decide

theorem validateTransferRequest_rejects (platform : Platform) (headers : HeaderMap)
    (request : Option CreateTransferRequest) :
    Rejects (validateTransferRequest platform headers request) :=
  (fromHeaders_rejects headers).bind fun _ =>
    (rejects_orFailure (by decide) _).bind fun _ =>
      (rejects_orFailure (by decide) _).bind fun _ =>
        (rejects_orFailure (by decide) _).bind fun _ =>
          (rejects_demand (by decide)).bind fun _ => rejects_ok _

theorem validateReversalRequest_rejects (platform : Platform) (headers : HeaderMap)
    (transferId : String) : Rejects (validateReversalRequest platform headers transferId) :=
  (fromHeaders_rejects headers).bind fun _ =>
    (rejects_orFailure (by decide) _).bind fun _ => rejects_ok _

theorem validateAccountRequest_rejects (headers : HeaderMap)
    (request : Option CreateAccountRequest) : Rejects (validateAccountRequest headers request) :=
  (fromHeaders_rejects headers).bind fun _ =>
    (rejects_orFailure (by decide) _).bind fun _ =>
      (rejects_orFailure (by decide) _).bind fun _ =>
        (rejects_orMoneyError moneyError_ordinary _).bind fun _ => rejects_ok _

theorem transferAccounts_rejects (clientId : String) (preliminary : Preliminary)
    (request : TransferRequest) (accounts : List LockedAccount) :
    Rejects (transferAccounts clientId preliminary request accounts) :=
  (rejects_demand (by decide)).bind fun _ =>
    (rejects_orFailure (by decide) _).bind fun _ =>
      (rejects_orFailure (by decide) _).bind fun _ =>
        (rejects_demand (by decide)).bind fun _ =>
          (rejects_demand (by decide)).bind fun _ => rejects_ok _

theorem transferBalances_rejects (terms : TransferTerms) (source destination : LockedAccount) :
    Rejects (transferBalances terms source destination) :=
  (rejects_demand (by decide)).bind fun _ =>
    (rejects_orFailure (by decide) _).bind fun _ =>
      (rejects_orFailure (by decide) _).bind fun _ => rejects_ok _

theorem arithmetic_rejects {result : Except ArithmeticError α} :
    Rejects (result.mapError transferArithmeticError) := by
  intro failure failed
  cases result with
  | ok value => cases failed
  | error error =>
    cases failed
    cases error <;> decide

theorem transferCreatedResponse_rejects (ids : NewIds) (request : TransferRequest)
    (amountMinor : I64) (terms : TransferTerms) (source destination : LockedAccount)
    (createdAt : String) :
    Rejects (transferCreatedResponse ids request amountMinor terms source destination createdAt) := by
  unfold transferCreatedResponse
  split
  · exact (rejects_formatAmount _ _).bind fun _ => (rejects_formatAmount _ _).bind fun _ =>
      (rejects_formatAmount _ _).bind fun _ => (rejects_formatAmount _ _).bind fun _ => rejects_ok _
  · exact (rejects_formatAmount _ _).bind fun _ => rejects_ok _

theorem reversalAccounts_rejects (original : OriginalTransfer) (accounts : List LockedAccount) :
    Rejects (reversalAccounts original accounts) :=
  (rejects_demand (by decide)).bind fun _ =>
    (rejects_orFailure (by decide) _).bind fun _ =>
      (rejects_orFailure (by decide) _).bind fun _ =>
        (rejects_demand (by decide)).bind fun _ =>
          (rejects_demand (by decide)).bind fun _ => rejects_ok _

theorem reversalBalances_rejects (original : OriginalTransfer)
    (source destination : LockedAccount) :
    Rejects (reversalBalances original source destination) :=
  (rejects_orFailure (by decide) _).bind fun _ =>
    (rejects_orFailure (by decide) _).bind fun _ => rejects_ok _

theorem reversalCreatedResponse_rejects (ids : NewIds) (originalTransferId : Uuid)
    (original : OriginalTransfer) (source destination : LockedAccount)
    (sourceBalance destinationBalance : I64) (createdAt : String) :
    Rejects (reversalCreatedResponse ids originalTransferId original source destination
      sourceBalance destinationBalance createdAt) :=
  (rejects_formatAmount _ _).bind fun _ => (rejects_formatAmount _ _).bind fun _ =>
    (rejects_formatAmount _ _).bind fun _ => (rejects_formatAmount _ _).bind fun _ =>
      (rejects_formatAmount _ _).bind fun _ => (rejects_formatAmount _ _).bind fun _ => rejects_ok _

theorem accountCreatedResponse_rejects (id : Uuid) (currency : Currency) (balanceMinor : I64) :
    Rejects (accountCreatedResponse id currency balanceMinor) :=
  (rejects_formatAmount _ _).bind fun _ => rejects_ok _

end Decisions

section Rules

variable {platform : Platform} {attempt : Attempt} {failed : Failure → List Lock → Db → Prop}
  {locks : List Lock} {writes : List Write} {db : Db} {β : Type}
  {post : β → List Lock → List Write → Db → Prop}

abbrev Keeps (platform : Platform) (attempt : Attempt) (failed : Failure → List Lock → Db → Prop)
    (locks : List Lock) (writes : List Write) (db : Db)
    (post : β → List Lock → List Write → Db → Prop) (program : Handler β) : Prop :=
  program.Ensures (engine platform) Sound Evolves attempt (fun _ _ _ _ _ => True) failed locks writes
    db post

theorem keeps_send_bind {statement : Statement} {f : statement.Result → Handler β}
    (errors : ∀ configuration later error, Sound configuration later → Evolves locks db later →
      error.Fault ∨ statement.exec platform attempt.started configuration
        ((engine platform).view later writes) = .error error →
      failed (.database error) locks later)
    (answers : ∀ configuration later answer more, Sound configuration later →
      Evolves locks db later →
      statement.exec platform attempt.started configuration
        ((engine platform).view later writes) = .ok (answer, more) →
      Keeps platform attempt failed
        (locks ++ statement.locks ((engine platform).view later writes)) (writes ++ more) later post
          (f answer)) :
    Keeps platform attempt failed locks writes db post ((send statement).bind f) := by
  intro configuration later sound grown _
  exact ⟨trivial, fun error reason => errors configuration later error sound grown reason,
    fun answer more ran => answers configuration later answer more sound grown ran⟩

/-- Knowledge that lasts while the session is under way, and explains every ordinary failure. -/
structure Safe (failed : Failure → List Lock → Db → Prop) (knows : List Lock → Db → Prop) :
    Prop where
  lasts : ∀ {locks more db db'}, locks ⊆ more → Evolves locks db db' → knows locks db →
    knows more db'
  explains : ∀ {failure locks db}, Ordinary failure → knows locks db → failed failure locks db

variable {knows : List Lock → Db → Prop}

namespace Safe

theorem ask_bind (safe : Safe failed knows) (known : knows locks db) {statement : Statement}
    {f : Except DbError statement.Result → Handler β}
    (harmless : ∀ later, Evolves locks db later →
      ¬ statement.Reinserts ((engine platform).view later writes))
    (errors : ∀ later error, knows locks later → Ordinary (.database error) →
      Keeps platform attempt failed locks writes later post (f (.error error)))
    (answers : ∀ configuration later answer more locks', locks ⊆ locks' → knows locks' later →
      statement.exec platform attempt.started configuration
        ((engine platform).view later writes) = .ok (answer, more) →
      Keeps platform attempt failed locks' (writes ++ more) later post (f (.ok answer))) :
    Keeps platform attempt failed locks writes db post ((ask statement).bind f) := by
  intro configuration later sound grown _
  refine ⟨trivial,
    fun error reason => errors later error (safe.lasts (List.Subset.refl _) grown known) ?_,
    fun answer more ran => ?_⟩
  · rcases reason with fault | refused
    · exact .of_fault fault
    · exact exec_error_ordinary (harmless later grown) refused
  · have more_locks := List.subset_append_left locks
      (statement.locks ((engine platform).view later writes))
    exact answers configuration later answer more _ more_locks (safe.lasts more_locks grown known) ran

theorem send_bind (safe : Safe failed knows) (known : knows locks db) {statement : Statement}
    {f : statement.Result → Handler β}
    (harmless : ∀ later, Evolves locks db later →
      ¬ statement.Reinserts ((engine platform).view later writes))
    (answers : ∀ configuration later answer more locks', locks ⊆ locks' → knows locks' later →
      statement.exec platform attempt.started configuration
        ((engine platform).view later writes) = .ok (answer, more) →
      Keeps platform attempt failed locks' (writes ++ more) later post (f answer)) :
    Keeps platform attempt failed locks writes db post ((send statement).bind f) := by
  apply keeps_send_bind
  · intro configuration later error _ grown reason
    apply safe.explains _ (safe.lasts (List.Subset.refl _) grown known)
    rcases reason with fault | refused
    · exact .of_fault fault
    · exact exec_error_ordinary (harmless later grown) refused
  · intro configuration later answer more _ grown ran
    have more_locks := List.subset_append_left locks
      (statement.locks ((engine platform).view later writes))
    exact answers configuration later answer more _ more_locks (safe.lasts more_locks grown known) ran

theorem ofExcept_bind (safe : Safe failed knows) (known : knows locks db) {α : Type}
    {value : Except Failure α} {f : α → Handler β} (rejects : Rejects value)
    (step : ∀ result, value = .ok result →
      Keeps platform attempt failed locks writes db post (f result)) :
    Keeps platform attempt failed locks writes db post ((Program.ofExcept value).bind f) :=
  ensures_ofExcept_bind.mpr
    ⟨fun failure reason => safe.explains (rejects failure reason) known, step⟩

theorem lockAccounts_bind (safe : Safe failed knows) (known : knows locks db) {ids : List Uuid}
    {f : List LockedAccount → Handler β}
    (step : ∀ rows later locks', knows locks' later →
      Keeps platform attempt failed locks' writes later post (f rows)) :
    Keeps platform attempt failed locks writes db post ((lockAccounts ids).bind f) := by
  induction ids generalizing locks db f with
  | nil => exact step [] db locks known
  | cons id rest ih =>
    simp only [lockAccounts, Program.bind_eq, Program.bind_assoc, Program.done_bind]
    apply safe.send_bind known (by simp [Statement.Reinserts])
    intro configuration later row more locks' _ still ran
    have nothing : more = [] := (Prod.mk.inj (Except.ok.inj ran)).2.symm
    rw [nothing, List.append_nil]
    exact ih still fun rows later' locks'' => step _ later' locks''

theorem selectAccountsForUpdate_bind (safe : Safe failed knows) (known : knows locks db)
    {ids : List Uuid} {f : List LockedAccount → Handler β}
    (step : ∀ rows later locks', knows locks' later →
      Keeps platform attempt failed locks' writes later post (f rows)) :
    Keeps platform attempt failed locks writes db post ((selectAccountsForUpdate ids).bind f) :=
  safe.lockAccounts_bind known step

theorem selectExchangeRate_bind (safe : Safe failed knows) (known : knows locks db)
    {source destination : String} {time : Timestamp}
    {f : Except ConfigurationError ExchangeRate → Handler β}
    (step : ∀ result later locks' writes', knows locks' later →
      Rejects (result.mapError transferConfigurationError) →
      Keeps platform attempt failed locks' writes' later post (f result)) :
    Keeps platform attempt failed locks writes db post
      ((selectExchangeRate source destination time).bind f) := by
  simp only [selectExchangeRate, Program.bind_eq, Program.bind_assoc]
  apply safe.ask_bind known (by simp [Statement.Reinserts])
  · intro later error still ordinary
    apply step _ _ _ _ still
    rintro _ ⟨⟩
    exact ordinary
  · intro configuration later rows more locks' _ still _
    rcases rows with _ | ⟨rate, _ | ⟨other, rows⟩⟩
    all_goals
      apply step _ _ _ _ still
      rintro _ ⟨⟩
      try decide

theorem selectFeeRule_bind (safe : Safe failed knows) (known : knows locks db)
    {source destination : String} {time : Timestamp}
    {f : Except ConfigurationError FeeRule → Handler β}
    (step : ∀ result later locks' writes', knows locks' later →
      Rejects (result.mapError transferConfigurationError) →
      Keeps platform attempt failed locks' writes' later post (f result)) :
    Keeps platform attempt failed locks writes db post
      ((selectFeeRule source destination time).bind f) := by
  simp only [selectFeeRule, Program.bind_eq, Program.bind_assoc]
  apply safe.ask_bind known (by simp [Statement.Reinserts])
  · intro later error still ordinary
    apply step _ _ _ _ still
    rintro _ ⟨⟩
    exact ordinary
  · intro configuration later rows more locks' _ still _
    rcases rows with _ | ⟨rule, _ | ⟨other, rows⟩⟩
    · rw [Program.bind_assoc]
      apply safe.ask_bind still (by simp [Statement.Reinserts])
      · intro later' error still' ordinary
        apply step _ _ _ _ still'
        rintro _ ⟨⟩
        exact ordinary
      · intro configuration' later' rows' more' locks'' _ still' _
        rcases rows' with _ | ⟨rule, _ | ⟨other, rows⟩⟩
        all_goals
          apply step _ _ _ _ still'
          rintro _ ⟨⟩
          try decide
    all_goals
      apply step _ _ _ _ still
      rintro _ ⟨⟩
      try decide

theorem selectFxConfiguration_bind (safe : Safe failed knows) (known : knows locks db)
    {operationType : OperationType} {preliminary : Preliminary} {time : Timestamp}
    {f : Option (ExchangeRate × FeeRule) → Handler β}
    (step : ∀ result later locks' writes', knows locks' later →
      Keeps platform attempt failed locks' writes' later post (f result)) :
    Keeps platform attempt failed locks writes db post
      ((selectFxConfiguration operationType preliminary time).bind f) := by
  unfold selectFxConfiguration
  split
  · simp only [Program.bind_eq, Program.bind_assoc]
    apply safe.selectExchangeRate_bind known
    intro rate later locks' writes' still rejects
    apply safe.ofExcept_bind still rejects
    intro _ _
    apply safe.selectFeeRule_bind still
    intro rule later' locks'' writes'' still' rejects'
    apply safe.ofExcept_bind still' rejects'
    intro _ _
    exact step _ _ _ _ still'
  · exact step none db locks writes known

theorem post_bind (safe : Safe failed knows) (known : knows locks db) {posting : Posting}
    {f : String → Handler β}
    (harmless : ∀ later, Evolves locks db later →
      ¬ (Statement.insertTransfer posting.transfer).Reinserts ((engine platform).view later writes))
    (step : ∀ createdAt later locks' writes', knows locks' later →
      Keeps platform attempt failed locks' writes' later post (f createdAt)) :
    Keeps platform attempt failed locks writes db post ((LedgerService.post posting).bind f) := by
  simp only [LedgerService.post, Program.bind_eq, Program.bind_assoc]
  apply safe.send_bind known harmless
  intro _ _ createdAt _ _ _ known₁ _
  apply safe.send_bind known₁ (by simp [Statement.Reinserts])
  intro _ _ _ _ _ _ known₂ _
  apply safe.send_bind known₂ (by simp [Statement.Reinserts])
  intro _ _ _ _ _ _ known₃ _
  apply safe.send_bind known₃ (by simp [Statement.Reinserts])
  intro _ _ _ _ _ _ known₄ _
  apply safe.send_bind known₄ (by simp [Statement.Reinserts])
  intro _ _ _ _ _ _ known₅ _
  exact step createdAt _ _ _ known₅

theorem storeSuccess_bind (safe : Safe failed knows) (known : knows locks db) {scope : Scope}
    {httpStatus : Int} {responseBody : Value} {resource : Uuid} {f : Unit → Handler β}
    (step : ∀ later locks' writes', knows locks' later →
      Keeps platform attempt failed locks' writes' later post (f ())) :
    Keeps platform attempt failed locks writes db post
      ((storeSuccess scope httpStatus responseBody resource).bind f) := by
  simp only [storeSuccess, Program.bind_eq, Program.bind_assoc]
  apply safe.send_bind known (by simp [Statement.Reinserts])
  intro _ _ _ _ _ _ known' _
  exact step _ _ _ known'

end Safe

end Rules

end LedgerService
