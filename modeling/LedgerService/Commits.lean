import LedgerService.Effects

set_option autoImplicit false

namespace LedgerService

open Transaction

def Reservation.Finds (db : Db) (now : Timestamp) (scope : Scope) (fingerprint : String) :
    Reservation → List Write → Prop
  | .owned, added => db.record? scope = none ∧
      ∃ expiresAt, added = [.insertRecord (reservation now expiresAt scope fingerprint)]
  | .replay httpStatus responseBody, added => added = [] ∧
      ∃ row, db.record? scope = some row ∧ row.requestFingerprint = fingerprint ∧
        row.httpStatus = some httpStatus ∧ row.responseBody = some responseBody
  | .conflict, added => added = [] ∧
      ∃ row, db.record? scope = some row ∧ row.requestFingerprint ≠ fingerprint

def Replays (db : Db) (scope : Scope) (fingerprint : String) (success : Success) : Prop :=
  ∃ row httpStatus, db.record? scope = some row ∧ row.requestFingerprint = fingerprint ∧
    row.httpStatus = some httpStatus ∧ row.responseBody = some success.body ∧
    statusCode httpStatus = .ok success.status

structure Posting.Finds (now : Timestamp) (db : Db) (posting : Posting) (rate : Option Numeric)
    (source destination : Account) (sourceVersion destinationVersion : I64) : Prop where
  rate : castRate posting.transfer.exchangeRate = .ok rate
  unused : db.transfer? posting.transfer.id = none
  distinct : posting.transfer.sourceAccountId ≠ posting.transfer.destinationAccountId
  total : 0 < posting.transfer.totalSourceDebitMinor.val
  destinationAmount : 0 < posting.transfer.destinationAmountMinor.val
  sourceFound : db.account? posting.transfer.sourceAccountId = some source
  destinationFound : db.account? posting.transfer.destinationAccountId = some destination
  sourceVersion : sourceVersion.val = source.version.val + 1
  destinationVersion : destinationVersion.val = destination.version.val + 1
  debit : db.entryRow? posting.debit.id = none
  credit : db.entryRow? posting.credit.id = none
  entries : posting.debit.id ≠ posting.credit.id

def Posting.writes (now : Timestamp) (posting : Posting) (rate : Option Numeric)
    (source destination : Account) (sourceVersion destinationVersion : I64) : List Write :=
  [.insertTransfer (posting.transfer.row now rate),
    .replaceAccount (source.update now posting.sourceBalance sourceVersion),
    .replaceAccount (destination.update now posting.destinationBalance destinationVersion),
    .insertEntry (posting.debit.row now), .insertEntry (posting.credit.row now)]

section Parts

variable {platform : Platform} {older : Configuration → Configuration → Prop} {attempt : Attempt}
  {configuration : Configuration} {db : Db} {writes final : List Write}

theorem commits_send {statement : Statement} {result : statement.Result} :
    (send statement).Commits (engine platform) older attempt configuration db writes result final ↔
      ∃ seen more, older seen configuration ∧
        statement.exec platform attempt.started seen ((engine platform).view db writes) =
          .ok (result, more) ∧ writes ++ more = final := by
  unfold send
  rw [Program.commits_query]
  constructor
  · rintro ⟨seen, answer, more, old, ran, rfl, rfl⟩
    exact ⟨seen, more, old, ran, rfl⟩
  · rintro ⟨seen, more, old, ran, rfl⟩
    exact ⟨seen, result, more, old, ran, rfl, rfl⟩

theorem commits_ask {statement : Statement} {result : Except DbError statement.Result} :
    (ask statement).Commits (engine platform) older attempt configuration db writes result final ↔
      ∃ seen answer more, older seen configuration ∧
        statement.exec platform attempt.started seen ((engine platform).view db writes) =
          .ok (answer, more) ∧ .ok answer = result ∧ writes ++ more = final := by
  unfold ask
  rw [Program.commits_query]
  simp only [Program.commits_done]
  rfl

theorem commits_read {statement : Statement} {result answer : statement.Result}
    (commits : (send statement).Commits (engine platform) older attempt configuration db writes
      result final)
    (reads : ∀ seen, statement.exec platform attempt.started seen
      ((engine platform).view db writes) = .ok (answer, [])) :
    answer = result ∧ writes = final := by
  obtain ⟨seen, more, _, ran, rfl⟩ := commits_send.mp commits
  rw [reads seen] at ran
  simp only [Except.ok.injEq, Prod.mk.injEq] at ran
  simp [ran.1, ← ran.2]

theorem selectRecord_commits {scope : Scope} {result : Option StoredSuccess}
    (commits : (send (.selectRecord scope)).Commits (engine platform) older attempt configuration db
      writes result final) :
    (((engine platform).view db writes).record? scope).map (fun row =>
      ⟨row.requestFingerprint, row.httpStatus, row.responseBody⟩) = result ∧ writes = final :=
  commits_read commits fun _ => rfl

theorem reserve_commits {scope : Scope} {fingerprint : String} {result : Reservation}
    (commits : (reserve platform scope fingerprint).Commits (engine platform) older attempt
      configuration db writes result final) :
    ∃ added, writes ++ added = final ∧
      result.Finds ((engine platform).view db writes) attempt.started scope fingerprint added := by
  simp only [reserve, Program.bind_eq, Program.commits_bind, Program.commits_orFail] at commits
  obtain ⟨retention, _, ⟨_, rfl⟩, inserted, between, sent, rest⟩ := commits
  obtain ⟨_, more, _, ran, rfl⟩ := commits_send.mp sent
  obtain ⟨expiresAt, _, _, found⟩ := insertRecord_eq_ok.mp ran
  rcases found with ⟨row, found, rfl, rfl⟩ | ⟨unused, rfl, rfl⟩
  · have lost : ¬ (0 : Nat) = 1 := by decide
    simp only [lost, if_false, Program.commits_bind, Program.commits_orFail, List.append_nil] at rest
    obtain ⟨answer, _, selected, record, _, ⟨rfl, rfl⟩, rest⟩ := rest
    obtain ⟨same, rfl⟩ := selectRecord_commits selected
    simp only [found, Option.map_some, Option.some.injEq] at same
    subst same
    refine ⟨[], ?_⟩
    by_cases equal : row.requestFingerprint = fingerprint
    · simp only [equal, ne_eq, not_true_eq_false, if_false] at rest
      split at rest
      · rename_i httpStatus responseBody status body
        obtain ⟨rfl, rfl⟩ := rest
        exact ⟨by simp, rfl, row, found, equal, status, body⟩
      · exact rest.elim
    · simp only [ne_eq, equal, not_false_eq_true, if_true] at rest
      obtain ⟨rfl, rfl⟩ := rest
      exact ⟨by simp, rfl, row, found, equal⟩
  · simp only [if_true, Program.commits_done] at rest
    obtain ⟨rfl, rfl⟩ := rest
    exact ⟨_, rfl, unused, expiresAt, rfl⟩

theorem replaySuccess_commits {httpStatus : Int} {responseBody : Value} {result : Option Success} :
    (replaySuccess httpStatus responseBody).Commits (engine platform) older attempt configuration db
      writes result final ↔
      ∃ status, statusCode httpStatus = .ok status ∧ some ⟨status, responseBody⟩ = result ∧
        writes = final := by
  simp only [replaySuccess, Program.bind_eq, Program.commits_bind, Program.commits_emit,
    Program.commits_ofExcept, Program.commits_done]
  constructor
  · rintro ⟨_, _, rfl, status, _, ⟨converted, rfl⟩, rfl, rfl⟩
    exact ⟨status, converted, rfl, rfl⟩
  · rintro ⟨status, converted, rfl, rfl⟩
    exact ⟨(), writes, rfl, status, writes, ⟨converted, rfl⟩, rfl, rfl⟩

theorem rejectConflict_commits {result : Option Success} :
    ¬ rejectConflict.Commits (engine platform) older attempt configuration db writes result
      final := by
  simp [rejectConflict, Program.commits_bind]

theorem replayReserved_commits {scope : Scope} {fingerprint : String} {result : Option Success}
    (commits : (replayReserved platform scope fingerprint).Commits (engine platform) older attempt
      configuration db writes result final) :
    (∃ success, result = some success ∧ writes = final ∧
      Replays ((engine platform).view db writes) scope fingerprint success) ∨
    (result = none ∧ ((engine platform).view db writes).record? scope = none ∧
      ∃ expiresAt, writes ++
        [.insertRecord (reservation attempt.started expiresAt scope fingerprint)] = final) := by
  simp only [replayReserved, Program.bind_eq, Program.commits_bind] at commits
  obtain ⟨reserved, _, reserving, rest⟩ := commits
  obtain ⟨added, rfl, finds⟩ := reserve_commits reserving
  cases reserved with
  | owned =>
    obtain ⟨unused, expiresAt, rfl⟩ := finds
    simp only [Program.commits_bind, Program.commits_emit, Program.commits_done] at rest
    obtain ⟨_, _, rfl, rfl, rfl⟩ := rest
    exact .inr ⟨rfl, unused, expiresAt, rfl⟩
  | replay httpStatus responseBody =>
    obtain ⟨rfl, row, found, same, status, body⟩ := finds
    obtain ⟨code, converted, rfl, rfl⟩ := replaySuccess_commits.mp rest
    exact .inl ⟨_, rfl, by simp, row, httpStatus, found, same, status, body, converted⟩
  | conflict => exact (rejectConflict_commits rest).elim

section Lookup

variable {seen : Configuration} (old : older seen configuration)
include old

theorem replayOrReserve_of_none {scope : Scope} {fingerprint : String} {result : Option Success}
    (unused : ((engine platform).view db writes).record? scope = none) :
    (replayOrReserve platform scope fingerprint).Commits (engine platform) older attempt configuration
      db writes result final ↔
      (replayReserved platform scope fingerprint).Commits (engine platform) older attempt
        configuration db writes result final := by
  simp only [replayOrReserve, completedSuccess, Program.bind_eq, Program.commits_bind]
  constructor
  · rintro ⟨stored, _, ⟨answer, _, selected, found⟩, rest⟩
    obtain ⟨rfl, rfl⟩ := selectRecord_commits selected
    rw [unused] at found
    obtain ⟨rfl, rfl⟩ := found
    exact rest
  · intro rest
    refine ⟨none, writes, ⟨none, writes, commits_send.mpr ⟨seen, [], old, ?_, by simp⟩, rfl, rfl⟩, rest⟩
    simp [Statement.exec, unused]

theorem replayOrReserve_of_some {scope : Scope} {fingerprint : String} {result : Option Success}
    {row : IdempotencyRecord} (found : ((engine platform).view db writes).record? scope = some row) :
    (replayOrReserve platform scope fingerprint).Commits (engine platform) older attempt configuration
      db writes result final ↔
      ∃ success, result = some success ∧ writes = final ∧
        Replays ((engine platform).view db writes) scope fingerprint success := by
  simp only [replayOrReserve, completedSuccess, Program.bind_eq, Program.commits_bind]
  constructor
  · rintro ⟨stored, _, ⟨answer, _, selected, read⟩, rest⟩
    obtain ⟨rfl, rfl⟩ := selectRecord_commits selected
    simp only [found, Option.map_some, Program.commits_bind, Program.commits_orFail,
      Program.commits_done] at read
    obtain ⟨httpStatus, _, ⟨status, rfl⟩, responseBody, _, ⟨body, rfl⟩, rfl, rfl⟩ := read
    by_cases equal : fingerprint = row.requestFingerprint
    · simp only [equal, ne_eq, not_true_eq_false, if_false] at rest
      obtain ⟨code, converted, rfl, rfl⟩ := replaySuccess_commits.mp rest
      exact ⟨_, rfl, rfl, row, httpStatus, found, equal.symm, status, body, converted⟩
    · simp only [ne_eq, equal, not_false_eq_true, if_true] at rest
      exact (rejectConflict_commits rest).elim
  · rintro ⟨success, rfl, rfl, other, httpStatus, present, rfl, status, body, converted⟩
    obtain rfl : other = row := Option.some.inj (present.symm.trans found)
    refine ⟨some (other.requestFingerprint, httpStatus, success.body), writes,
      ⟨some ⟨other.requestFingerprint, other.httpStatus, other.responseBody⟩, writes,
        commits_send.mpr ⟨seen, [], old, ?_, by simp⟩, ?_⟩, ?_⟩
    · simp [Statement.exec, found]
    · simp [Program.commits_bind, status, body]
    · simp only [ne_eq, not_true_eq_false, if_false]
      exact replaySuccess_commits.mpr ⟨_, converted, rfl, rfl⟩

end Lookup

theorem replayOrReserve_commits {scope : Scope} {fingerprint : String} {result : Option Success}
    (commits : (replayOrReserve platform scope fingerprint).Commits (engine platform) older attempt
      configuration db writes result final) :
    (∃ success, result = some success ∧ writes = final ∧
      Replays ((engine platform).view db writes) scope fingerprint success) ∨
    (result = none ∧ ((engine platform).view db writes).record? scope = none ∧
      ∃ expiresAt, writes ++
        [.insertRecord (reservation attempt.started expiresAt scope fingerprint)] = final) := by
  have queried := commits
  simp only [replayOrReserve, completedSuccess, Program.bind_eq, Program.commits_bind] at queried
  obtain ⟨_, _, ⟨_, _, selected, _⟩, _⟩ := queried
  obtain ⟨seen, _, old, _⟩ := commits_send.mp selected
  cases found : ((engine platform).view db writes).record? scope with
  | none => exact found ▸ replayReserved_commits ((replayOrReserve_of_none old found).mp commits)
  | some row => exact .inl ((replayOrReserve_of_some old found).mp commits)

theorem replayOrReserve_of_replayReserved {seen : Configuration} (old : older seen configuration)
    {scope : Scope} {fingerprint : String} {result : Option Success}
    (commits : (replayReserved platform scope fingerprint).Commits (engine platform) older attempt
      configuration db writes result final) :
    (replayOrReserve platform scope fingerprint).Commits (engine platform) older attempt configuration
      db writes result final := by
  -- A lost reservation replays what the look for a completed success would have found.
  cases found : ((engine platform).view db writes).record? scope with
  | none => exact (replayOrReserve_of_none old found).mpr commits
  | some row =>
    rcases replayReserved_commits commits with replays | ⟨_, unused, _⟩
    · exact (replayOrReserve_of_some old found).mpr replays
    · rw [found] at unused
      cases unused

theorem lockAccounts_commits {ids : List Uuid} {rows : List LockedAccount}
    (commits : (lockAccounts ids).Commits (engine platform) older attempt configuration db writes
      rows final) :
    ids.flatMap (fun id =>
      ((((engine platform).view db writes).account? id).map Account.locked).toList) = rows ∧
      writes = final := by
  induction ids generalizing rows with
  | nil => exact commits
  | cons id rest ih =>
    simp only [lockAccounts, Program.bind_eq, Program.commits_bind] at commits
    obtain ⟨row, _, locked, others, _, more, rfl, rfl⟩ := commits
    obtain ⟨rfl, rfl⟩ := commits_read locked fun _ => rfl
    obtain ⟨rfl, rfl⟩ := ih more
    exact ⟨rfl, rfl⟩

theorem selectAccountsForUpdate_commits {ids : List Uuid} {rows : List LockedAccount}
    (commits : (selectAccountsForUpdate ids).Commits (engine platform) older attempt configuration db
      writes rows final) :
    writes = final ∧ ∀ wanted row, rows.find? (fun row => row.id = wanted) = some row →
      ∃ account, ((engine platform).view db writes).account? wanted = some account ∧
        account.locked = row := by
  obtain ⟨rfl, rfl⟩ := lockAccounts_commits commits
  refine ⟨rfl, fun wanted row found => ?_⟩
  have member := List.mem_of_find?_eq_some found
  have same : row.id = wanted := by simpa using List.find?_some found
  obtain ⟨id, _, present⟩ := List.mem_flatMap.mp member
  rw [Option.mem_toList, Option.map_eq_some_iff] at present
  obtain ⟨account, present, rfl⟩ := present
  have key : account.id = id := Table.key_of_lookup present
  have equal : id = wanted := key.symm.trans same
  exact ⟨account, equal ▸ present, rfl⟩

theorem storeSuccess_commits {scope : Scope} {httpStatus : Int} {responseBody : Value}
    {resource : Uuid} {result : Unit} {record : IdempotencyRecord}
    (reserved : ((engine platform).view db writes).record? scope = some record)
    (commits : (storeSuccess scope httpStatus responseBody resource).Commits (engine platform) older
      attempt configuration db writes result final) :
    writes ++ [.replaceRecord (record.complete httpStatus responseBody resource)] = final := by
  simp only [storeSuccess, Program.bind_eq, Program.commits_bind, Program.commits_done] at commits
  obtain ⟨count, _, updated, _, rfl⟩ := commits
  obtain ⟨_, more, _, ran, rfl⟩ := commits_send.mp updated
  rcases updateRecord_eq_ok.mp ran with ⟨missing, _⟩ | ⟨row, found, _, _, rfl⟩
  · rw [reserved] at missing
    cases missing
  · rw [reserved] at found
    cases found
    rfl

theorem updateAccount_commits {balance : I64} {id : Uuid} {count : Nat} {row : Account}
    (found : ((engine platform).view db writes).account? id = some row)
    (commits : (send (.updateAccount balance id)).Commits (engine platform) older attempt
      configuration db writes count final) :
    ∃ version, version.val = row.version.val + 1 ∧
      writes ++ [.replaceAccount (row.update attempt.started balance version)] = final := by
  obtain ⟨_, more, _, ran, rfl⟩ := commits_send.mp commits
  rcases updateAccount_eq_ok.mp ran with ⟨missing, _⟩ | ⟨old, version, present, next, _, rfl⟩
  · rw [found] at missing
    cases missing
  · rw [found] at present
    cases present
    exact ⟨version, next, rfl⟩

theorem insertEntry_commits {values : EntryValues} {result : Unit}
    (commits : (send (.insertEntry values)).Commits (engine platform) older attempt configuration db
      writes result final) :
    ((engine platform).view db writes).entryRow? values.id = none ∧
      writes ++ [.insertEntry (values.row attempt.started)] = final := by
  obtain ⟨_, more, _, ran, rfl⟩ := commits_send.mp commits
  obtain ⟨checked, same⟩ := checked_eq_ok.mp ran
  simp only [Prod.mk.injEq] at same
  simp only [entryChecks, firstViolation_cons, Option.isNone_iff_eq_none] at checked
  exact ⟨checked.2.2.2.2.2.1, by rw [← same.2]⟩

theorem post_commits {posting : Posting} {createdAt : String}
    (commits : (post posting).Commits (engine platform) older attempt configuration db writes
      createdAt final) :
    ∃ rate source destination sourceVersion destinationVersion,
      posting.Finds attempt.started ((engine platform).view db writes) rate source destination
        sourceVersion destinationVersion ∧
      writes ++ posting.writes attempt.started rate source destination sourceVersion
        destinationVersion = final := by
  simp only [post, Program.bind_eq, Program.commits_bind, Program.commits_done] at commits
  obtain ⟨_, _, inserted, _, _, debited, _, _, credited, _, _, debit, _, _, credit, rfl, rfl⟩ :=
    commits
  obtain ⟨seen, more, _, ran, rfl⟩ := commits_send.mp inserted
  obtain ⟨rate, cast, checked, _, rfl⟩ := insertTransfer_eq_ok.mp ran
  simp only [transferChecks, firstViolation_cons, Option.isNone_iff_eq_none, decide_eq_true_eq,
    Option.isSome_iff_exists] at checked
  obtain ⟨_, _, _, destinationAmount, _, total, _, distinct, _, unused, _, ⟨source, sourceFound⟩,
    ⟨destination, destinationFound⟩, _⟩ := checked
  have sourceNow : ((engine platform).view db (writes ++
      [.insertTransfer (posting.transfer.row attempt.started rate)])).account?
        posting.transfer.sourceAccountId = some source := by
    simpa using (show ((engine platform).view db writes).account?
      posting.transfer.sourceAccountId = some source from sourceFound)
  obtain ⟨sourceVersion, sourceNext, rfl⟩ := updateAccount_commits sourceNow debited
  have sourceId : source.id = posting.transfer.sourceAccountId := Table.key_of_lookup sourceFound
  have destinationNow : ((engine platform).view db (writes ++
      [.insertTransfer (posting.transfer.row attempt.started rate)] ++
      [.replaceAccount (source.update attempt.started posting.sourceBalance sourceVersion)])).account?
        posting.transfer.destinationAccountId = some destination := by
    have kept : ((engine platform).view db writes).account?
        posting.transfer.destinationAccountId = some destination := destinationFound
    have other : source.id ≠ posting.transfer.destinationAccountId := sourceId ▸ distinct
    simp [kept, Account.update, other]
  obtain ⟨destinationVersion, destinationNext, rfl⟩ :=
    updateAccount_commits destinationNow credited
  obtain ⟨debitUnused, rfl⟩ := insertEntry_commits debit
  obtain ⟨creditUnused, rfl⟩ := insertEntry_commits credit
  simp only [Engine.view_append, Engine.view_cons, Engine.view_nil, engine_apply,
    Db.entryRow?_apply] at debitUnused creditUnused
  simp only [Option.or_eq_none_iff, ite_eq_right_iff, reduceCtorEq, imp_false] at creditUnused
  refine ⟨rate, source, destination, sourceVersion, destinationVersion, ?_, ?_⟩
  · exact ⟨cast, unused, distinct, total, destinationAmount, sourceFound, destinationFound,
      sourceNext, destinationNext, debitUnused, creditUnused.1, creditUnused.2⟩
  · simp [Posting.writes]

theorem exists_of_orderLimitTwo {Row Result : Type} {validFrom : Row → Timestamp} {id : Row → Uuid}
    {rows : List Row} {select : Row → Result} {result : Result}
    (selected : (orderLimitTwo validFrom id rows).map select = [result]) :
    ∃ row ∈ rows, select row = result := by
  obtain ⟨row, single, same⟩ := List.map_eq_singleton_iff.mp selected
  have member : row ∈ orderLimitTwo validFrom id rows := by simp [single]
  exact ⟨row, (List.mem_insertionSort _).mp (List.mem_of_mem_take member), same⟩

section Fx

variable (within : ∀ {seen configuration}, older seen configuration → seen.Within configuration)
include within

theorem selectExchangeRate_commits {source destination : String} {time : Timestamp}
    {result : Except ConfigurationError ExchangeRate}
    (commits : (selectExchangeRate source destination time).Commits (engine platform) older attempt
      configuration db writes result final) :
    writes = final ∧ ∀ rate, result = .ok rate → ∃ row ∈ configuration.exchangeRates,
      row.select = rate ∧ row.sourceCurrency = source ∧ row.destinationCurrency = destination ∧
      validAt row.validFrom row.validUntil time = true := by
  simp only [selectExchangeRate, Program.bind_eq, Program.commits_bind] at commits
  obtain ⟨_, _, asked, rest⟩ := commits
  obtain ⟨seen, rows, more, old, ran, rfl, rfl⟩ := commits_ask.mp asked
  simp only [Statement.exec, Except.ok.injEq, Prod.mk.injEq] at ran
  obtain ⟨selected, rfl⟩ := ran
  rcases rows with _ | ⟨one, _ | ⟨other, rows⟩⟩
  · obtain ⟨rfl, rfl⟩ := rest
    simp
  · obtain ⟨rfl, rfl⟩ := rest
    obtain ⟨row, member, rfl⟩ := exists_of_orderLimitTwo selected
    have facts := List.mem_filter.mp member
    simp only [decide_eq_true_eq] at facts
    refine ⟨by simp, fun rate same => ?_⟩
    cases same
    exact ⟨row, (within old).exchangeRates facts.1, rfl, facts.2⟩
  · obtain ⟨rfl, rfl⟩ := rest
    simp

theorem selectFeeRule_commits {source destination : String} {time : Timestamp}
    {result : Except ConfigurationError FeeRule}
    (commits : (selectFeeRule source destination time).Commits (engine platform) older attempt
      configuration db writes result final) :
    writes = final ∧ ∀ rule, result = .ok rule → ∃ row ∈ configuration.fxFeeRules,
      row.select = rule ∧ validAt row.validFrom row.validUntil time = true := by
  simp only [selectFeeRule, Program.bind_eq, Program.commits_bind] at commits
  obtain ⟨_, _, asked, rest⟩ := commits
  obtain ⟨seen, rows, more, old, ran, rfl, rfl⟩ := commits_ask.mp asked
  simp only [Statement.exec, Except.ok.injEq, Prod.mk.injEq] at ran
  obtain ⟨selected, rfl⟩ := ran
  rcases rows with _ | ⟨one, _ | ⟨other, rows⟩⟩
  · -- No pair-specific rule: the default rules are read.
    simp only [Program.commits_bind, List.append_nil] at rest
    obtain ⟨_, _, asked, rest⟩ := rest
    obtain ⟨seen, rows, more, old, ran, rfl, rfl⟩ := commits_ask.mp asked
    simp only [Statement.exec, Except.ok.injEq, Prod.mk.injEq] at ran
    obtain ⟨selected, rfl⟩ := ran
    rcases rows with _ | ⟨one, _ | ⟨other, rows⟩⟩
    · obtain ⟨rfl, rfl⟩ := rest
      simp
    · obtain ⟨rfl, rfl⟩ := rest
      obtain ⟨row, member, rfl⟩ := exists_of_orderLimitTwo selected
      have facts := List.mem_filter.mp member
      simp only [decide_eq_true_eq] at facts
      refine ⟨by simp, fun rule same => ?_⟩
      cases same
      exact ⟨row, (within old).fxFeeRules facts.1, rfl, facts.2.2.2⟩
    · obtain ⟨rfl, rfl⟩ := rest
      simp
  · obtain ⟨rfl, rfl⟩ := rest
    obtain ⟨row, member, rfl⟩ := exists_of_orderLimitTwo selected
    have facts := List.mem_filter.mp member
    simp only [decide_eq_true_eq] at facts
    refine ⟨by simp, fun rule same => ?_⟩
    cases same
    exact ⟨row, (within old).fxFeeRules facts.1, rfl, facts.2.2.2⟩
  · obtain ⟨rfl, rfl⟩ := rest
    simp

theorem selectFxConfiguration_commits {operationType : OperationType} {preliminary : Preliminary}
    {time : Timestamp} {result : Option (ExchangeRate × FeeRule)}
    (commits : (selectFxConfiguration operationType preliminary time).Commits (engine platform) older
      attempt configuration db writes result final) :
    writes = final ∧ ((operationType ≠ .fxTransfer ∧ result = none) ∨
      (operationType = .fxTransfer ∧
        ∃ rate ∈ configuration.exchangeRates, ∃ fee ∈ configuration.fxFeeRules,
          result = some (rate.select, fee.select) ∧
          rate.sourceCurrency = preliminary.sourceCurrency ∧
          rate.destinationCurrency = preliminary.destinationCurrency ∧
          validAt rate.validFrom rate.validUntil time = true ∧
          validAt fee.validFrom fee.validUntil time = true)) := by
  by_cases fx : operationType = .fxTransfer
  · simp only [selectFxConfiguration, fx, if_true, Program.bind_eq, Program.commits_bind,
      Program.commits_ofExcept, Program.commits_done, mapError_eq_ok] at commits
    obtain ⟨_, _, selectedRate, rate, _, ⟨rfl, rfl⟩, _, _, selectedFee, fee, _, ⟨rfl, rfl⟩, rfl,
      rfl⟩ := commits
    obtain ⟨rfl, rateFound⟩ := selectExchangeRate_commits within selectedRate
    obtain ⟨rfl, feeFound⟩ := selectFeeRule_commits within selectedFee
    obtain ⟨rateRow, rateMember, rfl, source, destination, rateValid⟩ := rateFound rate rfl
    obtain ⟨feeRow, feeMember, rfl, feeValid⟩ := feeFound fee rfl
    exact ⟨rfl, .inr ⟨fx, rateRow, rateMember, feeRow, feeMember, rfl, source, destination,
      rateValid, feeValid⟩⟩
  · simp only [selectFxConfiguration, fx, if_false, Program.commits_done] at commits
    obtain ⟨rfl, rfl⟩ := commits
    exact ⟨rfl, .inl ⟨fx, rfl⟩⟩

end Fx

end Parts

end LedgerService
