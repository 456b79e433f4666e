import LedgerService.Outcomes
import LedgerService.Transaction.Discipline

set_option autoImplicit false

namespace LedgerService

open Transaction

/-- Locked in a mode that keeps other writers of the resource out. -/
def Held (locks : List Lock) (resource : Resource) : Prop :=
  ∃ lock ∈ locks, lock.resource = resource ∧ lock.mode ≠ .keyShare

theorem Held.of_update {locks : List Lock} {resource : Resource}
    (member : ⟨resource, .update⟩ ∈ locks) : Held locks resource :=
  ⟨_, member, rfl, by simp⟩

theorem Held.more {locks more : List Lock} {resource : Resource} (held : Held locks resource)
    (fewer : locks ⊆ more) : Held more resource := by
  obtain ⟨lock, member, same, mode⟩ := held
  exact ⟨lock, fewer member, same, mode⟩

structure Evolves (locks : List Lock) (db db' : Db) : Prop where
  account : ∀ id row, db.account? id = some row →
    ∃ row', db'.account? id = some row' ∧ row.SameHolder row'
  accountHeld : ∀ id, Held locks (.account id) → db'.account? id = db.account? id
  transfer : ∀ id row, db.transfer? id = some row → db'.transfer? id = some row
  transferHeld : ∀ id, Held locks (.transfer id) → db'.transfer? id = db.transfer? id
  entryHeld : ∀ id, Held locks (.accountEntry id) → db'.entryRow? id = db.entryRow? id
  record : ∀ scope row, db.record? scope = some row → db'.record? scope = some row
  recordHeld : ∀ scope, Held locks (.idempotencyRecord scope) → db'.record? scope = db.record? scope
  reversed : ∀ id, db.reversed id = true → db'.reversed id = true
  reversedHeld : ∀ id, ⟨.transfer id, .update⟩ ∈ locks ∨ ⟨.singleReversal id, .update⟩ ∈ locks →
    db'.reversed id = db.reversed id

namespace Evolves

variable {locks more : List Lock} {db db' : Db}

theorem refl (locks : List Lock) (db : Db) : Evolves locks db db where
  account _ row found := ⟨row, found, .refl row⟩
  accountHeld _ _ := rfl
  transfer _ _ found := found
  transferHeld _ _ := rfl
  entryHeld _ _ := rfl
  record _ _ found := found
  recordHeld _ _ := rfl
  reversed _ found := found
  reversedHeld _ _ := rfl

theorem trans {db'' : Db} (first : Evolves locks db db') (second : Evolves locks db' db'') :
    Evolves locks db db'' where
  account id row found := by
    obtain ⟨row', found', same⟩ := first.account id row found
    obtain ⟨row'', found'', same'⟩ := second.account id row' found'
    exact ⟨row'', found'', same.trans same'⟩
  accountHeld id held := (second.accountHeld id held).trans (first.accountHeld id held)
  transfer id row found := second.transfer id row (first.transfer id row found)
  transferHeld id held := (second.transferHeld id held).trans (first.transferHeld id held)
  entryHeld id held := (second.entryHeld id held).trans (first.entryHeld id held)
  record scope row found := second.record scope row (first.record scope row found)
  recordHeld scope held := (second.recordHeld scope held).trans (first.recordHeld scope held)
  reversed id found := second.reversed id (first.reversed id found)
  reversedHeld id held := (second.reversedHeld id held).trans (first.reversedHeld id held)

theorem fewer (fewer : locks ⊆ more) (evolves : Evolves more db db') : Evolves locks db db' where
  account := evolves.account
  accountHeld id held := evolves.accountHeld id (held.more fewer)
  transfer := evolves.transfer
  transferHeld id held := evolves.transferHeld id (held.more fewer)
  entryHeld id held := evolves.entryHeld id (held.more fewer)
  record := evolves.record
  recordHeld scope held := evolves.recordHeld scope (held.more fewer)
  reversed := evolves.reversed
  reversedHeld id held := evolves.reversedHeld id (held.imp (@fewer _) (@fewer _))

theorem or_inserted {Row : Type} {before after new : Option Row} {Kept : Row → Row → Prop}
    (reflexive : ∀ row, Kept row row)
    (kept : ∀ row, before = some row → ∃ row', after = some row' ∧ Kept row row')
    (held : new ≠ none → after = before) (row : Row) (found : before.or new = some row) :
    ∃ row', after.or new = some row' ∧ Kept row row' := by
  cases old : before with
  | some one =>
    rw [old] at found
    cases found
    obtain ⟨row', present, same⟩ := kept row old
    exact ⟨row', by simp [present], same⟩
  | none =>
    rw [old, Option.none_or] at found
    have same := held (by simp [found])
    exact ⟨row, by simp [same, old, found], reflexive row⟩

theorem apply {write : Write} (evolves : Evolves locks db db')
    (covered : ∀ lock ∈ write.locks, lock ∈ locks) :
    Evolves locks (db.apply write) (db'.apply write) := by
  cases write with
  | insertAccount row =>
    have held : Held locks (.account row.id) :=
      .of_update (covered _ (by simp [Write.locks, accountLocks]))
    refine ⟨?_, ?_, evolves.transfer, evolves.transferHeld, evolves.entryHeld, evolves.record,
      evolves.recordHeld, evolves.reversed, evolves.reversedHeld⟩
    · intro id old found
      rw [Db.account?_apply] at found ⊢
      refine or_inserted Account.SameHolder.refl (fun row => evolves.account id row) ?_ old found
      intro new
      have same : row.id = id := by simpa using new
      exact evolves.accountHeld id (same ▸ held)
    · intro id heldId
      simp only [Db.account?_apply, evolves.accountHeld id heldId]
  | replaceAccount row =>
    refine ⟨?_, ?_, evolves.transfer, evolves.transferHeld, evolves.entryHeld, evolves.record,
      evolves.recordHeld, evolves.reversed, evolves.reversedHeld⟩
    · intro id old found
      rw [Db.account?_apply] at found ⊢
      obtain ⟨before, present, rfl⟩ := Option.map_eq_some_iff.mp found
      obtain ⟨after, present', same⟩ := evolves.account id before present
      refine ⟨_, by rw [present']; rfl, ?_⟩
      by_cases here : row.id = id
      · simpa [here] using Account.SameHolder.refl row
      · simpa [here] using same
    · intro id heldId
      simp only [Db.account?_apply, evolves.accountHeld id heldId]
  | insertTransfer row =>
    have held : Held locks (.transfer row.id) :=
      .of_update (covered _ (by simp [Write.locks, transferLocks]))
    refine ⟨evolves.account, evolves.accountHeld, ?_, ?_, evolves.entryHeld, evolves.record,
      evolves.recordHeld, ?_, ?_⟩
    · intro id old found
      rw [Db.transfer?_apply] at found ⊢
      obtain ⟨row', present, rfl⟩ := @or_inserted _ _ _ _ Eq (fun _ => rfl)
        (fun row found => ⟨row, evolves.transfer id row found, rfl⟩) (by
          intro new
          have same : row.id = id := by simpa using new
          exact evolves.transferHeld id (same ▸ held)) old found
      exact present
    · intro id heldId
      simp only [Db.transfer?_apply, evolves.transferHeld id heldId]
    · intro id found
      simp only [Db.reversed_apply, Bool.or_eq_true] at found ⊢
      exact found.imp_left (evolves.reversed id)
    · intro id heldId
      simp only [Db.reversed_apply, evolves.reversedHeld id heldId]
  | insertEntry row =>
    refine ⟨evolves.account, evolves.accountHeld, evolves.transfer, evolves.transferHeld, ?_,
      evolves.record, evolves.recordHeld, evolves.reversed, evolves.reversedHeld⟩
    intro id heldId
    simp only [Db.entryRow?_apply, evolves.entryHeld id heldId]
  | insertRecord row =>
    have held : Held locks (.idempotencyRecord row.scope) :=
      .of_update (covered _ (by simp [Write.locks]))
    refine ⟨evolves.account, evolves.accountHeld, evolves.transfer, evolves.transferHeld,
      evolves.entryHeld, ?_, ?_, evolves.reversed, evolves.reversedHeld⟩
    · intro scope old found
      rw [Db.record?_apply] at found ⊢
      obtain ⟨row', present, rfl⟩ := @or_inserted _ _ _ _ Eq (fun _ => rfl)
        (fun row found => ⟨row, evolves.record scope row found, rfl⟩) (by
          intro new
          have same : row.scope = scope := by simpa using new
          exact evolves.recordHeld scope (same ▸ held)) old found
      exact present
    · intro scope heldScope
      simp only [Db.record?_apply, evolves.recordHeld scope heldScope]
  | replaceRecord row =>
    refine ⟨evolves.account, evolves.accountHeld, evolves.transfer, evolves.transferHeld,
      evolves.entryHeld, ?_, ?_, evolves.reversed, evolves.reversedHeld⟩
    · intro scope old found
      rw [Db.record?_apply] at found ⊢
      obtain ⟨before, present, rfl⟩ := Option.map_eq_some_iff.mp found
      rw [evolves.record scope before present]
      rfl
    · intro scope heldScope
      simp only [Db.record?_apply, evolves.recordHeld scope heldScope]

theorem view {platform : Platform} {writes : List Write} (evolves : Evolves locks db db')
    (covered : (engine platform).Covered locks writes) :
    Evolves locks ((engine platform).view db writes) ((engine platform).view db' writes) := by
  induction writes generalizing db db' with
  | nil => exact evolves
  | cons write rest ih =>
    rw [Engine.view_cons, Engine.view_cons]
    apply ih
    · exact evolves.apply (covered write List.mem_cons_self)
    · exact fun later member => covered later (List.mem_cons_of_mem _ member)

end Evolves

section Others

variable {platform : Platform} {held locks : List Lock} {writes : List Write} {write : Write}
  {lock : Lock}

theorem not_held_of_written (compatible : (engine platform).Compatible held locks)
    (covered : (engine platform).Covered locks writes) (member : write ∈ writes)
    (needed : lock ∈ write.locks) (mode : lock.mode ≠ .keyShare) : ¬ Held held lock.resource := by
  rintro ⟨mine, mineHeld, same, mineMode⟩
  exact compatible mine mineHeld lock (covered write member lock needed)
    ⟨same, LockMode.conflicts_of_ne mineMode mode⟩

theorem not_updated_of_locked (compatible : (engine platform).Compatible held locks)
    (covered : (engine platform).Covered locks writes) (member : write ∈ writes)
    (needed : lock ∈ write.locks) : ⟨lock.resource, .update⟩ ∉ held := by
  intro mineHeld
  exact compatible _ mineHeld lock (covered write member lock needed) ⟨rfl, by simp⟩

theorem evolves_of_effect {attempt : Attempt} {configuration : Configuration} {db : Db}
    {reply : Reply} {effect : Effect}
    (compatible : (engine platform).Compatible held locks)
    (covered : (engine platform).Covered locks effect.writes)
    (holds : effect.Holds platform attempt configuration db reply) :
    Evolves held db (db.after effect) := by
  -- The locks of the commit cover all it writes, and conflict with none of these.
  cases effect with
  | replayed => exact .refl held db
  | opened record account =>
    have accountWritten : ¬ Held held (.account account.id) :=
      @not_held_of_written _ _ _ _ (.insertAccount account) ⟨.account account.id, .update⟩
        compatible covered (by simp [Effect.writes]) (by simp [Write.locks, accountLocks])
        (by simp)
    have recordWritten : ¬ Held held (.idempotencyRecord record.scope) :=
      @not_held_of_written _ _ _ _ (.replaceRecord record)
        ⟨.idempotencyRecord record.scope, .noKeyUpdate⟩ compatible covered
        (by simp [Effect.writes]) (by simp [Write.locks]) (by simp)
    constructor
    case account =>
      intro id row found
      exact ⟨row, by simp [found], .refl row⟩
    case accountHeld =>
      intro id here
      have other : account.id ≠ id := fun same => accountWritten (same ▸ here)
      simp [other]
    case record =>
      intro scope row found
      simp [found]
    case recordHeld =>
      intro scope here
      have other : record.scope ≠ scope := fun same => recordWritten (same ▸ here)
      simp [other]
    all_goals simp
  | posted record transfer source destination debit credit =>
    obtain ⟨oldSource, oldDestination, posted⟩ := holds
    have performed := posted.performed
    have sourceWritten : ¬ Held held (.account source.id) :=
      @not_held_of_written _ _ _ _ (.replaceAccount source) ⟨.account source.id, .noKeyUpdate⟩
        compatible covered (by simp [Effect.writes]) (by simp [Write.locks]) (by simp)
    have destinationWritten : ¬ Held held (.account destination.id) :=
      @not_held_of_written _ _ _ _ (.replaceAccount destination)
        ⟨.account destination.id, .noKeyUpdate⟩ compatible covered (by simp [Effect.writes])
        (by simp [Write.locks]) (by simp)
    have transferWritten : ¬ Held held (.transfer transfer.id) :=
      @not_held_of_written _ _ _ _ (.insertTransfer transfer) ⟨.transfer transfer.id, .update⟩
        compatible covered (by simp [Effect.writes]) (by simp [Write.locks, transferLocks])
        (by simp)
    have debitWritten : ¬ Held held (.accountEntry debit) :=
      @not_held_of_written _ _ _ _ (.insertEntry (transfer.debitEntry debit))
        ⟨.accountEntry debit, .update⟩ compatible covered (by simp [Effect.writes])
        (by simp [Write.locks, entryLocks, Transfer.debitEntry]) (by simp)
    have creditWritten : ¬ Held held (.accountEntry credit) :=
      @not_held_of_written _ _ _ _ (.insertEntry (transfer.creditEntry credit))
        ⟨.accountEntry credit, .update⟩ compatible covered (by simp [Effect.writes])
        (by simp [Write.locks, entryLocks, Transfer.creditEntry]) (by simp)
    have recordWritten : ¬ Held held (.idempotencyRecord record.scope) :=
      @not_held_of_written _ _ _ _ (.replaceRecord record)
        ⟨.idempotencyRecord record.scope, .noKeyUpdate⟩ compatible covered
        (by simp [Effect.writes]) (by simp [Write.locks]) (by simp)
    constructor
    case account =>
      intro id row found
      have sourceId := posted.performed.source_id
      have destinationId := posted.performed.destination_id
      by_cases isDestination : destination.id = id
      · have same : row = oldDestination := Option.some.inj
          (found.symm.trans (isDestination ▸ destinationId ▸ performed.destinationFound))
        exact ⟨destination, by simp [found, isDestination],
          same ▸ performed.destinationMoved.sameHolder⟩
      · by_cases isSource : source.id = id
        · have same : row = oldSource := Option.some.inj
            (found.symm.trans (isSource ▸ sourceId ▸ performed.sourceFound))
          exact ⟨source, by simp [found, isSource, isDestination],
            same ▸ performed.sourceMoved.sameHolder⟩
        · exact ⟨row, by simp [found, isSource, isDestination], .refl row⟩
    case accountHeld =>
      intro id here
      have notSource : source.id ≠ id := fun same => sourceWritten (same ▸ here)
      have notDestination : destination.id ≠ id := fun same => destinationWritten (same ▸ here)
      simp [notSource, notDestination]
    case transfer =>
      intro id row found
      simp [found]
    case transferHeld =>
      intro id here
      have other : transfer.id ≠ id := fun same => transferWritten (same ▸ here)
      simp [other]
    case entryHeld =>
      intro id here
      have notDebit : debit ≠ id := fun same => debitWritten (same ▸ here)
      have notCredit : credit ≠ id := fun same => creditWritten (same ▸ here)
      simp [notDebit, notCredit]
    case record =>
      intro scope row found
      simp [found]
    case recordHeld =>
      intro scope here
      have other : record.scope ≠ scope := fun same => recordWritten (same ▸ here)
      simp [other]
    case reversed =>
      intro id found
      simp [found]
    case reversedHeld =>
      intro id here
      have other : transfer.reversesTransferId ≠ some id := by
        intro reverses
        have inserted : Write.insertTransfer transfer ∈
            (Effect.posted record transfer source destination debit credit).writes := by
          simp [Effect.writes]
        rcases here with locked | locked
        · exact @not_updated_of_locked _ _ _ _ _ ⟨.transfer id, .keyShare⟩ compatible covered
            inserted (by simp [Write.locks, transferLocks, reverses]) locked
        · exact @not_updated_of_locked _ _ _ _ _ ⟨.singleReversal id, .update⟩ compatible covered
            inserted (by simp [Write.locks, transferLocks, reverses]) locked
      simp [other]

theorem account?_setStatus (db : Db) (id : Uuid) (status : AccountStatus) (wanted : Uuid) :
    (db.setStatus id status).account? wanted = (db.account? wanted).map fun row =>
      if row.id = id then { row with status := status } else row := by
  apply Table.lookup_map
  intro row
  split <;> rfl

theorem evolves_of_operator {operator : Operator} {db : Db} {configuration : Configuration}
    (compatible : (engine platform).Compatible held operator.locks) :
    Evolves held db (operator.operate (db, configuration)).1 := by
  cases operator with
  | setStatus id status =>
    have written : ¬ Held held (.account id) := by
      rintro ⟨mine, mineHeld, same, mode⟩
      exact compatible mine mineHeld _ List.mem_cons_self
        ⟨same, LockMode.conflicts_of_ne mode (by simp)⟩
    have others := Evolves.refl held db
    refine ⟨?_, ?_, others.transfer, others.transferHeld, others.entryHeld, others.record,
      others.recordHeld, others.reversed, others.reversedHeld⟩
    · intro wanted row found
      refine ⟨_, by rw [Operator.operate, account?_setStatus, found]; rfl, ?_⟩
      dsimp only
      split
      · exact ⟨rfl, rfl, rfl⟩
      · exact .refl row
    · intro wanted here
      have other : wanted ≠ id := fun same => written (same ▸ here)
      rw [Operator.operate, account?_setStatus]
      cases found : db.account? wanted with
      | none => rfl
      | some row =>
        have key : row.id = wanted := Table.key_of_lookup found
        simp [key, other]
  | insertExchangeRate row => exact .refl held db
  | insertFeeRule row => exact .refl held db

end Others

section Statements

variable {platform : Platform} {now : Timestamp} {configuration : Configuration} {db db' : Db}
  {locks : List Lock} {writes : List Write}

/-- The answers that stay right as long as the locks are held. -/
def Settles : (statement : Statement) → statement.Result → List Lock → Prop
  | .selectPreliminary _ _, answer, _ => answer ≠ none
  | .selectRecord scope, answer, locks => answer ≠ none ∨ Held locks (.idempotencyRecord scope)
  | .lockAccount _, answer, _ => answer ≠ none
  | .lockTransfer _, answer, _ => answer ≠ none
  | .selectOwner _, answer, _ => answer ≠ none
  | .selectReversed id, answer, locks => answer = true ∨ ⟨.transfer id, .update⟩ ∈ locks
  | .updateAccount _ id, _, locks => Held locks (.account id)
  | .updateRecord scope _ _ _, _, locks => Held locks (.idempotencyRecord scope)
  | _, _, _ => True

theorem preliminary_evolves (evolves : Evolves locks db db') {source destination : Uuid}
    {preliminary : Preliminary} (found : db.preliminary source destination = some preliminary) :
    db'.preliminary source destination = some preliminary := by
  unfold Db.preliminary at found ⊢
  cases sourceFound : db.account? source with
  | none => simp [sourceFound] at found
  | some sourceRow =>
    cases destinationFound : db.account? destination with
    | none => simp [sourceFound, destinationFound] at found
    | some destinationRow =>
      obtain ⟨sourceRow', sourceFound', sourceSame⟩ := evolves.account _ _ sourceFound
      obtain ⟨destinationRow', destinationFound', destinationSame⟩ :=
        evolves.account _ _ destinationFound
      simp only [sourceFound, destinationFound] at found
      simp only [sourceFound', destinationFound', sourceSame.currency, sourceSame.currencyScale,
        destinationSame.currency, destinationSame.currencyScale, found]

theorem isSome_evolves (evolves : Evolves locks db db') {id : Uuid}
    (found : (db.account? id).isSome = true) : (db'.account? id).isSome = true := by
  obtain ⟨row, found⟩ := Option.isSome_iff_exists.mp found
  obtain ⟨row', found', _⟩ := evolves.account id row found
  exact Option.isSome_iff_exists.mpr ⟨row', found'⟩

theorem transferChecks_evolves {row : Transfer} (evolves : Evolves locks db db')
    (covered : ∀ lock ∈ (Write.insertTransfer row).locks, lock ∈ locks)
    (checked : firstViolation (transferChecks platform configuration db row) = .ok ()) :
    firstViolation (transferChecks platform configuration db' row) = .ok () := by
  have held : Held locks (.transfer row.id) :=
    .of_update (covered _ (by simp [Write.locks, transferLocks]))
  simp only [transferChecks, firstViolation_cons] at checked ⊢
  -- The first nine checks speak of the row only.
  obtain ⟨sourceCurrency, destinationCurrency, sourceAmount, destinationAmount, fee, total,
    initiator, distinct, notItself, unused, single, source, destination, original, rate⟩ := checked
  refine ⟨sourceCurrency, destinationCurrency, sourceAmount, destinationAmount, fee, total,
    initiator, distinct, notItself, ?_, ?_, isSome_evolves evolves source,
    isSome_evolves evolves destination, ?_, rate⟩
  · rw [evolves.transferHeld row.id held]
    exact unused
  · cases reverses : row.reversesTransferId with
    | none => rfl
    | some original =>
      have locked : ⟨.singleReversal original, .update⟩ ∈ locks :=
        covered _ (by simp [Write.locks, transferLocks, reverses])
      rw [reverses] at single
      rw [Option.all_some] at single ⊢
      rw [evolves.reversedHeld original (.inr locked)]
      exact single
  · cases reverses : row.reversesTransferId with
    | none => rfl
    | some originalId =>
      rw [reverses, Option.all_some] at original
      obtain ⟨found, present⟩ := Option.isSome_iff_exists.mp original
      rw [Option.all_some, evolves.transfer originalId found present]
      rfl

theorem found_of_answer {Row Answer : Type} {read : Row → Answer} {row : Option Row}
    {answer : Option Answer} (same : row.map read = answer) (answered : answer ≠ none) :
    ∃ found, row = some found := by
  cases row with
  | none => exact absurd same.symm answered
  | some found => exact ⟨found, rfl⟩

theorem exec_evolves {statement : Statement} {answer : statement.Result} {added : List Write}
    (evolves : Evolves locks db db') (taken : statement.locks db ⊆ locks)
    (settles : Settles statement answer locks)
    (ran : statement.exec platform now configuration db = .ok (answer, added)) :
    statement.exec platform now configuration db' = .ok (answer, added) := by
  cases statement with
  | selectPreliminary source destination =>
    simp only [Statement.exec, Except.ok.injEq, Prod.mk.injEq] at ran ⊢
    obtain ⟨preliminary, rfl⟩ := Option.ne_none_iff_exists'.mp settles
    exact ⟨preliminary_evolves evolves ran.1, ran.2⟩
  | selectRecord scope =>
    simp only [Statement.exec, Except.ok.injEq, Prod.mk.injEq] at ran ⊢
    refine ⟨?_, ran.2⟩
    rw [← ran.1]
    rcases settles with some | held
    · obtain ⟨row, found⟩ := found_of_answer ran.1 some
      rw [found, evolves.record scope row found]
    · rw [evolves.recordHeld scope held]
  | insertRecord scope fingerprint retention =>
    obtain ⟨expiresAt, expires, checked, found⟩ := insertRecord_eq_ok.mp ran
    refine insertRecord_eq_ok.mpr ⟨expiresAt, expires, checked, ?_⟩
    rcases found with ⟨row, found, rest⟩ | ⟨unused, rest⟩
    · exact .inl ⟨row, evolves.record scope row found, rest⟩
    · have held : Held locks (.idempotencyRecord scope) :=
        .of_update (taken (by simp [Statement.locks, unused]))
      exact .inr ⟨by rw [evolves.recordHeld scope held, unused], rest⟩
  | lockAccount id =>
    simp only [Statement.exec, Except.ok.injEq, Prod.mk.injEq] at ran ⊢
    obtain ⟨row, found⟩ := found_of_answer ran.1 settles
    have held : Held locks (.account id) := .of_update (taken (by simp [Statement.locks, found]))
    rw [evolves.accountHeld id held]
    exact ran
  | lockTransfer id =>
    simp only [Statement.exec, Except.ok.injEq, Prod.mk.injEq] at ran ⊢
    obtain ⟨row, found⟩ := found_of_answer ran.1 settles
    rw [evolves.transfer id row found, ← found]
    exact ran
  | selectOwner id =>
    simp only [Statement.exec, Except.ok.injEq, Prod.mk.injEq] at ran ⊢
    obtain ⟨row, found⟩ := found_of_answer ran.1 settles
    obtain ⟨row', found', same⟩ := evolves.account id row found
    rw [found']
    rw [found] at ran
    exact ⟨by rw [← ran.1, Option.map_some, Option.map_some, same.ownerId], ran.2⟩
  | selectReversed id =>
    simp only [Statement.exec, Except.ok.injEq, Prod.mk.injEq] at ran ⊢
    rcases settles with rfl | locked
    · exact ⟨evolves.reversed id ran.1, ran.2⟩
    · rw [evolves.reversedHeld id (.inl locked)]
      exact ran
  | insertAccount values =>
    obtain ⟨checked, same⟩ := checked_eq_ok.mp ran
    refine checked_eq_ok.mpr ⟨?_, same⟩
    have held : Held locks (.account (values.row now).id) :=
      .of_update (taken (by simp [Statement.locks, accountLocks, AccountValues.row]))
    simp only [accountChecks, firstViolation_cons] at checked ⊢
    rw [evolves.accountHeld _ held]
    exact checked
  | insertTransfer values =>
    obtain ⟨rate, cast, checked, same⟩ := insertTransfer_eq_ok.mp ran
    exact insertTransfer_eq_ok.mpr ⟨rate, cast, transferChecks_evolves evolves taken checked, same⟩
  | updateAccount balance id =>
    simp only [Statement.exec, updateAccount] at ran ⊢
    rw [evolves.accountHeld id settles]
    exact ran
  | insertEntry values =>
    obtain ⟨checked, same⟩ := checked_eq_ok.mp ran
    refine checked_eq_ok.mpr ⟨?_, same⟩
    have held : Held locks (.accountEntry (values.row now).id) :=
      .of_update (taken (by simp [Statement.locks, entryLocks, EntryValues.row]))
    simp only [entryChecks, firstViolation_cons] at checked ⊢
    rw [evolves.entryHeld _ held]
    obtain ⟨amount, currency, principal, fee, distinct, unused, account, transfer, counterparty,
      rest⟩ := checked
    obtain ⟨row, found⟩ := Option.isSome_iff_exists.mp transfer
    exact ⟨amount, currency, principal, fee, distinct, unused, isSome_evolves evolves account,
      Option.isSome_iff_exists.mpr ⟨row, evolves.transfer _ row found⟩,
      isSome_evolves evolves counterparty, rest⟩
  | updateRecord scope status body resource =>
    simp only [Statement.exec, updateRecord] at ran ⊢
    rw [evolves.recordHeld scope settles]
    exact ran
  | _ => exact ran

end Statements

end LedgerService
