import LedgerService.Sessions
import LedgerService.Transaction.Waiting

set_option autoImplicit false

/-!
# The order in which locks are taken

Record first, then the original transfer, then the accounts in ascending order, then what is new.
Each statement of a handler asks for what ranks above all locks it holds, or for what its session
holds already.
-/

namespace LedgerService

open Transaction

-- A transfer is locked before the accounts where it is committed, after them where it is new.
def Resource.rank (db : Db) : Resource → Nat
  | .idempotencyRecord _ => 0
  | .transfer id => if (db.transfer? id).isSome then 1 else 2 + 2 ^ 128
  | .account id => 2 + id.toNat
  | .singleReversal _ => 3 + 2 ^ 128
  | .accountEntry _ | .exchangeRate _ => 4 + 2 ^ 128

namespace Statement

def scope? : Statement → Option Scope
  | .selectRecord scope | .insertRecord scope _ _ | .updateRecord scope _ _ _ => some scope
  | _ => none

def entryRow? : Statement → Option Uuid
  | .insertEntry values => some values.id
  | _ => none

variable {statement : Statement} {db : Db} {lock : Lock}

theorem mem_transferLocks {id source destination : Uuid} {exchangeRate reverses : Option Uuid} :
    lock ∈ transferLocks id source destination exchangeRate reverses ↔
      lock = ⟨.transfer id, .update⟩ ∨ lock = ⟨.account source, .keyShare⟩ ∨
      lock = ⟨.account destination, .keyShare⟩ ∨
      (∃ rate, exchangeRate = some rate ∧ lock = ⟨.exchangeRate rate, .keyShare⟩) ∨
      ∃ original, reverses = some original ∧
        (lock = ⟨.transfer original, .keyShare⟩ ∨ lock = ⟨.singleReversal original, .update⟩) := by
  cases exchangeRate <;> cases reverses <;> simp [transferLocks]

theorem lock_cases (member : lock ∈ statement.locks db) :
    (∃ scope, statement.scope? = some scope ∧ lock.resource = .idempotencyRecord scope) ∨
    (∃ entry, statement.entryRow? = some entry ∧ lock.resource = .accountEntry entry) ∨
    (∃ rate, lock = ⟨.exchangeRate rate, .keyShare⟩) ∨
    (∃ id, lock.resource = .account id) ∨ (∃ id, lock.resource = .transfer id) ∨
    ∃ original, lock.resource = .singleReversal original := by
  cases statement with
  | insertTransfer values =>
    rcases mem_transferLocks.mp member with rfl | rfl | rfl | ⟨rate, _, rfl⟩ | ⟨_, _, rfl | rfl⟩ <;>
      simp
  | insertEntry values =>
    simp only [locks, entryLocks, List.mem_cons, List.not_mem_nil, or_false] at member
    rcases member with rfl | rfl | rfl | rfl <;> simp [entryRow?]
  | insertAccount values =>
    simp only [locks, accountLocks, List.mem_singleton] at member
    simp [member]
  | insertRecord scope fingerprint retention =>
    simp only [locks] at member
    split at member
    · cases member
    · simp [List.mem_singleton.mp member, scope?]
  | updateRecord scope status body resource =>
    simp only [locks] at member
    split at member
    · simp [List.mem_singleton.mp member, scope?]
    · cases member
  | lockAccount id | lockTransfer id | updateAccount balance id =>
    simp only [locks] at member
    split at member
    · simp [List.mem_singleton.mp member]
    · cases member
  | _ => cases member

end Statement

/-- What every lock of a request is: its record is the one of its own key, its entries are new. -/
structure Lock.Proper (platform : Platform) (attempt : Attempt) (db : Db) (lock : Lock) : Prop where
  scope : ∀ scope, lock.resource = .idempotencyRecord scope →
    ∃ fingerprint, attempt.identity platform db = some (scope, fingerprint)
  entry : ∀ entry, lock.resource = .accountEntry entry →
    entry = attempt.ids.debitEntry ∨ entry = attempt.ids.creditEntry
  rate : ∀ rate, lock.resource = .exchangeRate rate → lock.mode = .keyShare

def Proper (platform : Platform) (attempt : Attempt) (locks : List Lock) (db : Db) : Prop :=
  ∀ lock ∈ locks, lock.Proper platform attempt db

def Uncontested (locks : List Lock) (wanted : Lock) : Prop :=
  ⟨wanted.resource, .update⟩ ∈ locks ∨ (∃ entry, wanted.resource = .accountEntry entry) ∨
    ∃ rate, wanted.resource = .exchangeRate rate

structure Orderly (platform : Platform) (attempt : Attempt) (statement : Statement)
    (locks : List Lock) (writes : List Write) (configuration : Configuration) (db : Db) : Prop where
  proper : Proper platform attempt locks db
  scope : ∀ scope, statement.scope? = some scope →
    ∃ fingerprint, attempt.identity platform db = some (scope, fingerprint)
  entry : ∀ entry, statement.entryRow? = some entry →
    entry = attempt.ids.debitEntry ∨ entry = attempt.ids.creditEntry
  ascending : ∀ answer, statement.exec platform attempt.started configuration
      ((engine platform).view db writes) = .ok answer →
    ∀ wanted ∈ statement.locks ((engine platform).view db writes), Uncontested locks wanted ∨
      ∀ lock ∈ locks, lock.resource.rank db < wanted.resource.rank db

section Stability

variable {platform : Platform} {attempt : Attempt} {db db' : Db} {locks more : List Lock}

theorem identity_evolves (evolves : Evolves [] db db') {identity : Scope × String}
    (known : attempt.identity platform db = some identity) :
    attempt.identity platform db' = some identity := by
  unfold Attempt.identity at known ⊢
  split at known
  · exact known
  · split at known
    · obtain ⟨preliminary, found, rest⟩ := Option.bind_eq_some_iff.mp known
      exact Option.bind_eq_some_iff.mpr ⟨preliminary, preliminary_evolves evolves found, rest⟩
    · exact known
  · exact known

theorem Proper.evolve (evolves : Evolves locks db db') (proper : Proper platform attempt more db) :
    Proper platform attempt more db' := by
  intro lock member
  obtain ⟨scope, entry, rate⟩ := proper lock member
  refine ⟨fun wanted same => ?_, entry, rate⟩
  obtain ⟨fingerprint, known⟩ := scope wanted same
  exact ⟨fingerprint, identity_evolves (evolves.fewer (List.nil_subset _)) known⟩

theorem Proper.append (proper : Proper platform attempt locks db) {statement : Statement}
    {seen : Db} (scope : ∀ scope, statement.scope? = some scope →
      ∃ fingerprint, attempt.identity platform db = some (scope, fingerprint))
    (entry : ∀ entry, statement.entryRow? = some entry →
      entry = attempt.ids.debitEntry ∨ entry = attempt.ids.creditEntry) :
    Proper platform attempt (locks ++ statement.locks seen) db := by
  intro lock member
  rcases List.mem_append.mp member with old | new
  · exact proper lock old
  · rcases Statement.lock_cases new with ⟨wanted, sent, same⟩ | ⟨wanted, sent, same⟩ | ⟨rate, rfl⟩ |
      ⟨id, same⟩ | ⟨id, same⟩ | ⟨original, same⟩
    · refine ⟨fun other equal => ?_, by simp [same], by simp [same]⟩
      cases same.symm.trans equal
      exact scope _ sent
    · refine ⟨by simp [same], fun other equal => ?_, by simp [same]⟩
      cases same.symm.trans equal
      exact entry _ sent
    all_goals constructor <;> simp_all

end Stability

section Rules

variable {platform : Platform} {attempt : Attempt} {locks : List Lock} {writes : List Write}
  {db db' : Db} {β : Type} {post : β → List Lock → List Write → Db → Prop}

abbrev Ordered (platform : Platform) (attempt : Attempt) (locks : List Lock) (writes : List Write)
    (db : Db) (post : β → List Lock → List Write → Db → Prop) (program : Handler β) : Prop :=
  program.Ensures (engine platform) Sound Evolves attempt (Orderly platform attempt)
    (fun _ locks db => Proper platform attempt locks db) locks writes db post

def Below (bound : Nat) (locks : List Lock) (db : Db) : Prop :=
  ∀ lock ∈ locks, lock.resource.rank db < bound

theorem rank_evolves (evolves : Evolves locks db db') (resource : Resource) :
    resource.rank db' ≤ resource.rank db := by
  cases resource with
  | transfer id =>
    simp only [Resource.rank]
    by_cases found : (db.transfer? id).isSome
    · obtain ⟨row, present⟩ := Option.isSome_iff_exists.mp found
      simp [evolves.transfer _ _ present, present]
    · rw [if_neg found]
      split <;> omega
  | _ => exact Nat.le_refl _

theorem Below.evolve {bound : Nat} {held : List Lock} (evolves : Evolves locks db db')
    (below : Below bound held db) : Below bound held db' :=
  fun lock member => Nat.lt_of_le_of_lt (rank_evolves evolves lock.resource) (below lock member)

theorem ordered_send_bind {statement : Statement} {f : statement.Result → Handler β}
    (proper : Proper platform attempt locks db)
    (scope : ∀ scope, statement.scope? = some scope →
      ∃ fingerprint, attempt.identity platform db = some (scope, fingerprint))
    (entry : ∀ entry, statement.entryRow? = some entry →
      entry = attempt.ids.debitEntry ∨ entry = attempt.ids.creditEntry)
    (ascending : ∀ configuration later answer, Evolves locks db later →
      statement.exec platform attempt.started configuration
        ((engine platform).view later writes) = .ok answer →
      ∀ wanted ∈ statement.locks ((engine platform).view later writes),
        Uncontested locks wanted ∨ Below (wanted.resource.rank later) locks later)
    (answers : ∀ configuration later answer more, Evolves locks db later →
      statement.exec platform attempt.started configuration
        ((engine platform).view later writes) = .ok (answer, more) →
      Proper platform attempt (locks ++ statement.locks ((engine platform).view later writes)) later →
      Ordered platform attempt (locks ++ statement.locks ((engine platform).view later writes))
        (writes ++ more) later post (f answer)) :
    Ordered platform attempt locks writes db post ((send statement).bind f) := by
  intro configuration later _ grown _
  have still := proper.evolve grown
  have known : ∀ scope, statement.scope? = some scope →
      ∃ fingerprint, attempt.identity platform later = some (scope, fingerprint) := by
    intro wanted sent
    obtain ⟨fingerprint, same⟩ := scope wanted sent
    exact ⟨fingerprint, identity_evolves (grown.fewer (List.nil_subset _)) same⟩
  refine ⟨⟨still, known, entry, fun answer ran => ascending configuration later answer grown ran⟩,
    fun _ _ => still, fun answer more ran => ?_⟩
  exact answers configuration later answer more grown ran (still.append known entry)

structure Statement.Free (statement : Statement) : Prop where
  unlocked : ∀ db, statement.locks db = []
  scope : statement.scope? = none
  entry : statement.entryRow? = none
  silent : ∀ {platform now configuration db answer more},
    statement.exec platform now configuration db = .ok (answer, more) → more = []

theorem ordered_ask_bind {statement : Statement} (free : statement.Free)
    {f : Except DbError statement.Result → Handler β} (proper : Proper platform attempt locks db)
    (answers : ∀ answer later, Evolves locks db later →
      Ordered platform attempt locks writes later post (f answer)) :
    Ordered platform attempt locks writes db post ((ask statement).bind f) := by
  obtain ⟨unlocked, noScope, noEntry, silent⟩ := free
  intro configuration later _ grown _
  refine ⟨⟨proper.evolve grown, by simp [noScope], by simp [noEntry], by simp [unlocked]⟩,
    fun error _ => answers _ later grown, fun answer more ran => ?_⟩
  have same : (engine platform).locks attempt statement ((engine platform).view later writes) = [] :=
    unlocked _
  have nothing : more = [] := silent ran
  rw [same, nothing, List.append_nil, List.append_nil]
  exact answers _ later grown

theorem ordered_read_bind {statement : Statement} {f : statement.Result → Handler β}
    (read : Configuration → Db → statement.Result)
    (total : ∀ configuration db, statement.exec platform attempt.started configuration db =
      .ok (read configuration db, []))
    (unlocked : ∀ db, statement.locks db = []) (noEntry : statement.entryRow? = none)
    (proper : Proper platform attempt locks db)
    (scope : ∀ scope, statement.scope? = some scope →
      ∃ fingerprint, attempt.identity platform db = some (scope, fingerprint))
    (answers : ∀ configuration later, Evolves locks db later →
      Ordered platform attempt locks writes later post
        (f (read configuration ((engine platform).view later writes)))) :
    Ordered platform attempt locks writes db post ((send statement).bind f) := by
  apply ordered_send_bind proper scope (by simp [noEntry]) (by simp [unlocked])
  intro configuration later answer more grown ran _
  rw [total] at ran
  cases ran
  rw [unlocked, List.append_nil, List.append_nil]
  exact answers configuration later grown

theorem ordered_ofExcept_bind {α : Type} {value : Except Failure α} {f : α → Handler β}
    (proper : Proper platform attempt locks db)
    (step : ∀ result, value = .ok result → Ordered platform attempt locks writes db post (f result)) :
    Ordered platform attempt locks writes db post ((Program.ofExcept value).bind f) :=
  ensures_ofExcept_bind.mpr ⟨fun _ _ => proper, step⟩

theorem ordered_orFail_bind {α : Type} {failure : Failure} {value : Option α} {f : α → Handler β}
    (proper : Proper platform attempt locks db)
    (step : ∀ result, value = some result → Ordered platform attempt locks writes db post (f result)) :
    Ordered platform attempt locks writes db post ((Program.orFail failure value).bind f) :=
  ensures_orFail_bind.mpr ⟨fun _ => proper, step⟩

theorem ordered_ensure_bind {condition : Prop} [Decidable condition] {failure : Failure}
    {f : Unit → Handler β} (proper : Proper platform attempt locks db)
    (step : condition → Ordered platform attempt locks writes db post (f ())) :
    Ordered platform attempt locks writes db post ((Program.ensure condition failure).bind f) :=
  ensures_ensure_bind.mpr ⟨fun _ => proper, step⟩

theorem ordered_lockAccounts_bind {ids : List Uuid} {f : List LockedAccount → Handler β}
    (sorted : ids.Pairwise (· < ·)) (proper : Proper platform attempt locks db)
    (below : Below (2 + 2 ^ 128) locks db) (ascending : ∀ id ∈ ids, Below (2 + id.toNat) locks db)
    (step : ∀ rows later locks', locks ⊆ locks' → Evolves locks db later →
      Proper platform attempt locks' later → Below (2 + 2 ^ 128) locks' later →
      (∀ row ∈ rows, ⟨.account row.id, .update⟩ ∈ locks') →
      Ordered platform attempt locks' writes later post (f rows)) :
    Ordered platform attempt locks writes db post ((lockAccounts ids).bind f) := by
  induction ids generalizing locks db f with
  | nil => exact step [] db locks (List.Subset.refl _) (.refl _ _) proper below (by simp)
  | cons id rest ih =>
    simp only [lockAccounts, Program.bind_eq, Program.bind_assoc, Program.done_bind]
    rw [List.pairwise_cons] at sorted
    have first := ascending id List.mem_cons_self
    -- The account's lock, where there is one.
    have only : ∀ {seen : Db} {lock : Lock}, lock ∈ (Statement.lockAccount id).locks seen →
        lock = ⟨.account id, .update⟩ := by
      intro seen lock member
      simp only [Statement.locks] at member
      split at member
      · exact List.mem_singleton.mp member
      · cases member
    apply ordered_send_bind proper (by simp [Statement.scope?]) (by simp [Statement.entryRow?])
    · intro configuration later answer grown _ wanted member
      rw [only member]
      exact .inr (first.evolve grown)
    intro configuration later row more grown ran proper'
    cases ran
    have bounded : ∀ {bound : Nat}, Below bound locks db → 2 + id.toNat < bound →
        Below bound (locks ++ (Statement.lockAccount id).locks ((engine platform).view later writes))
          later := by
      intro bound old new lock member
      rcases List.mem_append.mp member with held | taken
      · exact old.evolve grown lock held
      · rw [only taken]
        exact new
    rw [List.append_nil]
    apply ih sorted.2 proper'
    · exact bounded below (by omega)
    · intro next member
      have smaller : id.toNat < next.toNat := sorted.1 next member
      exact bounded (ascending next (List.mem_cons_of_mem _ member)) (by omega)
    · intro rows later' locks' fewer grown' proper'' below' held
      apply step
      · exact List.Subset.trans (List.subset_append_left _ _) fewer
      · exact grown.trans (grown'.fewer (List.subset_append_left _ _))
      · exact proper''
      · exact below'
      · intro one member
        rcases List.mem_append.mp member with new | old
        · obtain ⟨account, found, rfl⟩ := Option.map_eq_some_iff.mp (Option.mem_toList.mp new)
          have same : account.id = id := Table.key_of_lookup found
          apply fewer
          simp [Statement.locks, found, Account.locked, same]
        · exact held one old

theorem ordered_selectAccountsForUpdate_bind {ids : List Uuid} {f : List LockedAccount → Handler β}
    (proper : Proper platform attempt locks db) (below : Below 2 locks db)
    (step : ∀ rows later locks', locks ⊆ locks' → Evolves locks db later →
      Proper platform attempt locks' later → Below (2 + 2 ^ 128) locks' later →
      (∀ row ∈ rows, ⟨.account row.id, .update⟩ ∈ locks') →
      Ordered platform attempt locks' writes later post (f rows)) :
    Ordered platform attempt locks writes db post ((selectAccountsForUpdate ids).bind f) := by
  have more : ∀ {bound : Nat}, 2 ≤ bound → Below bound locks db :=
    fun le lock member => Nat.lt_of_lt_of_le (below lock member) le
  apply ordered_lockAccounts_bind _ proper (more (by omega)) (fun _ _ => more (by omega)) step
  have sorted := List.pairwise_insertionSort (· ≤ ·) ids.dedup
  have unique : (ids.dedup.insertionSort (· ≤ ·)).Nodup :=
    (List.perm_insertionSort _ _).nodup_iff.mpr ids.nodup_dedup
  refine (sorted.and unique).imp ?_
  rintro first second ⟨le, different⟩
  bv_omega

theorem transfer?_view_eq_none {writes : List Write} {id : Uuid}
    (unused : ((engine platform).view db writes).transfer? id = none) : db.transfer? id = none := by
  induction writes generalizing db with
  | nil => exact unused
  | cons write rest ih =>
    rw [Engine.view_cons] at unused
    have before := ih unused
    rw [engine_apply, Db.transfer?_apply] at before
    split at before
    · exact (Option.or_eq_none_iff.mp before).1
    · exact before

structure Posting.Ready (posting : Posting) (attempt : Attempt) (locks : List Lock) : Prop where
  source : ⟨.account posting.transfer.sourceAccountId, .update⟩ ∈ locks
  destination : ⟨.account posting.transfer.destinationAccountId, .update⟩ ∈ locks
  original : ∀ original, posting.transfer.reversesTransferId = some original →
    ⟨.transfer original, .update⟩ ∈ locks
  debit : posting.debit.id = attempt.ids.debitEntry ∧
    posting.debit.accountId = posting.transfer.sourceAccountId ∧
    posting.debit.transferId = posting.transfer.id ∧
    posting.debit.counterpartyAccountId = posting.transfer.destinationAccountId
  credit : posting.credit.id = attempt.ids.creditEntry ∧
    posting.credit.accountId = posting.transfer.destinationAccountId ∧
    posting.credit.transferId = posting.transfer.id ∧
    posting.credit.counterpartyAccountId = posting.transfer.sourceAccountId

theorem ordered_updateAccount_bind {balance : I64} {id : Uuid} {f : Nat → Handler β}
    (proper : Proper platform attempt locks db) (held : ⟨.account id, .update⟩ ∈ locks)
    (step : ∀ count later locks' writes', locks ⊆ locks' → Evolves locks db later →
      Proper platform attempt locks' later →
      Ordered platform attempt locks' writes' later post (f count)) :
    Ordered platform attempt locks writes db post ((send (.updateAccount balance id)).bind f) := by
  apply ordered_send_bind proper (by simp [Statement.scope?]) (by simp [Statement.entryRow?])
  · intro configuration later answer grown _ wanted member
    simp only [Statement.locks] at member
    split at member
    · rw [List.mem_singleton.mp member]
      exact .inl (.inl held)
    · cases member
  · intro configuration later count more grown _ proper'
    exact step count later _ _ (List.subset_append_left _ _) grown proper'

theorem ordered_insertEntry_bind {values : EntryValues} {f : Unit → Handler β}
    (proper : Proper platform attempt locks db)
    (own : values.id = attempt.ids.debitEntry ∨ values.id = attempt.ids.creditEntry)
    (account : ⟨.account values.accountId, .update⟩ ∈ locks)
    (transfer : ⟨.transfer values.transferId, .update⟩ ∈ locks)
    (counterparty : ⟨.account values.counterpartyAccountId, .update⟩ ∈ locks)
    (step : ∀ later locks' writes', locks ⊆ locks' → Evolves locks db later →
      Proper platform attempt locks' later →
      Ordered platform attempt locks' writes' later post (f ())) :
    Ordered platform attempt locks writes db post ((send (.insertEntry values)).bind f) := by
  apply ordered_send_bind proper (by simp [Statement.scope?])
  · rintro entry ⟨⟩
    exact own
  · intro configuration later answer grown _ wanted member
    simp only [Statement.locks, entryLocks, List.mem_cons, List.not_mem_nil, or_false] at member
    left
    rcases member with rfl | rfl | rfl | rfl
    · exact .inr (.inl ⟨_, rfl⟩)
    · exact .inl account
    · exact .inl transfer
    · exact .inl counterparty
  · intro configuration later _ more grown _ proper'
    exact step later _ _ (List.subset_append_left _ _) grown proper'

theorem ordered_post_bind {posting : Posting} {f : String → Handler β}
    (ready : posting.Ready attempt locks) (proper : Proper platform attempt locks db)
    (below : Below (2 + 2 ^ 128) locks db)
    (step : ∀ createdAt later locks' writes', locks ⊆ locks' → Evolves locks db later →
      Proper platform attempt locks' later →
      Ordered platform attempt locks' writes' later post (f createdAt)) :
    Ordered platform attempt locks writes db post ((LedgerService.post posting).bind f) := by
  simp only [LedgerService.post, Program.bind_eq, Program.bind_assoc]
  apply ordered_send_bind proper (by simp [Statement.scope?]) (by simp [Statement.entryRow?])
  · intro configuration later answer grown ran wanted member
    obtain ⟨createdAt, added⟩ := answer
    obtain ⟨rate, _, checked, _⟩ := insertTransfer_eq_ok.mp ran
    simp only [transferChecks, firstViolation_cons, Option.isNone_iff_eq_none] at checked
    -- A transfer that can be inserted is not committed, so it ranks above the accounts.
    have unused : later.transfer? posting.transfer.id = none :=
      transfer?_view_eq_none checked.2.2.2.2.2.2.2.2.2.1
    rcases Statement.mem_transferLocks.mp member with rfl | rfl | rfl | ⟨_, _, rfl⟩ |
      ⟨original, reverses, rfl | rfl⟩
    · right
      simpa [Resource.rank, unused] using below.evolve grown
    · exact .inl (.inl ready.source)
    · exact .inl (.inl ready.destination)
    · exact .inl (.inr (.inr ⟨_, rfl⟩))
    · exact .inl (.inl (ready.original original reverses))
    · right
      intro lock held
      have least := below.evolve grown lock held
      have above : (Resource.singleReversal original).rank later = 3 + 2 ^ 128 := rfl
      rw [above]
      omega
  intro configuration later₁ createdAt more grown₁ ran proper₁
  have held : ∀ {lock : Lock}, lock ∈ locks → lock ∈ locks ++
      (Statement.insertTransfer posting.transfer).locks ((engine platform).view later₁ writes) :=
    List.mem_append_left _
  have new : ⟨.transfer posting.transfer.id, .update⟩ ∈ locks ++
      (Statement.insertTransfer posting.transfer).locks ((engine platform).view later₁ writes) :=
    List.mem_append_right _ (Statement.mem_transferLocks.mpr (.inl rfl))
  apply ordered_updateAccount_bind proper₁ (held ready.source)
  intro _ later₂ locks₂ _ more₂ grown₂ proper₂
  apply ordered_updateAccount_bind proper₂ (more₂ (held ready.destination))
  intro _ later₃ locks₃ _ more₃ grown₃ proper₃
  have kept₃ : ∀ {lock : Lock}, lock ∈ locks → lock ∈ locks₃ := fun member =>
    more₃ (more₂ (held member))
  obtain ⟨debitId, debitAccount, debitTransfer, debitOther⟩ := ready.debit
  obtain ⟨creditId, creditAccount, creditTransfer, creditOther⟩ := ready.credit
  apply ordered_insertEntry_bind proper₃ (.inl debitId) (debitAccount ▸ kept₃ ready.source)
    (debitTransfer ▸ more₃ (more₂ new)) (debitOther ▸ kept₃ ready.destination)
  intro later₄ locks₄ _ more₄ grown₄ proper₄
  apply ordered_insertEntry_bind proper₄ (.inr creditId)
    (creditAccount ▸ more₄ (kept₃ ready.destination))
    (creditTransfer ▸ more₄ (more₃ (more₂ new))) (creditOther ▸ more₄ (kept₃ ready.source))
  intro later₅ locks₅ writes₅ more₅ grown₅ proper₅
  apply step createdAt later₅ locks₅ writes₅ _ _ proper₅
  · exact fun _ member => more₅ (more₄ (kept₃ member))
  · exact (((grown₁.trans (grown₂.fewer fun _ => held)).trans
      (grown₃.fewer fun _ member => more₂ (held member))).trans
        (grown₄.fewer fun _ => kept₃)).trans (grown₅.fewer fun _ member => more₄ (kept₃ member))

theorem ordered_storeSuccess_bind {scope : Scope} {httpStatus : Int} {responseBody : Value}
    {resource : Uuid} {fingerprint : String} {f : Unit → Handler β}
    (proper : Proper platform attempt locks db)
    (known : attempt.identity platform db = some (scope, fingerprint))
    (held : ⟨.idempotencyRecord scope, .update⟩ ∈ locks)
    (step : ∀ later locks' writes', Proper platform attempt locks' later →
      Ordered platform attempt locks' writes' later post (f ())) :
    Ordered platform attempt locks writes db post
      ((storeSuccess scope httpStatus responseBody resource).bind f) := by
  simp only [storeSuccess, Program.bind_eq, Program.bind_assoc]
  apply ordered_send_bind proper _ (by simp [Statement.entryRow?])
  · intro configuration later answer grown _ wanted member
    simp only [Statement.locks] at member
    split at member
    · rw [List.mem_singleton.mp member]
      exact .inl (.inl held)
    · cases member
  · intro configuration later _ more grown _ proper'
    exact step later _ _ proper'
  · rintro wanted ⟨⟩
    exact ⟨fingerprint, known⟩

end Rules

section Handlers

variable {platform : Platform} {attempt : Attempt} {locks : List Lock} {writes : List Write}
  {db : Db} {scope : Scope} {fingerprint : String}

structure Reserved (scope : Scope) (locks : List Lock) : Prop where
  held : ⟨.idempotencyRecord scope, .update⟩ ∈ locks
  only : ∀ lock ∈ locks, ∃ scope, lock.resource = .idempotencyRecord scope

theorem Reserved.below (reserved : Reserved scope locks) : Below 1 locks db := by
  intro lock member
  obtain ⟨scope, same⟩ := reserved.only lock member
  simp [same, Resource.rank]

theorem proper_nil (platform : Platform) (attempt : Attempt) (db : Db) :
    Proper platform attempt [] db := by
  intro lock member
  cases member

section Reservations

variable {β : Type} {post : β → List Lock → List Write → Db → Prop}

theorem ordered_reserve_bind {f : Reservation → Handler β}
    (known : attempt.identity platform db = some (scope, fingerprint))
    (lost : ∀ result later, result ≠ .owned → Evolves [] db later →
      Ordered platform attempt [] [] later post (f result))
    (owned : ∀ record later locks', Evolves [] db later → Reserved scope locks' →
      Proper platform attempt locks' later →
      Ordered platform attempt locks' [.insertRecord record] later post (f .owned)) :
    Ordered platform attempt [] [] db post ((reserve platform scope fingerprint).bind f) := by
  have proper := fun db => proper_nil platform attempt db
  have mine : ∀ {later : Db}, Evolves [] db later → ∀ wanted, some scope = some wanted →
      ∃ fingerprint, attempt.identity platform later = some (wanted, fingerprint) := by
    rintro later grown wanted ⟨⟩
    exact ⟨fingerprint, identity_evolves grown known⟩
  simp only [reserve, Program.bind_eq, Program.bind_assoc]
  apply ordered_orFail_bind (proper _)
  intro retention _
  apply ordered_send_bind (proper db)
  · exact mine (.refl _ _)
  · simp [Statement.entryRow?]
  · intro configuration later answer grown _ wanted member
    right
    intro lock held
    cases held
  intro configuration later inserted more grown ran proper'
  obtain ⟨expiresAt, _, _, found⟩ := insertRecord_eq_ok.mp ran
  rcases found with ⟨row, found, rfl, rfl⟩ | ⟨unused, rfl, rfl⟩
  · have another : ¬ (0 : Nat) = 1 := by decide
    have none : (Statement.insertRecord scope fingerprint retention).locks
        ((engine platform).view later []) = [] := by
      simp [Statement.locks, show later.record? scope = some row from found]
    rw [if_neg another, none, Program.bind_assoc]
    apply ordered_read_bind (fun _ db => (db.record? scope).map fun row =>
      ⟨row.requestFingerprint, row.httpStatus, row.responseBody⟩) (fun _ _ => rfl) (fun _ => rfl) rfl
      (proper later)
    · exact mine grown
    intro configuration' later' grown'
    rw [Program.bind_assoc]
    apply ordered_orFail_bind (proper _)
    intro record _
    split
    · exact lost .conflict later' (by simp) (grown.trans grown')
    · split
      · exact lost (.replay _ _) later' (by simp) (grown.trans grown')
      · exact proper _
  · have taken : (Statement.insertRecord scope fingerprint retention).locks
        ((engine platform).view later []) = [⟨.idempotencyRecord scope, .update⟩] := by
      simp [Statement.locks, show later.record? scope = none from unused]
    rw [taken] at proper' ⊢
    rw [if_pos rfl]
    exact owned _ later _ grown ⟨by simp, by simp⟩ proper'

theorem ordered_replayOrReserve_bind {f : Option Success → Handler β}
    (known : attempt.identity platform db = some (scope, fingerprint))
    (replayed : ∀ success later, Ordered platform attempt [] [] later post (f (some success)))
    (owned : ∀ record later locks', Evolves [] db later → Reserved scope locks' →
      Proper platform attempt locks' later →
      Ordered platform attempt locks' [.insertRecord record] later post (f none)) :
    Ordered platform attempt [] [] db post
      ((replayOrReserve platform scope fingerprint).bind f) := by
  have proper := fun db => proper_nil platform attempt db
  have replay : ∀ httpStatus responseBody later, Ordered platform attempt [] [] later post
      ((replaySuccess httpStatus responseBody).bind f) := by
    intro httpStatus responseBody later
    simp only [replaySuccess, Program.bind_eq, Program.bind_assoc]
    rw [Ordered, ensures_emit_bind]
    apply ordered_ofExcept_bind (proper _)
    intro status _
    exact replayed _ later
  simp only [replayOrReserve, completedSuccess, Program.bind_eq, Program.bind_assoc]
  apply ordered_read_bind (fun _ db => (db.record? scope).map fun row =>
    ⟨row.requestFingerprint, row.httpStatus, row.responseBody⟩) (fun _ _ => rfl) (fun _ => rfl) rfl
    (proper _)
  · rintro wanted ⟨⟩
    exact ⟨fingerprint, known⟩
  intro configuration later grown
  split
  · rw [Program.done_bind]
    simp only [replayReserved, Program.bind_eq, Program.bind_assoc]
    apply ordered_reserve_bind (identity_evolves grown known)
    · intro result later' lost grown'
      cases result with
      | owned => exact absurd rfl lost
      | replay httpStatus responseBody => exact replay httpStatus responseBody later'
      | conflict => exact proper _
    · intro record later' locks' grown' reserved proper'
      rw [Program.bind_assoc, Ordered, ensures_emit_bind]
      exact owned record later' locks' (grown.trans grown') reserved proper'
  · simp only [Program.bind_assoc]
    apply ordered_orFail_bind (proper _)
    intro httpStatus _
    apply ordered_orFail_bind (proper _)
    intro responseBody _
    rw [Program.done_bind]
    dsimp only
    split
    · exact proper _
    · exact replay httpStatus responseBody later

end Reservations

abbrev OrderedHandler (platform : Platform) (attempt : Attempt) (locks : List Lock)
    (writes : List Write) (db : Db) (program : Handler Reply) : Prop :=
  Ordered platform attempt locks writes db (fun _ locks _ db => Proper platform attempt locks db)
    program

theorem performAccountCreation_ordered {clientId : String} {id : Uuid} {request : AccountRequest}
    (known : attempt.identity platform db = some (scope, fingerprint))
    (reserved : Reserved scope locks) (proper : Proper platform attempt locks db) :
    OrderedHandler platform attempt locks writes db
      (performAccountCreation clientId id scope request) := by
  simp only [performAccountCreation, Program.bind_eq]
  apply ordered_send_bind proper (by simp [Statement.scope?]) (by simp [Statement.entryRow?])
  · intro configuration later answer grown _ wanted member
    rw [List.mem_singleton.mp member]
    right
    intro lock held
    have least := @Reserved.below _ later _ reserved lock held
    have above : (Resource.account id).rank later = 2 + id.toNat := rfl
    rw [above]
    omega
  intro configuration later _ more grown _ proper'
  apply ordered_ofExcept_bind proper'
  intro responseBody _
  apply ordered_storeSuccess_bind proper'
    (identity_evolves (grown.fewer (List.nil_subset _)) known)
    (List.mem_append_left _ reserved.held)
  intro later' locks' writes' proper''
  exact proper''

section Configurations

variable {β : Type} {post : β → List Lock → List Write → Db → Prop} {source destination : String}
  {time : Timestamp}

theorem ordered_selectExchangeRate_bind {f : Except ConfigurationError ExchangeRate → Handler β}
    (proper : Proper platform attempt locks db)
    (step : ∀ result later, Evolves locks db later →
      Ordered platform attempt locks writes later post (f result)) :
    Ordered platform attempt locks writes db post
      ((selectExchangeRate source destination time).bind f) := by
  simp only [selectExchangeRate, Program.bind_eq, Program.bind_assoc]
  apply ordered_ask_bind ⟨fun _ => rfl, rfl, rfl, by rintro _ _ _ _ _ _ ⟨⟩; rfl⟩ proper
  intro answer later grown
  rcases answer with error | _ | ⟨rate, _ | ⟨other, rates⟩⟩ <;> exact step _ later grown

theorem ordered_selectFeeRule_bind {f : Except ConfigurationError FeeRule → Handler β}
    (proper : Proper platform attempt locks db)
    (step : ∀ result later, Evolves locks db later →
      Ordered platform attempt locks writes later post (f result)) :
    Ordered platform attempt locks writes db post
      ((selectFeeRule source destination time).bind f) := by
  simp only [selectFeeRule, Program.bind_eq, Program.bind_assoc]
  apply ordered_ask_bind ⟨fun _ => rfl, rfl, rfl, by rintro _ _ _ _ _ _ ⟨⟩; rfl⟩ proper
  intro answer later grown
  rcases answer with error | _ | ⟨rule, _ | ⟨other, rules⟩⟩
  · exact step _ later grown
  · rw [Program.bind_assoc]
    apply ordered_ask_bind ⟨fun _ => rfl, rfl, rfl, by rintro _ _ _ _ _ _ ⟨⟩; rfl⟩ (proper.evolve grown)
    intro answer later' grown'
    rcases answer with error | _ | ⟨rule, _ | ⟨other, rules⟩⟩ <;>
      exact step _ later' (grown.trans grown')
  · exact step _ later grown
  · exact step _ later grown

theorem ordered_selectFxConfiguration_bind {operationType : OperationType}
    {preliminary : Preliminary} {f : Option (ExchangeRate × FeeRule) → Handler β}
    (proper : Proper platform attempt locks db)
    (step : ∀ result later, Evolves locks db later →
      Ordered platform attempt locks writes later post (f result)) :
    Ordered platform attempt locks writes db post
      ((selectFxConfiguration operationType preliminary time).bind f) := by
  unfold selectFxConfiguration
  split
  · simp only [Program.bind_eq, Program.bind_assoc]
    apply ordered_selectExchangeRate_bind proper
    intro rate later grown
    apply ordered_ofExcept_bind (proper.evolve grown)
    intro _ _
    apply ordered_selectFeeRule_bind (proper.evolve grown)
    intro rule later' grown'
    apply ordered_ofExcept_bind (proper.evolve (grown.trans grown'))
    intro _ _
    exact step _ later' (grown.trans grown')
  · exact step none db (.refl _ _)

end Configurations

end Handlers

end LedgerService
