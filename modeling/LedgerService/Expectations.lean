import LedgerService.Foresight
import LedgerService.Sessions

set_option autoImplicit false

namespace LedgerService

open Transaction

/-- The columns that are cast by `as u8` and `as u16` keep their values. -/
def Statement.Lossless : (statement : Statement) → statement.Result → Prop
  | .lockAccount _, answer => ∀ row, answer = some row → (asU8 row.scale : Int) = row.scale
  | .selectRecord _, answer => ∀ record status, answer = some record →
      record.httpStatus = some status → (asU16 status : Int) = status
  | _, _ => True

def Statement.Accepted (platform : Platform) (attempt : Attempt) (configuration : Configuration)
    (db : Db) (statement : Statement) : Prop :=
  ∃ answer writes, statement.exec platform attempt.started configuration db = .ok (answer, writes) ∧
    statement.Lossless answer

/-- What a request relies on in every committed state while it is under way. -/
structure Whole (attempt : Attempt) (configuration : Configuration) (db : Db) : Prop where
  sound : Sound configuration db
  valid : configuration.Valid
  listed : ∀ account ∈ db.accounts, account.Listed
  charged : ∀ transfer ∈ db.transfers,
    0 < transfer.totalSourceDebitMinor.val ∧ 0 < transfer.destinationAmountMinor.val
  unopened : db.account? attempt.ids.resource = none
  fresh : (∀ body, attempt.request ≠ .createAccount body) → attempt.Fresh db
  room : ∀ account ∈ db.accounts, account.version.val < I64.max

section Rules

variable {platform : Platform} {attempt : Attempt} {locks : List Lock} {writes : List Write}
  {configuration : Configuration} {db : Db} {β : Type}
  {post : β → List Lock → List Write → Configuration → Db → Prop}

abbrev Sane (platform : Platform) (attempt : Attempt) (locks : List Lock) (writes : List Write)
    (configuration : Configuration) (db : Db)
    (post : β → List Lock → List Write → Configuration → Db → Prop) (program : Handler β) : Prop :=
  program.Tracks (engine platform) (Whole attempt) Configuration.Within Evolves attempt
    (fun _ => False)
    (fun statement _ writes configuration db =>
      statement.Accepted platform attempt configuration ((engine platform).view db writes))
    (fun failure _ _ => failure.Foreseen) locks writes configuration db post

theorem sane_query {statement : Statement}
    {next : Except DbError statement.Result → Handler β}
    (step : ∀ configuration' db', Whole attempt configuration' db' →
      configuration.Within configuration' → Evolves locks db db' →
      ∃ answer more, statement.exec platform attempt.started configuration'
          ((engine platform).view db' writes) = .ok (answer, more) ∧ statement.Lossless answer ∧
        Sane platform attempt (locks ++ statement.locks ((engine platform).view db' writes))
          (writes ++ more) configuration' db' post (next (.ok answer))) :
    Sane platform attempt locks writes configuration db post (.query statement next) := by
  intro configuration' db' whole within evolves _
  obtain ⟨answer, more, ran, lossless, rest⟩ := step configuration' db' whole within evolves
  refine ⟨⟨answer, more, ran, lossless⟩, ?_, ?_⟩
  · rintro error (impossible | refused)
    · exact impossible.elim
    · cases ran.symm.trans refused
  · intro answer' more' ran'
    cases ran.symm.trans ran'
    exact rest

theorem sane_send_bind {statement : Statement} {f : statement.Result → Handler β}
    (step : ∀ configuration' db', Whole attempt configuration' db' →
      configuration.Within configuration' → Evolves locks db db' →
      ∃ answer more, statement.exec platform attempt.started configuration'
          ((engine platform).view db' writes) = .ok (answer, more) ∧ statement.Lossless answer ∧
        Sane platform attempt (locks ++ statement.locks ((engine platform).view db' writes))
          (writes ++ more) configuration' db' post (f answer)) :
    Sane platform attempt locks writes configuration db post ((send statement).bind f) :=
  sane_query step

theorem sane_read_bind {statement : Statement} {f : statement.Result → Handler β}
    (lockless : ∀ db, statement.locks db = [])
    (step : ∀ configuration' db', Whole attempt configuration' db' →
      configuration.Within configuration' → Evolves locks db db' →
      ∃ answer, statement.exec platform attempt.started configuration'
          ((engine platform).view db' writes) = .ok (answer, []) ∧ statement.Lossless answer ∧
        Sane platform attempt locks writes configuration' db' post (f answer)) :
    Sane platform attempt locks writes configuration db post ((send statement).bind f) := by
  apply sane_send_bind
  intro configuration' db' whole within evolves
  obtain ⟨answer, ran, lossless, rest⟩ := step configuration' db' whole within evolves
  exact ⟨answer, [], ran, lossless, by simpa only [lockless, List.append_nil] using rest⟩

theorem sane_ask_read_bind {statement : Statement}
    {f : Except DbError statement.Result → Handler β} (lockless : ∀ db, statement.locks db = [])
    (step : ∀ configuration' db', Whole attempt configuration' db' →
      configuration.Within configuration' → Evolves locks db db' →
      ∃ answer, statement.exec platform attempt.started configuration'
          ((engine platform).view db' writes) = .ok (answer, []) ∧ statement.Lossless answer ∧
        Sane platform attempt locks writes configuration' db' post (f (.ok answer))) :
    Sane platform attempt locks writes configuration db post ((ask statement).bind f) := by
  apply sane_query
  intro configuration' db' whole within evolves
  obtain ⟨answer, ran, lossless, rest⟩ := step configuration' db' whole within evolves
  refine ⟨answer, [], ran, lossless, ?_⟩
  simpa only [lockless, List.append_nil, Program.done_bind] using rest

theorem sane_ofExcept_bind {α : Type} {value : Except Failure α} {f : α → Handler β}
    (foresees : Foresees value)
    (step : ∀ result, value = .ok result →
      Sane platform attempt locks writes configuration db post (f result)) :
    Sane platform attempt locks writes configuration db post ((Program.ofExcept value).bind f) :=
  tracks_ofExcept_bind.mpr ⟨foresees, step⟩

end Rules

section Reservations

variable {platform : Platform} {attempt : Attempt} {locks : List Lock} {configuration : Configuration}
  {db : Db} {β : Type} {post : β → List Lock → List Write → Configuration → Db → Prop}
  {scope : Scope} {fingerprint : String}

theorem asU16_created : (asU16 created : Int) = created := rfl

theorem Whole.complete {scope : Scope} {row : IdempotencyRecord}
    (whole : Whole attempt configuration db) (found : db.record? scope = some row) : row.Complete :=
  whole.sound.corresponding.complete row (Table.mem_of_lookup found)

theorem Whole.record_lossless (whole : Whole attempt configuration db) (scope : Scope) :
    (Statement.selectRecord scope).Lossless ((db.record? scope).map fun row =>
      ⟨row.requestFingerprint, row.httpStatus, row.responseBody⟩) := by
  intro record status answered stored
  obtain ⟨row, found, rfl⟩ := Option.map_eq_some_iff.mp answered
  rw [(whole.complete found).status] at stored
  cases stored
  exact asU16_created

theorem reserve_sane (reservable : attempt.Reservable platform scope fingerprint)
    {f : Reservation → Handler β}
    (replayed : ∀ body configuration' db', Sane platform attempt locks [] configuration' db' post
      (f (.replay created body)))
    (conflicting : ∀ configuration' db', Sane platform attempt locks [] configuration' db' post
      (f .conflict))
    (owned : ∀ record configuration' db' locks', record.scope = scope →
      firstViolation (recordChecks platform record) = .ok () → Whole attempt configuration' db' →
      configuration.Within configuration' → Evolves locks db db' → Owns scope locks' db' →
      Sane platform attempt locks' [.insertRecord record] configuration' db' post (f .owned)) :
    Sane platform attempt locks [] configuration db post
      ((reserve platform scope fingerprint).bind f) := by
  obtain ⟨retention, expiresAt, fits, expires, checked⟩ := reservable
  simp only [reserve, fits, Program.orFail, Program.bind_eq, Program.bind_assoc, Program.done_bind]
  apply sane_send_bind
  intro configuration₁ db₁ whole₁ within₁ evolves₁
  cases found : db₁.record? scope with
  | none =>
    -- The key is taken by this session, which holds it until it ends.
    refine ⟨1, [.insertRecord (reservation attempt.started expiresAt scope fingerprint)],
      insertRecord_eq_ok.mpr ⟨expiresAt, expires, checked, .inr ⟨found, rfl, rfl⟩⟩, trivial, ?_⟩
    apply owned _ _ _ _ rfl checked whole₁ within₁ evolves₁
    exact ⟨.of_update (by simp [Statement.locks, found]), found⟩
  | some row =>
    refine ⟨0, [], insertRecord_eq_ok.mpr ⟨expiresAt, expires, checked,
      .inl ⟨row, found, rfl, rfl⟩⟩, trivial, ?_⟩
    have unlocked : (Statement.insertRecord scope fingerprint retention).locks
        ((engine platform).view db₁ []) = [] := by simp [Statement.locks, found]
    rw [unlocked, List.append_nil, if_neg Nat.zero_ne_one, Program.bind_assoc]
    apply sane_read_bind (fun _ => rfl)
    intro configuration₂ db₂ whole₂ _ evolves₂
    refine ⟨_, rfl, whole₂.record_lossless scope, ?_⟩
    have still := evolves₂.record scope row found
    have complete := whole₂.complete still
    obtain ⟨body, resource, responded, _⟩ := complete.body
    simp only [List.append_nil, Engine.view_nil, still, Option.map_some, Program.done_bind,
      complete.status, responded]
    by_cases same : row.requestFingerprint = fingerprint
    · simp only [same, ne_eq, not_true_eq_false, if_false]
      exact replayed body _ _
    · simp only [same, ne_eq, not_false_eq_true, if_true, Program.done_bind]
      exact conflicting _ _

theorem rejectConflict_sane {writes : List Write} {f : Option Success → Handler β} :
    Sane platform attempt locks writes configuration db post (rejectConflict.bind f) :=
  foreseen_app (by simp)

theorem replayOrReserve_sane (reservable : attempt.Reservable platform scope fingerprint)
    {f : Option Success → Handler β}
    (replayed : ∀ body configuration' db', Sane platform attempt locks [] configuration' db' post
      (f (some ⟨created, body⟩)))
    (owned : ∀ record configuration' db' locks', record.scope = scope →
      firstViolation (recordChecks platform record) = .ok () → Whole attempt configuration' db' →
      configuration.Within configuration' → Evolves locks db db' → Owns scope locks' db' →
      Sane platform attempt locks' [.insertRecord record] configuration' db' post (f none)) :
    Sane platform attempt locks [] configuration db post
      ((replayOrReserve platform scope fingerprint).bind f) := by
  simp only [replayOrReserve, completedSuccess, Program.bind_eq, Program.bind_assoc]
  apply sane_read_bind (fun _ => rfl)
  intro configuration₁ db₁ whole₁ within₁ evolves₁
  refine ⟨_, rfl, whole₁.record_lossless scope, ?_⟩
  cases found : db₁.record? scope with
  | none =>
    simp only [Engine.view_nil, found, Option.map_none, Program.done_bind, replayReserved,
      Program.bind_eq, Program.bind_assoc]
    apply reserve_sane reservable
    · intro body configuration' db'
      exact replayed body configuration' db'
    · intro configuration' db'
      exact rejectConflict_sane
    · intro record configuration' db' locks' named checked whole within evolves owns
      exact owned record _ _ _ named checked whole (within₁.trans within) (evolves₁.trans evolves) owns
  | some row =>
    have complete := whole₁.complete found
    obtain ⟨body, resource, responded, _⟩ := complete.body
    simp only [Engine.view_nil, found, Option.map_some, Program.bind_assoc, complete.status,
      responded, Program.orFail, Program.done_bind]
    by_cases same : fingerprint = row.requestFingerprint
    · simp only [same, ne_eq, not_true_eq_false, if_false]
      exact replayed body _ _
    · simp only [same, ne_eq, not_false_eq_true, if_true]
      exact rejectConflict_sane

theorem storeSuccess_sane {writes : List Write} {body : Value} {resource : Uuid}
    {record : IdempotencyRecord} {f : Unit → Handler β}
    (checked : firstViolation (recordChecks platform record) = .ok ())
    (found : ∀ configuration' db', configuration.Within configuration' → Evolves locks db db' →
      ((engine platform).view db' writes).record? scope = some record)
    (step : ∀ configuration' db' locks' writes',
      Sane platform attempt locks' writes' configuration' db' post (f ())) :
    Sane platform attempt locks writes configuration db post
      ((storeSuccess scope created body resource).bind f) := by
  simp only [storeSuccess, Program.bind_eq, Program.bind_assoc]
  apply sane_send_bind
  intro configuration' db' _ within evolves
  exact ⟨1, _, updateRecord_accepted (found configuration' db' within evolves) checked, trivial,
    step _ _ _ _⟩

end Reservations

section Selections

variable {platform : Platform} {attempt : Attempt} {locks : List Lock} {writes : List Write}
  {configuration : Configuration} {db : Db} {β : Type}
  {post : β → List Lock → List Write → Configuration → Db → Prop}

theorem selectExchangeRate_sane {source destination : String} {time : Timestamp}
    {f : Except ConfigurationError ExchangeRate → Handler β}
    (step : ∀ result configuration' db', Whole attempt configuration' db' →
      configuration.Within configuration' → Evolves locks db db' →
      Foresees (result.mapError transferConfigurationError) →
      (∀ rate, result = .ok rate → ∃ row ∈ configuration'.exchangeRates, row.select = rate) →
      Sane platform attempt locks writes configuration' db' post (f result)) :
    Sane platform attempt locks writes configuration db post
      ((selectExchangeRate source destination time).bind f) := by
  simp only [selectExchangeRate, Program.bind_eq, Program.bind_assoc]
  apply sane_ask_read_bind (fun _ => rfl)
  intro configuration' db' whole within evolves
  refine ⟨_, rfl, trivial, ?_⟩
  generalize selected : (orderLimitTwo ExchangeRateRow.validFrom ExchangeRateRow.id
    (configuration'.exchangeRateRows source destination time)).map ExchangeRateRow.select = rates
  rcases rates with _ | ⟨rate, _ | ⟨other, rates⟩⟩
  · exact step _ _ _ whole within evolves (by rintro _ ⟨⟩; exact foreseen_business _ _) (by simp)
  · apply step _ _ _ whole within evolves (by rintro _ ⟨⟩)
    rintro _ ⟨⟩
    obtain ⟨row, member, read⟩ := exists_of_orderLimitTwo selected
    exact ⟨row, List.mem_of_mem_filter member, read⟩
  · exact step _ _ _ whole within evolves (by rintro _ ⟨⟩; exact foreseen_business _ _) (by simp)

theorem selectFeeRule_sane {source destination : String} {time : Timestamp}
    {f : Except ConfigurationError FeeRule → Handler β}
    (step : ∀ result configuration' db', Whole attempt configuration' db' →
      configuration.Within configuration' → Evolves locks db db' →
      Foresees (result.mapError transferConfigurationError) →
      (∀ rule, result = .ok rule → ∃ row ∈ configuration'.fxFeeRules, row.select = rule) →
      Sane platform attempt locks writes configuration' db' post (f result)) :
    Sane platform attempt locks writes configuration db post
      ((selectFeeRule source destination time).bind f) := by
  simp only [selectFeeRule, Program.bind_eq, Program.bind_assoc]
  apply sane_ask_read_bind (fun _ => rfl)
  intro configuration₁ db₁ whole₁ within₁ evolves₁
  refine ⟨_, rfl, trivial, ?_⟩
  generalize selected : (orderLimitTwo FeeRuleRow.validFrom FeeRuleRow.id
    (configuration₁.pairFeeRows source destination time)).map FeeRuleRow.select = rules
  rcases rules with _ | ⟨rule, _ | ⟨other, rules⟩⟩
  · -- No rule is for the pair, so the default ones are looked up.
    rw [Program.bind_assoc]
    apply sane_ask_read_bind (fun _ => rfl)
    intro configuration₂ db₂ whole₂ within₂ evolves₂
    refine ⟨_, rfl, trivial, ?_⟩
    generalize selected : (orderLimitTwo FeeRuleRow.validFrom FeeRuleRow.id
      (configuration₂.defaultFeeRows time)).map FeeRuleRow.select = defaults
    rcases defaults with _ | ⟨rule, _ | ⟨other, defaults⟩⟩
    · exact step _ _ _ whole₂ (within₁.trans within₂) (evolves₁.trans evolves₂)
        (by rintro _ ⟨⟩; exact foreseen_business _ _) (by simp)
    · apply step _ _ _ whole₂ (within₁.trans within₂) (evolves₁.trans evolves₂) (by rintro _ ⟨⟩)
      rintro _ ⟨⟩
      obtain ⟨row, member, read⟩ := exists_of_orderLimitTwo selected
      exact ⟨row, List.mem_of_mem_filter member, read⟩
    · exact step _ _ _ whole₂ (within₁.trans within₂) (evolves₁.trans evolves₂)
        (by rintro _ ⟨⟩; exact foreseen_business _ _) (by simp)
  · apply step _ _ _ whole₁ within₁ evolves₁ (by rintro _ ⟨⟩)
    rintro _ ⟨⟩
    obtain ⟨row, member, read⟩ := exists_of_orderLimitTwo selected
    exact ⟨row, List.mem_of_mem_filter member, read⟩
  · exact step _ _ _ whole₁ within₁ evolves₁ (by rintro _ ⟨⟩; exact foreseen_business _ _) (by simp)

theorem selectFxConfiguration_sane {operationType : OperationType} {preliminary : Preliminary}
    {time : Timestamp} {f : Option (ExchangeRate × FeeRule) → Handler β}
    (whole : Whole attempt configuration db)
    (step : ∀ fx configuration' db', Whole attempt configuration' db' →
      configuration.Within configuration' → Evolves locks db db' → configuration'.Offers fx →
      Sane platform attempt locks writes configuration' db' post (f fx)) :
    Sane platform attempt locks writes configuration db post
      ((selectFxConfiguration operationType preliminary time).bind f) := by
  unfold selectFxConfiguration
  split
  · simp only [Program.bind_eq, Program.bind_assoc]
    apply selectExchangeRate_sane
    intro rate configuration₁ db₁ _ within₁ evolves₁ foresees₁ listed₁
    apply sane_ofExcept_bind foresees₁
    intro rate' found
    apply selectFeeRule_sane
    intro rule configuration₂ db₂ whole₂ within₂ evolves₂ foresees₂ listed₂
    apply sane_ofExcept_bind foresees₂
    intro rule' found'
    obtain ⟨row, member, read⟩ := listed₁ rate' (mapError_eq_ok.mp found)
    apply step _ _ _ whole₂ (within₁.trans within₂) (evolves₁.trans evolves₂)
    rintro _ _ ⟨⟩
    exact ⟨⟨row, within₂.exchangeRates member, read⟩, listed₂ rule' (mapError_eq_ok.mp found')⟩
  · apply step none _ _ whole (.refl configuration) (.refl locks db)
    rintro _ _ ⟨⟩

end Selections

section Accounts

variable {platform : Platform} {attempt : Attempt} {locks : List Lock} {record : IdempotencyRecord}
  {configuration : Configuration} {db : Db} {β : Type}
  {post : β → List Lock → List Write → Configuration → Db → Prop}

def Db.lockedRows (db : Db) (ids : List Uuid) : List LockedAccount :=
  ids.flatMap fun id => ((db.account? id).map Account.locked).toList

theorem lockAccounts_sane {ids : List Uuid} {f : List LockedAccount → Handler β}
    (whole : Whole attempt configuration db) (present : ∀ id ∈ ids, ∃ row, db.account? id = some row)
    (step : ∀ configuration' db' locks', Whole attempt configuration' db' → locks ⊆ locks' →
      configuration.Within configuration' → Evolves locks db db' →
      (∀ id ∈ ids, Held locks' (.account id)) →
      Sane platform attempt locks' [.insertRecord record] configuration' db' post
        (f (db'.lockedRows ids))) :
    Sane platform attempt locks [.insertRecord record] configuration db post
      ((lockAccounts ids).bind f) := by
  induction ids generalizing locks configuration db f with
  | nil =>
    exact step _ _ _ whole (List.Subset.refl _) (.refl configuration) (.refl locks db) (by simp)
  | cons id rest ih =>
    simp only [lockAccounts, Program.bind_eq, Program.bind_assoc, Program.done_bind]
    apply sane_send_bind
    intro configuration₁ db₁ whole₁ within₁ evolves₁
    obtain ⟨old, there⟩ := present id List.mem_cons_self
    obtain ⟨row, found, _⟩ := evolves₁.account id old there
    have seen : ((engine platform).view db₁ [.insertRecord record]).account? id = some row := by
      simp [found]
    refine ⟨_, [], rfl, ?_, ?_⟩
    · rintro _ answered
      obtain ⟨_, same, rfl⟩ := Option.map_eq_some_iff.mp answered
      rw [seen] at same
      cases same
      exact (whole₁.listed row (Table.mem_of_lookup found)).scale.2.1
    have locked : Held (locks ++ (Statement.lockAccount id).locks
        ((engine platform).view db₁ [.insertRecord record])) (.account id) :=
      .of_update (by simp [Statement.locks, found])
    rw [List.append_nil, seen]
    apply ih whole₁
    · intro other member
      obtain ⟨before, there'⟩ := present other (List.mem_cons_of_mem _ member)
      obtain ⟨after, found', _⟩ := evolves₁.account other before there'
      exact ⟨after, found'⟩
    intro configuration₂ db₂ locks₂ whole₂ more within₂ evolves₂ held
    have same : db₂.account? id = some row := by rw [evolves₂.accountHeld id locked, found]
    have rows : (Option.map Account.locked (some row)).toList ++ db₂.lockedRows rest =
        db₂.lockedRows (id :: rest) := by simp [Db.lockedRows, same]
    rw [rows]
    apply step _ _ _ whole₂ (List.Subset.trans (List.subset_append_left _ _) more)
      (within₁.trans within₂)
      (evolves₁.trans (evolves₂.fewer (List.subset_append_left _ _)))
    intro other member
    rcases List.mem_cons.mp member with rfl | later
    · exact locked.more more
    · exact held other later

theorem selectAccountsForUpdate_sane {source destination : Uuid} {oldSource oldDestination : Account}
    {f : List LockedAccount → Handler β} (whole : Whole attempt configuration db)
    (distinct : source ≠ destination) (sourceFound : db.account? source = some oldSource)
    (destinationFound : db.account? destination = some oldDestination)
    (step : ∀ rows configuration' db' locks' sourceRow destinationRow,
      Whole attempt configuration' db' → locks ⊆ locks' → configuration.Within configuration' →
      Evolves locks db db' → Held locks' (.account source) → Held locks' (.account destination) →
      db'.account? source = some sourceRow → db'.account? destination = some destinationRow →
      rows.length = 2 → rows.find? (fun row => row.id = source) = some sourceRow.locked →
      rows.find? (fun row => row.id = destination) = some destinationRow.locked →
      Sane platform attempt locks' [.insertRecord record] configuration' db' post (f rows)) :
    Sane platform attempt locks [.insertRecord record] configuration db post
      ((selectAccountsForUpdate [source, destination]).bind f) := by
  have mem : ∀ id, id ∈ [source, destination].dedup.insertionSort (· ≤ ·) ↔
      id = source ∨ id = destination := by
    intro id
    rw [List.mem_insertionSort, List.mem_dedup]
    simp
  apply lockAccounts_sane whole
  · intro id member
    rcases (mem id).mp member with rfl | rfl
    · exact ⟨_, sourceFound⟩
    · exact ⟨_, destinationFound⟩
  intro configuration' db' locks' whole' more within evolves held
  obtain ⟨sourceRow, sourceFound', _⟩ := evolves.account _ _ sourceFound
  obtain ⟨destinationRow, destinationFound', _⟩ := evolves.account _ _ destinationFound
  -- Alone, the rows are the same ones.
  obtain ⟨rows, alone, both⟩ := @selectAccountsForUpdate_finish platform attempt configuration' db' []
    _ _ distinct
  have listed := @lockAccounts_finish platform attempt configuration' db' []
    ([source, destination].dedup.insertionSort (· ≤ ·))
  rw [selectAccountsForUpdate, listed] at alone
  cases alone
  obtain ⟨two, first, second⟩ := both sourceRow destinationRow sourceFound' destinationFound'
  exact step _ _ _ _ sourceRow destinationRow whole' more within evolves
    (held _ ((mem _).mpr (.inl rfl))) (held _ ((mem _).mpr (.inr rfl))) sourceFound'
    destinationFound' two first second

end Accounts

section Postings

structure Posting.Minted (attempt : Attempt) (posting : Posting) : Prop where
  transfer : posting.transfer.id = attempt.ids.resource
  debit : posting.debit.id = attempt.ids.debitEntry
  credit : posting.credit.id = attempt.ids.creditEntry

structure Posting.Locked (locks : List Lock) (posting : Posting) : Prop where
  source : Held locks (.account posting.transfer.sourceAccountId)
  destination : Held locks (.account posting.transfer.destinationAccountId)
  original : ∀ original, posting.transfer.reversesTransferId = some original →
    ⟨.transfer original, .update⟩ ∈ locks

theorem Posting.Locked.more {locks more : List Lock} {posting : Posting}
    (locked : posting.Locked locks) (fewer : locks ⊆ more) : posting.Locked more :=
  ⟨locked.source.more fewer, locked.destination.more fewer,
    fun original reverses => fewer (locked.original original reverses)⟩

variable {platform : Platform} {attempt : Attempt} {locks : List Lock} {record : IdempotencyRecord}
  {configuration configuration' : Configuration} {db db' : Db} {posting : Posting}
  {source destination : Account} {β : Type}
  {post : β → List Lock → List Write → Configuration → Db → Prop}

theorem Posting.Fits.evolve (fits : posting.Fits configuration db source destination)
    (minted : posting.Minted attempt) (locked : posting.Locked locks)
    (within : configuration.Within configuration') (evolves : Evolves locks db db')
    (fresh : attempt.Fresh db') : posting.Fits configuration' db' source destination where
  transfer := by
    refine ⟨by rw [minted.transfer, fresh.transfer], ?_, ?_, ?_, ?_⟩
    · rw [evolves.accountHeld _ locked.source, fits.transfer.source]
    · rw [evolves.accountHeld _ locked.destination, fits.transfer.destination]
    · intro original reverses
      obtain ⟨first, present⟩ := fits.transfer.original original reverses
      obtain ⟨row, found⟩ := Option.isSome_iff_exists.mp present
      refine ⟨?_, by rw [evolves.transfer _ _ found, Option.isSome_some]⟩
      rw [evolves.reversedHeld _ (.inl (locked.original original reverses)), first]
    · intro id used
      obtain ⟨row, member, same⟩ := fits.transfer.rateId id used
      exact ⟨row, within.exchangeRates member, same⟩
  debit := by rw [minted.debit, fresh.debit]
  credit := by rw [minted.credit, fresh.credit]
  sourceRoom := fits.sourceRoom
  destinationRoom := fits.destinationRoom

structure Posting.Kept (posting : Posting) (source destination : Account) (locks : List Lock)
    (configuration : Configuration) (db : Db) (locks' : List Lock) (configuration' : Configuration)
    (db' : Db) : Prop where
  more : locks ⊆ locks'
  within : configuration.Within configuration'
  evolves : Evolves locks db db'
  locked : posting.Locked locks'
  fits : posting.Fits configuration' db' source destination

theorem Posting.Kept.send {locks' : List Lock} {statement : Statement} {answer : statement.Result}
    {writes written : List Write} {f : statement.Result → Handler β}
    (kept : posting.Kept source destination locks configuration db locks' configuration' db')
    (moves : ∀ body, attempt.request ≠ .createAccount body) (minted : posting.Minted attempt)
    (ran : ∀ configuration db, posting.Fits configuration db source destination →
      statement.exec platform attempt.started configuration ((engine platform).view db writes) =
        .ok (answer, written))
    (lossless : statement.Lossless answer)
    (step : ∀ locks' configuration' db',
      posting.Kept source destination locks configuration db locks' configuration' db' →
      Sane platform attempt locks' (writes ++ written) configuration' db' post (f answer)) :
    Sane platform attempt locks' writes configuration' db' post
      ((LedgerService.send statement).bind f) := by
  apply sane_send_bind
  intro configuration'' db'' whole within evolves
  have fits := kept.fits.evolve minted kept.locked within evolves (whole.fresh moves)
  refine ⟨answer, written, ran _ _ fits, lossless, step _ _ _ ?_⟩
  exact ⟨List.Subset.trans kept.more (List.subset_append_left _ _), kept.within.trans within,
    kept.evolves.trans (evolves.fewer kept.more), kept.locked.more (List.subset_append_left _ _), fits⟩

theorem post_sane {f : String → Handler β} (moves : ∀ body, attempt.request ≠ .createAccount body)
    (proper : posting.Proper platform) (minted : posting.Minted attempt)
    (locked : posting.Locked locks) (fits : posting.Fits configuration db source destination)
    (step : ∀ createdAt configuration' db' locks' rate sourceVersion destinationVersion,
      locks ⊆ locks' → configuration.Within configuration' → Evolves locks db db' →
      Sane platform attempt locks' (.insertRecord record :: posting.writes attempt.started rate source
        destination sourceVersion destinationVersion) configuration' db' post (f createdAt)) :
    Sane platform attempt locks [.insertRecord record] configuration db post
      ((LedgerService.post posting).bind f) := by
  -- While its rows are locked, the posting goes on to fit the tables from answer to answer.
  obtain ⟨rate, cast⟩ := proper.rate
  obtain ⟨sourceVersion, sourceNext⟩ := Account.next_version fits.sourceRoom
  obtain ⟨destinationVersion, destinationNext⟩ := Account.next_version fits.destinationRoom
  have accepted : ∀ (configuration' : Configuration) (db' : Db),
      posting.Fits configuration' db' source destination → _ := fun _ _ fits' =>
    @Posting.Fits.accepted platform attempt.started _ _ posting source destination proper
      (fits'.reserved record) rate cast sourceVersion destinationVersion sourceNext destinationNext
  have start : posting.Kept source destination locks configuration db locks configuration db :=
    ⟨List.Subset.refl _, .refl _, .refl _ _, locked, fits⟩
  simp only [LedgerService.post, Program.bind_eq, Program.bind_assoc, Program.done_bind]
  apply start.send moves minted (fun _ _ fits' => (accepted _ _ fits').1) (by trivial)
  intro _ _ _ kept
  apply kept.send moves minted (fun _ _ fits' => (accepted _ _ fits').2.1) (by trivial)
  intro _ _ _ kept
  apply kept.send moves minted (fun _ _ fits' => (accepted _ _ fits').2.2.1) (by trivial)
  intro _ _ _ kept
  apply kept.send moves minted (fun _ _ fits' => (accepted _ _ fits').2.2.2.1) (by trivial)
  intro _ _ _ kept
  apply kept.send moves minted (fun _ _ fits' => (accepted _ _ fits').2.2.2.2) (by trivial)
  intro _ _ _ kept
  exact step _ _ _ _ rate sourceVersion destinationVersion kept.more kept.within kept.evolves

end Postings

section Originals

variable {platform : Platform} {attempt : Attempt} {locks : List Lock} {record : IdempotencyRecord}
  {configuration : Configuration} {db : Db} {β : Type}
  {post : β → List Lock → List Write → Configuration → Db → Prop} {row : Transfer}

theorem Whole.terms (whole : Whole attempt configuration db) {source destination : Account}
    (grounded : Grounded configuration db row source destination) (forward : row.kind ≠ .reversal) :
    0 ≤ row.feeAmountMinor.val ∧
      (∃ rate, castRate (row.exchangeRate.map Numeric.text) = .ok rate) ∧
      ∀ id, row.exchangeRateId = some id → ∃ rate ∈ configuration.exchangeRates, rate.id = id := by
  rcases grounded.terms with ordinary | fx | ⟨_, _, reverses⟩
  · rw [ordinary.fee, ordinary.noRate.2.1, ordinary.noRate.2.2]
    exact ⟨Int.le_refl _, ⟨none, rfl⟩, by simp⟩
  · obtain ⟨rate, member, id, stored, _, _, _, exact', _, converted⟩ := fx.rate
    obtain ⟨rule, listed, _, _, charged⟩ := fx.fee
    obtain ⟨coefficient, finite, least, most⟩ := whole.valid.rates rate member
    obtain ⟨low, high⟩ := whole.valid.fees rule listed
    have positive := (calculateDestination_eq_ok.mp converted).1
    refine ⟨calculateFee_nonneg positive low high charged, ?_, ?_⟩
    · rw [stored, finite]
      exact ⟨_, castRate_finite least most⟩
    · intro used same
      rw [id] at same
      cases same
      exact ⟨rate, member, rfl⟩
  · exact absurd reverses.kind forward

theorem lockOriginal_sane {id : Uuid} {f : OriginalTransfer → Handler β}
    (step : ∀ row configuration' db' locks', Whole attempt configuration' db' → locks ⊆ locks' →
      configuration.Within configuration' → Evolves locks db db' →
      ⟨.transfer id, .update⟩ ∈ locks' → db'.transfer? id = some row → row.kind ≠ .reversal →
      db'.reversed id = false →
      Sane platform attempt locks' [.insertRecord record] configuration' db' post (f row.original)) :
    Sane platform attempt locks [.insertRecord record] configuration db post
      ((lockOriginal attempt.clientId id).bind f) := by
  simp only [lockOriginal, Program.bind_eq, Program.bind_assoc, Program.done_bind]
  apply sane_send_bind
  intro configuration₁ db₁ _ within₁ evolves₁
  refine ⟨_, [], rfl, trivial, ?_⟩
  rw [List.append_nil]
  refine tracks_orFail_bind.mpr ⟨fun _ => foreseen_app (by simp), ?_⟩
  intro original answered
  obtain ⟨row, seen, rfl⟩ := Option.map_eq_some_iff.mp answered
  have found : db₁.transfer? id = some row := by simpa using seen
  refine tracks_ensure_bind.mpr ⟨fun _ => foreseen_business _ _, fun forward => ?_⟩
  have locked : ⟨.transfer id, .update⟩ ∈ locks ++ (Statement.lockTransfer id).locks
      ((engine platform).view db₁ [.insertRecord record]) := by simp [Statement.locks, found]
  apply sane_read_bind (fun _ => rfl)
  intro configuration₂ db₂ _ within₂ evolves₂
  refine ⟨_, rfl, trivial, ?_⟩
  refine tracks_ensure_bind.mpr ⟨fun _ => foreseen_app (by simp), fun _ => ?_⟩
  apply sane_read_bind (fun _ => rfl)
  intro configuration₃ db₃ whole₃ within₃ evolves₃
  refine ⟨_, rfl, trivial, ?_⟩
  refine tracks_ensure_bind.mpr ⟨fun _ => foreseen_business _ _, fun first => ?_⟩
  have since := evolves₂.trans evolves₃
  exact step row _ _ _ whole₃ (List.subset_append_left _ _) (within₁.trans (within₂.trans within₃))
    (evolves₁.trans (since.fewer (List.subset_append_left _ _))) locked
    (since.transfer _ _ found) forward (by simpa using first)

end Originals

end LedgerService
