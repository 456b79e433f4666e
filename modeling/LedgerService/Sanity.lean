import LedgerService.Conditions
import LedgerService.Expectations
import LedgerService.Serializability

set_option autoImplicit false

namespace LedgerService

open Transaction

section Handlers

variable {platform : Platform} {attempt : Attempt} {locks : List Lock} {record : IdempotencyRecord}
  {configuration : Configuration} {db : Db} {scope : Scope}

theorem foresees_of_ok {α : Type} {result : Except Failure α} (succeeds : ∃ value, result = .ok value) :
    Foresees result := by
  obtain ⟨value, rfl⟩ := succeeds
  exact foresees_ok value

abbrev Answers (platform : Platform) (attempt : Attempt) (locks : List Lock) (writes : List Write)
    (configuration : Configuration) (db : Db) (program : Handler Reply) : Prop :=
  Sane platform attempt locks writes configuration db
    (fun reply _ _ _ _ => ∃ success, reply = .ok success)
    program

theorem insertAccount_accepted {values : AccountValues} {now : Timestamp}
    (client : platform.nonblank values.ownerId = true) (code : isCurrencyCode values.currency = true)
    (scale : 0 ≤ values.currencyScale ∧ values.currencyScale ≤ 18)
    (unused : db.account? values.id = none) :
    (Statement.insertAccount values).exec platform now configuration db =
      .ok ((), [.insertAccount (values.row now)]) := by
  refine checked_eq_ok.mpr ⟨?_, rfl⟩
  simp [accountChecks, AccountValues.row, client, code, scale, unused, I64.zero]

theorem performAccountCreation_sane {request : AccountRequest}
    (client : platform.nonblank attempt.clientId = true) (listed : request.currency ∈ currencies)
    (named : record.scope = scope) (checked : firstViolation (recordChecks platform record) = .ok ())
    (owns : Owns scope locks db) :
    Answers platform attempt locks [.insertRecord record] configuration db
      (performAccountCreation attempt.clientId attempt.ids.resource scope request) := by
  have codes : ∀ one ∈ currencies, isCurrencyCode one.code = true ∧ one.scale ≤ 18 := by decide
  obtain ⟨code, small⟩ := codes request.currency listed
  have scale : (request.currency.scale : Int) ≤ 18 := by exact_mod_cast small
  simp only [performAccountCreation, Program.bind_eq]
  apply sane_send_bind
  intro configuration₁ db₁ whole₁ _ evolves₁
  refine ⟨(), _, insertAccount_accepted client code ⟨Int.natCast_nonneg _, scale⟩
    (by simpa using whole₁.unopened), trivial, ?_⟩
  apply sane_ofExcept_bind (foresees_of_ok (accountCreatedResponse_ok listed _ _))
  intro body _
  apply storeSuccess_sane checked
  · intro configuration' db' _ evolves
    have still := Owns.lasts (List.Subset.refl _) evolves
      (Owns.lasts (List.subset_append_left locks _) evolves₁ owns)
    simp [still.2, named]
  · intro _ _ _ _
    exact ⟨_, rfl⟩

theorem createAccount_sane {body : Option CreateAccountRequest} (documented : platform.Documented)
    (served : attempt.Served platform) :
    Answers platform attempt [] [] configuration db
      (createAccount platform attempt.clientId attempt.headers body attempt.ids.resource) := by
  simp only [createAccount, Program.bind_eq]
  apply sane_ofExcept_bind (validateAccountRequest_foresees _ _)
  intro request valid
  apply sane_read_bind (fun _ => rfl)
  intro configuration₁ db₁ _ _ _
  refine ⟨(), rfl, trivial, ?_⟩
  apply reserve_sane (served.reservable documented rfl request.idempotencyKey rfl _ rfl)
  · intro body _ _
    exact ⟨_, rfl⟩
  · intro _ _
    exact foreseen_app (by simp)
  · intro record _ _ _ named checked _ _ _ owns
    exact performAccountCreation_sane served.client (validateAccountRequest_listed valid) named checked
      owns

theorem Db.preliminary_rows {source destination : Uuid} {preliminary : Preliminary}
    (joined : db.preliminary source destination = some preliminary) :
    ∃ sourceRow destinationRow, db.account? source = some sourceRow ∧
      db.account? destination = some destinationRow := by
  cases sourceFound : db.account? source with
  | none => simp [Db.preliminary_missing (.inl sourceFound)] at joined
  | some sourceRow =>
    cases destinationFound : db.account? destination with
    | none => simp [Db.preliminary_missing (.inr destinationFound)] at joined
    | some destinationRow => exact ⟨sourceRow, destinationRow, rfl, rfl⟩

theorem transferAccounts_sane {clientId : String} {request : TransferRequest}
    {rows : List LockedAccount} {source destination : Account} (two : rows.length = 2)
    (first : rows.find? (fun row => row.id = request.sourceAccountId) = some source.locked)
    (second : rows.find? (fun row => row.id = request.destinationAccountId) =
      some destination.locked) :
    Foresees (transferAccounts clientId (source.preliminary destination) request rows) ∧
      ∀ pair, transferAccounts clientId (source.preliminary destination) request rows = .ok pair →
        pair = (source.locked, destination.locked) := by
  have checked := @transferAccounts_rows clientId request rows source destination two first second
  rw [Account.preliminary, checked, demand]
  split
  · exact ⟨foresees_ok _, fun pair same => (Except.ok.inj same).symm⟩
  · refine ⟨?_, fun pair impossible => by cases impossible⟩
    rintro _ ⟨⟩
    exact accountUnavailable_foreseen

theorem performTransfer_sane {request : TransferRequest} {preliminary : Preliminary}
    {amountMinor : I64} (moves : ∀ body, attempt.request ≠ .createAccount body)
    (client : platform.nonblank attempt.clientId = true) (named : record.scope = scope)
    (checked : firstViolation (recordChecks platform record) = .ok ())
    (distinct : request.sourceAccountId ≠ request.destinationAccountId)
    (positive : 0 < amountMinor.val) (owns : Owns scope locks db)
    (joined : db.preliminary request.sourceAccountId request.destinationAccountId = some preliminary) :
    Answers platform attempt locks [.insertRecord record] configuration db
      (performTransfer attempt.clientId attempt.ids scope preliminary request amountMinor) := by
  simp only [performTransfer, Program.bind_eq]
  apply sane_read_bind (fun _ => rfl)
  intro configuration₁ db₁ whole₁ _ evolves₁
  refine ⟨attempt.started, rfl, trivial, ?_⟩
  apply selectFxConfiguration_sane whole₁
  intro fx configuration₂ db₂ whole₂ _ evolves₂ offers
  have owns₂ := owns.lasts (List.Subset.refl _) (evolves₁.trans evolves₂)
  have joined₂ := preliminary_evolves (evolves₁.trans evolves₂) joined
  obtain ⟨oldSource, oldDestination, sourceFound, destinationFound⟩ := Db.preliminary_rows joined₂
  apply selectAccountsForUpdate_sane whole₂ distinct sourceFound destinationFound
  intro rows configuration₃ db₃ locks₃ source destination whole₃ more₃ within₃ evolves₃ sourceHeld
    destinationHeld sourceFound₃ destinationFound₃ two first second
  have owns₃ := owns₂.lasts more₃ evolves₃
  obtain rfl : source.preliminary destination = preliminary := Option.some.inj
    ((Db.preliminary_found sourceFound₃ destinationFound₃).symm.trans
      (preliminary_evolves evolves₃ joined₂))
  have sourceListed := whole₃.listed source (Table.mem_of_lookup sourceFound₃)
  have destinationListed := whole₃.listed destination (Table.mem_of_lookup destinationFound₃)
  have fresh := whole₃.fresh moves
  obtain ⟨foresees, same⟩ := @transferAccounts_sane attempt.clientId request rows source destination
    two first second
  apply sane_ofExcept_bind foresees
  intro pair decided
  obtain rfl := same pair decided
  apply sane_ofExcept_bind (transferTerms_foresees whole₃.valid (offers.within within₃) positive
    sourceListed destinationListed)
  intro terms computed
  have acceptable := transferTerms_acceptable whole₃.valid (offers.within within₃) positive
    (mapError_eq_ok.mp computed)
  apply sane_ofExcept_bind (transferBalances_foresees _ _ _)
  rintro ⟨sourceBalance, destinationBalance⟩ _
  apply post_sane moves
    (transferPosting_proper acceptable positive client distinct fresh.entries sourceListed.code
      destinationListed.code)
    ⟨rfl, rfl, rfl⟩ ⟨sourceHeld, destinationHeld, (fun _ reverses => by cases reverses)⟩
    ⟨⟨fresh.transfer, sourceFound₃, destinationFound₃, (fun _ reverses => by cases reverses),
      acceptable.rateId⟩, fresh.debit, fresh.credit, whole₃.room _ (Table.mem_of_lookup sourceFound₃),
      whole₃.room _ (Table.mem_of_lookup destinationFound₃)⟩
  intro createdAt configuration₄ db₄ locks₄ rate sourceVersion destinationVersion more₄ _ evolves₄
  have owns₄ := owns₃.lasts more₄ evolves₄
  apply sane_ofExcept_bind (foresees_of_ok (transferCreatedResponse_ok sourceListed.scale.2.2
    destinationListed.scale.2.2))
  intro body _
  apply storeSuccess_sane checked
  · intro configuration' db' _ evolves
    simp [Posting.writes, (owns₄.lasts (List.Subset.refl _) evolves).2, named]
  · intro _ _ _ _
    exact ⟨_, rfl⟩

theorem reversalAccounts_sane {original : OriginalTransfer} {rows : List LockedAccount}
    {source destination : LockedAccount} (two : rows.length = 2)
    (first : rows.find? (fun row => row.id = original.destinationAccountId) = some source)
    (second : rows.find? (fun row => row.id = original.sourceAccountId) = some destination)
    (currencies : source.currency = original.destinationCurrency ∧
      destination.currency = original.sourceCurrency) :
    Foresees (reversalAccounts original rows) ∧
      ∀ pair, reversalAccounts original rows = .ok pair → pair = (source, destination) := by
  simp only [reversalAccounts, two, first, second, currencies, orFailure, demand, and_self, if_true,
    Bind.bind, Except.bind]
  split
  · refine ⟨?_, fun pair impossible => by cases impossible⟩
    rename_i refused
    split at refused
    · cases refused
    · cases refused
      rintro _ ⟨⟩
      exact accountUnavailable_foreseen
  · exact ⟨foresees_ok _, fun pair same => (Except.ok.inj same).symm⟩

theorem performReversal_sane {id : Uuid} (moves : ∀ body, attempt.request ≠ .createAccount body)
    (client : platform.nonblank attempt.clientId = true) (named : record.scope = scope)
    (checked : firstViolation (recordChecks platform record) = .ok ()) (owns : Owns scope locks db) :
    Answers platform attempt locks [.insertRecord record] configuration db
      (performReversal attempt.clientId attempt.ids scope id) := by
  simp only [performReversal, Program.bind_eq]
  apply lockOriginal_sane
  intro row configuration₁ db₁ locks₁ whole₁ more₁ _ evolves₁ locked found forward first
  have owns₁ := owns.lasts more₁ evolves₁
  obtain ⟨oldDestination, oldSource, grounded₁⟩ :=
    whole₁.sound.provenance.grounded row (Table.mem_of_lookup found)
  apply selectAccountsForUpdate_sane whole₁ grounded₁.distinct.symm grounded₁.destinationFound
    grounded₁.sourceFound
  intro rows configuration₂ db₂ locks₂ source destination whole₂ more₂ _ evolves₂ sourceHeld
    destinationHeld sourceFound destinationFound two firstRow secondRow
  have owns₂ := owns₁.lasts more₂ evolves₂
  have found₂ := evolves₂.transfer id row found
  obtain ⟨_, _, grounded⟩ := whole₂.sound.provenance.grounded row (Table.mem_of_lookup found₂)
  obtain rfl := Option.some.inj (destinationFound.symm.trans grounded.sourceFound)
  obtain rfl := Option.some.inj (sourceFound.symm.trans grounded.destinationFound)
  have sourceListed := whole₂.listed source (Table.mem_of_lookup sourceFound)
  have destinationListed := whole₂.listed destination (Table.mem_of_lookup destinationFound)
  obtain ⟨total, amount⟩ := whole₂.charged row (Table.mem_of_lookup found₂)
  obtain ⟨fee, rate, rateId⟩ := whole₂.terms grounded forward
  have fresh := whole₂.fresh moves
  obtain ⟨foresees, same⟩ := @reversalAccounts_sane row.original rows source.locked
    destination.locked two firstRow secondRow ⟨grounded.destinationCurrency, grounded.sourceCurrency⟩
  apply sane_ofExcept_bind foresees
  intro pair decided
  obtain rfl := same pair decided
  apply sane_ofExcept_bind (reversalBalances_foresees _ _ _)
  rintro ⟨sourceBalance, destinationBalance⟩ _
  have once : db₂.reversed id = false := by rw [evolves₂.reversedHeld _ (.inl locked), first]
  apply post_sane moves
    (reversalPosting_proper (grounded.sourceCurrency ▸ destinationListed.code)
      (grounded.destinationCurrency ▸ sourceListed.code) amount fee total grounded.distinct rate client
      fresh.entries)
    ⟨rfl, rfl, rfl⟩
    ⟨sourceHeld, destinationHeld, fun _ reverses => Option.some.inj reverses ▸ more₂ locked⟩
    ⟨⟨fresh.transfer, sourceFound, destinationFound, fun _ reverses =>
      Option.some.inj reverses ▸ ⟨once, by rw [found₂, Option.isSome_some]⟩, rateId⟩, fresh.debit,
      fresh.credit, whole₂.room _ (Table.mem_of_lookup sourceFound),
      whole₂.room _ (Table.mem_of_lookup destinationFound)⟩
  intro createdAt configuration₃ db₃ locks₃ _ _ _ more₃ _ evolves₃
  have owns₃ := owns₂.lasts more₃ evolves₃
  apply sane_ofExcept_bind (foresees_of_ok (reversalCreatedResponse_ok sourceListed.scale.2.2
    destinationListed.scale.2.2))
  intro body _
  apply storeSuccess_sane checked
  · intro configuration' db' _ evolves
    simp [Posting.writes, (owns₃.lasts (List.Subset.refl _) evolves).2, named]
  · intro _ _ _ _
    exact ⟨_, rfl⟩

theorem createTransfer_sane {body : Option CreateTransferRequest} (documented : platform.Documented)
    (served : attempt.Served platform) (moves : ∀ body, attempt.request ≠ .createAccount body) :
    Answers platform attempt [] [] configuration db
      (createTransfer platform attempt.clientId attempt.headers body attempt.ids) := by
  simp only [createTransfer, acquireConnection, Program.bind_eq, Program.bind_assoc]
  apply sane_ofExcept_bind (validateTransferRequest_foresees _ _ _)
  intro request valid
  apply sane_ask_read_bind (fun _ => rfl)
  intro configuration₁ db₁ _ _ _
  refine ⟨(), rfl, trivial, tracks_emit_bind.mpr ?_⟩
  apply sane_read_bind (fun _ => rfl)
  intro configuration₂ db₂ _ _ _
  refine ⟨(), rfl, trivial, ?_⟩
  apply sane_read_bind (fun _ => rfl)
  intro configuration₃ db₃ whole₃ _ _
  refine ⟨_, rfl, trivial, tracks_orFail_bind.mpr ⟨fun _ => accountUnavailable_foreseen, ?_⟩⟩
  intro preliminary joined
  obtain ⟨source, destination, sourceFound, destinationFound⟩ := Db.preliminary_rows joined
  obtain rfl := Option.some.inj
    ((Db.preliminary_found sourceFound destinationFound).symm.trans joined)
  have sourceListed := whole₃.listed source (Table.mem_of_lookup sourceFound)
  have destinationListed := whole₃.listed destination (Table.mem_of_lookup destinationFound)
  rw [transferOperation_listed sourceListed destinationListed, Program.ofExcept, Program.done_bind]
  refine tracks_emit_bind.mpr ?_
  apply sane_ofExcept_bind (transferAmount_foresees sourceListed _)
  intro amountMinor amount
  apply replayOrReserve_sane (served.reservable documented rfl request.idempotencyKey rfl _ rfl)
  · intro body _ _
    exact ⟨_, rfl⟩
  · intro record configuration₄ db₄ _ named checked _ _ evolves₄ owns
    exact performTransfer_sane moves served.client named checked
      (validateTransferRequest_distinct valid) ((transferAmount_eq_ok sourceListed).mp amount).2 owns
      (preliminary_evolves evolves₄ joined)

theorem reverseTransfer_sane {transferId : String} (documented : platform.Documented)
    (served : attempt.Served platform) (moves : ∀ body, attempt.request ≠ .createAccount body) :
    Answers platform attempt [] [] configuration db
      (reverseTransfer platform attempt.clientId attempt.headers transferId attempt.ids) := by
  simp only [reverseTransfer, beginReversal, Program.bind_eq, Program.bind_assoc]
  apply sane_ofExcept_bind (validateReversalRequest_foresees _ _ _)
  intro request _
  apply sane_ask_read_bind (fun _ => rfl)
  intro configuration₁ db₁ _ _ _
  refine ⟨(), rfl, trivial, tracks_emit_bind.mpr ?_⟩
  apply replayOrReserve_sane (served.reservable documented rfl request.idempotencyKey rfl _ rfl)
  · intro body _ _
    exact ⟨_, rfl⟩
  · intro record _ _ _ named checked _ _ _ owns
    exact performReversal_sane moves served.client named checked owns

theorem handle_sane (documented : platform.Documented) (served : attempt.Served platform) :
    Answers platform attempt [] [] configuration db (handle platform attempt) := by
  unfold handle
  split
  · exact createAccount_sane documented served
  · exact createTransfer_sane documented served (by simp [*])
  · exact reverseTransfer_sane documented served (by simp [*])

end Handlers

section Runs

variable {platform : Platform} {configuration : Configuration} {ledger : Ledger}
  {labels : List (Label sql Attempt Operator)} {id : Nat} {attempt : Attempt}

theorem Promised.whole (promised : Promised platform labels) (valid : configuration.Valid)
    (run : Ledger.Run platform (.start configuration) labels ledger)
    (began : .begin id attempt ∈ labels) (uncommitted : .commit id ∉ labels)
    (room : ∀ account ∈ ledger.store.accounts, account.version.val < I64.max) :
    Whole attempt ledger.reference ledger.store := by
  have reachable : Ledger.Reachable platform ledger := ⟨configuration, labels, run⟩
  have new := promised.new run began uncommitted
  exact ⟨reachable.sound, promised.valid valid run, reachable.chronicle.listed,
    reachable.chronicle.charged, (Db.unminted new.resource).1,
    new.fresh (promised.distinct began), room⟩

/-- No statement of a request violates a constraint or is read with a loss, and a request that the
database does not fail is answered for what it asks: it neither panics nor ends in an internal
error. -/
theorem sanity_branches_unreachable (documented : platform.Documented) (valid : configuration.Valid)
    (promised : Promised platform labels)
    (run : Ledger.Run platform (.start configuration) labels ledger)
    (few : ∀ account, (ledger.store.entriesOf account).length + 1 < 2 ^ 63)
    (healthy : ∀ error, .fault id error ∉ labels)
    {session : Session sql Attempt Write Lock Reply} (live : ledger.sessions id = some session) :
    (∀ statement next, session.rest = .query statement next →
      statement.Accepted platform session.context ledger.reference
        ((engine platform).view ledger.store session.writes)) ∧
    (∀ failure, session.rest = .fail failure → failure.Foreseen) ∧
    ∀ reply, session.rest = .done reply → ∃ success, reply = .ok success := by
  have idle := Ledger.start_idle configuration
  have isolation := growingIsolation platform
  have uncommitted := run.not_committed idle live
  obtain ⟨before, after, earlier, later, split, first, began, rest⟩ := run.began idle live
  have started : Ledger.Run platform (.start configuration) (earlier ++ [.begin id session.context])
      after := first.step began
  have served : session.context.Served platform :=
    promised.served id session.context (by simp [split])
  have whole : ∀ middle past future, later = past ++ future →
      Ledger.Run platform after past middle → Ledger.Run platform middle future ledger →
      Whole session.context middle.reference middle.store := by
    intro middle past future parts one other
    have all : labels = ((earlier ++ [.begin id session.context]) ++ past) ++ future := by
      rw [split, parts]
      simp
    have reached := started.trans one
    have reachable : Ledger.Reachable platform middle := ⟨configuration, _, reached⟩
    apply @Promised.whole _ _ _ _ id _ (all ▸ promised).earlier valid reached (by simp)
    · intro committed
      exact uncommitted (all ▸ List.mem_append_left future committed)
    · exact reachable.room other few
  have tracking : Tracking Configuration.Within Configuration.Within :=
    ⟨fun within => within, Configuration.Within.trans⟩
  have consistent := started.consistent isolation (fun _ _ => trivial) idle.consistent
  have tracked : Session.Tracked (engine platform) (Whole session.context) Configuration.Within Evolves
      (fun _ => False) session (fun statement _ writes configuration db =>
        statement.Accepted platform session.context configuration ((engine platform).view db writes))
      (fun failure _ _ => failure.Foreseen) (fun reply _ _ _ _ => ∃ success, reply = .ok success)
      ledger.reference ledger.store := by
    cases began with
    | begin =>
      refine (rest.tracked isolation tracking (fun _ _ => trivial) consistent
        (fun past future middle parts one other => whole middle past future parts one other)
        (fun error member _ => healthy error (by simp [split, member])) List.mem_cons_self
        (Function.update_self _ _ _) ?_ live).2
      exact ⟨before.reference, before.store, .refl _, .refl _ _, handle_sane documented served⟩
  obtain ⟨seen, known, within, evolves, sane⟩ := tracked
  refine ⟨?_, ?_, ?_⟩
  · intro statement next asked
    rw [asked] at sane
    have covered := (run.consistent isolation (fun _ _ => trivial) idle.consistent).covered id session
      live
    exact (sane ledger.reference ledger.store (whole ledger later [] (by simp) rest (.refl _)) within
      evolves covered).1
  · intro failure failed
    rw [failed] at sane
    exact sane
  · intro reply finished
    rw [finished] at sane
    exact sane

theorem Promised.of_moves {moves : List (Move Attempt)}
    (served : ∀ attempt ∈ moves.filterMap Move.context?, attempt.Served platform)
    (distinct : ((moves.filterMap Move.context?).flatMap Attempt.minted).Nodup)
    (stands : List.Forall₂ Move.Stands moves labels) : Promised platform labels where
  served id attempt member := served attempt (Move.Stands.mem_contexts stands member)
  minted := by
    have same : labels.flatMap Label.minted =
        (moves.filterMap Move.context?).flatMap Attempt.minted := by
      clear served distinct
      induction stands with
      | nil => rfl
      | @cons move label moves labels here _ ih =>
        rw [List.flatMap_cons, ih]
        cases move with
        | begin id context =>
          rw [show label = .begin id context from here]
          rfl
        | advance id => rcases here with rfl | rfl | rfl <;> rfl
        | finish id => rcases here with rfl | rfl <;> rfl
    exact same ▸ distinct
  rates row member := by
    obtain ⟨move, _, here⟩ := Move.Stands.of_mem stands member
    cases move <;> simp [Move.Stands] at here

end Runs

-- Alice's transfer is about to be inserted, and Bob's waits for her accounts.
def Sample.crossing : List (Move Attempt) := Sample.crossed.take 34

def Sample.inserting (ledger : Ledger) : Option TransferValues :=
  (ledger.sessions 3).bind fun session =>
    match session.rest with
    | .query (.insertTransfer values) _ => some values
    | _ => none

theorem sanity_branches_unreachable_crossing :
    ∃ (ledger : Ledger) (session : Session sql Attempt Write Lock Reply) (values : TransferValues),
      ledger.sessions 3 = some session ∧ values.sourceAmountMinor.val = 3000 ∧
      (Statement.insertTransfer values).Accepted .reference session.context ledger.reference
        ((engine .reference).view ledger.store session.writes) := by
  have evaluated : ((Ledger.start Sample.configuration).performAll (engine .reference)
      (handle .reference) Sample.crossing).map (fun ledger : Ledger =>
        ((Sample.inserting ledger).map fun values => values.sourceAmountMinor.val,
          ledger.store.accountEntries.length)) = some (some 3000, 0) := by decide +kernel
  obtain ⟨ledger, performed, state⟩ := Option.map_eq_some_iff.mp evaluated
  obtain ⟨shown, none⟩ := Prod.mk.inj state
  obtain ⟨values, inserting, amount⟩ := Option.map_eq_some_iff.mp shown
  obtain ⟨session, live, asked⟩ := Option.bind_eq_some_iff.mp inserting
  obtain ⟨labels, stands, run⟩ := System.performAll_stands
    (Ledger.start_idle Sample.configuration).known performed
  have promised : Promised .reference labels := by
    have begun : Sample.crossing.filterMap Move.context? =
        [Sample.account 1 "alice" "EUR" "100.00", Sample.account 2 "bob" "EUR" "5.00",
          Sample.transfer 4 "alice" "pay" 1 2 "30.00", Sample.transfer 5 "bob" "pay" 2 1 "1.00"] := by
      decide +kernel
    refine .of_moves ?_ (by rw [begun]; decide) stands
    intro attempt member
    simp only [begun, List.mem_cons, List.not_mem_nil, or_false] at member
    rcases member with rfl | rfl | rfl | rfl
    all_goals exact Sample.served _ _ _ _ (by decide) (by decide)
  have few : ∀ account, (ledger.store.entriesOf account).length + 1 < 2 ^ 63 := by
    intro account
    have fewer := List.length_filter_le (fun entry => entry.accountId = account)
      ledger.store.accountEntries
    rw [none] at fewer
    rw [Db.entriesOf]
    omega
  have healthy : ∀ error, .fault 3 error ∉ labels := by
    intro error member
    obtain ⟨move, _, here⟩ := Move.Stands.of_mem stands member
    cases move <;> simp [Move.Stands] at here
  have sane := (sanity_branches_unreachable Platform.reference_documented
    Sample.configuration_valid promised run few healthy live).1
  split at asked
  · rename_i next rest
    cases asked
    exact ⟨ledger, session, _, live, amount, sane _ _ rest⟩
  · cases asked

end LedgerService
