import LedgerService.Refusals

set_option autoImplicit false

namespace LedgerService

open Transaction

section Reservations

variable {platform : Platform} {attempt : Attempt} {failed : Failure → List Lock → Db → Prop}
  {locks : List Lock} {db : Db} {β : Type} {post : β → List Lock → List Write → Db → Prop}
  {scope : Scope} {fingerprint : String}

structure Reserving (platform : Platform) (attempt : Attempt)
    (failed : Failure → List Lock → Db → Prop) (scope : Scope) (fingerprint : String) : Prop where
  interrupted : ∀ text locks db, failed (.database (.failure text)) locks db
  unreservable : ¬ attempt.Reservable platform scope fingerprint → ∀ failure locks db,
    Ordinary failure → failed failure locks db
  conflict : ∀ row locks db, db.record? scope = some row → row.requestFingerprint ≠ fingerprint →
    failed (.app .idempotencyConflict) locks db

namespace Reserving

theorem reserve_bind (reserving : Reserving platform attempt failed scope fingerprint)
    {f : Reservation → Handler β}
    (replayed : ∀ body later locks', Keeps platform attempt failed locks' [] later post
      (f (.replay created body)))
    (conflicting : ∀ row later locks', later.record? scope = some row →
      row.requestFingerprint ≠ fingerprint →
      Keeps platform attempt failed locks' [] later post (f .conflict))
    (owned : ∀ record later locks', Evolves locks db later →
      Held locks' (.idempotencyRecord scope) → later.record? scope = none →
      Keeps platform attempt failed locks' [.insertRecord record] later post (f .owned)) :
    Keeps platform attempt failed locks [] db post ((reserve platform scope fingerprint).bind f) := by
  simp only [reserve, Program.bind_eq, Program.bind_assoc]
  refine ensures_orFail_bind.mpr ⟨?_, fun retention retained => ?_⟩
  · intro outOfRange
    apply reserving.unreservable _ _ _ _ (by decide)
    rintro ⟨retention, _, retained, _⟩
    rw [outOfRange] at retained
    cases retained
  apply keeps_send_bind
  · intro configuration later error _ _ reason
    rcases reason with ⟨text, rfl⟩ | refused
    · exact reserving.interrupted text _ _
    · apply reserving.unreservable
      · rintro ⟨_, expiresAt, same, expires, checked⟩
        rw [retained] at same
        cases same
        simp [Statement.exec, insertRecord, expires, checked, Except.map] at refused
      · exact exec_error_ordinary (by simp [Statement.Reinserts]) refused
  · intro configuration later inserted more sound grown ran
    obtain ⟨expiresAt, _, _, found⟩ := insertRecord_eq_ok.mp ran
    rcases found with ⟨row, found, rfl, rfl⟩ | ⟨unused, rfl, rfl⟩
    · -- The key is taken: the record that took it is committed.
      have lost : ¬ (0 : Nat) = 1 := by decide
      rw [if_neg lost, Program.bind_assoc]
      apply keeps_send_bind
      · intro configuration' later' error _ _ reason
        rcases reason with ⟨text, rfl⟩ | refused
        · exact reserving.interrupted text _ _
        · cases refused
      · intro configuration' later' answer more' sound' grown' ran'
        have still : later'.record? scope = some row := grown'.record scope row found
        simp only [Statement.exec, List.append_nil, Engine.view_nil, still, Option.map_some,
          Except.ok.injEq, Prod.mk.injEq] at ran'
        obtain ⟨rfl, rfl⟩ := ran'
        have complete := sound'.corresponding.complete row (Table.mem_of_lookup still)
        obtain ⟨body, resource, responded, _⟩ := complete.body
        rw [Program.bind_assoc]
        refine ensures_orFail_bind.mpr ⟨by simp, ?_⟩
        rintro _ ⟨⟩
        dsimp only
        by_cases same : row.requestFingerprint = fingerprint
        · simp only [same, ne_eq, not_true_eq_false, if_false, complete.status, responded]
          exact replayed body later' _
        · simp only [ne_eq, same, not_false_eq_true, if_true]
          exact conflicting row later' _ still same
    · rw [if_pos rfl]
      exact owned _ later _ grown
        (.of_update (by simp [Statement.locks, show later.record? scope = none from unused])) unused

theorem replaySuccess_bind {writes : List Write} {body : Value} {f : Option Success → Handler β}
    (replayed : ∀ success, Keeps platform attempt failed locks writes db post (f (some success))) :
    Keeps platform attempt failed locks writes db post ((replaySuccess created body).bind f) := by
  simp only [replaySuccess, Program.bind_eq, Program.bind_assoc]
  rw [Keeps, ensures_emit_bind, ensures_ofExcept_bind]
  refine ⟨?_, fun status _ => replayed _⟩
  rintro _ ⟨⟩

theorem rejectConflict_bind (reserving : Reserving platform attempt failed scope fingerprint)
    {writes : List Write} {f : Option Success → Handler β} {row : IdempotencyRecord}
    (found : db.record? scope = some row) (other : row.requestFingerprint ≠ fingerprint) :
    Keeps platform attempt failed locks writes db post (rejectConflict.bind f) :=
  reserving.conflict row locks db found other

theorem replayReserved_bind (reserving : Reserving platform attempt failed scope fingerprint)
    {f : Option Success → Handler β}
    (replayed : ∀ success later locks', Keeps platform attempt failed locks' [] later post
      (f (some success)))
    (owned : ∀ record later locks', Evolves locks db later →
      Held locks' (.idempotencyRecord scope) → later.record? scope = none →
      Keeps platform attempt failed locks' [.insertRecord record] later post (f none)) :
    Keeps platform attempt failed locks [] db post
      ((replayReserved platform scope fingerprint).bind f) := by
  simp only [replayReserved, Program.bind_eq, Program.bind_assoc]
  apply reserving.reserve_bind
  · intro body later locks'
    exact replaySuccess_bind fun success => replayed success later locks'
  · intro row later locks' found other
    exact reserving.rejectConflict_bind found other
  · intro record later locks' grown held unused
    dsimp only
    rw [Program.bind_assoc, Keeps, ensures_emit_bind]
    exact owned record later locks' grown held unused

theorem replayOrReserve_bind (reserving : Reserving platform attempt failed scope fingerprint)
    {f : Option Success → Handler β}
    (replayed : ∀ success later locks', Keeps platform attempt failed locks' [] later post
      (f (some success)))
    (owned : ∀ record later locks', Evolves locks db later →
      Held locks' (.idempotencyRecord scope) → later.record? scope = none →
      Keeps platform attempt failed locks' [.insertRecord record] later post (f none)) :
    Keeps platform attempt failed locks [] db post
      ((replayOrReserve platform scope fingerprint).bind f) := by
  simp only [replayOrReserve, completedSuccess, Program.bind_eq, Program.bind_assoc]
  apply keeps_send_bind
  · intro configuration later error _ _ reason
    rcases reason with ⟨text, rfl⟩ | refused
    · exact reserving.interrupted text _ _
    · cases refused
  · intro configuration later answer more sound grown ran
    cases found : later.record? scope with
    | none =>
      simp only [Statement.exec, Engine.view_nil, found, Option.map_none, Except.ok.injEq,
        Prod.mk.injEq] at ran
      obtain ⟨rfl, rfl⟩ := ran
      apply reserving.replayReserved_bind replayed
      intro record later' locks' grown' held unused
      exact owned record later' locks' (grown.trans (grown'.fewer (List.subset_append_left _ _)))
        held unused
    | some row =>
      simp only [Statement.exec, Engine.view_nil, found, Option.map_some, Except.ok.injEq,
        Prod.mk.injEq] at ran
      obtain ⟨rfl, rfl⟩ := ran
      have complete := sound.corresponding.complete row (Table.mem_of_lookup found)
      obtain ⟨body, resource, responded, _⟩ := complete.body
      simp only [Program.bind_assoc, complete.status, responded]
      refine ensures_orFail_bind.mpr ⟨by simp, ?_⟩
      rintro _ ⟨⟩
      refine ensures_orFail_bind.mpr ⟨by simp, ?_⟩
      rintro _ ⟨⟩
      rw [Program.done_bind]
      dsimp only
      by_cases same : fingerprint = row.requestFingerprint
      · simp only [same, ne_eq, not_true_eq_false, if_false]
        exact replaySuccess_bind fun success => replayed success later _
      · simp only [ne_eq, same, not_false_eq_true, if_true]
        exact reserving.rejectConflict_bind found (Ne.symm same)

end Reserving

end Reservations

section Handlers

variable {platform : Platform} {attempt : Attempt} {began : Db}

-- Every failure of the session is explained; `began` is the database at its begin.
abbrev Explained (platform : Platform) (attempt : Attempt) (began : Db) (locks : List Lock)
    (writes : List Write) (db : Db) (program : Handler Reply) : Prop :=
  Keeps platform attempt (Refused platform attempt began) locks writes db (fun _ _ _ _ => True)
    program

theorem Refused.interrupted (text : String) (locks : List Lock) (db : Db) :
    Refused platform attempt began (.database (.failure text)) locks db :=
  ⟨.of_fault ⟨text, rfl⟩, fun _ _ _ => .interrupted text⟩

theorem Refused.unidentified {failure : Failure} {locks : List Lock} {db : Db}
    (ordinary : Ordinary failure) (unknown : attempt.identity platform began = none) :
    Refused platform attempt began failure locks db :=
  ⟨ordinary, fun _ _ identity => by simp [unknown] at identity⟩

abbrev Agrees (platform : Platform) (attempt : Attempt) (began : Db) (scope : Scope)
    (fingerprint : String) : Prop :=
  ∀ identity, attempt.identity platform began = some identity → identity = (scope, fingerprint)

theorem Agrees.reserving {scope : Scope} {fingerprint : String}
    (agrees : Agrees platform attempt began scope fingerprint) :
    Reserving platform attempt (Refused platform attempt began) scope fingerprint where
  interrupted := Refused.interrupted
  unreservable refused failure locks db ordinary :=
    ⟨ordinary, fun scope' fingerprint' identity => by
      cases agrees _ identity
      exact .unreservable refused⟩
  conflict row locks db found other :=
    ⟨by decide, fun scope' fingerprint' identity => by
      cases agrees _ identity
      exact .conflict found other⟩

def Owns (scope : Scope) (locks : List Lock) (db : Db) : Prop :=
  Held locks (.idempotencyRecord scope) ∧ db.record? scope = none

theorem Owns.lasts {scope : Scope} {locks more : List Lock} {db db' : Db}
    (fewer : locks ⊆ more) (grown : Evolves locks db db') (owns : Owns scope locks db) :
    Owns scope more db' :=
  ⟨owns.1.more fewer, by rw [grown.recordHeld _ owns.1, owns.2]⟩

theorem Agrees.owner {scope : Scope} {fingerprint : String}
    (agrees : Agrees platform attempt began scope fingerprint) {failure : Failure}
    {locks : List Lock} {db : Db} (ordinary : Ordinary failure) (owns : Owns scope locks db)
    (reversal : ∀ original, attempt.MayReverse platform began original →
      failure = alreadyReversed ∨ (∃ text, failure = .database (.failure text)) ∨
      (⟨.transfer original.id, .update⟩ ∈ locks ∧ db.reversed original.id = false)) :
    Refused platform attempt began failure locks db :=
  ⟨ordinary, fun scope' fingerprint' identity => by
    cases agrees _ identity
    exact .owner owns.1 owns.2 reversal⟩

theorem Agrees.safe {scope : Scope} {fingerprint : String}
    (agrees : Agrees platform attempt began scope fingerprint)
    (forward : ∀ text, attempt.request ≠ .reverseTransfer text) :
    Safe (Refused platform attempt began) (Owns scope) where
  lasts := Owns.lasts
  explains ordinary owns := agrees.owner ordinary owns fun _ may =>
    absurd may.asked.choose_spec.1 (forward _)

theorem performAccountCreation_explained {scope : Scope} {locks : List Lock} {writes : List Write}
    {db : Db} (safe : Safe (Refused platform attempt began) (Owns scope))
    (owns : Owns scope locks db) {clientId : String} {id : Uuid} {request : AccountRequest} :
    Explained platform attempt began locks writes db
      (performAccountCreation clientId id scope request) := by
  simp only [performAccountCreation, Program.bind_eq]
  apply safe.send_bind owns (by simp [Statement.Reinserts])
  intro _ _ _ _ _ _ owns₁ _
  apply safe.ofExcept_bind owns₁ (accountCreatedResponse_rejects _ _ _)
  intro _ _
  apply safe.storeSuccess_bind owns₁
  intro _ _ _ _
  trivial

theorem createAccount_explained {body : Option CreateAccountRequest}
    (asked : attempt.request = .createAccount body) :
    Explained platform attempt began [] [] began
      (createAccount platform attempt.clientId attempt.headers body attempt.ids.resource) := by
  simp only [createAccount, Program.bind_eq]
  refine ensures_ofExcept_bind.mpr ⟨fun failure invalid => ?_, fun request valid => ?_⟩
  · exact .unidentified (validateAccountRequest_rejects _ _ failure invalid)
      (by simp [Attempt.identity, asked, invalid])
  have agrees : Agrees platform attempt began
      ⟨attempt.clientId, .accountCreation, request.idempotencyKey.asStr⟩
      (accountCreationFingerprint platform request.currency.code request.balanceMinor) := by
    intro identity known
    simpa [Attempt.identity, asked, valid, eq_comm] using known
  apply keeps_send_bind
  · intro _ later error _ _ reason
    rcases reason with ⟨text, rfl⟩ | refused
    · exact .interrupted text _ _
    · cases refused
  · intro _ later _ more _ _ ran
    cases ran
    apply agrees.reserving.reserve_bind
    · intro _ _ _
      trivial
    · intro row later' locks' found other
      exact agrees.reserving.conflict row _ _ found other
    · intro record later' locks' _ held unused
      exact performAccountCreation_explained (agrees.safe (by simp [asked])) ⟨held, unused⟩

theorem performTransfer_explained {scope : Scope} {locks : List Lock} {writes : List Write}
    {db : Db} (safe : Safe (Refused platform attempt began) (Owns scope))
    (owns : Owns scope locks db) {clientId : String} {ids : NewIds} {preliminary : Preliminary}
    {request : TransferRequest} {amountMinor : I64} :
    Explained platform attempt began locks writes db
      (performTransfer clientId ids scope preliminary request amountMinor) := by
  simp only [performTransfer, Program.bind_eq]
  apply safe.send_bind owns (by simp [Statement.Reinserts])
  intro _ _ time _ _ _ owns₁ _
  apply safe.selectFxConfiguration_bind owns₁
  intro fx _ _ _ owns₂
  apply safe.selectAccountsForUpdate_bind owns₂
  intro accounts _ _ owns₃
  apply safe.ofExcept_bind owns₃ (transferAccounts_rejects _ _ _ _)
  rintro ⟨source, destination⟩ _
  apply safe.ofExcept_bind owns₃ arithmetic_rejects
  intro terms _
  apply safe.ofExcept_bind owns₃ (transferBalances_rejects _ _ _)
  rintro ⟨sourceBalance, destinationBalance⟩ _
  apply safe.post_bind owns₃ (by simp [Statement.Reinserts, transferPosting])
  intro createdAt _ _ _ owns₄
  apply safe.ofExcept_bind owns₄ (transferCreatedResponse_rejects _ _ _ _ _ _ _)
  intro _ _
  apply safe.storeSuccess_bind owns₄
  intro _ _ _ _
  trivial

theorem explained_of_total {statement : Statement} {configuration : Configuration} {db : Db}
    {answer : statement.Result × List Write} {error : DbError} {locks : List Lock} {later : Db}
    (total : statement.exec platform attempt.started configuration db = .ok answer)
    (reason : error.Fault ∨
      statement.exec platform attempt.started configuration db = .error error) :
    Refused platform attempt began (.database error) locks later := by
  rcases reason with ⟨text, rfl⟩ | refused
  · exact .interrupted text _ _
  · rw [total] at refused
    cases refused

theorem explained_read_bind {statement : Statement} {f : statement.Result → Handler Reply}
    {locks : List Lock} {writes : List Write} {db : Db}
    (read : Configuration → Db → statement.Result)
    (total : ∀ configuration db, statement.exec platform attempt.started configuration db =
      .ok (read configuration db, []))
    (step : ∀ configuration later, Evolves locks db later →
      Explained platform attempt began
        (locks ++ statement.locks ((engine platform).view later writes)) writes later
        (f (read configuration ((engine platform).view later writes)))) :
    Explained platform attempt began locks writes db ((send statement).bind f) := by
  apply keeps_send_bind
  · intro configuration later error _ _ reason
    exact explained_of_total (total configuration _) reason
  · intro configuration later answer more _ grown ran
    rw [total] at ran
    cases ran
    rw [List.append_nil]
    exact step configuration later grown

theorem createTransfer_identity {body : Option CreateTransferRequest} {request : TransferRequest}
    (asked : attempt.request = .createTransfer body)
    (valid : validateTransferRequest platform attempt.headers body = .ok request)
    {later : Db} (since : Evolves [] began later) {identity : Scope × String}
    (known : attempt.identity platform began = some identity) :
    ∃ preliminary operationType amountMinor,
      later.preliminary request.sourceAccountId request.destinationAccountId = some preliminary ∧
      transferOperation preliminary = .ok operationType ∧
      transferAmount preliminary request.amount = .ok amountMinor ∧
      identity = (⟨attempt.clientId, operationType, request.idempotencyKey.asStr⟩,
        transferFingerprint platform request.sourceAccountId request.destinationAccountId
          preliminary.sourceCurrency amountMinor) := by
  simp only [Attempt.identity, asked, valid] at known
  obtain ⟨preliminary, found, known⟩ := Option.bind_eq_some_iff.mp known
  split at known
  · rename_i operationType amountMinor operation amount
    exact ⟨preliminary, operationType, amountMinor, preliminary_evolves since found, operation,
      amount, (Option.some.inj known).symm⟩
  · cases known

theorem createTransfer_explained {body : Option CreateTransferRequest}
    (asked : attempt.request = .createTransfer body) :
    Explained platform attempt began [] [] began
      (createTransfer platform attempt.clientId attempt.headers body attempt.ids) := by
  simp only [createTransfer, acquireConnection, Program.bind_eq, Program.bind_assoc]
  refine ensures_ofExcept_bind.mpr ⟨fun failure invalid => ?_, fun request valid => ?_⟩
  · exact .unidentified (validateTransferRequest_rejects _ _ _ failure invalid)
      (by simp [Attempt.identity, asked, invalid])
  intro configuration₁ later₁ _ grown₁ _
  refine ⟨trivial, fun error reason => @explained_of_total _ _ _ .acquire configuration₁ later₁ _
    _ _ _ rfl reason, ?_⟩
  rintro _ _ ⟨⟩
  apply explained_read_bind (fun _ _ => ()) (fun _ _ => rfl)
  intro _ later₂ grown₂
  apply explained_read_bind
    (fun _ db => db.preliminary request.sourceAccountId request.destinationAccountId)
    (fun _ _ => rfl)
  intro _ later grown₃
  have since : Evolves [] began later := (grown₁.trans grown₂).trans grown₃
  have identified := fun identity known =>
    @createTransfer_identity _ _ _ _ _ asked valid _ since identity known
  refine ensures_orFail_bind.mpr ⟨fun missing => ⟨by decide, fun _ _ known => ?_⟩, ?_⟩
  · obtain ⟨_, _, _, found, _⟩ := identified _ known
    exact absurd (missing.symm.trans found) (by simp)
  intro preliminary found
  refine ensures_ofExcept_bind.mpr ⟨fun failure refused =>
    ⟨transferOperation_rejects _ failure refused, fun _ _ known => ?_⟩, ?_⟩
  · obtain ⟨_, _, _, found', operation, _⟩ := identified _ known
    cases Option.some.inj (found.symm.trans found')
    exact absurd (refused.symm.trans operation) (by simp)
  intro operationType operation
  rw [ensures_emit_bind]
  refine ensures_ofExcept_bind.mpr ⟨fun failure refused =>
    ⟨transferAmount_rejects _ _ failure refused, fun _ _ known => ?_⟩, ?_⟩
  · obtain ⟨_, _, _, found', _, amount, _⟩ := identified _ known
    cases Option.some.inj (found.symm.trans found')
    exact absurd (refused.symm.trans amount) (by simp)
  intro amountMinor amount
  have agrees : Agrees platform attempt began
      ⟨attempt.clientId, operationType, request.idempotencyKey.asStr⟩
      (transferFingerprint platform request.sourceAccountId request.destinationAccountId
        preliminary.sourceCurrency amountMinor) := by
    intro identity known
    obtain ⟨_, _, _, found', operation', amount', rfl⟩ := identified _ known
    cases Option.some.inj (found.symm.trans found')
    cases operation.symm.trans operation'
    cases amount.symm.trans amount'
    rfl
  apply agrees.reserving.replayOrReserve_bind
  · intro _ _ _
    trivial
  · intro record later' locks' _ held unused
    exact performTransfer_explained (agrees.safe (by simp [asked])) ⟨held, unused⟩

def LocksOriginal (scope : Scope) (original : Uuid) (locks : List Lock) (db : Db) : Prop :=
  Owns scope locks db ∧ ⟨.transfer original, .update⟩ ∈ locks ∧ db.reversed original = false

theorem Agrees.locked {scope : Scope} {fingerprint : String}
    (agrees : Agrees platform attempt began scope fingerprint) {text : String} {id : Uuid}
    (asked : attempt.request = .reverseTransfer text) (parsed : platform.parseUuid text = some id) :
    Safe (Refused platform attempt began) (LocksOriginal scope id) where
  lasts := by
    rintro locks more db db' fewer grown ⟨owns, locked, first⟩
    exact ⟨owns.lasts fewer grown, fewer locked, by rw [grown.reversedHeld _ (.inl locked), first]⟩
  explains := by
    rintro failure locks db ordinary ⟨owns, locked, first⟩
    apply agrees.owner ordinary owns
    intro original may
    obtain ⟨text', asked', parsed'⟩ := may.asked
    cases asked.symm.trans asked'
    cases parsed.symm.trans parsed'
    exact .inr (.inr ⟨locked, first⟩)

theorem lockOriginal_explained {scope : Scope} {fingerprint : String}
    (agrees : Agrees platform attempt began scope fingerprint) {text : String} {id : Uuid}
    (asked : attempt.request = .reverseTransfer text) (parsed : platform.parseUuid text = some id)
    {locks : List Lock} {record : IdempotencyRecord} {db : Db} (owns : Owns scope locks db)
    (since : Evolves [] began db) {f : OriginalTransfer → Handler Reply}
    (step : ∀ original later locks', LocksOriginal scope id locks' later →
      Explained platform attempt began locks' [.insertRecord record] later (f original)) :
    Explained platform attempt began locks [.insertRecord record] db
      ((lockOriginal attempt.clientId id).bind f) := by
  have named : ∀ original, attempt.MayReverse platform began original → original.id = id := by
    intro original may
    obtain ⟨text', asked', parsed'⟩ := may.asked
    cases asked.symm.trans asked'
    exact Option.some.inj (parsed'.symm.trans parsed)
  simp only [lockOriginal, Program.bind_eq, Program.bind_assoc]
  apply explained_read_bind (fun _ db => (db.transfer? id).map Transfer.original) (fun _ _ => rfl)
  intro _ later₁ grown₁
  have since₁ := since.trans (grown₁.fewer (List.nil_subset _))
  have owns₁ := owns.lasts (List.subset_append_left _ ((Statement.lockTransfer id).locks
    ((engine platform).view later₁ [.insertRecord record]))) grown₁
  -- Whoever may reverse the transfer finds it, as it was when the request began.
  have present : ∀ original, attempt.MayReverse platform began original →
      later₁.transfer? id = some original := by
    intro original may
    have still := since₁.transfer _ _ may.found
    rwa [named original may] at still
  rw [show ((engine platform).view later₁ [.insertRecord record]).transfer? id =
    later₁.transfer? id by simp]
  refine ensures_orFail_bind.mpr ⟨fun missing => ?_, fun original found => ?_⟩
  · apply agrees.owner (by decide) owns₁
    intro original may
    rw [present original may] at missing
    cases missing
  have same : ∀ row, attempt.MayReverse platform began row → original = row.original := by
    intro row may
    rw [present row may] at found
    exact (Option.some.inj found).symm
  refine ensures_ensure_bind.mpr ⟨fun reversal => ?_, fun forward => ?_⟩
  · apply agrees.owner (by decide) owns₁
    intro row may
    exact absurd (same row may ▸ may.kind) reversal
  apply explained_read_bind
    (fun _ db => (db.account? original.destinationAccountId).map Account.ownerId) (fun _ _ => rfl)
  intro _ later₂ grown₂
  have since₂ := since₁.trans (grown₂.fewer (List.nil_subset _))
  have owns₂ := owns₁.lasts (List.subset_append_left _ []) grown₂
  refine ensures_ensure_bind.mpr ⟨fun stranger => ?_, fun authorized => ?_⟩
  · apply agrees.owner (by decide) owns₂
    intro row may
    obtain ⟨account, found, owned⟩ := may.owner
    obtain ⟨account', found', holder⟩ := since₂.account _ _ found
    apply absurd _ stranger
    simp [same row may, Transfer.original, found', holder.ownerId.trans owned]
  apply explained_read_bind (fun _ db => db.reversed id) (fun _ _ => rfl)
  intro _ later₃ grown₃
  have owns₃ := owns₂.lasts (List.subset_append_left _ []) grown₃
  refine ensures_ensure_bind.mpr ⟨fun _ => ?_, fun first => ?_⟩
  · exact agrees.owner (by decide) owns₃ fun _ _ => .inl rfl
  apply step _ _ _ ⟨owns₃, _, by simpa using first⟩
  have exists_row : (later₁.transfer? id).isSome := by
    obtain ⟨row, present, _⟩ := Option.map_eq_some_iff.mp found
    simp [present]
  simp [Statement.locks, exists_row]

theorem performReversal_explained {scope : Scope} {fingerprint : String}
    (agrees : Agrees platform attempt began scope fingerprint) {text : String} {id : Uuid}
    (asked : attempt.request = .reverseTransfer text) (parsed : platform.parseUuid text = some id)
    {locks : List Lock} {record : IdempotencyRecord} {db : Db} (owns : Owns scope locks db)
    (since : Evolves [] began db) :
    Explained platform attempt began locks [.insertRecord record] db
      (performReversal attempt.clientId attempt.ids scope id) := by
  have safe := agrees.locked asked parsed
  simp only [performReversal, Program.bind_eq]
  apply lockOriginal_explained agrees asked parsed owns since
  intro original _ _ known
  apply safe.selectAccountsForUpdate_bind known
  intro accounts later locks' known₁
  apply safe.ofExcept_bind known₁ (reversalAccounts_rejects _ _)
  rintro ⟨source, destination⟩ _
  apply safe.ofExcept_bind known₁ (reversalBalances_rejects _ _ _)
  rintro ⟨sourceBalance, destinationBalance⟩ _
  apply safe.post_bind known₁
  · rintro later' grown ⟨values, original', inserted, reverses, already⟩
    cases inserted
    cases reverses
    have first := (safe.lasts (List.Subset.refl _) grown known₁).2.2
    simp [first] at already
  intro createdAt _ _ _ known₂
  apply safe.ofExcept_bind known₂ (reversalCreatedResponse_rejects _ _ _ _ _ _ _ _)
  intro _ _
  apply safe.storeSuccess_bind known₂
  intro _ _ _ _
  trivial

theorem reverseTransfer_explained {text : String}
    (asked : attempt.request = .reverseTransfer text) :
    Explained platform attempt began [] [] began
      (reverseTransfer platform attempt.clientId attempt.headers text attempt.ids) := by
  simp only [reverseTransfer, beginReversal, Program.bind_eq, Program.bind_assoc]
  refine ensures_ofExcept_bind.mpr ⟨fun failure invalid => ?_, fun request valid => ?_⟩
  · exact .unidentified (validateReversalRequest_rejects _ _ _ failure invalid)
      (by simp [Attempt.identity, asked, invalid])
  intro configuration₁ later₁ _ grown₁ _
  refine ⟨trivial, fun error reason => @explained_of_total _ _ _ .begin configuration₁ later₁ _ _
    _ _ rfl reason, ?_⟩
  rintro _ _ ⟨⟩
  have parsed : platform.parseUuid text = some request.originalTransferId := by
    simp only [validateReversalRequest, bind_eq_ok, orFailure_eq_ok] at valid
    obtain ⟨_, _, id, parsed, built⟩ := valid
    cases built
    exact parsed
  have agrees : Agrees platform attempt began
      ⟨attempt.clientId, .reversal, request.idempotencyKey.asStr⟩
      (reversalFingerprint platform request.originalTransferId) := by
    intro identity known
    simpa [Attempt.identity, asked, valid, eq_comm] using known
  simp only [Program.done_bind]
  rw [ensures_emit_bind]
  apply agrees.reserving.replayOrReserve_bind
  · intro _ _ _
    trivial
  · intro record later' locks' grown held unused
    exact performReversal_explained agrees asked parsed ⟨held, unused⟩
      (grown₁.trans (grown.fewer (List.nil_subset _)))

theorem handle_explained (platform : Platform) (attempt : Attempt) (began : Db) :
    Explained platform attempt began [] [] began (handle platform attempt) := by
  unfold handle
  split
  · rename_i body asked
    exact createAccount_explained asked
  · rename_i body asked
    exact createTransfer_explained asked
  · rename_i text asked
    exact reverseTransfer_explained asked

end Handlers

section Runs

variable {platform : Platform} {before after last ledger : Ledger} {id : Nat} {attempt : Attempt}
  {labels : List (Label sql Attempt Operator)} {session : Session sql Attempt Write Lock Reply}

theorem Ledger.Reachable.ensured_since (reachable : before.Reachable platform)
    (began : Ledger.Step platform before (.begin id attempt) after)
    (run : Ledger.Run platform after labels last) (live : last.sessions id = some session)
    {sends : Statement → List Lock → List Write → Configuration → Db → Prop}
    {failed : Failure → List Lock → Db → Prop} {post : Reply → List Lock → List Write → Db → Prop}
    (whole : (handle platform attempt).Ensures (engine platform) Sound Evolves attempt sends failed
      [] [] before.store post) :
    session.context = attempt ∧
      session.Ensured (engine platform) Sound Evolves sends failed post last.store := by
  have started := reachable.step began
  cases began with
  | begin _ _ fresh =>
    have ensured : Session.Ensured (engine platform) Sound Evolves
        ⟨attempt, handle platform attempt, [], []⟩ sends failed post before.store :=
      ⟨before.store, .refl _ _, whole⟩
    exact run.ensured (growingIsolation platform) (fun _ _ => trivial) started.consistent
      (fun _ _ run _ => (started.run run).sound) (by simp) (by simp) ensured live

theorem Ledger.Reachable.ensured (reachable : ledger.Reachable platform)
    (live : ledger.sessions id = some session)
    {sends : Statement → List Lock → List Write → Configuration → Db → Prop}
    {failed : Failure → List Lock → Db → Prop} {post : Reply → List Lock → List Write → Db → Prop}
    (whole : ∀ began, (handle platform session.context).Ensures (engine platform) Sound Evolves
      session.context sends failed [] [] began post) :
    session.Ensured (engine platform) Sound Evolves sends failed post ledger.store := by
  obtain ⟨configuration, labels, run⟩ := reachable
  obtain ⟨before, after, earlier, later, _, first, began, rest⟩ :=
    run.began (Ledger.start_idle configuration) live
  have reached : Ledger.Reachable platform before := ⟨configuration, earlier, first⟩
  exact (reached.ensured_since began rest live (whole _)).2

theorem Ledger.Reachable.refused (reachable : before.Reachable platform)
    (began : Ledger.Step platform before (.begin id attempt) after)
    (run : Ledger.Run platform after labels last) (live : last.sessions id = some session)
    {failure : Failure} (failed : session.rest = .fail failure) :
    Refused platform attempt before.store failure session.locks last.store := by
  obtain ⟨_, known, since, rest⟩ :=
    reachable.ensured_since began run live (handle_explained platform attempt before.store)
  rw [failed] at rest
  exact rest.evolve since

theorem Ledger.Reachable.fails_ordinary (reachable : ledger.Reachable platform)
    (live : ledger.sessions id = some session) {failure : Failure}
    (failed : session.rest = .fail failure) : Ordinary failure := by
  obtain ⟨configuration, labels, run⟩ := reachable
  obtain ⟨before, after, earlier, later, _, first, began, rest⟩ :=
    run.began (Ledger.start_idle configuration) live
  have reached : Ledger.Reachable platform before := ⟨configuration, earlier, first⟩
  exact (reached.refused began rest live failed).ordinary

end Runs

end LedgerService
