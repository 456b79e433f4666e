import LedgerService.Evolution
import LedgerService.Transaction.Serializable

set_option autoImplicit false

/-!
# The handlers keep the lock discipline

Every answer a handler goes on with is settled under the locks it holds.  The one exception is the
look for a completed success: where it comes too early, the reservation finds the same success.
-/

namespace LedgerService

open Transaction

section Rules

variable {platform : Platform} {older : Configuration → Configuration → Prop} {attempt : Attempt}
  {replayable : Prop} {locks : List Lock} {writes : List Write}

def Gains : (statement : Statement) → statement.Result → List Lock → Prop
  | .lockAccount id, answer, locks =>
      ∀ row : LockedAccount, answer = some row → row.id = id ∧ Held locks (.account id)
  | .lockTransfer id, answer, locks => answer ≠ none → ⟨.transfer id, .update⟩ ∈ locks
  | .insertRecord scope _ _, answer, locks => answer = 1 → Held locks (.idempotencyRecord scope)
  | _, _, _ => True

theorem gains_of_exec {now : Timestamp} {configuration : Configuration} {db : Db}
    {statement : Statement} {answer : statement.Result} {added : List Write}
    (ran : statement.exec platform now configuration db = .ok (answer, added))
    (taken : statement.locks db ⊆ locks) : Gains statement answer locks := by
  cases statement with
  | lockAccount id =>
    simp only [Statement.exec, Except.ok.injEq, Prod.mk.injEq] at ran
    intro row same
    rw [same] at ran
    obtain ⟨account, found, rfl⟩ := Option.map_eq_some_iff.mp ran.1
    exact ⟨show account.id = id from Table.key_of_lookup found,
      .of_update (taken (by simp [Statement.locks, found]))⟩
  | lockTransfer id =>
    simp only [Statement.exec, Except.ok.injEq, Prod.mk.injEq] at ran
    intro some
    obtain ⟨row, found⟩ := found_of_answer ran.1 some
    exact taken (by simp [Statement.locks, found])
  | insertRecord scope fingerprint retention =>
    obtain ⟨_, _, _, found⟩ := insertRecord_eq_ok.mp ran
    intro inserted
    rcases found with ⟨_, _, lost, _⟩ | ⟨unused, _⟩
    · rw [inserted] at lost
      cases lost
    · exact .of_update (taken (by simp [Statement.locks, unused]))
  | _ => trivial

theorem settled_of_settles {statement : Statement} {answer : statement.Result}
    {more : List Write} {reference : Configuration} {db : Db} {α : Type}
    {next : Except DbError statement.Result → Handler α}
    (covered : (engine platform).Covered locks writes)
    (ran : statement.exec platform attempt.started reference ((engine platform).view db writes) =
      .ok (answer, more))
    (settles : Settles statement answer
      (locks ++ statement.locks ((engine platform).view db writes))) :
    Settled (engine platform) older Evolves attempt
      (locks ++ statement.locks ((engine platform).view db writes)) writes reference db statement next
      answer more := by
  intro reference' db' result final old grown commits
  have all : (engine platform).Covered
      (locks ++ statement.locks ((engine platform).view db writes)) writes :=
    fun write member lock needed => List.mem_append_left _ (covered write member lock needed)
  exact ⟨reference, answer, more, old,
    exec_evolves (grown.view all) (List.subset_append_right _ _) settles ran, commits⟩

variable {α β : Type} {post : β → Prop → List Lock → List Write → Prop}

theorem disciplined_send_bind {statement : Statement} {f : statement.Result → Handler β}
    (step : ∀ answer sure locks' writes', locks ⊆ locks' → Gains statement answer locks' →
      (replayable → Settles statement answer locks' → sure) →
      (f answer).Disciplined (engine platform) older Evolves attempt sure locks' writes' post) :
    ((send statement).bind f).Disciplined (engine platform) older Evolves attempt replayable locks
      writes post := by
  refine ⟨fun _ => trivial, fun reference db answer more covered ran => ?_⟩
  exact step answer _ _ _ (List.subset_append_left _ _)
    (gains_of_exec ran (List.subset_append_right _ _))
    (fun sure settles => ⟨sure, settled_of_settles covered ran settles⟩)

theorem disciplined_ask_bind {statement : Statement}
    {f : Except DbError statement.Result → Handler β}
    (failed : ∀ error, (f (.error error)).Disciplined (engine platform) older Evolves attempt False
      locks writes post)
    (step : ∀ answer sure locks' writes', locks ⊆ locks' → Gains statement answer locks' →
      (replayable → Settles statement answer locks' → sure) →
      (f (.ok answer)).Disciplined (engine platform) older Evolves attempt sure locks' writes' post) :
    ((ask statement).bind f).Disciplined (engine platform) older Evolves attempt replayable locks
      writes post := by
  refine ⟨failed, fun reference db answer more covered ran => ?_⟩
  exact step answer _ _ _ (List.subset_append_left _ _)
    (gains_of_exec ran (List.subset_append_right _ _))
    (fun sure settles => ⟨sure, settled_of_settles covered ran settles⟩)

end Rules

section Parts

variable {platform : Platform} {older : Configuration → Configuration → Prop} {attempt : Attempt}
  {replayable : Prop} {locks : List Lock} {writes : List Write} {β : Type}
  {post : β → Prop → List Lock → List Write → Prop}

theorem lockAccounts_disciplined {ids : List Uuid} {f : List LockedAccount → Handler β}
    (step : ∀ rows sure locks' writes', locks ⊆ locks' → rows.length ≤ ids.length →
      (∀ row ∈ rows, Held locks' (.account row.id)) →
      (replayable → rows.length = ids.length → sure) →
      (f rows).Disciplined (engine platform) older Evolves attempt sure locks' writes' post) :
    ((lockAccounts ids).bind f).Disciplined (engine platform) older Evolves attempt replayable locks
      writes post := by
  induction ids generalizing replayable locks writes f with
  | nil =>
    exact step [] replayable locks writes (List.Subset.refl _) (Nat.le_refl _) (by simp)
      (fun sure _ => sure)
  | cons id rest ih =>
    simp only [lockAccounts, Program.bind_eq, Program.bind_assoc, Program.done_bind]
    apply disciplined_send_bind
    intro row sure locks' writes' more gains settles
    apply ih
    intro rows surer locks'' writes'' more' bound held settled
    apply step
    · exact List.Subset.trans more more'
    · cases row <;> simp <;> omega
    · intro one member
      rcases List.mem_append.mp member with first | later
      · obtain ⟨same, mine⟩ := gains one (Option.mem_toList.mp first)
        exact same ▸ mine.more more'
      · exact held one later
    · intro before full
      cases row with
      | none => simp at full; omega
      | some one => exact settled (settles before (by simp [Settles])) (by simpa using full)

theorem selectAccountsForUpdate_disciplined {ids : List Uuid} {f : List LockedAccount → Handler β}
    (step : ∀ rows sure locks' writes', locks ⊆ locks' →
      (∀ row ∈ rows, Held locks' (.account row.id)) →
      (replayable → rows.length = ids.length → sure) →
      (f rows).Disciplined (engine platform) older Evolves attempt sure locks' writes' post) :
    ((selectAccountsForUpdate ids).bind f).Disciplined (engine platform) older Evolves attempt
      replayable locks writes post := by
  apply lockAccounts_disciplined
  intro rows sure locks' writes' more bound held settled
  apply step rows sure locks' writes' more held
  intro before full
  have fewer := (List.dedup_sublist ids).length_le
  rw [List.length_insertionSort] at bound
  exact settled before (by rw [List.length_insertionSort]; omega)

theorem reserve_disciplined {scope : Scope} {fingerprint : String} {f : Reservation → Handler β}
    (step : ∀ result sure locks' writes', locks ⊆ locks' →
      (result = .owned → Held locks' (.idempotencyRecord scope)) → (replayable → sure) →
      (f result).Disciplined (engine platform) older Evolves attempt sure locks' writes' post) :
    ((reserve platform scope fingerprint).bind f).Disciplined (engine platform) older Evolves attempt
      replayable locks writes post := by
  simp only [reserve, Program.bind_eq, Program.bind_assoc]
  rw [disciplined_orFail_bind]
  intro retention _
  apply disciplined_send_bind
  intro inserted sure locks' writes' more gains settles
  by_cases owned : inserted = 1
  · rw [if_pos owned]
    exact step .owned sure locks' writes' more (fun _ => gains owned)
      (fun before => settles before trivial)
  · rw [if_neg owned, Program.bind_assoc]
    apply disciplined_send_bind
    intro record surer locks'' writes'' more' _ settles'
    rw [Program.bind_assoc, disciplined_orFail_bind]
    intro row found
    have settled : replayable → surer := fun before =>
      settles' (settles before trivial) (.inl (by simp [found]))
    have all := List.Subset.trans more more'
    split
    · exact step .conflict surer locks'' writes'' all (by simp) settled
    · split
      · exact step (.replay _ _) surer locks'' writes'' all (by simp) settled
      · trivial

theorem replaySuccess_disciplined {httpStatus : Int} {responseBody : Value}
    {f : Option Success → Handler β}
    (step : ∀ success, (f (some success)).Disciplined (engine platform) older Evolves attempt
      replayable locks writes post) :
    ((replaySuccess httpStatus responseBody).bind f).Disciplined (engine platform) older Evolves
      attempt replayable locks writes post := by
  simp only [replaySuccess, Program.bind_eq, Program.bind_assoc]
  rw [disciplined_emit_bind, disciplined_ofExcept_bind]
  exact fun status _ => step _

theorem replayReserved_disciplined {scope : Scope} {fingerprint : String}
    {f : Option Success → Handler β}
    (replayed : ∀ success sure locks' writes', locks ⊆ locks' → (replayable → sure) →
      (f (some success)).Disciplined (engine platform) older Evolves attempt sure locks' writes' post)
    (owned : ∀ sure locks' writes', locks ⊆ locks' → Held locks' (.idempotencyRecord scope) →
      (replayable → sure) →
      (f none).Disciplined (engine platform) older Evolves attempt sure locks' writes' post) :
    ((replayReserved platform scope fingerprint).bind f).Disciplined (engine platform) older Evolves
      attempt replayable locks writes post := by
  simp only [replayReserved, Program.bind_eq, Program.bind_assoc]
  apply reserve_disciplined
  intro result sure locks' writes' more held settled
  cases result with
  | owned =>
    rw [Program.bind_assoc, disciplined_emit_bind]
    exact owned sure locks' writes' more (held rfl) settled
  | replay httpStatus responseBody =>
    exact replaySuccess_disciplined fun success => replayed success sure locks' writes' more settled
  | conflict => trivial

theorem replayOrReserve_disciplined {scope : Scope} {fingerprint : String}
    {f : Option Success → Handler β}
    (replayed : ∀ success sure locks' writes', locks ⊆ locks' → (replayable → sure) →
      (f (some success)).Disciplined (engine platform) older Evolves attempt sure locks' writes' post)
    (owned : ∀ sure locks' writes', locks ⊆ locks' → Held locks' (.idempotencyRecord scope) →
      (replayable → sure) →
      (f none).Disciplined (engine platform) older Evolves attempt sure locks' writes' post) :
    ((replayOrReserve platform scope fingerprint).bind f).Disciplined (engine platform) older Evolves
      attempt replayable locks writes post := by
  obtain ⟨lookup, unfolded, unstored, stored⟩ : ∃ lookup : Option StoredSuccess → Handler β,
      (replayOrReserve platform scope fingerprint).bind f =
        (send (.selectRecord scope)).bind lookup ∧
      lookup none = (replayReserved platform scope fingerprint).bind f ∧
      ∀ record, lookup (some record) =
        (Program.orFail incompleteRecord record.httpStatus).bind fun httpStatus =>
          (Program.orFail incompleteRecord record.responseBody).bind fun responseBody =>
            (if fingerprint ≠ record.requestFingerprint then rejectConflict
              else replaySuccess httpStatus responseBody).bind f :=
    ⟨_, by
      simp only [replayOrReserve, completedSuccess, Program.bind_eq, Program.bind_assoc]
      rfl, rfl, fun record => by simp only [Program.bind_assoc, Program.done_bind]⟩
  rw [unfolded]
  refine ⟨fun _ => trivial, fun reference db answer more covered ran => ?_⟩
  have kept := List.subset_append_left locks
    ((engine platform).locks attempt (.selectRecord scope) ((engine platform).view db writes))
  cases answer with
  | none =>
    -- No record is no settled answer, but the reservation comes to terms with a later one.
    have settled : ∀ next : Except DbError (Option StoredSuccess) → Handler β,
        .query (.selectRecord scope) next = (send (.selectRecord scope)).bind lookup →
        Settled (engine platform) older Evolves attempt
          (locks ++ (engine platform).locks attempt (.selectRecord scope)
            ((engine platform).view db writes)) writes reference db (.selectRecord scope) next none
          more := by
      intro next asks reference' db' result final old grown commits
      injection asks with _ same
      subst same
      change (lookup none).Commits _ _ _ _ _ _ _ _ at commits
      have nothing : more = [] := by
        have read := (Prod.mk.inj (Except.ok.inj ran)).2
        exact read.symm
      rw [unstored, nothing, List.append_nil] at commits
      obtain ⟨value, between, first, second⟩ := Program.commits_bind.mp commits
      have whole := Program.commits_bind.mpr
        ⟨value, between, replayOrReserve_of_replayReserved old first, second⟩
      rw [unfolded] at whole
      exact whole
    change (lookup none).Disciplined _ _ _ _ _ _ _ _
    rw [unstored]
    apply replayReserved_disciplined
    · intro success sure locks' writes' fewer settles
      exact replayed success sure locks' writes' (List.Subset.trans kept fewer)
        fun before => settles ⟨before, settled _ rfl⟩
    · intro sure locks' writes' fewer held settles
      exact owned sure locks' writes' (List.Subset.trans kept fewer) held
        fun before => settles ⟨before, settled _ rfl⟩
  | some record =>
    have settles : Settles (.selectRecord scope) (some record) (locks ++
        (Statement.selectRecord scope).locks ((engine platform).view db writes)) := .inl (by simp)
    have settled := fun next : Except DbError (Option StoredSuccess) → Handler β =>
      @settled_of_settles _ older attempt _ _ (.selectRecord scope) _ _ reference _ _ next covered
        ran settles
    change (lookup (some record)).Disciplined _ _ _ _ _ _ _ _
    rw [stored, disciplined_orFail_bind]
    intro httpStatus _
    rw [disciplined_orFail_bind]
    intro responseBody _
    split
    · trivial
    · apply replaySuccess_disciplined
      intro success
      exact replayed success _ _ _ kept fun before => ⟨before, settled _⟩

theorem selectExchangeRate_disciplined {source destination : String} {time : Timestamp}
    {f : Except ConfigurationError ExchangeRate → Handler β}
    (step : ∀ result sure locks' writes', locks ⊆ locks' →
      ((∃ rate, result = .ok rate) → replayable → sure) →
      (f result).Disciplined (engine platform) older Evolves attempt sure locks' writes' post) :
    ((selectExchangeRate source destination time).bind f).Disciplined (engine platform) older Evolves
      attempt replayable locks writes post := by
  simp only [selectExchangeRate, Program.bind_eq, Program.bind_assoc]
  apply disciplined_ask_bind
  · intro error
    exact step _ _ _ _ (List.Subset.refl _) (by simp)
  · intro rows sure locks' writes' more _ settles
    rcases rows with _ | ⟨rate, _ | ⟨other, rows⟩⟩ <;>
      exact step _ _ _ _ more fun _ before => settles before trivial

theorem selectFeeRule_disciplined {source destination : String} {time : Timestamp}
    {f : Except ConfigurationError FeeRule → Handler β}
    (step : ∀ result sure locks' writes', locks ⊆ locks' →
      ((∃ rule, result = .ok rule) → replayable → sure) →
      (f result).Disciplined (engine platform) older Evolves attempt sure locks' writes' post) :
    ((selectFeeRule source destination time).bind f).Disciplined (engine platform) older Evolves
      attempt replayable locks writes post := by
  simp only [selectFeeRule, Program.bind_eq, Program.bind_assoc]
  apply disciplined_ask_bind
  · intro error
    exact step _ _ _ _ (List.Subset.refl _) (by simp)
  · intro rows sure locks' writes' more _ settles
    rcases rows with _ | ⟨rule, _ | ⟨other, rows⟩⟩
    · rw [Program.bind_assoc]
      apply disciplined_ask_bind
      · intro error
        exact step _ _ _ _ more (by simp)
      · intro rows surer locks'' writes'' more' _ settles'
        have all := List.Subset.trans more more'
        rcases rows with _ | ⟨rule, _ | ⟨other, rows⟩⟩ <;>
          exact step _ _ _ _ all fun _ before => settles' (settles before trivial) trivial
    · exact step _ _ _ _ more fun _ before => settles before trivial
    · exact step _ _ _ _ more fun _ before => settles before trivial

theorem selectFxConfiguration_disciplined {operationType : OperationType}
    {preliminary : Preliminary} {time : Timestamp}
    {f : Option (ExchangeRate × FeeRule) → Handler β}
    (step : ∀ result sure locks' writes', locks ⊆ locks' → (replayable → sure) →
      (f result).Disciplined (engine platform) older Evolves attempt sure locks' writes' post) :
    ((selectFxConfiguration operationType preliminary time).bind f).Disciplined (engine platform)
      older Evolves attempt replayable locks writes post := by
  unfold selectFxConfiguration
  split
  · simp only [Program.bind_eq, Program.bind_assoc]
    apply selectExchangeRate_disciplined
    intro rate sure locks' writes' more settled
    rw [disciplined_ofExcept_bind]
    intro found converted
    apply selectFeeRule_disciplined
    intro rule surer locks'' writes'' more' settled'
    rw [disciplined_ofExcept_bind]
    intro found' converted'
    exact step _ _ _ _ (List.Subset.trans more more') fun before =>
      settled' ⟨found', mapError_eq_ok.mp converted'⟩
        (settled ⟨found, mapError_eq_ok.mp converted⟩ before)
  · exact step none replayable locks writes (List.Subset.refl _) id

theorem storeSuccess_disciplined {scope : Scope} {httpStatus : Int} {responseBody : Value}
    {resource : Uuid} {f : Unit → Handler β} (held : Held locks (.idempotencyRecord scope))
    (step : ∀ sure locks' writes', (replayable → sure) →
      (f ()).Disciplined (engine platform) older Evolves attempt sure locks' writes' post) :
    ((storeSuccess scope httpStatus responseBody resource).bind f).Disciplined (engine platform) older
      Evolves attempt replayable locks writes post := by
  simp only [storeSuccess, Program.bind_eq, Program.bind_assoc]
  apply disciplined_send_bind
  intro _ sure locks' writes' more _ settles
  exact step sure locks' writes' fun before => settles before (held.more more)

theorem post_disciplined {posting : Posting} {f : String → Handler β}
    (source : Held locks (.account posting.transfer.sourceAccountId))
    (destination : Held locks (.account posting.transfer.destinationAccountId))
    (step : ∀ createdAt sure locks' writes', locks ⊆ locks' → (replayable → sure) →
      (f createdAt).Disciplined (engine platform) older Evolves attempt sure locks' writes' post) :
    ((LedgerService.post posting).bind f).Disciplined (engine platform) older Evolves attempt
      replayable locks writes post := by
  simp only [LedgerService.post, Program.bind_eq, Program.bind_assoc]
  apply disciplined_send_bind
  intro createdAt sure₁ locks₁ _ more₁ _ settles₁
  apply disciplined_send_bind
  intro _ sure₂ locks₂ _ more₂ _ settles₂
  have all₂ := List.Subset.trans more₁ more₂
  apply disciplined_send_bind
  intro _ sure₃ locks₃ _ more₃ _ settles₃
  have all₃ := List.Subset.trans all₂ more₃
  apply disciplined_send_bind
  intro _ sure₄ locks₄ _ more₄ _ settles₄
  apply disciplined_send_bind
  intro _ sure₅ locks₅ writes₅ more₅ _ settles₅
  apply step createdAt sure₅ locks₅ writes₅
    (List.Subset.trans all₃ (List.Subset.trans more₄ more₅))
  intro before
  have inserted := settles₁ before trivial
  have debited := settles₂ inserted (source.more all₂)
  have credited := settles₃ debited (destination.more all₃)
  exact settles₅ (settles₄ credited trivial) trivial

theorem lockOriginal_disciplined {clientId : String} {id : Uuid}
    {f : OriginalTransfer → Handler β}
    (step : ∀ original sure locks' writes', locks ⊆ locks' → (replayable → sure) →
      (f original).Disciplined (engine platform) older Evolves attempt sure locks' writes' post) :
    ((lockOriginal clientId id).bind f).Disciplined (engine platform) older Evolves attempt replayable
      locks writes post := by
  simp only [lockOriginal, Program.bind_eq, Program.bind_assoc]
  apply disciplined_send_bind
  intro row sure₁ locks₁ _ more₁ gains settles₁
  rw [disciplined_orFail_bind]
  intro original found
  rw [disciplined_ensure_bind]
  intro _
  apply disciplined_send_bind
  intro owner sure₂ locks₂ _ more₂ _ settles₂
  rw [disciplined_ensure_bind]
  intro owned
  apply disciplined_send_bind
  intro reversed sure₃ locks₃ writes₃ more₃ _ settles₃
  rw [disciplined_ensure_bind]
  intro _
  have locked : ⟨.transfer id, .update⟩ ∈ locks₁ := gains (by simp [found])
  apply step original sure₃ locks₃ writes₃ (List.Subset.trans more₁ (List.Subset.trans more₂ more₃))
  intro before
  have read := settles₁ before (by simp [Settles, found])
  have checked := settles₂ read (by simp [Settles, owned])
  exact settles₃ checked (.inr (more₃ (more₂ locked)))

end Parts

section Handlers

variable {platform : Platform} {older : Configuration → Configuration → Prop} {attempt : Attempt}
  {replayable : Prop} {locks : List Lock} {writes : List Write}

-- Where all answers are settled, the handler may be replayed to its end.
abbrev MayReplay (platform : Platform) (older : Configuration → Configuration → Prop)
    (attempt : Attempt) (replayable : Prop) (locks : List Lock) (writes : List Write)
    (program : Handler Reply) : Prop :=
  program.Disciplined (engine platform) older Evolves attempt replayable locks writes
    fun _ replayable _ _ => replayable

theorem held_of_find {rows : List LockedAccount} {wanted : Uuid} {row : LockedAccount}
    (held : ∀ row ∈ rows, Held locks (.account row.id))
    (found : rows.find? (fun row => row.id = wanted) = some row) : Held locks (.account wanted) := by
  have same : row.id = wanted := by simpa using List.find?_some found
  exact same ▸ held row (List.mem_of_find?_eq_some found)

theorem performTransfer_disciplined {clientId : String} {ids : NewIds} {scope : Scope}
    {preliminary : Preliminary} {request : TransferRequest} {amountMinor : I64}
    (held : Held locks (.idempotencyRecord scope)) (certain : replayable) :
    MayReplay platform older attempt replayable locks writes
      (performTransfer clientId ids scope preliminary request amountMinor) := by
  simp only [performTransfer, Program.bind_eq]
  apply disciplined_send_bind
  intro time sure₁ locks₁ _ more₁ _ settles₁
  apply selectFxConfiguration_disciplined
  intro fx sure₂ locks₂ _ more₂ settles₂
  apply selectAccountsForUpdate_disciplined
  intro accounts sure₃ locks₃ _ more₃ rows settles₃
  rw [disciplined_ofExcept_bind]
  rintro ⟨source, destination⟩ checked
  obtain ⟨two, sourceRow, destinationRow, _⟩ := transferAccounts_eq_ok.mp checked
  dsimp only
  rw [disciplined_ofExcept_bind]
  intro terms _
  rw [disciplined_ofExcept_bind]
  rintro ⟨sourceBalance, destinationBalance⟩ _
  apply post_disciplined (held_of_find rows sourceRow) (held_of_find rows destinationRow)
  intro createdAt sure₄ locks₄ _ more₄ settles₄
  rw [disciplined_ofExcept_bind]
  intro responseBody _
  have more := List.Subset.trans more₁ (List.Subset.trans more₂ (List.Subset.trans more₃ more₄))
  apply storeSuccess_disciplined (held.more more)
  intro sure₅ locks₅ _ settles₅
  exact settles₅ (settles₄ (settles₃ (settles₂ (settles₁ certain trivial)) two))

theorem performReversal_disciplined {clientId : String} {ids : NewIds} {scope : Scope}
    {originalTransferId : Uuid} (held : Held locks (.idempotencyRecord scope))
    (certain : replayable) :
    MayReplay platform older attempt replayable locks writes
      (performReversal clientId ids scope originalTransferId) := by
  simp only [performReversal, Program.bind_eq]
  apply lockOriginal_disciplined
  intro original sure₁ locks₁ _ more₁ settles₁
  apply selectAccountsForUpdate_disciplined
  intro accounts sure₂ locks₂ _ more₂ rows settles₂
  rw [disciplined_ofExcept_bind]
  rintro ⟨source, destination⟩ checked
  obtain ⟨two, sourceRow, destinationRow, _⟩ := reversalAccounts_eq_ok.mp checked
  dsimp only
  rw [disciplined_ofExcept_bind]
  rintro ⟨sourceBalance, destinationBalance⟩ _
  apply post_disciplined (held_of_find rows sourceRow) (held_of_find rows destinationRow)
  intro createdAt sure₃ locks₃ _ more₃ settles₃
  rw [disciplined_ofExcept_bind]
  intro responseBody _
  apply storeSuccess_disciplined
    (held.more (List.Subset.trans more₁ (List.Subset.trans more₂ more₃)))
  intro sure₄ locks₄ _ settles₄
  exact settles₄ (settles₃ (settles₂ (settles₁ certain) two))

theorem performAccountCreation_disciplined {clientId : String} {id : Uuid} {scope : Scope}
    {request : AccountRequest} (held : Held locks (.idempotencyRecord scope))
    (certain : replayable) :
    MayReplay platform older attempt replayable locks writes
      (performAccountCreation clientId id scope request) := by
  simp only [performAccountCreation, Program.bind_eq]
  apply disciplined_send_bind
  intro _ sure₁ locks₁ _ more₁ _ settles₁
  rw [disciplined_ofExcept_bind]
  intro responseBody _
  apply storeSuccess_disciplined (held.more more₁)
  intro sure₂ locks₂ _ settles₂
  exact settles₂ (settles₁ certain trivial)

theorem createAccount_disciplined {clientId : String} {headers : HeaderMap}
    {request : Option CreateAccountRequest} {id : Uuid} :
    MayReplay platform older attempt True [] []
      (createAccount platform clientId headers request id) := by
  simp only [createAccount, Program.bind_eq]
  rw [MayReplay, disciplined_ofExcept_bind]
  intro request _
  apply disciplined_send_bind
  intro _ sure₁ locks₁ _ _ _ settles₁
  apply reserve_disciplined
  intro result sure₂ locks₂ _ _ held settles₂
  have certain := settles₂ (settles₁ trivial trivial)
  cases result with
  | owned => exact performAccountCreation_disciplined (held rfl) certain
  | replay httpStatus responseBody => exact certain
  | conflict => trivial

theorem acquireConnection_disciplined {β : Type} {f : Unit → Handler β}
    {post : β → Prop → List Lock → List Write → Prop}
    (step : ∀ sure locks' writes', (replayable → sure) →
      (f ()).Disciplined (engine platform) older Evolves attempt sure locks' writes' post) :
    (acquireConnection.bind f).Disciplined (engine platform) older Evolves attempt replayable locks
      writes post := by
  simp only [acquireConnection, Program.bind_eq, Program.bind_assoc]
  apply disciplined_ask_bind
  · intro error
    trivial
  · intro _ sure locks' writes' _ _ settles
    exact step sure locks' writes' fun before => settles before trivial

theorem beginReversal_disciplined {β : Type} {f : Unit → Handler β}
    {post : β → Prop → List Lock → List Write → Prop}
    (step : ∀ sure locks' writes', (replayable → sure) →
      (f ()).Disciplined (engine platform) older Evolves attempt sure locks' writes' post) :
    (beginReversal.bind f).Disciplined (engine platform) older Evolves attempt replayable locks
      writes post := by
  simp only [beginReversal, Program.bind_eq, Program.bind_assoc]
  apply disciplined_ask_bind
  · intro error
    trivial
  · intro _ sure locks' writes' _ _ settles
    exact step sure locks' writes' fun before => settles before trivial

theorem createTransfer_disciplined {clientId : String} {headers : HeaderMap}
    {request : Option CreateTransferRequest} {ids : NewIds} :
    MayReplay platform older attempt True [] []
      (createTransfer platform clientId headers request ids) := by
  simp only [createTransfer, Program.bind_eq]
  rw [MayReplay, disciplined_ofExcept_bind]
  intro request _
  apply acquireConnection_disciplined
  intro sure₁ locks₁ _ settles₁
  apply disciplined_send_bind
  intro _ sure₂ locks₂ _ _ _ settles₂
  apply disciplined_send_bind
  intro read sure₃ locks₃ _ _ _ settles₃
  rw [disciplined_orFail_bind]
  intro preliminary found
  rw [disciplined_ofExcept_bind]
  intro operationType _
  rw [disciplined_emit_bind, disciplined_ofExcept_bind]
  intro amountMinor _
  have certain := settles₃ (settles₂ (settles₁ trivial) trivial) (by simp [Settles, found])
  apply replayOrReserve_disciplined
  · intro success sure₄ locks₄ _ _ settles₄
    exact settles₄ certain
  · intro sure₄ locks₄ _ _ held settles₄
    exact performTransfer_disciplined held (settles₄ certain)

theorem reverseTransfer_disciplined {clientId : String} {headers : HeaderMap}
    {transferId : String} {ids : NewIds} :
    MayReplay platform older attempt True [] []
      (reverseTransfer platform clientId headers transferId ids) := by
  simp only [reverseTransfer, Program.bind_eq]
  rw [MayReplay, disciplined_ofExcept_bind]
  intro request _
  apply beginReversal_disciplined
  intro sure₁ locks₁ _ settles₁
  rw [disciplined_emit_bind]
  apply replayOrReserve_disciplined
  · intro success sure₂ locks₂ _ _ settles₂
    exact settles₂ (settles₁ trivial)
  · intro sure₂ locks₂ _ _ held settles₂
    exact performReversal_disciplined held (settles₂ (settles₁ trivial))

theorem handle_disciplined (platform : Platform) (older : Configuration → Configuration → Prop)
    (attempt : Attempt) :
    MayReplay platform older attempt True [] [] (handle platform attempt) := by
  unfold handle
  split
  · exact createAccount_disciplined
  · exact createTransfer_disciplined
  · exact reverseTransfer_disciplined

end Handlers

section Instances

variable {platform : Platform}

theorem exec_covered {now : Timestamp} {configuration : Configuration} {db : Db}
    {statement : Statement} {answer : statement.Result} {writes : List Write}
    (ran : statement.exec platform now configuration db = .ok (answer, writes)) :
    (engine platform).Covered (statement.locks db) writes := by
  cases statement with
  | insertRecord scope fingerprint retention =>
    obtain ⟨_, _, _, ⟨_, _, _, rfl⟩ | ⟨unused, _, rfl⟩⟩ := insertRecord_eq_ok.mp ran
    · simp [Engine.Covered]
    · simp [Engine.Covered, engine, Write.locks, Statement.locks, unused, reservation]
  | insertAccount values =>
    obtain ⟨_, same⟩ := checked_eq_ok.mp ran
    simp only [Prod.mk.injEq] at same
    obtain ⟨_, rfl⟩ := same
    simp [Engine.Covered, engine, Write.locks, Statement.locks, AccountValues.row]
  | insertTransfer values =>
    obtain ⟨rate, _, _, _, rfl⟩ := insertTransfer_eq_ok.mp ran
    intro write member lock needed
    rw [List.mem_singleton.mp member] at needed
    exact needed
  | updateAccount balance id =>
    obtain ⟨_, _, rfl⟩ | ⟨row, version, found, _, _, rfl⟩ := updateAccount_eq_ok.mp ran
    · simp [Engine.Covered]
    · have same : row.id = id := Table.key_of_lookup found
      simp [Engine.Covered, engine, Write.locks, Statement.locks, found, Account.update, same]
  | insertEntry values =>
    obtain ⟨_, same⟩ := checked_eq_ok.mp ran
    simp only [Prod.mk.injEq] at same
    obtain ⟨_, rfl⟩ := same
    intro write member lock needed
    rw [List.mem_singleton.mp member] at needed
    exact needed
  | updateRecord scope status body resource =>
    obtain ⟨_, _, rfl⟩ | ⟨row, found, _, _, rfl⟩ := updateRecord_eq_ok.mp ran
    · simp [Engine.Covered]
    · have same : row.scope = scope := Table.key_of_lookup found
      simp [Engine.Covered, engine, Write.locks, Statement.locks, found,
        IdempotencyRecord.complete, same]
  | _ =>
    simp only [Statement.exec, Except.ok.injEq, Prod.mk.injEq] at ran
    obtain ⟨_, rfl⟩ := ran
    simp [Engine.Covered]

variable {allowed : Operator → Prop} {older : Configuration → Configuration → Prop}

theorem isolation (older_refl : ∀ configuration, older configuration configuration)
    (older_trans : ∀ {first second third}, older first second → older second third →
      older first third)
    (within : ∀ {seen configuration}, older seen configuration → seen.Within configuration)
    (operate : ∀ {operator db configuration}, allowed operator →
      older configuration (Operator.operate operator (db, configuration)).2) :
    Isolation (engine platform) (handle platform) allowed older Evolves where
  older_refl := older_refl
  older_trans := older_trans
  evolves_refl := Evolves.refl
  evolves_trans := Evolves.trans
  evolves_fewer := Evolves.fewer
  conflict_symm := Lock.Conflict.symm
  covers := exec_covered
  commit_evolves := by
    intro attempt held locks configuration db reply writes compatible covered commits
    obtain ⟨effect, holds, rfl⟩ := handle_commits within commits
    rw [view_writes holds]
    exact evolves_of_effect compatible covered holds
  operate_evolves := by
    intro operator held db configuration permitted _ compatible
    exact ⟨evolves_of_operator compatible, operate permitted⟩
  disciplined := handle_disciplined platform older

theorem fixedIsolation (platform : Platform) :
    Isolation (engine platform) (handle platform) Operator.KeepsConfiguration Eq Evolves :=
  -- With the FX tables fixed.
  isolation (fun _ => rfl) Eq.trans (by rintro _ _ rfl; exact .refl _) (by
    intro operator db configuration keeps
    cases operator with
    | setStatus id status => rfl
    | insertExchangeRate row => exact keeps.elim
    | insertFeeRule row => exact keeps.elim)

theorem Operator.configuration_within (operator : Operator) (db : Db)
    (configuration : Configuration) :
    configuration.Within (operator.operate (db, configuration)).2 := by
  cases operator with
  | setStatus id status => exact .refl configuration
  | insertExchangeRate row => exact ⟨List.subset_append_left _ _, List.Subset.refl _⟩
  | insertFeeRule row => exact ⟨List.Subset.refl _, List.subset_append_left _ _⟩

theorem growingIsolation (platform : Platform) :
    Isolation (engine platform) (handle platform) (fun _ => True) Configuration.Within Evolves :=
  -- With FX configuration that grows during the run.
  isolation .refl .trans id fun _ => Operator.configuration_within _ _ _

end Instances

end LedgerService
