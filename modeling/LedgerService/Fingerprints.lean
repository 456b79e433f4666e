import Mathlib.Data.Nat.Bitwise
import LedgerService.Amounts
import LedgerService.Decisions
import LedgerService.Denominations
import LedgerService.Reference

set_option autoImplicit false

namespace LedgerService

open Transaction Literals

section Bytes

def bigEndian (count value : Nat) : List UInt8 :=
  (List.range count).map fun index => UInt8.ofNat (value >>> (8 * (count - 1 - index)))

theorem length_bigEndian (count value : Nat) : (bigEndian count value).length = count := by
  simp [bigEndian]

theorem bigEndian_injective {count first second : Nat} (below : first < 2 ^ (8 * count))
    (below' : second < 2 ^ (8 * count)) (same : bigEndian count first = bigEndian count second) :
    first = second := by
  -- Bit `i` stands in byte `i / 8` from the end.
  apply Nat.eq_of_testBit_eq
  intro i
  by_cases small : i < 8 * count
  · have index : count - 1 - i / 8 < count := by omega
    have byte := congrArg (fun bytes => (bytes[count - 1 - i / 8]?).map UInt8.toNat) same
    have place : count - 1 - (count - 1 - i / 8) = i / 8 := by omega
    simp only [bigEndian, List.getElem?_map, List.getElem?_range index, Option.map_some,
      Option.some.injEq, UInt8.toNat_ofNat', place] at byte
    have bit := congrArg (fun value => value.testBit (i % 8)) byte
    have read : ∀ value : Nat, (value >>> (8 * (i / 8)) % 2 ^ 8).testBit (i % 8) =
        value.testBit i := by
      intro value
      rw [Nat.testBit_mod_two_pow, Nat.testBit_shiftRight, Nat.div_add_mod,
        decide_eq_true (Nat.mod_lt i (by decide)), Bool.true_and]
    exact (read first).symm.trans (bit.trans (read second))
  · have outside : ∀ {value : Nat}, value < 2 ^ (8 * count) → value.testBit i = false := by
      intro value bound
      have power : 2 ^ (8 * count) ≤ 2 ^ i := Nat.pow_le_pow_right (by decide) (by omega)
      exact Nat.testBit_lt_two_pow (bound.trans_le power)
    rw [outside below, outside below']

theorem I64.toBeBytes_eq (value : I64) :
    value.toBeBytes = bigEndian 8 (value.val % 2 ^ 64).toNat := rfl

theorem I64.toBeBytes_injective {first second : I64} (same : first.toBeBytes = second.toBeBytes) :
    first = second := by
  have bounds := first.bounds
  have bounds' := second.bounds
  simp only [I64.min, I64.max] at bounds bounds'
  rw [I64.toBeBytes_eq, I64.toBeBytes_eq] at same
  have equal := bigEndian_injective (by omega) (by omega) same
  apply I64.ext
  omega

theorem Uuid.asBytes_eq (id : Uuid) : id.asBytes = bigEndian 16 id.toNat := rfl

theorem Uuid.asBytes_injective {first second : Uuid} (same : first.asBytes = second.asBytes) :
    first = second := by
  rw [Uuid.asBytes_eq, Uuid.asBytes_eq] at same
  exact BitVec.eq_of_toNat_eq (bigEndian_injective first.isLt second.isLt same)

theorem Text.utf8_injective {first second : String} (same : Text.utf8 first = Text.utf8 second) :
    first = second := by
  have encoded : first.toList.utf8Encode = second.toList.utf8Encode := by
    unfold List.utf8Encode
    exact congrArg List.toByteArray same
  rw [← String.toByteArray_ofList, ← String.toByteArray_ofList, String.toByteArray_inj] at encoded
  simpa using encoded

end Bytes

/-- What a request asks for, whatever its spelling. -/
inductive Business where
  | accountCreation (currency : String) (balanceMinor : I64)
  | transfer (sourceAccountId destinationAccountId : Uuid) (currency : String) (amountMinor : I64)
  | reversal (originalTransferId : Uuid)
  deriving DecidableEq

namespace Business

def bytes : Business → List UInt8
  | accountCreation currency balanceMinor =>
      Text.utf8 "account_creation:v1:" ++ Text.utf8 currency ++ Text.utf8 ":" ++
        balanceMinor.toBeBytes
  | transfer sourceAccountId destinationAccountId currency amountMinor =>
      Text.utf8 "transfer:v1:" ++ sourceAccountId.asBytes ++ destinationAccountId.asBytes ++
        Text.utf8 currency ++ amountMinor.toBeBytes
  | reversal originalTransferId => Text.utf8 "reversal:v1:" ++ originalTransferId.asBytes

def fingerprint (platform : Platform) : Business → String
  | accountCreation currency balanceMinor =>
      accountCreationFingerprint platform currency balanceMinor
  | transfer sourceAccountId destinationAccountId currency amountMinor =>
      transferFingerprint platform sourceAccountId destinationAccountId currency amountMinor
  | reversal originalTransferId => reversalFingerprint platform originalTransferId

theorem fingerprint_eq (platform : Platform) (business : Business) :
    business.fingerprint platform = platform.sha256 business.bytes := by
  cases business <;> rfl

-- The tags differ in their first letter.
def initial : Business → UInt8
  | accountCreation _ _ => 97
  | transfer _ _ _ _ => 116
  | reversal _ => 114

theorem head_bytes (business : Business) : business.bytes.head? = some business.initial := by
  cases business <;> rfl

theorem bytes_injective {first second : Business} (same : first.bytes = second.bytes) :
    first = second := by
  -- The fields are read from the end: the last one has a fixed length, and so have the
  -- identifiers.
  have tag : first.initial = second.initial := by
    have heads := congrArg List.head? same
    rw [head_bytes, head_bytes] at heads
    exact Option.some.inj heads
  have number : ∀ amount amount' : I64, amount.toBeBytes.length = amount'.toBeBytes.length := by
    intro amount amount'
    rw [I64.toBeBytes_eq, I64.toBeBytes_eq, length_bigEndian, length_bigEndian]
  have identifier : ∀ id id' : Uuid, id.asBytes.length = id'.asBytes.length := by
    intro id id'
    rw [Uuid.asBytes_eq, Uuid.asBytes_eq, length_bigEndian, length_bigEndian]
  cases first with
  | accountCreation currency balance =>
    cases second with
    | accountCreation currency' balance' =>
      unfold bytes at same
      obtain ⟨named, amount⟩ := List.append_inj' same (number _ _)
      rw [List.append_left_inj, List.append_right_inj] at named
      rw [Text.utf8_injective named, I64.toBeBytes_injective amount]
    | transfer _ _ _ _ => cases tag
    | reversal _ => cases tag
  | transfer source destination currency amount =>
    cases second with
    | accountCreation _ _ => cases tag
    | transfer source' destination' currency' amount' =>
      unfold bytes at same
      obtain ⟨front, amounts⟩ := List.append_inj' same (number _ _)
      simp only [List.append_assoc, List.append_right_inj] at front
      obtain ⟨sources, rest⟩ := List.append_inj front (identifier _ _)
      obtain ⟨destinations, named⟩ := List.append_inj rest (identifier _ _)
      rw [Uuid.asBytes_injective sources, Uuid.asBytes_injective destinations,
        Text.utf8_injective named, I64.toBeBytes_injective amounts]
    | reversal _ => cases tag
  | reversal original =>
    cases second with
    | accountCreation _ _ => cases tag
    | transfer _ _ _ _ => cases tag
    | reversal original' =>
      rw [bytes, bytes, List.append_right_inj] at same
      rw [Uuid.asBytes_injective same]

end Business

section Requests

variable {platform : Platform} {db : Db}

/-- The business request under its scope, where the request is well formed and its accounts exist. -/
def Attempt.business (platform : Platform) (attempt : Attempt) (db : Db) :
    Option (Scope × Business) :=
  match attempt.request with
  | .createAccount body =>
      match validateAccountRequest attempt.headers body with
      | .ok request =>
          some (⟨attempt.clientId, .accountCreation, request.idempotencyKey.asStr⟩,
            .accountCreation request.currency.code request.balanceMinor)
      | .error _ => none
  | .createTransfer body =>
      match validateTransferRequest platform attempt.headers body with
      | .ok request =>
          (db.preliminary request.sourceAccountId request.destinationAccountId).bind
            fun preliminary =>
              match transferOperation preliminary, transferAmount preliminary request.amount with
              | .ok operationType, .ok amountMinor =>
                  some (⟨attempt.clientId, operationType, request.idempotencyKey.asStr⟩,
                    .transfer request.sourceAccountId request.destinationAccountId
                      preliminary.sourceCurrency amountMinor)
              | _, _ => none
      | .error _ => none
  | .reverseTransfer transferId =>
      match validateReversalRequest platform attempt.headers transferId with
      | .ok request =>
          some (⟨attempt.clientId, .reversal, request.idempotencyKey.asStr⟩,
            .reversal request.originalTransferId)
      | .error _ => none

theorem identity_eq_business (attempt : Attempt) :
    attempt.identity platform db =
      (attempt.business platform db).map fun (scope, business) =>
        (scope, business.fingerprint platform) := by
  cases asked : attempt.request with
  | createAccount body =>
    simp only [Attempt.identity, Attempt.business, asked]
    cases validateAccountRequest attempt.headers body <;> rfl
  | createTransfer body =>
    simp only [Attempt.identity, Attempt.business, asked]
    cases validateTransferRequest platform attempt.headers body with
    | error _ => rfl
    | ok request =>
      dsimp only
      cases db.preliminary request.sourceAccountId request.destinationAccountId with
      | none => rfl
      | some preliminary =>
        dsimp only [Option.bind_some]
        cases transferOperation preliminary with
        | error _ => rfl
        | ok _ => cases transferAmount preliminary request.amount <;> rfl
  | reverseTransfer transferId =>
    simp only [Attempt.identity, Attempt.business, asked]
    cases validateReversalRequest platform attempt.headers transferId <;> rfl

theorem business_evolves {attempt : Attempt} {db' : Db} (evolves : Evolves [] db db')
    {identified : Scope × Business} (known : attempt.business platform db = some identified) :
    attempt.business platform db' = some identified := by
  unfold Attempt.business at known ⊢
  split at known
  · exact known
  · split at known
    · obtain ⟨preliminary, found, rest⟩ := Option.bind_eq_some_iff.mp known
      exact Option.bind_eq_some_iff.mpr ⟨preliminary, preliminary_evolves evolves found, rest⟩
    · exact known
  · exact known

theorem sameDecimal_iff {first second : String} {scale : Nat} {amount amount' : I64}
    (bounded : scale ≤ 18) (parsed : parseMinorUnits first scale = .ok amount)
    (parsed' : parseMinorUnits second scale = .ok amount') :
    amount = amount' ↔ SameDecimal first second := by
  have power : (10 : Rat) ^ scale ≠ 0 := pow_ne_zero _ (by norm_num)
  constructor
  · rintro rfl
    obtain ⟨literal, reads, _, value⟩ := (parseMinorUnits_eq_ok bounded).mp parsed
    obtain ⟨literal', reads', _, value'⟩ := (parseMinorUnits_eq_ok bounded).mp parsed'
    exact ⟨literal, literal', reads, reads', mul_right_cancel₀ power (value.symm.trans value')⟩
  · rintro ⟨literal, literal', reads, reads', same⟩
    have value := (value_of_parsed bounded reads parsed).2
    have value' := (value_of_parsed bounded reads' parsed').2
    apply I64.ext
    have equal : (amount.val : Rat) = amount'.val := by rw [value, value', same]
    exact_mod_cast equal

-- A currency up to the case of its letters and the blanks around it.
def normalized (currency : String) : List Char := (Text.trim currency.toList).map Char.toUpper

section Currency

variable {input other : String} {found listed : Currency}

theorem currency_congr (same : normalized input = normalized other) :
    currency input = currency other := by
  unfold currency
  unfold normalized at same
  rw [same]

theorem currency_listed (supported : currency input = some found) : found ∈ currencies := by
  unfold currency at supported
  exact List.mem_of_find?_eq_some supported

theorem currency_scale (supported : currency input = some found) : found.scale ≤ 18 := by
  have bounded : ∀ one ∈ currencies, one.scale ≤ 18 := by decide
  exact bounded found (currency_listed supported)

theorem currency_code (supported : currency input = some found) :
    found.code.toList = normalized input := by
  unfold currency at supported
  have code := List.find?_some supported
  rw [of_decide_eq_true code, normalized, String.toList_ofList]

theorem currency_injective (supported : currency input = some found)
    (supported' : currency other = some listed) (code : found.code = listed.code) :
    found = listed := by
  have unique : ∀ one ∈ currencies, ∀ two ∈ currencies, one.code = two.code → one = two := by
    decide
  exact unique _ (currency_listed supported) _ (currency_listed supported') code

theorem normalized_eq (supported : currency input = some found)
    (supported' : currency other = some found) : normalized input = normalized other :=
  (currency_code supported).symm.trans (currency_code supported')

end Currency

/-- The same business request, however spelled. -/
def Request.Same (platform : Platform) : Request → Request → Prop
  | .createAccount (some body), .createAccount (some body') =>
      normalized body.currency = normalized body'.currency ∧
        SameDecimal body.initialBalance body'.initialBalance
  | .createTransfer (some body), .createTransfer (some body') =>
      platform.parseUuid body.sourceAccountId = platform.parseUuid body'.sourceAccountId ∧
        platform.parseUuid body.destinationAccountId =
          platform.parseUuid body'.destinationAccountId ∧
        SameDecimal body.amount body'.amount
  | .reverseTransfer transferId, .reverseTransfer transferId' =>
      platform.parseUuid transferId = platform.parseUuid transferId'
  | _, _ => False

inductive Request.Asks (platform : Platform) (db : Db) : Request → Business → Prop where
  | accountCreation {body : CreateAccountRequest} {found : Currency} {balanceMinor : I64}
      (supported : currency body.currency = some found)
      (parsed : parseInitialBalance body.initialBalance found.scale = .ok balanceMinor) :
      Asks platform db (.createAccount (some body)) (.accountCreation found.code balanceMinor)
  | transfer {body : CreateTransferRequest} {sourceId destinationId : Uuid} {account : Account}
      {amountMinor : I64} (source : platform.parseUuid body.sourceAccountId = some sourceId)
      (destination : platform.parseUuid body.destinationAccountId = some destinationId)
      (found : db.account? sourceId = some account)
      (parsed : parseMinorUnits body.amount (asU8 account.currencyScale) = .ok amountMinor) :
      Asks platform db (.createTransfer (some body))
        (.transfer sourceId destinationId account.currency amountMinor)
  | reversal {transferId : String} {id : Uuid} (parsed : platform.parseUuid transferId = some id) :
      Asks platform db (.reverseTransfer transferId) (.reversal id)

theorem asks_of_business {attempt : Attempt} {scope : Scope} {business : Business}
    (listed : ∀ id account, db.account? id = some account → account.Listed)
    (known : attempt.business platform db = some (scope, business)) :
    attempt.request.Asks platform db business := by
  unfold Attempt.business at known
  split at known
  · rename_i body asked
    split at known
    · rename_i valid
      simp only [validateAccountRequest, bind_eq_ok, orFailure_eq_ok, orMoneyError_eq_ok,
        Except.ok.injEq] at valid
      obtain ⟨_, _, body, rfl, found, supported, balance, parsed, rfl⟩ := valid
      cases known
      rw [asked]
      exact .accountCreation supported parsed
    · cases known
  · rename_i body asked
    split at known
    · rename_i valid
      simp only [validateTransferRequest, bind_eq_ok, orFailure_eq_ok, Except.ok.injEq] at valid
      obtain ⟨_, _, body, rfl, sourceId, source, destinationId, destination, _, _, rfl⟩ := valid
      obtain ⟨preliminary, found, rest⟩ := Option.bind_eq_some_iff.mp known
      cases sourceFound : db.account? sourceId with
      | none =>
        rw [Db.preliminary_missing (.inl sourceFound)] at found
        cases found
      | some account =>
      cases destinationFound : db.account? destinationId with
      | none =>
        rw [Db.preliminary_missing (.inr destinationFound)] at found
        cases found
      | some other =>
        rw [Db.preliminary_found sourceFound destinationFound] at found
        cases found
        split at rest
        · rename_i amount
          cases rest
          rw [asked]
          have parsed := (transferAmount_eq_ok (listed _ _ sourceFound)).mp amount
          exact .transfer source destination sourceFound parsed.1
        · cases rest
    · cases known
  · rename_i transferId asked
    split at known
    · rename_i valid
      simp only [validateReversalRequest, bind_eq_ok, orFailure_eq_ok, Except.ok.injEq] at valid
      obtain ⟨_, _, id, parsed, rfl⟩ := valid
      cases known
      rw [asked]
      exact .reversal parsed
    · cases known

theorem Request.Asks.same_iff {first second : Request} {one two : Business}
    (listed : ∀ id account, db.account? id = some account → account.Listed)
    (asks : first.Asks platform db one) (asks' : second.Asks platform db two) :
    one = two ↔ first.Same platform second := by
  cases asks with
  | accountCreation supported parsed =>
    cases asks' with
    | accountCreation supported' parsed' =>
      have amounts := (parseInitialBalance_eq_ok.mp parsed).1
      have amounts' := (parseInitialBalance_eq_ok.mp parsed').1
      simp only [Business.accountCreation.injEq, Request.Same]
      constructor
      · rintro ⟨code, rfl⟩
        obtain rfl := currency_injective supported supported' code
        exact ⟨normalized_eq supported supported',
          (sameDecimal_iff (currency_scale supported) amounts amounts').mp rfl⟩
      · rintro ⟨spelled, decimal⟩
        have found := (currency_congr spelled).symm.trans supported
        cases found.symm.trans supported'
        exact ⟨rfl, (sameDecimal_iff (currency_scale supported) amounts amounts').mpr decimal⟩
    | transfer => simp [Request.Same]
    | reversal => simp [Request.Same]
  | transfer source destination found parsed =>
    cases asks' with
    | accountCreation => simp [Request.Same]
    | transfer source' destination' found' parsed' =>
      simp only [Business.transfer.injEq, Request.Same, source, source', destination, destination',
        Option.some.injEq]
      constructor
      · rintro ⟨rfl, rfl, _, rfl⟩
        cases found.symm.trans found'
        exact ⟨rfl, rfl, (sameDecimal_iff (listed _ _ found).scale.2.2 parsed parsed').mp rfl⟩
      · rintro ⟨rfl, rfl, decimal⟩
        cases found.symm.trans found'
        exact ⟨rfl, rfl, rfl,
          (sameDecimal_iff (listed _ _ found).scale.2.2 parsed parsed').mpr decimal⟩
    | reversal => simp [Request.Same]
  | reversal parsed =>
    cases asks' with
    | accountCreation => simp [Request.Same]
    | transfer => simp [Request.Same]
    | reversal parsed' => simp [Request.Same, parsed, parsed']

end Requests

section Runs

variable {platform : Platform} {ledger last : Ledger} {labels : List (Label sql Attempt Operator)}

theorem Ledger.Reachable.run_evolves (reachable : ledger.Reachable platform)
    (run : Ledger.Run platform ledger labels last) : Evolves [] ledger.store last.store := by
  induction run with
  | refl => exact .refl _ _
  | step run step ih =>
    rcases (reachable.run run).step_store step with same | ⟨_, _, _, _, _, _, holds, same⟩ |
      ⟨id, status, _, same⟩
    · exact same ▸ ih
    · exact same ▸ ih.trans (evolves_after holds)
    · exact same ▸ ih.trans (evolves_setStatus platform _ id status)

end Runs

/-- The hashed bytes determine a business request of any kind, and under one key two requests that
reach the fingerprint agree in it if and only if they ask for the same, however spelled. -/
theorem fingerprints_identify_requests {platform : Platform} {ledger last : Ledger}
    {labels : List (Label sql Attempt Operator)} (reachable : ledger.Reachable platform)
    (run : Ledger.Run platform ledger labels last) :
    (∀ one two : Business, one.bytes = two.bytes ↔ one = two) ∧
    (∀ business : Business, business.fingerprint platform = platform.sha256 business.bytes) ∧
    ∀ (first second : Attempt) (scope : Scope) (one two : Business),
      first.business platform ledger.store = some (scope, one) →
      second.business platform last.store = some (scope, two) →
      Set.InjOn platform.sha256 {one.bytes, two.bytes} →
      first.identity platform ledger.store = some (scope, one.fingerprint platform) ∧
      second.identity platform last.store = some (scope, two.fingerprint platform) ∧
      (one.fingerprint platform = two.fingerprint platform ↔
        first.request.Same platform second.request) := by
  refine ⟨fun one two => ⟨Business.bytes_injective, congrArg _⟩, Business.fingerprint_eq platform, ?_⟩
  intro first second scope one two known known' injective
  refine ⟨by rw [identity_eq_business, known]; rfl, by rw [identity_eq_business, known']; rfl, ?_⟩
  have listed : ∀ id account, last.store.account? id = some account → account.Listed :=
    fun id account found => (reachable.run run).listed found
  have asks := asks_of_business listed (business_evolves (reachable.run_evolves run) known)
  have asks' := asks_of_business listed known'
  rw [← asks.same_iff listed asks', Business.fingerprint_eq, Business.fingerprint_eq]
  constructor
  · intro collide
    exact Business.bytes_injective (injective (by simp) (by simp) collide)
  · rintro rfl
    rfl

theorem fingerprints_identify_requests_spelled :
    (Sample.transfer 4 "alice" "pay" 1 2 "30.00").request.Same .reference
      (Sample.transfer 6 "alice" "pay" 1 2 "30").request := by
  obtain ⟨first, second⟩ :
      (Sample.transfer 4 "alice" "pay" 1 2 "30.00").business .reference
          (Sample.ledger (Sample.paid.take 2)).store =
        some (⟨"alice", .transfer, "pay"⟩,
          .transfer (Sample.resource 16) (Sample.resource 32) "EUR" ⟨3000, by decide⟩) ∧
      (Sample.transfer 6 "alice" "pay" 1 2 "30").business .reference
          (Sample.ledger (Sample.paid.take 2)).store =
        some (⟨"alice", .transfer, "pay"⟩,
          .transfer (Sample.resource 16) (Sample.resource 32) "EUR" ⟨3000, by decide⟩) := by
    decide +kernel
  have identified := (fingerprints_identify_requests (Sample.reachable (Sample.paid.take 2))
    (.refl _)).2.2 _ _ _ _ _ first second (by simp)
  exact identified.2.2.mp rfl

end LedgerService
