import LedgerService.Execution

set_option autoImplicit false

namespace LedgerService

open Transaction

/-- Header names in lower case, with the bytes of their values. -/
abbrev HeaderMap := List (String × List UInt8)

namespace HeaderMap

def getAll (headers : HeaderMap) (name : String) : List (List UInt8) :=
  (headers.filter fun header => header.1 = name).map Prod.snd

-- `HeaderValue::to_str`: visible ASCII characters, blanks and tabs only.
def toStr (value : List UInt8) : Option String :=
  if value.all fun byte => (32 ≤ byte && byte < 127) || byte = 9 then
    some (String.ofList (value.map fun byte => Char.ofNat byte.toNat))
  else none

end HeaderMap

def maxKeyLength : Nat := 255

def IdempotencyKey.Valid (text : String) : Prop :=
  text.toList ≠ [] ∧ text.toList.length ≤ maxKeyLength ∧
    ∀ c ∈ text.toList, 0x21 ≤ c.toNat ∧ c.toNat ≤ 0x7e

instance (text : String) : Decidable (IdempotencyKey.Valid text) :=
  haveI := List.decidableBAll (fun c : Char => 0x21 ≤ c.toNat ∧ c.toNat ≤ 0x7e) text.toList
  inferInstanceAs (Decidable (_ ∧ _ ∧ _))

structure IdempotencyKey where
  asStr : String
  valid : IdempotencyKey.Valid asStr
  deriving DecidableEq

def IdempotencyKey.fromHeaders (headers : HeaderMap) : Except Failure IdempotencyKey :=
  match headers.getAll "idempotency-key" with
  | [] =>
      .error (.validation "missing_idempotency_key" "The Idempotency-Key header is required")
  | [value] =>
      match HeaderMap.toStr value with
      | none =>
          .error (.validation "malformed_idempotency_key" "The Idempotency-Key header is invalid")
      | some text =>
          if valid : IdempotencyKey.Valid text then .ok ⟨text, valid⟩
          else
            .error (.validation "malformed_idempotency_key" "The Idempotency-Key header is invalid")
  | _ =>
      .error (.validation "duplicate_idempotency_key"
        "The Idempotency-Key header must appear exactly once")

section Fingerprints

variable (platform : Platform)

def accountCreationFingerprint (currency : String) (balanceMinor : I64) : String :=
  platform.sha256 (Text.utf8 "account_creation:v1:" ++ Text.utf8 currency ++ Text.utf8 ":" ++
    balanceMinor.toBeBytes)

def transferFingerprint (sourceAccountId destinationAccountId : Uuid) (currency : String)
    (amountMinor : I64) : String :=
  platform.sha256 (Text.utf8 "transfer:v1:" ++ sourceAccountId.asBytes ++
    destinationAccountId.asBytes ++ Text.utf8 currency ++ amountMinor.toBeBytes)

def reversalFingerprint (originalTransferId : Uuid) : String :=
  platform.sha256 (Text.utf8 "reversal:v1:" ++ originalTransferId.asBytes)

end Fingerprints

inductive Reservation where
  | owned
  | replay (httpStatus : Int) (responseBody : Value)
  | conflict

def incompleteRecord : Failure := .panic "incomplete idempotency records cannot commit"

def incompleteReservation : Failure :=
  .panic "an incomplete idempotency reservation cannot be committed"

def completedSuccess (scope : Scope) : Handler (Option (String × Int × Value)) := do
  match ← send (.selectRecord scope) with
  | none => .done none
  | some record => do
      let httpStatus ← .orFail incompleteRecord record.httpStatus
      let responseBody ← .orFail incompleteRecord record.responseBody
      .done (some (record.requestFingerprint, httpStatus, responseBody))

def reserve (platform : Platform) (scope : Scope) (fingerprint : String) :
    Handler Reservation := do
  let retentionSeconds ←
    .orFail (.panic "validated retention fits i64") (I64.tryFrom platform.idempotencyRetention)
  let inserted ← send (.insertRecord scope fingerprint retentionSeconds)
  if inserted = 1 then .done .owned
  else do
    -- `fetch_one` takes a missing row for an error.
    let record ← .orFail (.database .rowNotFound) (← send (.selectRecord scope))
    if record.requestFingerprint ≠ fingerprint then .done .conflict
    else
      match record.httpStatus, record.responseBody with
      | some httpStatus, some responseBody => .done (.replay httpStatus responseBody)
      | _, _ => .fail incompleteReservation

def storeSuccess (scope : Scope) (httpStatus : Int) (responseBody : Value)
    (resultingResourceId : Uuid) : Handler Unit := do
  let _ ← send (.updateRecord scope httpStatus responseBody resultingResourceId)
  .done ()

structure Success where
  status : Nat
  body : Value
  deriving DecidableEq

-- `StatusCode::from_u16(http_status as u16)`.
def statusCode (httpStatus : Int) : Except Failure Nat :=
  if 100 ≤ asU16 httpStatus ∧ asU16 httpStatus ≤ 999 then .ok (asU16 httpStatus)
  else .error (.internal .conversion)

def created : Nat := 201

def replaySuccess (httpStatus : Int) (responseBody : Value) : Handler (Option Success) := do
  .emit (.idempotency .replay)
  let status ← .ofExcept (statusCode httpStatus)
  .done (some ⟨status, responseBody⟩)

def rejectConflict : Handler (Option Success) := do
  .emit (.idempotency .conflict)
  .fail (.app .idempotencyConflict)

def replayReserved (platform : Platform) (scope : Scope) (fingerprint : String) :
    Handler (Option Success) := do
  match ← reserve platform scope fingerprint with
  | .replay httpStatus responseBody => replaySuccess httpStatus responseBody
  | .conflict => rejectConflict
  | .owned => do
      .emit (.idempotency .owner)
      .done none

/-- Both transfer handlers begin their work so: with the stored answer of an earlier request, or
with the key reserved for this one. -/
def replayOrReserve (platform : Platform) (scope : Scope) (fingerprint : String) :
    Handler (Option Success) := do
  match ← completedSuccess scope with
  | some (storedFingerprint, httpStatus, responseBody) =>
      if fingerprint ≠ storedFingerprint then rejectConflict
      else replaySuccess httpStatus responseBody
  | none => replayReserved platform scope fingerprint

end LedgerService
