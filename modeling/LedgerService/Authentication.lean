import LedgerService.Idempotence
import LedgerService.Startup
import LedgerService.Words

set_option autoImplicit false

namespace LedgerService

inductive Algorithm where
  | rs256
  deriving DecidableEq

structure Validation where
  algorithm : Algorithm
  issuer : List String
  audience : List String
  requiredSpecClaims : List String

structure Claims where
  sub : Option String

/-- What the service uses of `jsonwebtoken`. -/
structure Jsonwebtoken where
  DecodingKey : Type
  fromRsaPem : List UInt8 → Option DecodingKey
  decode : String → DecodingKey → Validation → Option Claims

structure AuthVerifier (jwt : Jsonwebtoken) where
  decodingKey : jwt.DecodingKey
  validation : Validation

/-- The name of a client is never blank. -/
structure AuthenticatedClient where
  clientId : String
  named : Text.trim clientId.toList ≠ []
  deriving DecidableEq

section Extraction

variable {jwt : Jsonwebtoken}

namespace AuthVerifier

def new (jwt : Jsonwebtoken) (config : AuthConfig) : Option (AuthVerifier jwt) :=
  (jwt.fromRsaPem (Text.utf8 config.publicKeyPem)).map fun decodingKey =>
    ⟨decodingKey, ⟨.rs256, [config.issuer], [config.audience], ["exp"]⟩⟩

def authenticate (verifier : AuthVerifier jwt) (token : String) :
    Except AppError AuthenticatedClient :=
  match jwt.decode token verifier.decodingKey verifier.validation with
  | none => .error .unauthorized
  | some claims =>
      match claims.sub with
      | none => .error .unauthorized
      | some clientId =>
          if named : Text.trim clientId.toList ≠ [] then .ok ⟨clientId, named⟩
          else .error .unauthorized

end AuthVerifier

-- `str::eq_ignore_ascii_case`.
def eqIgnoreAsciiCase (first second : List Char) : Bool :=
  first.map Char.toLower = second.map Char.toLower

def AuthenticatedClient.fromRequestParts (verifier : AuthVerifier jwt) (headers : HeaderMap) :
    Except AppError AuthenticatedClient :=
  match headers.getAll "authorization" with
  | [value] =>
      match HeaderMap.toStr value with
      | none => .error .unauthorized
      | some text =>
          match Words.words Text.isWhitespace text.toList with
          | scheme :: token :: more =>
              if ¬ eqIgnoreAsciiCase scheme "Bearer".toList ∨ token = [] ∨ more ≠ [] then
                .error .unauthorized
              else verifier.authenticate (String.ofList token)
          | _ => .error .unauthorized
  | _ => .error .unauthorized

end Extraction

section Presented

variable {jwt : Jsonwebtoken} {verifier : AuthVerifier jwt} {headers : HeaderMap}
  {client : AuthenticatedClient}

def HeaderMap.chars (value : List UInt8) : List Char :=
  value.map fun byte => Char.ofNat byte.toNat

def spacing (c : Char) : Prop := c = ' ' ∨ c = '\t'

/-- The one `Authorization` header reads `Bearer`, in any case, and the token. -/
structure Presents (headers : HeaderMap) (token : List Char) : Prop where
  spelled : ∃ value before scheme gap after,
    headers.getAll "authorization" = [value] ∧
    HeaderMap.chars value = before ++ scheme ++ gap ++ token ++ after ∧
    (∀ c ∈ before ++ gap ++ after, spacing c) ∧ gap ≠ [] ∧
    scheme.map Char.toLower = "bearer".toList
  token : token ≠ [] ∧ ∀ c ∈ token, visible c

theorem isWhitespace_of_spacing {c : Char} (blank : spacing c) : Text.isWhitespace c = true := by
  rcases blank with rfl | rfl <;> rfl

instance (c : Char) : Decidable (spacing c) := inferInstanceAs (Decidable (_ ∨ _))

theorem spacing_or_visible_iff : ∀ code < 256,
    (spacing (Char.ofNat code) ∨ visible (Char.ofNat code) ↔
      (32 ≤ code ∧ code < 127) ∨ code = 9) := by
  decide +kernel

theorem visible_of_toLower {c : Char} (shown : visible c.toLower) : visible c := by
  unfold Char.toLower at shown
  split at shown
  case isTrue upper =>
    have least : 65 ≤ c.toNat := upper.1
    have most : c.toNat ≤ 90 := upper.2
    exact ⟨by omega, by omega⟩
  case isFalse => exact shown

theorem toStr_eq_some {value : List UInt8} {text : String} :
    HeaderMap.toStr value = some text ↔
      (∀ c ∈ HeaderMap.chars value, spacing c ∨ visible c) ∧
        text.toList = HeaderMap.chars value := by
  have printed : (value.all fun byte => (32 ≤ byte && byte < 127) || byte = 9) = true ↔
      ∀ c ∈ HeaderMap.chars value, spacing c ∨ visible c := by
    rw [List.all_eq_true, HeaderMap.chars, List.forall_mem_map]
    refine forall₂_congr fun byte _ => ?_
    have range : ((32 ≤ byte && byte < 127) || byte = 9) = true ↔
        (32 ≤ byte.toNat ∧ byte.toNat < 127) ∨ byte.toNat = 9 := by
      simp [UInt8.le_iff_toNat_le, UInt8.lt_iff_toNat_lt, ← UInt8.toNat_inj]
    rw [range, spacing_or_visible_iff byte.toNat byte.toNat_lt]
  rw [HeaderMap.toStr, Option.ite_none_right_eq_some, printed, Option.some.injEq,
    ← String.toList_inj, String.toList_ofList, eq_comm (b := text.toList)]
  exact Iff.rfl

theorem presents_iff {token : List Char} :
    Presents headers token ↔ ∃ value text scheme, headers.getAll "authorization" = [value] ∧
      HeaderMap.toStr value = some text ∧
      Words.words Text.isWhitespace text.toList = [scheme, token] ∧
      scheme.map Char.toLower = "bearer".toList := by
  constructor
  · rintro ⟨⟨value, before, scheme, gap, after, found, spelled, blank, apart, named⟩, nonempty, shown⟩
    have letters : ∀ c ∈ scheme, visible c := by
      intro c member
      have lower : c.toLower ∈ "bearer".toList := named ▸ List.mem_map_of_mem member
      have all : ∀ d ∈ "bearer".toList, visible d := by simp [visible]
      exact visible_of_toLower (all _ lower)
    refine ⟨value, String.ofList (HeaderMap.chars value), scheme, found, ?_, ?_, named⟩
    · refine toStr_eq_some.mpr ⟨?_, String.toList_ofList⟩
      intro c member
      simp only [spelled, List.mem_append] at member
      rcases member with (((one | two) | three) | four) | five
      · exact .inl (blank c (by simp [one]))
      · exact .inr (letters c two)
      · exact .inl (blank c (by simp [three]))
      · exact .inr (shown c four)
      · exact .inl (blank c (by simp [five]))
    · rw [String.toList_ofList, spelled, Words.words_pair]
      refine ⟨before, gap, after, rfl, fun c member => isWhitespace_of_spacing (blank c member),
        apart, ⟨?_, fun c member => not_isWhitespace_of_visible (letters c member)⟩, nonempty,
        fun c member => not_isWhitespace_of_visible (shown c member)⟩
      rintro rfl
      cases named
  · rintro ⟨value, text, scheme, found, read, divided, named⟩
    obtain ⟨printed, same⟩ := toStr_eq_some.mp read
    obtain ⟨before, gap, after, whole, blank, apart, _, nonempty, plain⟩ :=
      Words.words_pair.mp divided
    rw [same] at whole
    refine ⟨⟨value, before, scheme, gap, after, found, whole, ?_, apart, named⟩, nonempty, ?_⟩
    · intro c member
      have here : c ∈ HeaderMap.chars value := by
        rw [whole]
        simp only [List.mem_append] at member ⊢
        tauto
      rcases printed c here with spaced | shown
      · exact spaced
      · have separates := blank c member
        rw [not_isWhitespace_of_visible shown] at separates
        cases separates
    · intro c member
      rcases printed c (by simp [whole, member]) with spaced | shown
      · have separates := plain c member
        rw [isWhitespace_of_spacing spaced] at separates
        cases separates
      · exact shown

theorem authenticate_eq_ok {token : String} :
    verifier.authenticate token = .ok client ↔
      jwt.decode token verifier.decodingKey verifier.validation = some ⟨some client.clientId⟩ := by
  unfold AuthVerifier.authenticate
  cases jwt.decode token verifier.decodingKey verifier.validation with
  | none => simp
  | some claims =>
    obtain ⟨sub⟩ := claims
    cases sub with
    | none => simp
    | some clientId =>
      by_cases named : Text.trim clientId.toList ≠ []
      · obtain ⟨other, _⟩ := client
        simp [named]
      · simp only [dif_neg named, Option.some.injEq, Claims.mk.injEq, reduceCtorEq, false_iff]
        rintro rfl
        exact named client.named

theorem authenticate_eq_error {token : String} {failure : AppError}
    (failed : verifier.authenticate token = .error failure) : failure = .unauthorized := by
  unfold AuthVerifier.authenticate at failed
  split at failed
  · exact (Except.error.inj failed).symm
  · split at failed
    · exact (Except.error.inj failed).symm
    · split at failed
      · cases failed
      · exact (Except.error.inj failed).symm

theorem fromRequestParts_eq_ok :
    AuthenticatedClient.fromRequestParts verifier headers = .ok client ↔
      ∃ token, Presents headers token ∧ verifier.authenticate (String.ofList token) = .ok client := by
  have lower : "Bearer".toList.map Char.toLower = "bearer".toList := by decide
  constructor
  · intro extracted
    unfold AuthenticatedClient.fromRequestParts at extracted
    split at extracted
    case h_2 => cases extracted
    case h_1 value found =>
      split at extracted
      case h_1 => cases extracted
      case h_2 text read =>
        split at extracted
        case h_2 => cases extracted
        case h_1 scheme token more divided =>
          split at extracted
          case isTrue => cases extracted
          case isFalse accepted =>
            simp only [not_or, not_not, eqIgnoreAsciiCase, lower, decide_eq_true_eq] at accepted
            obtain ⟨named, _, rfl⟩ := accepted
            exact ⟨token, presents_iff.mpr ⟨value, text, scheme, found, read, divided, named⟩,
              extracted⟩
  · rintro ⟨token, presents, accepted⟩
    obtain ⟨value, text, scheme, found, read, divided, named⟩ := presents_iff.mp presents
    simp [AuthenticatedClient.fromRequestParts, found, read, divided, eqIgnoreAsciiCase, named,
      presents.token.1, accepted]

theorem fromRequestParts_eq_error {failure : AppError}
    (failed : AuthenticatedClient.fromRequestParts verifier headers = .error failure) :
    failure = .unauthorized := by
  unfold AuthenticatedClient.fromRequestParts at failed
  split at failed
  case h_2 => exact (Except.error.inj failed).symm
  case h_1 =>
    split at failed
    case h_1 => exact (Except.error.inj failed).symm
    case h_2 =>
      split at failed
      case h_2 => exact (Except.error.inj failed).symm
      case h_1 =>
        split at failed
        case isTrue => exact (Except.error.inj failed).symm
        case isFalse => exact authenticate_eq_error failed

/-- Under the configured key, issuer and audience the token is one of the client. -/
def Jsonwebtoken.Verifies (jwt : Jsonwebtoken) (config : AuthConfig) (token : List Char)
    (clientId : String) : Prop :=
  ∃ key, jwt.fromRsaPem (Text.utf8 config.publicKeyPem) = some key ∧
    jwt.decode (String.ofList token) key ⟨.rs256, [config.issuer], [config.audience], ["exp"]⟩ =
      some ⟨some clientId⟩

theorem extracted_iff {config : AuthConfig} (built : AuthVerifier.new jwt config = some verifier) :
    AuthenticatedClient.fromRequestParts verifier headers = .ok client ↔
      ∃ token, Presents headers token ∧ jwt.Verifies config token client.clientId := by
  simp only [AuthVerifier.new, Option.map_eq_some_iff] at built
  obtain ⟨key, read, rfl⟩ := built
  rw [fromRequestParts_eq_ok]
  simp only [authenticate_eq_ok]
  constructor
  · rintro ⟨token, presents, decoded⟩
    exact ⟨token, presents, key, read, decoded⟩
  · rintro ⟨token, presents, other, found, decoded⟩
    obtain rfl := Option.some.inj (read.symm.trans found)
    exact ⟨token, presents, decoded⟩

/-- A request is let in for exactly one reading of its headers, and refused in one way. -/
theorem authentication_exact {config : AuthConfig}
    (built : AuthVerifier.new jwt config = some verifier) (headers : HeaderMap) :
    (∀ client, AuthenticatedClient.fromRequestParts verifier headers = .ok client ↔
      ∃ token, Presents headers token ∧ jwt.Verifies config token client.clientId) ∧
    ∀ failure, AuthenticatedClient.fromRequestParts verifier headers = .error failure →
      failure = .unauthorized :=
  ⟨fun _ => extracted_iff built, fun _ => fromRequestParts_eq_error⟩

end Presented

namespace Sample

def jwt : Jsonwebtoken where
  DecodingKey := Unit
  fromRsaPem bytes := if bytes = Text.utf8 publicKeyPem then some () else none
  decode token _ validation :=
    if validation.issuer ≠ ["https://issuer.example"] ∨ validation.audience ≠ ["ledger"] then none
    else if token = "e30.YWxpY2U.c2ln" then some ⟨some "alice"⟩
    else if token = "e30.Ym9i.c2ln" then some ⟨some "bob"⟩
    else none

def verifier : AuthVerifier jwt :=
  ⟨(), .rs256, ["https://issuer.example"], ["ledger"], ["exp"]⟩

theorem verifier_built : AuthVerifier.new jwt (config 86400).auth = some verifier := by
  simp [AuthVerifier.new, jwt, config, verifier]

def authorization (token : String) : HeaderMap :=
  [("authorization", Text.utf8 (" bEARER	 " ++ token))]

end Sample

theorem authentication_exact_alice :
    ∃ token, Presents (Sample.authorization "e30.YWxpY2U.c2ln") token ∧
      Sample.jwt.Verifies (Sample.config 86400).auth token "alice" :=
  ((authentication_exact Sample.verifier_built _).1 ⟨"alice", by decide⟩).mp (by decide +kernel)

end LedgerService
