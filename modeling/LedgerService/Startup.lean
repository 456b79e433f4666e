import Mathlib.Data.List.TakeWhile
import LedgerService.Idempotency
import LedgerService.Parsing
import LedgerService.Reference

set_option autoImplicit false

/-!
# The configuration of the service

What `Config::from_values` accepts, and what `reserve` makes of the retention.
-/

namespace LedgerService

abbrev Environment := List (String × String)

-- Collected in a map, the last value of a name stays.
def Environment.get (values : Environment) (name : String) : Option String :=
  values.reverse.lookup name

structure Duration where
  asSecs : Nat
  deriving DecidableEq

def Duration.fromSecs (seconds : Nat) : Duration := ⟨seconds⟩

/-- What is read outside the repository. -/
structure Readers (SocketAddr : Type) where
  -- `SocketAddr::from_str`.
  socketAddr : String → Option SocketAddr
  -- `DecodingKey::from_rsa_pem`, whether it succeeds.
  fromRsaPem : List UInt8 → Bool

structure AuthConfig where
  issuer : String
  audience : String
  publicKeyPem : String
  deriving DecidableEq

structure PoolConfig where
  maxConnections : Nat
  minConnections : Nat
  acquireTimeout : Duration
  connectTimeout : Duration
  deriving DecidableEq

structure Config (SocketAddr : Type) where
  databaseUrl : String
  bindAddress : SocketAddr
  pool : PoolConfig
  logFilter : String
  auth : AuthConfig
  idempotencyRetention : Duration
  deriving DecidableEq

def nonblank (value name : String) : Except String String := do
  bailIf (Text.trim value.toList = []) (name ++ " must be set")
  .ok value

def required (values : Environment) (name : String) : Except String String :=
  withContext (name ++ " must be set")
    ((values.get name).filter fun value => ¬ Text.trim value.toList = [])

def optional (values : Environment) (name default : String) : String :=
  (values.get name).getD default

def parseU32 (values : Environment) (name : String) (default : Nat) : Except String Nat :=
  withContext (name ++ " must be a non-negative integer")
    (Text.parseU32 (optional values name (toString default)).toList)

def parseSeconds (values : Environment) (name : String) (default : Nat) :
    Except String Duration := do
  let seconds ← withContext (name ++ " must be a positive number of seconds")
    (Text.parseU64 (optional values name (toString default)).toList)
  bailIf (seconds = 0) (name ++ " must be greater than zero")
  .ok (Duration.fromSecs seconds)

section FromValues

variable {SocketAddr : Type} (readers : Readers SocketAddr)

def AuthConfig.new (issuer audience publicKeyPem : String) : Except String AuthConfig := do
  let issuer ← nonblank issuer "JWT_ISSUER"
  let audience ← nonblank audience "JWT_AUDIENCE"
  bailIf (readers.fromRsaPem (Text.utf8 publicKeyPem) = false)
    "JWT_PUBLIC_KEY_PEM must contain a valid RSA public key"
  .ok ⟨issuer, audience, publicKeyPem⟩

def Config.fromValues (values : Environment) : Except String (Config SocketAddr) := do
  let databaseUrl ← required values "DATABASE_URL"
  let bindAddress ← withContext "BIND_ADDRESS must be a valid socket address"
    (readers.socketAddr (optional values "BIND_ADDRESS" "0.0.0.0:3000"))
  let maxConnections ← parseU32 values "DB_MAX_CONNECTIONS" 10
  let minConnections ← parseU32 values "DB_MIN_CONNECTIONS" 0
  bailIf (minConnections > maxConnections) "DB_MIN_CONNECTIONS must not exceed DB_MAX_CONNECTIONS"
  let issuer ← required values "JWT_ISSUER"
  let audience ← required values "JWT_AUDIENCE"
  let publicKeyPem ← required values "JWT_PUBLIC_KEY_PEM"
  let auth ← AuthConfig.new readers issuer audience publicKeyPem
  let acquireTimeout ← parseSeconds values "DB_ACQUIRE_TIMEOUT_SECS" 5
  let connectTimeout ← parseSeconds values "DB_CONNECT_TIMEOUT_SECS" 5
  let idempotencyRetention ← parseSeconds values "IDEMPOTENCY_RETENTION_SECS" (24 * 60 * 60)
  .ok {
    databaseUrl := databaseUrl
    bindAddress := bindAddress
    pool := ⟨maxConnections, minConnections, acquireTimeout, connectTimeout⟩
    logFilter := optional values "RUST_LOG" "info"
    auth := auth
    idempotencyRetention := idempotencyRetention }

def Platform.configured (platform : Platform) (config : Config SocketAddr) : Platform :=
  { platform with idempotencyRetention := config.idempotencyRetention.asSecs }

end FromValues

section Retention

variable {SocketAddr : Type} {readers : Readers SocketAddr} {values : Environment}
  {config : Config SocketAddr}

theorem trim_eq_nil_iff {text : List Char} :
    Text.trim text = [] ↔ ∀ c ∈ text, Text.isWhitespace c = true := by
  rw [Text.trim, List.reverse_eq_nil_iff, List.dropWhile_eq_nil_iff]
  constructor
  · intro blank
    rw [← List.dropWhile_eq_nil_iff]
    by_contra nonempty
    have first := List.head_dropWhile_not Text.isWhitespace nonempty
    rw [blank _ (List.mem_reverse.mpr (List.head_mem nonempty))] at first
    cases first
  · intro blank c member
    exact blank c (List.dropWhile_sublist _ |>.subset (List.mem_reverse.mp member))

theorem trim_ne_nil {text : List Char} {c : Char} (member : c ∈ text)
    (visible : Text.isWhitespace c = false) : Text.trim text ≠ [] := by
  rw [ne_eq, trim_eq_nil_iff]
  intro blank
  rw [blank c member] at visible
  cases visible

theorem parseU64_eq_some {text : List Char} {value : Nat} :
    Text.parseU64 text = some value ↔
      Text.stripPlus text ≠ [] ∧ (Text.stripPlus text).all Char.isDigit = true ∧ value < 2 ^ 64 ∧
        Nat.ofDigitChars 10 (Text.stripPlus text) 0 = value := by
  unfold Text.parseU64
  dsimp only
  by_cases digits : Text.stripPlus text = [] ∨ ¬ (Text.stripPlus text).all Char.isDigit = true
  · rw [if_pos digits]
    constructor
    · intro parsed
      cases parsed
    · rintro ⟨nonempty, all, _⟩
      exact absurd digits (not_or.mpr ⟨nonempty, not_not.mpr all⟩)
  · rw [if_neg digits, Option.ite_none_right_eq_some, Option.some.injEq]
    obtain ⟨nonempty, all⟩ := not_or.mp digits
    constructor
    · rintro ⟨small, rfl⟩
      exact ⟨nonempty, not_not.mp all, small, rfl⟩
    · rintro ⟨_, _, small, rfl⟩
      exact ⟨small, rfl⟩

theorem parseSeconds_eq_ok {name : String} {default : Nat} {duration : Duration} :
    parseSeconds values name default = .ok duration ↔
      Text.parseU64 (optional values name (toString default)).toList = some duration.asSecs ∧
        0 < duration.asSecs := by
  simp only [parseSeconds, bind_eq_ok, withContext_eq_ok, Except.ok.injEq]
  constructor
  · rintro ⟨seconds, parsed, ⟨⟩, checked, rfl⟩
    exact ⟨parsed, Nat.pos_of_ne_zero (bailIf_eq_ok.mp checked)⟩
  · rintro ⟨parsed, positive⟩
    exact ⟨duration.asSecs, parsed, (), bailIf_eq_ok.mpr positive.ne', rfl⟩

theorem fromValues_eq_ok :
    Config.fromValues readers values = .ok config ↔
      required values "DATABASE_URL" = .ok config.databaseUrl ∧
      readers.socketAddr (optional values "BIND_ADDRESS" "0.0.0.0:3000") = some config.bindAddress ∧
      parseU32 values "DB_MAX_CONNECTIONS" 10 = .ok config.pool.maxConnections ∧
      parseU32 values "DB_MIN_CONNECTIONS" 0 = .ok config.pool.minConnections ∧
      config.pool.minConnections ≤ config.pool.maxConnections ∧
      (∃ issuer audience publicKeyPem, required values "JWT_ISSUER" = .ok issuer ∧
        required values "JWT_AUDIENCE" = .ok audience ∧
        required values "JWT_PUBLIC_KEY_PEM" = .ok publicKeyPem ∧
        AuthConfig.new readers issuer audience publicKeyPem = .ok config.auth) ∧
      parseSeconds values "DB_ACQUIRE_TIMEOUT_SECS" 5 = .ok config.pool.acquireTimeout ∧
      parseSeconds values "DB_CONNECT_TIMEOUT_SECS" 5 = .ok config.pool.connectTimeout ∧
      optional values "RUST_LOG" "info" = config.logFilter ∧
      parseSeconds values "IDEMPOTENCY_RETENTION_SECS" (24 * 60 * 60) =
        .ok config.idempotencyRetention := by
  simp only [Config.fromValues, bind_eq_ok, withContext_eq_ok, Except.ok.injEq]
  constructor
  · rintro ⟨_, url, _, address, _, most, _, least, ⟨⟩, range, issuer, named, audience, meant, pem, key,
      auth, new, _, acquire, _, connect, _, retention, rfl⟩
    exact ⟨url, address, most, least, Nat.not_lt.mp (bailIf_eq_ok.mp range),
      ⟨issuer, audience, pem, named, meant, key, new⟩, acquire, connect, rfl, retention⟩
  · rintro ⟨url, address, most, least, range, ⟨issuer, audience, pem, named, meant, key, new⟩,
      acquire, connect, filter, retention⟩
    exact ⟨_, url, _, address, _, most, _, least, (), bailIf_eq_ok.mpr (Nat.not_lt.mpr range), issuer,
      named, audience, meant, pem, key, _, new, _, acquire, _, connect, _, retention, by rw [filter]⟩

/-- The number of seconds that the environment asks for, if it does, is an `i64`. -/
def RetentionFits (values : Environment) : Prop :=
  ∀ text ∈ values.get "IDEMPOTENCY_RETENTION_SECS",
    Nat.ofDigitChars 10 (Text.stripPlus text.toList) 0 < 2 ^ 63

instance (values : Environment) : Decidable (RetentionFits values) :=
  inferInstanceAs (Decidable (∀ _ ∈ _, _))

theorem retentionFits_iff {retention : Duration}
    (parsed : parseSeconds values "IDEMPOTENCY_RETENTION_SECS" (24 * 60 * 60) = .ok retention) :
    retention.asSecs < 2 ^ 63 ↔ RetentionFits values := by
  obtain ⟨_, _, _, same⟩ := parseU64_eq_some.mp (parseSeconds_eq_ok.mp parsed).1
  rw [RetentionFits, ← same, optional]
  cases values.get "IDEMPOTENCY_RETENTION_SECS" with
  | none => simp; decide
  | some text => simp

end Retention

/-- The retention that a configuration was accepted with can be converted exactly if the number of
seconds fits an `i64`; otherwise every reservation panics before its first statement. -/
theorem retention_usable_iff {SocketAddr : Type} {readers : Readers SocketAddr}
    {values : Environment} {config : Config SocketAddr}
    (accepted : Config.fromValues readers values = .ok config) (platform : Platform) (scope : Scope)
    (fingerprint : String) :
    ((I64.tryFrom config.idempotencyRetention.asSecs).isSome ↔ RetentionFits values) ∧
    (RetentionFits values → ∃ seconds next,
      seconds.val = (config.idempotencyRetention.asSecs : Int) ∧
      reserve (platform.configured config) scope fingerprint =
        .query (.insertRecord scope fingerprint seconds) next) ∧
    (¬ RetentionFits values → reserve (platform.configured config) scope fingerprint =
      .fail (.panic "validated retention fits i64")) := by
  have range := retentionFits_iff (fromValues_eq_ok.mp accepted).2.2.2.2.2.2.2.2.2
  by_cases fits : RetentionFits values
  · obtain ⟨seconds, converted⟩ : ∃ seconds : I64,
        seconds.val = (config.idempotencyRetention.asSecs : Int) := by
      have small := range.mpr fits
      exact ⟨⟨config.idempotencyRetention.asSecs, by simp only [I64.min, I64.max]; omega⟩, rfl⟩
    have found := I64.tryFrom_eq_some.mpr converted
    refine ⟨by simp [found, fits], fun _ => ⟨seconds, ?_⟩, fun unfit => absurd fits unfit⟩
    rw [reserve, Platform.configured, found]
    exact ⟨_, converted, rfl⟩
  · have none : I64.tryFrom config.idempotencyRetention.asSecs = none := by
      rw [Option.eq_none_iff_forall_ne_some]
      intro seconds converted
      have large := mt range.mp fits
      have bounds := seconds.bounds
      rw [I64.tryFrom_eq_some.mp converted] at bounds
      simp only [I64.max] at bounds
      omega
    refine ⟨by simp [none, fits], fun fits' => absurd fits' fits, fun _ => ?_⟩
    rw [reserve, Platform.configured, none]
    rfl

namespace Sample

def publicKeyPem : String :=
  "-----BEGIN PUBLIC KEY-----\n" ++
  "MIIBIjANBgkqhkiG9w0BAQEFAAOCAQ8AMIIBCgKCAQEAnXazU32TRNTxhnUyZiZL\n" ++
  "W89ZMXgF7pYlG9Tp/Ujd1kxu/tTGesCWTu9eRDLA+InxTDE7+CIP6mGDcFcAHkYb\n" ++
  "T6hySyxpX5PviaHy06xGlxXPXx/Cb7fx2G6+tzhnDYnMZSffj/Jd64giX6b4KTfe\n" ++
  "e8gVFEHz6CxiqQHbCZV+q31Ffc6e4wJn9foJm++e/7dsxZ0FIcBxUKln12ez/AYk\n" ++
  "X1nUghyQH2NppJgIVXsfdAakfdzWF9wqWy7lbImbsqV4JxF/ivfAA4SMMRnJeYtR\n" ++
  "DhWZY0GSwp4oINZYnViS2rWEAgOe9j4N4ZTJOc5WVURCoI94bHCvgJZq+QsuqugD\n" ++
  "SQIDAQAB\n" ++
  "-----END PUBLIC KEY-----\n"

def readers : Readers (List Nat) where
  socketAddr text := if text = "0.0.0.0:3000" then some [0, 0, 0, 0, 3000] else none
  fromRsaPem bytes := bytes = Text.utf8 publicKeyPem

def environment (retention : String) : Environment :=
  [("DATABASE_URL", "postgres://localhost/ledger"), ("JWT_ISSUER", "https://issuer.example"),
    ("JWT_AUDIENCE", "ledger"), ("JWT_PUBLIC_KEY_PEM", publicKeyPem),
    ("IDEMPOTENCY_RETENTION_SECS", retention)]

def config (seconds : Nat) : Config (List Nat) :=
  ⟨"postgres://localhost/ledger", [0, 0, 0, 0, 3000], ⟨10, 0, ⟨5⟩, ⟨5⟩⟩, "info",
    ⟨"https://issuer.example", "ledger", publicKeyPem⟩, ⟨seconds⟩⟩

theorem accepted {retention : String} {seconds : Nat}
    (parsed : Text.parseU64 retention.toList = some seconds) (positive : 0 < seconds) :
    Config.fromValues readers (environment retention) = .ok (config seconds) := by
  have last : '-' ∈ "-----END PUBLIC KEY-----\n".toList := by decide +kernel
  have shown : Text.trim publicKeyPem.toList ≠ [] := by
    refine trim_ne_nil (c := '-') ?_ (by decide)
    unfold publicKeyPem
    rw [String.toList_append]
    exact List.mem_append_right _ last
  have url : Text.trim "postgres://localhost/ledger".toList ≠ [] :=
    trim_ne_nil (c := 'p') (by decide +kernel) (by decide)
  have issuer : Text.trim "https://issuer.example".toList ≠ [] :=
    trim_ne_nil (c := 'h') (by decide +kernel) (by decide)
  have audience : Text.trim "ledger".toList ≠ [] :=
    trim_ne_nil (c := 'l') (by decide +kernel) (by decide)
  have named : ∀ name value : String, (environment retention).get name = some value →
      Text.trim value.toList ≠ [] → required (environment retention) name = .ok value := by
    intro name value found visible
    rw [required, found]
    simp [Option.filter, visible, withContext]
  have unset : ∀ name, (environment retention).get name = none →
      ∀ default, optional (environment retention) name default = default := by
    intro name absent default
    rw [optional, absent]
    rfl
  have ten : Text.parseU32 (toString 10).toList = some 10 := by decide +kernel
  have zero : Text.parseU32 (toString 0).toList = some 0 := by decide +kernel
  have five : Text.parseU64 (toString 5).toList = some 5 := by decide +kernel
  have new : AuthConfig.new readers "https://issuer.example" "ledger" publicKeyPem =
      .ok (config seconds).auth := by
    simp only [AuthConfig.new, nonblank, bind_eq_ok, Except.ok.injEq]
    exact ⟨_, ⟨(), bailIf_eq_ok.mpr issuer, rfl⟩, _, ⟨(), bailIf_eq_ok.mpr audience, rfl⟩, (),
      bailIf_eq_ok.mpr (by simp [readers]), rfl⟩
  refine fromValues_eq_ok.mpr ⟨named _ _ rfl url, ?_, ?_, ?_, Nat.zero_le 10, ⟨_, _, _,
    named _ _ rfl issuer, named _ _ rfl audience, named _ _ rfl shown, new⟩, ?_, ?_, ?_, ?_⟩
  · rw [unset _ rfl]
    rfl
  · rw [parseU32, unset _ rfl, withContext_eq_ok]
    exact ten
  · rw [parseU32, unset _ rfl, withContext_eq_ok]
    exact zero
  · rw [parseSeconds_eq_ok, unset _ rfl]
    exact ⟨five, Nat.succ_pos 4⟩
  · rw [parseSeconds_eq_ok, unset _ rfl]
    exact ⟨five, Nat.succ_pos 4⟩
  · rw [unset _ rfl]
    rfl
  · rw [parseSeconds_eq_ok, optional, show (environment retention).get "IDEMPOTENCY_RETENTION_SECS" =
      some retention from rfl]
    exact ⟨parsed, positive⟩

end Sample

theorem retention_usable_iff_day :
    (I64.tryFrom (Sample.config 86400).idempotencyRetention.asSecs).isSome :=
  (retention_usable_iff (@Sample.accepted "86400" _ (by decide) (by decide)) .reference
    ⟨"alice", .transfer, "pay"⟩ "").1.mpr (by decide)

theorem retention_usable_overflowing :
    Config.fromValues Sample.readers (Sample.environment "9223372036854775808") =
        .ok (Sample.config (2 ^ 63)) ∧
      I64.tryFrom (Sample.config (2 ^ 63)).idempotencyRetention.asSecs = none :=
  ⟨Sample.accepted (by decide) (by decide), by decide⟩

end LedgerService
