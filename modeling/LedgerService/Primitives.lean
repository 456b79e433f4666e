import Mathlib.Algebra.Order.Ring.Int

set_option autoImplicit false

namespace LedgerService

def I64.min : Int := -2 ^ 63
def I64.max : Int := 2 ^ 63 - 1

/-- `i64` and `BIGINT`. -/
@[ext] structure I64 where
  val : Int
  bounds : I64.min ≤ val ∧ val ≤ I64.max
  deriving DecidableEq

namespace I64

def tryFrom (value : Int) : Option I64 :=
  if bounds : I64.min ≤ value ∧ value ≤ I64.max then some ⟨value, bounds⟩ else none

@[simp] theorem tryFrom_eq_some {value : Int} {result : I64} :
    tryFrom value = some result ↔ result.val = value := by
  constructor
  · intro found
    simp only [tryFrom, Option.dite_none_right_eq_some, Option.some.injEq] at found
    obtain ⟨_, rfl⟩ := found
    rfl
  · rintro rfl
    simp [tryFrom, result.bounds]

def checkedAdd (first second : I64) : Option I64 := tryFrom (first.val + second.val)

def checkedSub (first second : I64) : Option I64 := tryFrom (first.val - second.val)

@[simp] theorem checkedAdd_eq_some {first second result : I64} :
    checkedAdd first second = some result ↔ result.val = first.val + second.val :=
  tryFrom_eq_some

@[simp] theorem checkedSub_eq_some {first second result : I64} :
    checkedSub first second = some result ↔ result.val = first.val - second.val :=
  tryFrom_eq_some

def zero : I64 := ⟨0, by decide⟩

@[simp] theorem zero_val : zero.val = 0 := rfl

def toBeBytes (value : I64) : List UInt8 :=
  (List.range 8).map fun index => UInt8.ofNat ((value.val % 2 ^ 64).toNat >>> (8 * (7 - index)))

end I64

namespace I128

def max : Int := 2 ^ 127 - 1

-- The result of an `i128` operation, unless it overflows.
def checked (value : Int) : Option Int :=
  if -2 ^ 127 ≤ value ∧ value ≤ max then some value else none

def pow10 (exponent : Nat) : Option Int := checked (10 ^ exponent)

-- `str::parse::<i128>` on a string of ASCII digits.
def parse (digits : List Char) : Option Int := checked (Nat.ofDigitChars 10 digits 0)

end I128

-- `u8::try_from` on an `i16`.
def u8TryFrom (value : Int) : Option Nat :=
  if 0 ≤ value ∧ value ≤ 255 then some value.toNat else none

-- `as u8`, which keeps the low eight bits.
def asU8 (value : Int) : Nat := (value % 2 ^ 8).toNat

-- `as u16`, which keeps the low sixteen bits.
def asU16 (value : Int) : Nat := (value % 2 ^ 16).toNat

/-- What a call comes to: a value, an error it returns, or a panic. -/
inductive Outcome (ε α : Type) where
  | ok (value : α)
  | error (error : ε)
  | panic
  deriving DecidableEq

namespace Outcome

variable {ε α β : Type}

def bind : Outcome ε α → (α → Outcome ε β) → Outcome ε β
  | .ok value, f => f value
  | .error failed, _ => .error failed
  | .panic, _ => .panic

instance : Monad (Outcome ε) where
  pure := .ok
  bind := bind

def orError (failed : ε) : Option α → Outcome ε α
  | some value => .ok value
  | none => .error failed

def orPanic : Option α → Outcome ε α
  | some value => .ok value
  | none => .panic

end Outcome

namespace Text

-- The characters with the Unicode property `White_Space`.
def isWhitespace (c : Char) : Bool :=
  let code := c.toNat
  (9 ≤ code && code ≤ 13) || code = 0x20 || code = 0x85 || code = 0xA0 || code = 0x1680 ||
    (0x2000 ≤ code && code ≤ 0x200A) || code = 0x2028 || code = 0x2029 || code = 0x202F ||
    code = 0x205F || code = 0x3000

def trim (text : List Char) : List Char :=
  ((text.dropWhile isWhitespace).reverse.dropWhile isWhitespace).reverse

-- `str::split_once`: what stands before and after the first separator.
def splitOnce (separator : Char) : List Char → Option (List Char × List Char)
  | [] => none
  | c :: rest =>
      if c = separator then some ([], rest)
      else (splitOnce separator rest).map fun (before, after) => (c :: before, after)

-- `strip_prefix('-')`, and whether it found the sign.
def stripMinus : List Char → Bool × List Char
  | '-' :: rest => (true, rest)
  | text => (false, text)

def padded (width value : Nat) : List Char :=
  List.replicate (width - (Nat.toDigits 10 value).length) '0' ++ Nat.toDigits 10 value

def utf8 (text : String) : List UInt8 := text.toList.flatMap String.utf8EncodeChar

end Text

/-- A UUID; PostgreSQL orders UUIDs by their bytes, which is the order of the numbers. -/
abbrev Uuid := BitVec 128

namespace Uuid

def asBytes (id : Uuid) : List UInt8 :=
  (List.range 16).map fun index => UInt8.ofNat (id.toNat >>> (8 * (15 - index)))

def hexDigits (id : Uuid) : List Char :=
  (List.range 32).map fun index => Nat.digitChar ((id.toNat >>> (4 * (31 - index))) % 16)

-- The hyphenated lower-case form in which a UUID is serialised.
def hyphenated (id : Uuid) : String :=
  let digits := hexDigits id
  String.ofList (digits.take 8 ++ '-' :: (digits.drop 8).take 4 ++ '-' :: (digits.drop 12).take 4 ++
    '-' :: (digits.drop 16).take 4 ++ '-' :: digits.drop 20)

end Uuid

/-- Microseconds, the resolution of `TIMESTAMPTZ`. -/
abbrev Timestamp := Int

end LedgerService
