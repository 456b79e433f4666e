import LedgerService.Primitives

set_option autoImplicit false

/-!
# Slices of text, numbers read from it, and checks of settings

A `str` is addressed by bytes; a slice that does not start and end between characters panics.
-/

namespace LedgerService

namespace Text

-- `str::len`.
def byteLength (text : List Char) : Nat := (text.map Char.utf8Size).sum

-- What follows the first bytes; `none` within a character and beyond the end.
def dropBytes : Nat → List Char → Option (List Char)
  | 0, text => some text
  | _ + 1, [] => none
  | count + 1, c :: rest =>
      if c.utf8Size ≤ count + 1 then dropBytes (count + 1 - c.utf8Size) rest else none

def takeBytes : Nat → List Char → Option (List Char)
  | 0, _ => some []
  | _ + 1, [] => none
  | count + 1, c :: rest =>
      if c.utf8Size ≤ count + 1 then (takeBytes (count + 1 - c.utf8Size) rest).map (c :: ·) else none

-- `&text[start..stop]`.
def slice (start stop : Nat) (text : List Char) : Option (List Char) :=
  (dropBytes start text).bind (takeBytes (stop - start))

def stripPrefix : List Char → List Char → Option (List Char)
  | [], text => some text
  | _ :: _, [] => none
  | c :: start, d :: text => if c = d then stripPrefix start text else none

-- `u8::is_ascii_hexdigit`.
def isAsciiHexdigit (byte : UInt8) : Bool :=
  (48 ≤ byte && byte ≤ 57) || (65 ≤ byte && byte ≤ 70) || (97 ≤ byte && byte ≤ 102)

-- `char::to_digit(16)`.
def toHexDigit (c : Char) : Option Nat :=
  if 48 ≤ c.toNat ∧ c.toNat ≤ 57 then some (c.toNat - 48)
  else if 65 ≤ c.toNat ∧ c.toNat ≤ 70 then some (c.toNat - 55)
  else if 97 ≤ c.toNat ∧ c.toNat ≤ 102 then some (c.toNat - 87)
  else none

-- An unsigned type takes a plus sign before its digits, but not a lone one.
def stripPlus : List Char → List Char
  | '+' :: c :: rest => c :: rest
  | text => text

-- `u8::from_str_radix(text, 16)`.
def u8FromStrRadix16 (text : List Char) : Option UInt8 :=
  match (stripPlus text).mapM toHexDigit with
  | none | some [] => none
  | some digits =>
      let value := digits.foldl (fun value digit => 16 * value + digit) 0
      if value < 256 then some (UInt8.ofNat value) else none

-- `text.parse::<i64>()`.
def parseI64 (text : List Char) : Option I64 :=
  let (negative, digits) :=
    match text with
    | '-' :: rest => (true, rest)
    | '+' :: rest => (false, rest)
    | _ => (false, text)
  if digits = [] ∨ ¬ digits.all Char.isDigit then none
  else
    let magnitude : Int := Nat.ofDigitChars 10 digits 0
    I64.tryFrom (if negative then -magnitude else magnitude)

-- `text.parse::<u64>()`.
def parseU64 (text : List Char) : Option Nat :=
  let digits := stripPlus text
  if digits = [] ∨ ¬ digits.all Char.isDigit then none
  else
    let value := Nat.ofDigitChars 10 digits 0
    if value < 2 ^ 64 then some value else none

-- `text.parse::<u32>()`.
def parseU32 (text : List Char) : Option Nat := (parseU64 text).filter fun value => value < 2 ^ 32

example : slice 1 2 ['a', 'é'] = none := by decide

example : slice 1 3 ['a', 'é'] = some ['é'] := by decide

example : u8FromStrRadix16 ['+', 'f'] = some 15 := by decide

end Text

section Checks

variable {α : Type} {message : String}

-- `context` and `with_context`.
def withContext (message : String) : Option α → Except String α
  | some value => .ok value
  | none => .error message

-- `bail!`, if the condition holds.
def bailIf (condition : Prop) [Decidable condition] (message : String) : Except String Unit :=
  if condition then .error message else .ok ()

theorem withContext_eq_ok {value : Option α} {result : α} :
    withContext message value = .ok result ↔ value = some result := by
  cases value <;> simp [withContext]

theorem bailIf_eq_ok {condition : Prop} [Decidable condition] :
    bailIf condition message = .ok () ↔ ¬ condition := by
  by_cases holds : condition <;> simp [bailIf, holds]

end Checks

end LedgerService
