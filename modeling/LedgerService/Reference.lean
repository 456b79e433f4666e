import LedgerService.Reachability
import LedgerService.Transaction.Scheduling
import LedgerService.Transaction.Serving

set_option autoImplicit false

/-!
# A ledger that runs

A platform on which every definition can be evaluated, and ledgers served one request at a time.
-/

namespace LedgerService

open Transaction

namespace Sha256

def constants : List Nat :=
  [0x428a2f98, 0x71374491, 0xb5c0fbcf, 0xe9b5dba5, 0x3956c25b, 0x59f111f1, 0x923f82a4, 0xab1c5ed5,
    0xd807aa98, 0x12835b01, 0x243185be, 0x550c7dc3, 0x72be5d74, 0x80deb1fe, 0x9bdc06a7, 0xc19bf174,
    0xe49b69c1, 0xefbe4786, 0x0fc19dc6, 0x240ca1cc, 0x2de92c6f, 0x4a7484aa, 0x5cb0a9dc, 0x76f988da,
    0x983e5152, 0xa831c66d, 0xb00327c8, 0xbf597fc7, 0xc6e00bf3, 0xd5a79147, 0x06ca6351, 0x14292967,
    0x27b70a85, 0x2e1b2138, 0x4d2c6dfc, 0x53380d13, 0x650a7354, 0x766a0abb, 0x81c2c92e, 0x92722c85,
    0xa2bfe8a1, 0xa81a664b, 0xc24b8b70, 0xc76c51a3, 0xd192e819, 0xd6990624, 0xf40e3585, 0x106aa070,
    0x19a4c116, 0x1e376c08, 0x2748774c, 0x34b0bcb5, 0x391c0cb3, 0x4ed8aa4a, 0x5b9cca4f, 0x682e6ff3,
    0x748f82ee, 0x78a5636f, 0x84c87814, 0x8cc70208, 0x90befffa, 0xa4506ceb, 0xbef9a3f7, 0xc67178f2]

def rotate (word count : Nat) : Nat := (word >>> count ||| word <<< (32 - count)) % 2 ^ 32

-- The word of the schedule that follows these, the last one first.
def extend (words : List Nat) : Nat :=
  let late := words.getD 1 0
  let early := words.getD 14 0
  (words.getD 15 0 + (rotate early 7 ^^^ rotate early 18 ^^^ early >>> 3) + words.getD 6 0 +
    (rotate late 17 ^^^ rotate late 19 ^^^ late >>> 10)) % 2 ^ 32

def schedule (block : List Nat) : List Nat :=
  ((List.range 48).foldl (fun words _ => extend words :: words) block.reverse).reverse

structure Registers where
  a : Nat
  b : Nat
  c : Nat
  d : Nat
  e : Nat
  f : Nat
  g : Nat
  h : Nat

def round (r : Registers) (word : Nat × Nat) : Registers :=
  let choice := (r.e &&& r.f) ^^^ ((2 ^ 32 - 1 - r.e) &&& r.g)
  let majority := (r.a &&& r.b) ^^^ (r.a &&& r.c) ^^^ (r.b &&& r.c)
  let first := r.h + (rotate r.e 6 ^^^ rotate r.e 11 ^^^ rotate r.e 25) + choice + word.1 + word.2
  let second := (rotate r.a 2 ^^^ rotate r.a 13 ^^^ rotate r.a 22) + majority
  ⟨(first + second) % 2 ^ 32, r.a, r.b, r.c, (r.d + first) % 2 ^ 32, r.e, r.f, r.g⟩

def initial : Registers :=
  ⟨0x6a09e667, 0xbb67ae85, 0x3c6ef372, 0xa54ff53a, 0x510e527f, 0x9b05688c, 0x1f83d9ab, 0x5be0cd19⟩

def compress (r : Registers) (block : List Nat) : Registers :=
  let last := (constants.zip (schedule block)).foldl round r
  ⟨(r.a + last.a) % 2 ^ 32, (r.b + last.b) % 2 ^ 32, (r.c + last.c) % 2 ^ 32,
    (r.d + last.d) % 2 ^ 32, (r.e + last.e) % 2 ^ 32, (r.f + last.f) % 2 ^ 32,
    (r.g + last.g) % 2 ^ 32, (r.h + last.h) % 2 ^ 32⟩

def bigEndian (width number : Nat) : List Nat :=
  (List.range width).map fun index => number >>> (8 * (width - 1 - index)) % 256

-- The padded message as 32-bit words.
def words (bytes : List UInt8) : List Nat :=
  let padding := List.replicate ((119 - bytes.length % 64) % 64) 0
  let padded := bytes.map UInt8.toNat ++ [128] ++ padding ++ bigEndian 8 (8 * bytes.length)
  (List.range (padded.length / 4)).map fun index =>
    ((padded.drop (4 * index)).take 4).foldl (fun word byte => word * 256 + byte) 0

def digest (bytes : List UInt8) : String :=
  let message := words bytes
  let r := (List.range (message.length / 16)).foldl
    (fun r index => compress r ((message.drop (16 * index)).take 16)) initial
  String.ofList ([r.a, r.b, r.c, r.d, r.e, r.f, r.g, r.h].flatMap fun word =>
    (List.range 8).map fun index => Nat.digitChar (word >>> (4 * (7 - index)) % 16))

example : digest (Text.utf8 "abc") =
    "ba7816bf8f01cfea414140de5dae2223b00361a396177a9cb410ff61f20015ad" := by decide +kernel

end Sha256

namespace Uuid

def hexValue (c : Char) : Option Nat :=
  if c.isDigit then some (c.toNat - 48)
  else if 'a' ≤ c ∧ c ≤ 'f' then some (c.toNat - 87)
  else if 'A' ≤ c ∧ c ≤ 'F' then some (c.toNat - 55)
  else none

-- The simple and the hyphenated forms.
def parse (text : String) : Option Uuid :=
  let characters := text.toList
  let hyphens := (List.range characters.length).filter fun index => characters[index]? = some '-'
  let digits := characters.filter (· ≠ '-')
  if digits.length = 32 ∧ (hyphens = [] ∨ hyphens = [8, 13, 18, 23]) then
    (digits.mapM hexValue).map fun values =>
      BitVec.ofNat 128 (values.foldl (fun number digit => number * 16 + digit) 0)
  else none

end Uuid

namespace Timestamp

-- Year, month and day of a day counted from 2000-01-01.
def civil (day : Int) : Int × Int × Int :=
  let shifted := day + 730425
  let era := shifted / 146097
  let dayOfEra := shifted % 146097
  let yearOfEra := (dayOfEra - dayOfEra / 1460 + dayOfEra / 36524 - dayOfEra / 146096) / 365
  let dayOfYear := dayOfEra - (365 * yearOfEra + yearOfEra / 4 - yearOfEra / 100)
  let month := (5 * dayOfYear + 2) / 153
  let year := yearOfEra + era * 400
  (if month < 10 then year else year + 1, if month < 10 then month + 3 else month - 9,
    dayOfYear - (153 * month + 2) / 5 + 1)

-- `timestamptz::text` in UTC; microseconds are counted from 2000-01-01.
def text (instant : Timestamp) : String :=
  let (year, month, day) := civil (instant / 86400000000)
  let second := (instant / 1000000 % 86400).toNat
  let micro := (instant % 1000000).toNat
  let fraction := ((Text.padded 6 micro).reverse.dropWhile (· = '0')).reverse
  String.ofList (Text.padded 4 year.toNat ++ '-' :: Text.padded 2 month.toNat ++ '-' ::
    Text.padded 2 day.toNat ++ ' ' :: Text.padded 2 (second / 3600) ++ ':' ::
    Text.padded 2 (second / 60 % 60) ++ ':' :: Text.padded 2 (second % 60) ++
    (if fraction = [] then [] else '.' :: fraction) ++ ['+', '0', '0'])

def last : Timestamp := 9223371331200000000

example : text 820746000500000 = "2026-01-03 09:00:00.5+00" := by decide +kernel

end Timestamp

/-- Everything the service takes from outside, as it is there. -/
def Platform.reference : Platform where
  parseUuid := Uuid.parse
  sha256 := Sha256.digest
  timestampText := Timestamp.text
  expiresAt now seconds :=
    let expires := now + seconds.val * 1000000
    if expires < Timestamp.last then some expires else none
  nonblank text := text.toList.any fun c => !Text.isWhitespace c
  idempotencyRetention := 86400

section Served

variable {platform : Platform}

theorem Ledger.Reachable.serveAll {ledger : Ledger} (reachable : ledger.Reachable platform)
    (idle : ledger.Idle) (attempts : List Attempt) :
    Ledger.Reachable platform (ledger.serveAll (engine platform) (handle platform) attempts) := by
  obtain ⟨_, labels, _, run⟩ := @System.Idle.serveAll _ _ _ _ _ _ _ _ (engine platform)
    (handle platform) _ idle attempts
  exact reachable.run run

instance (platform : Platform) : DecidableRel (engine platform).conflict :=
  inferInstanceAs (DecidableRel Lock.Conflict)

theorem Ledger.Reachable.performAll {ledger last : Ledger} (reachable : ledger.Reachable platform)
    (idle : ledger.Idle) {moves : List (Move Attempt)}
    (performed : ledger.performAll (engine platform) (handle platform) moves = some last) :
    last.Reachable platform := by
  obtain ⟨labels, _, run⟩ := System.performAll_sound idle.known performed
  exact reachable.run run

theorem Ledger.start_reachable (platform : Platform) (configuration : Configuration) :
    (Ledger.start configuration).Reachable platform :=
  ⟨configuration, [], .refl _⟩

end Served

namespace Sample

def resource (number : Nat) : Uuid := BitVec.ofNat 128 (0x40008000000000000000 + number)

def header (key : String) : HeaderMap := [("idempotency-key", Text.utf8 key)]

-- The requests are made one second after the other.
def attempt (clientId key : String) (number : Nat) (request : Request) : Attempt where
  clientId := clientId
  headers := header key
  request := request
  started := 820746000000000 + 1000000 * number
  ids := ⟨resource (16 * number), resource (16 * number + 1), resource (16 * number + 2)⟩

def account (number : Nat) (clientId currency balance : String) : Attempt :=
  attempt clientId "open" number (.createAccount (some ⟨currency, balance⟩))

def transfer (number : Nat) (clientId key : String) (source destination : Nat) (amount : String) :
    Attempt :=
  attempt clientId key number (.createTransfer (some ⟨(resource (16 * source)).hyphenated,
    (resource (16 * destination)).hyphenated, amount⟩))

def reversal (number : Nat) (clientId key : String) (original : Nat) : Attempt :=
  attempt clientId key number (.reverseTransfer (resource (16 * original)).hyphenated)

def configuration : Configuration where
  exchangeRates :=
    [⟨resource 1000, "EUR", "JPY", .finite 160250000000000, 820000000000000, 830000000000000⟩]
  fxFeeRules := [⟨resource 1001, none, none, 25, 820000000000000, 830000000000000⟩]

-- Alice and Bob hold euro, and Alice has paid Bob.
def paid : List Attempt :=
  [account 1 "alice" "EUR" "100.00", account 2 "bob" "EUR" "5.00", transfer 4 "alice" "pay" 1 2 "30.00"]

-- Bob gives the payment back.
def returned : List Attempt := paid ++ [reversal 6 "bob" "undo" 4]

-- Alice pays Carol in yen.
def exchanged : List Attempt :=
  [account 1 "alice" "EUR" "100.00", account 3 "carol" "JPY" "0", transfer 5 "alice" "pay" 1 3 "10.00"]

def ledger (attempts : List Attempt) : Ledger :=
  (Ledger.start configuration).serveAll (engine .reference) (handle .reference) attempts

theorem reachable (attempts : List Attempt) : (ledger attempts).Reachable .reference :=
  (Ledger.start_reachable .reference configuration).serveAll (Ledger.start_idle configuration) _

theorem idle (attempts : List Attempt) : (ledger attempts).Idle :=
  (System.Idle.serveAll (Ledger.start_idle configuration) attempts).1

def moves (id : Nat) (attempt : Attempt) (count : Nat) : List (Move Attempt) :=
  .begin id attempt :: List.replicate count (.advance id)

-- A retry changes nothing.
example : (ledger (returned ++ [transfer 8 "alice" "pay" 1 2 "30.00"])).store.accounts.map
    (fun row => (row.balanceMinor.val, row.version.val)) = [(10000, 2), (500, 2)] := by
  decide +kernel

example : (ledger exchanged).store.accounts.map (fun row => row.balanceMinor.val) =
    [8997, 1603] := by decide +kernel

end Sample

end LedgerService
