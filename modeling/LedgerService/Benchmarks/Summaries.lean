import LedgerService.Metrics
import LedgerService.Primitives
import LedgerService.Regex

set_option autoImplicit false

/-!
# Metric snapshots of the summarizer

`benchmarks/summarize-results.py`: what it reads a rendered snapshot to, and the growth of a few
counters between two of them.
-/

namespace LedgerService.Benchmarks

open Regex Pattern

namespace Python

-- `str.isspace`, which is also `\s`.
def isSpace (c : Char) : Bool :=
  Text.isWhitespace c || (0x1C ≤ c.toNat && c.toNat ≤ 0x1F)

-- `str.strip`, given which characters it takes off.
def strip (off : Char → Bool) (text : List Char) : List Char :=
  ((text.dropWhile off).reverse.dropWhile off).reverse

def isVisible (c : Char) : Bool := !isSpace c

def isLineBoundary (c : Char) : Bool :=
  let code := c.toNat
  (0x0A ≤ code && code ≤ 0x0D) || (0x1C ≤ code && code ≤ 0x1E) || code = 0x85 || code = 0x2028 ||
    code = 0x2029

def splitlines : List Char → List (List Char)
  | [] => []
  | '\r' :: '\n' :: rest => [] :: splitlines rest
  | c :: rest =>
      if isLineBoundary c then [] :: splitlines rest
      else
        match splitlines rest with
        | [] => [[c]]
        | line :: more =>
            (c :: line) :: more

def utf8 (text : List Char) : List UInt8 := text.flatMap String.utf8EncodeChar

def hexDigit (byte : UInt8) : Option Nat :=
  if 48 ≤ byte ∧ byte ≤ 57 then some (byte.toNat - 48)
  else if 65 ≤ byte ∧ byte ≤ 70 then some (byte.toNat - 55)
  else if 97 ≤ byte ∧ byte ≤ 102 then some (byte.toNat - 87)
  else none

-- The character of a code point. A surrogate is none here.
def chr (code : Nat) : Option Char := if code.isValidChar then some (Char.ofNat code) else none

def isOctal (byte : UInt8) : Bool := 48 ≤ byte && byte ≤ 55

def escaped (named : List UInt8 → Option Char) : List UInt8 → Option (List Char × Nat)
  | [] => none
  | byte :: rest =>
      let hexadecimal (count : Nat) : Option (List Char × Nat) :=
        if rest.length < count then none
        else do
          let digits ← (rest.take count).mapM hexDigit
          let c ← chr (digits.foldl (fun value digit => 16 * value + digit) 0)
          pure ([c], count + 1)
      if byte = 10 then some ([], 1)
      else if byte = 92 ∨ byte = 39 ∨ byte = 34 then some ([Char.ofNat byte.toNat], 1)
      else if byte = 97 then some (['\x07'], 1)
      else if byte = 98 then some (['\x08'], 1)
      else if byte = 102 then some (['\x0c'], 1)
      else if byte = 110 then some (['\n'], 1)
      else if byte = 114 then some (['\r'], 1)
      else if byte = 116 then some (['\t'], 1)
      else if byte = 118 then some (['\x0b'], 1)
      else if byte = 120 then hexadecimal 2
      else if byte = 117 then hexadecimal 4
      else if byte = 85 then hexadecimal 8
      else if byte = 78 then
        match rest with
        | 123 :: more =>
            let name := more.takeWhile (· ≠ 125)
            if name = [] ∨ name.length = more.length then none
            else (named name).map fun c => ([c], name.length + 3)
        | _ => none
      else if isOctal byte then
        let digits := (byte :: rest.take 2).takeWhile isOctal
        let value := digits.foldl (fun value digit => 8 * value + (digit.toNat - 48)) 0
        some ([Char.ofNat value], digits.length)
      else some (['\\', Char.ofNat byte.toNat], 1)

/-- `decode("unicode_escape")`, from the byte after the given number of them on. -/
def decodeFrom (named : List UInt8 → Option Char) : Nat → List UInt8 → Option (List Char)
  | _, [] => some []
  | skipped + 1, _ :: rest => decodeFrom named skipped rest
  | 0, byte :: rest =>
      if byte = 92 then
        (escaped named rest).bind fun (text, taken) =>
          (decodeFrom named taken rest).map (text ++ ·)
      else (decodeFrom named 0 rest).map (Char.ofNat byte.toNat :: ·)

def unicodeEscape (named : List UInt8 → Option Char) (bytes : List UInt8) : Option (List Char) :=
  decodeFrom named 0 bytes

-- `dictionary[key] = value`.
def setItem (key value : List Char) : List (List Char × List Char) → List (List Char × List Char)
  | [] => [(key, value)]
  | entry :: more =>
      if entry.1 = key then (key, value) :: more else entry :: setItem key value more

/-- What the interpreter computes with: its floats and its names of characters. -/
structure Interpreter where
  Value : Type
  float : List Char → Option Value
  isfinite : Value → Bool
  zero : Value
  isZero : Value → Bool
  sum : List Value → Value
  sub : Value → Value → Value
  lt : Value → Value → Bool
  thousandfold : Value → Value
  div : Value → Value → Value
  named : List UInt8 → Option Char

end Python

open Python

-- `$`: the end, or the line feed before it.
def atEnd : Pattern Char := .ahead fun rest => rest = [] || rest = ['\n']

def space : Pattern Char := .one isSpace

def startsName (c : Char) : Bool := c.isAlpha || c = '_'

def continuesName (c : Char) : Bool := c.isAlphanum || c = '_'

def startsMetricName (c : Char) : Bool := startsName c || c = ':'

def continuesMetricName (c : Char) : Bool := continuesName c || c = ':'

def metricName : Pattern Char := .seq (.one startsMetricName) (.star (.one continuesMetricName))

def labelSet : Pattern Char :=
  .seq (.one (· = '{')) (.seq (.group 2 (.star (.one (· ≠ '}')))) (.one (· = '}')))

def measurement : Pattern Char :=
  .seq (plus space) (.seq (.group 3 (plus (.one isVisible)))
    (.seq (optional (.seq (plus space) (.star (.one (· ≠ '\n'))))) atEnd))

def SAMPLE : Pattern Char := .seq (.group 1 metricName) (.seq (optional labelSet) measurement)

def labelName : Pattern Char := .seq (.one startsName) (.star (.one continuesName))

def labelLetter : Pattern Char :=
  .alt (.seq (.one (· = '\\')) (.seq (.one (· = '\\')) (.one (· ≠ '\n'))))
    (.one fun c => c ≠ '"' && c ≠ '\\')

def LABEL : Pattern Char :=
  .seq (.group 1 labelName) (.seq (.one (· = '=')) (.seq (.one (· = '"'))
    (.seq (.group 2 (.star labelLetter)) (.one (· = '"')))))

inductive PythonError where
  | unicodeDecodeError
  deriving DecidableEq

variable (python : Interpreter)

def readLabels (labels : List (List Char × List Char)) :
    List (List Char × Match Char) → List Char →
      Except PythonError (Option (List (List Char × List Char)))
  | [], last => .ok (if strip (fun c => c = ',' || c = ' ') last ≠ [] then none else some labels)
  | (gap, found) :: more, last =>
      if strip (fun c => c = ',' || c = ' ') gap ≠ [] then .ok none
      else
        match unicodeEscape python.named (utf8 ((found.captured 2).getD [])) with
        | none => .error .unicodeDecodeError
        | some value => readLabels (setItem ((found.captured 1).getD []) value labels) more last

def readSample (line : List Char) : Except PythonError (Option (Sample python.Value)) :=
  match SAMPLE.firstMatch line with
  | none => .ok none
  | some found =>
      match python.float ((found.captured 3).getD []) with
      | none => .ok none
      | some value =>
          if ¬ python.isfinite value then .ok none
          else
            let sample labels : Sample python.Value :=
              { name := (found.captured 1).getD [], labels, value }
            match found.captured 2 with
            | none | some [] => .ok (some (sample []))
            | some rawLabels =>
                let (labels, last) := LABEL.finditer rawLabels
                (readLabels python [] labels last).map (Option.map sample)

def readLines : List (List Char) → Except PythonError (Option (List (Sample python.Value)))
  | [] => .ok (some [])
  | line :: more =>
      let stripped := strip isSpace line
      if stripped = [] ∨ stripped.head? = some '#' then readLines more
      else
        match readSample python stripped with
        | .error failure => .error failure
        | .ok none => .ok none
        | .ok (some sample) => (readLines more).map (Option.map (sample :: ·))

/-- `none` as the snapshot is anything but a string. -/
def parsePrometheus : Option (List Char) → Except PythonError (Option (List (Sample python.Value)))
  | none => .ok none
  | some snapshot => readLines python (splitlines snapshot)

section Differences

variable {python} (name : String) (labels : List (String × String))

def Sample.matches (sample : Sample python.Value) : Bool :=
  sample.name = name.toList &&
    labels.all fun (key, value) => sample.labels.lookup key.toList = some value.toList

def metricValue : Option (List (Sample python.Value)) → Option python.Value
  | none => none
  | some samples =>
      match (samples.filter (Sample.matches name labels)).map (·.value) with
      | [] => none
      | values => some (python.sum values)

def delta (before after : Option (List (Sample python.Value))) : Option python.Value :=
  match metricValue name labels before, metricValue name labels after with
  | some left, some right => if python.lt right left then none else some (python.sub right left)
  | _, _ => none

def deltaWithAbsentAsZero (before after : Option (List (Sample python.Value))) :
    Option python.Value :=
  match before, after with
  | some _, some _ =>
      let left := (metricValue name labels before).getD python.zero
      let right := (metricValue name labels after).getD python.zero
      if python.lt right left then none else some (python.sub right left)
  | _, _ => none

end Differences

structure MetricDeltas (Value : Type) where
  successfulTransferOperations : Option Value
  transferHttpRequests : Option Value
  transferHttpMeanMs : Option Value
  successfulTransferDbTransactions : Option Value
  successfulTransferDbMeanMs : Option Value
  successfulTransferPoolAcquires : Option Value
  successfulTransferPoolAcquireMeanMs : Option Value
  failedTransferPoolAcquires : Option Value
  failedTransferPoolAcquireMeanMs : Option Value

def meanMs (count sum : Option python.Value) : Option python.Value :=
  match count, sum with
  | some count, some sum =>
      if python.isZero count then none else some (python.div (python.thousandfold sum) count)
  | _, _ => none

def metricDeltas (beforeSnapshot afterSnapshot : Option (List Char)) :
    Except PythonError (MetricDeltas python.Value) := do
  let before ← parsePrometheus python beforeSnapshot
  let after ← parsePrometheus python afterSnapshot
  let transfer := [("operation", "transfer"), ("outcome", "success")]
  let failed := [("operation", "transfer"), ("outcome", "failure")]
  let posted := [("method", "POST"), ("route", "/transfers")]
  let operation := delta "ledger_operations_total" transfer before after
  let httpCount := delta "ledger_http_request_duration_seconds_count" posted before after
  let httpSum := delta "ledger_http_request_duration_seconds_sum" posted before after
  let dbCount := delta "ledger_database_transaction_duration_seconds_count" transfer before after
  let dbSum := delta "ledger_database_transaction_duration_seconds_sum" transfer before after
  let poolCount := delta "ledger_database_pool_acquire_duration_seconds_count" transfer before after
  let poolSum := delta "ledger_database_pool_acquire_duration_seconds_sum" transfer before after
  let poolFailureCount :=
    deltaWithAbsentAsZero "ledger_database_pool_acquire_duration_seconds_count" failed before after
  let poolFailureSum :=
    deltaWithAbsentAsZero "ledger_database_pool_acquire_duration_seconds_sum" failed before after
  pure
    { successfulTransferOperations := operation
      transferHttpRequests := httpCount
      transferHttpMeanMs := meanMs python httpCount httpSum
      successfulTransferDbTransactions := dbCount
      successfulTransferDbMeanMs := meanMs python dbCount dbSum
      successfulTransferPoolAcquires := poolCount
      successfulTransferPoolAcquireMeanMs := meanMs python poolCount poolSum
      failedTransferPoolAcquires := poolFailureCount
      failedTransferPoolAcquireMeanMs := meanMs python poolFailureCount poolFailureSum }

end LedgerService.Benchmarks
