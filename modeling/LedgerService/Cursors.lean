import LedgerService.History

set_option autoImplicit false

namespace LedgerService

section Hexadecimal

-- The digits `0`–`9`, `A`–`F` and `a`–`f`.
def isHexDigit (c : Char) : Bool := (Text.toHexDigit c).isSome

def hexValue (c : Char) : Nat := (Text.toHexDigit c).getD 0

def hexBytes : List Char → List UInt8
  | a :: b :: rest => UInt8.ofNat (16 * hexValue a + hexValue b) :: hexBytes rest
  | _ => []

theorem hexValue_lt (c : Char) : hexValue c < 16 := by
  unfold hexValue Text.toHexDigit
  split
  · rw [Option.getD_some]
    omega
  · split
    · rw [Option.getD_some]
      omega
    · split
      · rw [Option.getD_some]
        omega
      · decide

theorem hexDigit_digitChar {value : Nat} (small : value < 16) :
    Text.toHexDigit (Nat.digitChar value) = some value := by
  have all : ∀ value < 16, Text.toHexDigit (Nat.digitChar value) = some value := by decide
  exact all value small

theorem hexBytes_hexText (bytes : List UInt8) : hexBytes (hexText bytes) = bytes := by
  induction bytes with
  | nil => rfl
  | cons byte rest ih =>
    have bound := byte.toNat_lt
    have high := @hexDigit_digitChar (byte.toNat / 16) (by omega)
    have low := @hexDigit_digitChar (byte.toNat % 16) (by omega)
    have halves : 16 * (byte.toNat / 16) + byte.toNat % 16 = byte.toNat := Nat.div_add_mod _ 16
    unfold hexText at ih ⊢
    rw [List.flatMap_cons]
    simp only [List.cons_append, List.nil_append, hexBytes, hexValue, high, low, Option.getD_some,
      halves, ih, UInt8.ofNat_toNat]

theorem all_hexText (bytes : List UInt8) : (hexText bytes).all isHexDigit = true := by
  rw [List.all_eq_true]
  intro c member
  obtain ⟨byte, _, digit⟩ := List.mem_flatMap.mp member
  have bound := byte.toNat_lt
  simp only [List.mem_cons, List.not_mem_nil, or_false] at digit
  rcases digit with rfl | rfl
  · rw [isHexDigit, hexDigit_digitChar (by omega)]
    rfl
  · rw [isHexDigit, hexDigit_digitChar (by omega)]
    rfl

theorem length_hexText (bytes : List UInt8) : (hexText bytes).length = 2 * bytes.length := by
  induction bytes with
  | nil => rfl
  | cons byte rest ih =>
    unfold hexText at ih ⊢
    rw [List.flatMap_cons, List.length_append, ih]
    simp
    omega

theorem not_isAsciiHexdigit {byte : Nat} (high : 128 ≤ byte) (small : byte < 256) :
    Text.isAsciiHexdigit (UInt8.ofNat byte) = false := by
  -- The first byte of a longer character has its highest bit set, so it is no digit.
  have value : (UInt8.ofNat byte).toNat = byte := by
    rw [UInt8.toNat_ofNat']
    omega
  simp only [Text.isAsciiHexdigit, UInt8.le_iff_toNat_le, value, UInt8.toNat_ofNat,
    Bool.or_eq_false_iff, Bool.and_eq_false_iff, decide_eq_false_iff_not]
  omega

theorem isAsciiHexdigit_ascii {c : Char} (ascii : c.toNat ≤ 127) :
    Text.isAsciiHexdigit (UInt8.ofNat c.toNat) = isHexDigit c := by
  have value : (UInt8.ofNat c.toNat).toNat = c.toNat := by
    rw [UInt8.toNat_ofNat']
    omega
  simp only [Text.isAsciiHexdigit, UInt8.le_iff_toNat_le, value, UInt8.toNat_ofNat, isHexDigit,
    Text.toHexDigit]
  by_cases decimal : 48 ≤ c.toNat ∧ c.toNat ≤ 57
  · simp [decimal]
  by_cases upper : 65 ≤ c.toNat ∧ c.toNat ≤ 70
  · simp [decimal, upper]
  by_cases lower : 97 ≤ c.toNat ∧ c.toNat ≤ 102
  · simp [decimal, upper, lower]
  · simp only [decimal, upper, lower, if_false, Option.isSome_none, Bool.or_eq_false_iff,
      Bool.and_eq_false_iff, decide_eq_false_iff_not]
    omega

theorem isHexDigit_ascii {c : Char} (digit : isHexDigit c = true) : c.toNat ≤ 127 := by
  unfold isHexDigit Text.toHexDigit at digit
  split at digit
  · omega
  · split at digit
    · omega
    · split at digit
      · omega
      · cases digit

theorem all_isAsciiHexdigit (c : Char) :
    (String.utf8EncodeChar c).all Text.isAsciiHexdigit = isHexDigit c := by
  have value : c.val.toNat = c.toNat := rfl
  by_cases ascii : c.toNat ≤ 127
  · unfold String.utf8EncodeChar
    dsimp only
    rw [value, if_pos ascii, List.all_cons, List.all_nil, Bool.and_true,
      isAsciiHexdigit_ascii ascii]
  · have other : isHexDigit c = false := by
      rw [Bool.eq_false_iff]
      exact fun digit => ascii (isHexDigit_ascii digit)
    rw [other]
    unfold String.utf8EncodeChar
    dsimp only
    rw [value, if_neg ascii]
    split
    · rw [List.all_cons, not_isAsciiHexdigit (by omega) (by omega), Bool.false_and]
    · split
      · rw [List.all_cons, not_isAsciiHexdigit (by omega) (by omega), Bool.false_and]
      · rw [List.all_cons, not_isAsciiHexdigit (by omega) (by omega), Bool.false_and]

theorem all_bytes_isAsciiHexdigit (text : List Char) :
    (text.flatMap String.utf8EncodeChar).all Text.isAsciiHexdigit = text.all isHexDigit := by
  induction text with
  | nil => rfl
  | cons c rest ih => rw [List.flatMap_cons, List.all_append, all_isAsciiHexdigit, ih, List.all_cons]

end Hexadecimal

section Slices

variable {text : List Char}

theorem utf8Size_of_hexDigit {c : Char} (digit : isHexDigit c = true) : c.utf8Size = 1 := by
  rw [Char.utf8Size_eq_one_iff, UInt32.le_iff_toNat_le]
  exact isHexDigit_ascii digit

theorem byteLength_eq (digits : text.all isHexDigit = true) : Text.byteLength text = text.length := by
  induction text with
  | nil => rfl
  | cons c rest ih =>
    simp only [List.all_cons, Bool.and_eq_true] at digits
    have tail := ih digits.2
    unfold Text.byteLength at tail ⊢
    rw [List.map_cons, List.sum_cons, utf8Size_of_hexDigit digits.1, tail, List.length_cons]
    omega

theorem dropBytes_eq (digits : text.all isHexDigit = true) {count : Nat}
    (within : count ≤ text.length) : Text.dropBytes count text = some (text.drop count) := by
  induction text generalizing count with
  | nil =>
    obtain rfl : count = 0 := by simpa using within
    rfl
  | cons c rest ih =>
    cases count with
    | zero => rfl
    | succ count =>
      simp only [List.all_cons, Bool.and_eq_true] at digits
      rw [Text.dropBytes, utf8Size_of_hexDigit digits.1, if_pos (by omega), Nat.add_sub_cancel,
        ih digits.2 (by simpa using within), List.drop_succ_cons]

theorem takeBytes_eq (digits : text.all isHexDigit = true) {count : Nat}
    (within : count ≤ text.length) : Text.takeBytes count text = some (text.take count) := by
  induction text generalizing count with
  | nil =>
    obtain rfl : count = 0 := by simpa using within
    rfl
  | cons c rest ih =>
    cases count with
    | zero => rfl
    | succ count =>
      simp only [List.all_cons, Bool.and_eq_true] at digits
      rw [Text.takeBytes, utf8Size_of_hexDigit digits.1, if_pos (by omega), Nat.add_sub_cancel,
        ih digits.2 (by simpa using within), Option.map_some, List.take_succ_cons]

theorem slice_eq (digits : text.all isHexDigit = true) {index : Nat}
    (within : index + 2 ≤ text.length) :
    Text.slice index (index + 2) text = some ((text.drop index).take 2) := by
  have rest : (text.drop index).all isHexDigit = true := by
    rw [List.all_eq_true] at digits ⊢
    exact fun c member => digits c (List.mem_of_mem_drop member)
  rw [Text.slice, dropBytes_eq digits (by omega), Option.bind_some, Nat.add_sub_cancel_left,
    takeBytes_eq rest (by rw [List.length_drop]; omega)]

theorem u8FromStrRadix16_eq {a b : Char} (first : isHexDigit a = true) (second : isHexDigit b = true) :
    Text.u8FromStrRadix16 [a, b] = some (UInt8.ofNat (16 * hexValue a + hexValue b)) := by
  obtain ⟨high, read⟩ := Option.isSome_iff_exists.mp first
  obtain ⟨low, read'⟩ := Option.isSome_iff_exists.mp second
  have unsigned : Text.stripPlus [a, b] = [a, b] := by
    unfold Text.stripPlus
    split
    · rename_i same
      obtain ⟨rfl, _⟩ := List.cons.inj same
      exact absurd first (by decide)
    · rfl
  have large := hexValue_lt a
  have small := hexValue_lt b
  simp only [hexValue, read, read', Option.getD_some] at large small ⊢
  have digits : (Text.stripPlus [a, b]).mapM Text.toHexDigit = some [high, low] := by
    simp [unsigned, read, read']
  have value : [high, low].foldl (fun value digit => 16 * value + digit) 0 = 16 * high + low := by
    simp
  unfold Text.u8FromStrRadix16
  rw [digits]
  dsimp only
  rw [value, if_pos (by omega)]

end Slices

section Decoding

variable {serde : Serde} {digits : List Char}

theorem readByte_eq (hexadecimal : digits.all isHexDigit = true) {index : Nat} {a b : Char}
    {rest : List Char} (here : digits.drop index = a :: b :: rest) :
    readByte digits index = .ok (UInt8.ofNat (16 * hexValue a + hexValue b)) := by
  have within : index + 2 ≤ digits.length := by
    have length := congrArg List.length here
    simp only [List.length_drop, List.length_cons] at length
    omega
  have all : (digits.drop index).all isHexDigit = true := by
    rw [List.all_eq_true] at hexadecimal ⊢
    exact fun c member => hexadecimal c (List.mem_of_mem_drop member)
  simp only [here, List.all_cons, Bool.and_eq_true] at all
  unfold readByte
  rw [slice_eq hexadecimal within, here]
  simp only [List.take_succ_cons, List.take_zero, orFailure, bind, Except.bind]
  rw [u8FromStrRadix16_eq all.1 all.2.1]

theorem readBytes_eq (hexadecimal : digits.all isHexDigit = true) {count index : Nat}
    (even : (digits.drop index).length = 2 * count) :
    (List.range' index count 2).mapM (readByte digits) = .ok (hexBytes (digits.drop index)) := by
  -- The loop reads the rest of the digits, by induction on the number of pairs left.
  induction count generalizing index with
  | zero =>
    rw [List.length_eq_zero_iff.mp (by omega : (digits.drop index).length = 0)]
    rfl
  | succ count ih =>
    obtain ⟨a, b, rest, here⟩ : ∃ a b rest, digits.drop index = a :: b :: rest := by
      match digits.drop index, even with
      | a :: b :: rest, _ => exact ⟨a, b, rest, rfl⟩
    have next : digits.drop (index + 2) = rest := by
      rw [← List.drop_drop, here]
      rfl
    have tail := @ih (index + 2) (by
      rw [next]
      rw [here] at even
      simp only [List.length_cons] at even
      omega)
    rw [List.range'_succ, List.mapM_cons, readByte_eq hexadecimal here, tail, next, here]
    rfl

/-- A text of digits that `decode_cursor` takes for bytes. -/
structure Hexadecimal (digits : List Char) : Prop where
  nonempty : digits ≠ []
  even : digits.length % 2 = 0
  digits : digits.all isHexDigit = true

instance : Decidable (Hexadecimal digits) :=
  decidable_of_iff (digits ≠ [] ∧ digits.length % 2 = 0 ∧ digits.all isHexDigit = true)
    ⟨fun ⟨nonempty, even, digits⟩ => ⟨nonempty, even, digits⟩,
      fun ⟨nonempty, even, digits⟩ => ⟨nonempty, even, digits⟩⟩

theorem hexadecimal_iff :
    ¬ (digits = [] ∨ Text.byteLength digits % 2 ≠ 0 ∨
      ¬ (digits.flatMap String.utf8EncodeChar).all Text.isAsciiHexdigit) ↔ Hexadecimal digits := by
  rw [all_bytes_isAsciiHexdigit]
  constructor
  · intro valid
    simp only [not_or, not_not] at valid
    obtain ⟨nonempty, even, all⟩ := valid
    rw [byteLength_eq all] at even
    exact ⟨nonempty, even, all⟩
  · rintro ⟨nonempty, even, all⟩
    rw [byteLength_eq all]
    simp [nonempty, even, all]

theorem stripPrefix_eq_some {start text rest : List Char} :
    Text.stripPrefix start text = some rest ↔ text = start ++ rest := by
  induction start generalizing text with
  | nil => simp [Text.stripPrefix]
  | cons c start ih =>
    cases text with
    | nil => simp [Text.stripPrefix]
    | cons d text =>
      by_cases same : c = d
      · simp [Text.stripPrefix, same, ih]
      · simp [Text.stripPrefix, same, Ne.symm same]

theorem decodeCursor_eq (value : String) :
    decodeCursor serde value =
      match Text.stripPrefix "v1.".toList value.toList with
      | none => .error invalidCursor
      | some digits =>
          if Hexadecimal digits then
            match serde.fromSlice (hexBytes digits) with
            | none => .error invalidCursor
            | some cursor => if cursor.v = 1 then .ok cursor else .error invalidCursor
          else .error invalidCursor := by
  unfold decodeCursor
  cases Text.stripPrefix "v1.".toList value.toList with
  | none => rfl
  | some digits =>
    simp only [orFailure, bind, Except.bind, demand, hexadecimal_iff]
    by_cases valid : Hexadecimal digits
    · have pairs : digits.length = 2 * (digits.length / 2) := by
        have even := valid.even
        omega
      have read := @readBytes_eq _ valid.digits _ 0 (by rw [List.drop_zero]; exact pairs)
      rw [List.drop_zero] at read
      rw [if_pos valid, if_pos valid, byteLength_eq valid.digits, read]
      dsimp only
      cases serde.fromSlice (hexBytes digits) with
      | none => rfl
      | some cursor =>
        by_cases version : cursor.v = 1
        · simp [version]
        · simp [version]
    · rw [if_neg valid, if_neg valid]

theorem stripPrefix_marker {value : String} :
    Text.stripPrefix "v1.".toList value.toList = some digits ↔
      value.toList = "v1.".toList ++ digits :=
  stripPrefix_eq_some

theorem decodeCursor_eq_ok {value : String} {cursor : Cursor} :
    decodeCursor serde value = .ok cursor ↔
      ∃ digits, value.toList = "v1.".toList ++ digits ∧ Hexadecimal digits ∧
        serde.fromSlice (hexBytes digits) = some cursor ∧ cursor.v = 1 := by
  rw [decodeCursor_eq]
  constructor
  · intro decoded
    split at decoded
    · cases decoded
    · rename_i digits stripped
      split at decoded
      · rename_i valid
        split at decoded
        · cases decoded
        · rename_i found read
          split at decoded
          · rename_i version
            cases decoded
            exact ⟨digits, stripPrefix_marker.mp stripped, valid, read, version⟩
          · cases decoded
      · cases decoded
  · rintro ⟨digits, spelled, valid, read, version⟩
    rw [stripPrefix_marker.mpr spelled]
    simp [valid, read, version]

theorem decodeCursor_error {value : String} {failure : Failure}
    (failed : decodeCursor serde value = .error failure) : failure = invalidCursor := by
  rw [decodeCursor_eq] at failed
  split at failed
  · exact (Except.error.inj failed).symm
  · split at failed
    · split at failed
      · exact (Except.error.inj failed).symm
      · split at failed
        · cases failed
        · exact (Except.error.inj failed).symm
    · exact (Except.error.inj failed).symm

theorem toVec_ne_nil (serde : Serde) (cursor : Cursor) : serde.toVec cursor ≠ [] := by
  have opening : Text.utf8 "\x7b\"v\":" ≠ [] := by decide
  intro empty
  apply opening
  simp only [Serde.toVec, Text.utf8, String.toList_append, List.flatMap_append,
    List.append_eq_nil_iff] at empty ⊢
  simp_all only

theorem decodeCursor_encodeCursor {cursor : Cursor}
    (inverse : serde.fromSlice (serde.toVec cursor) = some cursor) (version : cursor.v = 1) :
    decodeCursor serde (encodeCursor serde cursor) = .ok cursor := by
  have bytes := hexBytes_hexText (serde.toVec cursor)
  refine decodeCursor_eq_ok.mpr ⟨hexText (serde.toVec cursor), String.toList_ofList, ⟨?_, ?_, ?_⟩,
    by rw [bytes, inverse], version⟩
  · intro empty
    rw [empty] at bytes
    exact toVec_ne_nil serde cursor bytes.symm
  · rw [length_hexText, Nat.mul_mod_right]
  · exact all_hexText _

end Decoding

section Queries

variable {platform : Platform} {serde : Serde}

def valuesOf (key : String) (parts : List (List Char × List Char)) : List (List Char) :=
  (parts.filter fun part => part.1 = key.toList).map Prod.snd

theorem valuesOf_cons (key : String) (part : List Char × List Char)
    (parts : List (List Char × List Char)) :
    valuesOf key (part :: parts) =
      if part.1 = key.toList then part.2 :: valuesOf key parts else valuesOf key parts := by
  by_cases here : part.1 = key.toList <;> simp [valuesOf, here]

theorem foldlM_read {parts : List (List Char × List Char)} {before after : Parameters}
    (counterparty : before.counterparty.toList ++ valuesOf "counterparty_account_id" parts =
      after.counterparty.toList)
    (limit : before.limit.toList ++ valuesOf "limit" parts = after.limit.toList)
    (cursor : before.cursor.toList ++ valuesOf "cursor" parts = after.cursor.toList) :
    parts.foldlM Parameters.read before = .ok after := by
  -- Another value of a parameter that has one would make a list of two.
  have once : ∀ {value : List Char} {old new : Option (List Char)} {more : List (List Char)},
      old.toList ++ value :: more = new.toList → old = none := by
    intro value old new more same
    cases old with
    | none => rfl
    | some _ => cases new <;> simp at same
  induction parts generalizing before with
  | nil =>
    have same : ∀ {old new : Option (List Char)}, old.toList = new.toList → old = new := by
      intro old new same
      cases old <;> cases new <;> simp_all
    simp only [valuesOf, List.filter_nil, List.map_nil, List.append_nil] at counterparty limit cursor
    have equal : before = after := by
      cases before
      cases after
      rw [Parameters.mk.injEq]
      exact ⟨same counterparty, same limit, same cursor⟩
    rw [equal]
    rfl
  | cons part parts ih =>
    obtain ⟨key, value⟩ := part
    rw [valuesOf_cons] at counterparty limit cursor
    rw [List.foldlM_cons]
    by_cases isCounterparty : key = "counterparty_account_id".toList
    · have notLimit : ¬ key = "limit".toList := by rw [isCounterparty]; decide
      have notCursor : ¬ key = "cursor".toList := by rw [isCounterparty]; decide
      rw [if_pos isCounterparty] at counterparty
      rw [if_neg notLimit] at limit
      rw [if_neg notCursor] at cursor
      have read : before.read (key, value) = .ok { before with counterparty := some value } := by
        simp [Parameters.read, isCounterparty, demand, once counterparty, bind, Except.bind]
      rw [read]
      apply @ih { before with counterparty := some value } _ limit cursor
      rw [once counterparty] at counterparty
      exact counterparty
    by_cases isLimit : key = "limit".toList
    · have notCursor : ¬ key = "cursor".toList := by rw [isLimit]; decide
      rw [if_neg isCounterparty] at counterparty
      rw [if_pos isLimit] at limit
      rw [if_neg notCursor] at cursor
      have read : before.read (key, value) = .ok { before with limit := some value } := by
        simp [Parameters.read, isLimit, demand, once limit, bind, Except.bind]
      rw [read]
      apply @ih { before with limit := some value } counterparty _ cursor
      rw [once limit] at limit
      exact limit
    rw [if_neg isCounterparty] at counterparty
    rw [if_neg isLimit] at limit
    by_cases isCursor : key = "cursor".toList
    · rw [if_pos isCursor] at cursor
      have read : before.read (key, value) = .ok { before with cursor := some value } := by
        simp [Parameters.read, isCursor, demand, once cursor, bind, Except.bind]
      rw [read]
      apply @ih { before with cursor := some value } counterparty limit
      rw [once cursor] at cursor
      exact cursor
    · rw [if_neg isCursor] at cursor
      have read : before.read (key, value) = .ok before := by
        simp only [Parameters.read, isCounterparty, isLimit, isCursor, if_false]
      rw [read]
      exact ih counterparty limit cursor

/-- The recognised parameters of a query other than the cursor, each at most once and valid. -/
structure ValidParts (platform : Platform) (parts : List (List Char × List Char))
    (counterparty : Option Uuid) (limit : I64) : Prop where
  counterparty : ∃ text, valuesOf "counterparty_account_id" parts = text.toList ∧
    transposed (parseCounterparty platform) text = .ok counterparty
  limit : ∃ text, valuesOf "limit" parts = text.toList ∧ parseLimit text = .ok limit

theorem parseQuery_eq {raw : Option String} {accountId : Uuid} {counterparty : Option Uuid}
    {limit : I64} {text : Option (List Char)}
    (valid : ValidParts platform (queryParts raw) counterparty limit)
    (carries : valuesOf "cursor" (queryParts raw) = text.toList) :
    parseQuery platform serde raw accountId =
      (transposed (fun value => decodeCursor serde (String.ofList value)) text).bind fun cursor =>
        if ∀ read ∈ cursor, accountId = read.accountId ∧ counterparty = read.counterpartyAccountId
        then .ok ⟨counterparty, limit, cursor⟩ else .error invalidCursor := by
  obtain ⟨counterpartyText, named, parsed⟩ := valid.counterparty
  obtain ⟨limitText, limited, parsedLimit⟩ := valid.limit
  have read := @foldlM_read _ ⟨none, none, none⟩ ⟨counterpartyText, limitText, text⟩ named limited
    carries
  unfold parseQuery
  rw [read]
  simp only [bind, Except.bind, parsed, parsedLimit]
  cases transposed (fun value => decodeCursor serde (String.ofList value)) text with
  | error failure => rfl
  | ok cursor =>
    have binding : (∀ read ∈ cursor, ¬ (read.accountId ≠ accountId ∨
        read.counterpartyAccountId ≠ counterparty)) ↔
        ∀ read ∈ cursor, accountId = read.accountId ∧ counterparty = read.counterpartyAccountId := by
      simp only [not_or, not_not, eq_comm]
    simp only [demand, binding]
    by_cases bound : ∀ read ∈ cursor, accountId = read.accountId ∧
        counterparty = read.counterpartyAccountId
    · rw [if_pos bound, if_pos bound]
    · rw [if_neg bound, if_neg bound]

end Queries

/-- Cursors are read back, are bound to the account and the filter of their page, and nothing else is
read as a cursor. -/
theorem cursor_codec (platform : Platform) (serde : Serde) :
    (∀ cursor, serde.fromSlice (serde.toVec cursor) = some cursor → cursor.v = 1 →
      decodeCursor serde (encodeCursor serde cursor) = .ok cursor ∧
      ∀ raw accountId counterparty limit,
        ValidParts platform (queryParts raw) counterparty limit →
        valuesOf "cursor" (queryParts raw) = [(encodeCursor serde cursor).toList] →
        (parseQuery platform serde raw accountId = .ok ⟨counterparty, limit, some cursor⟩ ↔
          accountId = cursor.accountId ∧ counterparty = cursor.counterpartyAccountId) ∧
        (¬ (accountId = cursor.accountId ∧ counterparty = cursor.counterpartyAccountId) →
          parseQuery platform serde raw accountId = .error invalidCursor)) ∧
    ∀ text : String,
      (∀ cursor, decodeCursor serde text = .ok cursor ↔
        ∃ digits, text.toList = "v1.".toList ++ digits ∧ digits ≠ [] ∧ digits.length % 2 = 0 ∧
          digits.all isHexDigit = true ∧ serde.fromSlice (hexBytes digits) = some cursor ∧
          cursor.v = 1) ∧
      ∀ failure, decodeCursor serde text = .error failure → failure = invalidCursor := by
  constructor
  · intro cursor inverse version
    have decoded := decodeCursor_encodeCursor inverse version
    refine ⟨decoded, ?_⟩
    intro raw accountId counterparty limit valid carries
    have parsed := @parseQuery_eq _ serde _ accountId _ _
      (some (encodeCursor serde cursor).toList) valid carries
    simp only [transposed, String.ofList_toList, decoded, Except.map, Except.bind, Option.mem_def,
      Option.some.injEq, forall_eq'] at parsed
    constructor
    · rw [parsed]
      split
      · simp [*]
      · simp [*]
    · intro unbound
      rw [parsed, if_neg unbound]
  · intro text
    refine ⟨fun cursor => ?_, fun failure => decodeCursor_error⟩
    rw [decodeCursor_eq_ok]
    constructor
    · rintro ⟨digits, spelled, valid, read, version⟩
      exact ⟨digits, spelled, valid.nonempty, valid.even, valid.digits, read, version⟩
    · rintro ⟨digits, spelled, nonempty, even, all, read, version⟩
      exact ⟨digits, spelled, ⟨nonempty, even, all⟩, read, version⟩

end LedgerService
