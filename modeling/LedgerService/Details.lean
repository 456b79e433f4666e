import LedgerService.Amounts
import LedgerService.Idempotence
import LedgerService.Denominations

set_option autoImplicit false

namespace LedgerService

open Transaction Literals

structure TransferDetailsResponse where
  id : Uuid
  sourceAccountId : Uuid
  destinationAccountId : Uuid
  sourceCurrency : String
  destinationCurrency : String
  sourceAmount : String
  destinationAmount : String
  feeAmount : String
  totalSourceDebit : String
  feeBps : Option Int
  exchangeRate : Option String
  exchangeRateId : Option Uuid
  kind : String
  reversesTransferId : Option Uuid
  createdAt : String
  deriving DecidableEq

/-- The transfer joined with its accounts, for the owner of one of them; of these only the scales. -/
def Db.selectTransferDetails (db : Db) (clientId : String) (id : Uuid) :
    Option (Transfer × Int × Int) :=
  match db.transfer? id with
  | none => none
  | some transfer =>
      match db.account? transfer.sourceAccountId, db.account? transfer.destinationAccountId with
      | some source, some destination =>
          if source.ownerId = clientId ∨ destination.ownerId = clientId then
            some (transfer, source.currencyScale, destination.currencyScale)
          else none
      | _, _ => none

def getTransfer (platform : Platform) (clientId : String) (transferId : String) (db : Db) :
    Except Failure TransferDetailsResponse := do
  let transferId ←
    orFailure (.validation "malformed_transfer_id" "The transfer ID is invalid")
      (platform.parseUuid transferId)
  let (row, sourceScale, destinationScale) ←
    orFailure (.app .notFound) (db.selectTransferDetails clientId transferId)
  let sourceAmount ← formatAmount row.sourceAmountMinor (asU8 sourceScale)
  let destinationAmount ← formatAmount row.destinationAmountMinor (asU8 destinationScale)
  let feeAmount ← formatAmount row.feeAmountMinor (asU8 sourceScale)
  let totalSourceDebit ← formatAmount row.totalSourceDebitMinor (asU8 sourceScale)
  .ok {
    id := transferId
    sourceAccountId := row.sourceAccountId
    destinationAccountId := row.destinationAccountId
    sourceCurrency := row.sourceCurrency
    destinationCurrency := row.destinationCurrency
    sourceAmount := sourceAmount
    destinationAmount := destinationAmount
    feeAmount := feeAmount
    totalSourceDebit := totalSourceDebit
    feeBps := row.feeBps
    exchangeRate := row.exchangeRate.map Numeric.text
    exchangeRateId := row.exchangeRateId
    kind := row.kind.asStr
    reversesTransferId := row.reversesTransferId
    createdAt := platform.timestampText row.createdAt }

section Decimals

variable {first second : I64} {scale scale' : Nat} {text text' : String}

theorem chars_of_formatted (bounded : scale ≤ 18) (shown : formatMinorUnits first scale = some text) :
    text.toList = (Literal.ofUnits first.val scale).chars := by
  rw [formatMinorUnits_eq bounded, Option.some.injEq] at shown
  rw [← shown, String.toList_ofList]

theorem value_ofUnits_eq_div (amount : Int) (scale : Nat) :
    (Literal.ofUnits amount scale).value = amount / 10 ^ scale := by
  have power : (10 : Rat) ^ scale ≠ 0 := pow_ne_zero _ (by norm_num)
  rw [eq_div_iff power]
  exact (value_ofUnits amount scale).symm

theorem sameDecimal_formatted (bounded : scale ≤ 18) (bounded' : scale' ≤ 18)
    (shown : formatMinorUnits first scale = some text)
    (shown' : formatMinorUnits second scale' = some text') :
    SameDecimal text text' ↔ first.val * 10 ^ scale' = second.val * 10 ^ scale := by
  have power : ∀ exponent : Nat, (10 : Rat) ^ exponent ≠ 0 := fun exponent =>
    pow_ne_zero _ (by norm_num)
  have same : (Literal.ofUnits first.val scale).value = (Literal.ofUnits second.val scale').value ↔
      first.val * 10 ^ scale' = second.val * 10 ^ scale := by
    rw [value_ofUnits_eq_div, value_ofUnits_eq_div, div_eq_div_iff (power _) (power _)]
    exact_mod_cast Iff.rfl
  rw [← same]
  constructor
  · rintro ⟨one, other, reads, reads', equal⟩
    obtain ⟨sign, whole, fractional⟩ :=
      Literal.chars_injective ((chars_of_formatted bounded shown).symm.trans reads)
    obtain ⟨sign', whole', fractional'⟩ :=
      Literal.chars_injective ((chars_of_formatted bounded' shown').symm.trans reads')
    simp only [Literal.value, Literal.digits, sign, whole, fractional, sign', whole', fractional']
    exact equal
  · intro equal
    exact ⟨_, _, chars_of_formatted bounded shown, chars_of_formatted bounded' shown', equal⟩

theorem sameDecimal_refl (bounded : scale ≤ 18) (shown : formatMinorUnits first scale = some text) :
    SameDecimal text text :=
  ⟨_, _, chars_of_formatted bounded shown, chars_of_formatted bounded shown, rfl⟩

theorem formatted_eq_iff (bounded : scale ≤ 18) (bounded' : scale' ≤ 18)
    (shown : formatMinorUnits first scale = some text)
    (shown' : formatMinorUnits second scale' = some text') :
    text = text' ↔ first.val = second.val ∧ scale = scale' := by
  constructor
  · rintro rfl
    have reads := chars_of_formatted bounded shown
    have reads' := chars_of_formatted bounded' shown'
    obtain ⟨_, _, fractional⟩ := Literal.chars_injective (reads.symm.trans reads')
    have scales : scale = scale' := by
      rw [← Literal.length_fractional_ofUnits first.val scale, fractional,
        Literal.length_fractional_ofUnits]
    subst scales
    have amounts := (sameDecimal_formatted bounded bounded shown shown').mp
      (sameDecimal_refl bounded shown)
    exact ⟨Int.eq_of_mul_eq_mul_right (by positivity) amounts, rfl⟩
  · rintro ⟨amounts, rfl⟩
    rw [I64.ext amounts, shown'] at shown
    exact (Option.some.inj shown).symm

end Decimals

/-- The fields of the details beside the fields of the answer that show the same amounts. -/
def TransferDetailsResponse.fields (details : TransferDetailsResponse) :
    TransferKind → List (String × String)
  | .transfer =>
      [("amount", details.sourceAmount), ("amount", details.destinationAmount),
        ("amount", details.totalSourceDebit)]
  | .fxTransfer =>
      [("source_amount", details.sourceAmount), ("destination_amount", details.destinationAmount),
        ("fee_amount", details.feeAmount), ("total_source_debit", details.totalSourceDebit)]
  | .reversal =>
      [("source_amount", details.sourceAmount), ("destination_amount", details.destinationAmount),
        ("original_fee_amount", details.feeAmount),
        ("total_source_debit", details.totalSourceDebit)]

/-- The two views agree; a transfer within one currency has no fee. -/
structure TransferDetailsResponse.Agrees (same : String → String → Prop)
    (details : TransferDetailsResponse) (kind : TransferKind) (body : Value) : Prop where
  fields : ∀ field ∈ details.fields kind, ∃ text, body.lookup field.1 = some text ∧
    same field.2 text
  noFee : kind = .transfer → SameDecimal details.feeAmount "0"

section Views

variable {platform : Platform} {db : Db} {transfer : Transfer} {source destination : Account}
  {clientId text : String} {details : TransferDetailsResponse} {body : Value}

structure Transfer.Detailed (transfer : Transfer) (source destination : Account)
    (details : TransferDetailsResponse) : Prop where
  sourceAmount : formatMinorUnits transfer.sourceAmountMinor (asU8 source.currencyScale) =
    some details.sourceAmount
  destinationAmount : formatMinorUnits transfer.destinationAmountMinor
    (asU8 destination.currencyScale) = some details.destinationAmount
  feeAmount : formatMinorUnits transfer.feeAmountMinor (asU8 source.currencyScale) =
    some details.feeAmount
  totalSourceDebit : formatMinorUnits transfer.totalSourceDebitMinor (asU8 source.currencyScale) =
    some details.totalSourceDebit

theorem getTransfer_participant (found : db.transfer? transfer.id = some transfer)
    (sourceFound : db.account? transfer.sourceAccountId = some source)
    (destinationFound : db.account? transfer.destinationAccountId = some destination)
    (sourceListed : source.Listed) (destinationListed : destination.Listed)
    (participant : source.ownerId = clientId ∨ destination.ownerId = clientId)
    (parsed : platform.parseUuid text = some transfer.id) :
    ∃ details, getTransfer platform clientId text db = .ok details ∧
      transfer.Detailed source destination details := by
  have row : db.selectTransferDetails clientId transfer.id =
      some (transfer, source.currencyScale, destination.currencyScale) := by
    simp [Db.selectTransferDetails, found, sourceFound, destinationFound, participant]
  have sourceShown := fun amount => formatMinorUnits_eq sourceListed.scale.2.2 amount
  have destinationShown := fun amount => formatMinorUnits_eq destinationListed.scale.2.2 amount
  generalize answered : getTransfer platform clientId text db = answer
  simp only [getTransfer, parsed, orFailure, formatAmount, row, sourceShown, destinationShown, bind,
    Except.bind] at answered
  subst answered
  exact ⟨_, rfl, sourceShown _, destinationShown _, sourceShown _, sourceShown _⟩

theorem shown_of_reported {name written : String} {amount : I64} {scale : Nat}
    (shown : body.Shows (name, amount, scale)) (formatted : formatMinorUnits amount scale = some written)
    {same : String → String → Prop} (reflexive : same written written) :
    ∃ text, body.lookup name = some text ∧ same written text := by
  obtain ⟨text, equal, found⟩ := shown
  obtain rfl : written = text := Option.some.inj (formatted.symm.trans equal)
  exact ⟨written, found, reflexive⟩

theorem Transfer.Detailed.agrees_iff {same : String → String → Prop}
    (reflexive : ∀ {amount scale text}, scale ≤ 18 → formatMinorUnits amount scale = some text →
      same text text)
    (sourceListed : source.Listed) (destinationListed : destination.Listed)
    (detailed : transfer.Detailed source destination details)
    (ordinary : transfer.kind = .transfer → OrdinaryTerms transfer ∧
      source.currencyScale = destination.currencyScale)
    (shown : ∀ field ∈ transfer.reported (asU8 source.currencyScale)
      (asU8 destination.currencyScale), body.Shows field) :
    details.Agrees same transfer.kind body ↔ (transfer.kind = .reversal → ∃ text,
      formatMinorUnits transfer.feeAmountMinor (asU8 destination.currencyScale) = some text ∧
        same details.feeAmount text) := by
  -- The fee of a reversal is the one amount that the views write at different scales.
  have sourceAmount := reflexive sourceListed.scale.2.2 detailed.sourceAmount
  have destinationAmount := reflexive destinationListed.scale.2.2 detailed.destinationAmount
  have fee := reflexive sourceListed.scale.2.2 detailed.feeAmount
  have total := reflexive sourceListed.scale.2.2 detailed.totalSourceDebit
  cases kind : transfer.kind with
  | transfer =>
    obtain ⟨terms, scales⟩ := ordinary kind
    simp only [Transfer.reported, kind, List.mem_singleton, forall_eq] at shown
    refine iff_of_true ⟨?_, fun _ => ?_⟩ (by simp)
    · intro field member
      simp only [TransferDetailsResponse.fields, List.mem_cons, List.not_mem_nil, or_false] at member
      rcases member with rfl | rfl | rfl
      · exact shown_of_reported shown detailed.sourceAmount sourceAmount
      · refine shown_of_reported shown ?_ destinationAmount
        rw [terms.sourceAmount, ← terms.destinationAmount, scales]
        exact detailed.destinationAmount
      · refine shown_of_reported shown ?_ total
        rw [terms.sourceAmount]
        exact detailed.totalSourceDebit
    · have zero : formatMinorUnits .zero 0 = some "0" := by decide
      rw [sameDecimal_formatted sourceListed.scale.2.2 (by decide) detailed.feeAmount zero,
        terms.fee]
      simp
  | fxTransfer =>
    refine iff_of_true ⟨?_, by simp⟩ (by simp)
    simp only [Transfer.reported, kind, List.mem_cons, List.not_mem_nil, or_false, forall_eq_or_imp,
      forall_eq] at shown
    obtain ⟨sourceShown, destinationShown, feeShown, totalShown⟩ := shown
    intro field member
    simp only [TransferDetailsResponse.fields, List.mem_cons, List.not_mem_nil, or_false] at member
    rcases member with rfl | rfl | rfl | rfl
    · exact shown_of_reported sourceShown detailed.sourceAmount sourceAmount
    · exact shown_of_reported destinationShown detailed.destinationAmount destinationAmount
    · exact shown_of_reported feeShown detailed.feeAmount fee
    · exact shown_of_reported totalShown detailed.totalSourceDebit total
  | reversal =>
    simp only [Transfer.reported, kind, List.mem_cons, List.not_mem_nil, or_false, forall_eq_or_imp,
      forall_eq] at shown
    obtain ⟨sourceShown, destinationShown, ⟨text, written, found⟩, totalShown⟩ := shown
    constructor
    · rintro agrees -
      obtain ⟨other, present, equal⟩ :=
        agrees.fields ("original_fee_amount", details.feeAmount) (by
          simp [TransferDetailsResponse.fields])
      obtain rfl : text = other := Option.some.inj (found.symm.trans present)
      exact ⟨text, written, equal⟩
    · intro feeShown
      obtain ⟨other, written', equal⟩ := feeShown rfl
      obtain rfl : text = other := Option.some.inj (written.symm.trans written')
      refine ⟨?_, by simp⟩
      intro field member
      simp only [TransferDetailsResponse.fields, List.mem_cons, List.not_mem_nil, or_false] at member
      rcases member with rfl | rfl | rfl | rfl
      · exact shown_of_reported sourceShown detailed.sourceAmount sourceAmount
      · exact shown_of_reported destinationShown detailed.destinationAmount destinationAmount
      · exact ⟨text, found, equal⟩
      · exact shown_of_reported totalShown detailed.totalSourceDebit total

end Views

section Scales

variable {source destination : Account}

theorem asU8_eq_iff (sourceListed : source.Listed) (destinationListed : destination.Listed) :
    asU8 source.currencyScale = asU8 destination.currencyScale ↔
      source.currencyScale = destination.currencyScale := by
  have first := sourceListed.scale.2.1
  have second := destinationListed.scale.2.1
  omega

theorem scaled_eq_iff {amount : Int} {scale scale' : Nat} :
    amount * 10 ^ scale' = amount * 10 ^ scale ↔ amount = 0 ∨ scale = scale' := by
  rw [mul_eq_mul_left_iff, pow_right_inj₀ (by decide) (by decide)]
  simp only [eq_comm, or_comm]

end Scales

/-- The details of a transfer agree with the answer of its `POST`, but for the fee of a reversal
between currencies of different scales. -/
theorem transfer_views_agree_iff {platform : Platform} {ledger : Ledger}
    (reachable : ledger.Reachable platform) {transfer : Transfer}
    (member : transfer ∈ ledger.store.transfers) {source destination : Account}
    (sourceFound : ledger.store.account? transfer.sourceAccountId = some source)
    (destinationFound : ledger.store.account? transfer.destinationAccountId = some destination)
    {clientId text : String} (participant : source.ownerId = clientId ∨ destination.ownerId = clientId)
    (parsed : platform.parseUuid text = some transfer.id) :
    ∃ details, getTransfer platform clientId text ledger.store = .ok details ∧
      (∃ attempt body writes, .committed attempt (.ok ⟨created, body⟩) writes ∈ ledger.history ∧
        .insertTransfer transfer ∈ writes) ∧
      ∀ attempt body status writes,
        .committed attempt (.ok ⟨status, body⟩) writes ∈ ledger.history →
        .insertTransfer transfer ∈ writes →
        (details.Agrees SameDecimal transfer.kind body ↔ transfer.kind ≠ .reversal ∨
          transfer.feeAmountMinor.val = 0 ∨ source.currencyScale = destination.currencyScale) ∧
        (details.Agrees Eq transfer.kind body ↔ transfer.kind ≠ .reversal ∨
          source.currencyScale = destination.currencyScale) := by
  have chronicle := reachable.chronicle
  have sourceListed := reachable.listed sourceFound
  have destinationListed := reachable.listed destinationFound
  obtain ⟨details, answer, detailed⟩ := getTransfer_participant (reachable.keyed.transfer member)
    sourceFound destinationFound sourceListed destinationListed participant parsed
  refine ⟨details, answer, ?_, ?_⟩
  · obtain ⟨attempt, reply, writes, committed, inserted⟩ := chronicle.posted transfer member
    obtain ⟨_, body, _, _, rfl, _⟩ := chronicle.told attempt reply writes transfer committed inserted
    exact ⟨attempt, body, writes, committed, inserted⟩
  · intro attempt body status writes committed inserted
    obtain ⟨_, body', source', destination', told, sourceFound', destinationFound', shown⟩ :=
      chronicle.told _ _ _ transfer committed inserted
    cases told
    obtain rfl : source = source' := Option.some.inj (sourceFound.symm.trans sourceFound')
    obtain rfl : destination = destination' :=
      Option.some.inj (destinationFound.symm.trans destinationFound')
    have ordinary : transfer.kind = .transfer → OrdinaryTerms transfer ∧
        source.currencyScale = destination.currencyScale := by
      intro kind
      obtain ⟨_, _, grounded⟩ := reachable.provenance.grounded transfer member
      have sameSource := Option.some.inj (sourceFound.symm.trans grounded.sourceFound)
      have sameDestination :=
        Option.some.inj (destinationFound.symm.trans grounded.destinationFound)
      subst sameSource sameDestination
      rcases grounded.terms with terms | fx | ⟨_, _, reverses⟩
      · refine ⟨terms, sourceListed.scale_eq destinationListed ?_⟩
        rw [grounded.sourceCurrency, grounded.destinationCurrency, terms.currencies]
      · rw [fx.kind] at kind
        cases kind
      · rw [reverses.kind] at kind
        cases kind
    have sourceBound := sourceListed.scale.2.2
    have destinationBound := destinationListed.scale.2.2
    have written := formatMinorUnits_eq destinationBound transfer.feeAmountMinor
    have fee : ∀ same : String → String → Prop, (∃ text, formatMinorUnits transfer.feeAmountMinor
        (asU8 destination.currencyScale) = some text ∧ same details.feeAmount text) ↔
        same details.feeAmount (String.ofList (Literal.ofUnits transfer.feeAmountMinor.val
          (asU8 destination.currencyScale)).chars) := by
      intro same
      simp [written]
    constructor
    · rw [detailed.agrees_iff sameDecimal_refl sourceListed destinationListed ordinary shown, fee,
        sameDecimal_formatted sourceBound destinationBound detailed.feeAmount written, scaled_eq_iff,
        asU8_eq_iff sourceListed destinationListed, imp_iff_not_or]
    · rw [detailed.agrees_iff (fun _ _ => rfl) sourceListed destinationListed ordinary shown, fee,
        formatted_eq_iff sourceBound destinationBound detailed.feeAmount written,
        asU8_eq_iff sourceListed destinationListed, imp_iff_not_or]
      simp

theorem transfer_views_agree_iff_paid :
    ∃ details, getTransfer .reference "alice" (Sample.resource 64).hyphenated
      (Sample.ledger Sample.paid).store = .ok details := by
  obtain ⟨shown, sourceShown, destinationShown, parsed⟩ :
      ((Sample.ledger Sample.paid).store.transfer? (Sample.resource 64)).map
          (fun row => (row.id, row.sourceAccountId, row.destinationAccountId)) =
        some (Sample.resource 64, Sample.resource 16, Sample.resource 32) ∧
      ((Sample.ledger Sample.paid).store.account? (Sample.resource 16)).map Account.ownerId =
        some "alice" ∧
      ((Sample.ledger Sample.paid).store.account? (Sample.resource 32)).isSome = true ∧
      Platform.reference.parseUuid (Sample.resource 64).hyphenated = some (Sample.resource 64) := by
    decide +kernel
  obtain ⟨transfer, found, same⟩ := Option.map_eq_some_iff.mp shown
  obtain ⟨id, sourceId, destinationId⟩ : transfer.id = Sample.resource 64 ∧
      transfer.sourceAccountId = Sample.resource 16 ∧
      transfer.destinationAccountId = Sample.resource 32 := by simpa using same
  obtain ⟨source, sourceFound, owner⟩ := Option.map_eq_some_iff.mp sourceShown
  obtain ⟨destination, destinationFound⟩ := Option.isSome_iff_exists.mp destinationShown
  rw [← sourceId] at sourceFound
  rw [← destinationId] at destinationFound
  obtain ⟨details, answer, _⟩ := transfer_views_agree_iff (Sample.reachable Sample.paid)
    (Table.mem_of_lookup found) sourceFound destinationFound (.inl owner)
    (parsed.trans (congrArg some id.symm))
  exact ⟨details, answer⟩

def Sample.refunded : List Attempt := exchanged ++ [reversal 7 "carol" "undo" 5]

theorem transfer_views_agree_iff_refunded :
    (Sample.ledger Sample.refunded).Reachable .reference ∧
      (((Sample.reversal 7 "carol" "undo" 5).answer .reference Sample.configuration
        (Sample.ledger Sample.exchanged).store).toOption.bind fun answer =>
          answer.1.toOption.bind fun success => success.body.lookup "original_fee_amount") =
        some "0.03" ∧
      ((getTransfer .reference "alice" (Sample.resource 112).hyphenated
        (Sample.ledger Sample.refunded).store).toOption.map fun details =>
          (details.kind, details.feeAmount)) = some ("reversal", "3") ∧
      ¬ SameDecimal "3" "0.03" := by
  -- The fee of three cents is returned as `0.03` and shown as `3`.
  have yen : formatMinorUnits ⟨3, by decide⟩ 0 = some "3" := by decide
  have cents : formatMinorUnits ⟨3, by decide⟩ 2 = some "0.03" := by decide
  refine ⟨Sample.reachable _, by decide +kernel, by decide +kernel, ?_⟩
  rw [sameDecimal_formatted (by decide) (by decide) yen cents]
  decide

end LedgerService
