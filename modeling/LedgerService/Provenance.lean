import LedgerService.Books

set_option autoImplicit false

namespace LedgerService

open Transaction Bookkeeping

/-- What is known of a row of `transfers`, by the present rows of its accounts. -/
structure Grounded (configuration : Configuration) (db : Db) (transfer : Transfer)
    (source destination : Account) : Prop where
  sourceFound : db.account? transfer.sourceAccountId = some source
  destinationFound : db.account? transfer.destinationAccountId = some destination
  owner : source.ownerId = transfer.initiatedBy
  sourceCurrency : source.currency = transfer.sourceCurrency
  destinationCurrency : destination.currency = transfer.destinationCurrency
  distinct : transfer.sourceAccountId ≠ transfer.destinationAccountId
  terms : OrdinaryTerms transfer ∨ FxTerms configuration source destination transfer ∨
    ∃ original, db.transfer? original.id = some original ∧ Reverses original transfer

structure Provenance (configuration : Configuration) (db : Db) : Prop where
  grounded : ∀ transfer ∈ db.transfers, ∃ source destination,
    Grounded configuration db transfer source destination
  once : (db.transfers.filterMap Transfer.reversesTransferId).Nodup

section Evolution

variable {configuration configuration' : Configuration} {db db' : Db} {transfer : Transfer}
  {source destination source' destination' : Account}

theorem FxTerms.evolve (terms : FxTerms configuration source destination transfer)
    (within : configuration.Within configuration') (sameSource : source.SameHolder source')
    (sameDestination : destination.SameHolder destination') :
    FxTerms configuration' source' destination' transfer where
  kind := terms.kind
  currencies := terms.currencies
  rate := by
    obtain ⟨row, member, id, stored, sourceCurrency, destinationCurrency, valid, exact, parsed,
      converted⟩ := terms.rate
    rw [← sameSource.currencyScale, ← sameDestination.currencyScale] at converted
    exact ⟨row, within.exchangeRates member, id, stored, sourceCurrency, destinationCurrency, valid,
      exact, parsed, converted⟩
  fee := by
    obtain ⟨row, member, facts⟩ := terms.fee
    exact ⟨row, within.fxFeeRules member, facts⟩
  reverses := terms.reverses

theorem Grounded.evolve (grounded : Grounded configuration db transfer source destination)
    (within : configuration.Within configuration') (evolves : Evolves [] db db') :
    ∃ source' destination', Grounded configuration' db' transfer source' destination' := by
  obtain ⟨source', sourceFound, sameSource⟩ := evolves.account _ _ grounded.sourceFound
  obtain ⟨destination', destinationFound, sameDestination⟩ :=
    evolves.account _ _ grounded.destinationFound
  refine ⟨source', destination', sourceFound, destinationFound,
    sameSource.ownerId.trans grounded.owner, sameSource.currency.trans grounded.sourceCurrency,
    sameDestination.currency.trans grounded.destinationCurrency, grounded.distinct, ?_⟩
  rcases grounded.terms with ordinary | fx | ⟨original, found, reverses⟩
  · exact .inl ordinary
  · exact .inr (.inl (fx.evolve within sameSource sameDestination))
  · exact .inr (.inr ⟨original, evolves.transfer _ _ found, reverses⟩)

end Evolution

section Steps

variable {platform : Platform} {attempt : Attempt} {configuration : Configuration} {db : Db}
  {reply : Reply} {transfer : Transfer} {oldSource oldDestination source destination : Account}
  {debit credit : Uuid}

theorem Performed.grounded
    (performed : Performed attempt configuration db transfer oldSource oldDestination source
      destination debit credit) : Grounded configuration db transfer oldSource oldDestination where
  sourceFound := performed.sourceFound
  destinationFound := performed.destinationFound
  owner := performed.owner.trans performed.initiator.symm
  sourceCurrency := performed.sourceCurrency
  destinationCurrency := performed.destinationCurrency
  distinct := performed.distinct
  terms := by
    cases performed.terms with
    | ordinary _ _ terms => exact .inl terms
    | fx _ _ terms => exact .inr (.inl terms)
    | reversal _ original found _ terms => exact .inr (.inr ⟨original, found, terms⟩)

theorem Performed.reverses_once
    (performed : Performed attempt configuration db transfer oldSource oldDestination source
      destination debit credit) {original : Uuid}
    (reverses : transfer.reversesTransferId = some original) : db.reversed original = false := by
  cases performed.terms with
  | ordinary _ _ terms =>
    rw [terms.reverses] at reverses
    cases reverses
  | fx _ _ terms =>
    rw [terms.reverses] at reverses
    cases reverses
  | reversal _ row _ first terms =>
    rw [terms.reverses] at reverses
    cases reverses
    exact first

theorem Provenance.after (provenance : Provenance configuration db) {effect : Effect}
    (holds : effect.Holds platform attempt configuration db reply) :
    Provenance configuration (db.after effect) := by
  have old : ∀ transfer ∈ db.transfers, ∃ source destination,
      Grounded configuration (db.after effect) transfer source destination := by
    intro transfer member
    obtain ⟨source, destination, grounded⟩ := provenance.grounded transfer member
    exact grounded.evolve (.refl configuration) (evolves_after holds)
  have evolves := evolves_after holds
  cases effect with
  | replayed => exact provenance
  | opened record account => exact ⟨old, provenance.once⟩
  | posted record transfer source destination debit credit =>
    obtain ⟨oldSource, oldDestination, posted⟩ := holds
    have performed := posted.performed
    refine ⟨?_, ?_⟩
    · intro other member
      rcases List.mem_append.mp member with earlier | new
      · exact old other earlier
      · obtain rfl := List.mem_singleton.mp new
        exact performed.grounded.evolve (.refl configuration) evolves
    · cases reverses : transfer.reversesTransferId with
      | none => simpa [Db.after, reverses] using provenance.once
      | some original =>
        have first := performed.reverses_once reverses
        simp only [Db.reversed, List.any_eq_false, decide_eq_true_eq] at first
        simp only [Db.after, List.filterMap_append, List.filterMap_cons, reverses,
          List.filterMap_nil, List.nodup_append, List.mem_singleton]
        refine ⟨provenance.once, by simp, ?_⟩
        rintro wanted member _ rfl rfl
        obtain ⟨row, rowMember, reversed⟩ := List.mem_filterMap.mp member
        exact first row rowMember reversed

end Steps

theorem provenance_inductive (platform : Platform) :
    Inductive platform fun configuration db _ => Provenance configuration db where
  empty _ := ⟨by simp [Db.empty], List.nodup_nil⟩
  after _ provenance holds := provenance.after holds
  setStatus := by
    intro configuration db history id status _ provenance
    refine ⟨?_, provenance.once⟩
    intro transfer member
    obtain ⟨source, destination, grounded⟩ := provenance.grounded transfer member
    exact grounded.evolve (.refl configuration) (evolves_setStatus platform db id status)
  grown := by
    intro configuration configuration' db history operator within provenance
    refine ⟨?_, provenance.once⟩
    intro transfer member
    obtain ⟨source, destination, grounded⟩ := provenance.grounded transfer member
    exact grounded.evolve within (.refl [] db)

theorem Ledger.Reachable.provenance {platform : Platform} {ledger : Ledger}
    (reachable : ledger.Reachable platform) : Provenance ledger.reference ledger.store :=
  (reachable.induction (provenance_inductive platform)).2

section Reversals

variable {configuration : Configuration} {db : Db} {transfer original : Transfer}

theorem Provenance.reverses (provenance : Provenance configuration db) (keyed : Keyed db)
    (member : transfer ∈ db.transfers) (originalMember : original ∈ db.transfers)
    (named : transfer.reversesTransferId = some original.id) : Reverses original transfer := by
  obtain ⟨source, destination, grounded⟩ := provenance.grounded transfer member
  rcases grounded.terms with ordinary | fx | ⟨other, found, reverses⟩
  · rw [ordinary.reverses] at named
    cases named
  · rw [fx.reverses] at named
    cases named
  · rw [reverses.reverses] at named
    have same : other.id = original.id := Option.some.inj named
    rw [same, keyed.transfer originalMember] at found
    cases found
    exact reverses

theorem Grounded.total {source destination : Account}
    (grounded : Grounded configuration db transfer source destination)
    (notReversal : transfer.kind ≠ .reversal) :
    transfer.totalSourceDebitMinor.val =
      transfer.sourceAmountMinor.val + transfer.feeAmountMinor.val := by
  rcases grounded.terms with ordinary | fx | ⟨_, _, reverses⟩
  · exact ordinary.total
  · exact fx.total
  · exact absurd reverses.kind notReversal

theorem Grounded.reversal_iff {source destination : Account}
    (grounded : Grounded configuration db transfer source destination) :
    transfer.kind = .reversal ↔ transfer.reversesTransferId ≠ none := by
  rcases grounded.terms with ordinary | fx | ⟨_, _, reverses⟩
  · simp [ordinary.kind, ordinary.reverses]
  · simp [fx.kind, fx.reverses]
  · simp [reverses.kind, reverses.reverses]

end Reversals

end LedgerService
