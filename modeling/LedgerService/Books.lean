import LedgerService.Bookkeeping
import LedgerService.Reachability

set_option autoImplicit false

namespace LedgerService

open Transaction Bookkeeping

namespace Transfer

def movement (transfer : Transfer) : Movement Uuid :=
  ⟨transfer.sourceAccountId, transfer.destinationAccountId, transfer.totalSourceDebitMinor.val,
    transfer.destinationAmountMinor.val⟩

def exchange (transfer : Transfer) : Movement String :=
  ⟨transfer.sourceCurrency, transfer.destinationCurrency, transfer.totalSourceDebitMinor.val,
    transfer.destinationAmountMinor.val⟩

end Transfer

def amounts (keep : AccountEntry → Bool) (entries : List AccountEntry) : Int :=
  ((entries.filter keep).map fun entry => entry.amountMinor.val).sum

section Amounts

variable {keep : AccountEntry → Bool}

@[simp] theorem amounts_nil : amounts keep [] = 0 := rfl

@[simp] theorem amounts_append (entries more : List AccountEntry) :
    amounts keep (entries ++ more) = amounts keep entries + amounts keep more := by
  simp [amounts]

@[simp] theorem amounts_singleton (entry : AccountEntry) :
    amounts keep [entry] = if keep entry then entry.amountMinor.val else 0 := by
  cases kept : keep entry <;> simp [amounts, kept]

theorem amounts_nonnegative {entries : List AccountEntry}
    (positive : ∀ entry ∈ entries, 0 < entry.amountMinor.val) : 0 ≤ amounts keep entries := by
  induction entries with
  | nil => simp
  | cons entry rest ih =>
    have later := ih fun other member => positive other (List.mem_cons_of_mem _ member)
    have here := positive entry List.mem_cons_self
    have split : amounts keep (entry :: rest) = amounts keep [entry] + amounts keep rest :=
      amounts_append [entry] rest
    rw [split, amounts_singleton]
    split <;> omega

end Amounts

def net (id : Uuid) (entries : List AccountEntry) : Int :=
  amounts (fun entry => entry.accountId = id ∧ entry.direction = .credit) entries -
    amounts (fun entry => entry.accountId = id ∧ entry.direction = .debit) entries

theorem net_filter_or {first second : Uuid} (apart : first ≠ second) (id : Uuid)
    (entries : List AccountEntry) :
    net id (entries.filter fun entry => entry.transferId = first ∨ entry.transferId = second) =
      net id (entries.filter fun entry => entry.transferId = first) +
        net id (entries.filter fun entry => entry.transferId = second) := by
  have split : ∀ keep, amounts keep (entries.filter fun entry =>
      entry.transferId = first ∨ entry.transferId = second) =
        amounts keep (entries.filter fun entry => entry.transferId = first) +
          amounts keep (entries.filter fun entry => entry.transferId = second) := by
    intro keep
    induction entries with
    | nil => rfl
    | cons entry rest ih =>
      have cons : ∀ chosen : List AccountEntry, amounts keep (entry :: chosen) =
          (if keep entry then entry.amountMinor.val else 0) + amounts keep chosen := by
        intro chosen
        rw [← amounts_singleton, ← amounts_append, List.singleton_append]
      by_cases isFirst : entry.transferId = first
      · simp only [List.filter_cons, isFirst, true_or, decide_true, if_true, apart, decide_false,
          Bool.false_eq_true, if_false, cons, ih]
        omega
      · by_cases isSecond : entry.transferId = second
        · simp only [List.filter_cons, isSecond, or_true, decide_true, if_true, Ne.symm apart,
            decide_false, Bool.false_eq_true, if_false, cons, ih]
          omega
        · simp only [List.filter_cons, isFirst, isSecond, or_self, decide_false, Bool.false_eq_true,
            if_false, ih]
  simp only [net, split]
  omega

namespace Db

def entriesOf (db : Db) (id : Uuid) : List AccountEntry :=
  db.accountEntries.filter fun entry => entry.accountId = id

def credits (db : Db) (id : Uuid) : Int :=
  amounts (fun entry => entry.accountId = id ∧ entry.direction = .credit) db.accountEntries

def debits (db : Db) (id : Uuid) : Int :=
  amounts (fun entry => entry.accountId = id ∧ entry.direction = .debit) db.accountEntries

def reversalDebits (db : Db) (id : Uuid) : Int :=
  amounts (fun entry => entry.accountId = id ∧ entry.direction = .debit ∧
    entry.operationKind = .reversal) db.accountEntries

end Db

def totalIn (currency : String) (accounts : List Account) : Int :=
  (accounts.map fun row => if row.currency = currency then row.balanceMinor.val else 0).sum

@[simp] theorem totalIn_append (currency : String) (accounts more : List Account) :
    totalIn currency (accounts ++ more) = totalIn currency accounts + totalIn currency more := by
  simp [totalIn]

inductive Booked : List Transfer → List AccountEntry → Prop
  | none : Booked [] []
  | booked {transfers : List Transfer} {entries : List AccountEntry}
      (before : Booked transfers entries) (transfer : Transfer) (debit credit : Uuid) :
      Booked (transfers ++ [transfer])
        (entries ++ [transfer.debitEntry debit] ++ [transfer.creditEntry credit])

namespace Booked

variable {transfers : List Transfer} {entries : List AccountEntry}

theorem net_eq_flow (booked : Booked transfers entries) (id : Uuid) :
    net id entries = flow Transfer.movement transfers id := by
  induction booked with
  | none => rfl
  | booked before transfer debit credit ih =>
    have debited : (transfer.debitEntry debit).direction = .debit := rfl
    have credited : (transfer.creditEntry credit).direction = .credit := rfl
    have onSource : (transfer.debitEntry debit).accountId = transfer.sourceAccountId := rfl
    have onDestination : (transfer.creditEntry credit).accountId = transfer.destinationAccountId := rfl
    have moved : transfer.movement.on id =
        (if transfer.destinationAccountId = id then transfer.destinationAmountMinor.val else 0) -
          if transfer.sourceAccountId = id then transfer.totalSourceDebitMinor.val else 0 := rfl
    simp only [net, amounts_append, amounts_singleton, flow_append, flow_singleton, moved, ← ih,
      debited, credited, onSource, onDestination]
    by_cases isSource : transfer.sourceAccountId = id <;>
      by_cases isDestination : transfer.destinationAccountId = id <;>
        simp [isSource, isDestination, Transfer.debitEntry, Transfer.creditEntry] <;> omega

theorem length_eq_touches (booked : Booked transfers entries) (id : Uuid) :
    (entries.filter fun entry => entry.accountId = id).length =
      touches Transfer.movement transfers id := by
  induction booked with
  | none => rfl
  | booked before transfer debit credit ih =>
    have onSource : (transfer.debitEntry debit).accountId = transfer.sourceAccountId := rfl
    have onDestination : (transfer.creditEntry credit).accountId = transfer.destinationAccountId := rfl
    have touched : transfer.movement.touches id =
        (if transfer.sourceAccountId = id then 1 else 0) +
          if transfer.destinationAccountId = id then 1 else 0 := rfl
    simp only [List.filter_append, List.length_append, touches_append, touches_singleton, ← ih, touched,
      List.filter_cons, List.filter_nil, onSource, onDestination, decide_eq_true_eq]
    by_cases isSource : transfer.sourceAccountId = id <;>
      by_cases isDestination : transfer.destinationAccountId = id <;>
        simp [isSource, isDestination]

theorem origin (booked : Booked transfers entries) {entry : AccountEntry} (member : entry ∈ entries) :
    ∃ transfer ∈ transfers,
      entry = transfer.debitEntry entry.id ∨ entry = transfer.creditEntry entry.id := by
  induction booked with
  | none => cases member
  | booked before transfer debit credit ih =>
    simp only [List.append_assoc, List.mem_append, List.mem_singleton] at member
    rcases member with old | rfl | rfl
    · obtain ⟨transfer, known, facts⟩ := ih old
      exact ⟨transfer, List.mem_append_left _ known, facts⟩
    · exact ⟨transfer, by simp, .inl rfl⟩
    · exact ⟨transfer, by simp, .inr rfl⟩

theorem transferId_mem (booked : Booked transfers entries) {entry : AccountEntry}
    (member : entry ∈ entries) : entry.transferId ∈ transfers.map Transfer.id := by
  obtain ⟨transfer, known, origin⟩ := booked.origin member
  have named : entry.transferId = transfer.id := by
    rcases origin with same | same <;> rw [same] <;> rfl
  exact named ▸ List.mem_map_of_mem known

theorem entries_of (booked : Booked transfers entries) (unique : (transfers.map Transfer.id).Nodup)
    {transfer : Transfer} (member : transfer ∈ transfers) :
    ∃ debit credit, entries.filter (fun entry => entry.transferId = transfer.id) =
      [transfer.debitEntry debit, transfer.creditEntry credit] := by
  induction booked with
  | none => cases member
  | @booked transfers entries before last debit credit ih =>
    rw [List.map_append, List.nodup_append] at unique
    obtain ⟨earlier, _, apart⟩ := unique
    simp only [List.filter_append, List.filter_cons, List.filter_nil, Transfer.debitEntry,
      Transfer.creditEntry]
    rcases List.mem_append.mp member with old | new
    · obtain ⟨debit, credit, found⟩ := ih earlier old
      have other : last.id ≠ transfer.id :=
        (apart _ (List.mem_map_of_mem old) _ (by simp)).symm
      exact ⟨debit, credit, by simp [found, other, Transfer.debitEntry, Transfer.creditEntry]⟩
    · obtain rfl := List.mem_singleton.mp new
      have none : entries.filter (fun entry => entry.transferId = transfer.id) = [] := by
        rw [List.filter_eq_nil_iff]
        intro entry entryMember
        simpa using apart _ (before.transferId_mem entryMember) _ (by simp)
      exact ⟨debit, credit, by simp [none]⟩

end Booked

def openedBy : Ledger.Event → List Account
  | .committed _ _ writes =>
      writes.filterMap fun
        | .insertAccount row => some row
        | _ => none
  | .operated _ => []

def openings (history : List Ledger.Event) : List Account := history.flatMap openedBy

@[simp] theorem openings_append (history : List Ledger.Event) (event : Ledger.Event) :
    openings (history ++ [event]) = openings history ++ openedBy event := by
  simp [openings]

@[simp] theorem openedBy_effect (attempt : Attempt) (reply : Reply) (effect : Effect) :
    openedBy (.committed attempt reply effect.writes) =
      match effect with
      | .opened _ account => [account]
      | _ => [] := by
  cases effect <;> rfl

@[simp] theorem openedBy_operated (operator : Operator) : openedBy (.operated operator) = [] := rfl

theorem booked_inductive (platform : Platform) :
    Inductive platform fun _ db _ => Booked db.transfers db.accountEntries where
  empty _ := .none
  after := by
    intro attempt configuration db history reply effect _ booked _
    cases effect with
    | posted record transfer source destination debit credit =>
      exact booked.booked transfer debit credit
    | _ => exact booked
  setStatus _ _ _ booked := booked
  grown _ _ booked := booked

theorem Ledger.Reachable.booked {platform : Platform} {ledger : Ledger}
    (reachable : ledger.Reachable platform) :
    Booked ledger.store.transfers ledger.store.accountEntries :=
  (reachable.induction (booked_inductive platform)).2

section Moves

variable {platform : Platform} {attempt : Attempt} {configuration : Configuration} {db : Db}
  {transfer : Transfer} {oldSource oldDestination source destination : Account}
  {debit credit : Uuid}

theorem Performed.moved_source
    (performed : Performed attempt configuration db transfer oldSource oldDestination source
      destination debit credit) :
    oldSource.MovedBy source (transfer.movement.on transfer.sourceAccountId) := by
  rw [show transfer.movement.on transfer.sourceAccountId = -transfer.totalSourceDebitMinor.val from
    transfer.movement.on_source performed.distinct]
  exact performed.sourceMoved

theorem Performed.moved_destination
    (performed : Performed attempt configuration db transfer oldSource oldDestination source
      destination debit credit) :
    oldDestination.MovedBy destination (transfer.movement.on transfer.destinationAccountId) := by
  rw [show transfer.movement.on transfer.destinationAccountId = transfer.destinationAmountMinor.val
    from transfer.movement.on_destination performed.distinct]
  exact performed.destinationMoved

theorem Performed.account_after
    (performed : Performed attempt configuration db transfer oldSource oldDestination source
      destination debit credit) {record : IdempotencyRecord} {id : Uuid} {account : Account}
    (found : (db.after (.posted record transfer source destination debit credit)).account? id =
      some account) :
    ∃ old, db.account? id = some old ∧ old.SameHolder account ∧
      account.balanceMinor.val = old.balanceMinor.val + transfer.movement.on id ∧
      account.version.val = old.version.val + transfer.movement.touches id ∧
      ((id = transfer.sourceAccountId ∧ old = oldSource ∧ account = source) ∨
        (id = transfer.destinationAccountId ∧ old = oldDestination ∧ account = destination) ∨
        (id ≠ transfer.sourceAccountId ∧ id ≠ transfer.destinationAccountId ∧ account = old)) := by
  have apart := performed.distinct
  rw [Db.account?_after] at found
  simp only [Option.map_map, Option.map_eq_some_iff, Function.comp_apply, performed.source_id,
    performed.destination_id] at found
  obtain ⟨old, before, same⟩ := found
  by_cases isSource : transfer.sourceAccountId = id
  · have notDestination : transfer.destinationAccountId ≠ id :=
      fun clash => apart (isSource.trans clash.symm)
    simp only [isSource, if_true, notDestination, if_false] at same
    subst same isSource
    obtain rfl : oldSource = old := Option.some.inj (performed.sourceFound.symm.trans before)
    have moved := performed.moved_source
    refine ⟨oldSource, before, moved.sameHolder, moved.balance, ?_, .inl ⟨rfl, rfl, rfl⟩⟩
    rw [moved.version]
    simp [Movement.touches, Transfer.movement, notDestination]
  · by_cases isDestination : transfer.destinationAccountId = id
    · simp only [isDestination, if_true] at same
      subst same isDestination
      obtain rfl : oldDestination = old :=
        Option.some.inj (performed.destinationFound.symm.trans before)
      have moved := performed.moved_destination
      refine ⟨oldDestination, before, moved.sameHolder, moved.balance, ?_, .inr (.inl ⟨rfl, rfl, rfl⟩)⟩
      rw [moved.version]
      simp [Movement.touches, Transfer.movement, isSource]
    · simp only [isSource, if_false, isDestination] at same
      subst same
      refine ⟨old, before, .refl old, ?_, ?_, .inr (.inr ⟨Ne.symm isSource, Ne.symm isDestination, rfl⟩)⟩
      · rw [transfer.movement.on_of_untouched id isSource isDestination, Int.add_zero]
      · simp [Movement.touches, Transfer.movement, isSource, isDestination]

theorem Performed.account_before
    (performed : Performed attempt configuration db transfer oldSource oldDestination source
      destination debit credit) (record : IdempotencyRecord) {id : Uuid} {old : Account}
    (found : db.account? id = some old) :
    ∃ account, (db.after (.posted record transfer source destination debit credit)).account? id =
        some account ∧
      account.balanceMinor.val = old.balanceMinor.val + transfer.movement.on id := by
  have present : ∃ account, (db.after
      (.posted record transfer source destination debit credit)).account? id = some account := by
    rw [Db.account?_after, found]
    exact ⟨_, rfl⟩
  obtain ⟨account, present⟩ := present
  obtain ⟨before, sameId, _, balance, _⟩ := performed.account_after present
  obtain rfl : old = before := Option.some.inj (found.symm.trans sameId)
  exact ⟨account, present, balance⟩

theorem Performed.credits (performed : Performed attempt configuration db transfer oldSource
    oldDestination source destination debit credit) {id : Uuid}
    (other : id ≠ transfer.sourceAccountId) : 0 ≤ transfer.movement.on id := by
  have positive := performed.destinationAmount
  by_cases isDestination : transfer.destinationAccountId = id
  · simp [Movement.on, Transfer.movement, other.symm, isDestination]
    omega
  · simp [Movement.on, Transfer.movement, other.symm, isDestination]

theorem calculateFee_total {sourceMinor : I64} {feeBps : Int} {fee : FeeCalculation}
    (calculated : calculateFee sourceMinor feeBps = .ok fee) :
    fee.totalSourceDebitMinor.val = sourceMinor.val + fee.feeMinor.val := by
  unfold calculateFee at calculated
  split at calculated
  · cases calculated
  · simp only [bind_eq_ok, Except.ok.injEq] at calculated
    obtain ⟨_, _, feeMinor, _, total, summed, rfl⟩ := calculated
    unfold orOverflow at summed
    split at summed
    · cases summed
      exact I64.checkedAdd_eq_some.mp ‹_›
    · cases summed

theorem FxTerms.total {transfer : Transfer}
    (terms : FxTerms configuration source destination transfer) :
    transfer.totalSourceDebitMinor.val =
      transfer.sourceAmountMinor.val + transfer.feeAmountMinor.val := by
  obtain ⟨_, _, _, _, calculated⟩ := terms.fee
  exact calculateFee_total calculated

theorem OrdinaryTerms.total {transfer : Transfer} (terms : OrdinaryTerms transfer) :
    transfer.totalSourceDebitMinor.val =
      transfer.sourceAmountMinor.val + transfer.feeAmountMinor.val := by
  simp [terms.sourceAmount, terms.fee]

end Moves

end LedgerService
