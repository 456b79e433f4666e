import Mathlib.Data.Finset.Card
import Mathlib.Data.List.Chain
import Mathlib.Order.Basic

set_option autoImplicit false

namespace Intervals

variable {Row Instant : Type} [LinearOrder Instant] (lower upper : Row → Instant)

def HoldsAt (row : Row) (instant : Instant) : Prop := lower row ≤ instant ∧ instant < upper row

structure Abutting (rows : List Row) : Prop where
  proper : ∀ row ∈ rows, lower row < upper row
  chain : rows.IsChain fun first second => upper first = lower second

variable {lower upper} {rows : List Row} {instant : Instant}

theorem Abutting.tail {row : Row} (abutting : Abutting lower upper (row :: rows)) :
    Abutting lower upper rows :=
  ⟨fun other member => abutting.proper other (List.mem_cons_of_mem _ member),
    abutting.chain.tail⟩

theorem Abutting.upper_le_lower {row : Row} (abutting : Abutting lower upper (row :: rows)) :
    ∀ other ∈ rows, upper row ≤ lower other := by
  induction rows generalizing row with
  | nil => simp
  | cons next rest ih =>
    intro other member
    have follows : upper row = lower next := by
      have chain := abutting.chain
      rw [List.isChain_cons_cons] at chain
      exact chain.1
    rcases List.mem_cons.mp member with rfl | later
    · exact follows.le
    · have proper := abutting.tail.proper next List.mem_cons_self
      have beyond := ih abutting.tail other later
      calc upper row = lower next := follows
        _ ≤ upper next := proper.le
        _ ≤ lower other := beyond

theorem Abutting.disjoint (abutting : Abutting lower upper rows) {first second : Row}
    (one : first ∈ rows) (two : second ∈ rows) (holds : HoldsAt lower upper first instant)
    (holds' : HoldsAt lower upper second instant) : first = second := by
  induction rows with
  | nil => cases one
  | cons row rest ih =>
    have apart : ∀ other ∈ rest, HoldsAt lower upper row instant →
        ¬ HoldsAt lower upper other instant := by
      intro other member holds holds'
      exact absurd (holds.2.trans_le (abutting.upper_le_lower other member)) holds'.1.not_gt
    rcases List.mem_cons.mp one with rfl | later
    · rcases List.mem_cons.mp two with rfl | later'
      · rfl
      · exact absurd holds' (apart second later' holds)
    · rcases List.mem_cons.mp two with rfl | later'
      · exact absurd holds (apart first later holds')
      · exact ih abutting.tail later later'

theorem Abutting.covers (abutting : Abutting lower upper rows) {first last : Row}
    (head : first ∈ rows.head?) (final : last ∈ rows.getLast?) (begun : lower first ≤ instant)
    (ahead : instant < upper last) : ∃ row ∈ rows, HoldsAt lower upper row instant := by
  induction rows generalizing first with
  | nil => cases head
  | cons row rest ih =>
    obtain rfl : row = first := by simpa using head
    by_cases ends : instant < upper row
    · exact ⟨row, List.mem_cons_self, begun, ends⟩
    cases rest with
    | nil =>
      obtain rfl : row = last := by simpa using final
      exact absurd ahead ends
    | cons next rest =>
      have follows : upper row = lower next := by
        have chain := abutting.chain
        rw [List.isChain_cons_cons] at chain
        exact chain.1
      have begins : lower next ≤ instant := follows ▸ not_lt.mp ends
      obtain ⟨found, member, holds⟩ := @ih abutting.tail next rfl
        (by simpa using final) begins
      exact ⟨found, List.mem_cons_of_mem _ member, holds⟩

/-- Of the rows of a table, when they abut, one is selected at each instant from the beginning of the
first to the end of the last, and at most one at any other. -/
def OneAt (lower upper : Row → Instant) (instant : Instant) (table : Row → Prop)
    (selected : Finset Row) : Prop :=
  ∀ rows, Abutting lower upper rows → (∀ row, row ∈ rows ↔ table row) →
    selected.card ≤ 1 ∧
      ∀ first ∈ rows.head?, ∀ last ∈ rows.getLast?, lower first ≤ instant → instant < upper last →
        ∃ row, selected = {row}

theorem oneAt {table : Row → Prop} {selected : Finset Row}
    (members : ∀ row, row ∈ selected ↔ table row ∧ HoldsAt lower upper row instant) :
    OneAt lower upper instant table selected := by
  intro rows abutting complete
  have unique : ∀ first ∈ selected, ∀ second ∈ selected, first = second := by
    intro first one second two
    obtain ⟨present, holds⟩ := (members first).mp one
    obtain ⟨present', holds'⟩ := (members second).mp two
    exact abutting.disjoint ((complete first).mpr present) ((complete second).mpr present') holds
      holds'
  refine ⟨Finset.card_le_one.mpr unique, ?_⟩
  intro first head last final begun ahead
  obtain ⟨row, present, holds⟩ := abutting.covers head final begun ahead
  have member := (members row).mpr ⟨(complete row).mp present, holds⟩
  refine ⟨row, Finset.eq_singleton_iff_unique_mem.mpr ⟨member, ?_⟩⟩
  intro other present'
  exact unique other present' row member

end Intervals
