import Mathlib.Data.List.Sort
import Mathlib.Data.Finset.Card
import Mathlib.Order.Basic

set_option autoImplicit false

/-!
# Keyset pagination

Pages of a growing table, the greatest keys first: each page continues strictly below the last row of
the page before, whatever has been added to the table in between.
-/

namespace Keyset

variable {Row Key : Type} [LinearOrder Key] (key : Row → Key)

def Under (bound : Option Key) (row : Row) : Prop := ∀ limit ∈ bound, key row < limit

instance (bound : Option Key) (row : Row) : Decidable (Under key bound row) :=
  inferInstanceAs (Decidable (∀ _ ∈ bound, _))

def under (bound : Option Key) (table : List Row) : List Row :=
  (table.filter fun row => Under key bound row).insertionSort fun first second =>
    key second ≤ key first

def page (bound : Option Key) (limit : Nat) (table : List Row) : List Row :=
  (under key bound table).take limit

def next (bound : Option Key) (limit : Nat) (table : List Row) : Option Key :=
  if limit < (under key bound table).length then (page key bound limit table).getLast?.map key
  else none

section Page

variable {key} {bound : Option Key} {limit : Nat} {table : List Row}

theorem mem_under {row : Row} : row ∈ under key bound table ↔ row ∈ table ∧ Under key bound row := by
  rw [under, List.mem_insertionSort, List.mem_filter, decide_eq_true_eq]

theorem mem_of_mem_page {row : Row} (member : row ∈ page key bound limit table) :
    row ∈ table ∧ Under key bound row :=
  mem_under.mp (List.mem_of_mem_take member)

theorem under_decreasing (distinct : (table.map key).Nodup) :
    (under key bound table).Pairwise fun first second => key second < key first := by
  have sorted : (under key bound table).Pairwise fun first second => key second ≤ key first := by
    have total : Std.Total fun first second : Row => key second ≤ key first :=
      ⟨fun first second => le_total (key second) (key first)⟩
    have transitive : IsTrans Row fun first second => key second ≤ key first :=
      ⟨fun _ _ _ one two => two.trans one⟩
    exact List.pairwise_insertionSort _ _
  have keys : ((under key bound table).map key).Nodup := by
    have perm : (under key bound table).Perm (table.filter fun row => Under key bound row) :=
      List.perm_insertionSort _ _
    rw [(perm.map key).nodup_iff]
    exact distinct.sublist (List.filter_sublist.map key)
  have different : (under key bound table).Pairwise fun first second => key first ≠ key second :=
    List.pairwise_map.mp keys
  exact (sorted.and different).imp fun both => lt_of_le_of_ne both.1 both.2.symm

theorem page_decreasing (distinct : (table.map key).Nodup) :
    (page key bound limit table).Pairwise fun first second => key second < key first :=
  (under_decreasing distinct).sublist (List.take_sublist _ _)

theorem page_above_rest (distinct : (table.map key).Nodup) :
    ∀ first ∈ page key bound limit table, ∀ second ∈ (under key bound table).drop limit,
      key second < key first := by
  have decreasing := @under_decreasing _ _ _ _ bound _ distinct
  rw [← List.take_append_drop limit (under key bound table), List.pairwise_append] at decreasing
  exact decreasing.2.2

theorem mem_page_or_rest {row : Row} :
    row ∈ under key bound table ↔
      row ∈ page key bound limit table ∨ row ∈ (under key bound table).drop limit := by
  unfold page
  rw [← List.mem_append, List.take_append_drop]

structure Continues (key : Row → Key) (bound : Option Key) (limit : Nat) (table : List Row)
    (last : Key) : Prop where
  shown : ∃ row ∈ page key bound limit table, key row = last
  least : ∀ row ∈ page key bound limit table, last ≤ key row
  more : ∃ row ∈ table, key row < last

theorem continues_of_next (distinct : (table.map key).Nodup) {last : Key}
    (more : next key bound limit table = some last) : Continues key bound limit table last := by
  unfold next at more
  split at more
  · rename_i long
    obtain ⟨row, final, rfl⟩ := Option.map_eq_some_iff.mp more
    have shown := List.mem_of_getLast? final
    refine ⟨⟨row, shown, rfl⟩, ?_, ?_⟩
    · intro other member
      obtain ⟨before, split⟩ := List.getLast?_eq_some_iff.mp final
      have decreasing := @page_decreasing _ _ _ _ bound limit _ distinct
      rw [split, List.pairwise_append] at decreasing
      rw [split, List.mem_append, List.mem_singleton] at member
      rcases member with earlier | rfl
      · exact (decreasing.2.2 other earlier row (by simp)).le
      · exact le_rfl
    · obtain ⟨other, left⟩ := List.exists_mem_of_ne_nil ((under key bound table).drop limit) (by
        rw [ne_eq, List.drop_eq_nil_iff]
        omega)
      refine ⟨other, (mem_under.mp (List.mem_of_mem_drop left)).1, ?_⟩
      exact page_above_rest distinct row shown other left
  · cases more

theorem mem_page_or_below (distinct : (table.map key).Nodup) {last : Key}
    (more : next key bound limit table = some last) {row : Row} (member : row ∈ table)
    (below : Under key bound row) : row ∈ page key bound limit table ∨ key row < last := by
  obtain ⟨⟨final, shown, rfl⟩, _, _⟩ := continues_of_next distinct more
  rcases (@mem_page_or_rest _ _ _ _ _ limit _ _).mp (mem_under.mpr ⟨member, below⟩) with here | left
  · exact .inl here
  · exact .inr (page_above_rest distinct final shown row left)

theorem mem_page_of_last (positive : 0 < limit) (final : next key bound limit table = none) {row : Row}
    (member : row ∈ table) (below : Under key bound row) : row ∈ page key bound limit table := by
  have short : (under key bound table).length ≤ limit := by
    by_contra long
    have nonempty : page key bound limit table ≠ [] := by
      unfold page
      rw [ne_eq, List.take_eq_nil_iff]
      rintro (zero | empty)
      · omega
      · rw [empty] at long
        exact long (Nat.zero_le _)
    rw [next, if_pos (by omega), List.getLast?_eq_some_getLast nonempty] at final
    cases final
  unfold page
  rw [List.take_of_length_le short]
  exact mem_under.mpr ⟨member, below⟩

theorem next_isSome_iff (distinct : (table.map key).Nodup) (positive : 0 < limit) :
    (next key bound limit table).isSome ↔
      ∃ row ∈ table, Under key bound row ∧ row ∉ page key bound limit table := by
  constructor
  · intro some
    obtain ⟨last, more⟩ := Option.isSome_iff_exists.mp some
    obtain ⟨⟨final, shown, rfl⟩, least, row, member, below⟩ := continues_of_next distinct more
    refine ⟨row, member, ?_, fun here => absurd (least row here) below.not_ge⟩
    intro limit bounded
    exact below.trans ((mem_of_mem_page shown).2 limit bounded)
  · rintro ⟨row, member, below, absent⟩
    by_contra none
    exact absent (mem_page_of_last positive (by simpa using none) member below)

theorem next_isSome_iff_below (distinct : (table.map key).Nodup) (positive : 0 < limit)
    (nonempty : bound.isSome → ∃ row ∈ table, Under key bound row) :
    (next key bound limit table).isSome ↔
      ∃ row ∈ table, ∀ other ∈ page key bound limit table, key row < key other := by
  constructor
  · intro some
    obtain ⟨last, more⟩ := Option.isSome_iff_exists.mp some
    obtain ⟨_, least, row, member, below⟩ := continues_of_next distinct more
    exact ⟨row, member, fun other here => below.trans_le (least other here)⟩
  · rintro ⟨row, member, below⟩
    rw [next_isSome_iff distinct positive]
    by_cases empty : page key bound limit table = []
    · cases bound with
      | none => exact ⟨row, member, by simp [Under], by simp [empty]⟩
      | some limit =>
        obtain ⟨other, present, under⟩ := nonempty rfl
        exact ⟨other, present, under, by simp [empty]⟩
    · obtain ⟨other, here⟩ := List.exists_mem_of_ne_nil _ empty
      refine ⟨row, member, ?_, fun itself => absurd (below row itself) (lt_irrefl _)⟩
      intro limit bounded
      exact (below other here).trans ((mem_of_mem_page here).2 limit bounded)

end Page

/-- A page as it is read: the table it sees and the number of rows it asks for. -/
structure Visit (Row : Type) where
  table : List Row
  limit : Nat

/-- Pages that follow one another; the table never loses a row. -/
inductive Walk : Option Key → List Row → List (Visit Row) → Prop where
  | stop {bound : Option Key} {seen : List Row} : Walk bound seen []
  | last {bound : Option Key} {seen : List Row} {visit : Visit Row} (grown : seen ⊆ visit.table)
      (distinct : (visit.table.map key).Nodup) (positive : 0 < visit.limit)
      (final : next key bound visit.limit visit.table = none) : Walk bound seen [visit]
  | page {bound : Option Key} {seen : List Row} {visit : Visit Row} {rest : List (Visit Row)}
      {cursor : Key} (grown : seen ⊆ visit.table) (distinct : (visit.table.map key).Nodup)
      (positive : 0 < visit.limit) (more : next key bound visit.limit visit.table = some cursor)
      (walk : Walk (some cursor) visit.table rest) : Walk bound seen (visit :: rest)

def shown : Option Key → List (Visit Row) → List (List Row)
  | _, [] => []
  | bound, visit :: rest =>
      page key bound visit.limit visit.table :: shown (next key bound visit.limit visit.table) rest

def Finished : Option Key → List (Visit Row) → Prop
  | _, [] => False
  | bound, visit :: rest =>
      next key bound visit.limit visit.table = none ∨
        Finished (next key bound visit.limit visit.table) rest

section Walk

variable {key} {bound : Option Key} {seen : List Row} {visits : List (Visit Row)}

theorem Walk.under (walk : Walk key bound seen visits) :
    ∀ row ∈ (shown key bound visits).flatten, Under key bound row := by
  induction walk with
  | stop => simp [shown]
  | last grown distinct positive final =>
    intro row member
    simp only [shown, List.flatten_cons, List.flatten_nil, List.append_nil] at member
    exact (mem_of_mem_page member).2
  | page grown distinct positive more walk ih =>
    intro row member
    rw [shown, more, List.flatten_cons, List.mem_append] at member
    rcases member with here | later
    · exact (mem_of_mem_page here).2
    · obtain ⟨⟨final, present, rfl⟩, _, _⟩ := continues_of_next distinct more
      intro limit bounded
      exact (ih row later _ rfl).trans ((mem_of_mem_page present).2 limit bounded)

theorem Walk.decreasing (walk : Walk key bound seen visits) :
    (shown key bound visits).flatten.Pairwise fun first second => key second < key first := by
  induction walk with
  | stop => simp [shown]
  | last grown distinct positive final =>
    simp only [shown, List.flatten_cons, List.flatten_nil, List.append_nil]
    exact page_decreasing distinct
  | page grown distinct positive more walk ih =>
    rw [shown, more, List.flatten_cons, List.pairwise_append]
    refine ⟨page_decreasing distinct, ih, ?_⟩
    intro first here second later
    exact (walk.under second later _ rfl).trans_le ((continues_of_next distinct more).least first here)

theorem Walk.complete (walk : Walk key bound seen visits) (finished : Finished key bound visits) :
    ∀ row ∈ seen, Under key bound row → row ∈ (shown key bound visits).flatten := by
  induction walk with
  | stop => cases finished
  | last grown distinct positive final =>
    intro row member below
    simp only [shown, List.flatten_cons, List.flatten_nil, List.append_nil]
    exact mem_page_of_last positive final (grown member) below
  | page grown distinct positive more walk ih =>
    intro row member below
    rw [shown, more, List.flatten_cons, List.mem_append]
    rcases mem_page_or_below distinct more (grown member) below with here | after
    · exact .inl here
    · refine .inr (ih ?_ row (grown member) ?_)
      · rcases finished with none | later
        · rw [more] at none
          cases none
        · exact more ▸ later
      · rintro limit ⟨⟩
        exact after

theorem Walk.from_first {visit : Visit Row} {rest : List (Visit Row)}
    (walk : Walk key bound seen (visit :: rest)) : Walk key bound visit.table (visit :: rest) := by
  cases walk with
  | last grown distinct positive final =>
    exact .last (List.Subset.refl _) distinct positive final
  | page grown distinct positive more walk =>
    exact .page (List.Subset.refl _) distinct positive more walk

theorem Walk.shown_subset {table : List Row} (walk : Walk key bound seen visits)
    (within : ∀ visit ∈ visits, visit.table ⊆ table) : (shown key bound visits).flatten ⊆ table := by
  induction walk with
  | stop => simp [shown]
  | last grown distinct positive final =>
    intro row member
    simp only [shown, List.flatten_cons, List.flatten_nil, List.append_nil] at member
    exact within _ List.mem_cons_self (mem_of_mem_page member).1
  | page grown distinct positive more walk ih =>
    intro row member
    rw [shown, more, List.flatten_cons, List.mem_append] at member
    rcases member with here | later
    · exact within _ List.mem_cons_self (mem_of_mem_page here).1
    · exact ih (fun visit present => within visit (List.mem_cons_of_mem _ present)) later

theorem Walk.shown_perm {table : List Row} (walk : Walk key none seen visits)
    (finished : Finished key none visits) (within : ∀ visit ∈ visits, visit.table ⊆ table)
    (distinct : seen.Nodup) (still : table.length ≤ seen.length) :
    (shown key none visits).flatten.Perm table := by
  have once : (shown key none visits).flatten.Nodup := by
    apply walk.decreasing.imp
    rintro first _ below rfl
    exact lt_irrefl _ below
  have all : seen ⊆ (shown key none visits).flatten := fun row member =>
    walk.complete finished row member (by simp [Under])
  have atLeast := (List.subperm_of_subset distinct all).length_le
  exact (List.subperm_of_subset once (walk.shown_subset within)).perm_of_length_le
    (still.trans atLeast)

theorem Walk.length_le (walk : Walk key bound seen visits) :
    visits.length ≤ (shown key bound visits).flatten.length + 1 := by
  induction walk with
  | stop => simp
  | last grown distinct positive final => simp
  | page grown distinct positive more walk ih =>
    obtain ⟨⟨row, here, _⟩, _, _⟩ := continues_of_next distinct more
    have nonempty := List.length_pos_of_mem here
    rw [shown, more, List.flatten_cons, List.length_append, List.length_cons]
    omega

theorem Walk.length_le_table {table : List Row} (walk : Walk key bound seen visits)
    (within : ∀ visit ∈ visits, visit.table ⊆ table) : visits.length ≤ table.length + 1 := by
  have once : (shown key bound visits).flatten.Nodup := by
    apply walk.decreasing.imp
    intro first second below same
    exact absurd below (same ▸ lt_irrefl _)
  have fewer := (once.subperm (walk.shown_subset within)).length_le
  have pages := walk.length_le
  omega

end Walk

end Keyset
