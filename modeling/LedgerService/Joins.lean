import Mathlib.Data.List.Dedup

set_option autoImplicit false

namespace Joins

variable {α β ι κ : Type}

/-- `LEFT JOIN`: a row with each of its matches, or with a null if there is none. -/
def leftJoin (matching : α → List β) (rows : List α) : List (α × Option β) :=
  rows.flatMap fun row =>
    if matching row = [] then [(row, none)] else (matching row).map fun found => (row, some found)

def groupBy [DecidableEq κ] (key : α → κ) (rows : List α) : List (κ × List α) :=
  (rows.map key).dedup.map fun group => (group, rows.filter fun row => key row = group)

section LeftJoin

variable {matching : α → List β} {row : α} {rows : List α}

@[simp] theorem leftJoin_nil : leftJoin matching [] = [] := rfl

theorem leftJoin_flatMap (parts : ι → List α) (items : List ι) :
    leftJoin matching (items.flatMap parts) =
      items.flatMap fun item => leftJoin matching (parts item) :=
  List.flatMap_assoc

theorem leftJoin_eq_flatMap (rows : List α) :
    leftJoin matching rows = rows.flatMap fun row => leftJoin matching [row] := by
  simp only [leftJoin, List.flatMap_cons, List.flatMap_nil, List.append_nil]

theorem leftJoin_matched {found : List β} (matched : matching row = found) (some : found ≠ []) :
    leftJoin matching [row] = found.map fun other => (row, Option.some other) := by
  simp [leftJoin, matched, some]

theorem leftJoin_ne_nil (nonempty : rows ≠ []) : leftJoin matching rows ≠ [] := by
  obtain ⟨row, member⟩ := List.exists_mem_of_ne_nil rows nonempty
  intro empty
  rw [leftJoin, List.flatMap_eq_nil_iff] at empty
  have gone := empty row member
  split at gone
  · cases gone
  · rename_i found
    exact found (List.map_eq_nil_iff.mp gone)

theorem fst_of_mem_leftJoin {joined : α × Option β} (member : joined ∈ leftJoin matching rows) :
    joined.1 ∈ rows := by
  obtain ⟨row, among, here⟩ := List.mem_flatMap.mp member
  split at here
  · obtain rfl := List.mem_singleton.mp here
    exact among
  · obtain ⟨_, _, rfl⟩ := List.mem_map.mp here
    exact among

end LeftJoin

section Groups

variable [DecidableEq κ] {key : α → κ} {parts : ι → List α} {name : ι → κ} {items : List ι}

theorem dedup_replicate_append {value : κ} {count : Nat} {rest : List κ} (positive : 0 < count)
    (absent : value ∉ rest) :
    (List.replicate count value ++ rest).dedup = value :: rest.dedup := by
  induction count with
  | zero => cases positive
  | succ count ih =>
    rw [List.replicate_succ, List.cons_append]
    cases count with
    | zero => rw [List.replicate_zero, List.nil_append, List.dedup_cons_of_notMem absent]
    | succ count =>
      rw [List.dedup_cons_of_mem, ih (Nat.succ_pos _)]
      simp [List.replicate_succ]

theorem dedup_keys (constant : ∀ item ∈ items, ∀ row ∈ parts item, key row = name item)
    (nonempty : ∀ item ∈ items, parts item ≠ []) (distinct : (items.map name).Nodup) :
    ((items.flatMap parts).map key).dedup = items.map name := by
  induction items with
  | nil => rfl
  | cons item items ih =>
    rw [List.map_cons, List.nodup_cons] at distinct
    have later := ih (fun other among => constant other (List.mem_cons_of_mem _ among))
      (fun other among => nonempty other (List.mem_cons_of_mem _ among)) distinct.2
    have mine : (parts item).map key = List.replicate (parts item).length (name item) := by
      rw [List.eq_replicate_iff, List.length_map]
      refine ⟨rfl, fun value among => ?_⟩
      obtain ⟨row, here, rfl⟩ := List.mem_map.mp among
      exact constant item List.mem_cons_self row here
    rw [List.flatMap_cons, List.map_append, mine, dedup_replicate_append, later, List.map_cons]
    · exact List.length_pos_iff.mpr (nonempty item List.mem_cons_self)
    · rw [← List.mem_dedup, later]
      exact distinct.1

theorem filter_key (constant : ∀ item ∈ items, ∀ row ∈ parts item, key row = name item)
    (distinct : (items.map name).Nodup) {item : ι} (member : item ∈ items) :
    (items.flatMap parts).filter (fun row => key row = name item) = parts item := by
  have other : ∀ first ∈ items, name first ≠ name item →
      (parts first).filter (fun row => key row = name item) = [] := by
    intro first among different
    rw [List.filter_eq_nil_iff]
    intro row present
    rw [constant first among row present, decide_eq_true_eq]
    exact different
  induction items with
  | nil => cases member
  | cons first items ih =>
    rw [List.map_cons, List.nodup_cons] at distinct
    rw [List.flatMap_cons, List.filter_append]
    rcases List.mem_cons.mp member with rfl | later
    · have mine : (parts item).filter (fun row => key row = name item) = parts item := by
        rw [List.filter_eq_self]
        intro row here
        exact decide_eq_true (constant item List.mem_cons_self row here)
      have none : (items.flatMap parts).filter (fun row => key row = name item) = [] := by
        rw [List.filter_flatMap, List.flatMap_eq_nil_iff]
        intro first here
        exact other first (List.mem_cons_of_mem _ here) fun same =>
          distinct.1 (same ▸ List.mem_map_of_mem here)
      rw [mine, none, List.append_nil]
    · rw [other first List.mem_cons_self fun same => distinct.1 (same ▸ List.mem_map_of_mem later),
        List.nil_append]
      exact ih (fun first among => constant first (List.mem_cons_of_mem _ among)) distinct.2 later
        fun first among => other first (List.mem_cons_of_mem _ among)

theorem groupBy_flatMap (constant : ∀ item ∈ items, ∀ row ∈ parts item, key row = name item)
    (nonempty : ∀ item ∈ items, parts item ≠ []) (distinct : (items.map name).Nodup) :
    groupBy key (items.flatMap parts) = items.map fun item => (name item, parts item) := by
  rw [groupBy, dedup_keys constant nonempty distinct, List.map_map]
  apply List.map_congr_left
  intro item member
  rw [Function.comp_apply, filter_key constant distinct member]

theorem groupBy_single {rows : List α} (distinct : (rows.map key).Nodup) :
    ∀ group ∈ groupBy key rows, group.2.length ≤ 1 := by
  intro group member
  obtain ⟨name, _, rfl⟩ := List.mem_map.mp member
  have once := List.nodup_iff_count_le_one.mp distinct name
  rw [List.count_eq_countP, List.countP_map, List.countP_eq_length_filter] at once
  exact once

end Groups

end Joins
