import Mathlib.Data.List.Nodup
import Mathlib.Algebra.BigOperators.Group.List.Basic
import Mathlib.Algebra.Order.Ring.Int

set_option autoImplicit false

/-!
# Tables with a key

A table is the list of its rows in the order they were inserted; `key` reads a row's primary key.
-/

namespace Table

variable {Row Key : Type} [DecidableEq Key] (key : Row → Key)

def lookup (rows : List Row) (wanted : Key) : Option Row :=
  rows.find? fun row => key row = wanted

def replace (rows : List Row) (row : Row) : List Row :=
  rows.map fun old => if key old = key row then row else old

variable {key}

theorem key_of_lookup {rows : List Row} {wanted : Key} {row : Row}
    (found : lookup key rows wanted = some row) : key row = wanted := by
  simpa using List.find?_some found

theorem mem_of_lookup {rows : List Row} {wanted : Key} {row : Row}
    (found : lookup key rows wanted = some row) : row ∈ rows :=
  List.mem_of_find?_eq_some found

theorem lookup_eq_none {rows : List Row} {wanted : Key} :
    lookup key rows wanted = none ↔ ∀ row ∈ rows, key row ≠ wanted := by
  simp [lookup]

theorem lookup_of_mem {rows : List Row} (unique : (rows.map key).Nodup) {row : Row}
    (member : row ∈ rows) : lookup key rows (key row) = some row := by
  induction rows with
  | nil => cases member
  | cons head rest ih =>
    simp only [List.map_cons, List.nodup_cons] at unique
    rcases List.mem_cons.mp member with rfl | later
    · simp [lookup]
    · have different : key head ≠ key row := by
        intro same
        exact unique.1 (same ▸ List.mem_map_of_mem later)
      simpa [lookup, different] using ih unique.2 later

theorem filter_of_lookup {rows : List Row} (unique : (rows.map key).Nodup) {wanted : Key}
    {row : Row} (found : lookup key rows wanted = some row) :
    rows.filter (fun row => key row = wanted) = [row] := by
  induction rows with
  | nil => cases found
  | cons head rest ih =>
    simp only [List.map_cons, List.nodup_cons] at unique
    by_cases here : key head = wanted
    · have same : head = row := by simpa [lookup, here] using found
      have others : rest.filter (fun row => key row = wanted) = [] := by
        rw [List.filter_eq_nil_iff]
        intro other member clash
        have equal : key other = wanted := by simpa using clash
        exact unique.1 (here ▸ equal ▸ List.mem_map_of_mem member)
      rw [List.filter_cons_of_pos (by simpa using here), others, same]
    · have later : lookup key rest wanted = some row := by simpa [lookup, here] using found
      simpa [here] using ih unique.2 later

theorem eq_of_key_eq {rows : List Row} (unique : (rows.map key).Nodup) {row other : Row}
    (member : row ∈ rows) (otherMember : other ∈ rows) (same : key row = key other) :
    row = other := by
  have found := lookup_of_mem unique member
  rw [same, lookup_of_mem unique otherMember] at found
  exact (Option.some.inj found).symm

theorem lookup_append (rows : List Row) (row : Row) (wanted : Key) :
    lookup key (rows ++ [row]) wanted =
      (lookup key rows wanted).or (if key row = wanted then some row else none) := by
  by_cases same : key row = wanted <;> simp [lookup, same]

theorem lookup_map {change : Row → Row} (keeps : ∀ row, key (change row) = key row)
    (rows : List Row) (wanted : Key) :
    lookup key (rows.map change) wanted = (lookup key rows wanted).map change := by
  induction rows with
  | nil => rfl
  | cons head rest ih =>
    by_cases here : key head = wanted
    · simp [lookup, keeps, here]
    · simp only [lookup] at ih
      simp [lookup, keeps, here, ih]

theorem lookup_replace (rows : List Row) (row : Row) (wanted : Key) :
    lookup key (replace key rows row) wanted =
      (lookup key rows wanted).map fun old => if key row = wanted then row else old := by
  have keeps : ∀ old, key (if key old = key row then row else old) = key old := by
    intro old
    split
    · rename_i same
      exact same.symm
    · rfl
  rw [replace, lookup_map keeps]
  apply Option.map_congr
  intro old found
  rw [key_of_lookup found]
  simp [eq_comm]

@[simp] theorem keys_replace (rows : List Row) (row : Row) :
    (replace key rows row).map key = rows.map key := by
  simp only [replace, List.map_map]
  apply List.map_congr_left
  intro old _
  by_cases same : key old = key row <;> simp [same]

theorem nodup_append {rows : List Row} {row : Row} (unique : (rows.map key).Nodup)
    (unused : lookup key rows (key row) = none) : ((rows ++ [row]).map key).Nodup := by
  rw [List.map_append, List.nodup_append]
  refine ⟨unique, by simp, ?_⟩
  intro one first other second same
  obtain ⟨old, member, rfl⟩ := List.mem_map.mp first
  simp only [List.map_cons, List.map_nil, List.mem_singleton] at second
  exact lookup_eq_none.mp unused old member (same.trans second)

theorem replace_append {rows : List Row} {old row : Row} (unused : lookup key rows (key row) = none)
    (same : key old = key row) : replace key (rows ++ [old]) row = rows ++ [row] := by
  have kept : replace key rows row = rows := by
    rw [replace]
    conv_rhs => rw [← List.map_id rows]
    apply List.map_congr_left
    intro other member
    simp [lookup_eq_none.mp unused other member]
  rw [replace, List.map_append, ← replace, kept]
  simp [same]

theorem mem_replace {rows : List Row} {row new : Row} (member : row ∈ replace key rows new) :
    row = new ∨ (row ∈ rows ∧ key row ≠ key new) := by
  obtain ⟨old, oldMember, rfl⟩ := List.mem_map.mp member
  by_cases same : key old = key new
  · simp [same]
  · simp [same, oldMember]

theorem sum_replace {rows : List Row} {old new : Row} (unique : (rows.map key).Nodup)
    (found : lookup key rows (key new) = some old) (weight : Row → Int) :
    ((replace key rows new).map weight).sum = (rows.map weight).sum - weight old + weight new := by
  induction rows with
  | nil => simp [lookup] at found
  | cons head rest ih =>
    simp only [List.map_cons, List.nodup_cons] at unique
    by_cases here : key head = key new
    · have same : head = old := by simpa [lookup, here] using found
      have kept : replace key rest new = rest := by
        rw [replace]
        conv_rhs => rw [← List.map_id rest]
        apply List.map_congr_left
        intro row member
        have different : key row ≠ key new := by
          intro clash
          exact unique.1 (here ▸ clash ▸ List.mem_map_of_mem member)
        simp [different]
      have split : replace key (head :: rest) new = new :: replace key rest new := by
        simp [replace, here]
      rw [split, kept, same]
      simp only [List.map_cons, List.sum_cons]
      omega
    · have later : lookup key rest (key new) = some old := by simpa [lookup, here] using found
      have split : replace key (head :: rest) new = head :: replace key rest new := by
        simp [replace, here]
      rw [split]
      simp only [List.map_cons, List.sum_cons, ih unique.2 later]
      omega

end Table
