import Mathlib.Data.List.Nodup
import Mathlib.Data.List.Perm.Basic
import Mathlib.Data.List.Perm.Subperm
import Mathlib.Algebra.BigOperators.Group.List.Basic
import LedgerService.Table

set_option autoImplicit false

/-!
# Double-entry bookkeeping

A movement takes an amount from one side and gives an amount to another.  The sides are accounts,
or currencies, or whatever a balance is kept for.
-/

namespace Bookkeeping

structure Movement (Side : Type) where
  source : Side
  destination : Side
  debit : Int
  credit : Int

namespace Movement

variable {Side : Type} [DecidableEq Side] (movement : Movement Side) (side : Side)

def on : Int :=
  (if movement.destination = side then movement.credit else 0) -
    if movement.source = side then movement.debit else 0

def touches : Nat :=
  (if movement.source = side then 1 else 0) + if movement.destination = side then 1 else 0

def inverse : Movement Side :=
  ⟨movement.destination, movement.source, movement.credit, movement.debit⟩

theorem on_inverse : movement.inverse.on side = -movement.on side := by
  exact (Int.neg_sub _ _).symm

theorem on_of_within (within : movement.source = movement.destination)
    (balanced : movement.debit = movement.credit) : movement.on side = 0 := by
  simp [on, within, balanced]

theorem on_source (crossing : movement.source ≠ movement.destination) :
    movement.on movement.source = -movement.debit := by
  simp [on, crossing.symm]

theorem on_destination (crossing : movement.source ≠ movement.destination) :
    movement.on movement.destination = movement.credit := by
  simp [on, crossing]

theorem on_of_untouched (source : movement.source ≠ side) (destination : movement.destination ≠ side) :
    movement.on side = 0 := by
  simp [on, source, destination]

end Movement

section Sums

variable {Side Row Key : Type} [DecidableEq Side]

/-- The balance of a side after all movements of a table, without what it was opened with. -/
def flow (move : Row → Movement Side) (rows : List Row) (side : Side) : Int :=
  (rows.map fun row => (move row).on side).sum

def touches (move : Row → Movement Side) (rows : List Row) (side : Side) : Nat :=
  (rows.map fun row => (move row).touches side).sum

variable {move : Row → Movement Side} {rows : List Row} {side : Side}

@[simp] theorem flow_nil : flow move [] side = 0 := rfl

@[simp] theorem flow_append (more : List Row) :
    flow move (rows ++ more) side = flow move rows side + flow move more side := by
  simp [flow]

@[simp] theorem flow_singleton (row : Row) : flow move [row] side = (move row).on side := by
  simp [flow]

@[simp] theorem touches_nil : touches move [] side = 0 := rfl

@[simp] theorem touches_append (more : List Row) :
    touches move (rows ++ more) side = touches move rows side + touches move more side := by
  simp [touches]

@[simp] theorem touches_singleton (row : Row) :
    touches move [row] side = (move row).touches side := by
  simp [touches]

theorem flow_eq_zero (still : ∀ row ∈ rows, (move row).on side = 0) : flow move rows side = 0 := by
  rw [flow, List.map_congr_left still, List.map_const']
  simp

theorem touches_eq_zero
    (still : ∀ row ∈ rows, (move row).source ≠ side ∧ (move row).destination ≠ side) :
    touches move rows side = 0 := by
  have untouched : ∀ row ∈ rows, (move row).touches side = 0 := by
    intro row member
    simp [Movement.touches, still row member]
  rw [touches, List.map_congr_left untouched, List.map_const']
  simp

theorem flow_filter (keep : Row → Bool)
    (still : ∀ row ∈ rows, keep row = false → (move row).on side = 0) :
    flow move (rows.filter keep) side = flow move rows side := by
  induction rows with
  | nil => rfl
  | cons row rest ih =>
    have rested := ih fun other member => still other (List.mem_cons_of_mem _ member)
    cases kept : keep row with
    | true => simpa [List.filter_cons, kept, flow] using rested
    | false => simpa [List.filter_cons, kept, flow, still row List.mem_cons_self kept] using rested

theorem flow_congr {Other : Type} {move' : Other → Movement Side} {others : List Other}
    (same : rows.map move = others.map move') : flow move rows side = flow move' others side := by
  have sums := congrArg (fun moves => (moves.map fun movement => movement.on side).sum) same
  simpa only [flow, List.map_map, Function.comp_def] using sums

theorem flow_eq_on {row : Row} (once : rows.Nodup) (member : row ∈ rows)
    (only : ∀ other ∈ rows, other ≠ row → (move other).on side = 0) :
    flow move rows side = (move row).on side := by
  obtain ⟨before, after, rfl⟩ := List.append_of_mem member
  obtain ⟨_, last, apart⟩ := List.nodup_append.mp once
  have earlier : flow move before side = 0 := flow_eq_zero fun other here =>
    only other (List.mem_append_left _ here) (apart other here row List.mem_cons_self)
  have later : flow move after side = 0 := flow_eq_zero fun other here =>
    only other (List.mem_append_right _ (List.mem_cons_of_mem _ here)) fun same =>
      (List.nodup_cons.mp last).1 (same ▸ here)
  rw [← List.singleton_append, flow_append, flow_append, earlier, later, flow_singleton, Int.add_zero,
    Int.zero_add]

theorem flow_perm {other : List Row} (same : rows.Perm other) :
    flow move rows side = flow move other side :=
  (same.map _).sum_eq

theorem flow_filter_add (keep : Row → Bool) :
    flow move rows side =
      flow move (rows.filter keep) side + flow move (rows.filter fun row => !keep row) side := by
  rw [← flow_append]
  exact flow_perm (List.filter_append_perm keep rows).symm

variable {key : Row → Key} {cancels : Row → Option Key}

theorem cancels_perm (unique : (rows.map key).Nodup) (once : (rows.filterMap cancels).Nodup)
    (names : ∀ row ∈ rows, ∀ wanted, cancels row = some wanted →
      ∃ original ∈ rows, key original = wanted ∧ cancels original = none)
    (all : ∀ row ∈ rows, cancels row = none → ∃ other ∈ rows, cancels other = some (key row)) :
    (rows.filterMap cancels).Perm ((rows.filter fun row => (cancels row).isNone).map key) := by
  have originals : ((rows.filter fun row => (cancels row).isNone).map key).Nodup :=
    unique.sublist (List.filter_sublist.map key)
  rw [List.perm_ext_iff_of_nodup once originals]
  intro wanted
  constructor
  · intro member
    obtain ⟨row, rowMember, cancelled⟩ := List.mem_filterMap.mp member
    obtain ⟨original, originalMember, rfl, standing⟩ := names row rowMember wanted cancelled
    exact List.mem_map_of_mem (List.mem_filter.mpr ⟨originalMember, by simp [standing]⟩)
  · intro member
    obtain ⟨original, originalMember, rfl⟩ := List.mem_map.mp member
    obtain ⟨originalMember, standing⟩ := List.mem_filter.mp originalMember
    obtain ⟨row, rowMember, cancelled⟩ := all original originalMember (by simpa using standing)
    exact List.mem_filterMap.mpr ⟨row, rowMember, cancelled⟩

theorem flow_cancelling {weight : Key → Int}
    (undoes : ∀ row ∈ rows, ∀ wanted, cancels row = some wanted →
      (move row).on side = -weight wanted) :
    flow move (rows.filter fun row => !(cancels row).isNone) side =
      -((rows.filterMap cancels).map weight).sum := by
  induction rows with
  | nil => rfl
  | cons row rest ih =>
    have rested := ih fun other member => undoes other (List.mem_cons_of_mem _ member)
    cases cancelled : cancels row with
    | none => simpa [List.filter_cons, cancelled] using rested
    | some wanted =>
      have moves := undoes row List.mem_cons_self wanted cancelled
      simp only [List.filter_cons, cancelled, Option.isNone_some, Bool.not_false, if_true,
        List.filterMap_cons, List.map_cons, List.sum_cons, flow] at rested ⊢
      omega

theorem flow_of_all_cancelled [DecidableEq Key] (unique : (rows.map key).Nodup)
    (once : (rows.filterMap cancels).Nodup)
    (inverse : ∀ row ∈ rows, ∀ wanted, cancels row = some wanted → ∃ original ∈ rows,
      key original = wanted ∧ cancels original = none ∧ move row = (move original).inverse)
    (all : ∀ row ∈ rows, cancels row = none → ∃ other ∈ rows, cancels other = some (key row)) :
    flow move rows side = 0 := by
  -- The open rows move the sum of their weights, the cancelling rows the inverse of it.
  let weight (wanted : Key) : Int :=
    ((Table.lookup key rows wanted).map fun row => (move row).on side).getD 0
  have weighed : ∀ row ∈ rows, weight (key row) = (move row).on side := by
    intro row member
    simp [weight, Table.lookup_of_mem unique member]
  have paired := cancels_perm unique once (fun row member wanted cancelled =>
    (inverse row member wanted cancelled).imp fun _ facts => ⟨facts.1, facts.2.1, facts.2.2.1⟩) all
  have standing : flow move (rows.filter fun row => (cancels row).isNone) side =
      (((rows.filter fun row => (cancels row).isNone).map key).map weight).sum := by
    rw [flow, List.map_map]
    congr 1
    apply List.map_congr_left
    intro row member
    exact (weighed row (List.mem_filter.mp member).1).symm
  have undone := @flow_cancelling _ _ _ _ move rows side cancels weight (by
      intro row member wanted cancelled
      obtain ⟨original, originalMember, rfl, _, moved⟩ := inverse row member wanted cancelled
      rw [moved, Movement.on_inverse, weighed original originalMember])
  rw [flow_filter_add fun row => (cancels row).isNone, standing, undone, (paired.map weight).sum_eq]
  omega

end Sums

end Bookkeeping
