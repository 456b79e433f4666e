import Mathlib.Data.List.Forall2

set_option autoImplicit false

namespace Traversals

variable {α β : Type}

section Mapped

theorem mapM_eq_some {f : α → Option β} {values : List α} {results : List β} :
    values.mapM f = some results ↔
      List.Forall₂ (fun value result => f value = some result) values results := by
  induction values generalizing results with
  | nil => simp [eq_comm]
  | cons value values ih =>
    simp only [List.mapM_cons, bind, pure, Option.bind_eq_some_iff, Option.some.injEq,
      List.forall₂_cons_left_iff, ih]
    constructor
    · rintro ⟨result, found, rest, more, rfl⟩
      exact ⟨result, rest, found, more, rfl⟩
    · rintro ⟨result, rest, found, more, rfl⟩
      exact ⟨result, found, rest, more, rfl⟩

variable {ε : Type} {f : α → Except ε β} {values : List α} {results : List β}

theorem mapM_eq_ok : values.mapM f = .ok results ↔
    List.Forall₂ (fun value result => f value = .ok result) values results := by
  induction values generalizing results with
  | nil => simp [pure, Except.pure, eq_comm]
  | cons value values ih =>
    rw [List.mapM_cons, List.forall₂_cons_left_iff]
    cases one : f value with
    | error failure => simp [bind, Except.bind]
    | ok result =>
      cases rest : values.mapM f with
      | error failure => simp [bind, Except.bind, ← ih, rest]
      | ok others => simp [bind, Except.bind, pure, Except.pure, ← ih, rest, eq_comm]

theorem mapM_ok (total : ∀ value, ∃ result, f value = .ok result) (values : List α) :
    ∃ results, values.mapM f = .ok results := by
  induction values with
  | nil => exact ⟨[], rfl⟩
  | cons value values ih =>
    obtain ⟨result, one⟩ := total value
    obtain ⟨results, rest⟩ := ih
    exact ⟨result :: results, by rw [List.mapM_cons, one, rest]; rfl⟩

end Mapped

section Related

variable {related : α → β → Prop} {first : List α} {second : List β}

theorem exists_of_forall₂ (all : List.Forall₂ related first second) {value : α}
    (member : value ∈ first) : ∃ other ∈ second, related value other := by
  induction all with
  | nil => cases member
  | cons here _ ih =>
    rcases List.mem_cons.mp member with rfl | later
    · exact ⟨_, List.mem_cons_self, here⟩
    · obtain ⟨other, among, holds⟩ := ih later
      exact ⟨other, List.mem_cons_of_mem _ among, holds⟩

theorem forall₂_getElem? (all : List.Forall₂ related first second) {index : Nat} {result : β}
    (here : second[index]? = some result) :
    ∃ value, first[index]? = some value ∧ related value result := by
  induction all generalizing index with
  | nil => cases here
  | @cons value _ _ _ holds _ ih =>
    cases index with
    | zero =>
      obtain rfl := Option.some.inj here
      exact ⟨value, rfl, holds⟩
    | succ index => exact ih here

theorem nodup_of_forall₂ {κ : Type} {key : β → κ} (all : List.Forall₂ related first second)
    (distinct : first.Nodup)
    (apart : ∀ one two result result', related one result → related two result' →
      key result = key result' → one = two) : (second.map key).Nodup := by
  induction all with
  | nil => exact List.nodup_nil
  | @cons value result values results here later ih =>
    rw [List.nodup_cons] at distinct
    rw [List.map_cons, List.nodup_cons]
    refine ⟨?_, ih distinct.2⟩
    intro again
    obtain ⟨other, among, same⟩ := List.mem_map.mp again
    obtain ⟨index, member, there⟩ := exists_of_forall₂ later.flip among
    exact distinct.1 (apart _ _ _ _ here there same.symm ▸ member)

end Related

end Traversals
