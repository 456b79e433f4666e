import Mathlib.Algebra.Order.Group.Abs
import Mathlib.Data.List.Nodup
import Mathlib.Tactic.Ring

set_option autoImplicit false

/-!
# Moves in rounds

Units are moved between accounts in rounds.  In a round no account gives or takes more than once; in
a complete round each gives once and takes once.  The moves of a round may come in any order.
-/

namespace Rounds

variable {Account : Type}

structure Move (Account : Type) where
  source : Account
  destination : Account

def net [DecidableEq Account] (moves : List (Move Account)) (account : Account) : Int :=
  (moves.map Move.destination).count account - (moves.map Move.source).count account

structure Fair (round : List (Move Account)) : Prop where
  sources : (round.map Move.source).Nodup
  destinations : (round.map Move.destination).Nodup

def Complete (round : List (Move Account)) : Prop :=
  (round.map Move.source).Perm (round.map Move.destination)

instance [DecidableEq Account] : DecidablePred (@Complete Account) :=
  fun _ => inferInstanceAs (Decidable (List.Perm _ _))

def Runs (rounds runs : List (List (Move Account))) : Prop := List.Forall₂ List.Perm runs rounds

section Rounds

variable {moves more round : List (Move Account)}

theorem Fair.sublist (fair : Fair round) (within : moves.Sublist round) : Fair moves :=
  ⟨fair.sources.sublist (within.map _), fair.destinations.sublist (within.map _)⟩

theorem Fair.perm (fair : Fair round) (same : moves.Perm round) : Fair moves :=
  ⟨(same.map _).nodup_iff.mpr fair.sources, (same.map _).nodup_iff.mpr fair.destinations⟩

theorem perm_flatten {α : Type} {rounds runs : List (List α)}
    (run : List.Forall₂ List.Perm runs rounds) :
    runs.flatten.Perm rounds.flatten := by
  induction run with
  | nil => exact .nil
  | cons same run ih => exact same.append ih

end Rounds

section Net

variable [DecidableEq Account] {moves more round : List (Move Account)}

@[simp] theorem net_nil (account : Account) : net ([] : List (Move Account)) account = 0 := rfl

theorem net_append (moves more : List (Move Account)) (account : Account) :
    net (moves ++ more) account = net moves account + net more account := by
  simp only [net, List.map_append, List.count_append, Nat.cast_add]
  ring

theorem net_perm (same : moves.Perm more) (account : Account) :
    net moves account = net more account := by
  rw [net, net, (same.map _).count_eq, (same.map _).count_eq]

theorem Fair.net (fair : Fair round) (account : Account) : |net round account| ≤ 1 := by
  have taken := List.nodup_iff_count_le_one.mp fair.destinations account
  have given := List.nodup_iff_count_le_one.mp fair.sources account
  rw [Rounds.net, abs_le]
  omega

theorem Complete.net (complete : Complete round) (account : Account) : net round account = 0 := by
  rw [Rounds.net, complete.count_eq, Int.sub_self]

end Net

section Runs

variable [DecidableEq Account] {rounds runs : List (List (Move Account))}

theorem Runs.net_prefix (run : Runs rounds runs)
    (fair : ∀ round ∈ rounds, Fair round) {before after : List (Move Account)}
    (split : runs.flatten = before ++ after) (account : Account) :
    |net before account| ≤ (rounds.filter fun round => ¬ Complete round).length + 1 := by
  -- A complete round leaves no trace; any other one, and the round that is cut, a move at most.
  induction run generalizing before with
  | nil =>
    obtain ⟨rfl, rfl⟩ := List.append_eq_nil_iff.mp split.symm
    simp
  | @cons done round runs rounds same run ih =>
    have first := fair round List.mem_cons_self
    have rest : ∀ round ∈ rounds, Fair round := fun other member =>
      fair other (List.mem_cons_of_mem _ member)
    have fewer : (rounds.filter fun round => ¬ Complete round).length ≤
        ((round :: rounds).filter fun round => ¬ Complete round).length :=
      ((List.sublist_cons_self round rounds).filter _).length_le
    rw [List.flatten_cons, List.append_eq_append_iff] at split
    rcases split with ⟨more, rfl, split⟩ | ⟨left, rfl, _⟩
    · -- The first round is over.
      have bound := ih rest split
      rw [net_append, net_perm same]
      by_cases complete : Complete round
      · rw [complete.net, zero_add]
        omega
      · have one := first.net account
        rw [List.filter_cons_of_pos (by simpa using complete), List.length_cons]
        rw [abs_le] at one bound ⊢
        push_cast
        omega
    · have part := ((first.perm same).sublist (List.sublist_append_left before left)).net account
      omega

end Runs

end Rounds
