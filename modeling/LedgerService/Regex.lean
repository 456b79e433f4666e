import Mathlib.Data.List.Basic

set_option autoImplicit false

/-!
# Regular expressions

A pattern, and the ways in which it matches from a point of a text on, in the order in which a
backtracking matcher tries them: the match is the first of them.
-/

namespace Regex

inductive Pattern (α : Type) where
  | empty
  | one (accepts : α → Bool)
  | seq (first second : Pattern α)
  | alt (first second : Pattern α)
  | star (body : Pattern α)
  | group (index : Nat) (body : Pattern α)
  | ahead (holds : List α → Bool)

/-- The matched text, what its groups captured, and what follows it. -/
structure Match (α : Type) where
  text : List α
  groups : List (Nat × List α)
  rest : List α

variable {α β : Type}

namespace Match

def append (first second : Match α) : Match α :=
  { text := first.text ++ second.text, groups := first.groups ++ second.groups, rest := second.rest }

def nothing (rest : List α) : Match α := { text := [], groups := [], rest }

def capture (found : Match α) (index : Nat) : Match α :=
  { found with groups := found.groups ++ [(index, found.text)] }

def captured (found : Match α) (index : Nat) : Option (List α) :=
  found.groups.reverse.lookup index

@[simp] theorem append_rest (first second : Match α) : (first.append second).rest = second.rest :=
  rfl

@[simp] theorem capture_rest (found : Match α) (index : Nat) : (found.capture index).rest = found.rest :=
  rfl

@[simp] theorem nothing_rest (rest : List α) : (nothing rest).rest = rest := rfl

@[simp] theorem nothing_append (found : Match α) (rest : List α) :
    (nothing rest).append found = found := by
  simp [append, nothing]

theorem append_assoc (first second third : Match α) :
    (first.append second).append third = first.append (second.append third) := by
  simp [append]

end Match

/-- As many repetitions as there are, then fewer.  A repetition of nothing is no repetition. -/
def repeated (body : List α → List (Match α)) : Nat → List α → List (Match α)
  | 0, text => [.nothing text]
  | fuel + 1, text =>
      ((body text).filter fun found => !found.text.isEmpty).flatMap
          (fun found => (repeated body fuel found.rest).map found.append)
        ++ [.nothing text]

namespace Pattern

def runs : Pattern α → List α → List (Match α)
  | .empty, text => [.nothing text]
  | .one _, [] => []
  | .one accepts, c :: rest => if accepts c then [{ text := [c], groups := [], rest }] else []
  | .seq first second, text =>
      (first.runs text).flatMap fun found => (second.runs found.rest).map found.append
  | .alt first second, text => first.runs text ++ second.runs text
  | .star body, text => repeated body.runs text.length text
  | .group index body, text => (body.runs text).map (·.capture index)
  | .ahead holds, text => if holds text then [.nothing text] else []

def plus (body : Pattern α) : Pattern α := .seq body (.star body)

def optional (body : Pattern α) : Pattern α := .alt body .empty

def firstMatch (pattern : Pattern α) (text : List α) : Option (Match α) := (pattern.runs text).head?

def search (pattern : Pattern α) : List α → Option (List α × Match α)
  | [] => (pattern.firstMatch []).map ([], ·)
  | c :: rest =>
      match pattern.firstMatch (c :: rest) with
      | some found => some ([], found)
      | none => (pattern.search rest).map fun found => (c :: found.1, found.2)

/-- The matches one after the other, each with the text between it and the one before, and the text
after the last.  The pattern is one that matches no empty text. -/
def findFrom (pattern : Pattern α) : Nat → List α → List (List α × Match α) × List α
  | 0, text => ([], text)
  | fuel + 1, text =>
      match pattern.search text with
      | none => ([], text)
      | some (gap, found) =>
          let (more, last) := pattern.findFrom fuel found.rest
          ((gap, found) :: more, last)

def finditer (pattern : Pattern α) (text : List α) : List (List α × Match α) × List α :=
  pattern.findFrom text.length text

end Pattern

section Continuations

open Pattern

attribute [local simp] runs

variable {k : Match α → List β} {text : List α}

@[simp] theorem flatMap_empty : ((empty : Pattern α).runs text).flatMap k = k (.nothing text) := by
  simp

@[simp] theorem flatMap_one_nil {accepts : α → Bool} : ((one accepts).runs []).flatMap k = [] := by
  simp

theorem flatMap_one {accepts : α → Bool} {c : α} (accepted : accepts c) :
    ((one accepts).runs (c :: text)).flatMap k = k { text := [c], groups := [], rest := text } := by
  simp [accepted]

theorem flatMap_one_of_not {accepts : α → Bool} {c : α} (rejected : accepts c = false) :
    ((one accepts).runs (c :: text)).flatMap k = [] := by
  simp [rejected]

@[simp] theorem flatMap_seq {first second : Pattern α} :
    ((seq first second).runs text).flatMap k =
      (first.runs text).flatMap fun found =>
        (second.runs found.rest).flatMap fun next => k (found.append next) := by
  simp [List.flatMap_assoc, List.flatMap_map]

@[simp] theorem flatMap_alt {first second : Pattern α} :
    ((alt first second).runs text).flatMap k =
      (first.runs text).flatMap k ++ (second.runs text).flatMap k := by
  simp

@[simp] theorem flatMap_optional {body : Pattern α} :
    (body.optional.runs text).flatMap k = (body.runs text).flatMap k ++ k (.nothing text) := by
  simp [Pattern.optional]

@[simp] theorem flatMap_plus {body : Pattern α} :
    ((plus body).runs text).flatMap k =
      (body.runs text).flatMap fun found =>
        ((star body).runs found.rest).flatMap fun next => k (found.append next) := by
  simp [plus, List.flatMap_assoc, List.flatMap_map]

@[simp] theorem flatMap_group {index : Nat} {body : Pattern α} :
    ((group index body).runs text).flatMap k =
      (body.runs text).flatMap fun found => k (found.capture index) := by
  simp [List.flatMap_map]

theorem flatMap_ahead {holds : List α → Bool} (held : holds text) :
    ((ahead holds).runs text).flatMap k = k (.nothing text) := by
  simp [held]

theorem flatMap_ahead_of_not {holds : List α → Bool} (failed : holds text = false) :
    ((ahead holds).runs text).flatMap k = [] := by
  simp [failed]

-- Where each repetition takes one letter of `value` and none is left after it, and what comes next
-- does not go on from inside of it, all of `value` is taken.
theorem flatMap_repeated {body : List α → List (Match α)} {rest : List α} (stops : body rest = []) :
    ∀ {value : List α} {fuel : Nat} {k : Match α → List β},
      (∀ c ∈ value, ∀ after, body (c :: after) = [{ text := [c], groups := [], rest := after }]) →
      (∀ taken c left, value = taken ++ c :: left →
        k { text := taken, groups := [], rest := c :: (left ++ rest) } = []) →
      value.length ≤ fuel →
      (repeated body fuel (value ++ rest)).flatMap k = k { text := value, groups := [], rest }
  | [], fuel, k, _, _, _ => by
    cases fuel with
    | zero => simp [repeated, Match.nothing]
    | succ fuel => simp [repeated, stops, Match.nothing]
  | c :: value, 0, k, _, _, enough => by simp at enough
  | c :: value, fuel + 1, k, units, blocked, enough => by
    have unit := units c (by simp) (value ++ rest)
    have here : k (Match.nothing (c :: (value ++ rest))) = [] := blocked [] c value rfl
    have later := @flatMap_repeated _ _ stops value fuel
      (fun found => k (Match.append { text := [c], groups := [], rest := value ++ rest } found))
      (fun d member => units d (by simp [member]))
      (fun taken d left split => blocked (c :: taken) d left (by simp [split]))
      (by simpa using enough)
    simp only [List.cons_append, repeated, unit]
    simpa [List.flatMap_map, here, Match.append] using later

theorem flatMap_star {body : Pattern α} {value rest : List α}
    (units : ∀ c ∈ value, ∀ after,
      body.runs (c :: after) = [{ text := [c], groups := [], rest := after }])
    (stops : body.runs rest = [])
    (blocked : ∀ taken c left, value = taken ++ c :: left →
      k { text := taken, groups := [], rest := c :: (left ++ rest) } = []) :
    ((star body).runs (value ++ rest)).flatMap k = k { text := value, groups := [], rest } :=
  flatMap_repeated stops units blocked (by simp)

theorem firstMatch_eq {pattern : Pattern α} :
    pattern.firstMatch text = ((pattern.runs text).flatMap fun found => [found]).head? := by
  rw [List.flatMap_singleton', firstMatch]

end Continuations

end Regex
