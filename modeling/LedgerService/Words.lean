import Mathlib.Data.List.TakeWhile

set_option autoImplicit false

namespace Words

variable {α : Type} (separates : α → Bool)

def words (text : List α) : List (List α) :=
  (text.splitOnP separates).filter fun word => !word.isEmpty

/-- A text that spells some words: a gap before each, at least one separator between any two. -/
inductive Spells : List (List α) → List α → Prop
  | nil {gap : List α} (blank : ∀ c ∈ gap, separates c = true) : Spells [] gap
  | cons {gap word rest : List α} {later : List (List α)} (blank : ∀ c ∈ gap, separates c = true)
      (nonempty : word ≠ []) (plain : ∀ c ∈ word, separates c = false)
      (apart : ∀ c ∈ rest.head?, separates c = true) (spells : Spells later rest) :
      Spells (word :: later) (gap ++ (word ++ rest))

variable {separates}

theorem words_gap {gap : List α} (blank : ∀ c ∈ gap, separates c = true) (text : List α) :
    words separates (gap ++ text) = words separates text := by
  induction gap with
  | nil => rfl
  | cons c gap ih =>
    rw [← ih fun other member => blank other (List.mem_cons_of_mem _ member)]
    simp [words, List.splitOnP_cons_eq_if_modifyHead, blank c List.mem_cons_self]

theorem words_blank {gap : List α} (blank : ∀ c ∈ gap, separates c = true) :
    words separates gap = [] := by
  have gone := words_gap blank []
  rw [List.append_nil] at gone
  rw [gone]
  simp [words]

theorem words_cons {word rest : List α} (nonempty : word ≠ [])
    (plain : ∀ c ∈ word, separates c = false) (apart : ∀ c ∈ rest.head?, separates c = true) :
    words separates (word ++ rest) = word :: words separates rest := by
  cases rest with
  | nil => simp [words, List.splitOnP_eq_singleton plain, nonempty]
  | cons c rest =>
    have gap : separates c = true := apart c rfl
    have skipped : words separates (c :: rest) = words separates rest :=
      words_gap (by simpa using gap : ∀ d ∈ [c], separates d = true) rest
    rw [skipped, words, List.splitOnP_append_cons_of_forall_mem plain c gap]
    simp [words, nonempty]

theorem Spells.words_eq {text : List α} {spelled : List (List α)}
    (spells : Spells separates spelled text) : words separates text = spelled := by
  induction spells with
  | nil blank => exact words_blank blank
  | cons blank nonempty plain apart _ ih =>
    rw [words_gap blank, words_cons nonempty plain apart, ih]

theorem spells_words (text : List α) : Spells separates (words separates text) text := by
  induction length : text.length using Nat.strongRecOn generalizing text with
  | ind count ih =>
    have gap : ∀ c ∈ text.takeWhile separates, separates c = true :=
      fun c member => List.mem_takeWhile_imp member
    have whole : text.takeWhile separates ++ text.dropWhile separates = text :=
      List.takeWhile_append_dropWhile
    cases left : text.dropWhile separates with
    | nil =>
      rw [left, List.append_nil] at whole
      rw [whole] at gap
      rw [words_blank gap]
      exact .nil gap
    | cons c others =>
      have starts : separates c = false := by
        have first := List.head_dropWhile_not separates (by simp [left] : text.dropWhile separates ≠ [])
        simpa [left] using first
      let word := (c :: others).takeWhile fun c => !separates c
      let rest := (c :: others).dropWhile fun c => !separates c
      have split : word ++ rest = c :: others := List.takeWhile_append_dropWhile
      have nonempty : word ≠ [] := by simp [word, starts]
      have plain : ∀ c ∈ word, separates c = false := by
        intro c member
        simpa using List.mem_takeWhile_imp member
      have apart : ∀ c ∈ rest.head?, separates c = true := by
        intro d first
        have present : rest ≠ [] := by
          rintro none
          simp [none] at first
        have ends := List.head_dropWhile_not (fun c => !separates c) present
        rw [List.head?_eq_some_head present] at first
        cases first
        simpa using ends
      have shorter : rest.length < count := by
        have counted := congrArg List.length whole
        have divided := congrArg List.length split
        have some := List.length_pos_iff.mpr nonempty
        rw [left] at counted
        simp only [List.length_append] at counted divided
        omega
      rw [← whole, left, ← split, words_gap gap, words_cons nonempty plain apart]
      exact .cons gap nonempty plain apart (ih _ shorter rest rfl)

theorem words_eq_iff {text : List α} {spelled : List (List α)} :
    words separates text = spelled ↔ Spells separates spelled text := by
  constructor
  · rintro rfl
    exact spells_words text
  · exact Spells.words_eq

theorem words_pair {text first second : List α} :
    words separates text = [first, second] ↔ ∃ before gap after,
      text = before ++ first ++ gap ++ second ++ after ∧
      (∀ c ∈ before ++ gap ++ after, separates c = true) ∧ gap ≠ [] ∧
      (first ≠ [] ∧ ∀ c ∈ first, separates c = false) ∧
      second ≠ [] ∧ ∀ c ∈ second, separates c = false := by
  rw [words_eq_iff]
  constructor
  · intro spells
    cases spells with
    | @cons before _ _ _ blank nonempty plain apart spells =>
      cases spells with
      | @cons gap _ _ _ blank' nonempty' plain' apart' spells =>
        cases spells with
        | nil blank'' =>
          rename_i after
          refine ⟨before, gap, after, by simp [List.append_assoc], ?_, ?_, ⟨nonempty, plain⟩,
            nonempty', plain'⟩
          · intro c member
            simp only [List.mem_append] at member
            rcases member with (one | two) | three
            · exact blank c one
            · exact blank' c two
            · exact blank'' c three
          · rintro rfl
            obtain ⟨c, rest, same⟩ := List.exists_cons_of_ne_nil nonempty'
            have gapped := apart c (by simp [same])
            rw [plain' c (by simp [same])] at gapped
            cases gapped
  · rintro ⟨before, gap, after, rfl, blank, some, ⟨nonempty, plain⟩, nonempty', plain'⟩
    have parts : before ++ first ++ gap ++ second ++ after =
        before ++ (first ++ (gap ++ (second ++ after))) := by simp [List.append_assoc]
    rw [parts]
    refine .cons (fun c member => blank c (by simp [member])) nonempty plain ?_
      (.cons (fun c member => blank c (by simp [member])) nonempty' plain' ?_
        (.nil fun c member => blank c (by simp [member])))
    · obtain ⟨c, rest, rfl⟩ := List.exists_cons_of_ne_nil some
      intro d first
      cases first
      exact blank c (by simp)
    · intro d first
      exact blank d (by simp [List.mem_of_mem_head? first])

end Words
