import Mathlib.Algebra.BigOperators.Group.List.Basic
import Mathlib.Algebra.GroupWithZero.Nat

namespace AndroidMessenger.Library.Lines

/-! Texts that consist of lines, each with a terminator that occurs in no line. -/

variable {α : Type*} {terminator : α}

def text (terminator : α) : List (List α) → List α
  | [] => []
  | line :: lines => line ++ terminator :: text terminator lines

theorem mem_text {lines : List (List α)} {element : α}
    (inside : element ∈ text terminator lines) :
    element = terminator ∨ ∃ line ∈ lines, element ∈ line := by
  induction lines with
  | nil => simp [text] at inside
  | cons line lines ih =>
      rw [text, List.mem_append, List.mem_cons] at inside
      rcases inside with here | same | later
      · exact Or.inr ⟨line, List.mem_cons_self, here⟩
      · exact Or.inl same
      · rcases ih later with same | ⟨other, listed, here⟩
        · exact Or.inl same
        · exact Or.inr ⟨other, List.mem_cons_of_mem _ listed, here⟩

theorem count_text [DecidableEq α] {lines : List (List α)}
    (clean : ∀ line ∈ lines, terminator ∉ line) :
    (text terminator lines).count terminator = lines.length := by
  induction lines with
  | nil => rfl
  | cons line lines ih =>
      have head := List.count_eq_zero_of_not_mem (clean line List.mem_cons_self)
      have tail := ih fun other inside => clean other (List.mem_cons_of_mem _ inside)
      rw [text, List.count_append, List.count_cons_self, head, tail, List.length_cons]
      omega

theorem text_injective {first second : List (List α)}
    (cleanFirst : ∀ line ∈ first, terminator ∉ line)
    (cleanSecond : ∀ line ∈ second, terminator ∉ line)
    (same : text terminator first = text terminator second) : first = second := by
  induction first generalizing second with
  | nil =>
      cases second with
      | nil => rfl
      | cons line lines => simp [text] at same
  | cons line lines ih =>
      cases second with
      | nil => simp [text] at same
      | cons line' lines' =>
          rw [text, text] at same
          have heads : line = line' ∧ text terminator lines = text terminator lines' := by
            have free := cleanFirst line List.mem_cons_self
            have free' := cleanSecond line' List.mem_cons_self
            rcases List.append_eq_append_iff.mp same with
              ⟨between, rfl, rest⟩ | ⟨between, rfl, rest⟩
            · cases between with
              | nil => exact ⟨by simp, (List.cons.inj rest).2⟩
              | cons head others =>
                  obtain ⟨rfl, _⟩ := List.cons.inj rest
                  simp at free'
            · cases between with
              | nil => exact ⟨by simp, (List.cons.inj rest).2.symm⟩
              | cons head others =>
                  obtain ⟨rfl, _⟩ := List.cons.inj rest
                  simp at free
          obtain ⟨rfl, rest⟩ := heads
          rw [ih (fun other inside => cleanFirst other (List.mem_cons_of_mem _ inside))
            (fun other inside => cleanSecond other (List.mem_cons_of_mem _ inside)) rest]

theorem sum_count_le_length [DecidableEq α] {pieces : List (List α)}
    (atMostOne : ∀ piece ∈ pieces, piece.count terminator ≤ 1) :
    (pieces.map (List.count terminator)).sum ≤ pieces.length := by
  induction pieces with
  | nil => exact Nat.le_refl _
  | cons piece rest ih =>
      have head := atMostOne piece List.mem_cons_self
      have tail := ih fun other inside => atMostOne other (List.mem_cons_of_mem _ inside)
      simp only [List.map_cons, List.sum_cons, List.length_cons]
      omega

theorem count_eq_one_of_sum [DecidableEq α] {pieces : List (List α)}
    (atMostOne : ∀ piece ∈ pieces, piece.count terminator ≤ 1)
    (total : (pieces.map (List.count terminator)).sum = pieces.length) :
    ∀ piece ∈ pieces, piece.count terminator = 1 := by
  induction pieces with
  | nil => simp
  | cons piece rest ih =>
      have head := atMostOne piece List.mem_cons_self
      have others : ∀ other ∈ rest, other.count terminator ≤ 1 :=
        fun other inside => atMostOne other (List.mem_cons_of_mem _ inside)
      have tail := sum_count_le_length others
      simp only [List.map_cons, List.sum_cons, List.length_cons] at total
      intro other inside
      rcases List.mem_cons.mp inside with rfl | inside
      · omega
      · exact ih others (by omega) other inside

theorem count_eq_one_of_flatten [DecidableEq α] {lines pieces : List (List α)}
    (clean : ∀ line ∈ lines, terminator ∉ line)
    (cut : pieces.flatten = text terminator lines) (number : pieces.length = lines.length)
    (atMostOne : ∀ piece ∈ pieces, piece.count terminator ≤ 1) :
    ∀ piece ∈ pieces, piece.count terminator = 1 := by
  apply count_eq_one_of_sum atMostOne
  rw [← List.count_flatten, cut, count_text clean, number]

end AndroidMessenger.Library.Lines
