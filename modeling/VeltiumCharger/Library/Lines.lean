import Mathlib.Data.List.Basic
import Mathlib.Tactic.Common

/-!
# The lines of a text

A line goes on until the symbol that closes it, which is not part of it; the
last line of a text may be open.  With each line goes what is behind it.
-/

namespace VeltiumCharger.Lines

universe u

/-- A line, whether it is closed, and the text behind it. -/
structure Line (α : Type u) where
  content : List α
  closed : Bool
  rest : List α

variable {α : Type u} [DecidableEq α]

/-- The lines of a text, in their order. -/
def lines (stop : α) : List α → List (Line α)
  | [] => []
  | cell :: text =>
      if cell = stop then ⟨[], true, text⟩ :: lines stop text
      else
        match lines stop text with
        | [] => [⟨[cell], false, []⟩]
        | line :: others => ⟨cell :: line.content, line.closed, line.rest⟩ :: others

/-- What is read until the symbol that closes a line, and what is left then. -/
def readUntil (stop : α) : List α → List α × List α
  | [] => ([], [])
  | cell :: text =>
      if cell = stop then ([], text)
      else (cell :: (readUntil stop text).1, (readUntil stop text).2)

variable {stop : α} {text : List α}

@[simp]
theorem lines_nil : lines stop [] = [] :=
  rfl

/-- Reading until the symbol gives the first line. -/
theorem lines_of_ne_nil (some_text : text ≠ []) :
    lines stop text =
      ⟨(readUntil stop text).1, decide (stop ∈ text), (readUntil stop text).2⟩ ::
        lines stop (readUntil stop text).2 := by
  induction text with
  | nil => exact absurd rfl some_text
  | cons cell text inductionHypothesis =>
      by_cases here : cell = stop
      · subst here
        simp [lines, readUntil]
      · rw [lines, if_neg here, readUntil, if_neg here]
        cases text with
        | nil => simp [Ne.symm here, readUntil]
        | cons next text =>
            rw [inductionHypothesis (List.cons_ne_nil next text)]
            simp [Ne.symm here]

theorem length_readUntil_lt (some_text : text ≠ []) :
    (readUntil stop text).2.length < text.length := by
  induction text with
  | nil => exact absurd rfl some_text
  | cons cell text inductionHypothesis =>
      rw [readUntil]
      split_ifs
      · exact Nat.lt_succ_self _
      · cases text with
        | nil => exact Nat.lt_succ_self _
        | cons next text =>
            have shorter := inductionHypothesis (List.cons_ne_nil next text)
            exact Nat.lt_trans shorter (Nat.lt_succ_self _)

/-- What is behind a line is shorter than the text. -/
theorem length_rest_lt {text : List α} {line : Line α} (member : line ∈ lines stop text) :
    line.rest.length < text.length := by
  cases text with
  | nil => simp at member
  | cons cell text =>
      have shorter := @length_readUntil_lt _ _ stop _ (List.cons_ne_nil cell text)
      rw [lines_of_ne_nil (List.cons_ne_nil cell text)] at member
      rcases List.mem_cons.mp member with rfl | behind
      · exact shorter
      · exact Nat.lt_trans (length_rest_lt behind) shorter
termination_by text.length

/-- The lines behind a line are those of the text behind it. -/
theorem lines_rest {before after : List (Line α)} {line : Line α}
    (split : lines stop text = before ++ line :: after) : lines stop line.rest = after := by
  induction before generalizing text with
  | nil =>
      have some_text : text ≠ [] := by
        rintro rfl
        exact absurd split (by simp)
      rw [lines_of_ne_nil some_text] at split
      obtain ⟨rfl, rfl⟩ := List.cons_eq_cons.mp split
      rfl
  | cons first before inductionHypothesis =>
      have some_text : text ≠ [] := by
        rintro rfl
        exact absurd split (by simp)
      rw [lines_of_ne_nil some_text] at split
      exact inductionHypothesis (List.cons_eq_cons.mp split).2

end VeltiumCharger.Lines
