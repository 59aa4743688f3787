import Mathlib.Data.List.Basic
import ShiftReduce.Text.Blank

/-!
# Lines of a text

A text that is written row by row, with a line feed behind each row, falls into these rows again, as
long as no row has a line feed of its own. Each one that it has makes one more line.

## Main definitions

* `Text.written` — rows with a line feed behind each

## Main results

* `Text.length_lines_written` — how many lines rows make
* `Text.lines_written` — rows without line feeds are the lines that they make
-/

namespace ShiftReduce.Text

variable {line : List Char}

theorem lines_append_break (noBreak : '\n' ∉ line) (text : List Char) :
    lines (line ++ '\n' :: text) = line :: lines text := by
  induction line with
  | nil => rfl
  | cons first rest ih =>
    rw [List.mem_cons, not_or] at noBreak
    rw [List.cons_append, lines, ih noBreak.2]
    exact fun same => noBreak.1 same.symm

theorem lines_eq_singleton (nonempty : line ≠ []) (noBreak : '\n' ∉ line) :
    lines line = [line] := by
  induction line with
  | nil => exact absurd rfl nonempty
  | cons first rest ih =>
    rw [List.mem_cons, not_or] at noBreak
    have other : first = '\n' → False := fun same => noBreak.1 same.symm
    cases rest with
    | nil => rw [lines, lines]; exact other
    | cons second rest => rw [lines, ih (List.cons_ne_nil _ _) noBreak.2]; exact other

/-- Up to a line feed, there is one line and another one for each line feed before. -/
theorem length_lines_append_break (front text : List Char) :
    (lines (front ++ '\n' :: text)).length = 1 + front.count '\n' + (lines text).length := by
  induction front with
  | nil => rw [List.nil_append, lines, List.length_cons, List.count_nil, Nat.add_comm]
  | cons first rest ih =>
    rw [List.cons_append]
    by_cases isBreak : first = '\n'
    · subst isBreak
      rw [lines, List.length_cons, ih, List.count_cons_self]
      omega
    · rw [lines, List.count_cons_of_ne isBreak, ← ih]
      · -- The line goes on, so its first character makes no new one.
        cases behind : lines (rest ++ '\n' :: text) with
        | nil =>
          rw [behind, List.length_nil] at ih
          omega
        | cons line others => rfl
      · exact isBreak

/-! ### Rows -/

/-- Rows with a line feed behind each. -/
def written (rows : List (List Char)) : List Char := rows.flatMap fun row => row ++ ['\n']

theorem written_cons (row : List Char) (rows : List (List Char)) :
    written (row :: rows) = row ++ '\n' :: written rows := by
  rw [written, List.flatMap_cons, List.append_assoc]
  rfl

/-- Each row makes a line, and each line feed in it another one. -/
theorem length_lines_written (rows : List (List Char)) :
    (lines (written rows)).length = rows.length + rows.flatten.count '\n' := by
  induction rows with
  | nil => rfl
  | cons row rest ih =>
    rw [written_cons, length_lines_append_break, ih, List.flatten_cons, List.count_append,
      List.length_cons]
    omega

/-- Rows without line feeds are the lines that they make. -/
theorem lines_written {rows : List (List Char)} (unbroken : ∀ row ∈ rows, '\n' ∉ row) :
    lines (written rows) = rows := by
  induction rows with
  | nil => rfl
  | cons row rest ih =>
    rw [List.forall_mem_cons] at unbroken
    rw [written_cons, lines_append_break unbroken.1, ih unbroken.2]

end ShiftReduce.Text
