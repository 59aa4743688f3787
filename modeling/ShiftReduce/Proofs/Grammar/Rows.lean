import Mathlib.Data.List.TakeWhile
import ShiftReduce.Proofs.Grammar.Reading
import ShiftReduce.Proofs.Text.Lines

/-!
# Rows of a text

Of the lines of a text, only those count that are not blank, each without the blanks at its ends.
These rows are joined to definitions: one that starts a definition stands for itself, and one that
does not goes on with the definition before it.

## Main definitions

* `Text.rows`, `Text.IsRow` — the rows of a text, and what a row is
* `Definition.joinRows?` — the rows of each definition, joined

## Main results

* `Text.rows_append_of_isBlank`, `Text.rows_append_break`, `Text.rows_append_end` — rows are
  separated by blanks, one of which ends a line
* `Definition.toOption_joinLines` — joining lines is joining rows
* `Definition.joinRows?_append` — how the rows of one definition are joined
-/

namespace ShiftReduce

namespace Text

/-- The lines of a text that are not blank, without the blanks at their ends. -/
def rows (text : List Char) : List (List Char) :=
  ((lines text).map trim).filter fun row => !row.isEmpty

/-- A text within a line, with no blank at either end. -/
structure IsRow (row : List Char) : Prop where
  noBreak : '\n' ∉ row
  first : ∃ char, row.head? = some char ∧ isBlank char = false
  last : ∃ char, row.getLast? = some char ∧ isBlank char = false

variable {row gap text : List Char}

theorem IsRow.ne_nil (isRow : IsRow row) : row ≠ [] := by
  rintro rfl
  obtain ⟨_, missing, -⟩ := isRow.first
  cases missing

/-- Rows on one line are a row. -/
theorem IsRow.append {other : List Char} (isRow : IsRow row) (noBreak : '\n' ∉ gap)
    (otherIsRow : IsRow other) : IsRow (row ++ (gap ++ other)) where
  noBreak := by simp [isRow.noBreak, noBreak, otherIsRow.noBreak]
  first := by
    obtain ⟨char, found, visible⟩ := isRow.first
    exact ⟨char, by simp [List.head?_append, found], visible⟩
  last := by
    obtain ⟨char, found, visible⟩ := otherIsRow.last
    exact ⟨char, by simp [List.getLast?_append, found], visible⟩

/-! ### Blanks at the ends -/

theorem trim_cons_of_isBlank {char : Char} (blank : isBlank char = true) (text : List Char) :
    trim (char :: text) = trim text := by
  rw [trim, trimStart, List.dropWhile_cons_of_pos blank, ← trimStart, ← trim]

/-- Blanks behind a row are taken away, and the row stays. -/
theorem IsRow.trim_append (isRow : IsRow row) (blank : ∀ char ∈ gap, isBlank char = true) :
    trim (row ++ gap) = row := by
  obtain ⟨head, isHead, visibleHead⟩ := isRow.first
  obtain ⟨last, isLast, visibleLast⟩ := isRow.last
  have front : trimStart (row ++ gap) = row ++ gap := by
    obtain ⟨rest, rfl⟩ := List.head?_eq_some_iff.mp isHead
    exact List.dropWhile_cons_of_neg (by simp [visibleHead])
  rw [trim, front, trimEnd, List.reverse_append,
    List.dropWhile_append_of_pos (by simpa using blank)]
  obtain ⟨rest, rfl⟩ := List.getLast?_eq_some_iff.mp isLast
  rw [List.reverse_append, List.reverse_singleton, List.singleton_append,
    List.dropWhile_cons_of_neg (by simp [visibleLast])]
  simp

/-! ### Lines and rows -/

/-- Blanks in front of a text make no row. -/
theorem rows_append_of_isBlank (blank : ∀ char ∈ gap, isBlank char = true) (text : List Char) :
    rows (gap ++ text) = rows text := by
  induction gap with
  | nil => rfl
  | cons first rest ih =>
    rw [List.forall_mem_cons] at blank
    rw [← ih blank.2, List.cons_append]
    -- A line feed ends an empty line. Any other blank stands at the start of a line, where it is
    -- trimmed away.
    by_cases isBreak : first = '\n'
    · rw [isBreak]
      rfl
    · unfold rows
      rw [lines]
      · cases lines (rest ++ text) with
        | nil => simp [trim_cons_of_isBlank blank.1]; rfl
        | cons line others => simp [trim_cons_of_isBlank blank.1]
      · exact isBreak

/-- A row ends where blanks follow, one of which ends a line. -/
theorem IsRow.rows_append_break (isRow : IsRow row)
    (blank : ∀ char ∈ gap, isBlank char = true) (breaks : '\n' ∈ gap) (text : List Char) :
    rows (row ++ (gap ++ text)) = row :: rows text := by
  obtain ⟨before, after, rfl, first⟩ := List.eq_append_cons_of_mem breaks
  rw [List.forall_mem_append, List.forall_mem_cons] at blank
  have parts : row ++ (before ++ '\n' :: after ++ text) =
      row ++ before ++ '\n' :: (after ++ text) := by simp
  rw [parts, rows, lines_append_break (by simp [isRow.noBreak, first]), List.map_cons,
    isRow.trim_append blank.1, List.filter_cons_of_pos (by simpa using isRow.ne_nil), ← rows,
    rows_append_of_isBlank blank.2.2]

/-- A row ends where nothing but blanks follows. -/
theorem IsRow.rows_append_end (isRow : IsRow row) (blank : ∀ char ∈ gap, isBlank char = true) :
    rows (row ++ gap) = [row] := by
  by_cases breaks : '\n' ∈ gap
  · simpa [rows, lines] using isRow.rows_append_break blank breaks []
  · have nonempty : row ++ gap ≠ [] := List.append_ne_nil_of_left_ne_nil isRow.ne_nil gap
    rw [rows, lines_eq_singleton nonempty (by simp [isRow.noBreak, breaks]), List.map_singleton,
      isRow.trim_append blank]
    simp [isRow.ne_nil]

end Text

namespace Definition

/-! ### Rows of definitions -/

/-- Joins the rows of each definition with a blank between them. `done` holds the definitions before
in reverse. -/
def joinRows? (done : List (List Char)) : List (List Char) → Option (List (List Char))
  | [] => some done.reverse
  | row :: rest =>
    if Bnf.startsDefinition row then joinRows? (row :: done) rest
    else match done with
      | [] => none
      | current :: others => joinRows? ((current ++ ' ' :: row) :: others) rest

/-- Joining lines is joining rows, where the numbers of lines do not count. -/
theorem toOption_joinLines (line : Nat) (done : List (Nat × List Char)) (raws : List (List Char)) :
    (joinLines line done raws).toOption.map (List.map Prod.snd) =
      joinRows? (done.map Prod.snd) ((raws.map Text.trim).filter fun row => !row.isEmpty) := by
  induction raws generalizing line done with
  | nil => simp [joinLines, joinRows?, Except.toOption]
  | cons raw rest ih =>
    unfold joinLines
    dsimp only
    by_cases empty : (Text.trim raw).isEmpty = true
    · rw [if_pos empty, ih, List.map_cons, List.filter_cons_of_neg (by simpa using empty)]
    · rw [if_neg empty, List.map_cons, List.filter_cons_of_pos (by simpa using empty)]
      unfold joinRows?
      by_cases starts : Bnf.startsDefinition (Text.trim raw) = true
      · rw [if_pos starts, if_pos starts, ih, List.map_cons]
      · rw [if_neg starts, if_neg starts]
        cases done with
        | nil => rfl
        | cons last others => exact ih _ _

/-- The rows of a definition, joined. -/
def joined (first : List Char) (others : List (List Char)) : List Char :=
  others.foldl (fun current row => current ++ ' ' :: row) first

/-- Rows that start no definition go on with the one before. -/
theorem joinRows?_of_goesOn {others : List (List Char)}
    (goOn : ∀ row ∈ others, Bnf.startsDefinition row = false) (current : List Char)
    (done tail : List (List Char)) :
    joinRows? (current :: done) (others ++ tail) =
      joinRows? (joined current others :: done) tail := by
  induction others generalizing current with
  | nil => rfl
  | cons row rest ih =>
    rw [List.forall_mem_cons] at goOn
    rw [List.cons_append, joinRows?, if_neg (by simp [goOn.1]), ih goOn.2]
    rfl

/-- A row that starts a definition and the rows that go on with it are joined. -/
theorem joinRows?_append {first : List Char} (starts : Bnf.startsDefinition first = true)
    {others : List (List Char)} (goOn : ∀ row ∈ others, Bnf.startsDefinition row = false)
    (done tail : List (List Char)) :
    joinRows? done (first :: (others ++ tail)) = joinRows? (joined first others :: done) tail := by
  rw [joinRows?.eq_def]
  dsimp only
  rw [if_pos starts, joinRows?_of_goesOn goOn]

end Definition

end ShiftReduce
