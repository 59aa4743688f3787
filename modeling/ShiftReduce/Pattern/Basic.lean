import ShiftReduce.Pattern.Program
import ShiftReduce.Pattern.Reader

/-!
# Patterns

A pattern is always tried at the very start of an input. All that a lexer asks of it is how many
characters it takes there, so any function that tells this makes a pattern. Those that are written
in the usual notation are read and carried out by a program.

## Main definitions

* `Pattern` — what matches at the start of an input, with the text it was read from
* `Pattern.ofProgram` — the pattern that a program carries out
* `Pattern.compile` — reads a text as a pattern
-/

namespace ShiftReduce

/-- A pattern with the text it was read from. -/
structure Pattern where
  source : String
  /-- How many characters the pattern takes at the start of an input, if it matches there. -/
  matchLength? : List Char → Option Nat

namespace Pattern

/-- The pattern that a program carries out. -/
def ofProgram (source : String) (program : Program) : Pattern := ⟨source, program.matchLength?⟩

/-- The text that is read for a pattern: the pattern, as a group that stands at the start of the
input. The group is made by writing its parentheses around the text, so a text that closes it
itself can have alternatives outside of it. -/
def anchored (source : String) : List Char := "^(?:".toList ++ source.toList ++ [')']

/-- Reads a text as a pattern. -/
def compile (source : String) : Except ReadError Pattern := do
  let expr ← readExpr (anchored source)
  .ok (ofProgram source expr.toProgram)

end Pattern

end ShiftReduce
