import ShiftReduce.Unicode.Property

/-!
# Pattern expressions

What a pattern says, after its text has been read: which characters it takes, in which order, and
which alternative it prefers.

## Main definitions

* `Pattern.Look` — conditions on the place between two characters
* `Pattern.Look.holds` — when such a condition is met
* `Pattern.Expr` — pattern expressions
-/

namespace ShiftReduce.Pattern

/-- Which characters make up words: those of all scripts, or the ASCII ones. -/
inductive WordKind
  | unicode
  | ascii
deriving DecidableEq, Repr

/-- A condition on the place between two characters. -/
inductive Look
  | textStart
  | textEnd
  | lineStart
  | lineEnd
  /-- The start of a line, where carriage return and line feed end lines, alone or as a pair. -/
  | crlfLineStart
  | crlfLineEnd
  | boundary (kind : WordKind)
  | notBoundary (kind : WordKind)
  | wordStart (kind : WordKind)
  | wordEnd (kind : WordKind)
  /-- No word character before. -/
  | wordStartHalf (kind : WordKind)
  /-- No word character after. -/
  | wordEndHalf (kind : WordKind)
deriving DecidableEq, Repr

/-- The ASCII characters of words. -/
def asciiWord : CodeSet := CodeSet.ofText "30-39 41-5A 5F 61-7A"

/-- Whether there is a character and it belongs to a word. -/
def WordKind.isWord (kind : WordKind) : Option Char → Bool
  | none => false
  | some char =>
    match kind with
    | .unicode => Unicode.word.has char
    | .ascii => asciiWord.has char

/-- Whether a condition holds between the characters `before` and `after`, where there are any. -/
def Look.holds (look : Look) (before after : Option Char) : Bool :=
  match look with
  | .textStart => before.isNone
  | .textEnd => after.isNone
  | .lineStart => before.isNone || before == some '\n'
  | .lineEnd => after.isNone || after == some '\n'
  | .crlfLineStart =>
    before.isNone || before == some '\n' || (before == some '\r' && after != some '\n')
  | .crlfLineEnd =>
    after.isNone || after == some '\r' || (after == some '\n' && before != some '\r')
  | .boundary kind => kind.isWord before != kind.isWord after
  | .notBoundary kind => kind.isWord before == kind.isWord after
  | .wordStart kind => !kind.isWord before && kind.isWord after
  | .wordEnd kind => kind.isWord before && !kind.isWord after
  | .wordStartHalf kind => !kind.isWord before
  | .wordEndHalf kind => !kind.isWord after

/-- A pattern expression. Where two ways of matching start at one place, the one that the
expression prefers is taken: the left alternative, and more or fewer repetitions as `greedy`
says. -/
inductive Expr
  | empty
  | codes (codes : CodeSet)
  | look (look : Look)
  | sequence (first second : Expr)
  | choice (preferred other : Expr)
  | repetition (least : Nat) (most : Option Nat) (greedy : Bool) (body : Expr)
deriving Repr

namespace Expr

/-- Whether every match takes at least one character. -/
def consumes : Expr → Bool
  | .empty | .look _ => false
  | .codes _ => true
  | .sequence first second => first.consumes || second.consumes
  | .choice preferred other => preferred.consumes && other.consumes
  | .repetition least _ _ body => least != 0 && body.consumes

/-- The space that the expression takes once its repetitions are written out, in bytes of a
machine that reads UTF-8. A set of characters beyond ASCII takes a state for most of its ranges. -/
def weight : Expr → Nat
  | .empty => 0
  | .look _ => 32
  | .codes set => 32 + 8 * (set.ranges.size - 1)
      + 96 * (set.ranges.filter fun range => 0x7F < range.2).size
  | .sequence first second => first.weight + second.weight
  | .choice preferred other => preferred.weight + other.weight + 40
  | .repetition least most _ body => max 1 (most.getD least) * (body.weight + 8) + 40

end Expr

end ShiftReduce.Pattern
