import ShiftReduce.Lexer.Registry
import ShiftReduce.Text.Blank

/-!
# Scanning

A lexer cuts an input into tokens from the left. At each place the first class that may match
there, and does, takes its match; blanks after it are skipped, and the state changes as the
transitions say. Where no class matches, scanning stops.

## Main definitions

* `Lexer.select?` — the class that takes its match at a place
* `Lexer.stateAfter` — the state after a token
* `Lexer.tokenize` — the tokens of an input, with what is left of it
-/

namespace ShiftReduce

/-- The result of scanning: the tokens, what is left of the input, and the last state. -/
structure Tokenized where
  success : Bool
  tokens : List Token
  remainder : String
  state : StateIndex
deriving DecidableEq, Repr

/-- The start of what is left, for messages. -/
def Tokenized.excerpt (tokenized : Tokenized) : String :=
  String.ofList (Text.excerpt 20 tokenized.remainder.toList)

namespace Lexer

/-- Whether a class may match in a state: it belongs to that state, or it belongs to all and the
state is not strict. -/
def admits (lexer : Lexer) (state : StateIndex) (entry : RegisteredClass) : Bool :=
  entry.state == state || (!lexer.states.isStrict state && entry.state == anyState)

/-- The first class from `index` on that may match in `state` and does, with its match. -/
def selectFrom? (lexer : Lexer) (state : StateIndex) (input : List Char) (index : ClassIndex) :
    List RegisteredClass → Option (ClassIndex × Match)
  | [] => none
  | entry :: entries =>
    if lexer.admits state entry then
      match entry.tokenClass.match? input with
      | some found => some (index, found)
      | none => selectFrom? lexer state input (index + 1) entries
    else selectFrom? lexer state input (index + 1) entries

/-- The class that takes its match at the start of `input`. -/
def select? (lexer : Lexer) (state : StateIndex) (input : List Char) :
    Option (ClassIndex × Match) :=
  lexer.selectFrom? state input 0 lexer.classes

/-- The state after a token of class `kind` in `state`: the first transition that fires leads to
it, and without one the state stays. -/
def stateAfter (lexer : Lexer) (kind : ClassIndex) (state : StateIndex) : StateIndex :=
  if lexer.stateful then
    match lexer.transitions.find? fun transition => transition.fires kind state with
    | some transition => transition.target
    | none => state
  else state

/-- The blanks at the start of `input` that are skipped. -/
def gap (lexer : Lexer) (input : List Char) : List Char :=
  if lexer.skipsGaps then input.takeWhile Text.isGap else []

/-- The input past the blanks that are skipped. -/
def afterGap (lexer : Lexer) (input : List Char) : List Char :=
  if lexer.skipsGaps then input.dropWhile Text.isGap else input

/-- The blanks that are skipped and the input past them make up the input. -/
theorem gap_append_afterGap (lexer : Lexer) (input : List Char) :
    lexer.gap input ++ lexer.afterGap input = input := by
  unfold gap afterGap
  split
  · exact List.takeWhile_append_dropWhile
  · rfl

/-- Skipping blanks makes no input longer. -/
theorem length_afterGap_le (lexer : Lexer) (input : List Char) :
    (lexer.afterGap input).length ≤ input.length := by
  have parts := congrArg List.length (lexer.gap_append_afterGap input)
  rw [List.length_append] at parts
  omega

/-- Scans an input from byte `offset` on, where no blanks are left to be skipped. -/
def scan (lexer : Lexer) (state : StateIndex) (offset : Nat) (input : List Char) : Tokenized :=
  match input with
  | [] => ⟨true, [], "", state⟩
  | first :: rest =>
    match lexer.select? state (first :: rest) with
    | none => ⟨false, [], String.ofList (first :: rest), state⟩
    | some (kind, found) =>
      let value := (first :: rest).take found.length
      let tail := (first :: rest).drop found.length
      let stop := offset + Text.byteLength value
      let result := scan lexer (lexer.stateAfter kind state)
        (stop + Text.byteLength (lexer.gap tail)) (lexer.afterGap tail)
      { result with tokens := ⟨String.ofList value, kind, offset, stop⟩ :: result.tokens }
termination_by input.length
decreasing_by
  have shorter := lexer.length_afterGap_le ((first :: rest).drop found.length)
  have taken := found.length_pos
  simp only [List.length_drop, List.length_cons] at shorter ⊢
  omega

/-- Cuts an input into tokens, starting in the initial state. -/
def tokenize (lexer : Lexer) (input : String) : Tokenized :=
  lexer.scan initialState (Text.byteLength (lexer.gap input.toList))
    (lexer.afterGap input.toList)

end Lexer

end ShiftReduce
