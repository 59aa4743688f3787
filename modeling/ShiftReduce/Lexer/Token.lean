import ShiftReduce.Pattern.Basic
import ShiftReduce.Text.Measure

/-!
# Tokens and token classes

A token is a piece of the input with the class that recognized it. A class recognizes the pieces
that its pattern matches, in the lexer states of its scope.

## Main definitions

* `Token` — a piece of the input, its class and its place
* `TokenClass` — a named pattern with a scope
* `TokenClass.match?` — what a class takes from the start of an input
-/

namespace ShiftReduce

/-- A place in the list of token classes. Classes are tried in this order. -/
abbrev ClassIndex := Nat

/-- The class of line breaks, which every lexer has. -/
def lineBreakClass : ClassIndex := 0

/-- The class of the token that ends every input. No text belongs to it. -/
def endClass : ClassIndex := 1

/-- A piece of the input: its text, its class, and the bytes where it starts and stops. -/
structure Token where
  value : String
  kind : ClassIndex
  start : Nat
  stop : Nat
deriving DecidableEq, Repr, Inhabited

namespace Token

/-- The token that ends an input of `offset` bytes. -/
def endAt (offset : Nat) : Token := ⟨"", endClass, offset, offset⟩

/-- Whether the token ends the input. -/
def isEnd (token : Token) : Bool := token.kind == endClass

end Token

/-! ### Classes -/

/-- The name of the state that stands for all states that are not strict. -/
def anyStateName : String := "*"

/-- The name of the state that every input starts in. -/
def initialStateName : String := "default"

/-- The lexer states that a class matches in. -/
inductive Scope
  /-- All states that are not strict. -/
  | any
  | initial
  | named (name : String)
deriving DecidableEq, Repr

/-- The scope that a state's name stands for. -/
def Scope.ofName (name : String) : Scope :=
  if name = anyStateName then .any
  else if name = initialStateName then .initial
  else .named name

/-- A named pattern with a scope. A class without a pattern matches nothing. -/
structure TokenClass where
  name : String
  pattern : Option Pattern
  scope : Scope

/-- What a class takes from an input: at least one character. -/
structure Match where
  length : Nat
  length_pos : 0 < length

namespace TokenClass

/-- A class of the initial state. The error is that of a text which is no pattern. -/
def ofPattern (name source : String) : Except Pattern.ReadError TokenClass := do
  .ok ⟨name, some (← Pattern.compile source), .initial⟩

/-- A class of the initial state that matches nothing. -/
def never (name : String) : TokenClass := ⟨name, none, .initial⟩

/-- The text that the pattern was read from. -/
def source? (tokenClass : TokenClass) : Option String := tokenClass.pattern.map Pattern.source

/-- The match of the class at the start of `input`. A pattern that takes nothing there does not
count, for it would never get past that place. -/
def match? (tokenClass : TokenClass) (input : List Char) : Option Match :=
  match tokenClass.pattern.bind fun pattern => pattern.matchLength? input with
  | some (length + 1) => some ⟨length + 1, Nat.succ_pos length⟩
  | _ => none

/-- The class of line breaks: one or more of them, in any state. -/
def lineBreak : TokenClass where
  name := "EOL"
  pattern := some <| .ofProgram "[\\r\\n]+"
    (Pattern.Expr.repetition 1 none true (.codes (CodeSet.ofList [(10, 10), (13, 13)]))).toProgram
  scope := .any

/-- The class of the token that ends every input. -/
def inputEnd : TokenClass := never "EOF"

end TokenClass

end ShiftReduce
