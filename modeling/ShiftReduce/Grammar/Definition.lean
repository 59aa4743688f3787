import ShiftReduce.Grammar.Bnf
import ShiftReduce.Text.Blank
import ShiftReduce.Text.Quoted

/-!
# Definitions

The text of a grammar is a list of definitions. Each starts on a line of its own and may go on over
the lines that follow; a definition is a rule's name with its alternatives, each of them a list of
names and literals.

## Main definitions

* `GrammarError` — why a text is no grammar
* `Definition` — a rule as it is written
* `Definition.ofText` — the definitions that a text holds
-/

namespace ShiftReduce

/-- Why a definition cannot be read. -/
inductive BnfFault
  /-- A line that continues a definition before there is one. -/
  | expectedDefinition
  | expectedName
  | unexpectedInput (near : String)
  | unexpectedDefine
deriving DecidableEq, Repr

/-- The fault in words. -/
def BnfFault.message : BnfFault → String
  | .expectedDefinition => "expected a rule definition `<Name> ::= ...`"
  | .expectedName => "expected `<Name> ::=` at the start"
  | .unexpectedInput near => "unexpected input near " ++ Text.quote near
  | .unexpectedDefine => "unexpected `::=`"

/-- Why a text is no grammar. -/
inductive GrammarError
  | invalidBnf (line : Nat) (fault : BnfFault)
  | invalidRuleName (name : String)
  | duplicateRule (name : String)
  | emptyAlternative (rule : String)
  | unresolvedRule (name : String)
  | noRules
deriving DecidableEq, Repr

/-- The failure in words. -/
def GrammarError.message : GrammarError → String
  | .invalidBnf line fault => "invalid BNF at line " ++ toString line ++ ": " ++ fault.message
  | .invalidRuleName name => "invalid rule name \"" ++ name ++ "\""
  | .duplicateRule name => "rule \"" ++ name ++ "\" is defined more than once"
  | .emptyAlternative rule => "rule \"" ++ rule ++ "\" has an empty alternative"
  | .unresolvedRule name => "\"" ++ name ++ "\" is not a valid rule"
  | .noRules => "grammar declares no rules"

/-! ### Definitions -/

/-- A symbol as it is written: a name that is yet to be looked up, or a literal. -/
inductive Word
  | reference (name : String)
  | literal (text : String)
deriving DecidableEq, Repr

/-- A rule as it is written. -/
structure Definition where
  name : String
  alternatives : List (List Word)
deriving DecidableEq, Repr

namespace Definition

/-- Whether a text may name a rule: an ASCII letter, then ASCII letters, digits and hyphens. -/
def isName (name : String) : Bool :=
  match name.toList with
  | [] => false
  | first :: rest => first.isAlpha && rest.all fun char => char.isAlphanum || char == '-'

/-- Refuses what is no rule name. -/
def checkName (name : String) : Except GrammarError Unit :=
  if isName name then .ok () else .error (.invalidRuleName name)

/-- Puts a word in front of the first alternative. -/
def prepend (word : Word) : List (List Word) → List (List Word)
  | [] => [[word]]
  | first :: rest => (word :: first) :: rest

/-- The alternatives that some lexemes make up. -/
def readAlternatives (line : Nat) : List Bnf.Lexeme → Except GrammarError (List (List Word))
  | [] => .ok [[]]
  | .pipe :: rest => do
    let others ← readAlternatives line rest
    .ok ([] :: others)
  | .reference name :: rest => do
    checkName name
    let others ← readAlternatives line rest
    .ok (prepend (.reference name) others)
  | .literal text :: rest => do
    let others ← readAlternatives line rest
    .ok (prepend (.literal text) others)
  | .define :: _ => .error (.invalidBnf line .unexpectedDefine)

/-- The definition that a text makes up, which starts on a given line. -/
def read (line : Nat) (text : List Char) : Except GrammarError Definition :=
  match Bnf.lexemes text with
  | .error unread => .error (.invalidBnf line (.unexpectedInput (String.ofList (unread.take 12))))
  | .ok (.reference name :: .define :: body) => do
    checkName name
    let alternatives ← readAlternatives line body
    if alternatives.any List.isEmpty then .error (.emptyAlternative name)
    else .ok ⟨name, alternatives⟩
  | .ok _ => .error (.invalidBnf line .expectedName)

/-! ### Lines -/

/-- Joins the lines of each definition with a blank between them. `line` numbers the first of the
lines, and `done` holds the definitions before it in reverse, each with the line that it starts on.
Empty lines are left out. -/
def joinLines (line : Nat) (done : List (Nat × List Char)) :
    List (List Char) → Except GrammarError (List (Nat × List Char))
  | [] => .ok done.reverse
  | raw :: rest =>
    let text := Text.trim raw
    if text.isEmpty then joinLines (line + 1) done rest
    else if Bnf.startsDefinition text then joinLines (line + 1) ((line, text) :: done) rest
    else match done with
      | [] => .error (.invalidBnf line .expectedDefinition)
      | (first, current) :: others =>
        joinLines (line + 1) ((first, current ++ ' ' :: text) :: others) rest

/-- The definitions that a text holds. Lines are joined before any definition is read. -/
def ofText (text : String) : Except GrammarError (List Definition) := do
  let joined ← joinLines 1 [] (Text.lines text.toList)
  joined.mapM fun (line, text) => read line text

end Definition

end ShiftReduce
