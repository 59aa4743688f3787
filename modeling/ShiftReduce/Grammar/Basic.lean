import ShiftReduce.Grammar.Symbol
import ShiftReduce.Lexer.Token
import ShiftReduce.Text.Quoted

/-!
# Grammars

A grammar is a list of rules over literal terminals and over the rules themselves. Rule 0 starts
every derivation and stands for the first declared rule; the declared rules follow, and after them
one rule for each token class, which stands for a single token of that class.

## Main definitions

* `Rule`, `RuleKind` — a rule, and where it comes from
* `Grammar` — rules, literal terminals and the names of the token classes
* `Grammar.isTerminal` — which symbols consume input
* `Grammar.symbolName`, `Grammar.describeAlternative` — symbols and alternatives in words
-/

namespace ShiftReduce

/-- Where a rule comes from. -/
inductive RuleKind
  | start
  | declared
  | tokenClass (index : ClassIndex)
deriving DecidableEq, Repr

/-- A named list of alternatives, each a list of symbols. -/
structure Rule where
  name : String
  kind : RuleKind
  alternatives : List (List Symbol)
deriving DecidableEq, Repr

/-- The rules, literal terminals and token classes of a grammar. -/
structure Grammar where
  rules : List Rule
  terminals : List String
  classes : List String
deriving DecidableEq, Repr

/-- The name of the rule that starts every derivation. No declared rule can have it. -/
def startName : String := "#S"

/-- The name of the rule of a token class. -/
def classRuleName (className : String) : String := "Token-" ++ className

namespace Grammar

/-- The rule that starts every derivation. -/
def startRule : RuleIndex := 0

/-- The alternatives of a rule; none for an index that is no rule. -/
def alternatives (grammar : Grammar) (rule : RuleIndex) : List (List Symbol) :=
  (grammar.rules[rule]?.map Rule.alternatives).getD []

/-- The symbols of an alternative; none where there is no such alternative. -/
def alternative (grammar : Grammar) (rule : RuleIndex) (index : Nat) : List Symbol :=
  ((grammar.alternatives rule)[index]?).getD []

/-- The name of a rule. -/
def ruleName (grammar : Grammar) (rule : RuleIndex) : String :=
  (grammar.rules[rule]?.map Rule.name).getD ""

/-- The text of a literal terminal. -/
def terminal (grammar : Grammar) (index : TerminalIndex) : String :=
  (grammar.terminals[index]?).getD ""

/-- The name of a token class, if it was there when the grammar was loaded. -/
def className? (grammar : Grammar) (kind : ClassIndex) : Option String := grammar.classes[kind]?

/-- The rule of a given name. -/
def findRule? (grammar : Grammar) (name : String) : Option RuleIndex :=
  grammar.rules.findIdx? fun rule => rule.name == name

/-- The rule that stands for the tokens of a class. -/
def classRule? (grammar : Grammar) (kind : ClassIndex) : Option RuleIndex :=
  grammar.rules.findIdx? fun rule => rule.kind == .tokenClass kind

/-- The rule that stands for the end of the input. -/
def endRule (grammar : Grammar) : RuleIndex := (grammar.classRule? endClass).getD startRule

/-- Whether a rule stands for the tokens of a class. -/
def isClassRule (grammar : Grammar) (rule : RuleIndex) : Bool :=
  match grammar.rules[rule]?.map Rule.kind with
  | some (.tokenClass _) => true
  | _ => false

/-- Literals and rules of token classes: the symbols that consume input. -/
def isTerminal (grammar : Grammar) : Symbol → Bool
  | .terminal _ => true
  | .rule rule => grammar.isClassRule rule

/-- The number of rules that the text of the grammar declares. -/
def declaredCount (grammar : Grammar) : Nat :=
  grammar.rules.countP fun rule => rule.kind == .declared

/-! ### Names -/

/-- A literal in quotes, or the name of a rule in angle brackets. -/
def symbolName (grammar : Grammar) : Symbol → String
  | .terminal index => Text.quote (grammar.terminal index)
  | .rule rule => "<" ++ grammar.ruleName rule ++ ">"

/-- An alternative with the name of its rule, the way it is declared. -/
def describeAlternative (grammar : Grammar) (rule : RuleIndex) (index : Nat) : String :=
  grammar.ruleName rule ++ " ::= " ++
    " ".intercalate ((grammar.alternative rule index).map grammar.symbolName)

end Grammar

end ShiftReduce
