import ShiftReduce.Grammar.Basic
import ShiftReduce.Grammar.Definition
import ShiftReduce.Lexer.Registry

/-!
# Loading grammars

The definitions of a text become a grammar once every name in them is looked up. Literals are
numbered in the order of their first appearance, after the empty one.

## Main definitions

* `Grammar.ofDefinitions` — the grammar of some definitions, over given token classes
* `Grammar.ofText` — the grammar that a text declares, over the token classes of a lexer
-/

namespace ShiftReduce.Grammar

/-- The first name that occurs twice. `seen` holds the names before. -/
def repeatedName? (seen : List String) : List String → Option String
  | [] => none
  | name :: rest => if seen.contains name then some name else repeatedName? (name :: seen) rest

/-- The index of a literal, and the literals with it added behind the others if it is new. -/
def intern (text : String) (terminals : List String) : TerminalIndex × List String :=
  match terminals.findIdx? (· == text) with
  | some index => (index, terminals)
  | none => (terminals.length, terminals ++ [text])

/-- The symbol of a word, where `names` lists the rules. The rule that starts every derivation
cannot be referred to. -/
def resolveWord (names terminals : List String) :
    Word → Except GrammarError (Symbol × List String)
  | .literal text =>
    let (index, terminals) := intern text terminals
    .ok (.terminal index, terminals)
  | .reference name =>
    match names.findIdx? (· == name) with
    | some (index + 1) => .ok (.rule (index + 1), terminals)
    | _ => .error (.unresolvedRule name)

/-- The symbols of an alternative. -/
def resolveAlternative (names : List String) (terminals : List String) :
    List Word → Except GrammarError (List Symbol × List String)
  | [] => .ok ([], terminals)
  | word :: rest => do
    let (symbol, terminals) ← resolveWord names terminals word
    let (symbols, terminals) ← resolveAlternative names terminals rest
    .ok (symbol :: symbols, terminals)

/-- The alternatives of a rule. -/
def resolveAlternatives (names : List String) (terminals : List String) :
    List (List Word) → Except GrammarError (List (List Symbol) × List String)
  | [] => .ok ([], terminals)
  | words :: rest => do
    let (symbols, terminals) ← resolveAlternative names terminals words
    let (others, terminals) ← resolveAlternatives names terminals rest
    .ok (symbols :: others, terminals)

/-- The rules of some definitions. -/
def resolveDefinitions (names : List String) (terminals : List String) :
    List Definition → Except GrammarError (List Rule × List String)
  | [] => .ok ([], terminals)
  | definition :: rest => do
    let (alternatives, terminals) ← resolveAlternatives names terminals definition.alternatives
    let (others, terminals) ← resolveDefinitions names terminals rest
    .ok (⟨definition.name, .declared, alternatives⟩ :: others, terminals)

/-- The rules of token classes, the first of which has a given index. -/
def classRules (index : ClassIndex) : List String → List Rule
  | [] => []
  | name :: rest => ⟨classRuleName name, .tokenClass index, []⟩ :: classRules (index + 1) rest

/-- The grammar of some definitions over token classes of given names. -/
def ofDefinitions (classes : List String) (definitions : List Definition) :
    Except GrammarError Grammar := do
  if definitions.isEmpty then .error .noRules
  let names := startName :: definitions.map Definition.name ++ classes.map classRuleName
  match repeatedName? [] names with
  | some name => .error (.duplicateRule name)
  | none =>
    let (declared, terminals) ← resolveDefinitions names [""] definitions
    let start : Rule := ⟨startName, .start, [[.rule 1]]⟩
    .ok ⟨start :: declared ++ classRules 0 classes, terminals, classes⟩

/-- The grammar that a text declares, over the token classes of a lexer. -/
def ofText (lexer : Lexer) (text : String) : Except GrammarError Grammar := do
  ofDefinitions lexer.classNames (← Definition.ofText text)

end ShiftReduce.Grammar
