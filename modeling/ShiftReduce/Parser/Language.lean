import ShiftReduce.Grammar.Load
import ShiftReduce.Parser.Engine
import ShiftReduce.Table.Build
import ShiftReduce.Tree.Ast

/-!
# Languages

A parser is a grammar with its table, and a language is a lexer with a parser for its tokens.

## Main definitions

* `BuildError` — why there is no language
* `Parser`, `Parser.ofText` — a grammar with its tables
* `Language`, `Language.ofText` — a lexer with a parser
* `Parser.derive?`, `Language.derive?` — the parse of tokens and of texts
-/

namespace ShiftReduce

/-- Why a lexer and the text of a grammar make up no language. -/
inductive BuildError
  | lexer (error : LexerError)
  | grammar (error : GrammarError)
  | conflict (conflict : Conflict)
deriving DecidableEq, Repr

/-- The failure in words. -/
def BuildError.message : BuildError → String
  | .lexer error => "configuration error: " ++ error.message
  | .grammar error => "configuration error: " ++ error.message
  | .conflict found => "grammar conflict: " ++ found.message

/-- A grammar with the tables that were built from it. -/
structure Parser where
  grammar : Grammar
  tables : ParserTables

namespace Parser

/-- The parser of a grammar, unless there is a conflict. -/
def ofGrammar (grammar : Grammar) : Except Conflict Parser :=
  let tables := grammar.buildTables
  match tables.conflict with
  | none => .ok ⟨grammar, tables⟩
  | some conflict => .error conflict

/-- The parser of the grammar that a text declares, over the token classes of a lexer. -/
def ofText (lexer : Lexer) (text : String) : Except BuildError Parser :=
  match Grammar.ofText lexer text with
  | .error error => .error (.grammar error)
  | .ok grammar =>
    match ofGrammar grammar with
    | .error conflict => .error (.conflict conflict)
    | .ok parser => .ok parser

/-- What drives the parses. -/
def engine (parser : Parser) : Engine := ⟨parser.grammar, parser.tables.table⟩

/-- More actions than any parse takes that ends at all before the machine does. -/
def actionLimit : Nat := Nat.pow 2 62

/-- The parse of some tokens, if it ends. -/
def derive? (parser : Parser) (tokens : List Token) : Option (Except ParseError Derivation) :=
  parser.engine.runFor actionLimit (.start tokens)

end Parser

/-- A lexer with a parser for its tokens. -/
structure Language where
  lexer : Lexer
  parser : Parser

namespace Language

/-- The language of a lexer and the text of a grammar. -/
def ofText (lexer : Lexer) (text : String) : Except BuildError Language := do
  .ok ⟨lexer, ← Parser.ofText lexer text⟩

/-- The parse of an input, if it ends. -/
def derive? (language : Language) (input : String) : Option (Except ParseError Derivation) :=
  let tokenized := language.lexer.tokenize input
  if tokenized.success then language.parser.derive? tokenized.tokens
  else some (.error (.tokenize tokenized))

/-- The syntax tree of an input, if its parse ends. -/
def parse? (language : Language) (input : String) : Option (Except ParseError Node) :=
  (language.derive? input).map fun result => result.map fun derivation => derivation.tree.toAst

end Language

end ShiftReduce
