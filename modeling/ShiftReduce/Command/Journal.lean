import ShiftReduce.Command.Log
import ShiftReduce.Parser.Language

/-!
# What is logged

The records of loading a grammar, building its tables, scanning and parsing, drawn up from their
results.

## Main definitions

* `Grammar.records`, `ParserTables.records` — building a parser
* `Lexer.records` — scanning
* `Engine.records` — parsing
-/

namespace ShiftReduce

/-- The record of a loaded grammar. -/
def Grammar.records (grammar : Grammar) : List LogRecord := [
  ⟨.debug, "lrlang::grammar::loader", "loaded grammar: " ++ toString grammar.rules.length ++
    " rules (" ++ toString grammar.declaredCount ++ " declared), " ++
    toString (grammar.terminals.length - 1) ++ " literal terminals"⟩]

/-- The record of a reduction that was dropped. -/
def Resolution.record (grammar : Grammar) (resolution : Resolution) : LogRecord :=
  ⟨.warn, "lrlang::tables::action", "shift/reduce conflict in state " ++
    toString resolution.state ++ " on " ++ grammar.symbolName resolution.lookahead ++
    ": keeping " ++ resolution.kept.describe grammar ++
    ", dropping " ++ resolution.dropped.describe grammar⟩

/-- The records of building tables. The last one is missing if there is a conflict. -/
def ParserTables.records (tables : ParserTables) (grammar : Grammar) : List LogRecord :=
  [⟨.debug, "lrlang::automaton::set",
      "built LR(0) automaton with " ++ toString tables.automaton.sets.length ++ " states"⟩,
    ⟨.debug, "lrlang::tables::extended", "extended grammar: " ++
      toString tables.paths.edges.length ++ " items, " ++
      toString tables.paths.rules.length ++ " rules"⟩,
    ⟨.debug, "lrlang::tables::sets",
      "FIRST sets settled after " ++ toString tables.lookahead.firstPasses ++ " passes"⟩,
    ⟨.debug, "lrlang::tables::sets",
      "FOLLOW sets settled after " ++ toString tables.lookahead.followPasses ++ " passes"⟩] ++
  tables.table.resolved.map (Resolution.record grammar) ++
  if tables.conflict.isSome then []
  else [⟨.debug, "lrlang::tables::action", "parse table: " ++
    toString tables.table.rows.length ++ " states, " ++
    toString tables.table.actionCount ++ " actions, " ++
    toString tables.table.gotoCount ++ " gotos"⟩]

/-! ### Scanning -/

namespace Lexer

/-- What scanning is logged under. -/
def logTarget : String := "lrlang::lexing::lexer"

/-- The records of some tokens, from a state on. A transition is recorded even if it leads back to
its state. -/
def tokenRecords (lexer : Lexer) (state : StateIndex) : List Token → List LogRecord
  | [] => []
  | token :: rest =>
    let taken : LogRecord := ⟨.trace, logTarget,
      "token " ++ Text.quote token.value ++ " : " ++ lexer.className token.kind⟩
    let fired := lexer.stateful &&
      (lexer.transitions.find? fun transition => transition.fires token.kind state).isSome
    let next := lexer.stateAfter token.kind state
    let moved : List LogRecord :=
      if fired then [⟨.trace, logTarget,
        "state " ++ lexer.states.name state ++ " -> " ++ lexer.states.name next⟩]
      else []
    taken :: moved ++ tokenRecords lexer next rest

/-- The records of scanning an input. -/
def records (lexer : Lexer) (input : String) (tokenized : Tokenized) : List LogRecord :=
  lexer.tokenRecords initialState tokenized.tokens ++
    if tokenized.success then []
    else
      let place := Text.byteLength input.toList - Text.byteLength tokenized.remainder.toList
      [⟨.debug, logTarget, "no token class matches at byte " ++ toString place ++ " in state " ++
        lexer.states.name tokenized.state⟩]

end Lexer

/-! ### Parsing -/

namespace Engine

/-- What parsing is logged under. -/
def logTarget : String := "lrlang::parsing::engine"

/-- The record of an action. -/
def actionRecord (engine : Engine) (config : Config) (choice : Choice) : LogRecord :=
  ⟨.trace, logTarget, "state " ++ toString config.top ++ " at token " ++
    toString config.before.length ++ ": " ++ choice.action.describe engine.grammar⟩

/-- The records of a parse with its result. -/
def records (engine : Engine) (limit : Nat) (tokens : List Token)
    (result : Except ParseError Derivation) : List LogRecord :=
  (engine.historyFor limit (.start tokens)).map (fun (config, choice) =>
    engine.actionRecord config choice) ++
  match result with
  | .error (.internal reason) =>
    [⟨.error, logTarget, "parse engine invariant broken: " ++ reason⟩]
  | _ => []

end Engine

end ShiftReduce
