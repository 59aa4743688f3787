import ShiftReduce.Command.Files
import ShiftReduce.Command.Journal
import ShiftReduce.Format.Registry
import ShiftReduce.Format.TableDump
import ShiftReduce.Settings.Definition

/-!
# Running commands

A command loads a language definition, works on an input, and prints what comes of it. What it logs
and why it fails goes elsewhere than its output.

## Main definitions

* `Failure`, `Failure.report` — why a command fails, with the causes
* `Work` — actions that print, log and may fail
* `Report` — what a finished command leaves
* `runArguments` — a whole command line
* `pathsOfArguments` — the paths whose files a command line needs
-/

namespace ShiftReduce

/-! ### Failures -/

/-- Why a command fails: in short, and the chain of causes behind that. -/
structure Failure where
  summary : String
  causes : List String := []
deriving DecidableEq, Repr

namespace Failure

/-- A cause with what stands in front of its first line and of the others. -/
def causeLines (first others cause : String) : String :=
  first ++ String.join (cause.toList.map fun char =>
    if char == '\n' then "\n" ++ others else char.toString)

/-- The causes from a number on, each on lines of its own. -/
def numberedCauses (number : Nat) : List String → List String
  | [] => []
  | cause :: rest =>
    causeLines (Text.padLeft 5 (toString number) ++ ": ") "       " cause ::
      numberedCauses (number + 1) rest

/-- The failure as text. Causes are numbered if there are several. -/
def report (failure : Failure) : String :=
  let causes := match failure.causes with
    | [] => []
    | [cause] => ["\nCaused by:", causeLines "    " "    " cause]
    | causes => "\nCaused by:" :: numberedCauses 0 causes
  "\n".intercalate (("Error: " ++ failure.summary) :: causes) ++ "\n"

end Failure

/-! ### Work -/

/-- What was printed and logged so far. -/
structure Trail where
  printed : String := ""
  records : List LogRecord := []

/-- Actions that print, log and may fail. What was printed and logged before a failure stays. -/
abbrev Work := ExceptT Failure (StateM Trail)

namespace Work

/-- Prints text. -/
def print (text : String) : Work Unit :=
  modify fun trail => { trail with printed := trail.printed ++ text }

/-- Logs records. -/
def log (records : List LogRecord) : Work Unit :=
  modify fun trail => { trail with records := trail.records ++ records }

end Work

open Work

/-! ### Loading -/

/-- Why settings cannot be loaded, in words. -/
def LoadError.message : LoadError → String
  | .missingFile name => "configuration file \"" ++ name ++ "\" not found"
  | .malformed => "the definition is not a settings file"
  | .invalidPath key => "\"" ++ key ++ "\" is not a path of settings"
  | .wrongType => "a setting is of the wrong type"
  | .wrongShape => "a setting is missing or of the wrong shape"

/-- Why there is no language, without what kind of failure it is. -/
def BuildError.cause : BuildError → String
  | .lexer error => error.message
  | .grammar error => error.message
  | .conflict found => found.message

/-- Logs the building of a language, as far as it goes. -/
def logBuilding (definition : LanguageDefinition) : Work Unit :=
  match definition.lexer.build with
  | .error _ => pure ()
  | .ok lexer =>
    match Grammar.ofText lexer definition.grammar with
    | .error _ => pure ()
    | .ok grammar => log (grammar.records ++ grammar.buildTables.records grammar)

/-- Loads the language of a definition. -/
def loadLanguage (files : FileSource) (path : String) : Work Language := do
  let contentOf (name : String) : Option String := (files name).toOption
  let definition ← match LanguageDefinition.load contentOf [.file path] with
    | .ok definition => pure definition
    | .error error =>
      throw ⟨"failed to load language definition " ++ path, [error.message]⟩
  log [⟨.info, "lrlang", "loaded language definition " ++ path⟩]
  logBuilding definition
  match definition.build with
  | .ok language => pure language
  | .error error =>
    throw ⟨"invalid language definition " ++ path, [error.message, error.cause]⟩

/-- Reads an input. -/
def readInput (files : FileSource) (path : String) : Work String :=
  match files path with
  | .ok content => pure content
  | .error failure => throw ⟨"failed to read input file " ++ path, [failure.message]⟩

/-! ### Commands -/

/-- The line of a token: its place, its class and its text. -/
def tokenLine (lexer : Lexer) (token : Token) : String :=
  Text.padLeft 5 (toString token.start) ++ ".." ++ Text.padRight 5 (toString token.stop) ++ " " ++
    Text.padRight 12 (lexer.className token.kind) ++ " " ++ Text.quote token.value ++ "\n"

/-- Prints the tokens of an input. -/
def printTokens (language : Language) (input : String) : Work Unit := do
  let lexer := language.lexer
  let tokenized := lexer.tokenize input
  log (lexer.records input tokenized)
  print (String.join (tokenized.tokens.map (tokenLine lexer)))
  if !tokenized.success then
    throw ⟨"could not tokenize input near " ++ Text.quote tokenized.excerpt ++ " (state " ++
      lexer.states.name tokenized.state ++ ")", []⟩

/-- The lines of reductions, from a number on. -/
def reductionLines (grammar : Grammar) (number : Nat) : List Reduction → String
  | [] => ""
  | reduction :: rest =>
    Text.padLeft 4 (toString number) ++ "  " ++
      grammar.describeAlternative reduction.rule reduction.alternative ++ "\n" ++
      reductionLines grammar (number + 1) rest

/-- A text with a break at its end. -/
def endLineOf (text : String) : String :=
  if text.toList.getLast? = some '\n' then text else text ++ "\n"

/-- Parses an input. -/
def deriveInput (language : Language) (input : String) : Work Derivation := do
  let tokenized := language.lexer.tokenize input
  log (language.lexer.records input tokenized)
  match language.derive? input with
  | none => throw ⟨"the parse does not end", []⟩
  | some result =>
    if tokenized.success then
      log (language.parser.engine.records Parser.actionLimit tokenized.tokens result)
    match result with
    | .ok derivation => pure derivation
    | .error error => throw ⟨error.message, []⟩

/-- Prints the tree of an input. -/
def printTree (language : Language) (input format : String) (wholeTree showReductions : Bool) :
    Work Unit := do
  let derivation ← deriveInput language input
  if showReductions then
    print (reductionLines language.parser.grammar 1 derivation.reductions ++ "\n")
  let node := if wholeTree then derivation.tree else derivation.tree.toAst
  match FormatRegistry.standard.write format node with
  | .ok written => print (endLineOf written)
  | .error error => throw ⟨error.message, []⟩

/-- Prints the parse table. -/
def printTable (language : Language) (format : TableFormat) : Work Unit :=
  let dump := language.parser.tables.dump language.parser.grammar
  match format with
  | .text => print (dump.toText ++ "\n")
  | .json => print (dump.toJson ++ "\n")

/-- Runs a command. -/
def Command.run (files : FileSource) : Command → Work Unit
  | .tokens path input => do
    let language ← loadLanguage files path
    printTokens language (← readInput files input)
  | .parse path input format wholeTree showReductions => do
    let language ← loadLanguage files path
    printTree language (← readInput files input) format wholeTree showReductions
  | .table path format => do
    printTable (← loadLanguage files path) format

/-- The paths where a command may look for files. -/
def Command.paths (command : Command) : List String :=
  let language := command.language :: (withEnding? command.language).toList
  match command with
  | .tokens _ input => language ++ [input]
  | .parse _ input _ _ _ => language ++ [input]
  | .table _ _ => language

/-! ### Command lines -/

/-- What a finished command leaves: its exit code, its output, and its logs and failures. -/
structure Report where
  code : Nat
  output : String
  errors : String
deriving DecidableEq, Repr

/-- How to use the program. -/
def usage : String :=
  "Tokenize and parse text with a TOML language definition

Usage: lrlang [OPTIONS] <COMMAND>

Commands:
  tokens  Print the token stream of an input
  parse   Parse an input and print its tree
  table   Dump the parse table built from a definition
  help    Print this message or the help of the given subcommand(s)

Options:
  -v, --verbose...  Increase log output (-v info, -vv debug, -vvv trace)
  -q, --quiet       Only log errors
  -h, --help        Print help
  -V, --version     Print version
"

/-- The program's name and version. -/
def versionLine : String := "lrlang 0.1.0\n"

/-- Runs an invocation. -/
def Invocation.run (files : FileSource) (invocation : Invocation) : Report :=
  let (result, trail) := (invocation.command.run files).run.run {}
  let logged := LogRecord.render invocation.verbosity.threshold trail.records
  match result with
  | .ok _ => ⟨0, trail.printed, logged⟩
  | .error failure => ⟨1, trail.printed, logged ++ failure.report⟩

/-- The paths where a command line may look for files. -/
def pathsOfArguments (arguments : List String) : List String :=
  match Invocation.ofArguments arguments with
  | .ok invocation => invocation.command.paths
  | .error _ => []

/-- Runs a command line. -/
def runArguments (files : FileSource) (arguments : List String) : Report :=
  match Invocation.ofArguments arguments with
  | .ok invocation => invocation.run files
  | .error .help => ⟨0, usage, ""⟩
  | .error .version => ⟨0, versionLine, ""⟩
  | .error .misuse => ⟨2, "", usage⟩

end ShiftReduce
