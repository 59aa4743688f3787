/-!
# Command-line arguments

The first word of a command line names a command; the words that start with hyphens are flags and
options, and the others are what the command works on. Two flags may stand before the command or
behind it; where both places have one of them, the place behind counts.

## Main definitions

* `Command` — what there is to do
* `Verbosity` — how much is logged
* `Invocation` — a command with its verbosity
* `Stop` — why a command line gives nothing to do
* `Invocation.ofArguments` — the reading of a command line
-/

namespace ShiftReduce

/-- How a parse table is printed. -/
inductive TableFormat
  | text
  | json
deriving DecidableEq, Repr

/-- What there is to do. -/
inductive Command
  /-- Print the tokens of an input. -/
  | tokens (language input : String)
  /-- Print the tree of an input: the syntax tree, or the whole parse tree; and before it, if that
  is wanted, the reductions. -/
  | parse (language input format : String) (wholeTree showReductions : Bool)
  /-- Print the parse table. -/
  | table (language : String) (format : TableFormat)
deriving DecidableEq, Repr

/-- The path of a command's language definition. -/
def Command.language : Command → String
  | .tokens language _ => language
  | .parse language _ _ _ _ => language
  | .table language _ => language

/-- How much is logged: how often more was asked for, and whether only errors are wanted. -/
structure Verbosity where
  more : Nat
  quiet : Bool
deriving DecidableEq, Repr

/-- A command with its verbosity. -/
structure Invocation where
  command : Command
  verbosity : Verbosity
deriving DecidableEq, Repr

/-- Why a command line gives nothing to do: it asks for help or for the version, or it is wrong. -/
inductive Stop
  | help
  | version
  | misuse
deriving DecidableEq, Repr

namespace Arguments

/-! ### Words -/

/-- The flags and options of a command: their long names with their letters, if they have one. -/
structure Shape where
  flags : List (String × Option Char)
  options : List (String × Char)
  /-- The values that options are restricted to. -/
  choices : List (String × List String)
  /-- The number of words that are neither; without one, the first such word ends the reading. -/
  places : Option Nat
deriving Repr

/-- What was read of a command line: its flags, its options with their values, its other words, and
the option that still waits for its value. -/
structure Found where
  flags : List String := []
  values : List (String × String) := []
  words : List String := []
  waiting : Option String := none
deriving Repr

/-- The flag that may be given more than once. -/
def repeatable : String := "verbose"

namespace Found

/-- Refuses to go on while an option waits for its value. -/
def settled (found : Found) : Except Stop Unit :=
  if found.waiting.isSome then .error .misuse else .ok ()

/-- Adds a flag. -/
def addFlag (found : Found) (name : String) : Except Stop Found := do
  found.settled
  if name = "help" then .error .help
  else if name = "version" then .error .version
  else if name ≠ repeatable && found.flags.contains name then .error .misuse
  else .ok { found with flags := name :: found.flags }

/-- Adds an option that waits for its value. -/
def addOption (found : Found) (name : String) : Except Stop Found := do
  found.settled
  if (found.values.lookup name).isSome then .error .misuse
  else .ok { found with waiting := some name }

/-- Adds the value of the option that waits for it. -/
def addValue (found : Found) (shape : Shape) (name value : String) : Except Stop Found :=
  let allowed := match shape.choices.lookup name with
    | none => true
    | some values => values.contains value
  if allowed then .ok { found with values := (name, value) :: found.values, waiting := none }
  else .error .misuse

/-- Adds another word. -/
def addWord (found : Found) (places : Nat) (word : String) : Except Stop Found := do
  found.settled
  if found.words.length < places then .ok { found with words := found.words ++ [word] }
  else .error .misuse

end Found

/-- A word up to its first equals sign, and what is behind that. -/
def splitValue (word : List Char) : List Char × Option (List Char) :=
  match word.dropWhile (· != '=') with
  | [] => (word, none)
  | _ :: value => (word.takeWhile (· != '='), some value)

/-- Reads a flag or an option by its long name. -/
def readLong (shape : Shape) (found : Found) (word : List Char) : Except Stop Found :=
  let (chars, value?) := splitValue word
  let name := String.ofList chars
  match value? with
  | none =>
    if (shape.flags.lookup name).isSome then found.addFlag name
    else if (shape.options.lookup name).isSome then found.addOption name
    else .error .misuse
  | some value =>
    if (shape.options.lookup name).isSome then do
      let found ← found.addOption name
      found.addValue shape name (String.ofList value)
    else .error .misuse

/-- Reads letters behind a hyphen. An option takes what is left behind its letter for its value. -/
def readLetters (shape : Shape) (found : Found) : List Char → Except Stop Found
  | [] => .ok found
  | letter :: rest =>
    match shape.flags.find? fun flag => flag.2 == some letter with
    | some (name, _) => do readLetters shape (← found.addFlag name) rest
    | none =>
      match shape.options.find? fun option => option.2 == letter with
      | none => .error .misuse
      | some (name, _) => do
        let found ← found.addOption name
        match rest with
        | [] => .ok found
        | '=' :: value => found.addValue shape name (String.ofList value)
        | value => found.addValue shape name (String.ofList value)

/-- Reads the words of a command line, and returns those from the first one on that ends the
reading. Behind two hyphens alone, words are neither flags nor options. -/
def readWords (shape : Shape) (found : Found) (plain : Bool) :
    List String → Except Stop (Found × List String)
  | [] => do
    found.settled
    .ok (found, [])
  | word :: rest =>
    match plain, word.toList with
    | false, ['-', '-'] => readWords shape found true rest
    | false, '-' :: '-' :: name => do
      readWords shape (← readLong shape found name) false rest
    | false, '-' :: letter :: letters => do
      readWords shape (← readLetters shape found (letter :: letters)) false rest
    | _, _ =>
      match found.waiting, shape.places with
      | some name, _ =>
        if plain then .error .misuse
        else do readWords shape (← found.addValue shape name word) false rest
      | none, none => if plain then .error .misuse else .ok (found, word :: rest)
      | none, some places => do readWords shape (← found.addWord places word) plain rest

/-! ### Commands -/

/-- The flags that may stand in front of a command and behind it. -/
def commonFlags : List (String × Option Char) :=
  [("verbose", some 'v'), ("quiet", some 'q'), ("help", some 'h')]

/-- What may stand in front of a command. -/
def frontShape : Shape := ⟨("version", some 'V') :: commonFlags, [], [], none⟩

/-- The words that may stand behind the command that prints tokens. -/
def tokensShape : Shape := ⟨commonFlags, [("language", 'l')], [], some 1⟩

/-- The words that may stand behind the command that prints trees. -/
def parseShape : Shape :=
  ⟨("tree", none) :: ("trace", none) :: commonFlags, [("language", 'l'), ("format", 'f')], [],
    some 1⟩

/-- The words that may stand behind the command that prints parse tables. -/
def tableShape : Shape :=
  ⟨commonFlags, [("language", 'l'), ("format", 'f')], [("format", ["text", "json"])], some 0⟩

/-- What must be there. -/
def require {α : Type} : Option α → Except Stop α
  | some value => .ok value
  | none => .error .misuse

/-- The command that prints tokens. -/
def readTokens (found : Found) : Except Stop Command := do
  let language ← require (found.values.lookup "language")
  .ok (.tokens language (← require found.words.head?))

/-- The command that prints trees. -/
def readParse (found : Found) : Except Stop Command := do
  let language ← require (found.values.lookup "language")
  let format := (found.values.lookup "format").getD "treeviz"
  .ok (.parse language (← require found.words.head?) format (found.flags.contains "tree")
    (found.flags.contains "trace"))

/-- The command that prints parse tables. -/
def readTable (found : Found) : Except Stop Command := do
  let format := if found.values.lookup "format" = some "json" then .json else .text
  .ok (.table (← require (found.values.lookup "language")) format)

/-- The verbosity of the flags in front of a command and behind it. -/
def verbosity (front behind : Found) : Verbosity :=
  let count (found : Found) : Nat := found.flags.count "verbose"
  ⟨if count behind = 0 then count front else count behind,
    front.flags.contains "quiet" || behind.flags.contains "quiet"⟩

/-- The names of the commands. -/
def commandNames : List String := ["tokens", "parse", "table", "help"]

/-- The command of a name, with the words behind it. -/
def readCommand (front : Found) (name : String) (rest : List String) :
    Except Stop Invocation := do
  let finish (shape : Shape) (read : Found → Except Stop Command) : Except Stop Invocation := do
    let (behind, _) ← readWords shape {} false rest
    .ok ⟨← read behind, verbosity front behind⟩
  match name with
  | "tokens" => finish tokensShape readTokens
  | "parse" => finish parseShape readParse
  | "table" => finish tableShape readTable
  | "help" =>
    match rest with
    | [] => .error .help
    | [topic] => if commandNames.contains topic then .error .help else .error .misuse
    | _ => .error .misuse
  | _ => .error .misuse

end Arguments

/-- The reading of a command line. -/
def Invocation.ofArguments (arguments : List String) : Except Stop Invocation := do
  let (front, rest) ← Arguments.readWords Arguments.frontShape {} false arguments
  match rest with
  | [] => .error .misuse
  | name :: rest => Arguments.readCommand front name rest

end ShiftReduce
