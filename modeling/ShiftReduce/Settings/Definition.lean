import ShiftReduce.Lexer.Settings
import ShiftReduce.Parser.Language
import ShiftReduce.Settings.Layers

/-!
# Language definitions

A language is defined by settings: the text of its grammar and what its lexer registers. Every
definition lies over the same defaults.

## Main definitions

* `LanguageDefinition` — a grammar and the lexer that it is written against
* `LanguageDefinition.ofSetting` — the definition that a table of settings is
* `LanguageDefinition.load` — the definition that layers make up
* `LanguageDefinition.build` — the language that is defined
-/

namespace ShiftReduce

/-- The text of a grammar and the lexer that it is written against. -/
structure LanguageDefinition where
  grammar : String
  lexer : LexerSettings
deriving DecidableEq, Repr

namespace LanguageDefinition

/-! ### Reading settings -/

/-- A setting as a text. -/
def readText (setting : Setting) : Except LoadError String :=
  match setting.toText? with
  | some text => .ok text
  | none => .error .wrongType

/-- A setting as a truth value. -/
def readFlag (setting : Setting) : Except LoadError Bool :=
  match setting.toFlag? with
  | some value => .ok value
  | none => .error .wrongType

/-- A setting as a list. -/
def readList {α : Type} (readItem : Setting → Except LoadError α) :
    Setting → Except LoadError (List α)
  | .list items => items.mapM readItem
  | _ => .error .wrongShape

/-- The fields of a table. A list has the fields of the given names, in their order. -/
def fieldsOf (names : List String) : Setting → Except LoadError (List (String × Setting))
  | .table entries => .ok entries
  | .list items => .ok (names.zip items)
  | _ => .error .wrongShape

/-- A field, if it is there. -/
def readField {α : Type} (read : Setting → Except LoadError α) (name : String)
    (fields : List (String × Setting)) : Except LoadError (Option α) :=
  match fields.lookup name with
  | none => .ok none
  | some setting => do .ok (some (← read setting))

/-- A field, if it is there and not absent. -/
def readOptional {α : Type} (read : Setting → Except LoadError α) (name : String)
    (fields : List (String × Setting)) : Except LoadError (Option α) :=
  match fields.lookup name with
  | none | some .absent => .ok none
  | some setting => do .ok (some (← read setting))

/-- What must be there. -/
def require {α : Type} : Option α → Except LoadError α
  | some value => .ok value
  | none => .error .wrongShape

/-- A state of the lexer. -/
def readState (setting : Setting) : Except LoadError State := do
  let fields ← fieldsOf ["name", "strict"] setting
  let name ← readField readText "name" fields
  let strict ← readField readFlag "strict" fields
  .ok ⟨← require name, strict.getD false⟩

/-- A token class. -/
def readClass (setting : Setting) : Except LoadError ClassSettings := do
  let fields ← fieldsOf ["name", "pattern", "state"] setting
  let name ← readField readText "name" fields
  let pattern ← readOptional readText "pattern" fields
  let state ← readOptional readText "state" fields
  .ok ⟨← require name, pattern, state⟩

/-- A group of token classes. -/
def readGroup (setting : Setting) : Except LoadError GroupSettings := do
  let fields ← fieldsOf ["name", "classes"] setting
  let name ← readField readText "name" fields
  let classes ← readField (readList readText) "classes" fields
  .ok ⟨← require name, ← require classes⟩

/-- A transition. -/
def readTransition (setting : Setting) : Except LoadError TransitionSettings := do
  let fields ← fieldsOf ["class", "group", "from", "to"] setting
  let tokenClass ← readOptional readText "class" fields
  let group ← readOptional readText "group" fields
  let source ← readOptional readText "from" fields
  let target ← readField readText "to" fields
  .ok ⟨tokenClass, group, source, ← require target⟩

/-- A lexer. -/
def readLexer (setting : Setting) : Except LoadError LexerSettings := do
  let fields ← fieldsOf
    ["stateful", "skip_whitespace", "states", "classes", "groups", "transitions"] setting
  let stateful ← readField readFlag "stateful" fields
  let skipWhitespace ← readField readFlag "skip_whitespace" fields
  let states ← readField (readList readState) "states" fields
  let classes ← readField (readList readClass) "classes" fields
  let groups ← readField (readList readGroup) "groups" fields
  let transitions ← readField (readList readTransition) "transitions" fields
  .ok ⟨← require stateful, ← require skipWhitespace, states.getD [], classes.getD [],
    groups.getD [], transitions.getD []⟩

/-- The definition that a table of settings is. Entries of other names are left out. -/
def ofSetting (setting : Setting) : Except LoadError LanguageDefinition := do
  let fields ← fieldsOf ["grammar", "lexer"] setting
  let grammar ← readField readText "grammar" fields
  let lexer ← readField readLexer "lexer" fields
  .ok ⟨← require grammar, ← require lexer⟩

/-! ### Loading and building -/

/-- The settings of every definition that says nothing else. -/
def defaults : Setting :=
  .table [
    ("grammar", .text ""),
    ("lexer", .table [
      ("stateful", .flag false), ("skip_whitespace", .flag true), ("states", .list []),
      ("classes", .list []), ("groups", .list []), ("transitions", .list [])])]

/-- The definition that layers make up, where `contentOf` gives the content of files by name. -/
def load (contentOf : String → Option String) (layers : List Layer) :
    Except LoadError LanguageDefinition := do
  ofSetting (← loadLayers contentOf defaults layers)

/-- The language that is defined. -/
def build (definition : LanguageDefinition) : Except BuildError Language :=
  match definition.lexer.build with
  | .error error => .error (.lexer error)
  | .ok lexer => Language.ofText lexer definition.grammar

end LanguageDefinition

end ShiftReduce
