import ShiftReduce.Lexer.Registry

/-!
# Lexer settings

A description of a lexer by plain data, and the lexer that it describes.

## Main definitions

* `LexerSettings` — the states, classes, groups and transitions of a lexer, as they are declared
* `LexerSettings.build` — registers all of them with a fresh lexer
-/

namespace ShiftReduce

/-- A class as it is declared. Without a pattern it matches nothing. -/
structure ClassSettings where
  name : String
  pattern : Option String
  state : Option String
deriving DecidableEq, Repr

/-- A group as it is declared. -/
structure GroupSettings where
  name : String
  classes : List String
deriving DecidableEq, Repr

/-- A transition as it is declared. It should name either a class or a group. -/
structure TransitionSettings where
  tokenClass : Option String
  group : Option String
  source : Option String
  target : String
deriving DecidableEq, Repr

/-- A lexer as it is declared. -/
structure LexerSettings where
  stateful : Bool := false
  skipWhitespace : Bool := true
  states : List State := []
  classes : List ClassSettings := []
  groups : List GroupSettings := []
  transitions : List TransitionSettings := []
deriving DecidableEq, Repr

/-- The class that is declared. -/
def ClassSettings.toClass (settings : ClassSettings) : Except LexerError TokenClass := do
  let plain ← match settings.pattern with
    | none => .ok (TokenClass.never settings.name)
    | some source =>
      match TokenClass.ofPattern settings.name source with
      | .ok tokenClass => .ok tokenClass
      | .error reason => .error (.invalidPattern settings.name reason)
  match settings.state with
  | none => .ok plain
  | some state => .ok { plain with scope := Scope.ofName state }

/-- The transition that is declared. A group without a source leaves any state. -/
def TransitionSettings.toRule (settings : TransitionSettings) :
    Except LexerError Lexer.TransitionRule :=
  match settings.tokenClass, settings.group with
  | some name, none => .ok ⟨.ofClass name, settings.source, settings.target⟩
  | none, some name => .ok ⟨.ofGroup name, some (settings.source.getD anyStateName),
      settings.target⟩
  | _, _ => .error (.invalidTransition settings.target)

namespace LexerSettings

/-- Registers everything, in this order: states, classes, groups, transitions. -/
def register (settings : LexerSettings) : Registration Unit := do
  Lexer.setStateful settings.stateful
  Lexer.setSkipsGaps settings.skipWhitespace
  Lexer.addStates settings.states
  settings.classes.forM fun declared => do
    let tokenClass ← liftExcept declared.toClass
    let _ ← Lexer.addClass tokenClass
  settings.groups.forM fun declared => Lexer.addGroup declared.name declared.classes
  settings.transitions.forM fun declared => do
    let rule ← liftExcept declared.toRule
    Lexer.addTransition rule
where
  /-- A failure without an effect on the lexer. -/
  liftExcept {α : Type} (result : Except LexerError α) : Registration α :=
    ExceptT.mk (pure result)

/-- The lexer that is described, or the first failure. -/
def build (settings : LexerSettings) : Except LexerError Lexer :=
  match settings.register.run.run Lexer.initial with
  | (.ok _, lexer) => .ok lexer
  | (.error error, _) => .error error

end LexerSettings

end ShiftReduce
