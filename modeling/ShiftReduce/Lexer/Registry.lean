import ShiftReduce.Lexer.Token

/-!
# Lexers and what is registered with them

A lexer holds token classes in the order they are tried, groups of classes, states, and transitions
between states. They are registered one by one. A registration that fails leaves the lexer as it
was before; in a series of registrations, what came before the failure stays.

## Main definitions

* `StateTable` — the states of a lexer, by name and by index
* `Lexer` — a lexer with everything registered so far, and `Lexer.initial`, a fresh one
* `LexerError` — why a registration fails
* `Registration` — an action on a lexer that may fail
* `Lexer.addState`, `Lexer.addClass`, `Lexer.addGroup`, `Lexer.addTransition` — the registrations
-/

namespace ShiftReduce

/-- A place in the table of states. -/
abbrev StateIndex := Nat

/-- The state that stands for all states that are not strict. -/
def anyState : StateIndex := 0

/-- The state that every input starts in. -/
def initialState : StateIndex := 1

/-! ### States -/

/-- A lexer state. In a strict state, only the classes registered for it match. -/
structure State where
  name : String
  strict : Bool
deriving DecidableEq, Repr, Inhabited

/-- The states of a lexer, in the order they were added. -/
structure StateTable where
  states : List State
deriving DecidableEq, Repr

namespace StateTable

/-- The table with the two states that every lexer has. -/
def initial : StateTable := ⟨[⟨anyStateName, false⟩, ⟨initialStateName, false⟩]⟩

/-- The state of a given name. -/
def find? (table : StateTable) (name : String) : Option StateIndex :=
  table.states.findIdx? fun state => state.name == name

/-- Adds a state, unless there is one of that name already, which then stays as it is. -/
def add (table : StateTable) (name : String) (strict : Bool) : StateIndex × StateTable :=
  match table.find? name with
  | some index => (index, table)
  | none => (table.states.length, ⟨table.states ++ [⟨name, strict⟩]⟩)

/-- The name of a state; empty for an index that is not in the table. -/
def name (table : StateTable) (index : StateIndex) : String :=
  (table.states[index]?.map State.name).getD ""

/-- Whether a state is strict. -/
def isStrict (table : StateTable) (index : StateIndex) : Bool :=
  (table.states[index]?.map State.strict).getD false

end StateTable

/-! ### Lexers -/

/-- A class with the state that it matches in. -/
structure RegisteredClass where
  tokenClass : TokenClass
  state : StateIndex

/-- A named group of classes. -/
structure Group where
  name : String
  classes : List ClassIndex
deriving DecidableEq, Repr

/-- A change of state after a token of one of some classes. `grouped` tells whether the classes
were given as a group. -/
structure Transition where
  classes : List ClassIndex
  source : StateIndex
  target : StateIndex
  grouped : Bool
deriving DecidableEq, Repr

/-- Whether a token of class `kind` sets off the transition in state `state`. -/
def Transition.fires (transition : Transition) (kind : ClassIndex) (state : StateIndex) : Bool :=
  (transition.source == state || transition.source == anyState) && transition.classes.contains kind

/-- A lexer: what is registered with it, and its two switches. -/
structure Lexer where
  classes : List RegisteredClass
  groups : List Group
  states : StateTable
  transitions : List Transition
  /-- Whether there are states and transitions beyond the initial state. -/
  stateful : Bool
  /-- Whether blanks between tokens are skipped. -/
  skipsGaps : Bool

/-- Why a registration fails. -/
inductive LexerError
  | invalidPattern (className : String) (reason : Pattern.ReadError)
  | duplicateClass (name : String)
  | unknownState (name : String)
  | unknownClass (name : String)
  | unknownGroup (name : String)
  /-- A transition that names both a class and a group, or neither. -/
  | invalidTransition (target : String)
  | notStateful
deriving DecidableEq, Repr

/-- The failure in words. -/
def LexerError.message : LexerError → String
  | .invalidPattern className reason =>
    "invalid pattern for token class \"" ++ className ++ "\": " ++ reason.message
  | .duplicateClass name => "token class \"" ++ name ++ "\" is already registered"
  | .unknownState name => "\"" ++ name ++ "\" is not a valid state"
  | .unknownClass name => "\"" ++ name ++ "\" is not a valid token class"
  | .unknownGroup name => "\"" ++ name ++ "\" is not a valid token class group"
  | .invalidTransition target =>
    "transition to \"" ++ target ++ "\" must name exactly one of a class or a group"
  | .notStateful => "lexer is not in stateful mode"

/-- An action on a lexer that may fail. What it did to the lexer before a failure is kept. -/
abbrev Registration := ExceptT LexerError (StateM Lexer)

namespace Lexer

/-- A lexer with the two classes and the two states that every lexer has. -/
def initial : Lexer where
  classes := [⟨.lineBreak, anyState⟩, ⟨.inputEnd, initialState⟩]
  groups := []
  states := StateTable.initial
  transitions := []
  stateful := false
  skipsGaps := true

/-- The class of a given name. -/
def findClass? (lexer : Lexer) (name : String) : Option ClassIndex :=
  lexer.classes.findIdx? fun entry => entry.tokenClass.name == name

/-- The name of a class; empty for an index that is not registered. -/
def className (lexer : Lexer) (index : ClassIndex) : String :=
  (lexer.classes[index]?.map fun entry => entry.tokenClass.name).getD ""

/-- The names of the classes, in order. -/
def classNames (lexer : Lexer) : List String :=
  lexer.classes.map fun entry => entry.tokenClass.name

/-- The state that a name refers to. -/
def findState? (lexer : Lexer) (name : String) : Option StateIndex :=
  if name = anyStateName then some anyState
  else if name = initialStateName then some initialState
  else lexer.states.find? name

/-- The first group of a given name. -/
def findGroup? (lexer : Lexer) (name : String) : Option Group :=
  lexer.groups.find? fun group => group.name == name

/-- The value of an option, or a failure. -/
def require {α : Type} (value : Option α) (error : LexerError) : Registration α :=
  match value with
  | some value => pure value
  | none => throw error

/-- Switches states and transitions on or off. -/
def setStateful (value : Bool) : Registration Unit :=
  modify fun lexer => { lexer with stateful := value }

/-- Switches the skipping of blanks on or off. -/
def setSkipsGaps (value : Bool) : Registration Unit :=
  modify fun lexer => { lexer with skipsGaps := value }

/-- Registers a state. One that is registered already keeps its strictness. -/
def addState (name : String) (strict : Bool) : Registration StateIndex := do
  let lexer ← get
  if !lexer.stateful then throw .notStateful
  let (index, states) := lexer.states.add name strict
  set ({ lexer with states } : Lexer)
  return index

/-- Registers states, up to the first that fails. -/
def addStates (states : List State) : Registration Unit :=
  states.forM fun state => do let _ ← addState state.name state.strict

/-- Registers a class after all others. The state that it is scoped to is registered with it,
without strictness, if there is none yet. -/
def addClass (tokenClass : TokenClass) : Registration ClassIndex := do
  if ((← get).findClass? tokenClass.name).isSome then throw (.duplicateClass tokenClass.name)
  let state ← match tokenClass.scope with
    | .any => pure anyState
    | .initial => pure initialState
    | .named name => addState name false
  let lexer ← get
  set ({ lexer with classes := lexer.classes ++ [⟨tokenClass, state⟩] } : Lexer)
  return lexer.classes.length

/-- Registers classes, up to the first that fails. -/
def addClasses (classes : List TokenClass) : Registration Unit :=
  classes.forM fun tokenClass => do let _ ← addClass tokenClass

/-- Registers a group of classes, all of which must be registered. -/
def addGroup (name : String) (members : List String) : Registration Unit := do
  let lexer ← get
  let classes ← members.mapM fun member =>
    require (lexer.findClass? member) (.unknownClass member)
  set ({ lexer with groups := lexer.groups ++ [⟨name, classes⟩] } : Lexer)

/-! ### Transitions -/

/-- What sets off a transition. -/
inductive Trigger
  | ofClass (name : String)
  | ofGroup (name : String)
deriving DecidableEq, Repr

/-- A transition as it is declared, with classes, groups and states by name. Without a source, it
leaves the state of its class, or for a group any state. -/
structure TransitionRule where
  trigger : Trigger
  source : Option String
  target : String
deriving DecidableEq, Repr

/-- The state of a class. -/
def classState (lexer : Lexer) (index : ClassIndex) : StateIndex :=
  (lexer.classes[index]?.map RegisteredClass.state).getD anyState

/-- The source of a transition: the one that is declared, or else `fallback`. -/
def sourceOf (lexer : Lexer) (declared : Option String) (fallback : StateIndex) :
    Registration StateIndex :=
  match declared with
  | some name => require (lexer.findState? name) (.unknownState name)
  | none => pure fallback

/-- The transition that a rule declares. The target is looked up first, then the class or group,
then the source. -/
def resolve (rule : TransitionRule) : Registration Transition := do
  let lexer ← get
  let target ← require (lexer.findState? rule.target) (.unknownState rule.target)
  match rule.trigger with
  | .ofClass name =>
    let index ← require (lexer.findClass? name) (.unknownClass name)
    let source ← sourceOf lexer rule.source (lexer.classState index)
    return ⟨[index], source, target, false⟩
  | .ofGroup name =>
    let group ← require (lexer.findGroup? name) (.unknownGroup name)
    let source ← sourceOf lexer rule.source anyState
    return ⟨group.classes, source, target, true⟩

/-- Puts a transition behind all others of its kind; those of groups stand before those of single
classes. -/
def insertTransition (transition : Transition) (transitions : List Transition) : List Transition :=
  if transition.grouped then
    transitions.takeWhile Transition.grouped ++ transition ::
      transitions.dropWhile Transition.grouped
  else transitions ++ [transition]

/-- Registers a transition. -/
def addTransition (rule : TransitionRule) : Registration Unit := do
  if !(← get).stateful then throw .notStateful
  let transition ← resolve rule
  modify fun lexer =>
    { lexer with transitions := insertTransition transition lexer.transitions }

/-- Registers transitions, up to the first that fails. -/
def addTransitions (rules : List TransitionRule) : Registration Unit := rules.forM addTransition

end Lexer

end ShiftReduce
