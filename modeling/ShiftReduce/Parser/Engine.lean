import ShiftReduce.Parser.Failure
import ShiftReduce.Parser.Select
import ShiftReduce.Tree.Node

/-!
# The parse engine

The engine holds a stack of states and a stack of trees. Step by step it shifts tokens onto them and
reduces the trees on top to a branch, until it accepts the one that is left or finds no action for
what comes next.

## Main definitions

* `Config` — a moment of a parse, and `Config.start`, its beginning
* `Outcome` — a parse that goes on, or its result
* `Engine.step` — one action
* `Engine.runFor` — a bounded number of actions, with the result if there is one by then
* `Engine.Yields` — the result of a parse, without a bound
-/

namespace ShiftReduce

/-- A reduction that was done: the alternative of a rule. -/
structure Reduction where
  rule : RuleIndex
  alternative : Nat
deriving DecidableEq, Repr

/-- A finished parse: the tree, and the reductions that built it in the order they were done. -/
structure Derivation where
  tree : Node
  reductions : List Reduction

/-- A moment of a parse. The stacks have their tops first; there is a state below those of the
trees. The tokens before the current place, and the reductions done, have the last one first. -/
structure Config where
  states : List SetIndex
  nodes : List Node
  before : List Token
  rest : List Token
  reductions : List Reduction

namespace Config

/-- The tokens of an input with an end, which is added unless the last of them is one. -/
def withEnd (tokens : List Token) : List Token :=
  match tokens.getLast? with
  | none => [Token.endAt 0]
  | some last => if last.isEnd then tokens else tokens ++ [Token.endAt last.stop]

/-- The beginning of a parse. -/
def start (tokens : List Token) : Config := ⟨[startSet], [], [], withEnd tokens, []⟩

/-- The state on top. -/
def top (config : Config) : SetIndex := config.states.head?.getD startSet

end Config

/-- A parse that goes on, or its result. -/
inductive Outcome
  | running (config : Config)
  | finished (result : Except ParseError Derivation)

/-- What drives a parse: a grammar and its table. -/
structure Engine where
  grammar : Grammar
  table : Table

namespace Engine

/-- The leaf of the tokens that a shift takes. Several of them spelled a literal. -/
def leaf (engine : Engine) : List Token → Node
  | [] => .epsilon
  | [token] => .leaf token.value (engine.grammar.className? token.kind)
  | tokens => .leaf (String.join (tokens.map Token.value)) none

/-- Shifts tokens, and goes to a state. -/
def shift (engine : Engine) (config : Config) (target : SetIndex) (width : Nat) : Config where
  states := target :: config.states
  nodes := engine.leaf (config.rest.take width) :: config.nodes
  before := (config.rest.take width).reverse ++ config.before
  rest := config.rest.drop width
  reductions := config.reductions

/-- Fails where the table and the stacks do not agree. -/
def failInternally (reason : String) : Outcome := .finished (.error (.internal reason))

/-- Reduces the trees on top to a branch, and goes to a state from the one below them. -/
def reduce (engine : Engine) (config : Config) (rule : RuleIndex) (alternative : Nat) : Outcome :=
  let width := (engine.grammar.alternative rule alternative).length
  if config.nodes.length < width then
    failInternally ("reduce " ++ engine.grammar.describeAlternative rule alternative ++ " with " ++
      toString config.nodes.length ++ " nodes on the stack")
  else
    let below : Config := { config with
      states := config.states.drop width
      nodes := config.nodes.drop width }
    match engine.table.goto? below.top rule with
    | none => failInternally ("no goto on " ++ engine.grammar.ruleName rule ++ " from state " ++
        toString below.top)
    | some target => .running { below with
        states := target :: below.states
        nodes := .branch (engine.grammar.ruleName rule) (config.nodes.take width).reverse ::
          below.nodes
        reductions := ⟨rule, alternative⟩ :: config.reductions }

/-- Accepts the tree that is left. -/
def accept (config : Config) : Outcome :=
  match config.nodes with
  | [tree] => .finished (.ok ⟨tree, config.reductions.reverse⟩)
  | nodes => failInternally ("accept with " ++ toString (max 1 nodes.length) ++
      " nodes on the stack")

/-- Why there is no action for what comes next. -/
def unexpected (config : Config) : ParseError :=
  match config.rest with
  | [] => .unexpectedEnd
  | token :: _ =>
    if token.isEnd then .unexpectedEnd
    else
      let (line, column) := location config.before.reverse token
      .unexpectedToken token line column

/-- What the engine does next. -/
def choose? (engine : Engine) (config : Config) : Option Choice :=
  engine.table.choose? engine.grammar config.top config.rest

/-- One action. -/
def step (engine : Engine) (config : Config) : Outcome :=
  match engine.choose? config with
  | none => .finished (.error (unexpected config))
  | some ⟨.shift target, width⟩ => .running (engine.shift config target width)
  | some ⟨.reduce rule alternative, _⟩ => engine.reduce config rule alternative
  | some ⟨.accept, _⟩ => accept config

/-! ### Whole parses -/

/-- The result of a parse, if it takes no more than `limit` actions. -/
def runFor (engine : Engine) (limit : Nat) (config : Config) :
    Option (Except ParseError Derivation) :=
  match limit with
  | 0 => none
  | limit + 1 =>
    match engine.step config with
    | .finished result => some result
    | .running next => runFor engine limit next

/-- The moments of a parse with the action chosen in each, for no more than `limit` actions. -/
def historyFor (engine : Engine) (limit : Nat) (config : Config) : List (Config × Choice) :=
  match limit with
  | 0 => []
  | limit + 1 =>
    match engine.choose? config with
    | none => []
    | some choice =>
      (config, choice) :: match engine.step config with
        | .finished _ => []
        | .running next => historyFor engine limit next

/-- The parse of some tokens ends with a result. -/
def Yields (engine : Engine) (tokens : List Token) (result : Except ParseError Derivation) : Prop :=
  ∃ limit, engine.runFor limit (.start tokens) = some result

end Engine

end ShiftReduce
