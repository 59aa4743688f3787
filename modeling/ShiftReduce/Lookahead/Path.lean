import ShiftReduce.Automaton.Basic

/-!
# Paths through the automaton

An alternative that may start in some state of the automaton is a path from there, along the edges
that its symbols label. The edge of its rule from the same state goes beside it. One rule reached
from several states gives several paths, which is what tells apart the lookaheads of its uses.

## Main definitions

* `Edge` — a symbol as it is read from a state
* `Path` — an alternative in the place of the automaton where it starts
* `PathGrammar` — all paths, with their edges numbered
* `Automaton.pathGrammar` — the path grammar of an automaton
-/

namespace ShiftReduce

/-- A symbol as it is read from a state, with the state that it leads to. The rule that starts every
derivation leads nowhere. -/
structure Edge where
  source : SetIndex
  target : Option SetIndex
  symbol : Symbol
deriving DecidableEq, Repr

/-- An alternative of a rule in the place of the automaton where it starts: the edge of its rule,
and those of its symbols one after the other. -/
structure Path where
  head : Edge
  body : List Edge
  rule : RuleIndex
  alternative : Nat
deriving DecidableEq, Repr

namespace Automaton

/-- The edge of a symbol from a state. -/
def edge (automaton : Automaton) (set : SetIndex) (symbol : Symbol) : Edge :=
  ⟨set, automaton.target? set symbol, symbol⟩

/-- The edges of some symbols, each from the state that the one before leads to. They end behind
an edge that leads nowhere. -/
def walk (automaton : Automaton) (set : SetIndex) : List Symbol → List Edge
  | [] => []
  | symbol :: rest =>
    let edge := automaton.edge set symbol
    match edge.target with
    | none => [edge]
    | some target => edge :: walk automaton target rest

/-- The path of an item from a state. -/
def path (automaton : Automaton) (grammar : Grammar) (set : SetIndex) (item : Item) : Path where
  head := automaton.edge set (.rule item.rule)
  body := automaton.walk set (item.symbols grammar)
  rule := item.rule
  alternative := item.alternative

/-- The paths that start in any state, by the order of states and of the items in them. -/
def paths (automaton : Automaton) (grammar : Grammar) : List Path :=
  (List.range automaton.sets.length).flatMap fun set =>
    ((automaton.items set).filter fun item => item.dot == 0).map (automaton.path grammar set)

end Automaton

/-! ### The path grammar -/

/-- A place in the edges of a path grammar. -/
abbrev EdgeIndex := Nat

/-- A path with its edges by number. -/
structure PathRule where
  head : EdgeIndex
  body : List EdgeIndex
  rule : RuleIndex
  alternative : Nat
deriving DecidableEq, Repr

/-- The paths through an automaton and their edges, in the order the paths first use them. -/
structure PathGrammar where
  edges : List Edge
  rules : List PathRule
deriving DecidableEq, Repr

/-- Whether every edge of a path leads somewhere. -/
def Path.isResolved (path : Path) : Bool := path.body.all fun edge => edge.target.isSome

/-- A path with its edges by number. -/
def Path.number (edges : List Edge) (path : Path) : PathRule where
  head := edges.idxOf path.head
  body := path.body.map fun edge => edges.idxOf edge
  rule := path.rule
  alternative := path.alternative

/-- The path grammar of an automaton. -/
def Automaton.pathGrammar (automaton : Automaton) (grammar : Grammar) : PathGrammar :=
  let paths := automaton.paths grammar
  let edges := (paths.flatMap fun path => path.head :: path.body).eraseDups
  ⟨edges, (paths.filter Path.isResolved).map (Path.number edges)⟩

/-- The state that a path ends in. -/
def PathGrammar.finalSet? (paths : PathGrammar) (rule : PathRule) : Option SetIndex :=
  rule.body.getLast?.bind fun last => paths.edges[last]?.bind Edge.target

end ShiftReduce
