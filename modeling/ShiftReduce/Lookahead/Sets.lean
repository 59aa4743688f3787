import ShiftReduce.Lookahead.Path

/-!
# Lookahead sets

For every edge of a path grammar: the terminals that a text read along it may start with, and those
that may come behind it. Both are the least sets that the paths force, reached by passes over all
paths until one changes nothing.

## Main definitions

* `firstOf` — what a sequence of edges may start with
* `firstPass`, `followPass` — one pass over all paths
* `settle` — passes until nothing changes
* `Lookahead`, `PathGrammar.lookahead` — the sets of all edges
-/

namespace ShiftReduce

/-- The set of an edge. -/
def symbolsAt (sets : List SymbolSet) (edge : EdgeIndex) : SymbolSet := (sets[edge]?).getD []

/-- Adds symbols to the set of an edge. -/
def extendAt (sets : List SymbolSet) (edge : EdgeIndex) (symbols : SymbolSet) : List SymbolSet :=
  sets.modify edge fun known => SymbolSet.union known symbols

/-- What a sequence of edges may start with, apart from the empty literal, and whether nothing at
all may be read along it. -/
def firstOf (first : List SymbolSet) : List EdgeIndex → SymbolSet × Bool
  | [] => ([], true)
  | edge :: rest =>
    let symbols := symbolsAt first edge
    let visible := symbols.filter (· ≠ Symbol.epsilon)
    if Symbol.epsilon ∈ symbols then
      let (others, nullable) := firstOf first rest
      (SymbolSet.union visible others, nullable)
    else (visible, false)

/-- Repeats a pass until one changes nothing, which counts as well. -/
def settle {α : Type} [DecidableEq α] (pass : α → α) (fuel : Nat) (sets : α) : α × Nat :=
  match fuel with
  | 0 => (sets, 0)
  | fuel + 1 =>
    let next := pass sets
    if next = sets then (sets, 1)
    else
      let (settled, passes) := settle pass fuel next
      (settled, passes + 1)

namespace PathGrammar

/-- More passes than can change something: each adds a symbol to a set. -/
def passBound (paths : PathGrammar) (grammar : Grammar) : Nat :=
  paths.edges.length * (grammar.terminals.length + grammar.rules.length) + 1

/-! ### What may come first -/

/-- The sets before any pass: a terminal starts with itself. -/
def initialFirst (paths : PathGrammar) (grammar : Grammar) : List SymbolSet :=
  paths.edges.map fun edge => if grammar.isTerminal edge.symbol then [edge.symbol] else []

/-- Adds to the set of a path's rule what its body may start with. -/
def firstStep (first : List SymbolSet) (rule : PathRule) : List SymbolSet :=
  let (symbols, nullable) := firstOf first rule.body
  extendAt first rule.head (if nullable then SymbolSet.insert .epsilon symbols else symbols)

/-- One pass over all paths. -/
def firstPass (paths : PathGrammar) (first : List SymbolSet) : List SymbolSet :=
  paths.rules.foldl firstStep first

/-! ### What may follow -/

/-- The sets before any pass: the end of the input follows the start rule, which heads the first
path. -/
def initialFollow (paths : PathGrammar) (grammar : Grammar) : List SymbolSet :=
  extendAt (paths.edges.map fun _ => []) 0 [.rule grammar.endRule]

/-- Adds to the set of each edge of a path what may start behind it, and also what follows the
path's rule if nothing else need come behind it. -/
def followAlong (first : List SymbolSet) (head : EdgeIndex) (follow : List SymbolSet) :
    List EdgeIndex → List SymbolSet
  | [] => follow
  | edge :: rest =>
    let (symbols, nullable) := firstOf first rest
    let found := if nullable then SymbolSet.union symbols (symbolsAt follow head) else symbols
    followAlong first head (extendAt follow edge found) rest

/-- One pass over all paths. -/
def followPass (paths : PathGrammar) (first : List SymbolSet) (follow : List SymbolSet) :
    List SymbolSet :=
  paths.rules.foldl (fun follow rule => followAlong first rule.head follow rule.body) follow

end PathGrammar

/-! ### Both -/

/-- The sets of all edges, and how many passes it took to settle them. -/
structure Lookahead where
  first : List SymbolSet
  follow : List SymbolSet
  firstPasses : Nat
  followPasses : Nat
deriving DecidableEq, Repr

/-- The lookahead sets of a path grammar. -/
def PathGrammar.lookahead (paths : PathGrammar) (grammar : Grammar) : Lookahead :=
  let bound := paths.passBound grammar
  let (first, firstPasses) := settle paths.firstPass bound (paths.initialFirst grammar)
  let (follow, followPasses) :=
    settle (paths.followPass first) bound (paths.initialFollow grammar)
  ⟨first, follow, firstPasses, followPasses⟩

end ShiftReduce
