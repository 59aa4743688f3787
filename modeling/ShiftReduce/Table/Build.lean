import ShiftReduce.Lookahead.Sets
import ShiftReduce.Table.Basic

/-!
# Building parse tables

Shifts and gotos are the edges of the automaton, and the state behind the first declared rule
accepts at the end of the input. Then the reductions are entered one by one, each in the state where
the paths of its alternative end and for the terminals that may follow these paths. A shift keeps
its place before a reduction; two different reductions in one place are a conflict.

## Main definitions

* `baseRow` — a state's shifts, gotos and acceptance
* `Candidate`, `candidates` — the reductions that want a place in the table
* `Table.enter`, `Table.enterAll` — enters reductions
* `ParserTables`, `Grammar.buildTables` — the table with all that it was built from
-/

namespace ShiftReduce

/-! ### Shifts, gotos and acceptance -/

/-- The shift that an edge stands for: one that reads a terminal. -/
def shiftOf? (grammar : Grammar) : Symbol × SetIndex → Option (Symbol × Action)
  | (symbol, target) => if grammar.isTerminal symbol then some (symbol, .shift target) else none

/-- The goto that an edge stands for: one that reads a rule of the grammar's text. -/
def gotoOf? (grammar : Grammar) : Symbol × SetIndex → Option (RuleIndex × SetIndex)
  | (.terminal _, _) => none
  | (.rule rule, target) => if grammar.isTerminal (.rule rule) then none else some (rule, target)

/-- Whether a state holds the start rule with its dot behind everything. -/
def accepts (grammar : Grammar) (set : ItemSet) : Bool :=
  set.items.any fun item => item.rule == Grammar.startRule && item.isComplete grammar

/-- A state's shifts, gotos and acceptance. Accepting takes the place of a shift. -/
def baseRow (grammar : Grammar) (set : ItemSet) : Row :=
  let shifts := set.edges.filterMap (shiftOf? grammar)
  { actions :=
      if accepts grammar set then
        Sorted.insert Symbol.precedes (.rule grammar.endRule) .accept shifts
      else shifts
    gotos := set.edges.filterMap (gotoOf? grammar) }

/-! ### Reductions -/

/-- A reduction that wants a place in the table. -/
structure Candidate where
  state : SetIndex
  lookahead : Symbol
  rule : RuleIndex
  alternative : Nat
deriving DecidableEq, Repr

/-- What may follow the paths of one alternative that end in a given state. -/
def followUnion (paths : PathGrammar) (lookahead : Lookahead) (uses : List PathRule)
    (state : SetIndex) : SymbolSet :=
  ((uses.filter fun use => paths.finalSet? use == some state).map
    fun use => symbolsAt lookahead.follow use.head).foldl SymbolSet.union []

/-- The reductions of one alternative: by state, then by terminal. -/
def alternativeCandidates (paths : PathGrammar) (lookahead : Lookahead) (states : Nat)
    (rule : RuleIndex) (alternative : Nat) : List Candidate :=
  let uses := paths.rules.filter fun use => use.rule == rule && use.alternative == alternative
  (List.range states).flatMap fun state =>
    (followUnion paths lookahead uses state).map (⟨state, ·, rule, alternative⟩)

/-- All reductions: by rule, by alternative, by state, and by terminal. The start rule is accepted
instead. -/
def candidates (grammar : Grammar) (paths : PathGrammar) (lookahead : Lookahead) (states : Nat) :
    List Candidate :=
  ((List.range grammar.rules.length).filter (· ≠ Grammar.startRule)).flatMap fun rule =>
    (List.range (grammar.alternatives rule).length).flatMap
      (alternativeCandidates paths lookahead states rule)

namespace Table

/-- Enters a reduction. A shift or acceptance in its place stays. -/
def enter (grammar : Grammar) (table : Table) (candidate : Candidate) : Except Conflict Table :=
  let reduce := Action.reduce candidate.rule candidate.alternative
  match table.action? candidate.state candidate.lookahead with
  | none =>
    .ok { table with rows := table.rows.modify candidate.state fun row =>
      { row with actions := Sorted.insert Symbol.precedes candidate.lookahead reduce row.actions } }
  | some .accept => .ok table
  | some (.shift target) =>
    let resolution := ⟨candidate.state, candidate.lookahead, .shift target, reduce⟩
    .ok { table with resolved := table.resolved ++ [resolution] }
  | some (.reduce rule alternative) =>
    if Action.reduce rule alternative = reduce then .ok table
    else .error ⟨candidate.state, grammar.symbolName candidate.lookahead,
      (Action.reduce rule alternative).describe grammar, reduce.describe grammar⟩

/-- Enters reductions up to the first conflict, if there is one. The table is the one before it. -/
def enterAll (grammar : Grammar) (table : Table) : List Candidate → Table × Option Conflict
  | [] => (table, none)
  | candidate :: rest =>
    match table.enter grammar candidate with
    | .ok table => enterAll grammar table rest
    | .error conflict => (table, some conflict)

/-- The number of actions of all states. -/
def actionCount (table : Table) : Nat := (table.rows.flatMap Row.actions).length

/-- The number of gotos of all states. -/
def gotoCount (table : Table) : Nat := (table.rows.flatMap Row.gotos).length

end Table

/-! ### Everything together -/

/-- The automaton of a grammar, its paths, their lookaheads, and the table built from them, up to
the first conflict if there is one. -/
structure ParserTables where
  automaton : Automaton
  paths : PathGrammar
  lookahead : Lookahead
  table : Table
  conflict : Option Conflict
deriving Repr

namespace Grammar

/-- Builds everything that leads to the parse table of a grammar. -/
def buildTables (grammar : Grammar) : ParserTables :=
  let automaton := grammar.automaton
  let paths := automaton.pathGrammar grammar
  let lookahead := paths.lookahead grammar
  let base : Table := ⟨automaton.sets.map (baseRow grammar), []⟩
  let (table, conflict) :=
    base.enterAll grammar (candidates grammar paths lookahead automaton.sets.length)
  ⟨automaton, paths, lookahead, table, conflict⟩

/-- The parse table of a grammar, unless two reductions are in conflict. -/
def table (grammar : Grammar) : Except Conflict Table :=
  let tables := grammar.buildTables
  match tables.conflict with
  | none => .ok tables.table
  | some conflict => .error conflict

end Grammar

end ShiftReduce
