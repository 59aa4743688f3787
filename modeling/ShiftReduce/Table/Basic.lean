import ShiftReduce.Automaton.Basic
import ShiftReduce.Data.Sorted

/-!
# Parse tables

A parse table says for every state of the automaton what to do when a terminal comes next, and
which state to go to behind a rule that was just completed.

## Main definitions

* `Action` — shift, reduce or accept
* `Row`, `Table` — the actions and gotos of a state, and of all states
* `Resolution` — a reduction that was dropped for a shift
* `Conflict` — two reductions in one place
-/

namespace ShiftReduce

/-- What to do when a terminal comes next. -/
inductive Action
  | shift (target : SetIndex)
  | reduce (rule : RuleIndex) (alternative : Nat)
  | accept
deriving DecidableEq, Repr

/-- The action in words. -/
def Action.describe (grammar : Grammar) : Action → String
  | .shift target => "shift " ++ toString target
  | .reduce rule alternative => "reduce " ++ grammar.describeAlternative rule alternative
  | .accept => "accept"

/-- The actions of a state by terminal, and its gotos by rule, both in ascending order. -/
structure Row where
  actions : List (Symbol × Action)
  gotos : List (RuleIndex × SetIndex)
deriving DecidableEq, Repr

/-- A reduction that was dropped because the state shifts the same terminal. -/
structure Resolution where
  state : SetIndex
  lookahead : Symbol
  kept : Action
  dropped : Action
deriving DecidableEq, Repr

/-- A parse table, with the reductions that were dropped on the way to it. -/
structure Table where
  rows : List Row
  resolved : List Resolution
deriving DecidableEq, Repr

/-- Two different reductions for one terminal in one state. All but the state is in words. -/
structure Conflict where
  state : SetIndex
  lookahead : String
  existing : String
  incoming : String
deriving DecidableEq, Repr

/-- The conflict in words. -/
def Conflict.message (conflict : Conflict) : String :=
  "reduce-reduce conflict in state " ++ toString conflict.state ++ " on " ++ conflict.lookahead ++
    ": `" ++ conflict.existing ++ "` vs `" ++ conflict.incoming ++ "`"

namespace Table

/-- The actions of a state; none for an index that is no state. -/
def actions (table : Table) (state : SetIndex) : List (Symbol × Action) :=
  (table.rows[state]?.map Row.actions).getD []

/-- The gotos of a state. -/
def gotos (table : Table) (state : SetIndex) : List (RuleIndex × SetIndex) :=
  (table.rows[state]?.map Row.gotos).getD []

/-- What a state does on a terminal. -/
def action? (table : Table) (state : SetIndex) (lookahead : Symbol) : Option Action :=
  (table.actions state).lookup lookahead

/-- Where a state goes to behind a completed rule. -/
def goto? (table : Table) (state : SetIndex) (rule : RuleIndex) : Option SetIndex :=
  (table.gotos state).lookup rule

end Table

end ShiftReduce
