import ShiftReduce.Format.Json
import ShiftReduce.Table.Build
import ShiftReduce.Text.Measure

/-!
# Dumps of parse tables

A parse table in words: each state with its items, its actions under the names of the terminals, and
its gotos under the names of the rules, by ascending names; and the reductions that were dropped.

## Main definitions

* `StateDump`, `TableDump` — states and tables in words
* `ParserTables.dump` — the dump of a table
* `TableDump.toText`, `TableDump.toJson` — the dump as text
-/

namespace ShiftReduce

/-- A state in words. -/
structure StateDump where
  index : SetIndex
  items : List String
  actions : List (String × String)
  gotos : List (String × SetIndex)
deriving DecidableEq, Repr

/-- A table in words. -/
structure TableDump where
  states : List StateDump
  resolved : List String
deriving DecidableEq, Repr

/-- Entries by ascending names. -/
def byName {α : Type} (entries : List (String × α)) : List (String × α) :=
  Sorted.ofList (fun left right => left < right) entries

/-- A dropped reduction in words. -/
def Resolution.describe (grammar : Grammar) (resolution : Resolution) : String :=
  "state " ++ toString resolution.state ++ " on " ++ grammar.symbolName resolution.lookahead ++
    ": kept " ++ resolution.kept.describe grammar ++
    ", dropped " ++ resolution.dropped.describe grammar

/-- The dump of a state. -/
def ParserTables.dumpState (tables : ParserTables) (grammar : Grammar) (set : SetIndex) :
    StateDump where
  index := set
  items := (tables.automaton.items set).map (Item.describe grammar)
  actions := byName ((tables.table.actions set).map fun (symbol, action) =>
    (grammar.symbolName symbol, action.describe grammar))
  gotos := byName ((tables.table.gotos set).map fun (rule, target) =>
    (grammar.ruleName rule, target))

/-- The dump of a table. -/
def ParserTables.dump (tables : ParserTables) (grammar : Grammar) : TableDump where
  states := (List.range tables.automaton.sets.length).map (tables.dumpState grammar)
  resolved := tables.table.resolved.map (Resolution.describe grammar)

namespace StateDump

/-- The lines of a state. -/
def lines (state : StateDump) : List String :=
  ("state " ++ toString state.index) :: state.items.map ("  " ++ ·) ++
    state.actions.map (fun (symbol, action) =>
      "  on " ++ Text.padRight 16 symbol ++ " " ++ action) ++
    state.gotos.map fun (rule, target) =>
      "  goto " ++ Text.padRight 14 rule ++ " " ++ toString target

/-- The state as a record. -/
def toDocument (state : StateDump) : Document :=
  .record [
    ("id", .number state.index),
    ("items", .list (state.items.map .text)),
    ("actions", .record (state.actions.map fun (symbol, action) => (symbol, .text action))),
    ("gotos", .record (state.gotos.map fun (rule, target) => (rule, .number target)))]

end StateDump

namespace TableDump

/-- The dump as lines of text, with an empty line between states. -/
def toText (dump : TableDump) : String :=
  let states := dump.states.map fun state => String.join (state.lines.map (· ++ "\n"))
  "\n".intercalate states ++ String.join (dump.resolved.map ("resolved: " ++ · ++ "\n"))

/-- The dump as JSON text. -/
def toJson (dump : TableDump) : String :=
  (Document.record [
    ("states", .list (dump.states.map StateDump.toDocument)),
    ("resolved_conflicts", .list (dump.resolved.map .text))]).toJson

end TableDump

end ShiftReduce
