import ShiftReduce.Data.Entries
import ShiftReduce.Settings.Value

/-!
# Tables in the making

A settings file builds its tables piece by piece: headers open tables and add tables to lists, and
assignments enter values under dotted keys. No piece may undo another, so each table knows how it
came to be.

## Main definitions

* `Origin` — how a table came to be
* `Draft` — a value, a table, or a list of tables, while the file is read
* `Draft.openTable`, `Draft.openItem`, `Draft.assign` — what headers and assignments do
* `Draft.toSetting` — the finished setting
-/

namespace ShiftReduce

/-- How a table came to be: by a header of its own, as part of a longer header, or as part of a
dotted key. -/
inductive Origin
  | declared
  | implied
  | dotted
deriving DecidableEq, Repr

/-- A part of a settings file while it is read. Lists of tables have the last one first. -/
inductive Draft
  | value (setting : Setting)
  | table (origin : Origin) (entries : List (String × Draft))
  | tables (items : List Draft)

namespace Draft

/-- The table of a file before anything is read. -/
def empty : Draft := .table .declared []

/-- Changes the table that a path leads to. Tables on the way that do not exist yet are made, and a
list of tables leads to the last of them. A dotted key may not lead into a table that has a header
of its own, and nothing leads into a value. -/
def within (viaKey : Bool) (change : Draft → Option Draft) (path : List String) (draft : Draft) :
    Option Draft :=
  match path, draft with
  | [], draft => change draft
  | key :: rest, .table origin entries => do
    let fresh := Draft.table (if viaKey then .dotted else .implied) []
    let entry ← match (entries.lookup key).getD fresh with
      | .value _ => none
      | .tables [] => none
      | .tables (current :: others) => do
        some (.tables ((← within viaKey change rest current) :: others))
      | .table entryOrigin inner =>
        if viaKey && entryOrigin = .declared then none
        else within viaKey change rest (.table entryOrigin inner)
    some (.table origin (Entries.put key entry entries))
  | _ :: _, _ => none

/-- Enters a value under a key of a table. The last table of a dotted key must come from dotted
keys as well. -/
def enter (isDotted : Bool) (key : String) (setting : Setting) : Draft → Option Draft
  | .table origin entries =>
    if (origin == .dotted) == isDotted && (entries.lookup key).isNone then
      some (.table origin (Entries.put key (.value setting) entries))
    else none
  | _ => none

/-- Opens the table of a header, unless there is one already that is more than a part of a longer
header. -/
def openEntry (key : String) : Draft → Option Draft
  | .table origin entries =>
    match entries.lookup key with
    | none => some (.table origin (Entries.put key empty entries))
    | some (.table .implied inner) =>
      some (.table origin (Entries.put key (.table .declared inner) entries))
    | some _ => none
  | _ => none

/-- Adds a table to the list of a header. -/
def addEntry (key : String) : Draft → Option Draft
  | .table origin entries =>
    match entries.lookup key with
    | none => some (.table origin (Entries.put key (.tables [empty]) entries))
    | some (.tables items) =>
      some (.table origin (Entries.put key (.tables (empty :: items)) entries))
    | some _ => none
  | _ => none

/-- Opens the table of a header's path. -/
def openTable (path : List String) (draft : Draft) : Option Draft := do
  within false (openEntry (← path.getLast?)) path.dropLast draft

/-- Adds a table to the list of a header's path. -/
def openItem (path : List String) (draft : Draft) : Option Draft := do
  within false (addEntry (← path.getLast?)) path.dropLast draft

/-- Enters a value under a dotted key of the table that a header's path leads to. -/
def assign (header path : List String) (setting : Setting) (draft : Draft) : Option Draft := do
  let key ← path.getLast?
  within false (within true (enter (!path.dropLast.isEmpty) key setting) path.dropLast) header draft

mutual

/-- The finished setting. -/
def toSetting : Draft → Setting
  | .value setting => setting
  | .table _ entries => .table (toEntries entries)
  | .tables items => .list (toItems items).reverse

/-- The finished entries of a table. -/
def toEntries : List (String × Draft) → List (String × Setting)
  | [] => []
  | (key, entry) :: rest => (key, toSetting entry) :: toEntries rest

/-- The finished tables of a list. -/
def toItems : List Draft → List Setting
  | [] => []
  | item :: rest => toSetting item :: toItems rest

end

end Draft

end ShiftReduce
