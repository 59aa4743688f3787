import ShiftReduce.Data.Entries
import ShiftReduce.Settings.Reader

/-!
# Layers of settings

Settings come in layers: files and texts one over the other, and single values over all of them.
Where tables meet they are merged, key by key; anything else takes the place of what lies below.
Letters of keys count in lower case, but not in tables that stand in lists.

## Main definitions

* `LoadError` — why settings cannot be loaded
* `Setting.enter` — lays a setting over the one under a key
* `SettingPath`, `Setting.place` — single values by their paths
* `Layer`, `loadLayers` — layers, and the table that they make up
-/

namespace ShiftReduce

/-- Why settings cannot be loaded. -/
inductive LoadError
  /-- A file is not there. -/
  | missingFile (name : String)
  /-- A text is no settings file. -/
  | malformed
  /-- The key of a single value is no path. -/
  | invalidPath (key : String)
  /-- A setting is of the wrong kind, and nothing can be made of it. -/
  | wrongType
  /-- A table or list is wanted where there is none, or lacks what it needs. -/
  | wrongShape
deriving DecidableEq, Repr

/-! ### Merging -/

/-- A letter in lower case. The Kelvin sign is a capital letter, too. -/
def foldLetter (char : Char) : Char := if char == '\u212A' then 'k' else char.toLower

/-- A key in lower case. -/
def foldKey (key : String) : String := String.ofList (key.toList.map foldLetter)

namespace Setting

/-- The entries of a table; none for anything else. -/
def entries : Setting → List (String × Setting)
  | .table entries => entries
  | _ => []

/-- The items of a list; none for anything else. -/
def items : Setting → List Setting
  | .list items => items
  | _ => []

mutual

/-- Lays a setting over the one under a key. The entries of a table are laid over that one by one,
so an empty table changes nothing that is there. -/
def enter (below : Setting) (key : String) : Setting → Setting
  | .table incoming =>
    let target := (below.entries.lookup (foldKey key)).getD (.table [])
    .table (Entries.put (foldKey key) (enterAll target incoming) below.entries)
  | value => .table (Entries.put (foldKey key) value below.entries)

/-- Lays entries over a table one by one. -/
def enterAll (below : Setting) : List (String × Setting) → Setting
  | [] => below
  | (key, value) :: rest => enterAll (enter below key value) rest

end

end Setting

/-! ### Paths -/

/-- A step into a table or a list. Items count from the end if their index is negative. -/
inductive PathStep
  | entry (key : String)
  | item (index : Int)
deriving DecidableEq, Repr

/-- The steps to a single setting. -/
abbrev SettingPath := List PathStep

/-- Characters of the keys in a path. -/
def isPathChar (char : Char) : Bool :=
  char.isAlphanum || char == ' ' || char == '_' || char == '-'

/-- A key at the start of a path. -/
def readPathKey (text : List Char) : Option (PathStep × List Char) :=
  let key := text.takeWhile isPathChar
  if key.isEmpty then none
  else some (.entry (String.ofList key), text.dropWhile isPathChar)

/-- An index at the start of a path, up to its closing bracket. -/
def readPathIndex (text : List Char) : Option (PathStep × List Char) := do
  let (negative, unsigned) := match text with
    | '-' :: rest => (true, rest)
    | rest => (false, rest)
  let digits := unsigned.takeWhile Char.isDigit
  if digits.isEmpty then none
  let index ← Scalar.wholeNumber? negative (Decimal.valueOf digits)
  let rest ← Scalar.readChar ']' (unsigned.dropWhile Char.isDigit)
  return (.item index, rest)

/-- The steps of a path behind the first one. -/
def readPathSteps (fuel : Nat) (text : List Char) : Option SettingPath :=
  match fuel, text with
  | _, [] => some []
  | 0, _ => none
  | fuel + 1, '.' :: rest => do
    let (step, rest) ← readPathKey rest
    return step :: (← readPathSteps fuel rest)
  | fuel + 1, '[' :: rest => do
    let (step, rest) ← readPathIndex rest
    return step :: (← readPathSteps fuel rest)
  | _, _ => none

/-- The path that a key is: names with dots between them, and indices in brackets. -/
def readPath (key : String) : Option SettingPath := do
  let (first, rest) ← readPathKey key.toList
  return first :: (← readPathSteps rest.length rest)

/-- The place of an item in a list of some length. -/
def itemPlace? (index : Int) (length : Nat) : Option Nat :=
  if 0 ≤ index then some index.toNat
  else if index.natAbs ≤ length then some (length - index.natAbs)
  else none

namespace Setting

/-- Changes an item of a list, which is filled up to it. -/
def changeItem (index : Int) (change : Setting → Setting) (setting : Setting) : Setting :=
  match itemPlace? index setting.items.length with
  | none => setting
  | some place =>
    let filled := setting.items ++
      List.replicate (place + 1 - setting.items.length) .absent
    .list (filled.modify place change)

/-- Puts a single value where a path leads. Tables and lists on the way are made where there are
none. -/
def place (value : Setting) : SettingPath → Setting → Setting
  | [], _ => value
  | [.entry key], below => below.enter key value
  | .entry key :: rest, below =>
    let inner := (below.entries.lookup (foldKey key)).getD .absent
    .table (Entries.put (foldKey key) (place value rest inner) below.entries)
  | .item index :: rest, below => below.changeItem index (place value rest)

/-- Lays the entries of a file over a table. Their keys may be paths. -/
def layEntries (below : Setting) (entries : List (String × Setting)) : Setting :=
  entries.foldl (fun below (key, value) =>
    value.place ((readPath key).getD [.entry key]) below) below

end Setting

/-! ### Layers -/

/-- A layer of settings. -/
inductive Layer
  | text (content : String)
  | file (name : String)
  | optionalFile (name : String)
  | override (key : String) (value : Setting)

/-- A path, given from its end, without slashes and single points there that change nothing. -/
def dropIdleEnding : List Char → List Char
  | '/' :: rest => dropIdleEnding rest
  | '.' :: '/' :: rest => dropIdleEnding rest
  | path => path

/-- A path with the usual ending of definitions, unless it ends in no name. -/
def withEnding? (path : String) : Option String :=
  match dropIdleEnding path.toList.reverse with
  | [] => none
  | ['.'] => none
  | ['.', '.'] => none
  | '.' :: '.' :: '/' :: _ => none
  | reversed => some (String.ofList reversed.reverse ++ ".toml")

/-- The content of a file, by its path or by its path with the usual ending. -/
def findFile? (contentOf : String → Option String) (path : String) : Option String :=
  (contentOf path).or ((withEnding? path).bind contentOf)

/-- Lays the table of a text over others. -/
def layText (below : Setting) (content : String) : Except LoadError Setting :=
  match Setting.ofText? content with
  | some setting => .ok (below.layEntries setting.entries)
  | none => .error .malformed

/-- Lays the table of a file over others. -/
def layFile (below : Setting) (content : String) : Except LoadError Setting :=
  layText below (String.ofList (dropByteOrderMark content.toList))

/-- Lays files and texts over others. Single values are left for later. -/
def Layer.lay (contentOf : String → Option String) (below : Setting) :
    Layer → Except LoadError Setting
  | .text content => layText below content
  | .file name =>
    match findFile? contentOf name with
    | some content => layFile below content
    | none => .error (.missingFile name)
  | .optionalFile name =>
    match findFile? contentOf name with
    | some content => layFile below content
    | none => .ok below
  | .override _ _ => .ok below

/-- The single values of some layers by their paths. -/
def overridesOf : List Layer → Except LoadError (List (SettingPath × Setting))
  | [] => .ok []
  | .override key value :: rest =>
    match readPath key with
    | some path => do .ok ((path, value) :: (← overridesOf rest))
    | none => .error (.invalidPath key)
  | _ :: rest => overridesOf rest

/-- The table that layers make up, over the one at the bottom. The paths of single values are read
before any file. -/
def loadLayers (contentOf : String → Option String) (bottom : Setting) (layers : List Layer) :
    Except LoadError Setting := do
  let overrides ← overridesOf layers
  let base ← layers.foldlM (Layer.lay contentOf) bottom
  .ok (overrides.foldl (fun below (path, value) => value.place path below) base)

end ShiftReduce
