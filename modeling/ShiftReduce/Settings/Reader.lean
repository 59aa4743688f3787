import ShiftReduce.Settings.Draft
import ShiftReduce.Settings.Scalar

/-!
# Reading settings files

A settings file is a list of statements, each on a line of its own but for the lists and long texts
in it: headers of tables, headers that add a table to a list, and assignments of values to keys.

## Main definitions

* `readKey` — dotted keys
* `readValue` — scalars, lists and inline tables
* `Statement`, `readStatement` — what stands on a line
* `Setting.ofText?` — the table that a text is
-/

namespace ShiftReduce

open Scalar

/-! ### Keys -/

/-- Characters of keys without quotes. -/
def isKeyChar (char : Char) : Bool := char.isAlphanum || char == '_' || char == '-'

/-- One part of a key: a text on one line, or letters, digits, low lines and hyphens. -/
def readKeyPart (text : List Char) : Option (String × List Char) :=
  match text.head? with
  | some '"' | some '\'' => readLine text
  | _ =>
    let name := text.takeWhile isKeyChar
    if name.isEmpty then none else some (String.ofList name, text.dropWhile isKeyChar)

/-- The most levels that keys and values have. -/
def nestingLimit : Nat := 80

/-- The parts of a key with dots between them, at most `parts` of them. -/
def readKeyParts (parts : Nat) (text : List Char) : Option (List String × List Char) :=
  match parts with
  | 0 => none
  | parts + 1 => do
    let (first, rest) ← readKeyPart (skipSpaces text)
    match skipSpaces rest with
    | '.' :: rest =>
      let (others, rest) ← readKeyParts parts rest
      return (first :: others, rest)
    | rest => return ([first], rest)

/-- A dotted key, with the blanks around it. -/
def readKey (text : List Char) : Option (List String × List Char) :=
  readKeyParts (nestingLimit - 1) text

/-! ### Blanks and comments -/

/-- The text behind a comment, if it starts with one. -/
def skipComment : List Char → List Char
  | '#' :: rest => rest.dropWhile isTextChar
  | text => text

/-- The text behind all blanks, breaks and comments at its start. -/
def skipBlankLines (fuel : Nat) (text : List Char) : List Char :=
  match fuel with
  | 0 => text
  | fuel + 1 =>
    let text := skipSpaces text
    match afterBreak? (skipComment text) with
    | some rest => skipBlankLines fuel rest
    | none => text

/-- The text behind the rest of a line: blanks, a comment, and a break unless the text ends. -/
def endLine (text : List Char) : Option (List Char) :=
  match skipComment (skipSpaces text) with
  | [] => some []
  | rest => afterBreak? rest

/-! ### Values -/

mutual

/-- A value. `depth` bounds the nesting of lists and inline tables. `fuel` is more than twice the
characters of the text: each of them is read in at most two steps. -/
def readValue (fuel depth : Nat) (text : List Char) : Option (Setting × List Char) :=
  match fuel with
  | 0 => none
  | fuel + 1 =>
    match text, depth with
    | '[' :: _, 0 => none
    | '[' :: rest, depth + 1 =>
      (readItems fuel depth rest).map fun (items, rest) => (.list items, rest)
    | '\x7b' :: _, 0 => none
    | '\x7b' :: rest, depth + 1 =>
      match skipSpaces rest with
      | '\x7d' :: rest => some (.table [], rest)
      | rest => (readFields fuel depth .empty rest).map fun (draft, rest) =>
          (draft.toSetting, rest)
    | text, _ => read text

/-- The items of a list up to its closing bracket. A comma may follow the last one. -/
def readItems (fuel depth : Nat) (text : List Char) : Option (List Setting × List Char) :=
  match fuel with
  | 0 => none
  | fuel + 1 =>
    match skipBlankLines text.length text with
    | ']' :: rest => some ([], rest)
    | text => do
      let (item, rest) ← readValue fuel depth text
      match skipBlankLines rest.length rest with
      | ',' :: rest =>
        let (items, rest) ← readItems fuel depth rest
        return (item :: items, rest)
      | ']' :: rest => return ([item], rest)
      | _ => none

/-- The fields of an inline table up to its closing brace, added to those before them. -/
def readFields (fuel depth : Nat) (draft : Draft) (text : List Char) :
    Option (Draft × List Char) :=
  match fuel with
  | 0 => none
  | fuel + 1 => do
    let (path, rest) ← readKey text
    let (setting, rest) ← readValue fuel depth (skipSpaces (← readChar '=' rest))
    let draft ← draft.assign [] path setting
    match skipSpaces rest with
    | ',' :: rest => readFields fuel depth draft rest
    | '\x7d' :: rest => return (draft, rest)
    | _ => none

end

/-! ### Statements -/

/-- What stands on a line. -/
inductive Statement
  | openTable (path : List String)
  | openItem (path : List String)
  | assign (path : List String) (setting : Setting)

/-- The statement at the start of a text, up to the end of its line. -/
def readStatement (text : List Char) : Option (Statement × List Char) :=
  match text with
  | '[' :: '[' :: rest => do
    let (path, rest) ← readKey rest
    let rest ← endLine (← readChar ']' (← readChar ']' rest))
    return (.openItem path, rest)
  | '[' :: rest => do
    let (path, rest) ← readKey rest
    let rest ← endLine (← readChar ']' rest)
    return (.openTable path, rest)
  | text => do
    let (path, rest) ← readKey text
    let text := skipSpaces (← readChar '=' rest)
    let (setting, rest) ← readValue (2 * text.length + 2) (nestingLimit - 1) text
    let rest ← endLine rest
    return (.assign path setting, rest)

/-- What a statement does to a file's table, and the header that later assignments stand under. -/
def Statement.run (header : List String) (draft : Draft) :
    Statement → Option (List String × Draft)
  | .openTable path => (draft.openTable path).map (path, ·)
  | .openItem path => (draft.openItem path).map (path, ·)
  | .assign path setting => (draft.assign header path setting).map (header, ·)

/-- Runs the statements of a text. `fuel` is more than the characters of the text. -/
def runStatements (fuel : Nat) (header : List String) (draft : Draft) (text : List Char) :
    Option Draft :=
  match fuel with
  | 0 => none
  | fuel + 1 =>
    match skipBlankLines text.length text with
    | [] => some draft
    | '#' :: rest => if (rest.dropWhile isTextChar).isEmpty then some draft else none
    | text => do
      let (statement, rest) ← readStatement text
      let (header, draft) ← statement.run header draft
      runStatements fuel header draft rest

/-- A text without the mark that tells the order of its bytes. -/
def dropByteOrderMark : List Char → List Char
  | '\uFEFF' :: rest => rest
  | text => text

/-- The table that a settings file is. -/
def Setting.ofText? (text : String) : Option Setting :=
  let chars := dropByteOrderMark text.toList
  (runStatements (chars.length + 1) [] .empty chars).map Draft.toSetting

end ShiftReduce
