import ShiftReduce.Format.Document

/-!
# JSON

Documents as JSON text over several lines, each level indented by two blanks.

## Main definitions

* `Document.toJson` — a document as JSON text
-/

namespace ShiftReduce.Json

/-- A digit in base sixteen. -/
def hexDigit (value : Nat) : Char := ("0123456789abcdef".toList[value]?).getD '0'

/-- A character as it stands in a string. -/
def escapeChar (char : Char) : List Char :=
  match char with
  | '"' => ['\\', '"']
  | '\\' => ['\\', '\\']
  | '\n' => ['\\', 'n']
  | '\r' => ['\\', 'r']
  | '\t' => ['\\', 't']
  | '\x08' => ['\\', 'b']
  | '\x0C' => ['\\', 'f']
  | char =>
    if char.toNat < 32 then
      ['\\', 'u', '0', '0', hexDigit (char.toNat / 16), hexDigit (char.toNat % 16)]
    else [char]

/-- A text as a string. -/
def quote (text : String) : String :=
  "\"" ++ String.ofList (text.toList.flatMap escapeChar) ++ "\""

/-- The blanks in front of a line. -/
def indent (depth : Nat) : String := String.ofList (List.replicate (2 * depth) ' ')

mutual

/-- A document that starts on a line at some depth. -/
def render (depth : Nat) : Document → String
  | .text value => quote value
  | .number value => toString value
  | .list [] => "[]"
  | .list (first :: rest) =>
    "[\n" ++ indent (depth + 1) ++ render (depth + 1) first ++ renderItems (depth + 1) rest ++
      "\n" ++ indent depth ++ "]"
  | .record [] => "\x7b\x7d"
  | .record ((name, value) :: rest) =>
    "\x7b\n" ++ indent (depth + 1) ++ quote name ++ ": " ++ render (depth + 1) value ++
      renderFields (depth + 1) rest ++ "\n" ++ indent depth ++ "\x7d"

/-- The items of a list behind the first one. -/
def renderItems (depth : Nat) : List Document → String
  | [] => ""
  | item :: rest => ",\n" ++ indent depth ++ render depth item ++ renderItems depth rest

/-- The fields of a record behind the first one. -/
def renderFields (depth : Nat) : List (String × Document) → String
  | [] => ""
  | (name, value) :: rest =>
    ",\n" ++ indent depth ++ quote name ++ ": " ++ render depth value ++ renderFields depth rest

end

end ShiftReduce.Json

namespace ShiftReduce.Document

/-- A document as JSON text. There is no line break at the end. -/
def toJson (document : Document) : String := Json.render 0 document

end ShiftReduce.Document
