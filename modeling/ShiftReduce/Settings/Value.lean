import ShiftReduce.Data.Double

/-!
# Settings

Settings are read from files as texts, numbers, truth values, lists and tables. What wants a text
takes a number for its digits, and what wants a truth value takes some words and numbers for one.

## Main definitions

* `Setting` — the values of settings
* `Setting.toText?`, `Setting.toFlag?` — a setting where a text or a truth value is wanted
-/

namespace ShiftReduce

/-- A setting. In a table, every key has one entry. -/
inductive Setting
  | absent
  | flag (value : Bool)
  | integer (value : Int)
  | real (value : Real)
  | text (value : String)
  | list (items : List Setting)
  | table (entries : List (String × Setting))

namespace Setting

/-- The setting as a text, unless it is absent, a list or a table. -/
def toText? : Setting → Option String
  | .flag value => some (if value then "true" else "false")
  | .integer value => some (toString value)
  | .real value => some value.toText
  | .text value => some value
  | _ => none

/-- The truth value of a word, in letters of either case. -/
def wordFlag? (word : String) : Option Bool :=
  let lower := String.ofList (word.toList.map Char.toLower)
  if lower ∈ ["1", "true", "on", "yes"] then some true
  else if lower ∈ ["0", "false", "off", "no"] then some false
  else none

/-- The setting as a truth value. Numbers are true unless they are zero. -/
def toFlag? : Setting → Option Bool
  | .flag value => some value
  | .integer value => some (value != 0)
  | .real value => some !value.isZero
  | .text value => wordFlag? value
  | _ => none

end Setting

end ShiftReduce
