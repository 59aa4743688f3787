import ShiftReduce.Unicode.Property

/-!
# Quoted text

Text in double quotes, written so that it can be shown on one line and read back: quotes and
backslashes are escaped, and so is every character that cannot be seen by itself.

## Main definitions

* `Text.escapeChar` — how one character is written
* `Text.quote` — a text in quotes
-/

namespace ShiftReduce.Text

/-- The hexadecimal digits of a number, lower case, without leading zeros. -/
def hexDigits (number : Nat) : List Char := Nat.toDigits 16 number

/-- Whether a character is shown as it is: it is printable, and does not attach itself to the
character before it. -/
def isShown (char : Char) : Bool :=
  if char.toNat < 0x7F then 0x20 ≤ char.toNat
  else !Unicode.graphemeExtend.has char && Unicode.printable.has char

/-- How a character is written between quotes. -/
def escapeChar : Char → List Char
  | '\x00' => ['\\', '0']
  | '\t' => ['\\', 't']
  | '\r' => ['\\', 'r']
  | '\n' => ['\\', 'n']
  | '\\' => ['\\', '\\']
  | '"' => ['\\', '"']
  | char =>
    if isShown char then [char]
    else ['\\', 'u', '\x7b'] ++ hexDigits char.toNat ++ ['\x7d']

/-- A text in double quotes. -/
def quote (text : String) : String :=
  String.ofList ('"' :: text.toList.flatMap escapeChar ++ ['"'])

end ShiftReduce.Text
