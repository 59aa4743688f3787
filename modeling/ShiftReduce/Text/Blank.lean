/-!
# Blanks and lines

Which characters separate words and lines, and how a text falls into lines.

## Main definitions

* `Text.isBlank` — white space of every kind, line breaks included
* `Text.isGap` — horizontal white space only, what may stand between two tokens
* `Text.trim` — a text without the blanks at its ends
* `Text.lines` — the lines of a text
-/

namespace ShiftReduce.Text

/-- White space: the characters with the property of that name, line breaks included. -/
def isBlank (char : Char) : Bool :=
  let code := char.toNat
  (9 ≤ code && code ≤ 13) || code == 0x20 || code == 0x85 || code == 0xA0 || code == 0x1680
    || (0x2000 ≤ code && code ≤ 0x200A) || code == 0x2028 || code == 0x2029 || code == 0x202F
    || code == 0x205F || code == 0x3000

/-- Horizontal white space. Line breaks are not in it, but the two Unicode separators of lines and
paragraphs and the two zero-width characters that once counted as blanks are. -/
def isGap (char : Char) : Bool :=
  let code := char.toNat
  code == 0x20 || code == 0x09 || code == 0x0B || code == 0x0C || code == 0xA0 || code == 0x1680
    || code == 0x180E || (0x2000 ≤ code && code ≤ 0x200A) || code == 0x2028 || code == 0x2029
    || code == 0x202F || code == 0x205F || code == 0x3000 || code == 0xFEFF

/-- The text without the blanks at its start. -/
def trimStart (text : List Char) : List Char := text.dropWhile isBlank

/-- The text without the blanks at its end. -/
def trimEnd (text : List Char) : List Char := (text.reverse.dropWhile isBlank).reverse

/-- The text without the blanks at its ends. -/
def trim (text : List Char) : List Char := trimEnd (trimStart text)

/-- The lines of a text: what stands between line feeds. A line feed ends a line, so a text that
ends in one has no empty line after it. -/
def lines : List Char → List (List Char)
  | [] => []
  | '\n' :: rest => [] :: lines rest
  | char :: rest =>
    match lines rest with
    | [] => [[char]]
    | line :: others => (char :: line) :: others

end ShiftReduce.Text
