import ShiftReduce.Data.Double
import ShiftReduce.Format.Document

/-!
# YAML

Documents as YAML text in block style. A text stands as it is where it can be read back as the same
text; otherwise it is quoted, or put on lines of its own if it has several.

## Main definitions

* `Yaml.isLiteralLike` — texts that would be read as something else
* `Yaml.Style`, `Yaml.styleOf` — how a text is written
* `Document.toYaml` — a document as YAML text
-/

namespace ShiftReduce.Yaml

/-! ### Texts that look like other values -/

/-- Whether a text is a number in a base with a prefix, of at most 128 bits. -/
def isPrefixedInteger (text : List Char) : Bool :=
  let (negative, unsigned) := match text with
    | '-' :: rest => (true, rest)
    | '+' :: rest => (false, rest)
    | rest => (false, rest)
  let fits (base : Nat) (digits : List Char) : Bool :=
    let value? := digits.foldlM (fun value char =>
      let digit :=
        if char.isDigit then char.toNat - '0'.toNat
        else if char.isAlpha then char.toLower.toNat - 'a'.toNat + 10
        else base
      if digit < base then some (base * value + digit) else none) 0
    !digits.isEmpty && match value? with
      | none => false
      | some value => if negative then value ≤ Nat.pow 2 127 else value < Nat.pow 2 128
  match unsigned with
  | '0' :: 'x' :: digits => fits 16 digits
  | '0' :: 'o' :: digits => fits 8 digits
  | '0' :: 'b' :: digits => fits 2 digits
  | _ => false

/-- A text without its sign, if it has one. -/
def unsigned : List Char → List Char
  | '-' :: rest => rest
  | '+' :: rest => rest
  | text => text

/-- Whether a text is digits behind a leading zero. -/
def isPaddedDigits (text : List Char) : Bool :=
  match unsigned text with
  | '0' :: rest => !rest.isEmpty && rest.all Char.isDigit
  | _ => false

/-- Whether a text is a finite number in decimal. -/
def isDecimal (text : List Char) : Bool :=
  ((Decimal.ofText? (unsigned text)).bind Decimal.toDouble?).isSome

/-- Whether a text would be read back as an absent value, a truth value or a number. -/
def isLiteralLike (text : String) : Bool :=
  text ∈ ["", "null", "Null", "NULL", "~", "true", "True", "TRUE", "false", "False", "FALSE",
    ".inf", ".Inf", ".INF", "+.inf", "+.Inf", "+.INF", "-.inf", "-.Inf", "-.INF",
    ".nan", ".NaN", ".NAN"] ||
  isPrefixedInteger text.toList || isPaddedDigits text.toList || isDecimal text.toList

/-! ### Characters -/

/-- Characters that end a line. -/
def isBreak (char : Char) : Bool :=
  char.toNat ∈ [0x0A, 0x0D, 0x85, 0x2028, 0x2029]

/-- Whether a character, or the end of a text, ends a word. -/
def endsWord : Option Char → Bool
  | none => true
  | some char => char == ' ' || char == '\t' || char == '\x00' || isBreak char

/-- Characters that may stand for themselves. -/
def isPrintable (char : Char) : Bool :=
  let code := char.toNat
  code == 0x0A || (0x20 ≤ code && code ≤ 0x7E) ||
    (0xA0 ≤ code && code != 0xFEFF && code != 0xFFFE && code != 0xFFFF)

/-- Whether a character may not start a text that is not quoted, given the one behind it. -/
def isStartIndicator (char : Char) (next : Option Char) : Bool :=
  char ∈ ['#', ',', '[', ']', '\x7b', '\x7d', '&', '*', '!', '|', '>', '\'', '"', '%', '@', '`'] ||
    (char ∈ ['?', ':', '-'] && endsWord next)

/-- Whether a character inside a text that is not quoted would end it, given its neighbours. -/
def isInnerIndicator (previous char : Char) (next : Option Char) : Bool :=
  (char == ':' && endsWord next) || (char == '#' && endsWord (some previous))

/-- Whether some character behind `previous` would end a text that is not quoted. -/
def hasInnerIndicator (previous : Char) : List Char → Bool
  | [] => false
  | char :: rest => isInnerIndicator previous char rest.head? || hasInnerIndicator char rest

/-- Whether a text needs quotes for its punctuation. -/
def hasIndicator (text : List Char) : Bool :=
  text.take 3 == ['-', '-', '-'] || text.take 3 == ['.', '.', '.'] ||
    match text with
    | [] => false
    | char :: rest => isStartIndicator char rest.head? || hasInnerIndicator char rest

/-- Whether two neighbours somewhere in a text are of two kinds. -/
def hasNeighbours (left right : Char → Bool) : List Char → Bool
  | first :: second :: rest =>
    (left first && right second) || hasNeighbours left right (second :: rest)
  | _ => false

/-! ### Styles -/

/-- How a text is written. -/
inductive Style
  | plain
  | singleQuoted
  | doubleQuoted
  | literal
deriving DecidableEq, Repr

/-- The style that is wanted for a text: lines of their own for a text with line feeds, and quotes
for what looks like another value. -/
def wantedStyle (text : String) : Style :=
  if text.toList.contains '\n' then .literal
  else if isLiteralLike text then .singleQuoted
  else .plain

/-- Whether a text may stand without quotes. -/
def allowsPlain (text : List Char) : Bool :=
  !(hasIndicator text || text.any isBreak || text.any (!isPrintable ·) ||
    text.head? == some ' ' || text.getLast? == some ' ')

/-- Whether a text may stand in single quotes. -/
def allowsSingleQuotes (text : List Char) : Bool :=
  !(text.any (!isPrintable ·) || hasNeighbours (· == ' ') isBreak text ||
    hasNeighbours isBreak (· == ' ') text)

/-- Whether a text may stand on lines of its own. -/
def allowsLiteral (text : List Char) : Bool :=
  !(text.any (!isPrintable ·) || hasNeighbours (· == ' ') isBreak text ||
    text.getLast? == some ' ')

/-- The style of a text: the one that is wanted, or else the nearest one that is allowed. -/
def styleOf (text : String) : Style :=
  let chars := text.toList
  match wantedStyle text with
  | .literal => if allowsLiteral chars then .literal else .doubleQuoted
  | .plain =>
    if allowsPlain chars then .plain
    else if allowsSingleQuotes chars then .singleQuoted
    else .doubleQuoted
  | _ => if allowsSingleQuotes chars then .singleQuoted else .doubleQuoted

/-! ### Texts -/

/-- Blanks. -/
def blanks (count : Nat) : List Char := List.replicate count ' '

/-- The inside of single quotes. Behind a break, the line starts with `indent` blanks. -/
def singleQuotedBody (indent : Nat) (afterBreak : Bool) : List Char → List Char
  | [] => if afterBreak then blanks indent else []
  | char :: rest =>
    if isBreak char then char :: singleQuotedBody indent true rest
    else
      let start := if afterBreak then blanks indent else []
      let shown := if char == '\'' then ['\'', '\''] else [char]
      start ++ shown ++ singleQuotedBody indent false rest

/-- A number in base sixteen with a given number of digits. -/
def hexDigits (width value : Nat) : List Char :=
  (List.range width).reverse.map fun place =>
    ("0123456789ABCDEF".toList[value / Nat.pow 16 place % 16]?).getD '0'

/-- A character as it stands in double quotes. -/
def doubleQuotedChar (char : Char) : List Char :=
  let code := char.toNat
  if isPrintable char && !isBreak char && char != '"' && char != '\\' then [char]
  else '\\' :: match code with
    | 0x00 => ['0']
    | 0x07 => ['a']
    | 0x08 => ['b']
    | 0x09 => ['t']
    | 0x0A => ['n']
    | 0x0B => ['v']
    | 0x0C => ['f']
    | 0x0D => ['r']
    | 0x1B => ['e']
    | 0x22 => ['"']
    | 0x5C => ['\\']
    | 0x85 => ['N']
    | 0x2028 => ['L']
    | 0x2029 => ['P']
    | _ =>
      if code ≤ 0xFF then 'x' :: hexDigits 2 code
      else if code ≤ 0xFFFF then 'u' :: hexDigits 4 code
      else 'U' :: hexDigits 8 code

/-- The lines of a text on lines of its own, each indented unless it is empty. -/
def literalBody (indent : Nat) (afterBreak : Bool) : List Char → List Char
  | [] => []
  | char :: rest =>
    if isBreak char then char :: literalBody indent true rest
    else (if afterBreak then blanks indent else []) ++ char :: literalBody indent false rest

/-- What is said ahead of a text on lines of its own: its indent, if its first line does not show
it, and what becomes of the breaks at its end. -/
def literalHints (text : List Char) : List Char :=
  let indent := match text with
    | [] => []
    | char :: _ => if char == ' ' || isBreak char then ['2'] else []
  let ending := match text.reverse with
    | [] => ['-']
    | last :: before =>
      if !isBreak last then ['-']
      else match before with
        | [] => ['+']
        | char :: _ => if isBreak char then ['+'] else []
  indent ++ ending

/-- A text as a value, with the break behind it. Its further lines start with `indent` blanks. -/
def scalar (indent : Nat) (text : String) : String :=
  let chars := text.toList
  match styleOf text with
  | .plain => text ++ "\n"
  | .singleQuoted => "'" ++ String.ofList (singleQuotedBody indent false chars) ++ "'\n"
  | .doubleQuoted => "\"" ++ String.ofList (chars.flatMap doubleQuotedChar) ++ "\"\n"
  | .literal =>
    let ending := if (chars.getLast?.map isBreak).getD false then "" else "\n"
    "|" ++ String.ofList (literalHints chars) ++ "\n" ++
      String.ofList (literalBody indent true chars) ++ ending

/-! ### Documents -/

mutual

/-- A document on lines of its own, each behind `depth` blanks but for the first. -/
def block (depth : Nat) : Document → String
  | .text value => scalar (depth + 2) value
  | .number value => toString value ++ "\n"
  | .list [] => "[]\n"
  | .list (first :: rest) => "- " ++ block (depth + 2) first ++ blockItems depth rest
  | .record [] => "\x7b\x7d\n"
  | .record ((name, value) :: rest) =>
    name ++ ":" ++ fieldValue depth value ++ blockFields depth rest

/-- The items of a list behind the first one. -/
def blockItems (depth : Nat) : List Document → String
  | [] => ""
  | item :: rest =>
    String.ofList (blanks depth) ++ "- " ++ block (depth + 2) item ++ blockItems depth rest

/-- The fields of a record behind the first one. -/
def blockFields (depth : Nat) : List (String × Document) → String
  | [] => ""
  | (name, value) :: rest =>
    String.ofList (blanks depth) ++ name ++ ":" ++ fieldValue depth value ++
      blockFields depth rest

/-- The value of a field. Lists are no deeper than the record, and records are two blanks deeper. -/
def fieldValue (depth : Nat) : Document → String
  | .text value => " " ++ scalar (depth + 2) value
  | .number value => " " ++ toString value ++ "\n"
  | .list [] => " []\n"
  | .list (first :: rest) =>
    "\n" ++ String.ofList (blanks depth) ++ "- " ++ block (depth + 2) first ++
      blockItems depth rest
  | .record [] => " \x7b\x7d\n"
  | .record ((name, value) :: rest) =>
    "\n" ++ String.ofList (blanks (depth + 2)) ++ name ++ ":" ++ fieldValue (depth + 2) value ++
      blockFields (depth + 2) rest

end

end ShiftReduce.Yaml

namespace ShiftReduce.Document

/-- A document as YAML text, with a line break at the end. -/
def toYaml (document : Document) : String := Yaml.block 0 document

end ShiftReduce.Document
