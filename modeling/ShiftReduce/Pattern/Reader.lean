import ShiftReduce.Pattern.Expr
import ShiftReduce.Text.Blank
import ShiftReduce.Unicode.Age
import ShiftReduce.Unicode.CaseFolding
import ShiftReduce.Unicode.Segmentation

/-!
# Reading patterns

Patterns are written in the usual notation: alternatives, repetitions with preferences, groups with
flags and names, bracketed sets with nested sets and set operators, escapes, and sets named by
Unicode properties. Neither back-references nor look-around are part of it.

## Main definitions

* `Pattern.Flags` — the switches that change how a pattern is read
* `Pattern.ReadError` — why a text is no pattern
* `Pattern.readExpr` — the expression that a text stands for
-/

namespace ShiftReduce.Pattern

open Text

/-- The switches that change how a pattern is read. -/
structure Flags where
  ignoreCase : Bool := false
  multiLine : Bool := false
  dotTakesLineFeed : Bool := false
  swapGreed : Bool := false
  unicode : Bool := true
  crlf : Bool := false
  /-- Blanks and comments in the pattern are left out. -/
  verbose : Bool := false
deriving Repr

/-- Why a text is no pattern. -/
inductive ReadError
  | unclosedGroup
  | unopenedGroup
  | lookAround
  | groupName
  | repeatedGroupName
  | flags
  | missingOperand
  | repetition
  | unclosedSet
  | setRange
  | setMember
  | escape
  | backReference
  | codePoint
  | unknownProperty
  /-- A set that needs all characters where only ASCII ones are in reach. -/
  | asciiOnly
  | tooDeep
  | tooLarge
deriving DecidableEq, Repr

/-- The reason, in words. -/
def ReadError.message : ReadError → String
  | .unclosedGroup => "unclosed group"
  | .unopenedGroup => "unopened group"
  | .lookAround => "look-around is not supported"
  | .groupName => "invalid group name"
  | .repeatedGroupName => "duplicate group name"
  | .flags => "invalid flags"
  | .missingOperand => "repetition operator without an operand"
  | .repetition => "invalid repetition count"
  | .unclosedSet => "unclosed character set"
  | .setRange => "invalid range in a character set"
  | .setMember => "invalid member of a character set"
  | .escape => "unrecognized escape sequence"
  | .backReference => "back-references are not supported"
  | .codePoint => "invalid code point"
  | .unknownProperty => "unknown Unicode property"
  | .asciiOnly => "not allowed without Unicode support"
  | .tooDeep => "nested too deeply"
  | .tooLarge => "too large when written out"

/-- Nesting beyond this depth is refused. -/
def depthLimit : Nat := 250

/-- Expressions heavier than this are refused. -/
def weightLimit : Nat := 10 * 1024 * 1024

/-! ### Blanks, numbers and names -/

/-- Drops blanks and comments. A comment starts with `#` and ends with its line. -/
def skipTrivia (inComment : Bool) : List Char → List Char
  | [] => []
  | char :: rest =>
    if inComment then skipTrivia (char != '\n') rest
    else if isBlank char then skipTrivia false rest
    else if char = '#' then skipTrivia true rest
    else char :: rest

/-- Drops what a verbose pattern leaves out. -/
def Flags.skip (flags : Flags) (text : List Char) : List Char :=
  if flags.verbose then skipTrivia false text else text

/-- The character that follows the one at hand, past what a verbose pattern leaves out. A comment
is left only at a blank, so its first other character counts. -/
def Flags.peek (flags : Flags) (text : List Char) : Option Char :=
  if flags.verbose then go false text else text.head?
where
  /-- Looks past blanks and the marks that open comments. -/
  go (inComment : Bool) : List Char → Option Char
    | [] => none
    | char :: rest =>
      if isBlank char then go inComment rest
      else if !inComment && char = '#' then go true rest
      else some char

/-- The value of a decimal numeral. -/
def decimalValue (digits : List Char) : Nat :=
  digits.foldl (fun value digit => 10 * value + (digit.toNat - '0'.toNat)) 0

/-- Reads the digits of a count. In a verbose pattern, blanks may stand between them. -/
def takeDigits (flags : Flags) : (fuel : Nat) → List Char → List Char × List Char
  | 0, text => ([], text)
  | _, [] => ([], [])
  | fuel + 1, char :: rest =>
    if char.isDigit then
      let (digits, rest) := takeDigits flags fuel (flags.skip rest)
      (char :: digits, rest)
    else ([], char :: rest)

/-- Reads a count, with blanks around it. Counts beyond 32 bits are refused. -/
def readCount (flags : Flags) (text : List Char) : Except ReadError (Option Nat × List Char) :=
  let (digits, rest) := takeDigits flags (text.length + 1) (text.dropWhile isBlank)
  let rest := rest.dropWhile isBlank
  if digits.isEmpty then .ok (none, rest)
  else if decimalValue digits < Nat.pow 2 32 then .ok (some (decimalValue digits), rest)
  else .error .repetition

/-- Whether a character may stand in the name of a group. -/
def isNameChar (first : Bool) (char : Char) : Bool :=
  char = '_' || (if first then Unicode.alphabetic.has char
    else char = '.' || char = '[' || char = ']' || Unicode.alphanumeric.has char)

/-- Reads the name of a group up to its closing bracket. -/
def readName (text : List Char) : Except ReadError (List Char × List Char) :=
  let name := text.takeWhile (· != '>')
  match name, text.dropWhile (· != '>') with
  | first :: others, _ :: rest =>
    if isNameChar true first && others.all (isNameChar false) then .ok (name, rest)
    else .error .groupName
  | _, _ => .error .groupName

/-! ### Flags -/

/-- Sets one flag by its letter. -/
def Flags.set (flags : Flags) (value : Bool) : Char → Option Flags
  | 'i' => some { flags with ignoreCase := value }
  | 'm' => some { flags with multiLine := value }
  | 's' => some { flags with dotTakesLineFeed := value }
  | 'U' => some { flags with swapGreed := value }
  | 'u' => some { flags with unicode := value }
  | 'R' => some { flags with crlf := value }
  | 'x' => some { flags with verbose := value }
  | _ => none

/-- Reads flags up to the colon or parenthesis that ends them, which is left in place. A letter
appears at most once, and so does the minus sign, which clears what follows it. -/
def readFlags (flags : Flags) (seen : List Char) :
    List Char → Except ReadError (Flags × List Char × List Char)
  | [] => .error .flags
  | char :: rest =>
    if char = ':' ∨ char = ')' then
      if seen.head? = some '-' then .error .flags else .ok (flags, seen, char :: rest)
    else if seen.contains char then .error .flags
    else if char = '-' then readFlags flags (char :: seen) rest
    else match flags.set (!seen.contains '-') char with
      | some flags => readFlags flags (char :: seen) rest
      | none => .error .flags

/-! ### Escapes -/

/-- What an escape, or a character that stands for itself, denotes. -/
inductive Primitive
  /-- A single character. `byte` marks one that was written as two hexadecimal digits. -/
  | char (char : Char) (byte : Bool)
  | codes (codes : CodeSet)
  | look (look : Look)

/-- Characters that have a meaning in patterns. -/
def isMeta (char : Char) : Bool := "\\.+*?()|[]\x7b\x7d^$#&-~".toList.contains char

/-- Characters that may be escaped without need: ASCII, but no letter, digit or angle bracket. -/
def isEscapable (char : Char) : Bool :=
  isMeta char || (char.toNat < 0x80 && !char.isAlphanum && char != '<' && char != '>')

/-- Whether a character is a hexadecimal digit. -/
def isHexDigit (char : Char) : Bool :=
  char.isDigit || ('a' ≤ char && char ≤ 'f') || ('A' ≤ char && char ≤ 'F')

/-- The character with the code point that some digits name. -/
def charOfHex (digits : List Char) : Except ReadError Char :=
  let code := Unicode.hexValue digits
  if digits.isEmpty then .error .codePoint
  else if h : code.isValidChar then .ok (Char.ofNatAux code h)
  else .error .codePoint

/-- Reads exactly `count` hexadecimal digits. -/
def takeHex (flags : Flags) : (count : Nat) → List Char → Except ReadError (List Char × List Char)
  | 0, text => .ok ([], text)
  | count + 1, text =>
    match text with
    | [] => .error .escape
    | char :: rest =>
      if isHexDigit char then do
        let (digits, rest) ← takeHex flags count (flags.skip rest)
        .ok (char :: digits, rest)
      else .error .codePoint

/-- Reads hexadecimal digits up to a closing brace. -/
def takeBracedHex (flags : Flags) : (fuel : Nat) → List Char →
    Except ReadError (List Char × List Char)
  | 0, _ => .error .escape
  | fuel + 1, text =>
    match text with
    | [] => .error .escape
    | '\x7d' :: rest => .ok ([], flags.skip rest)
    | char :: rest =>
      if isHexDigit char then do
        let (digits, rest) ← takeBracedHex flags fuel (flags.skip rest)
        .ok (char :: digits, rest)
      else .error .codePoint

/-- Reads a code point, after the letter that announces `count` digits. -/
def readCodePoint (flags : Flags) (count : Nat) (text : List Char) :
    Except ReadError (Primitive × List Char) :=
  match flags.skip text with
  | '\x7b' :: rest => do
    let (digits, rest) ← takeBracedHex flags (rest.length + 1) (flags.skip rest)
    .ok (.char (← charOfHex digits) false, rest)
  | text => do
    let (digits, rest) ← takeHex flags count text
    .ok (.char (← charOfHex digits) (count = 2), rest)

/-- The spelling under which a property is looked up: lower case ASCII, with neither blanks,
underscores and hyphens nor the word `is` at the front. -/
def normalizeName (name : List Char) : String :=
  let lowered := name.map Char.toLower
  let (stripped, body) := match lowered with
    | 'i' :: 's' :: rest => (true, rest)
    | body => (false, body)
  let kept := body.filter fun char =>
    char.toNat < 0x80 && char != ' ' && char != '_' && char != '-'
  if stripped && kept = ['c'] then "isc" else String.ofList kept

/-- The set that a property name stands for: a binary property, a general category or a script. -/
def namedCodes? (name : String) : Option CodeSet :=
  let property := if name = "cf" ∨ name = "sc" ∨ name = "lc" then none else Unicode.property? name
  property.or ((Unicode.category? name).or (Unicode.script? name))

/-- The set of the code points whose property `name` has the given value. -/
def valuedCodes? (name value : String) : Option CodeSet :=
  if name = "gc" ∨ name = "generalcategory" then Unicode.category? value
  else if name = "sc" ∨ name = "script" then Unicode.script? value
  else if name = "scx" ∨ name = "scriptextensions" then Unicode.scriptExtensions? value
  else if name = "age" then Unicode.age? value
  else if name = "gcb" ∨ name = "graphemeclusterbreak" then Unicode.graphemeBreak? value
  else if name = "wb" ∨ name = "wordbreak" then Unicode.wordBreak? value
  else if name = "sb" ∨ name = "sentencebreak" then Unicode.sentenceBreak? value
  else none

/-- Splits a text at the first place where `mark` stands. -/
def splitAtMark (mark : List Char) : List Char → Option (List Char × List Char)
  | [] => none
  | char :: rest =>
    if mark.isPrefixOf (char :: rest) then some ([], (char :: rest).drop mark.length)
    else (splitAtMark mark rest).map fun (left, right) => (char :: left, right)

/-- The set that the text of a property stands for: a name alone, or a name and a value. -/
def propertyCodes? (text : List Char) : Option CodeSet :=
  match splitAtMark ['!', '='] text with
  | some (name, value) =>
    (valuedCodes? (normalizeName name) (normalizeName value)).map CodeSet.complement
  | none =>
    match (splitAtMark [':'] text).or (splitAtMark ['='] text) with
    | some (name, value) => valuedCodes? (normalizeName name) (normalizeName value)
    | none => namedCodes? (normalizeName text)

/-- Reads up to a closing brace, leaving out what a verbose pattern leaves out. -/
def takeBraced (flags : Flags) : (fuel : Nat) → List Char → Except ReadError (List Char × List Char)
  | 0, _ => .error .escape
  | fuel + 1, text =>
    match text with
    | [] => .error .escape
    | '\x7d' :: rest => .ok ([], rest)
    | char :: rest => do
      let (name, rest) ← takeBraced flags fuel (flags.skip rest)
      .ok (char :: name, rest)

/-- A set as the flags have it: closed under case if case is ignored, then complemented if
`negated`. Where Unicode is off, case is that of ASCII and a complement is refused. -/
def Flags.adjust (flags : Flags) (negated : Bool) (codes : CodeSet) : Except ReadError CodeSet :=
  let folded := if flags.ignoreCase then
      if flags.unicode then codes.closeUnderCase
      else codes.closeUnderCase.intersection (CodeSet.ofList [(0, 0x7F)])
    else codes
  if !negated then .ok folded
  else if flags.unicode then .ok folded.complement
  else .error .asciiOnly

/-- Reads a set named by a property, after the letter that announces it. -/
def readProperty (flags : Flags) (negated : Bool) (text : List Char) :
    Except ReadError (Primitive × List Char) := do
  let (name, rest) ← match flags.skip text with
    | [] => .error .escape
    | '\x7b' :: rest => takeBraced flags (rest.length + 1) (flags.skip rest)
    | '\\' :: _ => .error .unknownProperty
    | char :: rest => .ok ([char], flags.skip rest)
  if !flags.unicode then .error .asciiOnly
  else match propertyCodes? name with
    | none => .error .unknownProperty
    | some codes => .ok (.codes (← flags.adjust negated codes), rest)

/-- The sets of digits, blanks and word characters. -/
def Flags.shorthand (flags : Flags) : Char → Option CodeSet
  | 'd' => some (if flags.unicode then Unicode.decimalDigit else CodeSet.ofText "30-39")
  | 's' => some (if flags.unicode then Unicode.whiteSpace else CodeSet.ofText "9-D 20")
  | 'w' => some (if flags.unicode then Unicode.word else asciiWord)
  | _ => none

/-- Whose characters make up words under the flags. -/
def Flags.wordKind (flags : Flags) : WordKind := if flags.unicode then .unicode else .ascii

/-- Reads what may follow `\b` in braces. Anything but letters and hyphens is left to be read as a
count. -/
def readBoundary (flags : Flags) (text : List Char) :
    Except ReadError (Look × List Char) :=
  let plain : Look := .boundary flags.wordKind
  match text with
  | '\x7b' :: rest =>
    let isNamePart (char : Char) : Bool := char.isAlpha || char = '-'
    match flags.skip rest with
    | [] => .error .escape
    | first :: others =>
      if !isNamePart first then .ok (plain, text)
      else do
        let (name, rest) ← takeBraced flags (others.length + 2) (first :: others)
        match String.ofList name with
        | "start" => .ok (.wordStart flags.wordKind, rest)
        | "end" => .ok (.wordEnd flags.wordKind, rest)
        | "start-half" => .ok (.wordStartHalf flags.wordKind, rest)
        | "end-half" => .ok (.wordEndHalf flags.wordKind, rest)
        | _ => .error .escape
  | _ => .ok (plain, text)

/-- Reads an escape, after its backslash. -/
def readEscape (flags : Flags) : List Char → Except ReadError (Primitive × List Char)
  | [] => .error .escape
  | char :: rest =>
    if char.isDigit then .error .backReference
    else match char with
      | 'x' => readCodePoint flags 2 rest
      | 'u' => readCodePoint flags 4 rest
      | 'U' => readCodePoint flags 8 rest
      | 'p' => readProperty flags false rest
      | 'P' => readProperty flags true rest
      | 'a' => .ok (.char '\x07' false, rest)
      | 'f' => .ok (.char '\x0C' false, rest)
      | 't' => .ok (.char '\t' false, rest)
      | 'n' => .ok (.char '\n' false, rest)
      | 'r' => .ok (.char '\r' false, rest)
      | 'v' => .ok (.char '\x0B' false, rest)
      | 'A' => .ok (.look .textStart, rest)
      | 'z' => .ok (.look .textEnd, rest)
      | 'B' => .ok (.look (.notBoundary flags.wordKind), rest)
      | '<' => .ok (.look (.wordStart flags.wordKind), rest)
      | '>' => .ok (.look (.wordEnd flags.wordKind), rest)
      | 'b' => do
        let (look, rest) ← readBoundary flags rest
        .ok (.look look, rest)
      | _ =>
        match flags.shorthand char, flags.shorthand char.toLower with
        | some codes, _ => .ok (.codes codes, rest)
        | none, some codes =>
          if flags.unicode then .ok (.codes codes.complement, rest) else .error .asciiOnly
        | none, none =>
          if isEscapable char then .ok (.char char false, rest) else .error .escape

/-! ### Bracketed sets -/

/-- The sets that may be named inside brackets. -/
def asciiSets : List (String × String) := [
  ("alnum", "30-39 41-5A 61-7A"), ("alpha", "41-5A 61-7A"), ("ascii", "0-7F"),
  ("blank", "9 20"), ("cntrl", "0-1F 7F"), ("digit", "30-39"), ("graph", "21-7E"),
  ("lower", "61-7A"), ("print", "20-7E"), ("punct", "21-2F 3A-40 5B-60 7B-7E"),
  ("space", "9-D 20"), ("upper", "41-5A"), ("word", "30-39 41-5A 5F 61-7A"),
  ("xdigit", "30-39 41-46 61-66")]

/-- Reads a named set, after its opening bracket. Anything else is left to be read as a nested
set. -/
def readAsciiSet? (text : List Char) : Option (Bool × CodeSet × List Char) :=
  match text with
  | ':' :: rest =>
    let (negated, rest) := match rest with
      | '^' :: rest => (true, rest)
      | rest => (false, rest)
    let name := String.ofList (rest.takeWhile (· != ':'))
    match rest.dropWhile (· != ':') with
    | ':' :: ']' :: rest =>
      (asciiSets.find? (·.1 = name)).map fun entry => (negated, CodeSet.ofText entry.2, rest)
    | _ => none
  | _ => none

/-- The operators between sets. -/
inductive SetOperator
  | intersection
  | difference
  | symmetricDifference

/-- The result of an operator. -/
def SetOperator.apply : SetOperator → CodeSet → CodeSet → CodeSet
  | .intersection => CodeSet.intersection
  | .difference => CodeSet.difference
  | .symmetricDifference => CodeSet.symmetricDifference

/-- The members of a set that have been read so far, and how deep they are nested. -/
structure Members where
  codes : CodeSet := CodeSet.empty
  count : Nat := 0
  depth : Nat := 0

/-- Adds a member. -/
def Members.add (members : Members) (codes : CodeSet) (depth : Nat) : Members :=
  ⟨members.codes.union codes, members.count + 1, max members.depth depth⟩

/-- How deep the members are nested as a whole. -/
def Members.totalDepth (members : Members) : Nat :=
  if members.count ≤ 1 then members.depth else members.depth + 1

/-- A left operand that waits for its right one. -/
structure Operand where
  operator : SetOperator
  codes : CodeSet
  depth : Nat

/-- Joins a waiting operand with the members that follow it. Where case is ignored, it is ignored
in both operands. -/
def joinOperand (flags : Flags) (left : Option Operand) (right : Members) :
    Except ReadError (CodeSet × Nat) := do
  match left with
  | none => .ok (right.codes, right.totalDepth)
  | some left =>
    let leftCodes ← flags.adjust false left.codes
    let rightCodes ← flags.adjust false right.codes
    .ok (left.operator.apply leftCodes rightCodes, max left.depth right.totalDepth + 1)

/-- Reads one member of a set: an escape, or a character that stands for itself. -/
def readMember (flags : Flags) : List Char → Except ReadError (Primitive × List Char)
  | [] => .error .unclosedSet
  | '\\' :: rest => readEscape flags rest
  | char :: rest => .ok (.char char false, rest)

/-- The character of a member, where a set allows it. -/
def Flags.memberChar (flags : Flags) : Primitive → Except ReadError Char
  | .char char _ =>
    if flags.unicode || char.toNat < 0x80 then .ok char else .error .asciiOnly
  | _ => .error .setRange

/-- The code points of a member that is no range. -/
def Flags.memberCodes (flags : Flags) : Primitive → Except ReadError CodeSet
  | .codes codes => .ok codes
  | .look _ => .error .setMember
  | .char char byte => do .ok (CodeSet.single (← flags.memberChar (.char char byte)))

/-- Reads a member or a range of a set. -/
def readRange (flags : Flags) (text : List Char) : Except ReadError (CodeSet × List Char) := do
  let (low, rest) ← readMember flags text
  match flags.skip rest with
  | [] => .error .unclosedSet
  | '-' :: after =>
    let next := flags.peek after
    if next = some ']' ∨ next = some '-' then .ok (← flags.memberCodes low, '-' :: after)
    else do
      let (high, rest) ← readMember flags (flags.skip after)
      let low ← flags.memberChar low
      let high ← flags.memberChar high
      if low ≤ high then .ok (CodeSet.ofList [(low.toNat, high.toNat)], rest)
      else .error .setRange
  | rest => .ok (← flags.memberCodes low, rest)

/-- Reads the hyphens that stand for themselves at the start of a set. -/
def readHyphens (flags : Flags) : (fuel : Nat) → Members → List Char → Members × List Char
  | 0, members, text => (members, text)
  | fuel + 1, members, text =>
    match text with
    | '-' :: rest => readHyphens flags fuel (members.add (CodeSet.single '-') 0) (flags.skip rest)
    | _ => (members, text)

/-- Reads what stands at the start of a set, after its opening bracket: a negation, hyphens, and a
closing bracket that stands for itself because the set would be empty. -/
def openSet (flags : Flags) (text : List Char) : Bool × Members × List Char :=
  let text := flags.skip text
  let (negated, text) := match text with
    | '^' :: rest => (true, flags.skip rest)
    | _ => (false, text)
  let (members, text) := readHyphens flags (text.length + 1) {} text
  match text with
  | ']' :: rest =>
    if members.count = 0 then (negated, members.add (CodeSet.single ']') 0, flags.skip rest)
    else (negated, members, text)
  | _ => (negated, members, text)

/-- Reads the rest of a set up to its closing bracket. -/
def readSet (flags : Flags) : (fuel : Nat) → (negated : Bool) → Option Operand → Members →
    List Char → Except ReadError (CodeSet × Nat × List Char)
  | 0, _, _, _, _ => .error .unclosedSet
  | fuel + 1, negated, left, members, text => do
    -- An operator takes all that was read before it for its left operand.
    let operator (operator : SetOperator) (rest : List Char) := do
      let (codes, depth) ← joinOperand flags left members
      readSet flags fuel negated (some ⟨operator, codes, depth⟩) {} rest
    match flags.skip text with
    | [] => .error .unclosedSet
    | ']' :: rest =>
      let (codes, depth) ← joinOperand flags left members
      .ok (← flags.adjust negated codes, depth + 1, rest)
    | '[' :: rest =>
      match readAsciiSet? rest with
      | some (complemented, codes, rest) =>
        let codes ← flags.adjust complemented codes
        readSet flags fuel negated left (members.add codes 0) rest
      | none =>
        let (innerNegated, innerMembers, rest) := openSet flags rest
        let (codes, depth, rest) ← readSet flags fuel innerNegated none innerMembers rest
        readSet flags fuel negated left (members.add codes depth) rest
    | '&' :: '&' :: rest => operator .intersection rest
    | '-' :: '-' :: rest => operator .difference rest
    | '~' :: '~' :: rest => operator .symmetricDifference rest
    | text =>
      let (codes, rest) ← readRange flags text
      readSet flags fuel negated left (members.add codes 0) rest

/-! ### Expressions -/

/-- Something that has been read: an expression and how deep it is nested. A change of flags is no
expression, and cannot be repeated. -/
structure Item where
  expr : Expr
  depth : Nat
  repeatable : Bool

/-- Items one after the other, given in reverse. -/
def Item.sequence (items : List Item) : Item :=
  match items with
  | [] => ⟨.empty, 0, true⟩
  | [item] => item
  | last :: others =>
    others.foldl (fun whole item =>
      ⟨.sequence item.expr whole.expr, max item.depth whole.depth, true⟩) last
    |> fun whole => { whole with depth := whole.depth + 1 }

/-- Alternatives, given in reverse. -/
def Item.choice (items : List Item) : Item :=
  match items with
  | [] => ⟨.empty, 0, true⟩
  | [item] => item
  | last :: others =>
    others.foldl (fun whole item =>
      ⟨.choice item.expr whole.expr, max item.depth whole.depth, true⟩) last
    |> fun whole => { whole with depth := whole.depth + 1 }

/-- The expression of a primitive. -/
def Flags.exprOf (flags : Flags) : Primitive → Except ReadError Expr
  | .codes codes => .ok (.codes codes)
  | .look look => .ok (.look look)
  | .char char byte =>
    if !flags.unicode && char.toNat ≥ 0x80 then
      if byte then .error .asciiOnly else .ok (.codes (CodeSet.single char))
    else do .ok (.codes (← flags.adjust false (CodeSet.single char)))

/-- The set of a full stop. -/
def Flags.dot (flags : Flags) : Except ReadError CodeSet :=
  if !flags.unicode then .error .asciiOnly
  else if flags.dotTakesLineFeed then .ok CodeSet.all
  else if flags.crlf then .ok (CodeSet.ofText "A D").complement
  else .ok (CodeSet.ofText "A").complement

/-- The condition of a caret. -/
def Flags.caret (flags : Flags) : Look :=
  if !flags.multiLine then .textStart else if flags.crlf then .crlfLineStart else .lineStart

/-- The condition of a dollar sign. -/
def Flags.dollar (flags : Flags) : Look :=
  if !flags.multiLine then .textEnd else if flags.crlf then .crlfLineEnd else .lineEnd

/-- Reads the bounds of a counted repetition, after its opening brace. -/
def readBounds (flags : Flags) (text : List Char) :
    Except ReadError (Nat × Option Nat × List Char) := do
  match flags.skip text with
  | [] => .error .repetition
  | text =>
    let (least, rest) ← readCount flags text
    let (least, most, rest) ← match least, rest with
      | none, _ => .error .repetition
      | some least, ',' :: rest =>
        match flags.skip rest with
        | '\x7d' :: rest => .ok (least, none, '\x7d' :: rest)
        | rest => do
          match ← readCount flags rest with
          | (some most, rest) => .ok (least, some most, rest)
          | (none, _) => .error .repetition
      | some least, rest => .ok (least, some least, rest)
    match rest with
    | '\x7d' :: rest =>
      if most.any (· < least) then .error .repetition else .ok (least, most, rest)
    | _ => .error .repetition

/-- Repeats the last item. -/
def repeatLast (flags : Flags) (least : Nat) (most : Option Nat) (lazy : Bool) :
    List Item → Except ReadError (List Item)
  | [] => .error .missingOperand
  | item :: items =>
    if !item.repeatable then .error .missingOperand
    else
      let greedy := lazy == flags.swapGreed
      .ok (⟨.repetition least most greedy item.expr, item.depth + 1, true⟩ :: items)

/-- Whether a question mark follows, which makes a repetition lazy, and what follows it. -/
def readLazy : List Char → Bool × List Char
  | '?' :: rest => (true, rest)
  | rest => (false, rest)

/-- Where reading stands: the text left, the flags in force, and the group names in use. -/
structure Cursor where
  text : List Char
  flags : Flags
  names : List (List Char)

/-- What an opening parenthesis starts. -/
inductive Opening
  | group (flags : Flags) (names : List (List Char)) (rest : List Char)
  | flags (flags : Flags) (rest : List Char)

/-- Reads what follows an opening parenthesis. -/
def readOpening (cursor : Cursor) (text : List Char) : Except ReadError Opening := do
  let named (rest : List Char) : Except ReadError Opening := do
    let (name, rest) ← readName rest
    if cursor.names.contains name then .error .repeatedGroupName
    else .ok (.group cursor.flags (name :: cursor.names) rest)
  match cursor.flags.skip text with
  | '?' :: '=' :: _ | '?' :: '!' :: _ | '?' :: '<' :: '=' :: _ | '?' :: '<' :: '!' :: _ =>
    .error .lookAround
  | '?' :: 'P' :: '<' :: rest | '?' :: '<' :: rest => named rest
  | '?' :: rest =>
    match ← readFlags cursor.flags [] rest with
    | (flags, seen, ')' :: rest) =>
      if seen.isEmpty then .error .missingOperand else .ok (.flags flags rest)
    | (flags, _, rest) => .ok (.group flags cursor.names (rest.drop 1))
  | rest => .ok (.group cursor.flags cursor.names rest)

/-- Reads alternatives up to a closing parenthesis or the end of the text. `branches` and `items`
hold, in reverse, the alternatives that are complete and the items of the one at hand. -/
def readBranches : (fuel : Nat) → Cursor → (branches items : List Item) →
    Except ReadError (Item × Cursor)
  | 0, _, _, _ => .error .tooDeep
  | fuel + 1, cursor, branches, items => do
    let flags := cursor.flags
    let push (item : Item) (text : List Char) :=
      readBranches fuel { cursor with text } branches (item :: items)
    let again (least : Nat) (most : Option Nat) (rest : List Char) := do
      let (lazy, text) := readLazy rest
      readBranches fuel { cursor with text } branches (← repeatLast flags least most lazy items)
    let text := flags.skip cursor.text
    match text with
    | [] | ')' :: _ =>
      .ok (Item.choice (Item.sequence items :: branches), { cursor with text })
    | '|' :: rest =>
      readBranches fuel { cursor with text := rest } (Item.sequence items :: branches) []
    | '(' :: rest =>
      match ← readOpening cursor rest with
      | .flags flags text =>
        -- The new flags hold up to the end of the group at hand.
        readBranches fuel { cursor with text, flags } branches (⟨.empty, 0, false⟩ :: items)
      | .group inner names text =>
        let (item, closing) ← readBranches fuel ⟨text, inner, names⟩ [] []
        match closing.text with
        | ')' :: text =>
          readBranches fuel { cursor with text, names := closing.names } branches
            (⟨item.expr, item.depth + 1, true⟩ :: items)
        | _ => .error .unclosedGroup
    | '[' :: rest =>
      let (negated, members, rest) := openSet flags rest
      let (codes, depth, rest) ← readSet flags (rest.length + 1) negated none members rest
      push ⟨.codes codes, depth, true⟩ rest
    | '?' :: rest => again 0 (some 1) rest
    | '*' :: rest => again 0 none rest
    | '+' :: rest => again 1 none rest
    | '\x7b' :: rest =>
      -- What stands in front is looked at first, before the bounds are read.
      if items.head?.any (·.repeatable) then do
        let (least, most, rest) ← readBounds flags rest
        again least most (flags.skip rest)
      else .error .missingOperand
    | '\\' :: rest =>
      let (primitive, rest) ← readEscape flags rest
      push ⟨← flags.exprOf primitive, 0, true⟩ rest
    | '.' :: rest => push ⟨.codes (← flags.dot), 0, true⟩ rest
    | '^' :: rest => push ⟨.look flags.caret, 0, true⟩ rest
    | '$' :: rest => push ⟨.look flags.dollar, 0, true⟩ rest
    | char :: rest => push ⟨← flags.exprOf (.char char false), 0, true⟩ rest

/-- The expression that a text stands for. -/
def readExpr (text : List Char) : Except ReadError Expr := do
  let (item, cursor) ← readBranches (text.length + 1) ⟨text, {}, []⟩ [] []
  if !cursor.text.isEmpty then .error .unopenedGroup
  else if depthLimit < item.depth then .error .tooDeep
  else if weightLimit < item.expr.weight then .error .tooLarge
  else .ok item.expr

end ShiftReduce.Pattern
