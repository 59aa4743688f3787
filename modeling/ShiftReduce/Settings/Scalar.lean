import ShiftReduce.Settings.Value
import ShiftReduce.Unicode.CodeSet

/-!
# Reading scalars

The texts, numbers, dates and truth values of a settings file. Each function reads from the start of
a text and returns what it read with the text behind it; if there is nothing to read, or it is
malformed, there is no result.

## Main definitions

* `Scalar.readText` — texts in quotes, on one line or several
* `Scalar.readNumber` — whole numbers and decimals
* `Scalar.readDate` — dates and times, which are settings by their text
* `Scalar.read` — any scalar
-/

namespace ShiftReduce.Scalar

/-- Blanks inside a line. -/
def isSpace (char : Char) : Bool := char == ' ' || char == '\t'

/-- Drops the blanks at the start of a text. -/
def skipSpaces (text : List Char) : List Char := text.dropWhile isSpace

/-- Characters that may stand in texts and comments: no control characters but the tab. -/
def isTextChar (char : Char) : Bool :=
  char == '\t' || (0x20 ≤ char.toNat && char.toNat != 0x7F)

/-- The text behind a line break at its start. -/
def afterBreak? : List Char → Option (List Char)
  | '\n' :: rest => some rest
  | '\r' :: '\n' :: rest => some rest
  | _ => none

/-! ### Texts -/

/-- The character that an escape of one letter stands for. -/
def escaped? : Char → Option Char
  | 'b' => some '\x08'
  | 't' => some '\t'
  | 'n' => some '\n'
  | 'f' => some '\x0C'
  | 'r' => some '\r'
  | '"' => some '"'
  | '\\' => some '\\'
  | _ => none

/-- Whether a character is a digit in base sixteen. -/
def isHexDigit (char : Char) : Bool :=
  char.isDigit || ('a' ≤ char && char ≤ 'f') || ('A' ≤ char && char ≤ 'F')

/-- The character of a code point in base sixteen, unless it is no character. -/
def codePoint? (digits : List Char) : Option Char :=
  if digits.all isHexDigit then
    let code := Unicode.hexValue digits
    if code.isValidChar then some (Char.ofNat code) else none
  else none

/-- Puts characters in front of what is read behind them. -/
def prepend (chars : List Char) (others : Option (List Char × List Char)) :
    Option (List Char × List Char) :=
  others.map fun (others, rest) => (chars ++ others, rest)

/-- A text with escapes, up to its closing quote. -/
def readBasic : List Char → Option (List Char × List Char)
  | [] => none
  | '"' :: rest => some ([], rest)
  | '\\' :: 'u' :: a :: b :: c :: d :: rest => do
    let char ← codePoint? [a, b, c, d]
    prepend [char] (readBasic rest)
  | '\\' :: 'U' :: a :: b :: c :: d :: e :: f :: g :: h :: rest => do
    let char ← codePoint? [a, b, c, d, e, f, g, h]
    prepend [char] (readBasic rest)
  | '\\' :: letter :: rest => do
    let char ← escaped? letter
    prepend [char] (readBasic rest)
  | char :: rest =>
    if char != '\\' && isTextChar char then prepend [char] (readBasic rest) else none

/-- A text without escapes, up to its closing quote. -/
def readLiteral : List Char → Option (List Char × List Char)
  | [] => none
  | '\'' :: rest => some ([], rest)
  | char :: rest => if isTextChar char then prepend [char] (readLiteral rest) else none

/-- A text with escapes over several lines, up to its three closing quotes. One or two quotes right
before these belong to the text. After a break that is escaped, `skipping` drops all blanks and
breaks. -/
def readBasicLines (skipping : Bool) : List Char → Option (List Char × List Char)
  | [] => none
  | '"' :: '"' :: '"' :: '"' :: '"' :: rest => some (['"', '"'], rest)
  | '"' :: '"' :: '"' :: '"' :: rest => some (['"'], rest)
  | '"' :: '"' :: '"' :: rest => some ([], rest)
  | '\r' :: '\n' :: rest =>
    if skipping then readBasicLines true rest else prepend ['\n'] (readBasicLines false rest)
  | '\n' :: rest =>
    if skipping then readBasicLines true rest else prepend ['\n'] (readBasicLines false rest)
  | '\\' :: 'u' :: a :: b :: c :: d :: rest => do
    let char ← codePoint? [a, b, c, d]
    prepend [char] (readBasicLines false rest)
  | '\\' :: 'U' :: a :: b :: c :: d :: e :: f :: g :: h :: rest => do
    let char ← codePoint? [a, b, c, d, e, f, g, h]
    prepend [char] (readBasicLines false rest)
  | '\\' :: letter :: rest =>
    match escaped? letter with
    | some char => prepend [char] (readBasicLines false rest)
    | none =>
      if (afterBreak? (skipSpaces (letter :: rest))).isSome then
        readBasicLines true (letter :: rest)
      else none
  | char :: rest =>
    if skipping && isSpace char then readBasicLines true rest
    else if char != '\\' && isTextChar char then prepend [char] (readBasicLines false rest)
    else none

/-- A text without escapes over several lines, up to its three closing quotes. -/
def readLiteralLines : List Char → Option (List Char × List Char)
  | [] => none
  | '\'' :: '\'' :: '\'' :: '\'' :: '\'' :: rest => some (['\'', '\''], rest)
  | '\'' :: '\'' :: '\'' :: '\'' :: rest => some (['\''], rest)
  | '\'' :: '\'' :: '\'' :: rest => some ([], rest)
  | '\r' :: '\n' :: rest => prepend ['\n'] (readLiteralLines rest)
  | '\n' :: rest => prepend ['\n'] (readLiteralLines rest)
  | char :: rest => if isTextChar char then prepend [char] (readLiteralLines rest) else none

/-- A text on one line, with its quotes. -/
def readLine : List Char → Option (String × List Char)
  | '"' :: rest => (readBasic rest).map fun (chars, rest) => (String.ofList chars, rest)
  | '\'' :: rest => (readLiteral rest).map fun (chars, rest) => (String.ofList chars, rest)
  | _ => none

/-- A text with its quotes. A break right behind three opening quotes is left out. -/
def readText : List Char → Option (String × List Char)
  | '"' :: '"' :: '"' :: rest =>
    (readBasicLines false ((afterBreak? rest).getD rest)).map fun (chars, rest) =>
      (String.ofList chars, rest)
  | '\'' :: '\'' :: '\'' :: rest =>
    (readLiteralLines ((afterBreak? rest).getD rest)).map fun (chars, rest) =>
      (String.ofList chars, rest)
  | text => readLine text

/-! ### Numbers -/

/-- More digits of a number. A low line may stand between two of them. -/
def moreDigits (isDigit : Char → Bool) : List Char → Option (List Char × List Char)
  | [] => some ([], [])
  | '_' :: char :: rest =>
    if isDigit char then prepend [char] (moreDigits isDigit rest) else none
  | '_' :: [] => none
  | char :: rest =>
    if isDigit char then prepend [char] (moreDigits isDigit rest) else some ([], char :: rest)

/-- The digits of a number. -/
def readDigits (isDigit : Char → Bool) : List Char → Option (List Char × List Char)
  | [] => none
  | char :: rest => if isDigit char then prepend [char] (moreDigits isDigit rest) else none

/-- The digits of a whole number, which has no leading zeros. -/
def readWhole : List Char → Option (List Char × List Char)
  | '0' :: rest => some (['0'], rest)
  | text => readDigits Char.isDigit text

/-- A sign, if there is one: whether it is negative. -/
def readSign : List Char → Bool × List Char
  | '-' :: rest => (true, rest)
  | '+' :: rest => (false, rest)
  | text => (false, text)

/-- A whole number of 64 bits with its sign. -/
def wholeNumber? (negative : Bool) (magnitude : Nat) : Option Int :=
  let limit := Nat.pow 2 63
  if negative then if magnitude ≤ limit then some (-magnitude) else none
  else if magnitude < limit then some magnitude else none

/-- A whole number in a base with a prefix. -/
def readPrefixed (base : Nat) (text : List Char) : Option (Setting × List Char) := do
  let isDigit (char : Char) : Bool := isHexDigit char && Unicode.hexValue [char] < base
  let (digits, rest) ← readDigits isDigit text
  let magnitude := digits.foldl (fun value digit => base * value + Unicode.hexValue [digit]) 0
  let value ← wholeNumber? false magnitude
  return (.integer value, rest)

/-- The fraction of a decimal, if there is one: its digits. -/
def readFraction : List Char → Option (List Char × List Char)
  | '.' :: rest => readDigits Char.isDigit rest
  | text => some ([], text)

/-- The exponent of a decimal, if there is one. -/
def readExponent : List Char → Option (Int × List Char)
  | char :: rest =>
    if char == 'e' || char == 'E' then do
      let (negative, rest) := readSign rest
      let (digits, rest) ← readDigits Char.isDigit rest
      let value : Int := Decimal.valueOf digits
      return (if negative then -value else value, rest)
    else some (0, char :: rest)
  | [] => some (0, [])

/-- The number nearest to a decimal. One that is too large is refused, but below zero it is
infinite. -/
def decimal? (negative : Bool) (decimal : Decimal) : Option Real :=
  match decimal.toDouble? with
  | some magnitude => some (.finite negative magnitude)
  | none => if negative then some (.infinite true) else none

/-- A number in base ten behind its sign: a decimal if there is a fraction or an exponent, otherwise
a whole number. -/
def readUnsigned (negative : Bool) (text : List Char) : Option (Setting × List Char) := do
  let (whole, afterWhole) ← readWhole text
  let (fraction, afterFraction) ← readFraction afterWhole
  let (exponent, rest) ← readExponent afterFraction
  if rest.length = afterWhole.length then
    let value ← wholeNumber? negative (Decimal.valueOf whole)
    return (.integer value, rest)
  else
    let value ← decimal? negative
      ⟨Decimal.valueOf (whole ++ fraction), exponent - fraction.length⟩
    return (.real value, rest)

/-- A number. -/
def readNumber (text : List Char) : Option (Setting × List Char) :=
  match text with
  -- A base goes with neither a sign nor a point.
  | '0' :: 'x' :: rest => readPrefixed 16 rest
  | '0' :: 'o' :: rest => readPrefixed 8 rest
  | '0' :: 'b' :: rest => readPrefixed 2 rest
  | _ =>
    match readSign text with
    | (negative, 'i' :: 'n' :: 'f' :: rest) => some (.real (.infinite negative), rest)
    | (_, 'n' :: 'a' :: 'n' :: rest) => some (.real .undefined, rest)
    | (negative, rest) => readUnsigned negative rest

/-! ### Dates and times -/

/-- A number of exactly `count` digits, no larger than `most`. -/
def readFixed (count least most : Nat) (text : List Char) : Option (List Char × List Char) :=
  let digits := text.take count
  let value := Decimal.valueOf digits
  if digits.length = count && digits.all Char.isDigit && least ≤ value && value ≤ most then
    some (digits, text.drop count)
  else none

/-- The text behind a given character. -/
def readChar (char : Char) : List Char → Option (List Char)
  | [] => none
  | first :: rest => if first = char then some rest else none

/-- The number of days of a month. -/
def daysIn (year month : Nat) : Nat :=
  if month = 2 then
    if year % 4 = 0 && (year % 100 != 0 || year % 400 = 0) then 29 else 28
  else if month ∈ [4, 6, 9, 11] then 30
  else 31

/-- A day: year, month and day of the month. -/
def readDay (text : List Char) : Option (List Char × List Char) := do
  let (year, rest) ← readFixed 4 0 9999 text
  let (month, rest) ← readFixed 2 1 12 (← readChar '-' rest)
  let days := daysIn (Decimal.valueOf year) (Decimal.valueOf month)
  let (day, rest) ← readFixed 2 1 days (← readChar '-' rest)
  return (year ++ '-' :: month ++ '-' :: day, rest)

/-- The fraction of a second, if there is one: its first nine digits without zeros at the end. -/
def readSecondFraction (text : List Char) : Option (List Char × List Char) :=
  match text with
  | '.' :: rest =>
    let digits := rest.takeWhile Char.isDigit
    let shown := ((digits.take 9).reverse.dropWhile (· == '0')).reverse
    if digits.isEmpty then none
    else some (if shown.isEmpty then [] else '.' :: shown, rest.dropWhile Char.isDigit)
  | text => some ([], text)

/-- A time of the day. -/
def readTime (text : List Char) : Option (List Char × List Char) := do
  let (hour, rest) ← readFixed 2 0 23 text
  let (minute, rest) ← readFixed 2 0 59 (← readChar ':' rest)
  let (second, rest) ← readFixed 2 0 60 (← readChar ':' rest)
  let (fraction, rest) ← readSecondFraction rest
  return (hour ++ ':' :: minute ++ ':' :: second ++ fraction, rest)

/-- The distance of a time from universal time, if it is given. -/
def readOffset (text : List Char) : Option (List Char × List Char) :=
  match text with
  | [] => some ([], [])
  | sign :: rest =>
    if sign == 'Z' || sign == 'z' then some (['Z'], rest)
    else if sign == '+' || sign == '-' then do
      let (hour, rest) ← readFixed 2 0 23 rest
      let (minute, rest) ← readFixed 2 0 59 (← readChar ':' rest)
      let isZero := Decimal.valueOf (hour ++ minute) = 0
      return ((if isZero then '+' else sign) :: hour ++ ':' :: minute, rest)
    else some ([], text)

/-- The time of day behind a day, with what separates them. -/
def readTimeOfDay (text : List Char) : Option (List Char × List Char) :=
  match text with
  | [] => none
  | separator :: rest =>
    if separator == 'T' || separator == 't' || separator == ' ' then readTime rest else none

/-- A day, a time, or both, as text. -/
def readDate (text : List Char) : Option (Setting × List Char) :=
  match readDay text with
  | none => (readTime text).map fun (time, rest) => (.text (String.ofList time), rest)
  | some (day, afterDay) =>
    match readTimeOfDay afterDay with
    | none => some (.text (String.ofList day), afterDay)
    | some (time, rest) =>
      (readOffset rest).map fun (offset, rest) =>
        (.text (String.ofList (day ++ 'T' :: time ++ offset)), rest)

/-! ### Any scalar -/

/-- A text, a date, a number or a truth value. -/
def read (text : List Char) : Option (Setting × List Char) :=
  match text with
  | 't' :: 'r' :: 'u' :: 'e' :: rest => some (.flag true, rest)
  | 'f' :: 'a' :: 'l' :: 's' :: 'e' :: rest => some (.flag false, rest)
  | text =>
    match text.head? with
    | some '"' | some '\'' => (readText text).map fun (value, rest) => (.text value, rest)
    | _ => (readDate text).or (readNumber text)

end ShiftReduce.Scalar
