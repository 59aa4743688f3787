import ShiftReduce.Lexer.Scan

/-!
# Failures of a parse

## Main definitions

* `ParseError` — why an input has no parse
* `location` — the line and column of a token
-/

namespace ShiftReduce

/-- Why an input has no parse. -/
inductive ParseError
  | tokenize (tokenized : Tokenized)
  | unexpectedToken (token : Token) (line column : Nat)
  | unexpectedEnd
  /-- The table and the stacks do not agree. -/
  | internal (reason : String)
deriving DecidableEq, Repr

/-- The failure in words. -/
def ParseError.message : ParseError → String
  | .tokenize tokenized => "could not tokenize input near \"" ++ tokenized.excerpt ++ "\""
  | .unexpectedToken token line column =>
    "unexpected token \"" ++ token.value ++ "\" at " ++ toString line ++ ":" ++ toString column
  | .unexpectedEnd => "unexpected end of file"
  | .internal reason => "internal parser error: " ++ reason

/-! ### Places -/

/-- The number of line breaks in a text. A carriage return and a line feed behind it are one. -/
def countBreaks : List Char → Nat
  | [] => 0
  | '\r' :: '\n' :: rest => countBreaks rest + 1
  | char :: rest => if char == '\n' || char == '\r' then countBreaks rest + 1 else countBreaks rest

/-- The line after some tokens and the byte where it starts, from those before them. Only tokens of
line breaks count, and each of them for one line at least. -/
def lineAfter (line start : Nat) : List Token → Nat × Nat
  | [] => (line, start)
  | token :: rest =>
    if token.kind = lineBreakClass then
      lineAfter (line + max 1 (countBreaks token.value.toList)) token.stop rest
    else lineAfter line start rest

/-- The line and the column of the token behind some others, both counted from one, the column in
bytes. -/
def location (before : List Token) (token : Token) : Nat × Nat :=
  let (line, start) := lineAfter 1 0 before
  (line, token.start - start + 1)

end ShiftReduce
