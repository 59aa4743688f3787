import ShiftReduce.Text.Measure

/-!
# Lexemes of grammar text

Grammars are written with `::=` between a rule and its alternatives, `|` between alternatives,
names in angle brackets, and literals in single or double quotes. What is between the brackets or
quotes is taken as it is. Blanks and line breaks may stand between lexemes.

## Main definitions

* `Bnf.Lexeme` — the lexemes
* `Bnf.lexemes` — the lexemes of a text, or the place where none starts
* `Bnf.startsDefinition` — whether a line starts a new definition
-/

namespace ShiftReduce.Bnf

/-- A lexeme of grammar text. Names and literals come without their brackets and quotes. -/
inductive Lexeme
  | define
  | pipe
  | reference (name : String)
  | literal (text : String)
deriving DecidableEq, Repr

/-- Characters that may stand between lexemes. -/
def isSeparator (char : Char) : Bool :=
  char == ' ' || char == '\t' || char == '\r' || char == '\n' || char == '\x0C'

/-- The text before the first character that stops it, which must be `close`, and the text after
that. -/
def enclosed (stops : Char → Bool) (close : Char) (text : List Char) :
    Option (String × List Char) :=
  match text.dropWhile fun char => !stops char with
  | [] => none
  | stop :: rest =>
    if stop = close then some (String.ofList (text.takeWhile fun char => !stops char), rest)
    else none

/-- The lexeme that starts with `first`, and the text after it. -/
def lexeme? (first : Char) (rest : List Char) : Option (Lexeme × List Char) :=
  match first with
  | '|' => some (.pipe, rest)
  | ':' =>
    match rest with
    | ':' :: '=' :: rest => some (.define, rest)
    | _ => none
  | '<' =>
    (enclosed (fun char => char == '<' || char == '>') '>' rest).map fun (name, rest) =>
      (.reference name, rest)
  | '"' => (enclosed (· == '"') '"' rest).map fun (text, rest) => (.literal text, rest)
  | '\'' => (enclosed (· == '\'') '\'' rest).map fun (text, rest) => (.literal text, rest)
  | _ => none

/-- What follows an enclosed text is shorter than what it was read from. -/
theorem length_of_enclosed {stops : Char → Bool} {close : Char} {text rest : List Char}
    {inner : String} (found : enclosed stops close text = some (inner, rest)) :
    rest.length < text.length := by
  unfold enclosed at found
  split at found
  · cases found
  · rename_i stop after dropped
    have bound := (List.dropWhile_suffix (fun char => !stops char) (l := text)).length_le
    rw [dropped] at bound
    split at found
    · simp only [Option.some.injEq, Prod.mk.injEq] at found
      rw [← found.2]
      simp only [List.length_cons] at bound
      omega
    · cases found

/-- What follows a lexeme is no longer than what follows its first character. -/
theorem length_of_lexeme? {first : Char} {text rest : List Char} {lexeme : Lexeme}
    (found : lexeme? first text = some (lexeme, rest)) : rest.length ≤ text.length := by
  unfold lexeme? at found
  split at found
  · simp_all
  · split at found
    · simp only [Option.some.injEq, Prod.mk.injEq] at found
      simp [← found.2]
      omega
    · cases found
  all_goals first
    | cases found
    | (simp only [Option.map_eq_some_iff, Prod.exists, Prod.mk.injEq] at found
       obtain ⟨inner, after, enclosed, -, rfl⟩ := found
       exact Nat.le_of_lt (length_of_enclosed enclosed))

/-- The lexemes of a text. On failure, the text from the first place where neither a lexeme nor a
separator starts. -/
def lexemes (text : List Char) : Except (List Char) (List Lexeme) :=
  match text with
  | [] => .ok []
  | first :: rest =>
    if isSeparator first then lexemes rest
    else match _found : lexeme? first rest with
      | none => .error (first :: rest)
      | some (lexeme, rest) =>
        match lexemes rest with
        | .ok others => .ok (lexeme :: others)
        | .error unread => .error unread
termination_by text.length
decreasing_by
  · simp
  · have bound := length_of_lexeme? _found
    simp only [List.length_cons]
    omega

/-- The lexemes of a text. On failure, the byte where neither a lexeme nor a separator starts. -/
def tokenize (text : String) : Except Nat (List Lexeme) :=
  match lexemes text.toList with
  | .ok found => .ok found
  | .error unread => .error (Text.byteLength text.toList - Text.byteLength unread)

/-- The first lexeme of a text, and the text after it. -/
def firstLexeme? (text : List Char) : Option (Lexeme × List Char) :=
  match text.dropWhile isSeparator with
  | [] => none
  | first :: rest => lexeme? first rest

/-- Whether a line starts a definition: its first two lexemes are a name and `::=`. -/
def startsDefinition (line : List Char) : Bool :=
  match firstLexeme? line with
  | some (.reference _, rest) =>
    match firstLexeme? rest with
    | some (.define, _) => true
    | _ => false
  | _ => false

end ShiftReduce.Bnf
