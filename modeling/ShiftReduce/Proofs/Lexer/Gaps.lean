import ShiftReduce.Proofs.Lexer.Selection
import ShiftReduce.Proofs.Lexer.WellFormed

/-!
# Blanks that scanning skips

Scanning skips blanks in front of the first token and behind each one. An input without them is the
text of its tokens with what is left unscanned behind it: between two places where blanks may be
skipped, there is one token and nothing else.

## Main definitions

* `Text.takeBytes` — the front of a text, measured in bytes
* `Lexer.withoutGaps` — an input without the blanks skipped behind its tokens
* `Lexer.withoutBlanks` — an input without all blanks that are skipped

## Main results

* `Lexer.withoutGaps_scan` — without the blanks, tokens and what is left make up the input
* `Lexer.Reachable.isEnd_of_mem_scan` — no token of an input ends it
-/

namespace ShiftReduce

/-! ### Places between characters -/

namespace Text

/-- The text up to byte `offset`, where `offset` lies between two characters. -/
def takeBytes : (offset : Nat) → List Char → List Char
  | 0, _ => []
  | _, [] => []
  | offset + 1, char :: rest => char :: takeBytes (offset + 1 - char.utf8Size) rest

/-- The two parts of a text make it up. -/
theorem takeBytes_append_dropBytes (offset : Nat) (text : List Char) :
    takeBytes offset text ++ dropBytes offset text = text := by
  induction text generalizing offset with
  | nil => cases offset <;> rfl
  | cons char rest ih =>
    cases offset with
    | zero => rfl
    | succ offset => exact congrArg (char :: ·) (ih _)

/-- Taking the bytes of a text from one that starts with it gives the text. -/
theorem takeBytes_byteLength (front back : List Char) :
    takeBytes (byteLength front) (front ++ back) = front := by
  induction front with
  | nil => cases back <;> rfl
  | cons char rest ih =>
    obtain ⟨size, same⟩ := Nat.exists_eq_add_one.mpr char.utf8Size_pos
    rw [byteLength, List.cons_append, same, Nat.add_right_comm, takeBytes, Nat.add_right_comm,
      ← same, Nat.add_sub_cancel_left, ih]

/-- Behind the bytes of a text stands what is behind the text. -/
theorem dropBytes_byteLength (front back : List Char) :
    dropBytes (byteLength front) (front ++ back) = back := by
  have parts := takeBytes_append_dropBytes (byteLength front) (front ++ back)
  rw [takeBytes_byteLength] at parts
  exact List.append_cancel_left parts

end Text

namespace Lexer

/-! ### Deleting blanks -/

/-- The text from byte `offset` of an input on, without the blanks that are skipped behind each of
some tokens. Everything else is kept, also between the tokens and behind the last one. -/
def withoutGaps (lexer : Lexer) (offset : Nat) (text : List Char) : List Token → List Char
  | [] => text
  | token :: rest =>
    let tail := Text.dropBytes (token.stop - offset) text
    Text.takeBytes (token.stop - offset) text ++
      lexer.withoutGaps (token.stop + Text.byteLength (lexer.gap tail)) (lexer.afterGap tail) rest

/-- An input without the blanks that are skipped at its start and behind each of its tokens. -/
def withoutBlanks (lexer : Lexer) (input : String) : String :=
  String.ofList (lexer.withoutGaps (Text.byteLength (lexer.gap input.toList))
    (lexer.afterGap input.toList) (lexer.tokenize input).tokens)

variable {lexer : Lexer}

theorem afterGap_eq_self (keeps : lexer.skipsGaps = false) (text : List Char) :
    lexer.afterGap text = text := by
  rw [afterGap, keeps]
  rfl

/-- Where no blanks are skipped, none are deleted. -/
theorem withoutGaps_eq_self (keeps : lexer.skipsGaps = false) (offset : Nat) (text : List Char)
    (tokens : List Token) : lexer.withoutGaps offset text tokens = text := by
  induction tokens generalizing offset text with
  | nil => rfl
  | cons token rest ih =>
    rw [withoutGaps, ih, afterGap_eq_self keeps, Text.takeBytes_append_dropBytes]

theorem withoutBlanks_eq_self (keeps : lexer.skipsGaps = false) (input : String) :
    lexer.withoutBlanks input = input := by
  rw [withoutBlanks, withoutGaps_eq_self keeps, afterGap_eq_self keeps, String.ofList_toList]

/-! ### Scanning -/

/-- Without the blanks that are skipped, what is scanned is the text of the tokens with what is left
behind it. -/
theorem withoutGaps_scan (state : StateIndex) (offset : Nat) (text : List Char) :
    lexer.withoutGaps offset text (lexer.scan state offset text).tokens =
      ((lexer.scan state offset text).tokens.map Token.value).flatMap String.toList ++
        (lexer.scan state offset text).remainder.toList := by
  fun_induction scan lexer state offset text with
  | case1 => rfl
  | case2 => simp [withoutGaps]
  | case3 state offset first rest kind found _ value tail stop result ih =>
    have parts : value ++ tail = first :: rest := List.take_append_drop _ _
    have width : stop - offset = Text.byteLength value := Nat.add_sub_cancel_left ..
    rw [withoutGaps, width, ← parts, Text.takeBytes_byteLength, Text.dropBytes_byteLength, ih]
    simp [result]

/-- A scan that succeeds leaves nothing. -/
theorem remainder_scan (state : StateIndex) (offset : Nat) (text : List Char)
    (success : (lexer.scan state offset text).success = true) :
    (lexer.scan state offset text).remainder = "" := by
  fun_induction scan lexer state offset text with
  | case1 => rfl
  | case2 => cases success
  | case3 _ _ _ _ _ _ _ _ _ _ _ ih => exact ih success

/-- Without the blanks that are skipped, an input that is cut into tokens is their text. -/
theorem withoutBlanks_eq_join {input : String} (success : (lexer.tokenize input).success = true) :
    lexer.withoutBlanks input = String.join ((lexer.tokenize input).tokens.map Token.value) := by
  have whole := remainder_scan _ _ _ success
  rw [withoutBlanks, tokenize, withoutGaps_scan, whole, ← String.toList_inj, String.toList_ofList,
    String.toList_join]
  exact List.append_nil _

/-! ### Tokens that end inputs -/

/-- No text belongs to the class of the token that ends inputs. -/
theorem Reachable.ne_endClass_of_select? (reachable : lexer.Reachable) {state : StateIndex}
    {text : List Char} {kind : ClassIndex} {found : Match}
    (selected : lexer.select? state text = some (kind, found)) : kind ≠ endClass := by
  rintro rfl
  cases match?_of_select? selected reachable.wellFormed.inputEnd

/-- No token of an input ends it. -/
theorem Reachable.isEnd_of_mem_scan (reachable : lexer.Reachable) (state : StateIndex)
    (offset : Nat) (text : List Char) :
    ∀ token ∈ (lexer.scan state offset text).tokens, token.isEnd = false := by
  fun_induction scan lexer state offset text with
  | case1 => exact nofun
  | case2 => exact nofun
  | case3 state offset first rest kind found selected value tail stop result ih =>
    rintro token (_ | ⟨_, present⟩)
    · exact beq_eq_false_iff_ne.mpr (reachable.ne_endClass_of_select? selected)
    · exact ih token present

end Lexer

end ShiftReduce
