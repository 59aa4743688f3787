import Mathlib
import ShiftReduce.Proofs.Lexer.Gaps

/-!
# Inputs fall into gaps and tokens

A scan divides its input: a gap, a token, a gap, a token, and so on, a last gap, and what is left.
The gaps are as long as they can be, the tokens have text, and nothing else is in between. What a
token says of its place is where its text stands in the input.

## Main definitions

* `Lexer.IsGap` — the blanks that are skipped in front of a text
* `Lexer.Divides` — a text as gaps and tokens, with what is left behind them

## Main results

* `Lexer.divides_tokenize` — an input is divided into its tokens and what is left of it
* `Lexer.Reachable.tokenize_spec` — tokens, their places, and what it means to succeed
-/

namespace ShiftReduce.Lexer

/-- The blanks in front of a text, if blanks are skipped, and nothing if they are not. Blanks at the
start of the text would belong to them. -/
def IsGap (lexer : Lexer) (gap text : List Char) : Prop :=
  if lexer.skipsGaps then
    (∀ char ∈ gap, Text.isGap char = true) ∧ ∀ char ∈ text.head?, Text.isGap char = false
  else gap = []

/-- A text from byte `offset` of an input on is a gap with what is left behind it, or a gap, the
text of a token in its place, and a text that is divided again. -/
inductive Divides (lexer : Lexer) : (offset : Nat) → List Char → List Token → List Char → Prop
  | stop {offset : Nat} {gap remainder : List Char} : lexer.IsGap gap remainder →
      Divides lexer offset (gap ++ remainder) [] remainder
  | token {offset : Nat} {gap value rest remainder : List Char} {token : Token}
      {tokens : List Token} : lexer.IsGap gap (value ++ rest) → value ≠ [] →
      token.value = String.ofList value → token.start = offset + Text.byteLength gap →
      token.stop = token.start + Text.byteLength value →
      Divides lexer token.stop rest tokens remainder →
      Divides lexer offset (gap ++ (value ++ rest)) (token :: tokens) remainder

variable {lexer : Lexer} {offset : Nat} {text remainder : List Char} {tokens : List Token}

/-! ### Scanning divides -/

/-- The blanks that are skipped are a gap in front of the text past them. -/
theorem isGap_gap (text : List Char) : lexer.IsGap (lexer.gap text) (lexer.afterGap text) := by
  unfold IsGap gap afterGap
  split
  · rename_i skips
    refine ⟨fun char present => List.mem_takeWhile_imp present, fun char first => ?_⟩
    have found := List.head?_dropWhile_not Text.isGap text
    rw [Option.mem_def.mp first] at found
    simpa using found
  · rfl

/-- With the gap in front of it, what is scanned is divided into tokens and what is left. -/
theorem divides_scan (state : StateIndex) (offset : Nat) (text : List Char) {before : Nat}
    {gap : List Char} (isGap : lexer.IsGap gap text)
    (place : offset = before + Text.byteLength gap) :
    lexer.Divides before (gap ++ text) (lexer.scan state offset text).tokens
      (lexer.scan state offset text).remainder.toList := by
  fun_induction scan lexer state offset text generalizing before gap with
  | case1 => exact .stop isGap
  | case2 => exact String.toList_ofList.symm ▸ .stop isGap
  | case3 state offset first rest kind found _ value tail stop =>
    rename_i result ih
    have parts : value ++ tail = first :: rest := List.take_append_drop _ _
    have nonempty : value ≠ [] := by
      simp [value, Nat.pos_iff_ne_zero.mp found.length_pos]
    have later := ih (isGap_gap tail) rfl
    rw [gap_append_afterGap] at later
    rw [← parts] at isGap ⊢
    exact .token isGap nonempty rfl place rfl later

/-- An input is divided into its tokens and what is left of it. -/
theorem divides_tokenize (lexer : Lexer) (input : String) :
    lexer.Divides 0 input.toList (lexer.tokenize input).tokens
      (lexer.tokenize input).remainder.toList := by
  have isGap : lexer.IsGap _ _ := isGap_gap input.toList
  have divides := divides_scan initialState _ _ isGap (Nat.zero_add _).symm
  rwa [gap_append_afterGap] at divides

/-- A scan that does not succeed leaves something. -/
theorem success_scan_iff (state : StateIndex) (offset : Nat) (text : List Char) :
    (lexer.scan state offset text).success = true ↔
      (lexer.scan state offset text).remainder = "" := by
  refine ⟨remainder_scan state offset text, fun whole => ?_⟩
  fun_induction scan lexer state offset text with
  | case1 => rfl
  | case2 => simp at whole
  | case3 _ _ _ _ _ _ _ _ _ _ _ ih => exact ih whole

/-! ### Tokens in their places -/

namespace Divides

variable (divides : lexer.Divides offset text tokens remainder)
include divides

/-- The text of a token stands in the input between the bytes where it starts and stops. -/
theorem exists_place (before : List Char) (place : Text.byteLength before = offset) :
    ∀ token ∈ tokens, ∃ front back, before ++ text = front ++ token.value.toList ++ back ∧
      Text.byteLength front = token.start ∧
      Text.byteLength (front ++ token.value.toList) = token.stop := by
  induction divides generalizing before with
  | stop => exact nofun
  | @token offset gap value rest _ first others _ _ isValue start stop _ ih =>
    have front : Text.byteLength (before ++ gap) = first.start := by
      rw [Text.byteLength_append, place, start]
    have behind : Text.byteLength (before ++ gap ++ value) = first.stop := by
      rw [Text.byteLength_append, front, stop]
    rintro token (_ | ⟨_, present⟩)
    · rw [isValue, String.toList_ofList]
      exact ⟨before ++ gap, rest, by simp, front, behind⟩
    · obtain ⟨front, back, same, places⟩ := ih _ behind token present
      exact ⟨front, back, by rw [← same]; simp, places⟩

/-- Tokens have text, and none starts before the text that is divided. -/
theorem visible : ∀ token ∈ tokens,
    token.value ≠ "" ∧ offset ≤ token.start ∧ token.start < token.stop := by
  induction divides with
  | stop => exact nofun
  | @token offset gap value rest _ first others _ nonempty isValue start stop _ ih =>
    have taken : 0 < Text.byteLength value := by
      obtain ⟨char, chars, rfl⟩ := List.exists_cons_of_ne_nil nonempty
      exact Nat.add_pos_left char.utf8Size_pos _
    rintro token (_ | ⟨_, present⟩)
    · refine ⟨?_, by omega, by omega⟩
      rw [isValue]
      simpa using nonempty
    · obtain ⟨text, behind, positive⟩ := ih token present
      exact ⟨text, by omega, positive⟩

/-- Every token stops before the next ones start. -/
theorem ordered : tokens.Pairwise fun left right => left.stop ≤ right.start := by
  induction divides with
  | stop => exact .nil
  | token _ _ _ _ _ later ih =>
    exact List.pairwise_cons.mpr ⟨fun other present => (later.visible other present).2.1, ih⟩

/-- There are no more tokens than characters. -/
theorem length_le : tokens.length ≤ text.length := by
  induction divides with
  | stop => exact Nat.zero_le _
  | token _ nonempty _ _ _ _ ih =>
    have taken := List.length_pos_iff.mpr nonempty
    simp only [List.length_append, List.length_cons]
    omega

end Divides

/-! ### Inputs -/

/-- An input falls into gaps, tokens and what is left, in order and without overlaps. The text of a
token is what stands in its place, no token ends the input, and scanning succeeds where nothing is
left. -/
theorem Reachable.tokenize_spec (reachable : lexer.Reachable) (input : String) :
    lexer.Divides 0 input.toList (lexer.tokenize input).tokens
      (lexer.tokenize input).remainder.toList ∧
    (∀ token ∈ (lexer.tokenize input).tokens,
      token.value ≠ "" ∧ token.start < token.stop ∧ token.isEnd = false ∧
      ∃ front back, input.toList = front ++ token.value.toList ++ back ∧
        Text.byteLength front = token.start ∧
        Text.byteLength (front ++ token.value.toList) = token.stop) ∧
    ((lexer.tokenize input).tokens.Pairwise fun left right => left.stop ≤ right.start) ∧
    (lexer.tokenize input).tokens.length ≤ input.length ∧
    ((lexer.tokenize input).success = true ↔ (lexer.tokenize input).remainder = "") := by
  have divides := divides_tokenize lexer input
  refine ⟨divides, fun token present => ?_, divides.ordered, ?_, success_scan_iff _ _ _⟩
  · obtain ⟨visible, -, positive⟩ := divides.visible token present
    obtain ⟨front, back, same, places⟩ := divides.exists_place [] rfl token present
    exact ⟨visible, positive, reachable.isEnd_of_mem_scan _ _ _ token present, front, back, same,
      places⟩
  · rw [← String.length_toList]
    exact divides.length_le

/-- Line breaks between blanks, the first of which takes two bytes, in front of a letter that no
class matches. -/
theorem tokenize_breaks : Lexer.initial.Divides 0 "\u00a0\n\t\r\n x".toList
    [⟨"\n", lineBreakClass, 2, 3⟩, ⟨"\r\n", lineBreakClass, 4, 6⟩] "x".toList := by
  have cut : Lexer.initial.tokenize "\u00a0\n\t\r\n x" =
      ⟨false, [⟨"\n", lineBreakClass, 2, 3⟩, ⟨"\r\n", lineBreakClass, 4, 6⟩], "x",
        initialState⟩ := by
    cbv
  have spec := (Reachable.initial.tokenize_spec "\u00a0\n\t\r\n x").1
  rwa [cut] at spec

end ShiftReduce.Lexer
