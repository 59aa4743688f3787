import Mathlib.Data.List.Basic
import ShiftReduce.Text.Quoted

/-!
# Codes that can be told apart

Where a code ends can be seen from the code itself, so a row of codes can be taken apart in one way
only. The characters between quotes are written in such codes, and a quoted text has one meaning.

## Main definitions

* `Text.PrefixFree` — codes whose ends can be seen
* `Text.Escaped` — the ways to write a character between quotes

## Main results

* `Text.PrefixFree.flatMap_injective` — rows of codes can be taken apart
* `Text.prefixFree_escapeChar` — how characters are written between quotes
* `Text.quote_injective` — different texts are different in quotes
-/

namespace ShiftReduce.Text

/-! ### Codes -/

/-- Whatever follows on a code, the code and what follows can be told. -/
def PrefixFree {α : Type} (code : α → List Char) : Prop :=
  ∀ left right behind other, code left ++ behind = code right ++ other →
    left = right ∧ behind = other

/-- A row of codes that are not empty can be taken apart in one way only. -/
theorem PrefixFree.flatMap_injective {α : Type} {code : α → List Char} (free : PrefixFree code)
    (nonempty : ∀ element, code element ≠ []) :
    Function.Injective fun elements : List α => elements.flatMap code := by
  intro left right same
  induction left generalizing right with
  | nil =>
    cases right with
    | nil => rfl
    | cons first rest => simp [nonempty] at same
  | cons first rest ih =>
    cases right with
    | nil => simp [nonempty] at same
    | cons other others =>
      simp only [List.flatMap_cons] at same
      obtain ⟨rfl, behind⟩ := free _ _ _ _ same
      rw [ih behind]

/-- A text that ends at the first mark can be told from what follows. -/
theorem marked_unique {mark : Char} {left right behind other : List Char} (clear : mark ∉ left)
    (otherClear : mark ∉ right) (same : left ++ mark :: behind = right ++ mark :: other) :
    left = right ∧ behind = other := by
  induction left generalizing right with
  | nil =>
    cases right with
    | nil => simpa using same
    | cons first rest =>
      simp only [List.nil_append, List.cons_append, List.cons.injEq] at same
      exact absurd (same.1 ▸ List.mem_cons_self) otherClear
  | cons first rest ih =>
    cases right with
    | nil =>
      simp only [List.nil_append, List.cons_append, List.cons.injEq] at same
      exact absurd (same.1 ▸ List.mem_cons_self) clear
    | cons again others =>
      simp only [List.cons_append, List.cons.injEq] at same
      have further := ih (List.not_mem_of_not_mem_cons clear)
        (List.not_mem_of_not_mem_cons otherClear) same.2
      exact ⟨congrArg₂ List.cons same.1 further.1, further.2⟩

/-! ### Digits -/

theorem digitChar_inj {left right : Nat} (leftSmall : left < 16) (rightSmall : right < 16)
    (same : left.digitChar = right.digitChar) : left = right := by
  have all : ∀ first < 16, ∀ second < 16, first.digitChar = second.digitChar → first = second := by
    decide
  exact all left leftSmall right rightSmall same

theorem hexDigits_eq (number : Nat) : hexDigits number =
    if number < 16 then [number.digitChar]
    else hexDigits (number / 16) ++ [(number % 16).digitChar] :=
  Nat.toDigits_eq_if (by decide)

/-- Behind the digits of a number, one more makes two at least. -/
theorem hexDigits_append_ne_singleton (number : Nat) (last digit : Char) :
    hexDigits number ++ [last] ≠ [digit] := by
  intro same
  have lengths := congrArg List.length same
  have positive : 0 < (hexDigits number).length := List.length_pos_of_ne_nil Nat.toDigits_ne_nil
  simp only [List.length_append, List.length_singleton] at lengths
  omega

/-- Numbers are told by their digits. -/
theorem hexDigits_injective : Function.Injective hexDigits := by
  intro left
  induction left using Nat.strongRecOn with
  | ind left ih =>
    intro right same
    -- A single digit is the number; the last of several is split off, and the others tell the
    -- quotient.
    rw [hexDigits_eq left, hexDigits_eq right] at same
    by_cases leftSmall : left < 16 <;> by_cases rightSmall : right < 16
    · rw [if_pos leftSmall, if_pos rightSmall] at same
      exact digitChar_inj leftSmall rightSmall (List.singleton_inj.mp same)
    · rw [if_pos leftSmall, if_neg rightSmall] at same
      exact absurd same.symm (hexDigits_append_ne_singleton _ _ _)
    · rw [if_neg leftSmall, if_pos rightSmall] at same
      exact absurd same (hexDigits_append_ne_singleton _ _ _)
    · rw [if_neg leftSmall, if_neg rightSmall] at same
      obtain ⟨front, last⟩ := List.append_inj' same rfl
      have quotients := ih (left / 16) (by omega) front
      have remainders := digitChar_inj (Nat.mod_lt _ (by decide)) (Nat.mod_lt _ (by decide))
        (List.singleton_inj.mp last)
      omega

theorem brace_notMem_hexDigits (number : Nat) : '\x7d' ∉ hexDigits number := by
  induction number using Nat.strongRecOn with
  | ind number ih =>
    have other (digit : Nat) : '\x7d' ≠ digit.digitChar := (Nat.digitChar_ne _ rfl).symm
    rw [hexDigits_eq]
    split
    · simp [other]
    · simp [other, ih (number / 16) (by omega)]

/-! ### Quotes -/

/-- The characters that are written with a letter behind a backslash, each with its letter. -/
def namedEscapes : List (Char × Char) :=
  [('\x00', '0'), ('\t', 't'), ('\r', 'r'), ('\n', 'n'), ('\\', '\\'), ('"', '"')]

/-- The ways to write a character between quotes: as it is, with a letter behind a backslash, or
with its number. -/
inductive Escaped : Char → List Char → Prop
  | shown {char : Char} : char ≠ '\\' → Escaped char [char]
  | named {char letter : Char} : (char, letter) ∈ namedEscapes → Escaped char ['\\', letter]
  | numbered (char : Char) :
      Escaped char (['\\', 'u', '\x7b'] ++ hexDigits char.toNat ++ ['\x7d'])

theorem escaped_escapeChar (char : Char) : Escaped char (escapeChar char) := by
  unfold escapeChar
  split
  case h_7 other =>
    split
    · apply Escaped.shown
      assumption
    · exact .numbered char
  all_goals exact .named (by decide)

/-- A way to write a character tells the character and where it ends. -/
theorem Escaped.unique {left right : Char} {leftCode rightCode behind other : List Char}
    (leftEscaped : Escaped left leftCode) (rightEscaped : Escaped right rightCode)
    (same : leftCode ++ behind = rightCode ++ other) : left = right ∧ behind = other := by
  have letters : ∀ first ∈ namedEscapes, first.2 ≠ 'u' ∧
      ∀ second ∈ namedEscapes, first.2 = second.2 → first.1 = second.1 := by
    decide
  cases leftEscaped with
  | shown plain =>
    cases rightEscaped with
    | shown _ => simpa using same
    | named _ => simp [plain] at same
    | numbered => simp [plain] at same
  | named listed =>
    cases rightEscaped with
    | shown plain => simp [plain.symm] at same
    | named also =>
      simp only [List.cons_append, List.nil_append, List.cons.injEq, true_and] at same
      exact ⟨(letters _ listed).2 _ also same.1, same.2⟩
    | numbered =>
      simp only [List.cons_append, List.nil_append, List.cons.injEq, true_and] at same
      exact absurd same.1 (letters _ listed).1
  | numbered =>
    cases rightEscaped with
    | shown plain => simp [plain.symm] at same
    | named also =>
      simp only [List.cons_append, List.nil_append, List.cons.injEq, true_and] at same
      exact absurd same.1.symm (letters _ also).1
    | numbered =>
      simp only [List.append_assoc, List.cons_append, List.nil_append, List.cons.injEq,
        true_and] at same
      have digits := marked_unique (brace_notMem_hexDigits _) (brace_notMem_hexDigits _) same
      exact ⟨Char.toNat_inj.mp (hexDigits_injective digits.1), digits.2⟩

/-- Where a character ends between quotes can be seen. -/
theorem prefixFree_escapeChar : PrefixFree escapeChar := fun left right _ _ same =>
  (escaped_escapeChar left).unique (escaped_escapeChar right) same

theorem escapeChar_ne_nil (char : Char) : escapeChar char ≠ [] := by
  intro empty
  cases empty ▸ escaped_escapeChar char

/-- Different texts are different in quotes. -/
theorem quote_injective : Function.Injective quote := by
  intro left right same
  have codes := String.ofList_injective same
  have escaped := List.append_cancel_right (List.cons.inj codes).2
  exact String.toList_injective (prefixFree_escapeChar.flatMap_injective escapeChar_ne_nil escaped)

end ShiftReduce.Text
