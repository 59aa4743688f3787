import ShiftReduce.Grammar.Definition
import ShiftReduce.Proofs.Grammar.Pieces

/-!
# Lexemes that stand behind each other

Where lexemes end does not depend on what follows them, so texts that are put behind each other have
the lexemes of both. Each lexeme has a few ways to be written.

## Main definitions

* `Bnf.Spells` — how a lexeme is written

## Main results

* `Bnf.lexemes_append` — the lexemes of texts behind each other
* `Bnf.Spells.lexemes_eq` — a lexeme is read from each way to write it
* `Bnf.startsDefinition_iff` — what starts a definition, told by its lexemes
-/

namespace ShiftReduce.Bnf

/-! ### Lexemes -/

/-- Texts that are put behind each other have the lexemes of both. -/
theorem lexemes_append {left right : List Char} {before after : List Lexeme}
    (leftLexed : lexemes left = .ok before) (rightLexed : lexemes right = .ok after) :
    lexemes (left ++ right) = .ok (before ++ after) := by
  obtain ⟨pieces, rfl, rfl⟩ := lexemes_eq_ok_iff.mp leftLexed
  rw [lexemes_written_append, rightLexed]
  rfl

/-- Between lexemes, there may be separators. -/
theorem lexemes_of_isSeparator {text : List Char}
    (separates : ∀ char ∈ text, isSeparator char = true) : lexemes text = .ok [] := by
  induction text with
  | nil => rw [lexemes]
  | cons first rest ih =>
    rw [List.forall_mem_cons] at separates
    rw [lexemes_cons_of_isSeparator separates.1, ih separates.2]

/-! ### The start of a definition -/

/-- A text starts a definition if its first two lexemes are a name and `::=`. -/
theorem startsDefinition_iff {text : List Char} {found : List Lexeme}
    (lexed : lexemes text = .ok found) :
    startsDefinition text = true ↔ ∃ name others, found = .reference name :: .define :: others := by
  rw [startsDefinition_iff_pieces]
  constructor
  · rintro ⟨pieces, name, behind, rfl, means⟩
    rw [lexemes_written_append, means] at lexed
    cases rest : lexemes behind with
    | error unread =>
      rw [rest] at lexed
      cases lexed
    | ok others =>
      rw [rest] at lexed
      cases lexed
      exact ⟨name, others, rfl⟩
  · rintro ⟨name, others, rfl⟩
    obtain ⟨pieces, rfl, means⟩ := lexemes_eq_ok_iff.mp lexed
    have starts := startsDefinition_written_append means []
    rwa [List.append_nil, startsDefinition_iff_pieces] at starts

/-! ### Ways to write a lexeme -/

/-- How a lexeme is written: names in angle brackets, literals in quotes that do not occur in
them. -/
inductive Spells : Lexeme → List Char → Prop
  | define : Spells .define "::=".toList
  | pipe : Spells .pipe ['|']
  | reference {name : String} : Definition.isName name = true →
      Spells (.reference name) ('<' :: name.toList ++ ['>'])
  | literal {text : String} {quote : Char} : quote = '"' ∨ quote = '\'' → quote ∉ text.toList →
      '\n' ∉ text.toList → Spells (.literal text) (quote :: text.toList ++ [quote])

/-- Letters, digits and hyphens are the only characters of names. -/
theorem notMem_of_isName {name : String} (isName : Definition.isName name = true) {char : Char}
    (other : char.isAlphanum = false) (noHyphen : char ≠ '-') : char ∉ name.toList := by
  unfold Definition.isName at isName
  split at isName
  · cases isName
  · rename_i first rest parts
    rw [Bool.and_eq_true, List.all_eq_true] at isName
    rw [parts, List.mem_cons, not_or]
    refine ⟨?_, fun present => ?_⟩
    · rintro rfl
      simp [Char.isAlphanum, isName.1] at other
    · simpa [other, noHyphen] using isName.2 char present

/-- Each way to write a lexeme is a piece. -/
theorem Spells.exists_piece {lexeme : Lexeme} {text : List Char} (spells : Spells lexeme text) :
    ∃ piece : Piece, piece.meaning = some lexeme ∧ piece.text = text := by
  cases spells with
  | define => exact ⟨.define, rfl, rfl⟩
  | pipe => exact ⟨.pipe, rfl, rfl⟩
  | @reference name isName =>
    have noOpening : '<' ∉ name.toList := notMem_of_isName isName (by decide) (by decide)
    have noClosing : '>' ∉ name.toList := notMem_of_isName isName (by decide) (by decide)
    exact ⟨.reference name noOpening noClosing, rfl, rfl⟩
  | @literal inner quote isQuote absent _ => exact ⟨.literal quote isQuote inner absent, rfl, rfl⟩

/-- A lexeme is read from each way to write it. -/
theorem Spells.lexemes_eq {lexeme : Lexeme} {text : List Char} (spells : Spells lexeme text) :
    lexemes text = .ok [lexeme] := by
  obtain ⟨piece, means, rfl⟩ := spells.exists_piece
  apply lexemes_eq_ok_iff.mpr
  exact ⟨[piece], (List.append_nil _).symm, by rw [meant_cons, means]; rfl⟩

end ShiftReduce.Bnf
