import ShiftReduce.Proofs.Grammar.Rearrangement
import ShiftReduce.Proofs.Parser.Renumbering

/-!
# Parsers of definitions in another order

The order of the definitions behind the first one and that of alternatives decide on the numbers of
rules, literals and states only. Texts that hold the same definitions in another order both have a
parser or both have none, and parsers of them end with the same tree or failure on all tokens.

## Main results

* `Parser.runFor_eq_of_rearranged` — the parses of definitions in another order
-/

namespace ShiftReduce

namespace Parser

variable {definitions others : List Definition} {text otherText : String}

/-- A text with the definitions of another one in another order has a parser if the other has. -/
theorem exists_ofText_of_rearranged {lexer : Lexer} (reachable : lexer.Reachable)
    (rearranged : Definition.Rearranged definitions others)
    (holds : Definition.Holds text definitions) (otherHolds : Definition.Holds otherText others)
    (built : ∃ parser, ofText lexer text = .ok parser) :
    ∃ other, ofText lexer otherText = .ok other := by
  obtain ⟨grammar, loaded, tabled⟩ := exists_ofText_iff.mp built
  obtain ⟨other, numbers, otherLoaded, renumbered⟩ :=
    Grammar.exists_ofText_of_rearranged rearranged holds otherHolds loaded
  have wellFormed := Grammar.Loaded.wellFormed ⟨lexer, reachable, text, loaded⟩
  have otherFormed := Grammar.Loaded.wellFormed ⟨lexer, reachable, otherText, otherLoaded⟩
  exact exists_ofText_iff.mpr
    ⟨other, otherLoaded, renumbered.exists_table wellFormed otherFormed tabled⟩

/-- Two texts that hold the same definitions, the first one in front and the others and all
alternatives in any order, both have a parser or both have none. All parses of their parsers end
with the same tree or failure after as many actions, or neither ends. -/
theorem runFor_eq_of_rearranged {lexer : Lexer} (reachable : lexer.Reachable)
    (rearranged : Definition.Rearranged definitions others)
    (holds : Definition.Holds text definitions) (otherHolds : Definition.Holds otherText others) :
    ((∃ parser, ofText lexer text = .ok parser) ↔ ∃ other, ofText lexer otherText = .ok other) ∧
    ∀ parser other, ofText lexer text = .ok parser → ofText lexer otherText = .ok other →
      ∀ tokens limit,
        (other.engine.runFor limit (.start tokens)).map (Except.map Derivation.tree) =
          (parser.engine.runFor limit (.start tokens)).map (Except.map Derivation.tree) := by
  refine ⟨⟨exists_ofText_of_rearranged reachable rearranged holds otherHolds,
    exists_ofText_of_rearranged reachable rearranged.symm otherHolds holds⟩, ?_⟩
  intro parser other built otherBuilt tokens limit
  have loaded := (ofText_eq_ok_iff.mp built).1
  have otherLoaded := (ofText_eq_ok_iff.mp otherBuilt).1
  obtain ⟨found, numbers, again, renumbered⟩ :=
    Grammar.exists_ofText_of_rearranged rearranged holds otherHolds loaded
  obtain rfl := Except.ok.inj (again.symm.trans otherLoaded)
  exact renumbered.runFor_eq (Grammar.Loaded.wellFormed ⟨lexer, reachable, text, loaded⟩)
    (Grammar.Loaded.wellFormed ⟨lexer, reachable, otherText, otherLoaded⟩) (table_of_ofText built)
    (table_of_ofText otherBuilt) tokens limit

/-! ### Definitions for examples -/

/-- The text of a grammar of pairs of letters. -/
def pairText : String :=
  "<pair> ::= <left> <right>\n<left> ::= \"a\" | \"b\"\n<right> ::= <left> | \"c\""

/-- The same definitions with the last two and their alternatives the other way round. -/
def pairTextReordered : String :=
  "<pair> ::= <left> <right>\n\n<right> ::= 'c'\n  | <left>\n<left> ::= 'b' | 'a'"

/-- Pairs are parsed the same way in both orders. -/
theorem runFor_eq_pairs : ∃ parser other, ofText Lexer.initial pairText = .ok parser ∧
    ofText Lexer.initial pairTextReordered = .ok other ∧ ∀ tokens limit,
      (other.engine.runFor limit (.start tokens)).map (Except.map Derivation.tree) =
        (parser.engine.runFor limit (.start tokens)).map (Except.map Derivation.tree) := by
  have rearranged : Definition.Rearranged
      [⟨"pair", [[.reference "left", .reference "right"]]⟩,
        ⟨"left", [[.literal "a"], [.literal "b"]]⟩,
        ⟨"right", [[.reference "left"], [.literal "c"]]⟩]
      [⟨"pair", [[.reference "left", .reference "right"]]⟩,
        ⟨"right", [[.literal "c"], [.reference "left"]]⟩,
        ⟨"left", [[.literal "b"], [.literal "a"]]⟩] :=
    .cons ⟨rfl, .refl _⟩ (.swap _ _ _)
      (.cons ⟨rfl, .swap _ _ _⟩ (.cons ⟨rfl, .swap _ _ _⟩ .nil))
  have agree := runFor_eq_of_rearranged .initial rearranged
    (show Definition.Holds pairText _ by decide +kernel)
    (show Definition.Holds pairTextReordered _ by decide +kernel)
  have known : (ofText Lexer.initial pairText).toOption.isSome = true := by decide +kernel
  obtain ⟨parser, found⟩ := Option.isSome_iff_exists.mp known
  have built := eq_ok_of_toOption found
  obtain ⟨other, otherBuilt⟩ := agree.1.mp ⟨parser, built⟩
  exact ⟨parser, other, built, otherBuilt, agree.2 parser other built otherBuilt⟩

end Parser

end ShiftReduce
