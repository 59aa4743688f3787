import ShiftReduce.Proofs.Grammar.Declaration
import ShiftReduce.Proofs.Lexer.Reachable

/-!
# Loading yields well-formed grammars

What is read of a text has alternatives everywhere and words in each of them, and these become the
alternatives of rules over symbols that are there.

## Main definitions

* `Grammar.Loaded` — the grammars that the texts of grammars declare

## Main results

* `Grammar.Loaded.wellFormed` — every loaded grammar is well formed
-/

namespace ShiftReduce

theorem eq_ok_of_toOption {ε α : Type} {result : Except ε α} {value : α}
    (found : result.toOption = some value) : result = .ok value := by
  cases result with
  | error error => cases found
  | ok other => exact congrArg Except.ok (Option.some.inj found)

/-- The symbols of the rule that a definition becomes are there if its words are known. -/
theorem Definition.isDeclared_rule {names terminals : List String} (definition : Definition)
    (filled : definition.IsFilled)
    (known : ∀ word ∈ definition.words, word.Known names terminals) :
    (definition.rule names terminals).IsDeclared (names.length + 1) terminals.length where
  kind := rfl
  alternatives_ne_nil := by simpa [rule] using filled.1
  symbols_ne_nil := by
    intro symbols listed
    obtain ⟨words, inAlternatives, rfl⟩ := List.mem_map.mp listed
    simpa using filled.2 words inAlternatives
  inRange := by
    intro symbols listed symbol occurs
    obtain ⟨words, inAlternatives, rfl⟩ := List.mem_map.mp listed
    obtain ⟨word, inWords, rfl⟩ := List.mem_map.mp occurs
    exact (known word (List.mem_flatten_of_mem inAlternatives inWords)).inRange

/-! ### Grammars that are loaded -/

namespace Grammar

/-- A grammar that the text of a grammar declares, over the token classes of some lexer. -/
def Loaded (grammar : Grammar) : Prop :=
  ∃ lexer : Lexer, lexer.Reachable ∧ ∃ text, ofText lexer text = .ok grammar

/-- What definitions become is well formed if each has alternatives and none of these is empty. -/
theorem Declares.wellFormed {grammar : Grammar} {classes : List String}
    {definitions : List Definition} (declares : grammar.Declares classes definitions)
    (filled : ∀ definition ∈ definitions, definition.IsFilled)
    (endClass_lt : endClass < classes.length) : grammar.WellFormed where
  layout := by
    refine ⟨definitions.map (Definition.rule (ruleNames classes definitions) grammar.terminals),
      ?_, ?_, ?_⟩
    · simpa using declares.definitions_ne_nil
    · rw [declares.classes_eq]
      exact declares.rules_eq
    · intro rule listed
      obtain ⟨definition, known, rfl⟩ := List.mem_map.mp listed
      rw [declares.length_rules]
      refine definition.isDeclared_rule (filled definition known) fun word occurs => ?_
      exact declares.resolved.known word (List.mem_flatMap.mpr ⟨definition, known, occurs⟩)
  endClass_lt := declares.classes_eq ▸ endClass_lt
  terminals_head := List.head?_eq_getElem? ▸ declares.terminals_zero
  terminals_nodup := declares.terminals_nodup

/-- Every loaded grammar is well formed. -/
theorem Loaded.wellFormed {grammar : Grammar} (loaded : grammar.Loaded) : grammar.WellFormed := by
  obtain ⟨lexer, reachable, text, found⟩ := loaded
  obtain ⟨definitions, read, found⟩ := bind_eq_ok.mp found
  exact (declares_of_ofDefinitions found).wellFormed
    (fun definition listed => (Definition.isReadable_of_ofText read definition listed).isFilled)
    reachable.endClass_lt

/-! ### A grammar for examples -/

/-- The text of a grammar of words of `a` that end in `b`, with the empty literal. -/
def sampleText : String := "<word> ::= <stem> \"b\"\n<stem> ::= \"a\" <stem> | \"\""

/-- What is loaded from that text over the classes that every lexer has. -/
def sample : Grammar where
  rules := [⟨startName, .start, [[.rule 1]]⟩, ⟨"word", .declared, [[.rule 2, .terminal 1]]⟩,
    ⟨"stem", .declared, [[.terminal 2, .rule 2], [.terminal 0]]⟩,
    ⟨"Token-EOL", .tokenClass lineBreakClass, []⟩, ⟨"Token-EOF", .tokenClass endClass, []⟩]
  terminals := ["", "b", "a"]
  classes := ["EOL", "EOF"]

theorem sample_loaded : sample.Loaded := by
  have read : (ofText Lexer.initial sampleText).toOption = some sample := by decide +kernel
  exact ⟨Lexer.initial, .initial, sampleText, eq_ok_of_toOption read⟩

end Grammar

end ShiftReduce
