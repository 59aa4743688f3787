import Mathlib
import ShiftReduce.Parser.Language
import ShiftReduce.Proofs.Lexer.Gaps
import ShiftReduce.Proofs.Parser.Run
import ShiftReduce.Proofs.Tree.Walks

/-!
# Parses reproduce their inputs

The leaves of a parse tree have the text of the tokens that it was parsed from, whichever way these
were taken: one by one, spelling out a literal together, or not at all. The tokens of an input have
its text but for the blanks between them, and no token ends the input early. So what a parse leaves
of its input is all of it.

## Main definitions

* `Language.Yields` — the result of the parse of an input, without a bound

## Main results

* `Grammar.Parses.text_eq` — the text of a parse tree is that of its tokens
* `Language.withoutBlanks_eq_text` — the text of a tree is its input, without the blanks skipped
-/

namespace ShiftReduce

/-! ### Trees and tokens -/

namespace Grammar

variable {grammar : Grammar}

mutual

/-- The text of a parse tree is that of its tokens. -/
theorem Parses.text_eq {symbol : Symbol} {tokens : List Token} {node : Node}
    (parses : grammar.Parses symbol tokens node) :
    node.text = String.join (tokens.map Token.value) := by
  cases parses with
  | epsilon => exact Node.text_leaf "" none
  | literal _ _ joined => rw [Node.text_leaf, joined]
  | token _ _ _ => rw [Node.text_leaf, List.map_singleton, String.join_cons, String.join_nil,
      String.append_empty]
  | inputEnd => exact Node.text_leaf "" none
  | branch _ all => rw [Node.text_branch, all.text_eq]

/-- The texts of the parse trees of an alternative are that of its tokens. -/
theorem ParsesAll.text_eq {symbols : List Symbol} {tokens : List Token} {nodes : List Node}
    (all : grammar.ParsesAll symbols tokens nodes) :
    String.join (nodes.map Node.text) = String.join (tokens.map Token.value) := by
  cases all with
  | nil => rfl
  | cons parses later =>
    rw [List.map_cons, String.join_cons, List.map_append, String.join_append, parses.text_eq,
      later.text_eq]

end

end Grammar

/-! ### Inputs and trees -/

namespace Language

/-- The parse of an input ends with a result. -/
def Yields (language : Language) (input : String) (result : Except ParseError Derivation) : Prop :=
  let tokenized := language.lexer.tokenize input
  if tokenized.success then language.parser.engine.Yields tokenized.tokens result
  else result = .error (.tokenize tokenized)

variable {language : Language}

/-- A parse with a bound on its actions ends the way it does without. -/
theorem yields_of_derive? {input : String} {result : Except ParseError Derivation}
    (found : language.derive? input = some result) : language.Yields input result := by
  rw [derive?] at found
  rw [Yields]
  split at found
  · rename_i success
    rw [if_pos success]
    exact ⟨_, found⟩
  · rename_i failed
    rw [if_neg failed]
    exact (Option.some.inj found).symm

/-- Unless an input is not cut into tokens, its parse ends the way that of its tokens does. -/
theorem Yields.tokens {input : String} {result : Except ParseError Derivation}
    (yields : language.Yields input result)
    (cut : ∀ tokenized, result ≠ .error (.tokenize tokenized)) :
    (language.lexer.tokenize input).success = true ∧
      language.parser.engine.Yields (language.lexer.tokenize input).tokens result := by
  rw [Yields] at yields
  split at yields
  · rename_i success
    exact ⟨success, yields⟩
  · exact absurd yields (cut _)

/-- A language has the lexer that it is built from, the grammar that is loaded over the classes of
that lexer, and its tables, in which there is no conflict. -/
theorem ofText_eq_ok_iff {lexer : Lexer} {text : String} :
    ofText lexer text = .ok language ↔
      language.lexer = lexer ∧ Grammar.ofText lexer text = .ok language.parser.grammar ∧
      language.parser.tables = language.parser.grammar.buildTables ∧
      language.parser.tables.conflict = none := by
  constructor
  · intro built
    obtain ⟨parser, parsed, same⟩ := bind_eq_ok.mp built
    obtain rfl := Except.ok.inj same
    exact ⟨rfl, Parser.ofText_eq_ok_iff.mp parsed⟩
  · obtain ⟨_, parser⟩ := language
    rintro ⟨rfl, parsed⟩
    exact bind_eq_ok.mpr ⟨parser, Parser.ofText_eq_ok_iff.mpr parsed, rfl⟩

/-- The table of a language is that of its grammar. -/
theorem table_of_ofText {lexer : Lexer} {text : String} (built : ofText lexer text = .ok language) :
    language.parser.grammar.table = .ok language.parser.tables.table := by
  obtain ⟨-, parsed⟩ := ofText_eq_ok_iff.mp built
  exact Parser.table_of_ofText (Parser.ofText_eq_ok_iff.mpr parsed)

/-- The text of the tree that an input is parsed to is the input itself, without the blanks that are
skipped at its start and behind its tokens; where blanks are not skipped, all of the input. -/
theorem withoutBlanks_eq_text {lexer : Lexer} (reachable : lexer.Reachable) {text : String}
    (built : ofText lexer text = .ok language) {input : String} {derivation : Derivation}
    (yields : language.Yields input (.ok derivation)) :
    lexer.withoutBlanks input = derivation.tree.text ∧
      (lexer.skipsGaps = false → input = derivation.tree.text) := by
  have tabled := table_of_ofText built
  obtain ⟨rfl, loaded, -⟩ := ofText_eq_ok_iff.mp built
  obtain ⟨success, yields⟩ := yields.tokens nofun
  have wellFormed := Grammar.Loaded.wellFormed ⟨_, reachable, text, loaded⟩
  obtain ⟨frame, -, tree, taken, parses⟩ :=
    wellFormed.exists_frame_of_yields (wellFormed.sound_table tabled) yields
  have all : (language.lexer.tokenize input).tokens = frame.tokens := by
    rw [← taken, List.takeWhile_eq_self_iff.mpr]
    intro token present
    rw [reachable.isEnd_of_mem_scan _ _ _ token present]
    rfl
  have whole : language.lexer.withoutBlanks input = derivation.tree.text := by
    rw [Lexer.withoutBlanks_eq_join success, all, tree, parses.text_eq]
  refine ⟨whole, fun keeps => ?_⟩
  rw [← whole, Lexer.withoutBlanks_eq_self keeps]

end Language

/-- The initial lexer with a class of single letters. -/
def Lexer.withLetters : Lexer :=
  Operation.apply (.addClass ⟨"letter",
    some (.ofProgram "[ab]" (Pattern.Expr.codes (CodeSet.ofList [(97, 98)])).toProgram), .initial⟩)
    Lexer.initial

/-- The grammar for examples over one more class. -/
def Grammar.sampleLetters : Grammar where
  rules := sample.rules ++ [⟨"Token-letter", .tokenClass 2, []⟩]
  terminals := sample.terminals
  classes := sample.classes ++ ["letter"]

/-- Blanks at both ends and between the letters are not in the tree. -/
theorem Language.withoutBlanks_letters : Lexer.withLetters.withoutBlanks " a\ta  b " = "aab" := by
  have loaded : Grammar.ofText Lexer.withLetters Grammar.sampleText = .ok Grammar.sampleLetters :=
    eq_ok_of_toOption (by decide +kernel)
  have unopposed : Grammar.sampleLetters.buildTables.conflict = none := by decide +kernel
  have tabled : Grammar.sampleLetters.buildTables.table = Grammar.sampleTable := by decide +kernel
  have cut : Lexer.withLetters.tokenize " a\ta  b " =
      ⟨true, [⟨"a", 2, 1, 2⟩, ⟨"a", 2, 3, 4⟩, ⟨"b", 2, 6, 7⟩], "", initialState⟩ := by
    cbv
  have yields : Language.Yields
      ⟨Lexer.withLetters, Grammar.sampleLetters, Grammar.sampleLetters.buildTables⟩ " a\ta  b "
      (.ok ⟨.branch "word" [.branch "stem" [.leaf "a" (some "letter"), .branch "stem"
        [.leaf "a" (some "letter"), .branch "stem" [.epsilon]]], .leaf "b" (some "letter")],
        [⟨2, 1⟩, ⟨2, 0⟩, ⟨2, 0⟩, ⟨1, 0⟩]⟩) := by
    rw [Yields, cut, if_pos rfl, Parser.engine, tabled]
    exact ⟨10, rfl⟩
  have reachable : Lexer.withLetters.Reachable := .apply _ .initial
  have same := (withoutBlanks_eq_text reachable
    (ofText_eq_ok_iff.mpr ⟨rfl, loaded, rfl, unopposed⟩) yields).1
  rw [same]
  cbv

end ShiftReduce

