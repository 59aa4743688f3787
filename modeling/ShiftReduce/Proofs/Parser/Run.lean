import Mathlib.Logic.Relation
import ShiftReduce.Parser.Language
import ShiftReduce.Proofs.Parser.Frames

/-!
# Runs of the engine

A run goes from moment to moment, each represented by frames, until an action finishes it. Along a
run of a table that was built, the table and the stacks agree: no action finds less than it needs.

## Main definitions

* `Engine.Reaches` — the moments that a run comes to
* `Engine.Consistent` — what the actions of a moment need, and find

## Main results

* `Parser.ofText_eq_ok_iff` — the grammar and the tables of a parser
* `Engine.exists_runFor_iff` — results come from the last moment of a run
* `Grammar.WellFormed.represents_of_reaches` — every moment of a run is represented by frames
* `Grammar.Loaded.consistent_of_reaches` — the table and the stacks agree in every moment
-/

namespace ShiftReduce

namespace Engine

/-- The moments that a run comes to from a given one. -/
def Reaches (engine : Engine) : Config → Config → Prop :=
  Relation.ReflTransGen fun config next => engine.step config = .running next

variable {engine : Engine} {config next last : Config} {result : Except ParseError Derivation}

/-- A result is that of the last moment of a run. -/
theorem exists_runFor_iff : (∃ limit, engine.runFor limit config = some result) ↔
    ∃ last, engine.Reaches config last ∧ engine.step last = .finished result := by
  constructor
  · rintro ⟨limit, found⟩
    induction limit generalizing config with
    | zero => cases found
    | succ limit ih =>
      rw [runFor] at found
      split at found
      · rename_i finished
        obtain rfl := Option.some.inj found
        exact ⟨config, .refl, finished⟩
      · rename_i next step
        obtain ⟨last, reached, finished⟩ := ih found
        exact ⟨last, .head step reached, finished⟩
  · rintro ⟨last, reached, finished⟩
    -- From the last moment backwards, each step needs one more.
    induction reached using Relation.ReflTransGen.head_induction_on with
    | refl => exact ⟨1, by rw [runFor, finished]⟩
    | head step _ ih =>
      obtain ⟨limit, found⟩ := ih
      refine ⟨limit + 1, ?_⟩
      rw [runFor, step]
      exact found

/-- What comes next is no disagreement of the table and the stacks. -/
theorem unexpected_ne_internal (reason : String) : unexpected config ≠ .internal reason := by
  unfold unexpected
  split
  · exact nofun
  · split
    · exact nofun
    · exact nofun

end Engine

/-! ### What drives a run -/

namespace Parser

variable {parser : Parser} {lexer : Lexer} {text : String}

/-- A parser has the grammar that is loaded over the classes of a lexer, and its tables, in which
there is no conflict. -/
theorem ofText_eq_ok_iff : ofText lexer text = .ok parser ↔
    Grammar.ofText lexer text = .ok parser.grammar ∧
      parser.tables = parser.grammar.buildTables ∧ parser.tables.conflict = none := by
  constructor
  · intro parsed
    rw [ofText] at parsed
    split at parsed
    · cases parsed
    rename_i grammar loaded
    split at parsed
    · cases parsed
    rename_i other made
    obtain rfl := Except.ok.inj parsed
    rw [ofGrammar] at made
    split at made
    · rename_i unopposed
      obtain rfl := Except.ok.inj made
      exact ⟨loaded, rfl, unopposed⟩
    · cases made
  · obtain ⟨grammar, tables⟩ := parser
    rintro ⟨loaded, same, unopposed⟩
    dsimp only at loaded same unopposed
    subst same
    simp only [ofText, loaded, ofGrammar, unopposed]

/-- The table of a parser is that of its grammar. -/
theorem table_of_ofText (built : ofText lexer text = .ok parser) :
    parser.grammar.table = .ok parser.tables.table := by
  obtain ⟨-, same, unopposed⟩ := ofText_eq_ok_iff.mp built
  rw [same] at unopposed ⊢
  rw [Grammar.table, unopposed]

/-- There is a parser where a grammar is loaded and its table is built. -/
theorem exists_ofText_iff : (∃ parser, ofText lexer text = .ok parser) ↔
    ∃ grammar, Grammar.ofText lexer text = .ok grammar ∧ ∃ table, grammar.table = .ok table := by
  constructor
  · rintro ⟨parser, built⟩
    exact ⟨_, (ofText_eq_ok_iff.mp built).1, _, table_of_ofText built⟩
  · rintro ⟨grammar, loaded, table, built⟩
    refine ⟨⟨grammar, grammar.buildTables⟩, ofText_eq_ok_iff.mpr ⟨loaded, rfl, ?_⟩⟩
    unfold Grammar.table at built
    dsimp only at built ⊢
    split at built
    · assumption
    · cases built

end Parser

namespace Grammar.WellFormed

variable {grammar : Grammar} (wellFormed : grammar.WellFormed) {table : Table}
  (sound : table.Sound grammar) {tokens : List Token} {config next : Config} {frames : List Frame}
include wellFormed sound

/-- A step leads from frames to frames. -/
theorem represents_of_step (represents : config.Represents grammar tokens frames)
    (step : Engine.step ⟨grammar, table⟩ config = .running next) :
    ∃ frames, next.Represents grammar tokens frames := by
  rcases represents.step_cases wellFormed sound with
    failed | ⟨other, others, same, onward⟩ | ⟨_, -, -, accepted, -⟩
  · cases failed.symm.trans step
  · cases same.symm.trans step
    exact ⟨others, onward⟩
  · cases accepted.symm.trans step

/-- Every moment of a run is represented by frames. -/
theorem represents_of_reaches
    (reached : Engine.Reaches ⟨grammar, table⟩ (.start tokens) config) :
    ∃ frames, config.Represents grammar tokens frames := by
  induction reached with
  | refl => exact ⟨[], .start grammar tokens⟩
  | tail _ step ih =>
    obtain ⟨frames, represents⟩ := ih
    exact wellFormed.represents_of_step sound represents step

/-- A run that ends with a tree has a single frame left, of the first declared rule. -/
theorem exists_frame_of_yields {derivation : Derivation}
    (yields : Engine.Yields ⟨grammar, table⟩ tokens (.ok derivation)) :
    ∃ frame : Frame, frame.symbol = .rule 1 ∧ derivation.tree = frame.node ∧
      tokens.takeWhile (fun token => !token.isEnd) = frame.tokens ∧
      grammar.Parses frame.symbol frame.tokens frame.node := by
  obtain ⟨last, reached, finished⟩ := Engine.exists_runFor_iff.mp yields
  obtain ⟨frames, represents⟩ := wellFormed.represents_of_reaches sound reached
  rcases represents.step_cases wellFormed sound with
    failed | ⟨_, _, running, -⟩ | ⟨frame, rfl, isFirst, accepted, taken⟩
  · cases failed.symm.trans finished
  · cases running.symm.trans finished
  · cases accepted.symm.trans finished
    exact ⟨frame, isFirst, rfl, taken, represents.parses frame List.mem_cons_self⟩

end Grammar.WellFormed

/-! ### Trees that runs end with -/

/-- A run that ends with a tree has parsed the tokens before the first end of the input: the tree
is a branch of the first declared rule, and a parse tree of these tokens and no others. -/
theorem Grammar.Loaded.parses_of_yields {grammar : Grammar} (loaded : grammar.Loaded)
    {table : Table} (built : grammar.table = .ok table) {tokens : List Token}
    {derivation : Derivation} (yields : Engine.Yields ⟨grammar, table⟩ tokens (.ok derivation)) :
    grammar.Parses (.rule 1) (tokens.takeWhile fun token => !token.isEnd) derivation.tree ∧
      ∃ children, derivation.tree = .branch (grammar.ruleName 1) children := by
  have wellFormed := loaded.wellFormed
  obtain ⟨⟨state, symbol, taken, node⟩, isFirst, rfl, same, parses⟩ :=
    wellFormed.exists_frame_of_yields (wellFormed.sound_table built) yields
  obtain rfl : symbol = .rule 1 := isFirst
  rw [same]
  obtain ⟨symbols, -, children, -, isBranch⟩ :=
    parses.exists_branch wellFormed rfl wellFormed.isTerminal_firstDeclared
  exact ⟨parses, children, isBranch⟩

/-- Two tokens, the first of them below a stem that ends with nothing. -/
theorem Grammar.parses_sample : sample.Parses (.rule 1)
    [⟨"a", lineBreakClass, 0, 1⟩, ⟨"b", lineBreakClass, 1, 2⟩]
    (.branch "word" [.branch "stem" [.leaf "a" (some "EOL"), .branch "stem" [.epsilon]],
      .leaf "b" (some "EOL")]) := by
  have yields : Engine.Yields ⟨sample, sampleTable⟩
      [⟨"a", lineBreakClass, 0, 1⟩, ⟨"b", lineBreakClass, 1, 2⟩]
      (.ok ⟨.branch "word" [.branch "stem" [.leaf "a" (some "EOL"), .branch "stem" [.epsilon]],
        .leaf "b" (some "EOL")], [⟨2, 1⟩, ⟨2, 0⟩, ⟨1, 0⟩]⟩) := ⟨9, rfl⟩
  exact (sample_loaded.parses_of_yields table_sample yields).1

/-! ### Agreement of the table and the stacks -/

/-- Every action of a moment finds what it needs: the states and trees that it takes off the stacks,
the state that it goes to, the tokens that it takes, and all that it looks up by index. -/
structure Engine.Consistent (engine : Engine) (tokens : List Token) (config : Config) : Prop where
  length_states : config.states.length = config.nodes.length + 1
  states_inside : ∀ state ∈ config.states, state < engine.table.rows.length
  split : config.before.reverse ++ config.rest = Config.withEnd tokens
  rest_ne_nil : config.rest ≠ []
  literals_inside : ∀ {index action},
    (.terminal index, action) ∈ engine.table.actions config.top →
      index < engine.grammar.terminals.length
  shift : ∀ {target width}, engine.choose? config = some ⟨.shift target, width⟩ →
    target < engine.table.rows.length ∧ width ≤ config.rest.length
  reduce : ∀ {rule alternative width},
    engine.choose? config = some ⟨.reduce rule alternative, width⟩ →
      rule < engine.grammar.rules.length ∧
      alternative < (engine.grammar.alternatives rule).length ∧
      (engine.grammar.alternative rule alternative).length ≤ config.nodes.length ∧
      ∃ below target,
        (config.states.drop (engine.grammar.alternative rule alternative).length).head? =
          some below ∧
        engine.table.goto? below rule = some target ∧ target < engine.table.rows.length
  accept : ∀ {width}, engine.choose? config = some ⟨.accept, width⟩ →
    ∃ tree, config.nodes = [tree]
  step_ne : ∀ reason, engine.step config ≠ .finished (.error (.internal reason))

namespace Grammar.WellFormed

variable {grammar : Grammar} (wellFormed : grammar.WellFormed) {table : Table}
  (sound : table.Sound grammar) {tokens : List Token} {config : Config} {frames : List Frame}
include wellFormed sound

omit sound in
theorem states_inside_of_linked (linked : Linked grammar.automaton frames) :
    ∀ state ∈ frames.map Frame.state ++ [startSet], state < grammar.automaton.sets.length := by
  induction linked with
  | nil =>
    intro state present
    rw [List.mem_singleton.mp present]
    exact Automaton.lt_length_of_mem_items wellFormed.startItem_mem_items
  | cons edge _ ih =>
    rintro state (_ | ⟨_, below⟩)
    · exact wellFormed.target?_lt_length edge
    · exact ih state below

theorem consistent_of_represents (represents : config.Represents grammar tokens frames) :
    Engine.Consistent ⟨grammar, table⟩ tokens config where
  length_states := by
    rw [represents.states, represents.nodes]
    simp
  states_inside := by
    rw [represents.states, sound.length_eq]
    exact wellFormed.states_inside_of_linked represents.linked
  split := represents.split
  rest_ne_nil := represents.rest_ne_nil
  literals_inside := fun listed =>
    wellFormed.inRange_of_action? sound (sound.mem_actions_iff.mp listed)
  shift := by
    intro target width chosen
    obtain ⟨frame, _, rfl, edge, -, -, -, bound, -⟩ := represents.step_shift wellFormed sound chosen
    rw [sound.length_eq]
    exact ⟨wellFormed.target?_lt_length edge, bound⟩
  reduce := by
    intro rule alternative width chosen
    obtain ⟨popped, below, target, _, same, length, -, starts, goto, edge, -⟩ :=
      represents.step_reduce wellFormed sound chosen
    have listed := (mem_items.mp (wellFormed.mem_items_of_mem_set starts)).1
    obtain ⟨states, nodes, -⟩ := represents.top_drop same
    refine ⟨lt_length_of_alternatives listed, listed, ?_, topState below, target, ?_, goto, ?_⟩
    · rw [← length, represents.nodes, same, List.length_map, List.length_append]
      exact Nat.le_add_right _ _
    · rw [← length, states]
      cases below <;> rfl
    · rw [sound.length_eq]
      exact wellFormed.target?_lt_length edge
  accept := by
    intro width chosen
    obtain ⟨frame, same, -⟩ := represents.step_accept wellFormed sound chosen
    exact ⟨frame.node, by rw [represents.nodes, same]; rfl⟩
  step_ne := by
    intro reason failed
    rcases represents.step_cases wellFormed sound with
      unexpected | ⟨_, _, running, -⟩ | ⟨_, -, -, accepted, -⟩
    · have same := Except.error.inj (Outcome.finished.inj (unexpected.symm.trans failed))
      exact Engine.unexpected_ne_internal reason same
    · cases running.symm.trans failed
    · cases accepted.symm.trans failed

end Grammar.WellFormed

/-- The table of a grammar and the stacks agree in every moment of every run, and so no run ends
because they do not. -/
theorem Grammar.Loaded.consistent_of_reaches {grammar : Grammar} (loaded : grammar.Loaded)
    {table : Table} (built : grammar.table = .ok table) (tokens : List Token) :
    (∀ config, Engine.Reaches ⟨grammar, table⟩ (.start tokens) config →
      Engine.Consistent ⟨grammar, table⟩ tokens config) ∧
    ∀ reason, ¬ Engine.Yields ⟨grammar, table⟩ tokens (.error (.internal reason)) := by
  have wellFormed := loaded.wellFormed
  have sound := wellFormed.sound_table built
  have consistent : ∀ config, Engine.Reaches ⟨grammar, table⟩ (.start tokens) config →
      Engine.Consistent ⟨grammar, table⟩ tokens config := by
    intro config reached
    obtain ⟨frames, represents⟩ := wellFormed.represents_of_reaches sound reached
    exact wellFormed.consistent_of_represents sound represents
  refine ⟨consistent, fun reason yields => ?_⟩
  obtain ⟨last, reached, finished⟩ := Engine.exists_runFor_iff.mp yields
  exact (consistent last reached).step_ne reason finished

/-- Also where an input ends before its last token: behind a letter and an empty stem, the run has
nothing to do. -/
theorem Grammar.consistent_sample :
    Engine.Consistent ⟨sample, sampleTable⟩
      [⟨"a", lineBreakClass, 0, 1⟩, Token.endAt 1, ⟨"b", lineBreakClass, 1, 2⟩]
      ⟨[1, 2, 0], [.epsilon, .leaf "a" (some "EOL")], [⟨"a", lineBreakClass, 0, 1⟩],
        [Token.endAt 1, ⟨"b", lineBreakClass, 1, 2⟩, Token.endAt 2], []⟩ :=
  (sample_loaded.consistent_of_reaches table_sample _).1 _ (.head rfl (.head rfl .refl))

end ShiftReduce
