import ShiftReduce.Proofs.Parser.Recursion

/-!
# Completing what was read

In every moment of a run the stacks hold trees of all tokens that were read, and the symbols of
these trees stand in front of the dot of an item that is valid for them. What the item and the
productions that lead to it still ask for has parse trees if every rule has some. So what was read
is the beginning of something with a parse tree, also where the run finds nothing to do.

## Main definitions

* `Token.unended` — a token that ends no input, with the same text
* `Engine.FailsAt` — where in the tokens a run ends with an error

## Main results

* `Grammar.Chain.exists_completion` — trees in front of a rule and of the rule, completed
* `Config.Represents.exists_completion` — what was read, completed
* `Grammar.Loaded.exists_completion_of_failsAt` — runs fail only behind what can be completed
-/

namespace ShiftReduce

/-! ### Tokens that end no input -/

/-- The token with the same text that ends no input. -/
def Token.unended (token : Token) : Token :=
  if token.isEnd then { token with kind := lineBreakClass } else token

@[simp] theorem Token.value_unended (token : Token) : token.unended.value = token.value := by
  unfold unended
  split <;> rfl

@[simp] theorem Token.isEnd_unended (token : Token) : token.unended.isEnd = false := by
  unfold unended
  split
  · rfl
  · exact Bool.eq_false_iff.mpr ‹_›

theorem Token.unended_eq {token : Token} (notEnd : token.isEnd = false) : token.unended = token :=
  if_neg (Bool.eq_false_iff.mp notEnd)

namespace Grammar

variable {grammar : Grammar}

mutual

/-- Ends may spell out literals, and so may other tokens in their place. -/
theorem Parses.exists_unended {symbol : Symbol} {tokens : List Token} {node : Node}
    (parses : grammar.Parses symbol tokens node) :
    ∃ other, grammar.Parses symbol (tokens.map Token.unended) other := by
  cases parses with
  | epsilon => exact ⟨_, .epsilon⟩
  | literal text nonempty joined =>
    refine ⟨_, .literal text (by simpa using nonempty) ?_⟩
    rw [List.map_map, ← joined]
    exact congrArg String.join (List.map_congr_left fun token _ => token.value_unended)
  | token known named notEnd =>
    rw [List.map_singleton, Token.unended_eq notEnd]
    exact ⟨_, .token known named notEnd⟩
  | inputEnd => exact ⟨_, .inputEnd⟩
  | branch listed all =>
    obtain ⟨children, all⟩ := all.exists_unended
    exact ⟨_, .branch listed all⟩

theorem ParsesAll.exists_unended {symbols : List Symbol} {tokens : List Token} {nodes : List Node}
    (all : grammar.ParsesAll symbols tokens nodes) :
    ∃ others, grammar.ParsesAll symbols (tokens.map Token.unended) others := by
  cases all with
  | nil => exact ⟨_, .nil⟩
  | cons parses later =>
    obtain ⟨node, parses⟩ := parses.exists_unended
    obtain ⟨nodes, later⟩ := later.exists_unended
    rw [List.map_append]
    exact ⟨_, .cons parses later⟩

end

/-! ### Rows of symbols -/

/-- Trees of two rows of symbols are those of the one and those of the other. -/
theorem ParsesAll.exists_append {left right : List Symbol} {tokens : List Token}
    {nodes : List Node} (all : grammar.ParsesAll (left ++ right) tokens nodes) :
    ∃ front back leftNodes rightNodes, tokens = front ++ back ∧
      grammar.ParsesAll left front leftNodes ∧ grammar.ParsesAll right back rightNodes := by
  induction left generalizing tokens nodes with
  | nil => exact ⟨[], tokens, [], nodes, rfl, .nil, all⟩
  | cons symbol left ih =>
    cases all with
    | @cons _ _ first _ _ _ parses later =>
      obtain ⟨front, back, _, _, rfl, inLeft, inRight⟩ := ih later
      exact ⟨first ++ front, back, _, _, (List.append_assoc ..).symm, .cons parses inLeft, inRight⟩

theorem ParsesAll.exists_parses {symbol : Symbol} {tokens : List Token} {nodes : List Node}
    (all : grammar.ParsesAll [symbol] tokens nodes) :
    ∃ node, grammar.Parses symbol tokens node := by
  cases all with
  | cons parses later =>
    cases later
    rw [List.append_nil]
    exact ⟨_, parses⟩

/-- Symbols of alternatives have parse trees side by side. -/
theorem Productive.exists_parsesAll (productive : grammar.Productive)
    (wellFormed : grammar.WellFormed) {symbols : List Symbol}
    (occur : ∀ symbol ∈ symbols, symbol ∈ grammar.used) :
    ∃ tokens nodes, grammar.ParsesAll symbols tokens nodes := by
  induction symbols with
  | nil => exact ⟨_, _, .nil⟩
  | cons symbol rest ih =>
    rw [List.forall_mem_cons] at occur
    obtain ⟨_, _, parses⟩ := productive.exists_parses wellFormed occur.1
    obtain ⟨_, _, later⟩ := ih occur.2
    exact ⟨_, _, .cons parses later⟩

/-! ### Completing trees -/

/-- Trees of what stands in front of a rule, and one of the rule, begin a tree of the whole. -/
theorem Chain.exists_completion (productive : grammar.Productive) (wellFormed : grammar.WellFormed)
    {rule : RuleIndex} {before after : List Symbol} (chain : grammar.Chain rule before after)
    {front taken : List Token} {nodes : List Node} {tree : Node}
    (all : grammar.ParsesAll before front nodes) (parses : grammar.Parses (.rule rule) taken tree) :
    ∃ more whole, grammar.Parses (.rule startRule) (front ++ (taken ++ more)) whole := by
  induction chain generalizing front taken nodes tree with
  | start =>
    cases all
    exact ⟨[], tree, by simpa using parses⟩
  | next _ listed ih =>
    -- With what stands on either side in the alternative, there is a tree of the rule before.
    obtain ⟨outer, inner, _, _, rfl, inBefore, inLeft⟩ := all.exists_append
    obtain ⟨behind, _, inRight⟩ := productive.exists_parsesAll wellFormed fun symbol inside =>
      mem_used_iff.mpr ⟨_, _, listed, List.mem_append_right _ (List.mem_cons_of_mem _ inside)⟩
    obtain ⟨more, whole, completed⟩ :=
      ih inBefore (.branch listed (inLeft.append (.cons parses inRight)))
    exact ⟨behind ++ more, whole, by simpa using completed⟩

/-- Trees of symbols that an item is valid for begin a tree of the first declared rule, behind which
no token has to end the input. -/
theorem WellFormed.exists_completion_of_valid (wellFormed : grammar.WellFormed)
    (productive : grammar.Productive) {item : Item} {symbols : List Symbol}
    (valid : item.Valid grammar symbols) {tokens : List Token} {nodes : List Node}
    (all : grammar.ParsesAll symbols tokens nodes)
    (unread : ∀ token ∈ tokens, token.isEnd = false) :
    ∃ more tree, (∀ token ∈ more, token.isEnd = false) ∧
      grammar.Parses (.rule 1) (tokens ++ more) tree := by
  obtain ⟨known, before, after, chain, rfl⟩ := valid
  have listed := Item.symbols_mem_alternatives known
  obtain ⟨front, back, _, _, rfl, inBefore, inItem⟩ := all.exists_append
  obtain ⟨rest, _, unreadTrees⟩ := productive.exists_parsesAll wellFormed fun symbol inside =>
    mem_used_iff.mpr ⟨_, _, listed, List.mem_of_mem_drop (i := item.dot) inside⟩
  have alternative := inItem.append unreadTrees
  rw [List.take_append_drop] at alternative
  obtain ⟨more, _, whole⟩ :=
    chain.exists_completion productive wellFormed inBefore (.branch listed alternative)
  obtain ⟨symbols, isFirst, _, first, -⟩ :=
    whole.exists_branch wellFormed rfl wellFormed.isTerminal_startRule
  rw [wellFormed.alternatives_startRule, List.mem_singleton] at isFirst
  subst isFirst
  obtain ⟨_, parses⟩ := first.exists_parses
  obtain ⟨tree, unended⟩ := parses.exists_unended
  have asRead : (front ++ back).map Token.unended = front ++ back :=
    (List.map_congr_left fun token present => Token.unended_eq (unread token present)).trans
      (List.map_id _)
  refine ⟨(rest ++ more).map Token.unended, tree, ?_, ?_⟩
  · exact List.forall_mem_map.mpr fun token _ => token.isEnd_unended
  · rw [← asRead, ← List.map_append]
    simpa using unended

end Grammar

/-! ### Moments of a run -/

/-- What was read up to a moment begins something with a parse tree. -/
theorem Config.Represents.exists_completion {grammar : Grammar} {tokens : List Token}
    {config : Config} {frames : List Frame} (represents : config.Represents grammar tokens frames)
    (wellFormed : grammar.WellFormed) (productive : grammar.Productive) :
    ∃ more tree, (∀ token ∈ more, token.isEnd = false) ∧
      grammar.Parses (.rule 1) (config.before.reverse ++ more) tree := by
  have reached := represents.linked.reach?
  obtain ⟨item, present⟩ := wellFormed.exists_mem_items_of_reach? reached
  have valid := wellFormed.valid_of_mem_items reached present
  rw [represents.before]
  refine wellFormed.exists_completion_of_valid productive valid
    (parsesAll_of_frames represents.parses) fun token read => represents.unread token ?_
  rwa [← List.mem_reverse, represents.before]

/-- What was read up to a moment are the first tokens of the input. -/
theorem Config.Represents.take_eq {grammar : Grammar} {tokens : List Token} {config : Config}
    {frames : List Frame} (represents : config.Represents grammar tokens frames) :
    tokens.take config.before.length = config.before.reverse := by
  have left := List.length_pos_iff.mpr represents.rest_ne_nil
  have split := represents.split
  rcases withEnd_cases tokens with same | ⟨last, -, same⟩
  · rw [← same, ← split]
    exact List.take_left' List.length_reverse
  · have sizes := congrArg List.length (split.trans same)
    simp only [List.length_append, List.length_reverse, List.length_singleton] at sizes
    have inside : tokens.take config.before.length = (tokens ++ [last]).take config.before.length :=
      (List.take_append_of_le_length (by omega)).symm
    rw [inside, ← same, ← split]
    exact List.take_left' List.length_reverse

/-- A run fails at an end of the input, or at the token behind those that were read. -/
theorem Config.Represents.error_cases {grammar : Grammar} {table : Table} {tokens : List Token}
    {config : Config} {frames : List Frame} (represents : config.Represents grammar tokens frames)
    (wellFormed : grammar.WellFormed) (sound : table.Sound grammar) {error : ParseError}
    (failed : Engine.step ⟨grammar, table⟩ config = .finished (.error error)) :
    (error = .unexpectedEnd ∧
        config.before.length = (tokens.takeWhile fun token => !token.isEnd).length) ∨
      ∃ token line column, error = .unexpectedToken token line column ∧
        tokens[config.before.length]? = some token ∧
        location config.before.reverse token = (line, column) := by
  obtain rfl : error = Engine.unexpected config := by
    rcases represents.step_cases wellFormed sound with
      unexpected | ⟨_, _, running, -⟩ | ⟨_, -, -, accepted, -⟩
    · exact Except.error.inj (Outcome.finished.inj (failed.symm.trans unexpected))
    · cases running.symm.trans failed
    · cases accepted.symm.trans failed
  obtain ⟨token, later, rest⟩ := List.exists_cons_of_ne_nil represents.rest_ne_nil
  rw [Engine.unexpected, rest]
  by_cases ends : token.isEnd = true
  · refine .inl ⟨if_pos ends, ?_⟩
    rw [represents.takeWhile_eq rest ends, ← represents.before, List.length_reverse]
  · refine .inr ⟨token, _, _, if_neg ends, ?_, rfl⟩
    have next : (Config.withEnd tokens)[config.before.length]? = some token := by
      rw [← represents.split, rest, List.getElem?_append_right (by simp)]
      simp
    rcases withEnd_cases tokens with same | ⟨last, isEnd, same⟩
    · rwa [same] at next
    · rw [same, List.getElem?_append] at next
      split at next
      · exact next
      · obtain rfl := List.mem_singleton.mp (List.mem_of_getElem? next)
        exact absurd isEnd ends

namespace Engine

/-- A run on some tokens ends with an error behind the first `index` of them. -/
def FailsAt (engine : Engine) (tokens : List Token) (index : Nat) (error : ParseError) : Prop :=
  ∃ config, engine.Reaches (.start tokens) config ∧
    engine.step config = .finished (.error error) ∧ config.before.length = index

/-- A run that ends with an error does so somewhere. -/
theorem yields_error_iff {engine : Engine} {tokens : List Token} {error : ParseError} :
    engine.Yields tokens (.error error) ↔ ∃ index, engine.FailsAt tokens index error := by
  refine exists_runFor_iff.trans ⟨?_, ?_⟩
  · rintro ⟨last, reached, finished⟩
    exact ⟨_, last, reached, finished, rfl⟩
  · rintro ⟨_, last, reached, finished, -⟩
    exact ⟨last, reached, finished⟩

end Engine

/-- The tokens that a run has read are at any time the beginning of something with a parse tree. A
run that fails does so at the end of the input or at the token behind those that it has read: none
is read after the input has become impossible. -/
theorem Grammar.Loaded.exists_completion_of_failsAt {grammar : Grammar} (loaded : grammar.Loaded)
    {table : Table} (built : grammar.table = .ok table) (productive : grammar.Productive)
    (tokens : List Token) :
    (∀ config, Engine.Reaches ⟨grammar, table⟩ (.start tokens) config →
      ∃ more tree, (∀ token ∈ more, token.isEnd = false) ∧
        grammar.Parses (.rule 1) (config.before.reverse ++ more) tree) ∧
    (∀ error, Engine.Yields ⟨grammar, table⟩ tokens (.error error) ↔
      ∃ index, Engine.FailsAt ⟨grammar, table⟩ tokens index error) ∧
    ∀ index error, Engine.FailsAt ⟨grammar, table⟩ tokens index error →
      ((error = .unexpectedEnd ∧ index = (tokens.takeWhile fun token => !token.isEnd).length) ∨
        ∃ token line column, error = .unexpectedToken token line column ∧
          tokens[index]? = some token ∧ location (tokens.take index) token = (line, column)) ∧
      ∃ more tree, (∀ token ∈ more, token.isEnd = false) ∧
        grammar.Parses (.rule 1) (tokens.take index ++ more) tree := by
  have wellFormed := loaded.wellFormed
  have sound := wellFormed.sound_table built
  have completed : ∀ config, Engine.Reaches ⟨grammar, table⟩ (.start tokens) config → _ :=
    fun config reached =>
      have ⟨_, represents⟩ := wellFormed.represents_of_reaches sound reached
      represents.exists_completion wellFormed productive
  refine ⟨completed, fun error => Engine.yields_error_iff, ?_⟩
  rintro _ error ⟨config, reached, failed, rfl⟩
  obtain ⟨frames, represents⟩ := wellFormed.represents_of_reaches sound reached
  rw [represents.take_eq]
  refine ⟨represents.error_cases wellFormed sound failed, completed config reached⟩

/-- Behind an empty stem, the letter that fails the run is still to be read. -/
theorem Grammar.exists_completion_sample :
    Engine.FailsAt ⟨sample, sampleTable⟩
      [⟨"a", lineBreakClass, 0, 1⟩, ⟨"c", lineBreakClass, 1, 2⟩] 1
      (.unexpectedToken ⟨"c", lineBreakClass, 1, 2⟩ 2 1) ∧
    ∃ more tree, (∀ token ∈ more, token.isEnd = false) ∧
      sample.Parses (.rule 1) (⟨"a", lineBreakClass, 0, 1⟩ :: more) tree := by
  have fails : Engine.FailsAt ⟨sample, sampleTable⟩
      [⟨"a", lineBreakClass, 0, 1⟩, ⟨"c", lineBreakClass, 1, 2⟩] 1
      (.unexpectedToken ⟨"c", lineBreakClass, 1, 2⟩ 2 1) :=
    ⟨_, .head rfl (.head rfl .refl), rfl, rfl⟩
  exact ⟨fails,
    ((sample_loaded.exists_completion_of_failsAt table_sample productive_sample _).2.2 _ _ fails).2⟩

end ShiftReduce
