import Mathlib.Data.Prod.Lex
import ShiftReduce.Proofs.Parser.Height

/-!
# Every run ends

As long as no token is taken, a step either puts a frame on top, or changes a frame for the better
and drops those above: it then has more tokens, or its symbol has climbed. Either way the frames
descend in an order that compares them from the bottom, and where the height is bounded, that comes
to an end.

## Main definitions

* `Descends` — one more element at the end of a list, or a lesser one for one of them and all behind
* `profile` — what frames have still ahead of them
* `Engine.Ends` — runs that end

## Main results

* `acc_descends` — lists of bounded length do not descend forever
* `Table.Decisive.step_descends` — what a step does to tokens and frames
* `Grammar.Loaded.exists_yields` — a table that leaves no choice open ends every run, if every rule
  has parse trees
* `Grammar.not_forall_exists_yields_of_productive`,
  `Grammar.not_forall_exists_yields_of_decisive` — neither of the two is enough
-/

namespace ShiftReduce

/-! ### Descending lists -/

/-- A list gets one more element at its end, or one of its elements gives way to a lesser one and
those behind it are dropped. -/
inductive Descends {α : Type} [LT α] : List α → List α → Prop
  | grow (item : α) : Descends [] [item]
  | change {item other : α} (rest : List α) : other < item → Descends (item :: rest) [other]
  | behind (item : α) {current next : List α} : Descends current next →
      Descends (item :: current) (item :: next)

section Descends

variable {α : Type} [LT α]

theorem Descends.concat (list : List α) (item : α) : Descends list (list ++ [item]) := by
  induction list with
  | nil => exact .grow item
  | cons first rest ih => exact .behind first ih

theorem Descends.replace (front rest : List α) {item other : α} (less : other < item) :
    Descends (front ++ item :: rest) (front ++ [other]) := by
  induction front with
  | nil => exact .change rest less
  | cons first front ih => exact .behind first ih

/-- Lists of bounded length do not descend forever. -/
theorem acc_descends [WellFoundedLT α] (bound : Nat) {list : List α} (short : list.length ≤ bound) :
    Acc (fun next current => Descends current next ∧ next.length ≤ bound) list := by
  induction bound generalizing list with
  | zero =>
    refine Acc.intro _ fun next ⟨descends, short⟩ => ?_
    obtain rfl := List.length_eq_zero_iff.mp (Nat.le_zero.mp short)
    cases descends
  | succ bound ih =>
    -- The rest descends behind the same first element, until that gives way to a lesser one.
    have accessible : ∀ (first : α) (rest : List α), rest.length ≤ bound →
        Acc (fun next current => Descends current next ∧ next.length ≤ bound + 1)
          (first :: rest) := by
      intro first
      induction first using WellFoundedLT.induction with
      | ind first lesser =>
        intro rest short
        induction ih short with
        | intro rest _ restIh =>
          refine Acc.intro _ fun next ⟨descends, inside⟩ => ?_
          cases descends with
          | change _ less => exact lesser _ less [] (Nat.zero_le _)
          | behind _ later =>
            have few := Nat.le_of_succ_le_succ inside
            exact restIh _ ⟨later, few⟩ few
    cases list with
    | nil =>
      refine Acc.intro _ fun next ⟨descends, _⟩ => ?_
      cases descends with
      | grow item => exact accessible item [] (Nat.zero_le _)
    | cons first rest => exact accessible first rest (Nat.le_of_succ_le_succ short)

end Descends

/-! ### What frames have ahead of them -/

/-- What a frame has still ahead of it: the tokens that it does not take, and the rules that can
take the place of its symbol. -/
noncomputable def Frame.ahead (grammar : Grammar) (count : Nat) (below : List Frame)
    (frame : Frame) : Nat ×ₗ Nat :=
  toLex (count - frame.tokens.length, grammar.climbingRank (topState below) frame.symbol)

/-- What frames have ahead of them, from the one at the bottom to the one on top. -/
noncomputable def profile (grammar : Grammar) (count : Nat) : List Frame → List (Nat ×ₗ Nat)
  | [] => []
  | frame :: below => profile grammar count below ++ [frame.ahead grammar count below]

theorem length_profile {grammar : Grammar} {count : Nat} {frames : List Frame} :
    (profile grammar count frames).length = frames.length := by
  induction frames with
  | nil => rfl
  | cons frame below ih => simp [profile, ih]

theorem exists_profile_eq {grammar : Grammar} {count : Nat} (others below : List Frame)
    (frame : Frame) : ∃ rest, profile grammar count (others ++ frame :: below) =
      profile grammar count below ++ frame.ahead grammar count below :: rest := by
  induction others with
  | nil => exact ⟨[], rfl⟩
  | cons other others ih =>
    obtain ⟨rest, same⟩ := ih
    exact ⟨rest ++ [other.ahead grammar count (others ++ frame :: below)], by simp [profile, same]⟩

/-- The frames take no more tokens than there are. -/
theorem Config.Represents.length_tokens_le {grammar : Grammar} {tokens : List Token}
    {config : Config} {frames : List Frame} (represents : config.Represents grammar tokens frames) :
    (frames.reverse.flatMap Frame.tokens).length ≤ (withEnd tokens).length := by
  rw [← represents.before, ← represents.split, List.length_append]
  exact Nat.le_add_right _ _

/-! ### Runs -/

namespace Engine

/-- A run from some moment ends. -/
def Ends (engine : Engine) (config : Config) : Prop :=
  ∃ result limit, engine.runFor limit config = some result

variable {engine : Engine} {config next : Config}

theorem Ends.of_running (step : engine.step config = .running next) (ends : engine.Ends next) :
    engine.Ends config := by
  obtain ⟨result, found⟩ := ends
  obtain ⟨last, reached, finished⟩ := exists_runFor_iff.mp found
  exact ⟨result, exists_runFor_iff.mpr ⟨last, .head step reached, finished⟩⟩

theorem Ends.of_finished {result : Except ParseError Derivation}
    (step : engine.step config = .finished result) : engine.Ends config :=
  ⟨result, exists_runFor_iff.mpr ⟨config, .refl, step⟩⟩

end Engine

namespace Table.Decisive

variable {grammar : Grammar} {table : Table} (decisive : table.Decisive grammar)
  (wellFormed : grammar.WellFormed) (built : grammar.table = .ok table)
  (productive : grammar.Productive) {tokens : List Token} {config : Config}
include decisive wellFormed built productive

/-- The frame of a reduction has less ahead of it than the first one that it takes the place of: the
others have tokens that it takes as well, or its symbol has climbed. -/
theorem ahead_joined_lt {others below : List Frame} {first : Frame} {rule : RuleIndex}
    {alternative : Nat} {target : SetIndex} {terminal : Symbol} {count : Nat}
    (represents : config.Represents grammar tokens (others ++ [first] ++ below))
    (reduces : table.action? (topState (others ++ [first] ++ below)) terminal =
      some (.reduce rule alternative))
    (symbols : ((others ++ [first]).map Frame.symbol).reverse =
      grammar.alternative rule alternative)
    (starts : ⟨rule, alternative, 0⟩ ∈ grammar.automaton.items (topState below))
    (inside : (Frame.joined grammar rule target (others ++ [first])).tokens.length ≤ count) :
    (Frame.joined grammar rule target (others ++ [first])).ahead grammar count below <
      first.ahead grammar count below := by
  have along := represents.linked.reach?_append
  rw [symbols] at along
  have same : grammar.alternative rule alternative =
      first.symbol :: (others.map Frame.symbol).reverse := by
    rw [← symbols, List.map_append, List.reverse_append]
    rfl
  have taken : (Frame.joined grammar rule target (others ++ [first])).tokens =
      first.tokens ++ others.reverse.flatMap Frame.tokens := by
    simp [Frame.joined]
  rw [taken, List.length_append] at inside
  rw [Frame.ahead, Frame.ahead, Prod.Lex.toLex_lt_toLex, taken]
  by_cases empty : others.reverse.flatMap Frame.tokens = []
  · have blank : ∀ frame ∈ others, frame.tokens = [] := fun frame present =>
      List.flatMap_eq_nil_iff.mp empty frame (List.mem_reverse.mpr present)
    have vanishes := represents.linked.vanishes wellFormed decisive.unused represents.parses
      (fun frame present => by simp [present]) blank
    have climbs := decisive.climbsTo_of_reduce wellFormed built productive reduces starts along same
      vanishes
    exact .inr ⟨by rw [empty, List.append_nil], decisive.climbingRank_lt wellFormed built climbs⟩
  · have more := List.length_pos_iff.mpr empty
    rw [List.length_append]
    exact .inl (by omega)

/-- A reduction lets the frames descend. -/
theorem exists_reduced {frames : List Frame} (represents : config.Represents grammar tokens frames)
    {rule : RuleIndex} {alternative width : Nat}
    (chosen : Engine.choose? ⟨grammar, table⟩ config = some ⟨.reduce rule alternative, width⟩) :
    ∃ next others, Engine.step ⟨grammar, table⟩ config = .running next ∧
      next.Represents grammar tokens others ∧ next.rest = config.rest ∧
      Descends (profile grammar (Config.withEnd tokens).length frames)
        (profile grammar (Config.withEnd tokens).length others) := by
  obtain ⟨popped, below, target, next, rfl, -, symbols, starts, -, -, step, joined, rest, -⟩ :=
    represents.step_reduce wellFormed (wellFormed.sound_table built) chosen
  refine ⟨next, _, step, joined, rest, ?_⟩
  rcases List.eq_nil_or_concat popped with rfl | ⟨others, first, rfl⟩
  · exact absurd symbols.symm (wellFormed.symbols_ne_nil
      (wellFormed.symbols_mem_alternatives starts))
  · rw [List.concat_eq_append] at represents symbols joined ⊢
    obtain ⟨symbol, reduces, -⟩ :=
      represents.exists_takes wellFormed (wellFormed.sound_table built) chosen
    have inside := joined.length_tokens_le
    rw [List.reverse_cons, List.flatMap_append, List.length_append, List.flatMap_singleton]
      at inside
    have less := decisive.ahead_joined_lt wellFormed built productive represents reduces symbols
      starts (Nat.le_of_add_left_le inside)
    rw [List.append_assoc, List.singleton_append]
    obtain ⟨dropped, same⟩ := exists_profile_eq others below first
    rw [same]
    exact .replace _ _ less

/-- A step ends the run, takes tokens, or lets the frames descend. -/
theorem step_descends {frames : List Frame}
    (represents : config.Represents grammar tokens frames) :
    (∃ result, Engine.step ⟨grammar, table⟩ config = .finished result) ∨
      ∃ next others, Engine.step ⟨grammar, table⟩ config = .running next ∧
        next.Represents grammar tokens others ∧
        (next.rest.length < config.rest.length ∨ next.rest = config.rest ∧
          Descends (profile grammar (Config.withEnd tokens).length frames)
            (profile grammar (Config.withEnd tokens).length others)) := by
  have sound := wellFormed.sound_table built
  rcases chosen : Engine.choose? ⟨grammar, table⟩ config with
    _ | ⟨target | ⟨rule, alternative⟩ | _, width⟩
  · left
    exact ⟨_, by rw [Engine.step, chosen]⟩
  · right
    obtain ⟨frame, next, -, -, step, shifted, rest, bound, -⟩ :=
      represents.step_shift wellFormed sound chosen
    refine ⟨next, _, step, shifted, ?_⟩
    rw [rest]
    by_cases untaken : width = 0
    · rw [untaken, List.drop_zero]
      exact .inr ⟨rfl, .concat _ _⟩
    · rw [List.length_drop]
      exact .inl (by omega)
  · right
    obtain ⟨next, others, step, joined, rest, descends⟩ :=
      decisive.exists_reduced wellFormed built productive represents chosen
    exact ⟨next, others, step, joined, .inr ⟨rest, descends⟩⟩
  · left
    obtain ⟨_, -, -, step, -⟩ := represents.step_accept wellFormed sound chosen
    exact ⟨_, step⟩

/-- A run from a moment that frames represent ends. -/
theorem ends_of_represents {frames : List Frame}
    (represents : config.Represents grammar tokens frames) :
    Engine.Ends ⟨grammar, table⟩ config := by
  -- Tokens are taken, and in between the frames descend, below the height that all of them allow.
  have bounded : ∀ {config frames}, Config.Represents grammar tokens config frames →
      (profile grammar (Config.withEnd tokens).length frames).length ≤
        grammar.heightBound (Config.withEnd tokens).length := by
    intro config frames represents
    rw [length_profile]
    refine (decisive.length_frames_le wellFormed built productive represents.linked
      represents.parses).trans ?_
    exact Nat.add_le_add_left (Nat.mul_le_mul_left _ represents.length_tokens_le) _
  generalize left : config.rest.length = count
  induction count using Nat.strong_induction_on generalizing config frames with
  | h count fewer =>
    have descending := acc_descends _ (bounded represents)
    generalize same : profile grammar (Config.withEnd tokens).length frames = weights at descending
    induction descending generalizing config frames with
    | intro weights _ lower =>
      subst same
      rcases decisive.step_descends wellFormed built productive represents with
        ⟨result, step⟩ | ⟨next, others, step, onward, taken | ⟨rest, descends⟩⟩
      · exact .of_finished step
      · exact .of_running step (fewer _ (left ▸ taken) onward rfl)
      · exact .of_running step (lower _ ⟨descends, bounded onward⟩ onward (rest ▸ left) rfl)

end Table.Decisive

/-- Every run ends, with a tree or with an error, if the table leaves no choice open and every rule
has parse trees. -/
theorem Grammar.Loaded.exists_yields {grammar : Grammar} (loaded : grammar.Loaded) {table : Table}
    (built : grammar.table = .ok table) (decisive : table.Decisive grammar)
    (productive : grammar.Productive) (tokens : List Token) :
    ∃ result, Engine.Yields ⟨grammar, table⟩ tokens result :=
  decisive.ends_of_represents loaded.wellFormed built productive (.start grammar tokens)

namespace Grammar

/-- Also a run on what is no word ends. -/
theorem exists_yields_sample : ∃ result, Engine.Yields ⟨sample, sampleTable⟩
    [⟨"a", lineBreakClass, 0, 1⟩, ⟨"c", lineBreakClass, 1, 2⟩] result :=
  sample_loaded.exists_yields table_sample decisive_sampleTable productive_sample _

end Grammar

/-! ### Runs that go on -/

section Endless

variable {engine : Engine} {looping : List SetIndex} {target : SetIndex} {rule : RuleIndex}
  {alternative width : Nat} {rest : List Token} {config : Config}

/-- The empty literal is shifted and reduced, and the same tokens are left. -/
theorem Engine.exists_steps_of_blank {next : SetIndex}
    (shifts : engine.table.choose? engine.grammar config.top rest = some ⟨.shift target, 0⟩)
    (reduces : engine.table.choose? engine.grammar target rest =
      some ⟨.reduce rule alternative, width⟩)
    (single : (engine.grammar.alternative rule alternative).length = 1)
    (goto : engine.table.goto? config.top rule = some next) (left : config.rest = rest) :
    ∃ middle, engine.step config = .running middle ∧
      ∃ last, engine.step middle = .running last ∧ last.top = next ∧ last.rest = rest := by
  subst left
  refine ⟨engine.shift config target 0, by rw [step, choose?, shifts], ?_⟩
  have chosen : engine.choose? (engine.shift config target 0) =
      some ⟨.reduce rule alternative, width⟩ := reduces
  have enough : ¬ (engine.shift config target 0).nodes.length < 1 := by simp [shift]
  have below : engine.table.goto?
      (((engine.shift config target 0).states.drop 1).head?.getD startSet) rule = some next := goto
  simp only [step, chosen, reduce, single, if_neg enough, Config.top, below]
  exact ⟨_, rfl, rfl, rfl⟩

/-- A run goes on forever in states that shift the empty literal, if its reduction leads to one of
them again. -/
theorem Engine.runFor_eq_none
    (shifts : ∀ state ∈ looping,
      engine.table.choose? engine.grammar state rest = some ⟨.shift target, 0⟩)
    (reduces : engine.table.choose? engine.grammar target rest =
      some ⟨.reduce rule alternative, width⟩)
    (single : (engine.grammar.alternative rule alternative).length = 1)
    (returns : ∀ state ∈ looping, ∃ next ∈ looping, engine.table.goto? state rule = some next)
    (onTop : config.top ∈ looping) (left : config.rest = rest) (limit : Nat) :
    engine.runFor limit config = none := by
  -- Every two steps, one of the states is on top again.
  induction limit using Nat.twoStepInduction generalizing config with
  | zero => rfl
  | one =>
    rw [runFor, step, choose?, left, shifts _ onTop]
    rfl
  | more limit ih _ =>
    obtain ⟨next, again, goto⟩ := returns _ onTop
    obtain ⟨middle, shifted, last, reduced, rfl, left⟩ :=
      exists_steps_of_blank (shifts _ onTop) reduces single goto left
    rw [runFor, shifted]
    dsimp only
    rw [runFor, reduced]
    exact ih again left

theorem Engine.not_yields_of_blank {tokens : List Token}
    (shifts : ∀ state ∈ looping, engine.table.choose? engine.grammar state
      (Config.withEnd tokens) = some ⟨.shift target, 0⟩)
    (reduces : engine.table.choose? engine.grammar target (Config.withEnd tokens) =
      some ⟨.reduce rule alternative, width⟩)
    (single : (engine.grammar.alternative rule alternative).length = 1)
    (returns : ∀ state ∈ looping, ∃ next ∈ looping, engine.table.goto? state rule = some next)
    (starts : startSet ∈ looping) (result : Except ParseError Derivation) :
    ¬ engine.Yields tokens result := by
  rintro ⟨limit, found⟩
  have onTop : (Config.start tokens).top ∈ looping := starts
  have endless := runFor_eq_none shifts reduces single returns onTop rfl limit
  cases endless.symm.trans found

end Endless

namespace Grammar

/-- The text of a grammar in which gaps, which are empty, may stand in front of a list. -/
def gapText : String :=
  "<item> ::= <list> | \"(\" <gap> \"a\"\n<list> ::= <gap> <list> | \"ab\"\n<gap> ::= \"\""

/-- What is loaded from that text over the classes that every lexer has. -/
def gaps : Grammar where
  rules := [⟨startName, .start, [[.rule 1]]⟩,
    ⟨"item", .declared, [[.rule 2], [.terminal 1, .rule 3, .terminal 2]]⟩,
    ⟨"list", .declared, [[.rule 3, .rule 2], [.terminal 3]]⟩,
    ⟨"gap", .declared, [[.terminal 0]]⟩,
    ⟨"Token-EOL", .tokenClass lineBreakClass, []⟩, ⟨"Token-EOF", .tokenClass endClass, []⟩]
  terminals := ["", "(", "a", "ab"]
  classes := ["EOL", "EOF"]

theorem gaps_loaded : gaps.Loaded := by
  have read : (ofText Lexer.initial gapText).toOption = some gaps := by decide +kernel
  exact ⟨Lexer.initial, .initial, gapText, eq_ok_of_toOption read⟩

/-- The table of that grammar. -/
def gapTable : Table where
  rows := [
    ⟨[(.terminal 0, .shift 1), (.terminal 1, .shift 2), (.terminal 3, .shift 3)],
      [(1, 4), (2, 5), (3, 6)]⟩,
    ⟨[(.terminal 2, .reduce 3 0), (.terminal 3, .reduce 3 0)], []⟩,
    ⟨[(.terminal 0, .shift 1)], [(3, 7)]⟩,
    ⟨[(.rule 5, .reduce 2 1)], []⟩,
    ⟨[(.rule 5, .accept)], []⟩,
    ⟨[(.rule 5, .reduce 1 0)], []⟩,
    ⟨[(.terminal 0, .shift 1), (.terminal 3, .shift 3)], [(2, 8), (3, 6)]⟩,
    ⟨[(.terminal 2, .shift 9)], []⟩,
    ⟨[(.rule 5, .reduce 2 0)], []⟩,
    ⟨[(.rule 5, .reduce 1 1)], []⟩]
  resolved := []

theorem table_gaps : gaps.table = .ok gapTable := eq_ok_of_toOption (by decide +kernel)

theorem productive_gaps : gaps.Productive := by
  have gap : gaps.Parses (.rule 3) [] _ := .branch (by decide) (parsesAll_singleton .epsilon)
  have letters : gaps.Parses (.terminal 3) [⟨"ab", lineBreakClass, 0, 2⟩] _ :=
    .literal (by decide) (List.cons_ne_nil _ _) rfl
  have list : gaps.Parses (.rule 2) _ _ := .branch (by decide) (parsesAll_singleton letters)
  have item : gaps.Parses (.rule 1) _ _ := .branch (by decide) (parsesAll_singleton list)
  have whole : gaps.Parses (.rule 0) _ _ := .branch (by decide) (parsesAll_singleton item)
  intro rule listed
  match rule with
  | 0 => exact ⟨_, _, whole⟩
  | 1 => exact ⟨_, _, item⟩
  | 2 => exact ⟨_, _, list⟩
  | 3 => exact ⟨_, _, gap⟩
  | 4 | 5 | _ + 6 => exact absurd rfl listed

/-- In front of a letter that only elsewhere follows a gap, gaps are put on the stacks forever. -/
theorem not_yields_gaps (result : Except ParseError Derivation) :
    ¬ Engine.Yields ⟨gaps, gapTable⟩ [⟨"a", lineBreakClass, 0, 1⟩] result := by
  have shifts : ∀ state ∈ [0, 6], gapTable.choose? gaps state
      (Config.withEnd [⟨"a", lineBreakClass, 0, 1⟩]) = some ⟨.shift 1, 0⟩ := by decide
  have reduces : gapTable.choose? gaps 1 (Config.withEnd [⟨"a", lineBreakClass, 0, 1⟩]) =
      some ⟨.reduce 3 0, 1⟩ := by decide
  have single : (gaps.alternative 3 0).length = 1 := rfl
  have returns : ∀ state ∈ [0, 6], ∃ next ∈ [0, 6], gapTable.goto? state 3 = some next := by
    decide
  exact Engine.not_yields_of_blank shifts reduces single returns List.mem_cons_self result

/-- A run may go on forever where no reduction was dropped, the empty literal stands alone and the
end of the input is in no alternative. -/
theorem not_forall_exists_yields :
    ¬ ∀ (grammar : Grammar) (table : Table), grammar.Loaded → grammar.table = .ok table →
      table.resolved = [] →
      (∀ rule ∈ grammar.rules, ∀ symbols ∈ rule.alternatives,
        .epsilon ∈ symbols → symbols = [.epsilon]) →
      .rule grammar.endRule ∉ grammar.used →
        ∀ tokens, ∃ result, Engine.Yields ⟨grammar, table⟩ tokens result := by
  intro ends
  obtain ⟨result, yields⟩ := ends gaps gapTable gaps_loaded table_gaps rfl (by decide)
    (by decide +kernel) [⟨"a", lineBreakClass, 0, 1⟩]
  exact not_yields_gaps result yields

/-- It may also where every rule has parse trees besides. -/
theorem not_forall_exists_yields_of_productive :
    ¬ ∀ (grammar : Grammar) (table : Table), grammar.Loaded → grammar.table = .ok table →
      table.resolved = [] →
      (∀ rule ∈ grammar.rules, ∀ symbols ∈ rule.alternatives,
        .epsilon ∈ symbols → symbols = [.epsilon]) →
      .rule grammar.endRule ∉ grammar.used → grammar.Productive →
        ∀ tokens, ∃ result, Engine.Yields ⟨grammar, table⟩ tokens result := by
  intro ends
  obtain ⟨result, yields⟩ := ends gaps gapTable gaps_loaded table_gaps rfl (by decide)
    (by decide +kernel) productive_gaps [⟨"a", lineBreakClass, 0, 1⟩]
  exact not_yields_gaps result yields

/-- The text of a grammar in which nothing but gaps may be in lists. -/
def barrenText : String :=
  "<item> ::= <list> | \"(\" <gap> \"a\"\n<list> ::= <gap> <list>\n<gap> ::= \"\""

/-- What is loaded from that text over the classes that every lexer has. -/
def barren : Grammar where
  rules := [⟨startName, .start, [[.rule 1]]⟩,
    ⟨"item", .declared, [[.rule 2], [.terminal 1, .rule 3, .terminal 2]]⟩,
    ⟨"list", .declared, [[.rule 3, .rule 2]]⟩, ⟨"gap", .declared, [[.terminal 0]]⟩,
    ⟨"Token-EOL", .tokenClass lineBreakClass, []⟩, ⟨"Token-EOF", .tokenClass endClass, []⟩]
  terminals := ["", "(", "a"]
  classes := ["EOL", "EOF"]

theorem barren_loaded : barren.Loaded := by
  have read : (ofText Lexer.initial barrenText).toOption = some barren := by decide +kernel
  exact ⟨Lexer.initial, .initial, barrenText, eq_ok_of_toOption read⟩

/-- The table of that grammar. -/
def barrenTable : Table where
  rows := [
    ⟨[(.terminal 0, .shift 1), (.terminal 1, .shift 2)], [(1, 3), (2, 4), (3, 5)]⟩,
    ⟨[(.terminal 2, .reduce 3 0)], []⟩,
    ⟨[(.terminal 0, .shift 1)], [(3, 6)]⟩,
    ⟨[(.rule 5, .accept)], []⟩,
    ⟨[(.rule 5, .reduce 1 0)], []⟩,
    ⟨[(.terminal 0, .shift 1)], [(2, 7), (3, 5)]⟩,
    ⟨[(.terminal 2, .shift 8)], []⟩,
    ⟨[(.rule 5, .reduce 2 0)], []⟩,
    ⟨[(.rule 5, .reduce 1 1)], []⟩]
  resolved := []

theorem table_barren : barren.table = .ok barrenTable := eq_ok_of_toOption (by decide +kernel)

theorem decisive_barrenTable : barrenTable.Decisive barren where
  resolved := rfl
  alone := by decide
  unused := by decide +kernel
  free := by
    refine Automaton.forall_items ?_
    decide +kernel

/-- In front of the letter, gaps are put on the stacks forever again. -/
theorem not_yields_barren (result : Except ParseError Derivation) :
    ¬ Engine.Yields ⟨barren, barrenTable⟩ [⟨"a", lineBreakClass, 0, 1⟩] result := by
  have shifts : ∀ state ∈ [0, 5], barrenTable.choose? barren state
      (Config.withEnd [⟨"a", lineBreakClass, 0, 1⟩]) = some ⟨.shift 1, 0⟩ := by decide
  have reduces : barrenTable.choose? barren 1 (Config.withEnd [⟨"a", lineBreakClass, 0, 1⟩]) =
      some ⟨.reduce 3 0, 1⟩ := by decide
  have single : (barren.alternative 3 0).length = 1 := rfl
  have returns : ∀ state ∈ [0, 5], ∃ next ∈ [0, 5], barrenTable.goto? state 3 = some next := by
    decide
  exact Engine.not_yields_of_blank shifts reduces single returns List.mem_cons_self result

/-- A run may go on forever although the table leaves no choice open, where a rule has no parse
trees. -/
theorem not_forall_exists_yields_of_decisive :
    ¬ ∀ (grammar : Grammar) (table : Table), grammar.Loaded → grammar.table = .ok table →
      table.Decisive grammar →
        ∀ tokens, ∃ result, Engine.Yields ⟨grammar, table⟩ tokens result := by
  intro ends
  obtain ⟨result, yields⟩ := ends barren barrenTable barren_loaded table_barren
    decisive_barrenTable [⟨"a", lineBreakClass, 0, 1⟩]
  exact not_yields_barren result yields

end Grammar

end ShiftReduce
