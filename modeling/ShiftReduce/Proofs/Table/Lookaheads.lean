import ShiftReduce.Proofs.Grammar.Loading
import ShiftReduce.Proofs.Lookahead.Follow
import ShiftReduce.Table.Build

/-!
# The lookaheads of reductions

An alternative is reduced in a state for the terminals that follow its paths there. These are the
terminals that productions can put behind the rule, wherever the symbols in front of the rule and
those of the alternative together lead to the state.

## Main definitions

* `Grammar.lookaheads` — the terminals that an alternative is reduced for in a state
* `Grammar.followAt` — the terminals that follow a rule in a state

## Main results

* `Grammar.WellFormed.mem_lookaheads_iff` — the lookaheads of a reduction, told by paths
* `Grammar.Loaded.mem_lookaheads_iff_chain` — the lookaheads of a reduction, told by productions
-/

namespace ShiftReduce

/-- What follows some paths that end in a state is what follows one of them. -/
theorem mem_followUnion {paths : PathGrammar} {lookahead : Lookahead} {uses : List PathRule}
    {state : SetIndex} {terminal : Symbol} :
    terminal ∈ followUnion paths lookahead uses state ↔
      ∃ use ∈ uses, paths.finalSet? use = some state ∧
        terminal ∈ symbolsAt lookahead.follow use.head := by
  simp [followUnion, SymbolSet.mem_foldl_union, and_assoc]

namespace Grammar

/-- The terminals that an alternative is reduced for in a state. -/
def lookaheads (grammar : Grammar) (state : SetIndex) (rule : RuleIndex) (alternative : Nat) :
    SymbolSet :=
  followUnion grammar.buildTables.paths grammar.buildTables.lookahead
    (grammar.buildTables.paths.rules.filter fun use =>
      use.rule == rule && use.alternative == alternative) state

/-- The terminals that follow a rule in a state. -/
def followAt (grammar : Grammar) (state : SetIndex) (rule : RuleIndex) : SymbolSet :=
  symbolsAt grammar.buildTables.lookahead.follow
    (grammar.buildTables.paths.edges.idxOf (grammar.automaton.edge state (.rule rule)))

variable {grammar : Grammar}

theorem buildTables_paths (grammar : Grammar) : grammar.buildTables.paths = grammar.paths := by
  unfold buildTables paths
  dsimp only

theorem buildTables_lookahead (grammar : Grammar) :
    grammar.buildTables.lookahead = grammar.lookahead := by
  unfold buildTables lookahead paths
  dsimp only

theorem followAt_eq {state : SetIndex} {rule : RuleIndex} : grammar.followAt state rule =
    symbolsAt grammar.lookahead.follow (grammar.step state (.rule rule)) := by
  rw [followAt, buildTables_paths, buildTables_lookahead]
  rfl

theorem WellFormed.mem_lookaheads_iff (wellFormed : grammar.WellFormed) {state : SetIndex}
    {rule : RuleIndex} {alternative : Nat} {terminal : Symbol} :
    terminal ∈ grammar.lookaheads state rule alternative ↔
      ∃ source, ⟨rule, alternative, 0⟩ ∈ grammar.automaton.items source ∧
        grammar.automaton.reach? source (grammar.alternative rule alternative) = some state ∧
        terminal ∈ symbolsAt grammar.lookahead.follow (grammar.step source (.rule rule)) := by
  rw [lookaheads, buildTables_paths, buildTables_lookahead, mem_followUnion]
  constructor
  · rintro ⟨use, listed, ends, inSet⟩
    obtain ⟨inPaths, same⟩ := List.mem_filter.mp listed
    obtain ⟨source, other, place, present, rfl⟩ := wellFormed.mem_path_rules_iff.mp inPaths
    obtain ⟨rfl, rfl⟩ : other = rule ∧ place = alternative := by simpa using same
    obtain ⟨target, reached⟩ := wellFormed.exists_reach?_symbols present
    rw [wellFormed.finalSet?_of_mem present reached] at ends
    dsimp only at inSet
    exact ⟨source, present, reached.trans ends, inSet⟩
  · rintro ⟨source, present, reached, inSet⟩
    have inPaths := wellFormed.mem_path_rules_iff.mpr ⟨source, rule, alternative, present, rfl⟩
    refine ⟨_, List.mem_filter.mpr ⟨inPaths, by simp⟩,
      wellFormed.finalSet?_of_mem present reached, ?_⟩
    dsimp only
    exact inSet

/-- An alternative with a lookahead in a state has been read there. -/
theorem WellFormed.mem_items_of_mem_lookaheads (wellFormed : grammar.WellFormed)
    {state : SetIndex} {rule : RuleIndex} {alternative : Nat} {terminal : Symbol}
    (present : terminal ∈ grammar.lookaheads state rule alternative) :
    ⟨rule, alternative, (grammar.alternative rule alternative).length⟩ ∈
      grammar.automaton.items state := by
  obtain ⟨source, starts, reached, -⟩ := wellFormed.mem_lookaheads_iff.mp present
  refine wellFormed.mem_items_of_reach? starts (Nat.le_refl _) ?_
  rwa [List.take_length]

/-- An alternative that is read in a state is reduced there for the terminals that productions can
put behind its rule, where the symbols in front of it lead to the state. -/
theorem Loaded.mem_lookaheads_iff_chain (loaded : grammar.Loaded) {state : SetIndex} {item : Item}
    (present : item ∈ grammar.automaton.items state)
    (complete : item.isComplete grammar = true) {terminal : Symbol} :
    terminal ∈ grammar.lookaheads state item.rule item.alternative ↔
      ∃ before after, grammar.Chain item.rule before after ∧
        grammar.automaton.reach? startSet (before ++ (item.symbols grammar).take item.dot) =
          some state ∧
        grammar.First (after ++ [.rule grammar.endRule]) terminal := by
  have wellFormed := loaded.wellFormed
  have known := (mem_items.mp (wellFormed.mem_items_of_mem_set present)).1
  rw [List.take_of_length_le (of_decide_eq_true complete), wellFormed.mem_lookaheads_iff]
  simp only [first_iff_starts]
  constructor
  · rintro ⟨source, starts, along, inSet⟩
    obtain ⟨before, after, chain, reached, begins⟩ :=
      (wellFormed.mem_follow_iff_awaits starts).mp inSet
    exact ⟨before, after, chain,
      Automaton.reach?_append_eq_some.mpr ⟨source, reached, along⟩, begins⟩
  · rintro ⟨before, after, chain, reached, begins⟩
    obtain ⟨source, reached, along⟩ := Automaton.reach?_append_eq_some.mp reached
    have starts := wellFormed.startingItems_of_chain chain reached (start_mem_startingItems known)
    exact ⟨source, starts, along, wellFormed.mem_follow_of_chain chain reached begins⟩

/-- The empty stem is reduced for what ends a word, also behind other letters. -/
theorem mem_lookaheads_sample : .terminal 1 ∈ sample.lookaheads 1 2 1 ∧
    ∃ before after, sample.Chain 2 before after ∧
      sample.automaton.reach? startSet (before ++ [.epsilon]) = some 1 ∧
      sample.First (after ++ [.rule sample.endRule]) (.terminal 1) := by
  have present : ⟨2, 1, 1⟩ ∈ sample.automaton.items 1 := by decide +kernel
  have complete : Item.isComplete sample ⟨2, 1, 1⟩ = true := by decide +kernel
  have inSet : .terminal 1 ∈ sample.lookaheads 1 2 1 := by decide +kernel
  exact ⟨inSet, (sample_loaded.mem_lookaheads_iff_chain present complete).mp inSet⟩

end Grammar

end ShiftReduce
