import ShiftReduce.Proofs.Lookahead.Equations

/-!
# What may follow

The sets that settle for the edges of the path grammar are the least that obey its equations. For
the edges of rules they hold the terminals that may come behind the rule where it is read from that
state: those that the symbols behind a chain of productions start with, for the chains whose symbols
in front lead to the state.

## Main definitions

* `Grammar.Awaits` — the terminals that may come behind a rule in a state
* `Grammar.FollowInvariant` — what holds of the sets that settle

## Main results

* `Grammar.WellFormed.mem_follow_of_mem_alternative` — what a path forces into the sets of its edges
* `Grammar.WellFormed.mem_follow_iff_awaits` — what settles is what may come behind
* `Grammar.Loaded.follow_spec` — what settles is the least solution of the equations
-/

namespace ShiftReduce

theorem PathGrammar.follow_lookahead (paths : PathGrammar) (grammar : Grammar) :
    (paths.lookahead grammar).follow = (settle (paths.followPass (paths.lookahead grammar).first)
      (paths.passBound grammar) (paths.initialFollow grammar)).1 := rfl

theorem PathGrammar.followPasses_lookahead (paths : PathGrammar) (grammar : Grammar) :
    (paths.lookahead grammar).followPasses =
      (settle (paths.followPass (paths.lookahead grammar).first)
        (paths.passBound grammar) (paths.initialFollow grammar)).2 := rfl

namespace Grammar

/-- A terminal may come behind a rule that is read from a state: it starts what stands behind a
chain of productions, and what stands in front leads to the state. -/
def Awaits (grammar : Grammar) (set : SetIndex) (rule : RuleIndex) (terminal : Symbol) : Prop :=
  ∃ before after, grammar.Chain rule before after ∧
    grammar.automaton.reach? startSet before = some set ∧
    grammar.Starts (after ++ [.rule grammar.endRule]) terminal

/-- What holds of the sets of all edges: the end of the input follows the start rule, and the sets
of rules hold no more than what may come behind them. -/
structure FollowInvariant (grammar : Grammar) (follow : List SymbolSet) : Prop where
  bounded : Bounded grammar.rules.length grammar.terminals.length grammar.paths.edges.length follow
  start : .rule grammar.endRule ∈ symbolsAt follow (grammar.step startSet (.rule startRule))
  sound : ∀ {set rule}, grammar.automaton.edge set (.rule rule) ∈ grammar.paths.edges →
    ∀ terminal ∈ symbolsAt follow (grammar.step set (.rule rule)),
      grammar.Awaits set rule terminal

variable {grammar : Grammar}

/-! ### Edges behind edges -/

/-- The edges of a path are those of its symbols, each from where the symbols before it lead. -/
theorem exists_of_steps_eq {set final : SetIndex} {symbols : List Symbol}
    {left right : List EdgeIndex} {index : EdgeIndex}
    (reached : grammar.automaton.reach? set symbols = some final)
    (split : grammar.steps set symbols = left ++ index :: right) :
    ∃ front symbol back middle target, symbols = front ++ symbol :: back ∧
      grammar.automaton.reach? set front = some middle ∧
      grammar.automaton.target? middle symbol = some target ∧
      index = grammar.step middle symbol ∧ right = grammar.steps target back := by
  induction symbols generalizing set left with
  | nil => exact absurd split.symm (by simp [steps, Automaton.walk])
  | cons first rest ih =>
    obtain ⟨next, edge, onward⟩ := Option.bind_eq_some_iff.mp reached
    rw [steps_cons edge] at split
    cases left with
    | nil =>
      obtain ⟨same, others⟩ := List.cons.inj split
      exact ⟨[], first, rest, set, next, rfl, rfl, edge, same.symm, others.symm⟩
    | cons other left =>
      obtain ⟨front, symbol, back, middle, target, rfl, along, step, same, others⟩ :=
        ih onward (List.cons.inj split).2
      refine ⟨first :: front, symbol, back, middle, target, rfl, ?_, step, same, others⟩
      rw [Automaton.reach?, edge]
      exact along

theorem steps_append {set middle : SetIndex} {left right : List Symbol}
    (along : grammar.automaton.reach? set left = some middle) :
    grammar.steps set (left ++ right) = grammar.steps set left ++ grammar.steps middle right := by
  induction left generalizing set with
  | nil =>
    obtain rfl := Option.some.inj along
    rfl
  | cons first rest ih =>
    obtain ⟨next, edge, onward⟩ := Option.bind_eq_some_iff.mp along
    rw [List.cons_append, steps_cons edge, steps_cons edge, ih onward, List.cons_append]

namespace WellFormed

variable (wellFormed : grammar.WellFormed)
include wellFormed

/-- A rule that starts in a state stands at the end of a chain that leads there. -/
theorem exists_chain {set : SetIndex} {rule : RuleIndex} {alternative : Nat}
    (present : ⟨rule, alternative, 0⟩ ∈ grammar.automaton.items set) :
    ∃ before after, grammar.Chain rule before after ∧
      grammar.automaton.reach? startSet before = some set := by
  obtain ⟨symbols, reached⟩ := wellFormed.exists_reach? (Automaton.lt_length_of_mem_items present)
  obtain ⟨-, before, after, chain, rfl⟩ := wellFormed.valid_of_mem_items reached present
  rw [List.take_zero, List.append_nil] at reached
  exact ⟨before, after, chain, reached⟩

/-- The part of an alternative behind some of its symbols can be read where these lead. -/
theorem reads_of_reach? {source middle : SetIndex} {rule : RuleIndex} {alternative : Nat}
    {left right : List Symbol} (present : ⟨rule, alternative, 0⟩ ∈ grammar.automaton.items source)
    (symbols : grammar.alternative rule alternative = left ++ right)
    (along : grammar.automaton.reach? source left = some middle) :
    grammar.automaton.Reads grammar middle right := by
  refine ⟨_, wellFormed.mem_items_of_append present symbols along, [], ?_⟩
  simp [Item.symbols, symbols]

/-- The edges of a path, with what can be read behind each of them. -/
theorem exists_of_body_eq {source : SetIndex} {rule : RuleIndex} {alternative : Nat}
    {left right : List EdgeIndex} {index : EdgeIndex}
    (present : ⟨rule, alternative, 0⟩ ∈ grammar.automaton.items source)
    (split : grammar.steps source (grammar.alternative rule alternative) = left ++ index :: right) :
    ∃ front symbol back middle target,
      grammar.alternative rule alternative = front ++ symbol :: back ∧
      grammar.automaton.reach? source front = some middle ∧
      index = grammar.step middle symbol ∧ right = grammar.steps target back ∧
      grammar.automaton.Reads grammar target back := by
  obtain ⟨final, reached⟩ := wellFormed.exists_reach?_symbols present
  obtain ⟨front, symbol, back, middle, target, symbols, along, edge, same, others⟩ :=
    exists_of_steps_eq reached split
  obtain ⟨other, sameEdge, reads⟩ :=
    wellFormed.reads_cons (wellFormed.reads_of_reach? present symbols along)
  obtain rfl := Option.some.inj (edge.symm.trans sameEdge)
  exact ⟨front, symbol, back, middle, target, symbols, along, same, others, reads⟩

theorem endRule_inRange :
    (Symbol.rule grammar.endRule).InRange grammar.rules.length grammar.terminals.length := by
  obtain ⟨_, -, known⟩ := wellFormed.classRule?_eq_some wellFormed.classRule?_endClass
  refine ⟨Nat.pos_of_ne_zero fun same => ?_, (List.getElem?_eq_some_iff.mp known).1⟩
  have consumes := wellFormed.isTerminal_endRule
  have start : grammar.endRule = startRule := same
  rw [start, wellFormed.isTerminal_startRule] at consumes
  cases consumes

/-! ### What may come behind obeys the equations -/

/-- What a production puts behind a rule may come behind it, where the symbols in front lead. -/
theorem awaits_of_production {source middle : SetIndex} {rule next : RuleIndex} {alternative : Nat}
    {front back before after : List Symbol} {terminal : Symbol}
    (present : ⟨rule, alternative, 0⟩ ∈ grammar.automaton.items source)
    (symbols : grammar.alternative rule alternative = front ++ .rule next :: back)
    (along : grammar.automaton.reach? source front = some middle)
    (chain : grammar.Chain rule before after)
    (reached : grammar.automaton.reach? startSet before = some source)
    (starts : grammar.Starts (back ++ (after ++ [.rule grammar.endRule])) terminal) :
    grammar.Awaits middle next terminal := by
  have listed := wellFormed.symbols_mem_alternatives present
  rw [Item.symbols, symbols] at listed
  refine ⟨before ++ front, back ++ after, chain.next listed,
    Automaton.reach?_append_eq_some.mpr ⟨source, reached, along⟩, ?_⟩
  rwa [List.append_assoc]

/-- What may come behind rules obeys the equations. Of other symbols nothing is said. -/
theorem followClosed_awaits : grammar.paths.FollowClosed grammar grammar.lookahead.first
    fun index terminal => ∀ set rule,
      grammar.automaton.edge set (.rule rule) ∈ grammar.paths.edges →
      grammar.step set (.rule rule) = index → grammar.Awaits set rule terminal where
  start := by
    intro set rule known same
    rw [← wellFormed.step_startRule] at same
    obtain ⟨rfl, start⟩ := edge_eq_of_step_eq known same
    obtain rfl := Symbol.rule.inj start
    refine ⟨[], [], .start, rfl, .terminal wellFormed.isTerminal_endRule ?_⟩
    exact Symbol.noConfusion
  ahead := by
    intro use left index skipped later right terminal listed split blanks here visible set next
      known same
    obtain ⟨source, rule, alternative, present, rfl⟩ := wellFormed.mem_path_rules_iff.mp listed
    obtain ⟨front, symbol, back, middle, target, symbols, along, place, others, reads⟩ :=
      wellFormed.exists_of_body_eq present split
    obtain ⟨rfl, rfl⟩ := edge_eq_of_step_eq known (same.trans place)
    obtain ⟨before, after, chain, reached⟩ := wellFormed.exists_chain present
    have begins := (wellFormed.mem_firstOf_iff reads).mp
      (mem_firstOf_iff_split.mpr ⟨skipped, later, right, others.symm, blanks, here, visible⟩)
    exact wellFormed.awaits_of_production present symbols along chain reached
      (begins.append_left _)
  behind := by
    intro use left index right terminal listed split blanks follows set next known same
    obtain ⟨source, rule, alternative, present, rfl⟩ := wellFormed.mem_path_rules_iff.mp listed
    obtain ⟨front, symbol, back, middle, target, symbols, along, place, others, reads⟩ :=
      wellFormed.exists_of_body_eq present split
    obtain ⟨rfl, rfl⟩ := edge_eq_of_step_eq known (same.trans place)
    rw [others] at blanks
    dsimp only at follows
    obtain ⟨before, after, chain, reached, begins⟩ :=
      follows source rule (head_mem_edges present) rfl
    have vanishes :=
      (wellFormed.nullable_firstOf_iff reads).mp (nullable_firstOf_iff_forall.mpr blanks)
    exact wellFormed.awaits_of_production present symbols along chain reached
      (.append_right vanishes begins)

/-! ### The sets that settle -/

theorem first_inRange (edge : EdgeIndex) : ∀ symbol ∈ symbolsAt grammar.lookahead.first edge,
    symbol.InRange grammar.rules.length grammar.terminals.length :=
  fun _ => wellFormed.firstInvariant_lookahead.bounded.symbolsAt_inRange

theorem bounded_initialFollow : Bounded grammar.rules.length grammar.terminals.length
    grammar.paths.edges.length (grammar.paths.initialFollow grammar) := by
  refine (bounded_empty grammar.paths.edges).extendAt fun symbol present => ?_
  rw [List.mem_singleton.mp present]
  exact wellFormed.endRule_inRange

theorem bounded_follow : Bounded grammar.rules.length grammar.terminals.length
    grammar.paths.edges.length grammar.lookahead.follow := by
  rw [lookahead, PathGrammar.follow_lookahead]
  exact settle_induction (fun _ => (enlarges_followPass wellFormed.first_inRange _).kept)
    wellFormed.bounded_initialFollow

/-- Passes come to an end with these sets. -/
theorem settles_follow : Settles (grammar.paths.followPass grammar.lookahead.first)
    (grammar.paths.initialFollow grammar) grammar.lookahead.follow
    grammar.lookahead.followPasses := by
  rw [lookahead, PathGrammar.follow_lookahead, PathGrammar.followPasses_lookahead]
  exact (enlarges_followPass wellFormed.first_inRange _).settles_passBound
    (fun _ bounded => bounded) wellFormed.bounded_initialFollow

/-- The sets that settle obey the equations. -/
theorem followClosed_lookahead : grammar.paths.FollowClosed grammar grammar.lookahead.first
    fun edge terminal => terminal ∈ symbolsAt grammar.lookahead.follow edge := by
  refine PathGrammar.followClosed_of_fixed wellFormed.first_inRange wellFormed.bounded_follow
    (fun _ => wellFormed.lt_length_of_mem_body) ?_ wellFormed.settles_follow.pass_eq
  have nonempty := List.length_pos_of_mem wellFormed.edge_startRule_mem_edges
  rw [lookahead, PathGrammar.follow_lookahead]
  exact PathGrammar.endRule_mem_settle nonempty _

omit wellFormed in
/-- The sets that settle are below all that obey the equations. -/
theorem within_follow {family : EdgeIndex → Symbol → Prop}
    (closed : grammar.paths.FollowClosed grammar grammar.lookahead.first family) :
    Within grammar.lookahead.follow family := by
  rw [lookahead, PathGrammar.follow_lookahead]
  exact closed.within_settle _

theorem followInvariant_lookahead : grammar.FollowInvariant grammar.lookahead.follow where
  bounded := wellFormed.bounded_follow
  start := wellFormed.step_startRule ▸ wellFormed.followClosed_lookahead.start
  sound := fun known terminal present =>
    within_follow wellFormed.followClosed_awaits _ terminal present _ _ known rfl

/-- An edge of a path is followed by what the rest of the path starts with, and by what follows the
path where the rest may vanish. -/
theorem mem_follow_of_mem_alternative {source middle : SetIndex} {rule : RuleIndex}
    {alternative : Nat} {left right : List Symbol} {symbol terminal : Symbol}
    (present : ⟨rule, alternative, 0⟩ ∈ grammar.automaton.items source)
    (symbols : grammar.alternative rule alternative = left ++ symbol :: right)
    (along : grammar.automaton.reach? source left = some middle)
    (behind : grammar.Starts right terminal ∨ (grammar.Vanishes right ∧
      terminal ∈ symbolsAt grammar.lookahead.follow (grammar.step source (.rule rule)))) :
    terminal ∈ symbolsAt grammar.lookahead.follow (grammar.step middle symbol) := by
  have reads := wellFormed.reads_of_reach? present symbols along
  obtain ⟨target, edge, rest⟩ := wellFormed.reads_cons reads
  have listed := wellFormed.mem_path_rules_iff.mpr ⟨source, rule, alternative, present, rfl⟩
  have split : grammar.steps source (grammar.alternative rule alternative) =
      grammar.steps source left ++ grammar.step middle symbol :: grammar.steps target right := by
    rw [symbols, steps_append along, steps_cons edge]
  refine wellFormed.followClosed_lookahead.of_found listed split ?_
  dsimp only
  rcases behind with starts | ⟨vanishes, behind⟩
  · exact .inl ((wellFormed.mem_firstOf_iff rest).mpr starts)
  · exact .inr ⟨(wellFormed.nullable_firstOf_iff rest).mpr vanishes, behind⟩

/-! ### Chains -/

/-- Nothing but the end of the input starts with it. -/
theorem eq_endRule_of_starts {terminal : Symbol}
    (starts : grammar.Starts [.rule grammar.endRule] terminal) :
    terminal = .rule grammar.endRule := by
  cases starts with
  | terminal => rfl
  | skip _ later => cases later
  | expand listed _ =>
    rw [wellFormed.alternatives_eq_nil_of_isTerminal wellFormed.isTerminal_endRule] at listed
    cases listed

/-- What comes behind a chain is in the set of its rule. -/
theorem mem_follow_of_chain {rule : RuleIndex} {before after : List Symbol} {set : SetIndex}
    {terminal : Symbol} (chain : grammar.Chain rule before after)
    (reached : grammar.automaton.reach? startSet before = some set)
    (starts : grammar.Starts (after ++ [.rule grammar.endRule]) terminal) :
    terminal ∈ symbolsAt grammar.lookahead.follow (grammar.step set (.rule rule)) := by
  -- The terminal starts what the last production puts behind the rule, or, where that vanishes, it
  -- comes behind the rest of the chain.
  induction chain generalizing set with
  | start =>
    obtain rfl := Option.some.inj reached
    rw [wellFormed.eq_endRule_of_starts starts]
    exact wellFormed.followInvariant_lookahead.start
  | @next rule next before after left right chain listed ih =>
    obtain ⟨source, reached, along⟩ := Automaton.reach?_append_eq_some.mp reached
    obtain ⟨alternative, inside, symbols⟩ := exists_alternative_eq listed
    have present :=
      wellFormed.startingItems_of_chain chain reached (start_mem_startingItems inside)
    refine wellFormed.mem_follow_of_mem_alternative present symbols along ?_
    rw [List.append_assoc] at starts
    rcases starts_append.mp starts with begins | ⟨vanishes, later⟩
    · exact .inl begins
    · exact .inr ⟨vanishes, ih reached later⟩

/-- The set of a rule in a state where it starts holds what may come behind it there. -/
theorem mem_follow_iff_awaits {set : SetIndex} {rule : RuleIndex} {alternative : Nat}
    {terminal : Symbol} (present : ⟨rule, alternative, 0⟩ ∈ grammar.automaton.items set) :
    terminal ∈ symbolsAt grammar.lookahead.follow (grammar.step set (.rule rule)) ↔
      grammar.Awaits set rule terminal := by
  constructor
  · exact wellFormed.followInvariant_lookahead.sound (head_mem_edges present) terminal
  · rintro ⟨before, after, chain, reached, starts⟩
    exact wellFormed.mem_follow_of_chain chain reached starts

/-- Whatever may follow an edge is a terminal, and not the empty literal. -/
theorem followClosed_terminals : grammar.paths.FollowClosed grammar grammar.lookahead.first
    fun _ terminal => grammar.isTerminal terminal = true ∧ terminal ≠ .epsilon where
  start := ⟨wellFormed.isTerminal_endRule, Symbol.noConfusion⟩
  ahead := fun _ _ _ here visible => ⟨wellFormed.isTerminal_of_mem_first here visible, visible⟩
  behind := fun _ _ _ follows => follows

end WellFormed

/-- The passes over the paths of a loaded grammar for what may follow come to an end. Their sets
obey the equations, are within every family of sets that does, and hold terminals only, without the
empty literal. -/
theorem Loaded.follow_spec (loaded : grammar.Loaded) :
    Settles (grammar.paths.followPass grammar.lookahead.first)
      (grammar.paths.initialFollow grammar) grammar.lookahead.follow
      grammar.lookahead.followPasses ∧
    (grammar.paths.FollowClosed grammar grammar.lookahead.first
      fun edge terminal => terminal ∈ symbolsAt grammar.lookahead.follow edge) ∧
    (∀ family, grammar.paths.FollowClosed grammar grammar.lookahead.first family →
      Within grammar.lookahead.follow family) ∧
    ∀ edge, ∀ terminal ∈ symbolsAt grammar.lookahead.follow edge,
      grammar.isTerminal terminal = true ∧ terminal ≠ .epsilon :=
  ⟨loaded.wellFormed.settles_follow, loaded.wellFormed.followClosed_lookahead,
    fun _ => WellFormed.within_follow,
    WellFormed.within_follow loaded.wellFormed.followClosed_terminals⟩

/-- Behind a letter of a stem may come another one, or, where the rest of the stem is empty, the
last letter of the word, and no equations can be obeyed without the latter. -/
theorem follow_spec_sample :
    symbolsAt sample.lookahead.follow 4 = [.terminal 1, .terminal 2] ∧
    ∀ family, sample.paths.FollowClosed sample sample.lookahead.first family →
      family 4 (.terminal 1) :=
  ⟨by decide +kernel, fun family closed =>
    sample_loaded.follow_spec.2.2.1 family closed 4 (.terminal 1) (by decide +kernel)⟩

end Grammar

end ShiftReduce
