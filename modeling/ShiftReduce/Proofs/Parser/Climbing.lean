import ShiftReduce.Proofs.Parser.Recursion

/-!
# Climbing

A reduction may do no more than put a rule in the place of the first symbol of an alternative, if
the others come to nothing. The rule climbs to where the symbol was. In front of one terminal, rules
that climb in a circle would be moves that go on forever; and where a circle is climbed in front of
several terminals, there is one that all of its climbs can be done in front of. So climbing ends.

## Main definitions

* `Grammar.Climbs`, `Grammar.ClimbsTo` — a rule in the place of the first symbol of an alternative
* `Grammar.climbingRank` — how many rules can take the place of a symbol

## Main results

* `Table.Decisive.not_climbs_around`, `Table.Decisive.climbingRank_lt` — climbing never comes back
* `Table.Decisive.climbsTo_of_reduce` — reductions that climb
-/

namespace ShiftReduce

namespace Grammar

/-- A rule that starts in a state can take the place of the first symbol of an alternative, for the
others come to nothing. A terminal comes behind the rule, and it is not the end of an input that
would be accepted instead. -/
structure Climbs (grammar : Grammar) (set : SetIndex) (terminal : Symbol) (symbol : Symbol)
    (rule : RuleIndex) : Prop where
  differs : rule ≠ startRule
  starts : ∃ alternative rest, ⟨rule, alternative, 0⟩ ∈ grammar.automaton.items set ∧
    grammar.alternative rule alternative = symbol :: rest ∧ grammar.Vanishes rest
  follows : terminal ∈ grammar.followAt set rule
  unaccepted : ¬ (set = startSet ∧ symbol = .rule 1 ∧ terminal = .rule grammar.endRule)

/-- A rule can take the place of a symbol in front of some terminal. -/
def ClimbsTo (grammar : Grammar) (set : SetIndex) (symbol other : Symbol) : Prop :=
  ∃ terminal rule, other = .rule rule ∧ grammar.Climbs set terminal symbol rule

/-- The number of rules that can take the place of a symbol, one after the other. -/
noncomputable def climbingRank (grammar : Grammar) (set : SetIndex) (symbol : Symbol) : Nat :=
  Set.ncard {rule | Relation.TransGen (grammar.ClimbsTo set) symbol (.rule rule)}

variable {grammar : Grammar} {set : SetIndex}

/-- What comes behind a rule that has climbed comes behind what it takes the place of. -/
theorem mem_followAt_of_climbsTo (wellFormed : grammar.WellFormed) {rule : RuleIndex}
    {other : Symbol}
    (climbs : Relation.ReflTransGen (grammar.ClimbsTo set) (.rule rule) other) :
    ∃ last, other = .rule last ∧
      ∀ terminal ∈ grammar.followAt set last, terminal ∈ grammar.followAt set rule := by
  induction climbs with
  | refl => exact ⟨rule, rfl, fun _ follows => follows⟩
  | tail _ climb ih =>
    obtain ⟨middle, rfl, behind⟩ := ih
    obtain ⟨_, last, rfl, climbs⟩ := climb
    obtain ⟨alternative, rest, starts, same, vanishes⟩ := climbs.starts
    have whole : grammar.alternative last alternative = [] ++ .rule middle :: rest := same
    refine ⟨last, rfl, fun terminal follows => behind terminal ?_⟩
    exact wellFormed.mem_followAt_of_mem_alternative starts whole rfl (.inr ⟨vanishes, follows⟩)

/-- Where a rule climbs to its own place, all climbs on the way can be done in front of the same
terminal. -/
theorem exists_common (wellFormed : grammar.WellFormed) {rule : RuleIndex}
    (around : Relation.TransGen (grammar.ClimbsTo set) (.rule rule) (.rule rule)) :
    ∃ common ∈ grammar.followAt set rule, ∀ {symbol other},
      Relation.ReflTransGen (grammar.ClimbsTo set) (.rule rule) symbol →
        grammar.ClimbsTo set symbol other →
          Relation.ReflTransGen (grammar.ClimbsTo set) other (.rule rule) →
            ∃ next, other = .rule next ∧ grammar.Climbs set common symbol next := by
  obtain ⟨_, -, terminal, _, same, last⟩ := Relation.TransGen.tail'_iff.mp around
  cases same
  -- Any terminal will do but the end of the input, which will if there is no other.
  obtain ⟨common, follows, fits⟩ : ∃ common ∈ grammar.followAt set rule,
      common = .rule grammar.endRule →
        ∀ other ∈ grammar.followAt set rule, other = .rule grammar.endRule := by
    by_cases ends : ∀ other ∈ grammar.followAt set rule, other = .rule grammar.endRule
    · exact ⟨terminal, last.follows, fun _ => ends⟩
    · push Not at ends
      obtain ⟨common, follows, differs⟩ := ends
      exact ⟨common, follows, fun same => absurd same differs⟩
  refine ⟨common, follows, ?_⟩
  rintro symbol _ toSymbol ⟨own, next, rfl, climbs⟩ back
  obtain ⟨_, same, behind⟩ :=
    mem_followAt_of_climbsTo wellFormed (toSymbol.tail ⟨own, next, rfl, climbs⟩)
  cases same
  obtain ⟨_, same, ahead⟩ := mem_followAt_of_climbsTo wellFormed back
  cases same
  refine ⟨next, rfl, climbs.differs, climbs.starts, ahead common follows, ?_⟩
  rintro ⟨isStart, isFirst, isEnd⟩
  exact climbs.unaccepted ⟨isStart, isFirst, fits isEnd own (behind own climbs.follows)⟩

theorem finite_climbsTo (wellFormed : grammar.WellFormed) (symbol : Symbol) :
    {rule | Relation.TransGen (grammar.ClimbsTo set) symbol (.rule rule)}.Finite := by
  refine (Set.finite_lt_nat grammar.rules.length).subset fun rule climbs => ?_
  obtain ⟨_, -, _, _, same, climbs⟩ := Relation.TransGen.tail'_iff.mp climbs
  cases same
  obtain ⟨_, _, starts, -⟩ := climbs.starts
  exact lt_length_of_alternatives (mem_items.mp (wellFormed.mem_items_of_mem_set starts)).1

end Grammar

namespace Table.Decisive

variable {grammar : Grammar} {table : Table} (decisive : table.Decisive grammar)
  (wellFormed : grammar.WellFormed) (built : grammar.table = .ok table) {set : SetIndex}
include decisive wellFormed built

/-- A rule climbs by moves. -/
theorem moves_of_climbs {front : List Symbol} {terminal symbol : Symbol} {rule : RuleIndex}
    (reached : grammar.automaton.reach? startSet front = some set)
    (climbs : grammar.Climbs set terminal symbol rule) :
    Relation.TransGen (table.Moves grammar terminal) (front ++ [symbol])
      (front ++ [.rule rule]) := by
  obtain ⟨alternative, rest, starts, same, vanishes⟩ := climbs.starts
  obtain ⟨target, onward⟩ := wellFormed.exists_reach?_symbols starts
  have whole : grammar.alternative rule alternative = [symbol] ++ rest := same
  obtain ⟨middle, along, -⟩ := Automaton.reach?_append_eq_some.mp (whole ▸ onward)
  have listed := wellFormed.symbols_mem_alternatives starts
  rw [Item.symbols, same] at listed
  have moves := decisive.moves_of_rest wellFormed built vanishes reached starts whole along
    (decisive.visible_of_cons listed) climbs.follows (.inl (by simp))
  rcases decisive.accepts_or_moves wellFormed built reached starts onward climbs.differs
    climbs.follows with ⟨rfl, only, isEnd, -⟩ | move
  · rw [same] at only
    exact absurd ⟨(Option.some.inj reached).symm, (List.cons.inj only).1, isEnd⟩ climbs.unaccepted
  · exact .tail' moves move

/-- No rule climbs to its own place. -/
theorem not_climbs_around {rule : RuleIndex} :
    ¬ Relation.TransGen (grammar.ClimbsTo set) (.rule rule) (.rule rule) := by
  intro around
  obtain ⟨common, follows, climbs_common⟩ := Grammar.exists_common wellFormed around
  obtain ⟨_, -, _, _, same, last⟩ := Relation.TransGen.tail'_iff.mp around
  cases same
  obtain ⟨alternative, _, starts, -⟩ := last.starts
  rw [Grammar.followAt_eq] at follows
  obtain ⟨before, after, chain, reached, begins⟩ :=
    (wellFormed.mem_follow_iff_awaits starts).mp follows
  -- From each place on the circle, moves lead to the next.
  have onward : ∀ symbols, (∃ other, symbols = before ++ [other] ∧
      Relation.ReflTransGen (grammar.ClimbsTo set) (.rule rule) other ∧
      Relation.TransGen (grammar.ClimbsTo set) other (.rule rule)) →
        ∃ next, (∃ other, next = before ++ [other] ∧
          Relation.ReflTransGen (grammar.ClimbsTo set) (.rule rule) other ∧
          Relation.TransGen (grammar.ClimbsTo set) other (.rule rule)) ∧
        Relation.TransGen (table.Moves grammar common) symbols next := by
    rintro _ ⟨symbol, rfl, toSymbol, back⟩
    obtain ⟨_, climb, later⟩ := Relation.TransGen.head'_iff.mp back
    obtain ⟨next, rfl, climbs⟩ := climbs_common toSymbol climb later
    exact ⟨_, ⟨_, rfl, toSymbol.tail climb, .trans_right later around⟩,
      decisive.moves_of_climbs wellFormed built reached climbs⟩
  exact Table.not_halts onward ⟨_, rfl, .refl, around⟩
    (decisive.halts_of_chain wellFormed built chain last.differs begins)

/-- Fewer rules can take the place of one that has climbed. -/
theorem climbingRank_lt {symbol : Symbol} {rule : RuleIndex}
    (climbs : grammar.ClimbsTo set symbol (.rule rule)) :
    grammar.climbingRank set (.rule rule) < grammar.climbingRank set symbol := by
  refine Set.ncard_lt_ncard ⟨fun other further => .head climbs further, fun all => ?_⟩
    (Grammar.finite_climbsTo wellFormed symbol)
  exact decisive.not_climbs_around wellFormed built (all (.single climbs))

/-- What comes behind a rule that gives way is not only the end of an input that is accepted
instead. -/
theorem not_only_end_of_reduce {state : SetIndex} {terminal : Symbol} {rest : List Symbol}
    {rule : RuleIndex} {alternative : Nat}
    (reduces : table.action? state terminal = some (.reduce rule alternative))
    (starts : ⟨rule, alternative, 0⟩ ∈ grammar.automaton.items startSet)
    (along : grammar.automaton.reach? startSet (grammar.alternative rule alternative) = some state)
    (same : grammar.alternative rule alternative = .rule 1 :: rest)
    (vanishes : grammar.Vanishes rest)
    (follows : .rule grammar.endRule ∈ grammar.followAt startSet rule)
    (ends : ∀ other ∈ grammar.followAt startSet rule, other = .rule grammar.endRule) : False := by
  obtain ⟨set, reached, complete⟩ := wellFormed.exists_reach?_first
  have whole : grammar.alternative rule alternative = [.rule 1] ++ rest := same
  by_cases only : rest = []
  · rw [only] at whole
    obtain rfl := Option.some.inj ((whole ▸ along).symm.trans reached)
    have lookahead := ((wellFormed.sound_table built).reduce reduces).2
    obtain ⟨source, -, onward, inSet⟩ := wellFormed.mem_lookaheads_iff.mp lookahead
    rw [whole, List.append_nil, Automaton.reach?_singleton] at onward
    obtain ⟨rfl, -⟩ := wellFormed.eq_of_accepts onward complete
    rw [ends terminal (Grammar.followAt_eq ▸ inSet)] at reduces
    cases reduces.symm.trans (wellFormed.action?_endRule built complete)
  · have listed := wellFormed.symbols_mem_alternatives starts
    rw [Item.symbols, same] at listed
    have nothing : grammar.automaton.reach? startSet [] = some startSet := rfl
    have moves := decisive.moves_of_rest wellFormed built vanishes nothing starts whole reached
      (decisive.visible_of_cons listed) follows (.inl (by simp))
    rw [whole] at moves
    rcases Relation.ReflTransGen.cases_head moves with unmoved | ⟨next, move, -⟩
    · exact only (List.append_right_eq_self.mp unmoved.symm)
    · exact decisive.not_moves_first wellFormed built move

/-- A reduction climbs if all but the first of its symbols come to nothing. -/
theorem climbsTo_of_reduce (productive : grammar.Productive) {state : SetIndex}
    {terminal symbol : Symbol} {rest : List Symbol} {rule : RuleIndex} {alternative : Nat}
    (reduces : table.action? state terminal = some (.reduce rule alternative))
    (starts : ⟨rule, alternative, 0⟩ ∈ grammar.automaton.items set)
    (along : grammar.automaton.reach? set (grammar.alternative rule alternative) = some state)
    (same : grammar.alternative rule alternative = symbol :: rest)
    (vanishes : grammar.Vanishes rest) : grammar.ClimbsTo set symbol (.rule rule) := by
  have differs := ((wellFormed.sound_table built).reduce reduces).1
  obtain ⟨before, after, chain, reached⟩ := wellFormed.exists_chain starts
  obtain ⟨first, begins⟩ := productive.exists_starts wellFormed fun _ => chain.mem_used
  have firstFollows := wellFormed.mem_followAt_of_chain chain reached begins
  by_contra stays
  have accepted : ∀ other ∈ grammar.followAt set rule,
      set = startSet ∧ symbol = .rule 1 ∧ other = .rule grammar.endRule := by
    intro other follows
    by_contra unaccepted
    exact stays ⟨other, rule, rfl, differs, ⟨alternative, rest, starts, same, vanishes⟩, follows,
      unaccepted⟩
  obtain ⟨rfl, rfl, rfl⟩ := accepted first firstFollows
  exact decisive.not_only_end_of_reduce wellFormed built reduces starts along same vanishes
    firstFollows fun other follows => (accepted other follows).2.2

end Table.Decisive

end ShiftReduce
