import ShiftReduce.Proofs.Parser.Choice

/-!
# The empty literal and its rivals

A table shifts the empty literal like any other terminal, and reduces it one state later. So it
takes no place among the actions for what comes next, and where it could be read as well as
something else, no conflict is found. What decides between the two is the engine, which takes the
empty literal last.

## Main results

* `Grammar.WellFormed.exists_action?_iff` — what a state has actions for
* `Grammar.WellFormed.exists_epsilon_target` — the state behind the empty literal
* `Grammar.Loaded.action?_beside_epsilon` — what competes with the empty literal, and what decides
* `Grammar.not_forall_action?_eq_none` — something may compete with it
-/

namespace ShiftReduce

namespace Grammar.WellFormed

variable {grammar : Grammar} (wellFormed : grammar.WellFormed) {table : Table}
include wellFormed

/-- A state has actions for the terminals that its items read next, for those that what it has read
is reduced for, and for the end of the input if it accepts. -/
theorem exists_action?_iff (built : grammar.table = .ok table) (unresolved : table.resolved = [])
    {state : SetIndex} {symbol : Symbol} (consumes : grammar.isTerminal symbol = true) :
    (∃ action, table.action? state symbol = some action) ↔
      (∃ item ∈ grammar.automaton.items state, item.next? grammar = some symbol) ∨
      (∃ rule alternative, rule ≠ startRule ∧
        symbol ∈ grammar.lookaheads state rule alternative) ∨
      (symbol = .rule grammar.endRule ∧ ⟨startRule, 0, 1⟩ ∈ grammar.automaton.items state) := by
  have sound := wellFormed.sound_table built
  constructor
  · rintro ⟨_ | ⟨rule, alternative⟩ | _, present⟩
    · exact .inl (wellFormed.target?_isSome_iff.mp ⟨_, (sound.shift present).2⟩)
    · exact .inr (.inl ⟨rule, alternative, sound.reduce present⟩)
    · exact .inr (.inr (sound.accept present))
  · rintro (reads | ⟨rule, alternative, differs, lookahead⟩ | ⟨rfl, complete⟩)
    · obtain ⟨target, edge⟩ := wellFormed.target?_isSome_iff.mpr reads
      by_cases accepts : symbol = .rule grammar.endRule ∧
          ⟨startRule, 0, 1⟩ ∈ grammar.automaton.items state
      · obtain ⟨rfl, complete⟩ := accepts
        exact ⟨_, wellFormed.action?_endRule built complete⟩
      · refine ⟨.shift target, wellFormed.sound_baseTable.action?_of_enterAll
          known_of_mem_candidates (enterAll_of_table built) ?_⟩
        rw [wellFormed.action?_baseTable, if_neg accepts, if_pos consumes, edge]
        rfl
    · rcases wellFormed.action?_of_lookahead built unresolved differs lookahead with
        reduces | accepts
      · exact ⟨_, reduces⟩
      · exact ⟨_, accepts⟩
    · exact ⟨_, wellFormed.action?_endRule built complete⟩

/-- The state that accepts is the one that the first declared rule leads to from the first state. -/
theorem eq_of_accepts {state target : SetIndex} {symbol : Symbol}
    (edge : grammar.automaton.target? state symbol = some target)
    (complete : ⟨startRule, 0, 1⟩ ∈ grammar.automaton.items target) :
    state = startSet ∧ symbol = .rule 1 := by
  obtain ⟨⟨_, _, _⟩, starts, next, same⟩ :=
    wellFormed.exists_mem_items_of_advance edge complete Nat.one_ne_zero
  cases same
  have read : (Item.symbols grammar ⟨startRule, 0, 0⟩)[0]? = some symbol := next
  rw [wellFormed.symbols_startRule] at read
  exact ⟨wellFormed.eq_startSet_of_startItem starts, (Option.some.inj read).symm⟩

/-- A state that may start an empty alternative shifts the empty literal to a state that reduces the
alternative for all that follows. -/
theorem exists_epsilon_target (built : grammar.table = .ok table) (unresolved : table.resolved = [])
    {state : SetIndex} {rule : RuleIndex} {alternative : Nat}
    (starts : ⟨rule, alternative, 0⟩ ∈ grammar.automaton.items state)
    (blank : grammar.alternative rule alternative = [.epsilon]) :
    ∃ target, grammar.automaton.target? state .epsilon = some target ∧
      table.action? state .epsilon = some (.shift target) ∧
      ∀ terminal ∈ grammar.followAt state rule,
        table.action? target terminal = some (.reduce rule alternative) := by
  have reads := reads_of_start starts
  rw [blank] at reads
  obtain ⟨target, edge, -⟩ := wellFormed.reads_cons reads
  have shifts := wellFormed.action?_of_target? built rfl edge (Symbol.rule_ne_epsilon _).symm
  refine ⟨target, edge, shifts, fun terminal follows => ?_⟩
  have differs : rule ≠ startRule := by
    rintro rfl
    have listed := wellFormed.symbols_mem_alternatives starts
    rw [Item.symbols, blank, wellFormed.alternatives_startRule] at listed
    cases List.mem_singleton.mp listed
  have along : grammar.automaton.reach? state (grammar.alternative rule alternative) =
      some target := by
    rw [blank, Automaton.reach?_singleton, edge]
  rw [followAt_eq] at follows
  have lookahead := wellFormed.mem_lookaheads_iff.mpr ⟨state, starts, along, follows⟩
  refine (wellFormed.action?_of_lookahead built unresolved differs lookahead).resolve_right ?_
  intro accepts
  obtain ⟨-, complete⟩ := (wellFormed.sound_table built).accept accepts
  cases (wellFormed.eq_of_accepts edge complete).2

/-- What may follow an empty alternative is a terminal. -/
theorem isTerminal_of_mem_followAt {state : SetIndex} {rule : RuleIndex} {alternative : Nat}
    {terminal : Symbol} (starts : ⟨rule, alternative, 0⟩ ∈ grammar.automaton.items state)
    (follows : terminal ∈ grammar.followAt state rule) : grammar.isTerminal terminal = true := by
  rw [followAt_eq] at follows
  obtain ⟨_, _, -, -, begins⟩ := (wellFormed.mem_follow_iff_awaits starts).mp follows
  exact begins.isTerminal

end Grammar.WellFormed

/-- Where a state may start an empty alternative, the state behind the empty literal reduces it for
all that follows, and no other empty alternative shares a terminal with it. The state itself has an
action for such a terminal exactly if another of its items reads it next, is reduced for it, or is
accepted at the end of the input. Between these and the empty literal, what comes next decides: the
empty literal is taken exactly if the next tokens match nothing else that the state has an action
for. -/
theorem Grammar.Loaded.action?_beside_epsilon {grammar : Grammar} (loaded : grammar.Loaded)
    {table : Table} (built : grammar.table = .ok table) (unresolved : table.resolved = [])
    {state : SetIndex} {item : Item} (present : item ∈ grammar.automaton.items state)
    (unread : item.dot = 0) (blank : item.symbols grammar = [.epsilon]) {terminal : Symbol}
    (follows : terminal ∈ grammar.followAt state item.rule) :
    ∃ target, grammar.automaton.target? state .epsilon = some target ∧
      table.action? target terminal = some (.reduce item.rule item.alternative) ∧
      (∀ other ∈ grammar.automaton.items state, other.dot = 0 →
        other.symbols grammar = [.epsilon] → terminal ∈ grammar.followAt state other.rule →
          other = item) ∧
      ((∃ action, table.action? state terminal = some action) ↔
        (∃ other ∈ grammar.automaton.items state, other.next? grammar = some terminal) ∨
        (∃ rule alternative, rule ≠ startRule ∧
          terminal ∈ grammar.lookaheads state rule alternative) ∨
        (terminal = .rule grammar.endRule ∧
          ⟨startRule, 0, 1⟩ ∈ grammar.automaton.items state)) ∧
      ∀ tokens, tokens ≠ [] →
        (table.choose? grammar state tokens = some ⟨.shift target, 0⟩ ↔
          ∀ symbol width, symbol ≠ .epsilon → Takes grammar tokens symbol width →
            table.action? state symbol = none) := by
  have wellFormed := loaded.wellFormed
  have sound := wellFormed.sound_table built
  obtain ⟨rule, alternative, dot⟩ := item
  obtain rfl : dot = 0 := unread
  obtain ⟨target, edge, shifts, reduces⟩ :=
    wellFormed.exists_epsilon_target built unresolved present blank
  refine ⟨target, edge, reduces terminal follows, ?_, ?_, ?_⟩
  · rintro ⟨otherRule, otherAlternative, otherDot⟩ otherPresent rfl otherBlank otherFollows
    obtain ⟨_, otherEdge, -, otherReduces⟩ :=
      wellFormed.exists_epsilon_target built unresolved otherPresent otherBlank
    obtain rfl := Option.some.inj (edge.symm.trans otherEdge)
    cases (reduces terminal follows).symm.trans (otherReduces terminal otherFollows)
    rfl
  · exact wellFormed.exists_action?_iff built unresolved
      (wellFormed.isTerminal_of_mem_followAt present follows)
  · intro tokens nonempty
    refine sound.choose?_eq_iff_of_epsilon wellFormed shifts (fun symbol same => ?_) nonempty
    exact wellFormed.eq_of_target? (sound.shift same).2 edge

/-! ### A rival -/

namespace Grammar

/-- The text of a grammar in which the same letter may come behind an empty rule or without it. -/
def rivalText : String := "<pair> ::= <lead> \"b\" \"c\" | \"b\" \"d\"\n<lead> ::= \"\""

/-- What is loaded from that text over the classes that every lexer has. -/
def rival : Grammar where
  rules := [⟨startName, .start, [[.rule 1]]⟩,
    ⟨"pair", .declared, [[.rule 2, .terminal 1, .terminal 2], [.terminal 1, .terminal 3]]⟩,
    ⟨"lead", .declared, [[.terminal 0]]⟩,
    ⟨"Token-EOL", .tokenClass lineBreakClass, []⟩, ⟨"Token-EOF", .tokenClass endClass, []⟩]
  terminals := ["", "b", "c", "d"]
  classes := ["EOL", "EOF"]

theorem rival_loaded : rival.Loaded := by
  have read : (ofText Lexer.initial rivalText).toOption = some rival := by decide +kernel
  exact ⟨Lexer.initial, .initial, rivalText, eq_ok_of_toOption read⟩

/-- The table of that grammar. -/
def rivalTable : Table where
  rows := [
    ⟨[(.terminal 0, .shift 1), (.terminal 1, .shift 2)], [(1, 3), (2, 4)]⟩,
    ⟨[(.terminal 1, .reduce 2 0)], []⟩,
    ⟨[(.terminal 3, .shift 5)], []⟩,
    ⟨[(.rule 4, .accept)], []⟩,
    ⟨[(.terminal 1, .shift 6)], []⟩,
    ⟨[(.rule 4, .reduce 1 1)], []⟩,
    ⟨[(.terminal 2, .shift 7)], []⟩,
    ⟨[(.rule 4, .reduce 1 0)], []⟩]
  resolved := []

theorem table_rival : rival.table = .ok rivalTable := eq_ok_of_toOption (by decide +kernel)

/-- A state may have an action for what follows an empty alternative that it may start. -/
theorem not_forall_action?_eq_none :
    ¬ ∀ (grammar : Grammar) (table : Table), grammar.Loaded → grammar.table = .ok table →
      table.resolved = [] → ∀ state, ∀ item ∈ grammar.automaton.items state, item.dot = 0 →
        item.symbols grammar = [.epsilon] →
          ∀ terminal ∈ grammar.followAt state item.rule, table.action? state terminal = none := by
  intro absent
  have starts : ⟨2, 0, 0⟩ ∈ rival.automaton.items startSet := by decide +kernel
  have follows : .terminal 1 ∈ rival.followAt startSet 2 := by decide +kernel
  have free := absent rival rivalTable rival_loaded table_rival rfl startSet _ starts rfl rfl _
    follows
  cases free

/-- Before the letter, the empty rule could be reduced, but it is not even started. -/
theorem action?_beside_rival : rivalTable.action? 1 (.terminal 1) = some (.reduce 2 0) ∧
    rivalTable.choose? rival startSet [⟨"b", lineBreakClass, 0, 1⟩] ≠ some ⟨.shift 1, 0⟩ := by
  have starts : ⟨2, 0, 0⟩ ∈ rival.automaton.items startSet := by decide +kernel
  have follows : .terminal 1 ∈ rival.followAt startSet 2 := by decide +kernel
  obtain ⟨target, edge, reduces, -, -, decided⟩ :=
    rival_loaded.action?_beside_epsilon table_rival rfl starts rfl rfl follows
  have found : rival.automaton.target? startSet .epsilon = some 1 := by decide +kernel
  obtain rfl := Option.some.inj (edge.symm.trans found)
  refine ⟨reduces, fun chosen => ?_⟩
  have free := (decided _ (List.cons_ne_nil _ _)).mp chosen (.terminal 1) 1
    (Symbol.literal_ne_epsilon 0) (.literal rfl)
  cases free

end Grammar

end ShiftReduce
