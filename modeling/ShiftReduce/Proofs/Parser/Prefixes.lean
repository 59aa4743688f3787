import ShiftReduce.Proofs.Parser.Completeness
import ShiftReduce.Proofs.Parser.EmptyLiteral

/-!
# Moves on what is read

While the same terminal is next, a parse only changes what it has read: it puts rules behind it that
come to nothing, and gives alternatives at its end for their rules. A table that leaves no choice
open determines these moves, so they cannot both go on forever and come to an end. They do end
wherever the terminal may come next at all: it is shifted at last, or the input is accepted.

## Main definitions

* `Table.Moves` — what becomes of the symbols that are read while a terminal is next
* `Table.Halts` — symbols from which these moves come to an end

## Main results

* `Table.Decisive.moves_eq` — moves are determined
* `Table.Decisive.moves_of_vanishes` — symbols that come to nothing are put behind those read
* `Table.Decisive.halts_of_starts`, `Table.Decisive.halts_of_chain` — moves come to an end in front
  of a terminal that may come next
-/

namespace ShiftReduce

/-- What becomes of the symbols that are read while a terminal is next: a rule with an empty
alternative that the terminal follows is put behind them, or an alternative at their end gives way
to its rule. -/
inductive Table.Moves (grammar : Grammar) (table : Table) (terminal : Symbol) :
    List Symbol → List Symbol → Prop
  | blank {symbols : List Symbol} {set : SetIndex} {rule : RuleIndex} {alternative : Nat} :
      grammar.automaton.reach? startSet symbols = some set →
      ⟨rule, alternative, 0⟩ ∈ grammar.automaton.items set →
      grammar.alternative rule alternative = [.epsilon] → terminal ∈ grammar.followAt set rule →
      Moves grammar table terminal symbols (symbols ++ [.rule rule])
  | reduce {symbols front : List Symbol} {set : SetIndex} {rule : RuleIndex} {alternative : Nat} :
      symbols = front ++ grammar.alternative rule alternative →
      grammar.automaton.reach? startSet symbols = some set →
      table.action? set terminal = some (.reduce rule alternative) →
      Moves grammar table terminal symbols (front ++ [.rule rule])

/-- The moves from some symbols come to an end. -/
def Table.Halts (grammar : Grammar) (table : Table) (terminal : Symbol) (symbols : List Symbol) :
    Prop :=
  Acc (fun next symbols => table.Moves grammar terminal symbols next) symbols

/-! ### What follows, and where the input is accepted -/

namespace Grammar.WellFormed

variable {grammar : Grammar} (wellFormed : grammar.WellFormed) {terminal : Symbol}
include wellFormed

theorem mem_followAt_of_chain {rule : RuleIndex} {before after : List Symbol} {set : SetIndex}
    (chain : grammar.Chain rule before after)
    (reached : grammar.automaton.reach? startSet before = some set)
    (starts : grammar.Starts (after ++ [.rule grammar.endRule]) terminal) :
    terminal ∈ grammar.followAt set rule := by
  rw [followAt_eq]
  exact wellFormed.mem_follow_of_chain chain reached starts

theorem mem_followAt_of_mem_alternative {source middle : SetIndex} {rule next : RuleIndex}
    {alternative : Nat} {left right : List Symbol}
    (starts : ⟨rule, alternative, 0⟩ ∈ grammar.automaton.items source)
    (symbols : grammar.alternative rule alternative = left ++ .rule next :: right)
    (along : grammar.automaton.reach? source left = some middle)
    (behind : grammar.Starts right terminal ∨
      (grammar.Vanishes right ∧ terminal ∈ grammar.followAt source rule)) :
    terminal ∈ grammar.followAt middle next := by
  rw [followAt_eq] at behind ⊢
  exact wellFormed.mem_follow_of_mem_alternative starts symbols along behind

/-- No production leads to the start rule. -/
theorem eq_nil_of_chain_startRule {before after : List Symbol}
    (chain : grammar.Chain startRule before after) : before = [] ∧ after = [] := by
  generalize isStart : startRule = rule at chain
  cases chain with
  | start => exact ⟨rfl, rfl⟩
  | next _ listed =>
    obtain ⟨positive, -⟩ := wellFormed.inRange listed (List.mem_append_right _ List.mem_cons_self)
    rw [← isStart] at positive
    exact absurd positive (Nat.lt_irrefl 0)

/-- Nothing is read in front of the first state. -/
theorem eq_nil_of_reach?_startSet {symbols : List Symbol}
    (reached : grammar.automaton.reach? startSet symbols = some startSet) : symbols = [] := by
  rcases List.eq_nil_or_concat symbols with rfl | ⟨rest, symbol, rfl⟩
  · rfl
  · rw [List.concat_eq_append] at reached
    obtain ⟨middle, -, edge⟩ := Automaton.reach?_append_eq_some.mp reached
    rw [Automaton.reach?_singleton] at edge
    exact absurd edge wellFormed.target?_ne_startSet

/-- Where the first declared rule has been read, the input is accepted. -/
theorem exists_reach?_first : ∃ set, grammar.automaton.reach? startSet [.rule 1] = some set ∧
    ⟨startRule, 0, 1⟩ ∈ grammar.automaton.items set := by
  have read : Item.next? grammar ⟨startRule, 0, 0⟩ = some (.rule 1) := by
    rw [Item.next?, wellFormed.symbols_startRule]
    rfl
  have starts := wellFormed.startItem_mem_items
  obtain ⟨target, edge⟩ := wellFormed.target?_isSome_iff.mpr ⟨_, starts, read⟩
  refine ⟨target, ?_, wellFormed.advance_mem_items edge starts read⟩
  rw [Automaton.reach?_singleton, edge]

/-- Where the input is accepted, the first declared rule is all that is read. -/
theorem eq_of_reach?_accepts {symbols : List Symbol} {set : SetIndex}
    (reached : grammar.automaton.reach? startSet symbols = some set)
    (complete : ⟨startRule, 0, 1⟩ ∈ grammar.automaton.items set) : symbols = [.rule 1] := by
  rcases List.eq_nil_or_concat symbols with rfl | ⟨rest, symbol, rfl⟩
  · obtain rfl := Option.some.inj reached
    exact absurd (wellFormed.dot_eq_zero_of_mem_startSet complete) Nat.one_ne_zero
  · rw [List.concat_eq_append] at reached ⊢
    obtain ⟨middle, earlier, edge⟩ := Automaton.reach?_append_eq_some.mp reached
    rw [Automaton.reach?_singleton] at edge
    obtain ⟨rfl, rfl⟩ := wellFormed.eq_of_accepts edge complete
    rw [wellFormed.eq_nil_of_reach?_startSet earlier, List.nil_append]

end Grammar.WellFormed

/-! ### Moves -/

namespace Table.Decisive

variable {grammar : Grammar} {table : Table} (decisive : table.Decisive grammar)
  (wellFormed : grammar.WellFormed) (built : grammar.table = .ok table) {terminal : Symbol}
include decisive wellFormed built

/-- Moves are determined by what is read. -/
theorem moves_eq {symbols left right : List Symbol}
    (toLeft : table.Moves grammar terminal symbols left)
    (toRight : table.Moves grammar terminal symbols right) : left = right := by
  cases toLeft with
  | @blank set rule alternative reached starts blank follows =>
    obtain ⟨target, edge, -, reduces⟩ :=
      wellFormed.exists_epsilon_target built decisive.resolved starts blank
    cases toRight with
    | @blank other otherRule _ otherReached otherStarts otherBlank otherFollows =>
      obtain rfl := Option.some.inj (reached.symm.trans otherReached)
      obtain ⟨_, otherEdge, -, otherReduces⟩ :=
        wellFormed.exists_epsilon_target built decisive.resolved otherStarts otherBlank
      obtain rfl := Option.some.inj (edge.symm.trans otherEdge)
      cases (reduces _ follows).symm.trans (otherReduces _ otherFollows)
      rfl
    | reduce _ otherReached otherPresent =>
      obtain rfl := Option.some.inj (reached.symm.trans otherReached)
      cases (decisive.free _ _ starts rfl blank _ follows).symm.trans otherPresent
  | reduce same reached present =>
    cases toRight with
    | blank otherReached starts blank follows =>
      obtain rfl := Option.some.inj (reached.symm.trans otherReached)
      cases (decisive.free _ _ starts rfl blank _ follows).symm.trans present
    | reduce otherSame otherReached otherPresent =>
      obtain rfl := Option.some.inj (reached.symm.trans otherReached)
      cases present.symm.trans otherPresent
      rw [List.append_cancel_right (same.symm.trans otherSame)]

omit wellFormed built in
/-- There are no moves where the terminal is shifted or the input accepted. -/
theorem not_moves_of_action? {symbols next : List Symbol} {set : SetIndex} {action : Action}
    (reached : grammar.automaton.reach? startSet symbols = some set)
    (present : table.action? set terminal = some action)
    (stays : ∀ rule alternative, action ≠ .reduce rule alternative) :
    ¬ table.Moves grammar terminal symbols next := by
  intro move
  cases move with
  | blank otherReached starts blank follows =>
    obtain rfl := Option.some.inj (reached.symm.trans otherReached)
    cases (decisive.free _ _ starts rfl blank _ follows).symm.trans present
  | @reduce _ _ rule alternative _ otherReached otherPresent =>
    obtain rfl := Option.some.inj (reached.symm.trans otherReached)
    exact absurd (Option.some.inj (present.symm.trans otherPresent)) (stays rule alternative)

omit wellFormed built in
theorem halts_of_action? {symbols : List Symbol} {set : SetIndex} {action : Action}
    (reached : grammar.automaton.reach? startSet symbols = some set)
    (present : table.action? set terminal = some action)
    (stays : ∀ rule alternative, action ≠ .reduce rule alternative) :
    table.Halts grammar terminal symbols :=
  Acc.intro _ fun _ move => absurd move (decisive.not_moves_of_action? reached present stays)

/-- Moves come to an end if they do after some of them. -/
theorem halts_of_moves {symbols others : List Symbol}
    (moves : Relation.ReflTransGen (table.Moves grammar terminal) symbols others)
    (halts : table.Halts grammar terminal others) : table.Halts grammar terminal symbols := by
  induction moves using Relation.ReflTransGen.head_induction_on with
  | refl => exact halts
  | head move _ ih =>
    refine Acc.intro _ fun next other => ?_
    rwa [decisive.moves_eq wellFormed built other move]

/-- An alternative at the end of what is read gives way to its rule in front of what follows, unless
it is all that is read and the input is accepted instead. -/
theorem accepts_or_moves {front : List Symbol} {source set : SetIndex} {rule : RuleIndex}
    {alternative : Nat} (reached : grammar.automaton.reach? startSet front = some source)
    (starts : ⟨rule, alternative, 0⟩ ∈ grammar.automaton.items source)
    (along : grammar.automaton.reach? source (grammar.alternative rule alternative) = some set)
    (differs : rule ≠ Grammar.startRule) (follows : terminal ∈ grammar.followAt source rule) :
    (front = [] ∧ grammar.alternative rule alternative = [.rule 1] ∧
        terminal = .rule grammar.endRule ∧ table.action? set terminal = some .accept) ∨
      table.Moves grammar terminal (front ++ grammar.alternative rule alternative)
        (front ++ [.rule rule]) := by
  have whole := Automaton.reach?_append_eq_some.mpr ⟨source, reached, along⟩
  rw [Grammar.followAt_eq] at follows
  have lookahead := wellFormed.mem_lookaheads_iff.mpr ⟨source, starts, along, follows⟩
  rcases wellFormed.action?_of_lookahead built decisive.resolved differs lookahead with
    reduces | accepts
  · exact .inr (.reduce rfl whole reduces)
  · obtain ⟨isEnd, complete⟩ := (wellFormed.sound_table built).accept accepts
    have read := wellFormed.eq_of_reach?_accepts whole complete
    have nonempty := wellFormed.symbols_ne_nil (wellFormed.symbols_mem_alternatives starts)
    obtain ⟨rfl, isFirst⟩ | ⟨-, empty⟩ := List.append_eq_singleton_iff.mp read
    · exact .inl ⟨rfl, isFirst, isEnd, accepts⟩
    · exact absurd empty nonempty

/-- An alternative at the end of what is read gives way to its rule, if something is read before it
or more comes next. -/
theorem moves_rule {front : List Symbol} {set : SetIndex} {rule : RuleIndex} {alternative : Nat}
    (reached : grammar.automaton.reach? startSet front = some set)
    (starts : ⟨rule, alternative, 0⟩ ∈ grammar.automaton.items set)
    (differs : rule ≠ Grammar.startRule) (follows : terminal ∈ grammar.followAt set rule)
    (inner : front ≠ [] ∨ terminal ≠ .rule grammar.endRule) :
    table.Moves grammar terminal (front ++ grammar.alternative rule alternative)
      (front ++ [.rule rule]) := by
  obtain ⟨last, onward⟩ := wellFormed.exists_reach?_symbols starts
  rcases decisive.accepts_or_moves wellFormed built reached starts onward differs follows with
    ⟨empty, -, isEnd, -⟩ | move
  · exact absurd isEnd (inner.resolve_left (not_not.mpr empty))
  · exact move

/-- Symbols of an alternative that come to nothing are put behind what is read, in front of what may
come behind them. The input is not accepted in between, if something is read or more comes next. -/
theorem moves_of_vanishes {symbols : List Symbol} (vanishes : grammar.Vanishes symbols)
    {front read rest : List Symbol} {source set : SetIndex} {rule : RuleIndex} {alternative : Nat}
    (reached : grammar.automaton.reach? startSet front = some source)
    (starts : ⟨rule, alternative, 0⟩ ∈ grammar.automaton.items source)
    (same : grammar.alternative rule alternative = read ++ (symbols ++ rest))
    (along : grammar.automaton.reach? source read = some set) (visible : .epsilon ∉ symbols)
    (behind : grammar.Starts rest terminal ∨
      (grammar.Vanishes rest ∧ terminal ∈ grammar.followAt source rule))
    (inner : front ++ read ≠ [] ∨ terminal ≠ .rule grammar.endRule) :
    Relation.ReflTransGen (table.Moves grammar terminal) (front ++ read)
      (front ++ read ++ symbols) := by
  induction vanishes generalizing front read rest source set rule alternative with
  | nil => rw [List.append_nil]
  | epsilon => exact absurd List.mem_cons_self visible
  | @rule next inside later listed vanishes laterVanishes insideIh laterIh =>
    have whole : grammar.alternative rule alternative =
        read ++ .rule next :: (later ++ rest) := same
    have here := Automaton.reach?_append_eq_some.mpr ⟨source, reached, along⟩
    have reads := wellFormed.reads_of_reach? starts whole along
    obtain ⟨target, edge, -⟩ := wellFormed.reads_cons reads
    obtain ⟨place, opens, isPlace⟩ := Grammar.WellFormed.startingItem_of_reads reads listed
    have follows : terminal ∈ grammar.followAt set next := by
      refine wellFormed.mem_followAt_of_mem_alternative starts whole along ?_
      rcases behind with begins | ⟨restVanishes, follows⟩
      · exact .inl (.append_right laterVanishes begins)
      · exact .inr ⟨laterVanishes.append restVanishes, follows⟩
    -- The first rule is put there at once, or its alternative is, which then gives way to it.
    have first : Relation.ReflTransGen (table.Moves grammar terminal) (front ++ read)
        (front ++ read ++ [.rule next]) := by
      by_cases blank : .epsilon ∈ inside
      · obtain rfl := decisive.eq_of_epsilon_mem listed blank
        exact .single (.blank here opens isPlace follows)
      · have all : grammar.alternative next place = [] ++ (inside ++ []) := by simp [isPlace]
        have done := insideIh here opens all rfl blank (.inr ⟨.nil, follows⟩) (by simpa using inner)
        have differs : next ≠ Grammar.startRule := by
          rintro rfl
          exact Nat.lt_irrefl 0 (wellFormed.inRange_of_target? edge).1
        have move := decisive.moves_rule wellFormed built here opens differs follows inner
        rw [isPlace] at move
        rw [List.append_nil] at done
        exact done.tail move
    have further : grammar.alternative rule alternative =
        (read ++ [.rule next]) ++ (later ++ rest) := by
      rw [whole, List.append_cons]
    have others := laterIh reached starts further (Automaton.reach?_concat along edge)
      (fun occurs => visible (List.mem_cons_of_mem _ occurs)) behind (.inl (by simp))
    rw [← List.append_assoc] at others
    rw [List.append_cons]
    exact first.trans others

/-- The rest of an alternative is put behind what is read of it, if it comes to nothing. -/
theorem moves_of_rest {front read symbols : List Symbol} (vanishes : grammar.Vanishes symbols)
    {source set : SetIndex} {rule : RuleIndex} {alternative : Nat}
    (reached : grammar.automaton.reach? startSet front = some source)
    (starts : ⟨rule, alternative, 0⟩ ∈ grammar.automaton.items source)
    (same : grammar.alternative rule alternative = read ++ symbols)
    (along : grammar.automaton.reach? source read = some set) (visible : .epsilon ∉ symbols)
    (follows : terminal ∈ grammar.followAt source rule)
    (inner : front ++ read ≠ [] ∨ terminal ≠ .rule grammar.endRule) :
    Relation.ReflTransGen (table.Moves grammar terminal) (front ++ read)
      (front ++ grammar.alternative rule alternative) := by
  have whole : grammar.alternative rule alternative = read ++ (symbols ++ []) := by
    rw [same, List.append_nil]
  have moves := decisive.moves_of_vanishes wellFormed built vanishes reached starts whole along
    visible (.inr ⟨.nil, follows⟩) inner
  rwa [List.append_assoc, ← same] at moves

omit wellFormed built in
/-- There is no empty literal beside a rule. -/
theorem visible_of_rule_mem {rule next : RuleIndex} {symbols : List Symbol}
    (listed : symbols ∈ grammar.alternatives rule) (occurs : .rule next ∈ symbols) :
    .epsilon ∉ symbols := by
  intro blank
  rw [decisive.eq_of_epsilon_mem listed blank, List.mem_singleton] at occurs
  cases occurs

omit wellFormed built in
/-- There is no empty literal behind another symbol. -/
theorem visible_of_cons {rule : RuleIndex} {symbol : Symbol} {symbols : List Symbol}
    (listed : symbol :: symbols ∈ grammar.alternatives rule) : .epsilon ∉ symbols := by
  intro blank
  have alone := decisive.eq_of_epsilon_mem listed (List.mem_cons_of_mem symbol blank)
  rw [(List.cons.inj alone).2] at blank
  cases blank

omit built in
/-- What the rest of an alternative starts with is not the end of the input, and there is no empty
literal in the alternative. -/
theorem visible_of_starts {source : SetIndex} {rule : RuleIndex} {alternative : Nat}
    {read symbols : List Symbol}
    (starts : ⟨rule, alternative, 0⟩ ∈ grammar.automaton.items source)
    (same : grammar.alternative rule alternative = read ++ symbols)
    (begins : grammar.Starts symbols terminal) :
    terminal ≠ .rule grammar.endRule ∧ .epsilon ∉ read ++ symbols := by
  have listed := wellFormed.symbols_mem_alternatives starts
  rw [Item.symbols, same] at listed
  constructor
  · rintro rfl
    refine decisive.unused (begins.mem_or_mem_used.elim (fun occurs => ?_) id)
    exact Grammar.mem_used_iff.mpr ⟨_, _, listed, List.mem_append_right _ occurs⟩
  · intro blank
    have alone := decisive.eq_of_epsilon_mem listed blank
    obtain ⟨-, rfl⟩ | ⟨-, rfl⟩ := List.append_eq_singleton_iff.mp alone
    · cases begins with
      | terminal _ visible => exact visible rfl
      | skip _ later => cases later
    · cases begins

/-- Moves come to an end in front of a terminal that the rest of an alternative starts with. -/
theorem halts_of_starts {symbols : List Symbol} (begins : grammar.Starts symbols terminal)
    {front read : List Symbol} {source set : SetIndex} {rule : RuleIndex} {alternative : Nat}
    (reached : grammar.automaton.reach? startSet front = some source)
    (starts : ⟨rule, alternative, 0⟩ ∈ grammar.automaton.items source)
    (same : grammar.alternative rule alternative = read ++ symbols)
    (along : grammar.automaton.reach? source read = some set) :
    table.Halts grammar terminal (front ++ read) := by
  induction begins generalizing front read source set rule alternative with
  | @terminal terminal rest consumes visible =>
    obtain ⟨target, edge, -⟩ :=
      wellFormed.reads_cons (wellFormed.reads_of_reach? starts same along)
    have inner := (decisive.visible_of_starts wellFormed starts same (.terminal consumes visible)).1
    have shifts := wellFormed.action?_of_target? built consumes edge inner
    exact decisive.halts_of_action? (Automaton.reach?_append_eq_some.mpr ⟨source, reached, along⟩)
      shifts fun _ _ => Action.noConfusion
  | @skip symbol terminal rest vanishes begins ih =>
    obtain ⟨target, edge, -⟩ :=
      wellFormed.reads_cons (wellFormed.reads_of_reach? starts same along)
    obtain ⟨inner, visible⟩ :=
      decisive.visible_of_starts wellFormed starts same (.skip vanishes begins)
    have whole : grammar.alternative rule alternative = (read ++ [symbol]) ++ rest := by
      rw [same, List.append_cons]
    have moves := decisive.moves_of_vanishes wellFormed built vanishes reached starts same along
      (fun occurs => visible (by simp [List.mem_singleton.mp occurs])) (.inl begins) (.inr inner)
    have halts := ih reached starts whole (Automaton.reach?_concat along edge)
    rw [← List.append_assoc] at halts
    exact decisive.halts_of_moves wellFormed built moves halts
  | @expand next terminal symbols rest listed begins ih =>
    have here := Automaton.reach?_append_eq_some.mpr ⟨source, reached, along⟩
    obtain ⟨place, opens, isPlace⟩ := Grammar.WellFormed.startingItem_of_reads
      (wellFormed.reads_of_reach? starts same along) listed
    have whole : grammar.alternative next place = [] ++ symbols := isPlace
    have halts := ih here opens whole rfl
    rwa [List.append_nil] at halts

/-- There are no moves behind the first declared rule at the end of the input. -/
theorem not_moves_first {next : List Symbol} :
    ¬ table.Moves grammar (.rule grammar.endRule) [.rule 1] next := by
  obtain ⟨set, reached, complete⟩ := wellFormed.exists_reach?_first
  exact decisive.not_moves_of_action? reached (wellFormed.action?_endRule built complete)
    fun _ _ => Action.noConfusion

/-- Moves come to an end behind a rule that the one that starts every derivation stands for. -/
theorem halts_of_chain_startRule {next : RuleIndex} {before after left right : List Symbol}
    (chain : grammar.Chain Grammar.startRule before after)
    (listed : left ++ .rule next :: right ∈ grammar.alternatives Grammar.startRule)
    (begins : grammar.Starts (after ++ [.rule grammar.endRule]) terminal) :
    table.Halts grammar terminal (before ++ (left ++ [.rule next])) := by
  obtain ⟨rfl, rfl⟩ := wellFormed.eq_nil_of_chain_startRule chain
  obtain rfl := wellFormed.eq_endRule_of_starts begins
  rw [wellFormed.alternatives_startRule, List.mem_singleton] at listed
  obtain ⟨rfl, only⟩ | ⟨-, impossible⟩ := List.append_eq_singleton_iff.mp listed
  · obtain ⟨first, -⟩ := List.cons.inj only
    rw [first]
    exact Acc.intro _ fun _ move => absurd move (decisive.not_moves_first wellFormed built)
  · cases impossible

/-- Moves come to an end behind a rule, in front of a terminal that comes behind it. -/
theorem halts_of_chain {rule : RuleIndex} {before after : List Symbol}
    (chain : grammar.Chain rule before after) (differs : rule ≠ Grammar.startRule)
    (begins : grammar.Starts (after ++ [.rule grammar.endRule]) terminal) :
    table.Halts grammar terminal (before ++ [.rule rule]) := by
  -- Along the chain backwards: the rest of the alternative starts with the terminal, or it comes to
  -- nothing, and then the alternative gives way to its rule.
  induction chain with
  | start => exact absurd rfl differs
  | @next rule next before after left right chain listed ih =>
    obtain ⟨source, reached⟩ := wellFormed.exists_reach?_of_chain chain
    obtain ⟨alternative, inside, same⟩ := Grammar.exists_alternative_eq listed
    have starts := wellFormed.startingItems_of_chain chain reached (start_mem_startingItems inside)
    obtain ⟨last, onward⟩ := wellFormed.exists_reach?_symbols starts
    have whole : grammar.alternative rule alternative = (left ++ [.rule next]) ++ right := by
      rw [same, List.append_cons]
    obtain ⟨middle, along, -⟩ := Automaton.reach?_append_eq_some.mp (whole ▸ onward)
    rw [List.append_assoc] at begins
    rw [List.append_assoc]
    rcases Grammar.starts_append.mp begins with inRight | ⟨vanishes, behind⟩
    · exact decisive.halts_of_starts wellFormed built inRight reached starts whole along
    have here := Automaton.reach?_append_eq_some.mpr ⟨source, reached, onward⟩
    by_cases isStart : rule = Grammar.startRule
    · subst isStart
      exact decisive.halts_of_chain_startRule wellFormed built chain listed behind
    · have follows := wellFormed.mem_followAt_of_chain chain reached behind
      have visible : .epsilon ∉ right := fun occurs =>
        decisive.visible_of_rule_mem listed (List.mem_append_right left List.mem_cons_self)
          (by simp [occurs])
      have moves := decisive.moves_of_rest wellFormed built vanishes reached starts whole along
        visible follows (.inl (by simp))
      refine decisive.halts_of_moves wellFormed built moves ?_
      rcases decisive.accepts_or_moves wellFormed built reached starts onward isStart follows with
        ⟨-, -, -, accepts⟩ | move
      · exact decisive.halts_of_action? here accepts fun _ _ => Action.noConfusion
      · exact decisive.halts_of_moves wellFormed built (.single move) (ih isStart behind)

end Table.Decisive

end ShiftReduce
