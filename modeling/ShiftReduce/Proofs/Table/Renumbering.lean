import ShiftReduce.Proofs.Automaton.Renumbering
import ShiftReduce.Proofs.Table.Places

/-!
# Tables under other numbers

Where states meet, the places of their rows are those of the same symbols, and the same is done
there. Reductions want a place under other numbers if they did before, so there is a conflict in one
table only if there is one in the other.

## Main definitions

* `Action.Agrees` — actions that do the same

## Main results

* `Grammar.Renumbered.exists_table` — a table is built under other numbers as well
* `Grammar.Renumbered.exists_action?` — what it holds
-/

namespace ShiftReduce

/-- Actions of two states do the same, each in the numbers of its own grammar. -/
inductive Action.Agrees (grammar : Grammar) (numbers : Renumbering) (other : Grammar)
    (set target : SetIndex) : Action → Action → Prop
  | shift {symbol : Symbol} {next last : SetIndex} :
      grammar.automaton.target? set symbol = some next →
      other.automaton.target? target (numbers.symbol symbol) = some last →
      Agrees grammar numbers other set target (.shift next) (.shift last)
  | reduce {rule : RuleIndex} {alternative place : Nat} :
      other.alternative (numbers.rule rule) place =
        (grammar.alternative rule alternative).map numbers.symbol →
      Agrees grammar numbers other set target (.reduce rule alternative)
        (.reduce (numbers.rule rule) place)
  | accept : Agrees grammar numbers other set target .accept .accept

namespace Grammar.Renumbered

variable {grammar other : Grammar} {numbers : Renumbering}

/-- Alternatives in corresponding places have corresponding symbols. -/
theorem alternative_eq {rule next : RuleIndex} {alternative place : Nat}
    (same : (other.alternatives next)[place]? =
      ((grammar.alternatives rule)[alternative]?).map (List.map numbers.symbol)) :
    other.alternative next place = (grammar.alternative rule alternative).map numbers.symbol := by
  rw [Grammar.alternative, same, Grammar.alternative]
  cases (grammar.alternatives rule)[alternative]? <;> rfl

variable (renumbered : grammar.Renumbered numbers other) (wellFormed : grammar.WellFormed)
  (otherFormed : other.WellFormed) {set target : SetIndex} {symbol : Symbol}
  (meets : grammar.Meets numbers other set target)
include renumbered wellFormed otherFormed meets

/-! ### Before any reduction -/

/-- Where the input is accepted, it is accepted under other numbers. -/
theorem accepts (complete : ⟨Grammar.startRule, 0, 1⟩ ∈ grammar.automaton.items set) :
    ⟨Grammar.startRule, 0, 1⟩ ∈ other.automaton.items target := by
  obtain ⟨symbols, reached, otherReached⟩ := meets
  have stands := (Item.valid_iff_stands.mp (wellFormed.valid_of_mem_items reached complete)).2
  have otherStands := renumbered.stands stands
  dsimp only at otherStands
  rw [renumbered.startRule] at otherStands
  obtain ⟨place, -, valid⟩ := otherStands.exists_valid
  obtain ⟨inside, -⟩ := mem_items.mp (Item.valid_iff_stands.mp valid).1
  rw [otherFormed.alternatives_startRule] at inside
  obtain rfl : place = 0 := Nat.lt_one_iff.mp inside
  exact (otherFormed.mem_items_iff_valid otherReached).mpr valid

theorem accepts_iff : (numbers.symbol symbol = .rule other.endRule ∧
      ⟨Grammar.startRule, 0, 1⟩ ∈ other.automaton.items target) ↔
    symbol = .rule grammar.endRule ∧ ⟨Grammar.startRule, 0, 1⟩ ∈ grammar.automaton.items set := by
  rw [renumbered.symbol_eq_endRule_iff wellFormed otherFormed]
  exact and_congr_right fun _ => ⟨renumbered.symm.accepts otherFormed wellFormed meets.symm,
    renumbered.accepts wellFormed otherFormed meets⟩

/-- What a place holds before any reduction, it holds under other numbers. -/
theorem exists_action?_baseTable {action : Action}
    (present : grammar.baseTable.action? set symbol = some action) :
    ∃ last, other.baseTable.action? target (numbers.symbol symbol) = some last ∧
      action.Agrees grammar numbers other set target last := by
  rw [wellFormed.action?_baseTable] at present
  rw [otherFormed.action?_baseTable, renumbered.isTerminal]
  simp only [renumbered.accepts_iff wellFormed otherFormed meets]
  split at present
  · rename_i holds
    obtain rfl := Option.some.inj present
    exact ⟨_, if_pos holds, .accept⟩
  · rename_i declines
    rw [if_neg declines]
    split at present
    · rename_i consumes
      obtain ⟨next, edge, rfl⟩ := Option.map_eq_some_iff.mp present
      obtain ⟨last, otherEdge⟩ := renumbered.exists_target? wellFormed otherFormed meets edge
      rw [if_pos consumes, otherEdge]
      exact ⟨_, rfl, .shift edge otherEdge⟩
    · cases present

/-- A place that is free before any reduction is free under other numbers. -/
theorem free (empty : grammar.baseTable.action? set symbol = none) :
    other.baseTable.action? target (numbers.symbol symbol) = none := by
  rw [Option.eq_none_iff_forall_not_mem]
  intro action present
  obtain ⟨last, before, -⟩ :=
    renumbered.symm.exists_action?_baseTable otherFormed wellFormed meets.symm present
  rw [numbers.symm_symbol, empty] at before
  cases before

/-! ### Reductions -/

/-- A reduction that wants a place wants it under other numbers. -/
theorem reduces {rule : RuleIndex} {alternative place : Nat}
    (wants : grammar.Reduces set symbol rule alternative)
    (same : (other.alternatives (numbers.rule rule))[place]? =
      ((grammar.alternatives rule)[alternative]?).map (List.map numbers.symbol)) :
    other.Reduces target (numbers.symbol symbol) (numbers.rule rule) place := by
  obtain ⟨differs, listed, before, after, chain, reached, starts⟩ :=
    wellFormed.reduces_iff_chain.mp wants
  have otherListed : place < (other.alternatives (numbers.rule rule)).length := by
    rw [List.getElem?_eq_getElem listed] at same
    exact (List.getElem?_eq_some_iff.mp same).1
  have otherReached := renumbered.reach?_eq_some wellFormed otherFormed meets reached
  rw [List.map_append, ← alternative_eq same] at otherReached
  have otherStarts := renumbered.starts starts
  rw [List.map_append, List.map_singleton, numbers.symbol_rule,
    renumbered.endRule wellFormed otherFormed] at otherStarts
  refine otherFormed.reduces_iff_chain.mpr ⟨fun isStart => differs ?_, otherListed, _, _,
    renumbered.chain chain, otherReached, otherStarts⟩
  exact numbers.rule.injective (isStart.trans renumbered.startRule.symm)

/-- What a table holds, one that is built under other numbers holds as well. -/
theorem exists_action? {table otherTable : Table} (built : grammar.table = .ok table)
    (otherBuilt : other.table = .ok otherTable) {action : Action}
    (present : table.action? set symbol = some action) :
    ∃ last, otherTable.action? target (numbers.symbol symbol) = some last ∧
      action.Agrees grammar numbers other set target last := by
  rcases (wellFormed.action?_eq_some_iff built).mp present with
    before | ⟨empty, rule, alternative, rfl, wants⟩
  · obtain ⟨last, otherBefore, same⟩ :=
      renumbered.exists_action?_baseTable wellFormed otherFormed meets before
    exact ⟨last, (otherFormed.action?_eq_some_iff otherBuilt).mpr (.inl otherBefore), same⟩
  · obtain ⟨places, same⟩ := renumbered.exists_places rule
    have otherEmpty := renumbered.free wellFormed otherFormed meets empty
    have otherWants := renumbered.reduces wellFormed otherFormed meets wants (same alternative)
    exact ⟨_, (otherFormed.action?_eq_some_iff otherBuilt).mpr
      (.inr ⟨otherEmpty, _, _, rfl, otherWants⟩), .reduce (alternative_eq (same alternative))⟩

omit meets in
/-- A table is built under other numbers if it was before. -/
theorem exists_table (built : ∃ table, grammar.table = .ok table) :
    ∃ table, other.table = .ok table := by
  rw [otherFormed.exists_table_iff]
  rw [wellFormed.exists_table_iff] at built
  intro target lookahead empty rule alternative next place left right
  have inside := Automaton.lt_length_of_mem_items (otherFormed.mem_items_of_mem_lookaheads left.2)
  obtain ⟨set, meets⟩ := renumbered.symm.exists_meets otherFormed wellFormed inside
  have back := renumbered.symm.free otherFormed wellFormed meets empty
  obtain ⟨places, same⟩ := renumbered.symm.exists_places rule
  obtain ⟨nextPlaces, nextSame⟩ := renumbered.symm.exists_places next
  have leftBack := renumbered.symm.reduces otherFormed wellFormed meets left (same alternative)
  have rightBack := renumbered.symm.reduces otherFormed wellFormed meets right (nextSame place)
  obtain ⟨sameRule, -⟩ := built set _ back _ _ _ _ leftBack rightBack
  obtain rfl := numbers.symm.rule.injective sameRule
  have rightBack := renumbered.symm.reduces otherFormed wellFormed meets right (same place)
  obtain ⟨-, samePlace⟩ := built set _ back _ _ _ _ leftBack rightBack
  exact ⟨rfl, places.injective samePlace⟩

end Grammar.Renumbered

end ShiftReduce
