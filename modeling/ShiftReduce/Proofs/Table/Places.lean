import ShiftReduce.Proofs.Table.Contents

/-!
# Places for reductions

A place of a table is open to reductions unless a shift or an acceptance is there, and entering
reductions leaves it open or closed. All reductions can be entered if no two of them want one open
place, and then those that want an open place have it. So what a table holds, and whether it is
built, does not depend on the order in which reductions are entered.

## Main definitions

* `Table.IsOpen` — places where no shift and no acceptance is
* `Grammar.Reduces` — the reductions that want a place

## Main results

* `Grammar.WellFormed.action?_eq_some_iff` — what a table that is built holds
* `Grammar.WellFormed.exists_table_iff` — when a table is built
-/

namespace ShiftReduce

namespace Table

variable {grammar : Grammar} {table after : Table} {candidate : Candidate}

/-- Nothing but a reduction is in a place. -/
def IsOpen (table : Table) (state : SetIndex) (lookahead : Symbol) : Prop :=
  ∀ action, table.action? state lookahead = some action →
    ∃ rule alternative, action = .reduce rule alternative

theorem isOpen_of_none {state : SetIndex} {lookahead : Symbol}
    (free : table.action? state lookahead = none) : table.IsOpen state lookahead := by
  intro action present
  cases free.symm.trans present

/-! ### One reduction -/

/-- Entering a reduction leaves every place open or closed. -/
theorem Sound.isOpen_of_enter (sound : table.Sound grammar) (known : candidate.Known grammar)
    (entered : table.enter grammar candidate = .ok after) {state : SetIndex} {lookahead : Symbol} :
    after.IsOpen state lookahead ↔ table.IsOpen state lookahead := by
  obtain ⟨free, rfl⟩ | ⟨_, -, rfl⟩ | ⟨-, rfl⟩ | ⟨-, rfl⟩ := enter_cases entered
  · have inside : candidate.state < table.rows.length := sound.length_eq ▸ known.inside
    unfold IsOpen
    rw [action?_put inside]
    split
    · rename_i place
      obtain ⟨rfl, rfl⟩ := place
      simp [free]
    · rfl
  · rfl
  · rfl
  · rfl

/-- A reduction that wants an open place has it once it is entered. -/
theorem Sound.action?_of_isOpen_enter (sound : table.Sound grammar)
    (known : candidate.Known grammar) (entered : table.enter grammar candidate = .ok after)
    (isOpen : table.IsOpen candidate.state candidate.lookahead) :
    after.action? candidate.state candidate.lookahead =
      some (.reduce candidate.rule candidate.alternative) := by
  obtain ⟨free, rfl⟩ | ⟨target, shifting, rfl⟩ | ⟨accepting, rfl⟩ | ⟨reducing, rfl⟩ :=
    enter_cases entered
  · rw [action?_put (sound.length_eq ▸ known.inside), if_pos ⟨rfl, rfl⟩]
  · obtain ⟨_, _, same⟩ := isOpen _ shifting
    cases same
  · obtain ⟨_, _, same⟩ := isOpen _ accepting
    cases same
  · exact reducing

/-- A reduction is entered unless a different one is in its place. -/
theorem exists_enter (only : ∀ rule alternative,
      table.action? candidate.state candidate.lookahead = some (.reduce rule alternative) →
        rule = candidate.rule ∧ alternative = candidate.alternative) :
    ∃ after, table.enter grammar candidate = .ok after := by
  unfold enter
  dsimp only
  split
  · exact ⟨_, rfl⟩
  · exact ⟨_, rfl⟩
  · exact ⟨_, rfl⟩
  · rename_i rule alternative reducing
    obtain ⟨rfl, rfl⟩ := only rule alternative reducing
    exact ⟨_, if_pos rfl⟩

/-! ### All reductions -/

/-- Reductions that want open places have them once all are entered. -/
theorem Sound.action?_of_isOpen (sound : table.Sound grammar) {candidates : List Candidate}
    (known : ∀ candidate ∈ candidates, candidate.Known grammar)
    (entered : table.enterAll grammar candidates = (after, none)) (listed : candidate ∈ candidates)
    (isOpen : table.IsOpen candidate.state candidate.lookahead) :
    after.action? candidate.state candidate.lookahead =
      some (.reduce candidate.rule candidate.alternative) := by
  induction candidates generalizing table with
  | nil => cases listed
  | cons first rest ih =>
    rw [List.forall_mem_cons] at known
    unfold enterAll at entered
    split at entered
    · rename_i middle entering
      have soundMiddle := sound.enter known.1 entering
      rcases List.mem_cons.mp listed with rfl | later
      · exact soundMiddle.action?_of_enterAll known.2 entered
          (sound.action?_of_isOpen_enter known.1 entering isOpen)
      · exact ih soundMiddle known.2 entered later
          ((sound.isOpen_of_enter known.1 entering).mpr isOpen)
    · cases congrArg Prod.snd entered

/-- All of some reductions are entered if every open place that one of them wants is wanted by no
other, and no other reduction is there. -/
theorem Sound.exists_enterAll (sound : table.Sound grammar) {candidates : List Candidate}
    (known : ∀ candidate ∈ candidates, candidate.Known grammar)
    (alone : ∀ left ∈ candidates, ∀ right ∈ candidates, left.state = right.state →
      left.lookahead = right.lookahead → table.IsOpen left.state left.lookahead → left = right)
    (only : ∀ candidate ∈ candidates, ∀ rule alternative,
      table.action? candidate.state candidate.lookahead = some (.reduce rule alternative) →
        rule = candidate.rule ∧ alternative = candidate.alternative) :
    ∃ after, table.enterAll grammar candidates = (after, none) := by
  induction candidates generalizing table with
  | nil => exact ⟨table, rfl⟩
  | cons first rest ih =>
    rw [List.forall_mem_cons] at known only
    obtain ⟨middle, entering⟩ := exists_enter only.1
    have inside : first.state < table.rows.length := sound.length_eq ▸ known.1.inside
    rw [enterAll, entering]
    refine ih (sound.enter known.1 entering) known.2 ?_ ?_
    · intro left inLeft right inRight state lookahead isOpen
      exact alone left (List.mem_cons_of_mem _ inLeft) right (List.mem_cons_of_mem _ inRight) state
        lookahead ((sound.isOpen_of_enter known.1 entering).mp isOpen)
    · intro candidate listed rule alternative reducing
      obtain ⟨free, rfl⟩ | ⟨_, -, rfl⟩ | ⟨-, rfl⟩ | ⟨-, rfl⟩ := enter_cases entering
      · rw [action?_put inside] at reducing
        split at reducing
        · rename_i place
          cases reducing
          obtain rfl := alone first List.mem_cons_self candidate (List.mem_cons_of_mem _ listed)
            place.1.symm place.2.symm (isOpen_of_none free)
          exact ⟨rfl, rfl⟩
        · exact only.2 candidate listed rule alternative reducing
      · exact only.2 candidate listed rule alternative reducing
      · exact only.2 candidate listed rule alternative reducing
      · exact only.2 candidate listed rule alternative reducing

end Table

namespace Grammar

/-- A reduction wants a place in the table: its alternative is read in the state, with the terminal
among its lookaheads there. -/
def Reduces (grammar : Grammar) (state : SetIndex) (lookahead : Symbol) (rule : RuleIndex)
    (alternative : Nat) : Prop :=
  rule ≠ startRule ∧ lookahead ∈ grammar.lookaheads state rule alternative

namespace WellFormed

variable {grammar : Grammar} (wellFormed : grammar.WellFormed) {table : Table} {state : SetIndex}
  {lookahead : Symbol}
include wellFormed

theorem mem_candidates_iff_reduces {rule : RuleIndex} {alternative : Nat} :
    ⟨state, lookahead, rule, alternative⟩ ∈ candidates grammar grammar.buildTables.paths
      grammar.buildTables.lookahead grammar.automaton.sets.length ↔
        grammar.Reduces state lookahead rule alternative := by
  rw [mem_candidates_iff]
  constructor
  · rintro ⟨-, -, known⟩
    exact ⟨known.rule_ne, known.lookahead⟩
  · rintro ⟨differs, present⟩
    have complete := wellFormed.mem_items_of_mem_lookaheads present
    have listed := (mem_items.mp (wellFormed.mem_items_of_mem_set complete)).1
    exact ⟨lt_length_of_alternatives listed, listed, differs,
      Automaton.lt_length_of_mem_items complete, present⟩

/-- A reduction wants a place if its alternative is read behind symbols that productions put in
front of its rule, and the terminal starts what they put behind it. -/
theorem reduces_iff_chain {rule : RuleIndex} {alternative : Nat} :
    grammar.Reduces state lookahead rule alternative ↔
      rule ≠ startRule ∧ alternative < (grammar.alternatives rule).length ∧
        ∃ before after, grammar.Chain rule before after ∧
          grammar.automaton.reach? startSet (before ++ grammar.alternative rule alternative) =
            some state ∧
          grammar.Starts (after ++ [.rule grammar.endRule]) lookahead := by
  rw [Reduces, wellFormed.mem_lookaheads_iff]
  constructor
  · rintro ⟨differs, source, starts, along, inSet⟩
    obtain ⟨before, after, chain, reached, begins⟩ :=
      (wellFormed.mem_follow_iff_awaits starts).mp inSet
    have listed := (mem_items.mp (wellFormed.mem_items_of_mem_set starts)).1
    exact ⟨differs, listed, before, after, chain,
      Automaton.reach?_append_eq_some.mpr ⟨source, reached, along⟩, begins⟩
  · rintro ⟨differs, listed, before, after, chain, reached, begins⟩
    obtain ⟨source, reached, along⟩ := Automaton.reach?_append_eq_some.mp reached
    have starts := wellFormed.startingItems_of_chain chain reached (start_mem_startingItems listed)
    exact ⟨differs, source, starts, along, wellFormed.mem_follow_of_chain chain reached begins⟩

/-- Before any reduction, an open place is free. -/
theorem isOpen_baseTable_iff :
    grammar.baseTable.IsOpen state lookahead ↔
      grammar.baseTable.action? state lookahead = none := by
  refine ⟨fun isOpen => ?_, Table.isOpen_of_none⟩
  rw [Option.eq_none_iff_forall_not_mem]
  intro action present
  obtain ⟨rule, alternative, rfl⟩ := isOpen action present
  exact wellFormed.baseTable_ne_reduce rule alternative present

/-- A table holds what is there before any reduction, and the reductions that want other places. -/
theorem action?_eq_some_iff (built : grammar.table = .ok table) {action : Action} :
    table.action? state lookahead = some action ↔
      grammar.baseTable.action? state lookahead = some action ∨
      grammar.baseTable.action? state lookahead = none ∧ ∃ rule alternative,
        action = .reduce rule alternative ∧ grammar.Reduces state lookahead rule alternative := by
  have entered := enterAll_of_table built
  have kept {action : Action} (present : grammar.baseTable.action? state lookahead = some action) :
      table.action? state lookahead = some action :=
    wellFormed.sound_baseTable.action?_of_enterAll known_of_mem_candidates entered present
  have reduces {rule : RuleIndex} {alternative : Nat}
      (free : grammar.baseTable.action? state lookahead = none)
      (wants : grammar.Reduces state lookahead rule alternative) :
      table.action? state lookahead = some (.reduce rule alternative) :=
    wellFormed.sound_baseTable.action?_of_isOpen known_of_mem_candidates entered
      (wellFormed.mem_candidates_iff_reduces.mpr wants) (Table.isOpen_of_none free)
  have sound := wellFormed.sound_table built
  constructor
  · intro present
    rcases free : grammar.baseTable.action? state lookahead with _ | before
    · right
      refine ⟨rfl, ?_⟩
      cases action with
      | reduce rule alternative => exact ⟨rule, alternative, rfl, sound.reduce present⟩
      | shift target =>
        obtain ⟨consumes, edge⟩ := sound.shift present
        rw [wellFormed.action?_baseTable, if_pos consumes, edge] at free
        split at free <;> cases free
      | accept =>
        rw [wellFormed.action?_baseTable, if_pos (sound.accept present)] at free
        cases free
    · left
      exact (kept free).symm.trans present
  · rintro (before | ⟨free, rule, alternative, rfl, wants⟩)
    · exact kept before
    · exact reduces free wants

/-- A table is built if no two reductions want one place that is free before any of them. -/
theorem exists_table_iff : (∃ table, grammar.table = .ok table) ↔
    ∀ state lookahead, grammar.baseTable.action? state lookahead = none →
      ∀ rule alternative other place, grammar.Reduces state lookahead rule alternative →
        grammar.Reduces state lookahead other place → rule = other ∧ alternative = place := by
  constructor
  · rintro ⟨table, built⟩ state lookahead free rule alternative other place left right
    have first := (wellFormed.action?_eq_some_iff built).mpr (.inr ⟨free, _, _, rfl, left⟩)
    have second := (wellFormed.action?_eq_some_iff built).mpr (.inr ⟨free, _, _, rfl, right⟩)
    exact Action.reduce.inj (Option.some.inj (first.symm.trans second))
  · intro alone
    have entered : ∃ table, grammar.baseTable.enterAll grammar (candidates grammar
        grammar.buildTables.paths grammar.buildTables.lookahead grammar.automaton.sets.length) =
          (table, none) := by
      refine wellFormed.sound_baseTable.exists_enterAll known_of_mem_candidates ?_ ?_
      · rintro ⟨state, lookahead, rule, alternative⟩ inLeft ⟨_, _, other, place⟩ inRight rfl rfl
          isOpen
        obtain ⟨rfl, rfl⟩ := alone state lookahead (wellFormed.isOpen_baseTable_iff.mp isOpen) rule
          alternative other place (wellFormed.mem_candidates_iff_reduces.mp inLeft)
          (wellFormed.mem_candidates_iff_reduces.mp inRight)
        rfl
      · intro candidate _ rule alternative reducing
        exact absurd reducing (wellFormed.baseTable_ne_reduce rule alternative)
    obtain ⟨table, entered⟩ := entered
    obtain ⟨built, fine⟩ := Prod.mk.inj (buildTables_table.trans entered)
    refine ⟨table, ?_⟩
    unfold Grammar.table
    dsimp only
    rw [fine, built]

end WellFormed

end Grammar

end ShiftReduce
