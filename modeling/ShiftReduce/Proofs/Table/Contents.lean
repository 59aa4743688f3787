import ShiftReduce.Proofs.Table.Lookaheads

/-!
# What a parse table says

The shifts and gotos of a table are the edges of the automaton, the state behind the first declared
rule accepts, and reductions are those of alternatives that are read, for their lookaheads.

## Main definitions

* `Table.Sound` — entries that stand for what the automaton can do
* `Grammar.baseTable` — the table before any reduction

## Main results

* `Grammar.WellFormed.sound_table` — a table that is built is sound
* `Grammar.WellFormed.action?_of_target?` — the shifts that a table does not lack
-/

namespace ShiftReduce

/-! ### Rows before any reduction -/

section BaseRow

variable {grammar : Grammar} {edges : List (Symbol × SetIndex)}

theorem shiftOf?_eq_some {symbol : Symbol} {target : SetIndex} {entry : Symbol × Action} :
    shiftOf? grammar (symbol, target) = some entry ↔
      grammar.isTerminal symbol = true ∧ (symbol, .shift target) = entry := by
  unfold shiftOf?
  dsimp only
  split <;> simp_all

theorem lookup_shifts {symbol : Symbol} : (edges.filterMap (shiftOf? grammar)).lookup symbol =
    if grammar.isTerminal symbol then (edges.lookup symbol).map .shift else none := by
  induction edges with
  | nil => simp
  | cons edge rest ih =>
    obtain ⟨first, target⟩ := edge
    rw [Sorted.lookup_cons_eq]
    by_cases consumes : grammar.isTerminal first = true
    · have found : shiftOf? grammar (first, target) = some (first, .shift target) := if_pos consumes
      rw [List.filterMap_cons_some found, Sorted.lookup_cons_eq, ih]
      by_cases same : symbol = first
      · simp [same, consumes]
      · simp [same]
    · have noShift : shiftOf? grammar (first, target) = none := if_neg consumes
      rw [List.filterMap_cons_none noShift, ih]
      by_cases same : symbol = first
      · simp [same, consumes]
      · simp [same]

theorem lookup_gotos {rule : RuleIndex} : (edges.filterMap (gotoOf? grammar)).lookup rule =
    if grammar.isTerminal (.rule rule) then none else edges.lookup (.rule rule) := by
  induction edges with
  | nil => simp
  | cons edge rest ih =>
    obtain ⟨first, target⟩ := edge
    rw [Sorted.lookup_cons_eq]
    cases first with
    | terminal index =>
      rw [List.filterMap_cons_none rfl, ih]
      simp
    | rule index =>
      by_cases consumes : grammar.isTerminal (.rule index) = true
      · have noGoto : gotoOf? grammar (.rule index, target) = none := if_pos consumes
        rw [List.filterMap_cons_none noGoto, ih]
        by_cases same : rule = index
        · simp [same, consumes]
        · simp [same]
      · have found : gotoOf? grammar (.rule index, target) = some (index, target) :=
          if_neg consumes
        rw [List.filterMap_cons_some found, Sorted.lookup_cons_eq, ih]
        by_cases same : rule = index
        · simp [same, consumes]
        · simp [same]

theorem ascending_shifts (ascending : Sorted.Ascending edges) :
    Sorted.Ascending (edges.filterMap (shiftOf? grammar)) := by
  refine List.Pairwise.filterMap _ ?_ ascending
  intro left right before leftShift leftFound rightShift rightFound
  obtain ⟨-, rfl⟩ := shiftOf?_eq_some.mp leftFound
  obtain ⟨-, rfl⟩ := shiftOf?_eq_some.mp rightFound
  exact before

end BaseRow

namespace Grammar

/-- The table of a grammar before any reduction is entered. -/
def baseTable (grammar : Grammar) : Table := ⟨grammar.automaton.sets.map (baseRow grammar), []⟩

variable {grammar : Grammar}

theorem WellFormed.symbols_startRule (wellFormed : grammar.WellFormed) {dot : Nat} :
    Item.symbols grammar ⟨startRule, 0, dot⟩ = [.rule 1] :=
  wellFormed.alternative_startRule

/-- The start rule is read completely where its one item with the dot behind everything is. -/
theorem WellFormed.startItem_complete_iff (wellFormed : grammar.WellFormed) {state : SetIndex} :
    (∃ item ∈ grammar.automaton.items state,
      item.rule = startRule ∧ item.isComplete grammar = true) ↔
        ⟨startRule, 0, 1⟩ ∈ grammar.automaton.items state := by
  constructor
  · rintro ⟨⟨rule, place, dot⟩, present, rfl, complete⟩
    obtain ⟨inside, bound⟩ := mem_items.mp (wellFormed.mem_items_of_mem_set present)
    rw [wellFormed.alternatives_startRule] at inside
    obtain rfl : place = 0 := Nat.lt_one_iff.mp inside
    have behind := of_decide_eq_true complete
    rw [wellFormed.symbols_startRule] at bound behind
    obtain rfl : dot = 1 := Nat.le_antisymm bound behind
    exact present
  · intro present
    exact ⟨_, present, rfl, by simp [Item.isComplete, wellFormed.symbols_startRule]⟩

/-- A state accepts if it holds the item of the start rule with its dot behind everything. -/
theorem WellFormed.accepts_iff (wellFormed : grammar.WellFormed) {state : SetIndex} {set : ItemSet}
    (known : grammar.automaton.sets[state]? = some set) :
    accepts grammar set = true ↔ ⟨startRule, 0, 1⟩ ∈ grammar.automaton.items state := by
  have items : grammar.automaton.items state = set.items := by
    rw [Automaton.items, known]
    rfl
  rw [← wellFormed.startItem_complete_iff, items]
  simp [accepts]

theorem WellFormed.action?_baseTable (wellFormed : grammar.WellFormed) {state : SetIndex}
    {symbol : Symbol} : grammar.baseTable.action? state symbol =
      if symbol = .rule grammar.endRule ∧ ⟨startRule, 0, 1⟩ ∈ grammar.automaton.items state then
        some .accept
      else if grammar.isTerminal symbol then
        (grammar.automaton.target? state symbol).map .shift
      else none := by
  unfold Table.action? Table.actions baseTable Automaton.target? Automaton.edges
  rw [List.getElem?_map]
  rcases known : grammar.automaton.sets[state]? with _ | set
  · have empty : grammar.automaton.items state = [] := by
      rw [Automaton.items, known]
      rfl
    simp [empty]
  · simp only [Option.map_some, Option.getD_some, baseRow, ← wellFormed.accepts_iff known]
    by_cases accepting : accepts grammar set = true
    · simp [accepting, Sorted.lookup_insert, lookup_shifts]
    · simp [accepting, lookup_shifts]

theorem goto?_baseTable {state : SetIndex} {rule : RuleIndex} :
    grammar.baseTable.goto? state rule = if grammar.isTerminal (.rule rule) then none
      else grammar.automaton.target? state (.rule rule) := by
  unfold Table.goto? Table.gotos baseTable Automaton.target? Automaton.edges
  rw [List.getElem?_map]
  rcases known : grammar.automaton.sets[state]? with _ | set
  · simp
  · simp [baseRow, lookup_gotos]

theorem ascending_baseTable : ∀ row ∈ grammar.baseTable.rows, Sorted.Ascending row.actions := by
  intro row listed
  obtain ⟨set, present, rfl⟩ := List.mem_map.mp listed
  obtain ⟨state, known⟩ := List.getElem?_of_mem present
  have ascending := @WellFormed.ascending_edges grammar state
  have edges : grammar.automaton.edges state = set.edges := by
    rw [Automaton.edges, known]
    rfl
  rw [edges] at ascending
  unfold baseRow
  dsimp only
  split
  · exact (ascending_shifts ascending).insert
  · exact ascending_shifts ascending

end Grammar

/-! ### Entering reductions -/

/-- A reduction that the automaton can do. -/
structure Candidate.Known (grammar : Grammar) (candidate : Candidate) : Prop where
  rule_ne : candidate.rule ≠ Grammar.startRule
  inside : candidate.state < grammar.automaton.sets.length
  lookahead : candidate.lookahead ∈
    grammar.lookaheads candidate.state candidate.rule candidate.alternative

namespace Table

variable {grammar : Grammar} {table after : Table} {candidate : Candidate}

/-- A table with a reduction in a place of its own. -/
def put (table : Table) (candidate : Candidate) : Table :=
  let reduce := Action.reduce candidate.rule candidate.alternative
  { table with rows := table.rows.modify candidate.state fun row =>
    { row with actions := Sorted.insert Symbol.precedes candidate.lookahead reduce row.actions } }

theorem action?_put (inside : candidate.state < table.rows.length) {state : SetIndex}
    {symbol : Symbol} : (table.put candidate).action? state symbol =
      if state = candidate.state ∧ symbol = candidate.lookahead then
        some (.reduce candidate.rule candidate.alternative)
      else table.action? state symbol := by
  unfold action? actions put
  rw [List.getElem?_modify]
  by_cases same : candidate.state = state
  · subst same
    rw [List.getElem?_eq_getElem inside]
    simp [Sorted.lookup_insert]
  · have differ : state ≠ candidate.state := fun other => same other.symm
    simp [same, differ]

@[simp] theorem goto?_put {state : SetIndex} {rule : RuleIndex} :
    (table.put candidate).goto? state rule = table.goto? state rule := by
  unfold goto? gotos put
  rw [List.getElem?_modify]
  rcases table.rows[state]? with _ | row
  · rfl
  · by_cases same : candidate.state = state <;> simp [same]

theorem ascending_put (ascending : ∀ row ∈ table.rows, Sorted.Ascending row.actions) :
    ∀ row ∈ (table.put candidate).rows, Sorted.Ascending row.actions := by
  intro row listed
  obtain ⟨state, inside, rfl⟩ := List.getElem_of_mem listed
  simp only [put, List.getElem_modify]
  split
  · exact (ascending _ (List.getElem_mem _)).insert
  · exact ascending _ (List.getElem_mem _)

/-- A reduction takes its place if that is free. Otherwise a shift is there, and it is recorded as
dropped for it, or an acceptance is there, or the same reduction. -/
theorem enter_cases (entered : table.enter grammar candidate = .ok after) :
    (table.action? candidate.state candidate.lookahead = none ∧ after = table.put candidate) ∨
      (∃ target,
        table.action? candidate.state candidate.lookahead = some (.shift target) ∧
        after = { table with resolved := table.resolved ++ [⟨candidate.state, candidate.lookahead,
          .shift target, .reduce candidate.rule candidate.alternative⟩] }) ∨
      (table.action? candidate.state candidate.lookahead = some .accept ∧ after = table) ∨
      (table.action? candidate.state candidate.lookahead =
        some (.reduce candidate.rule candidate.alternative) ∧ after = table) := by
  unfold enter at entered
  dsimp only at entered
  split at entered
  · rename_i free
    exact .inl ⟨free, (Except.ok.inj entered).symm⟩
  · rename_i accepting
    exact .inr (.inr (.inl ⟨accepting, (Except.ok.inj entered).symm⟩))
  · rename_i target shifting
    exact .inr (.inl ⟨target, shifting, (Except.ok.inj entered).symm⟩)
  · rename_i rule alternative reducing
    split at entered
    · rename_i same
      rw [same] at reducing
      exact .inr (.inr (.inr ⟨reducing, (Except.ok.inj entered).symm⟩))
    · cases entered

/-- What every successful entering keeps holds after all reductions are entered. -/
theorem enterAll_induction {motive : Table → Prop} {candidates : List Candidate}
    (kept : ∀ {table after candidate}, candidate ∈ candidates → motive table →
      table.enter grammar candidate = .ok after → motive after)
    (holds : motive table) (entered : table.enterAll grammar candidates = (after, none)) :
    motive after := by
  induction candidates generalizing table with
  | nil =>
    obtain rfl := congrArg Prod.fst entered
    exact holds
  | cons candidate rest ih =>
    unfold enterAll at entered
    split at entered
    · rename_i middle first
      have others : ∀ {table after other}, other ∈ rest → motive table →
          table.enter grammar other = .ok after → motive after :=
        fun present => kept (List.mem_cons_of_mem _ present)
      exact ih others (kept List.mem_cons_self holds first) entered
    · cases congrArg Prod.snd entered

/-! ### Sound tables -/

/-- The entries of a table stand for what the automaton can do. -/
structure Sound (grammar : Grammar) (table : Table) : Prop where
  length_eq : table.rows.length = grammar.automaton.sets.length
  ascending : ∀ row ∈ table.rows, Sorted.Ascending row.actions
  shift : ∀ {state symbol target}, table.action? state symbol = some (.shift target) →
    grammar.isTerminal symbol = true ∧ grammar.automaton.target? state symbol = some target
  accept : ∀ {state symbol}, table.action? state symbol = some .accept →
    symbol = .rule grammar.endRule ∧ ⟨Grammar.startRule, 0, 1⟩ ∈ grammar.automaton.items state
  reduce : ∀ {state symbol rule alternative},
    table.action? state symbol = some (.reduce rule alternative) →
      rule ≠ Grammar.startRule ∧ symbol ∈ grammar.lookaheads state rule alternative
  goto : ∀ {state rule}, table.goto? state rule = if grammar.isTerminal (.rule rule) then none
    else grammar.automaton.target? state (.rule rule)

theorem Sound.ascending_actions (sound : table.Sound grammar) (state : SetIndex) :
    Sorted.Ascending (table.actions state) := by
  unfold actions
  rcases known : table.rows[state]? with _ | row
  · exact .nil
  · exact sound.ascending row (List.mem_of_getElem? known)

theorem Sound.mem_actions_iff (sound : table.Sound grammar) {state : SetIndex} {symbol : Symbol}
    {action : Action} :
    (symbol, action) ∈ table.actions state ↔ table.action? state symbol = some action :=
  (sound.ascending_actions state).mem_iff_lookup

/-- The gotos of a sound table are the edges of rules with alternatives. -/
theorem Sound.goto?_of_target? (sound : table.Sound grammar) (wellFormed : grammar.WellFormed)
    {state target : SetIndex} {rule : RuleIndex} {symbols : List Symbol}
    (listed : symbols ∈ grammar.alternatives rule)
    (edge : grammar.automaton.target? state (.rule rule) = some target) :
    table.goto? state rule = some target := by
  have derives : ¬ grammar.isTerminal (.rule rule) = true := by
    intro consumes
    rw [wellFormed.alternatives_eq_nil_of_isTerminal consumes] at listed
    cases listed
  rw [sound.goto, if_neg derives, edge]

/-- Entering a reduction that the automaton can do keeps a table sound. -/
theorem Sound.enter (sound : table.Sound grammar) (known : candidate.Known grammar)
    (entered : table.enter grammar candidate = .ok after) : after.Sound grammar := by
  obtain ⟨-, rfl⟩ | ⟨_, -, rfl⟩ | ⟨-, rfl⟩ | ⟨-, rfl⟩ := enter_cases entered
  · have inside : candidate.state < table.rows.length := sound.length_eq ▸ known.inside
    refine ⟨?_, ascending_put sound.ascending, ?_, ?_, ?_, ?_⟩
    · rw [← sound.length_eq]
      exact List.length_modify ..
    · intro state symbol target action
      rw [action?_put inside] at action
      split at action
      · cases action
      · exact sound.shift action
    · intro state symbol action
      rw [action?_put inside] at action
      split at action
      · cases action
      · exact sound.accept action
    · intro state symbol rule alternative action
      rw [action?_put inside] at action
      split at action
      · rename_i place
        obtain ⟨rfl, rfl⟩ := place
        cases action
        exact ⟨known.rule_ne, known.lookahead⟩
      · exact sound.reduce action
    · intro state rule
      rw [goto?_put]
      exact sound.goto
  · exact ⟨sound.length_eq, sound.ascending, sound.shift, sound.accept, sound.reduce, sound.goto⟩
  · exact sound
  · exact sound

/-- An action that is in a table stays there. -/
theorem Sound.action?_of_enter (sound : table.Sound grammar) (known : candidate.Known grammar)
    (entered : table.enter grammar candidate = .ok after) {state : SetIndex} {symbol : Symbol}
    {action : Action} (present : table.action? state symbol = some action) :
    after.action? state symbol = some action := by
  obtain ⟨free, rfl⟩ | ⟨_, -, rfl⟩ | ⟨-, rfl⟩ | ⟨-, rfl⟩ := enter_cases entered
  · have inside : candidate.state < table.rows.length := sound.length_eq ▸ known.inside
    rw [action?_put inside, if_neg]
    · exact present
    · rintro ⟨rfl, rfl⟩
      rw [free] at present
      cases present
  · exact present
  · exact present
  · exact present

theorem Sound.action?_of_enterAll (sound : table.Sound grammar) {candidates : List Candidate}
    (known : ∀ candidate ∈ candidates, candidate.Known grammar)
    (entered : table.enterAll grammar candidates = (after, none)) {state : SetIndex}
    {symbol : Symbol} {action : Action} (present : table.action? state symbol = some action) :
    after.action? state symbol = some action := by
  -- Soundness goes along, since it is what puts reductions into rows that are there.
  have both : after.Sound grammar ∧ after.action? state symbol = some action := by
    refine enterAll_induction (motive := fun table =>
      table.Sound grammar ∧ table.action? state symbol = some action) ?_ ⟨sound, present⟩ entered
    intro table after candidate listed holds entered
    have isKnown := known candidate listed
    exact ⟨holds.1.enter isKnown entered, holds.1.action?_of_enter isKnown entered holds.2⟩
  exact both.2

end Table

namespace Grammar.WellFormed

variable {grammar : Grammar} (wellFormed : grammar.WellFormed)
include wellFormed

/-- Before any reduction, there is none. -/
theorem baseTable_ne_reduce {state : SetIndex} {lookahead : Symbol} (rule : RuleIndex)
    (alternative : Nat) :
    grammar.baseTable.action? state lookahead ≠ some (.reduce rule alternative) := by
  intro present
  rw [wellFormed.action?_baseTable] at present
  split at present
  · cases present
  · split at present
    · obtain ⟨_, -, same⟩ := Option.map_eq_some_iff.mp present
      cases same
    · cases present

theorem sound_baseTable : grammar.baseTable.Sound grammar where
  length_eq := List.length_map _
  ascending := ascending_baseTable
  shift := by
    intro state symbol target action
    rw [wellFormed.action?_baseTable] at action
    split at action
    · cases action
    · split at action
      · rename_i consumes
        obtain ⟨_, edge, same⟩ := Option.map_eq_some_iff.mp action
        cases same
        exact ⟨consumes, edge⟩
      · cases action
  accept := by
    intro state symbol action
    rw [wellFormed.action?_baseTable] at action
    split at action
    · assumption
    · split at action
      · obtain ⟨_, -, same⟩ := Option.map_eq_some_iff.mp action
        cases same
      · cases action
  reduce := fun action => absurd action (wellFormed.baseTable_ne_reduce _ _)
  goto := goto?_baseTable

omit wellFormed in
theorem mem_candidates_iff {candidate : Candidate} :
    candidate ∈ candidates grammar grammar.buildTables.paths grammar.buildTables.lookahead
      grammar.automaton.sets.length ↔
        candidate.rule < grammar.rules.length ∧
        candidate.alternative < (grammar.alternatives candidate.rule).length ∧
        candidate.Known grammar := by
  simp only [candidates, alternativeCandidates, List.mem_flatMap, List.mem_filter, List.mem_range,
    List.mem_map, decide_eq_true_eq]
  constructor
  · rintro ⟨rule, ⟨inside, differs⟩, alternative, listed, state, known, symbol, present, rfl⟩
    exact ⟨inside, listed, differs, known, present⟩
  · rintro ⟨inside, listed, differs, known, present⟩
    exact ⟨_, ⟨inside, differs⟩, _, listed, _, known, _, present, rfl⟩

omit wellFormed in
theorem buildTables_table : (grammar.buildTables.table, grammar.buildTables.conflict) =
    grammar.baseTable.enterAll grammar (candidates grammar grammar.buildTables.paths
      grammar.buildTables.lookahead grammar.automaton.sets.length) := by
  unfold buildTables baseTable
  dsimp only

omit wellFormed in
/-- A table is built by entering all reductions without a conflict. -/
theorem enterAll_of_table {table : Table} (built : grammar.table = .ok table) :
    grammar.baseTable.enterAll grammar (candidates grammar grammar.buildTables.paths
      grammar.buildTables.lookahead grammar.automaton.sets.length) = (table, none) := by
  unfold Grammar.table at built
  dsimp only at built
  split at built
  · rename_i fine
    rw [← buildTables_table, fine, Except.ok.inj built]
  · cases built

omit wellFormed in
theorem known_of_mem_candidates : ∀ candidate ∈ candidates grammar grammar.buildTables.paths
    grammar.buildTables.lookahead grammar.automaton.sets.length, candidate.Known grammar :=
  fun _ listed => (mem_candidates_iff.mp listed).2.2

/-- A table that is built is sound. -/
theorem sound_table {table : Table} (built : grammar.table = .ok table) : table.Sound grammar :=
  Table.enterAll_induction
    (fun listed sound entered => sound.enter (known_of_mem_candidates _ listed) entered)
    wellFormed.sound_baseTable (enterAll_of_table built)

/-- A table lacks no shift, but it may accept instead. -/
theorem action?_of_target? {table : Table} (built : grammar.table = .ok table)
    {state target : SetIndex} {symbol : Symbol} (consumes : grammar.isTerminal symbol = true)
    (edge : grammar.automaton.target? state symbol = some target)
    (differs : symbol ≠ .rule grammar.endRule) :
    table.action? state symbol = some (.shift target) := by
  refine wellFormed.sound_baseTable.action?_of_enterAll known_of_mem_candidates
    (enterAll_of_table built) ?_
  rw [wellFormed.action?_baseTable, if_neg fun both => differs both.1, if_pos consumes, edge]
  rfl

/-- The state behind the first declared rule accepts at the end of the input. -/
theorem action?_endRule {table : Table} (built : grammar.table = .ok table) {state : SetIndex}
    (present : ⟨startRule, 0, 1⟩ ∈ grammar.automaton.items state) :
    table.action? state (.rule grammar.endRule) = some .accept := by
  refine wellFormed.sound_baseTable.action?_of_enterAll known_of_mem_candidates
    (enterAll_of_table built) ?_
  rw [wellFormed.action?_baseTable, if_pos ⟨rfl, present⟩]

/-- What a state acts on is there. -/
theorem inRange_of_action? {table : Table} (sound : table.Sound grammar) {state : SetIndex}
    {symbol : Symbol} {action : Action} (present : table.action? state symbol = some action) :
    symbol.InRange grammar.rules.length grammar.terminals.length := by
  cases action with
  | shift target => exact wellFormed.inRange_of_target? (sound.shift present).2
  | reduce rule alternative =>
    obtain ⟨source, -, -, inSet⟩ := wellFormed.mem_lookaheads_iff.mp (sound.reduce present).2
    exact wellFormed.followInvariant_lookahead.bounded.symbolsAt_inRange inSet
  | accept =>
    rw [(sound.accept present).1]
    exact wellFormed.endRule_inRange

end Grammar.WellFormed

/-- The table of the grammar for examples. -/
def Grammar.sampleTable : Table where
  rows := [
    ⟨[(.terminal 0, .shift 1), (.terminal 2, .shift 2)], [(1, 3), (2, 4)]⟩,
    ⟨[(.terminal 1, .reduce 2 1)], []⟩,
    ⟨[(.terminal 0, .shift 1), (.terminal 2, .shift 2)], [(2, 5)]⟩,
    ⟨[(.rule 4, .accept)], []⟩,
    ⟨[(.terminal 1, .shift 6)], []⟩,
    ⟨[(.terminal 1, .reduce 2 0)], []⟩,
    ⟨[(.rule 4, .reduce 1 0)], []⟩]
  resolved := []

theorem Grammar.table_sample : sample.table = .ok sampleTable :=
  eq_ok_of_toOption (by decide +kernel)

end ShiftReduce
