import ShiftReduce.Proofs.Table.Places

/-!
# Accounting for reductions

The paths of a grammar ask for reductions, and in a table that is built each of them is accounted
for. It has its place, or the state accepts there, or the state shifts there, and then the reduction
is on record as dropped, once. A table is refused only where two reductions ask for one place that
neither acceptance nor a shift has.

## Main definitions

* `Table.dropped?` — what is recorded of a reduction that meets a shift
* `Grammar.AsksFor`, `Grammar.AcceptsOn` — reductions and acceptance, told by paths and items
* `Grammar.Contested` — places that two reductions ask for
* `Table.Exact` — tables that hold what the automaton and the paths ask for, and nothing else

## Main results

* `Table.Sound.resolved_eq` — what is on record after all reductions are entered
* `Grammar.WellFormed.exists_rivals` — what a conflict speaks of
* `Grammar.WellFormed.action?_of_lookahead` — the reductions that a table does not lack
* `Grammar.Loaded.table_spec` — tables are refused where places are contested, and exact otherwise
-/

namespace ShiftReduce

/-! ### Reductions that are dropped -/

namespace Table

variable {grammar : Grammar} {table after : Table} {candidate : Candidate}

/-- What is recorded of a reduction that wants the place of a shift. -/
def dropped? (table : Table) (candidate : Candidate) : Option Resolution :=
  match table.action? candidate.state candidate.lookahead with
  | some (.shift target) => some ⟨candidate.state, candidate.lookahead, .shift target,
      .reduce candidate.rule candidate.alternative⟩
  | _ => none

theorem dropped?_eq_some_iff {resolution : Resolution} :
    table.dropped? candidate = some resolution ↔ ∃ target,
      table.action? candidate.state candidate.lookahead = some (.shift target) ∧
        resolution = ⟨candidate.state, candidate.lookahead, .shift target,
          .reduce candidate.rule candidate.alternative⟩ := by
  unfold dropped?
  split
  · rename_i target shifting
    simp [shifting, eq_comm]
  · rename_i other
    constructor
    · intro impossible
      cases impossible
    · rintro ⟨target, shifting, -⟩
      exact absurd shifting (other target)

theorem resolved_of_enter (entered : table.enter grammar candidate = .ok after) :
    after.resolved = table.resolved ++ (table.dropped? candidate).toList := by
  unfold dropped?
  obtain ⟨free, rfl⟩ | ⟨target, shifting, rfl⟩ | ⟨accepting, rfl⟩ | ⟨reducing, rfl⟩ :=
    enter_cases entered
  · simp [free, put]
  · simp [shifting]
  · simp [accepting]
  · simp [reducing]

/-- Entering a reduction changes nothing about which others are dropped. -/
theorem Sound.dropped?_of_enter (sound : table.Sound grammar) (known : candidate.Known grammar)
    (entered : table.enter grammar candidate = .ok after) (other : Candidate) :
    after.dropped? other = table.dropped? other := by
  obtain ⟨free, rfl⟩ | ⟨_, -, rfl⟩ | ⟨-, rfl⟩ | ⟨-, rfl⟩ := enter_cases entered
  · unfold dropped?
    rw [action?_put (sound.length_eq ▸ known.inside)]
    by_cases place : other.state = candidate.state ∧ other.lookahead = candidate.lookahead
    · rw [if_pos place, place.1, place.2, free]
    · rw [if_neg place]
  · rfl
  · rfl
  · rfl

/-- Once all reductions are entered, those are on record that met a shift, in their order. -/
theorem Sound.resolved_eq (sound : table.Sound grammar) {candidates : List Candidate}
    (known : ∀ candidate ∈ candidates, candidate.Known grammar)
    (entered : table.enterAll grammar candidates = (after, none)) :
    after.resolved = table.resolved ++ candidates.filterMap table.dropped? := by
  -- By induction on the reductions: the later ones are dropped for the shifts of the first table,
  -- since the entries in between leave `dropped?` as it is.
  induction candidates generalizing table with
  | nil =>
    obtain rfl := congrArg Prod.fst entered
    exact (List.append_nil _).symm
  | cons first rest ih =>
    rw [List.forall_mem_cons] at known
    unfold enterAll at entered
    split at entered
    · rename_i middle entering
      have same : middle.dropped? = table.dropped? :=
        funext (sound.dropped?_of_enter known.1 entering)
      rw [ih (sound.enter known.1 entering) known.2 entered, resolved_of_enter entering, same,
        List.append_assoc]
      congr 1
      rcases dropped : table.dropped? first with _ | resolution
      · rw [List.filterMap_cons_none dropped]
        rfl
      · rw [List.filterMap_cons_some dropped]
        rfl
    · cases congrArg Prod.snd entered

/-! ### Conflicts -/

/-- A reduction is refused where a different one is, and both are named. -/
theorem enter_eq_error {conflict : Conflict}
    (refused : table.enter grammar candidate = .error conflict) : ∃ rule alternative,
      table.action? candidate.state candidate.lookahead = some (.reduce rule alternative) ∧
      (rule, alternative) ≠ (candidate.rule, candidate.alternative) ∧
      conflict = ⟨candidate.state, grammar.symbolName candidate.lookahead,
        (Action.reduce rule alternative).describe grammar,
        (Action.reduce candidate.rule candidate.alternative).describe grammar⟩ := by
  unfold enter at refused
  dsimp only at refused
  split at refused
  · cases refused
  · cases refused
  · cases refused
  · rename_i rule alternative reducing
    split at refused
    · cases refused
    · rename_i differ
      refine ⟨rule, alternative, reducing, fun same => differ ?_, (Except.error.inj refused).symm⟩
      rw [(Prod.mk.inj same).1, (Prod.mk.inj same).2]

/-- Where a conflict ends the entering of reductions, two of them want one open place. -/
theorem Sound.exists_of_conflict (sound : table.Sound grammar) {candidates : List Candidate}
    (known : ∀ candidate ∈ candidates, candidate.Known grammar) {conflict : Conflict}
    (entered : table.enterAll grammar candidates = (after, some conflict)) :
    ∃ candidate ∈ candidates, ∃ rule alternative,
      table.IsOpen candidate.state candidate.lookahead ∧
      grammar.Reduces candidate.state candidate.lookahead rule alternative ∧
      (rule, alternative) ≠ (candidate.rule, candidate.alternative) ∧
      conflict = ⟨candidate.state, grammar.symbolName candidate.lookahead,
        (Action.reduce rule alternative).describe grammar,
        (Action.reduce candidate.rule candidate.alternative).describe grammar⟩ := by
  induction candidates generalizing table with
  | nil => cases congrArg Prod.snd entered
  | cons first rest ih =>
    rw [List.forall_mem_cons] at known
    unfold enterAll at entered
    split at entered
    -- What comes later meets places that were open before as well.
    · rename_i middle entering
      obtain ⟨candidate, later, rule, alternative, isOpen, others⟩ :=
        ih (sound.enter known.1 entering) known.2 entered
      exact ⟨candidate, List.mem_cons_of_mem _ later, rule, alternative,
        (sound.isOpen_of_enter known.1 entering).mp isOpen, others⟩
    · rename_i refused entering
      obtain rfl := Option.some.inj (congrArg Prod.snd entered)
      obtain ⟨rule, alternative, reducing, differ, words⟩ := enter_eq_error entering
      refine ⟨first, List.mem_cons_self, rule, alternative, ?_, sound.reduce reducing, differ,
        words⟩
      intro action present
      obtain rfl := Option.some.inj (reducing.symm.trans present)
      exact ⟨rule, alternative, rfl⟩

end Table

/-! ### All reductions -/

namespace Grammar

variable {grammar : Grammar}

/-- Reductions are listed once each. -/
theorem nodup_candidates (grammar : Grammar) :
    (candidates grammar grammar.buildTables.paths grammar.buildTables.lookahead
      grammar.automaton.sets.length).Nodup := by
  -- They are listed by rule, by alternative, by state and by terminal, each of which tells apart.
  refine nodup_flatMap_of_key Candidate.rule (List.nodup_range.filter _) ?_ ?_
  · intro rule _
    refine nodup_flatMap_of_key Candidate.alternative List.nodup_range ?_ ?_
    · intro alternative _
      refine nodup_flatMap_of_key Candidate.state List.nodup_range ?_ ?_
      · intro state _
        have ascending : SymbolSet.Ascending (followUnion grammar.buildTables.paths
            grammar.buildTables.lookahead (grammar.buildTables.paths.rules.filter fun use =>
              use.rule == rule && use.alternative == alternative) state) :=
          SymbolSet.Ascending.foldl_union .nil
        refine ascending.nodup.map fun left right same => ?_
        exact congrArg Candidate.lookahead same
      · intro state _ candidate listed
        obtain ⟨_, -, rfl⟩ := List.mem_map.mp listed
        rfl
    · intro alternative _ candidate listed
      obtain ⟨_, -, inState⟩ := List.mem_flatMap.mp listed
      obtain ⟨_, -, rfl⟩ := List.mem_map.mp inState
      rfl
  · intro rule _ candidate listed
    obtain ⟨_, -, inAlternative⟩ := List.mem_flatMap.mp listed
    obtain ⟨_, -, inState⟩ := List.mem_flatMap.mp inAlternative
    obtain ⟨_, -, rfl⟩ := List.mem_map.mp inState
    rfl

/-- A reduction is asked for in a place: its rule is no start rule, and a path of its alternative
ends in the state that the terminal may follow. -/
def AsksFor (grammar : Grammar) (state : SetIndex) (terminal : Symbol) (rule : RuleIndex)
    (alternative : Nat) : Prop :=
  rule ≠ startRule ∧ ∃ use ∈ grammar.buildTables.paths.rules,
    use.rule = rule ∧ use.alternative = alternative ∧
      grammar.buildTables.paths.finalSet? use = some state ∧
      terminal ∈ symbolsAt grammar.buildTables.lookahead.follow use.head

/-- A state accepts on the end of the input if it holds the start rule read completely. -/
def AcceptsOn (grammar : Grammar) (state : SetIndex) (terminal : Symbol) : Prop :=
  terminal = .rule grammar.endRule ∧ ∃ item ∈ grammar.automaton.items state,
    item.rule = startRule ∧ item.isComplete grammar = true

/-- Two reductions are asked for in a place that neither acceptance nor a shift has. -/
def Contested (grammar : Grammar) (state : SetIndex) (terminal : Symbol) : Prop :=
  ¬grammar.AcceptsOn state terminal ∧ grammar.automaton.target? state terminal = none ∧
    ∃ rule alternative other place, grammar.AsksFor state terminal rule alternative ∧
      grammar.AsksFor state terminal other place ∧ (rule, alternative) ≠ (other, place)

theorem asksFor_iff_reduces {state : SetIndex} {terminal : Symbol} {rule : RuleIndex}
    {alternative : Nat} : grammar.AsksFor state terminal rule alternative ↔
      grammar.Reduces state terminal rule alternative := by
  unfold AsksFor Reduces lookaheads
  simp [mem_followUnion, and_assoc]

end Grammar

/-! ### Tables that are exact -/

/-- A table holds what the automaton and the paths of a grammar ask for, and nothing else. Every
reduction that is asked for where the table shifts is on record, once. -/
structure Table.Exact (grammar : Grammar) (table : Table) : Prop where
  length_eq : table.rows.length = grammar.automaton.sets.length
  accept_iff : ∀ {state terminal},
    table.action? state terminal = some .accept ↔ grammar.AcceptsOn state terminal
  shift_iff : ∀ {state terminal target}, table.action? state terminal = some (.shift target) ↔
    ¬grammar.AcceptsOn state terminal ∧ grammar.isTerminal terminal = true ∧
      grammar.automaton.target? state terminal = some target
  reduce_iff : ∀ {state terminal rule alternative},
    table.action? state terminal = some (.reduce rule alternative) ↔
      ¬grammar.AcceptsOn state terminal ∧ grammar.automaton.target? state terminal = none ∧
        grammar.AsksFor state terminal rule alternative
  goto_iff : ∀ {state rule target}, table.goto? state rule = some target ↔
    grammar.isTerminal (.rule rule) = false ∧
      grammar.automaton.target? state (.rule rule) = some target
  resolved_nodup : table.resolved.Nodup
  mem_resolved_iff : ∀ {resolution}, resolution ∈ table.resolved ↔
    ∃ state terminal rule alternative target, grammar.AsksFor state terminal rule alternative ∧
      table.action? state terminal = some (.shift target) ∧
      resolution = ⟨state, terminal, .shift target, .reduce rule alternative⟩

namespace Grammar.WellFormed

variable {grammar : Grammar} (wellFormed : grammar.WellFormed) {table : Table} {state : SetIndex}
  {terminal : Symbol} {rule : RuleIndex} {alternative : Nat}
include wellFormed

theorem acceptsOn_iff : grammar.AcceptsOn state terminal ↔
    terminal = .rule grammar.endRule ∧ ⟨startRule, 0, 1⟩ ∈ grammar.automaton.items state := by
  rw [AcceptsOn, wellFormed.startItem_complete_iff]

theorem action?_of_acceptsOn (accepting : grammar.AcceptsOn state terminal) :
    grammar.baseTable.action? state terminal = some .accept := by
  rw [wellFormed.action?_baseTable, if_pos (wellFormed.acceptsOn_iff.mp accepting)]

theorem action?_of_not_acceptsOn (accepting : ¬grammar.AcceptsOn state terminal) :
    grammar.baseTable.action? state terminal = if grammar.isTerminal terminal then
      (grammar.automaton.target? state terminal).map .shift else none := by
  rw [wellFormed.action?_baseTable, if_neg (mt wellFormed.acceptsOn_iff.mpr accepting)]

/-- Reductions are asked for on terminals only. -/
theorem isTerminal_of_reduces (wants : grammar.Reduces state terminal rule alternative) :
    grammar.isTerminal terminal = true := by
  obtain ⟨-, -, _, _, -, -, begins⟩ := wellFormed.reduces_iff_chain.mp wants
  exact begins.isTerminal

/-- A place that a reduction asks for is free unless there is acceptance or a shift. -/
theorem free_iff_of_reduces (wants : grammar.Reduces state terminal rule alternative) :
    grammar.baseTable.action? state terminal = none ↔
      ¬grammar.AcceptsOn state terminal ∧ grammar.automaton.target? state terminal = none := by
  by_cases accepting : grammar.AcceptsOn state terminal
  · simp [wellFormed.action?_of_acceptsOn accepting, accepting]
  · simp [wellFormed.action?_of_not_acceptsOn accepting, accepting,
      wellFormed.isTerminal_of_reduces wants]

/-- What a conflict speaks of: two reductions that ask for a place without acceptance and shift. -/
theorem exists_rivals {conflict : Conflict} (refused : grammar.table = .error conflict) :
    ∃ terminal rule alternative other place, ¬grammar.AcceptsOn conflict.state terminal ∧
      grammar.automaton.target? conflict.state terminal = none ∧
      grammar.AsksFor conflict.state terminal rule alternative ∧
      grammar.AsksFor conflict.state terminal other place ∧
      (rule, alternative) ≠ (other, place) ∧
      conflict.lookahead = grammar.symbolName terminal ∧
      conflict.existing = (Action.reduce rule alternative).describe grammar ∧
      conflict.incoming = (Action.reduce other place).describe grammar := by
  have entered : grammar.baseTable.enterAll grammar (candidates grammar grammar.buildTables.paths
      grammar.buildTables.lookahead grammar.automaton.sets.length) =
        (grammar.buildTables.table, some conflict) := by
    unfold Grammar.table at refused
    dsimp only at refused
    split at refused
    · cases refused
    · rename_i found
      rw [← buildTables_table, found, Except.error.inj refused]
  obtain ⟨candidate, listed, rule, alternative, isOpen, wants, differ, rfl⟩ :=
    wellFormed.sound_baseTable.exists_of_conflict known_of_mem_candidates entered
  obtain ⟨accepts, edge⟩ :=
    (wellFormed.free_iff_of_reduces wants).mp (wellFormed.isOpen_baseTable_iff.mp isOpen)
  have other := wellFormed.mem_candidates_iff_reduces.mp listed
  exact ⟨_, _, _, _, _, accepts, edge, asksFor_iff_reduces.mpr wants,
    asksFor_iff_reduces.mpr other, differ, rfl, rfl, rfl⟩

/-- A table is refused where a place is contested. -/
theorem exists_conflict_iff : (∃ conflict, grammar.table = .error conflict) ↔
    ∃ state terminal, grammar.Contested state terminal := by
  constructor
  · rintro ⟨conflict, refused⟩
    obtain ⟨terminal, rule, alternative, other, place, accepts, edge, left, right, differ, -⟩ :=
      wellFormed.exists_rivals refused
    exact ⟨conflict.state, terminal, accepts, edge, rule, alternative, other, place, left, right,
      differ⟩
  · rintro ⟨state, terminal, accepts, edge, rule, alternative, other, place, left, right, differ⟩
    rw [asksFor_iff_reduces] at left right
    rcases outcome : grammar.table with conflict | table
    · exact ⟨conflict, rfl⟩
    · obtain ⟨rfl, rfl⟩ := wellFormed.exists_table_iff.mp ⟨table, outcome⟩ state terminal
        ((wellFormed.free_iff_of_reduces left).mpr ⟨accepts, edge⟩) _ _ _ _ left right
      exact absurd rfl differ

/-- A table shifts where the table before any reduction does. -/
theorem shift_iff_baseTable (built : grammar.table = .ok table) {target : SetIndex} :
    table.action? state terminal = some (.shift target) ↔
      grammar.baseTable.action? state terminal = some (.shift target) := by
  rw [wellFormed.action?_eq_some_iff built]
  simp

/-- What is on record in a table, in the order of all reductions. -/
theorem resolved_eq (built : grammar.table = .ok table) :
    table.resolved = (candidates grammar grammar.buildTables.paths grammar.buildTables.lookahead
      grammar.automaton.sets.length).filterMap grammar.baseTable.dropped? :=
  wellFormed.sound_baseTable.resolved_eq known_of_mem_candidates (enterAll_of_table built)

/-- A table accepts where the automaton does. -/
theorem accept_iff_acceptsOn (built : grammar.table = .ok table) :
    table.action? state terminal = some .accept ↔ grammar.AcceptsOn state terminal := by
  rw [wellFormed.action?_eq_some_iff built]
  by_cases accepting : grammar.AcceptsOn state terminal
  · simp [wellFormed.action?_of_acceptsOn accepting, accepting]
  · simp [wellFormed.action?_of_not_acceptsOn accepting, accepting]

/-- A table shifts along the edges of terminals, unless it accepts. -/
theorem shift_iff_target? (built : grammar.table = .ok table) {target : SetIndex} :
    table.action? state terminal = some (.shift target) ↔
      ¬grammar.AcceptsOn state terminal ∧ grammar.isTerminal terminal = true ∧
        grammar.automaton.target? state terminal = some target := by
  rw [wellFormed.shift_iff_baseTable built]
  by_cases accepting : grammar.AcceptsOn state terminal
  · simp [wellFormed.action?_of_acceptsOn accepting, accepting]
  · simp [wellFormed.action?_of_not_acceptsOn accepting, accepting]

/-- A table reduces where a path asks for it and there is neither acceptance nor a shift. -/
theorem reduce_iff_asksFor (built : grammar.table = .ok table) :
    table.action? state terminal = some (.reduce rule alternative) ↔
      ¬grammar.AcceptsOn state terminal ∧ grammar.automaton.target? state terminal = none ∧
        grammar.AsksFor state terminal rule alternative := by
  rw [wellFormed.action?_eq_some_iff built, asksFor_iff_reduces, ← and_assoc]
  constructor
  · rintro (before | ⟨free, _, _, same, wants⟩)
    · exact absurd before (wellFormed.baseTable_ne_reduce rule alternative)
    · cases same
      exact ⟨(wellFormed.free_iff_of_reduces wants).mp free, wants⟩
  · rintro ⟨free, wants⟩
    exact .inr ⟨(wellFormed.free_iff_of_reduces wants).mpr free, _, _, rfl, wants⟩

/-- No reduction is on record twice. -/
theorem nodup_resolved (built : grammar.table = .ok table) : table.resolved.Nodup := by
  rw [wellFormed.resolved_eq built]
  refine (nodup_candidates grammar).filterMap ?_
  intro left right resolution inLeft inRight
  obtain ⟨_, -, rfl⟩ := Table.dropped?_eq_some_iff.mp inLeft
  obtain ⟨_, -, same⟩ := Table.dropped?_eq_some_iff.mp inRight
  obtain ⟨_, _, _, _⟩ := left
  obtain ⟨_, _, _, _⟩ := right
  simp_all

/-- On record are the reductions that a path asks for where the table shifts. -/
theorem mem_resolved_iff_asksFor (built : grammar.table = .ok table) {resolution : Resolution} :
    resolution ∈ table.resolved ↔
      ∃ state terminal rule alternative target, grammar.AsksFor state terminal rule alternative ∧
        table.action? state terminal = some (.shift target) ∧
        resolution = ⟨state, terminal, .shift target, .reduce rule alternative⟩ := by
  rw [wellFormed.resolved_eq built, List.mem_filterMap]
  constructor
  · rintro ⟨⟨state, terminal, rule, alternative⟩, listed, dropped⟩
    obtain ⟨target, shifting, rfl⟩ := Table.dropped?_eq_some_iff.mp dropped
    have wants := wellFormed.mem_candidates_iff_reduces.mp listed
    exact ⟨state, terminal, rule, alternative, target, asksFor_iff_reduces.mpr wants,
      (wellFormed.shift_iff_baseTable built).mpr shifting, rfl⟩
  · rintro ⟨state, terminal, rule, alternative, target, asks, shifting, rfl⟩
    have wants := asksFor_iff_reduces.mp asks
    have dropped := (wellFormed.shift_iff_baseTable built).mp shifting
    exact ⟨⟨state, terminal, rule, alternative⟩, wellFormed.mem_candidates_iff_reduces.mpr wants,
      Table.dropped?_eq_some_iff.mpr ⟨target, dropped, rfl⟩⟩

/-- A table that is built is exact. -/
theorem exact_table (built : grammar.table = .ok table) : table.Exact grammar where
  length_eq := (wellFormed.sound_table built).length_eq
  accept_iff := wellFormed.accept_iff_acceptsOn built
  shift_iff := wellFormed.shift_iff_target? built
  reduce_iff := wellFormed.reduce_iff_asksFor built
  goto_iff := by
    intro state rule target
    rw [(wellFormed.sound_table built).goto]
    by_cases consumes : grammar.isTerminal (.rule rule) = true
    · simp [consumes]
    · simp [consumes]
  resolved_nodup := wellFormed.nodup_resolved built
  mem_resolved_iff := wellFormed.mem_resolved_iff_asksFor built

/-- A table from which no reduction was dropped lacks none, but it may accept instead. -/
theorem action?_of_lookahead (built : grammar.table = .ok table) (unresolved : table.resolved = [])
    (differs : rule ≠ startRule) (present : terminal ∈ grammar.lookaheads state rule alternative) :
    table.action? state terminal = some (.reduce rule alternative) ∨
      table.action? state terminal = some .accept := by
  have isExact := wellFormed.exact_table built
  have wants : grammar.Reduces state terminal rule alternative := ⟨differs, present⟩
  have asks := asksFor_iff_reduces.mpr wants
  by_cases accepting : grammar.AcceptsOn state terminal
  · exact .inr (isExact.accept_iff.mpr accepting)
  · left
    refine isExact.reduce_iff.mpr ⟨accepting, ?_, asks⟩
    rcases edge : grammar.automaton.target? state terminal with _ | target
    · rfl
    · have consumes := wellFormed.isTerminal_of_reduces wants
      have shifting := isExact.shift_iff.mpr ⟨accepting, consumes, edge⟩
      have recorded := isExact.mem_resolved_iff.mpr ⟨_, _, _, _, _, asks, shifting, rfl⟩
      rw [unresolved] at recorded
      cases recorded

end Grammar.WellFormed

namespace Grammar

/-- The table of a loaded grammar is refused exactly where a place is contested. Otherwise it
accepts, shifts, reduces and goes on as the automaton and the paths ask for, and every reduction
that it drops for a shift is on record once. -/
theorem Loaded.table_spec {grammar : Grammar} (loaded : grammar.Loaded) :
    ((∃ conflict, grammar.table = .error conflict) ↔
      ∃ state terminal, grammar.Contested state terminal) ∧
    ∀ table, grammar.table = .ok table → table.Exact grammar :=
  ⟨loaded.wellFormed.exists_conflict_iff, fun _ built => loaded.wellFormed.exact_table built⟩

/-- The text of a grammar in which an `else` can belong to more than one `if`. -/
def danglingText : String :=
  "<line> ::= \"if\" <line> | \"if\" <line> \"else\" <line> | \"stop\""

/-- What is loaded from that text. -/
def dangling : Grammar where
  rules := [⟨startName, .start, [[.rule 1]]⟩,
    ⟨"line", .declared, [[.terminal 1, .rule 1],
      [.terminal 1, .rule 1, .terminal 2, .rule 1], [.terminal 3]]⟩,
    ⟨"Token-EOL", .tokenClass lineBreakClass, []⟩, ⟨"Token-EOF", .tokenClass endClass, []⟩]
  terminals := ["", "if", "else", "stop"]
  classes := ["EOL", "EOF"]

theorem dangling_loaded : dangling.Loaded := by
  have read : (ofText Lexer.initial danglingText).toOption = some dangling := by decide +kernel
  exact ⟨Lexer.initial, .initial, danglingText, eq_ok_of_toOption read⟩

/-- Its table, in which an `else` belongs to the last `if`. -/
def danglingTable : Table where
  rows := [
    ⟨[(.terminal 1, .shift 1), (.terminal 3, .shift 2)], [(1, 3)]⟩,
    ⟨[(.terminal 1, .shift 1), (.terminal 3, .shift 2)], [(1, 4)]⟩,
    ⟨[(.terminal 2, .reduce 1 2), (.rule 3, .reduce 1 2)], []⟩,
    ⟨[(.rule 3, .accept)], []⟩,
    ⟨[(.terminal 2, .shift 5), (.rule 3, .reduce 1 0)], []⟩,
    ⟨[(.terminal 1, .shift 1), (.terminal 3, .shift 2)], [(1, 6)]⟩,
    ⟨[(.terminal 2, .reduce 1 1), (.rule 3, .reduce 1 1)], []⟩]
  resolved := [⟨4, .terminal 2, .shift 5, .reduce 1 0⟩]

theorem table_dangling : dangling.table = .ok danglingTable :=
  eq_ok_of_toOption (by decide +kernel)

/-- Behind the line of an `if`, an `else` is shifted, and the shorter alternative that also asks
for it there is all that is on record. -/
theorem table_spec_dangling : (¬∃ state terminal, dangling.Contested state terminal) ∧
    danglingTable.Exact dangling ∧
    ∀ state terminal rule alternative target, dangling.AsksFor state terminal rule alternative →
      danglingTable.action? state terminal = some (.shift target) →
        state = 4 ∧ terminal = .terminal 2 ∧ rule = 1 ∧ alternative = 0 := by
  obtain ⟨refused, built⟩ := dangling_loaded.table_spec
  have isExact := built danglingTable table_dangling
  refine ⟨fun contested => ?_, isExact, ?_⟩
  · obtain ⟨conflict, failed⟩ := refused.mpr contested
    cases failed.symm.trans table_dangling
  · intro state terminal rule alternative target asks shifting
    have listed := isExact.mem_resolved_iff.mpr ⟨_, _, _, _, _, asks, shifting, rfl⟩
    obtain ⟨here, on, -, others⟩ : state = 4 ∧ terminal = .terminal 2 ∧ target = 5 ∧ rule = 1 ∧
      alternative = 0 := by simpa [danglingTable] using listed
    exact ⟨here, on, others⟩

end Grammar

end ShiftReduce
