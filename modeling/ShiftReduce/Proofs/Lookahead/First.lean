import ShiftReduce.Proofs.Lookahead.Cover
import ShiftReduce.Proofs.Lookahead.Settle

/-!
# What may come first

The sets that settle for the edges of the path grammar hold what their symbols may start with, and
the empty literal where these may come to nothing. The state that a symbol is read from plays no
part in that.

## Main definitions

* `Grammar.lookahead` — the lookahead sets of a grammar
* `Grammar.Opens` — what a symbol may start with, or the empty literal if it may vanish
* `Grammar.FirstInvariant` — what passes keep of the sets

## Main results

* `Grammar.WellFormed.nullable_firstOf_iff`, `Grammar.WellFormed.mem_firstOf_iff` — what is found
  along symbols that can be read
* `Grammar.Loaded.first_spec` — the sets that settle hold what symbols may start with
-/

namespace ShiftReduce

/-! ### Along edges -/

section Along

variable {first : List SymbolSet} {edge : EdgeIndex} {edges : List EdgeIndex} {symbol : Symbol}

theorem nullable_firstOf_cons : (firstOf first (edge :: edges)).2 = true ↔
    Symbol.epsilon ∈ symbolsAt first edge ∧ (firstOf first edges).2 = true := by
  rw [firstOf]
  split <;> simp_all

theorem mem_firstOf_cons : symbol ∈ (firstOf first (edge :: edges)).1 ↔
    (symbol ∈ symbolsAt first edge ∧ symbol ≠ .epsilon) ∨
      (Symbol.epsilon ∈ symbolsAt first edge ∧ symbol ∈ (firstOf first edges).1) := by
  rw [firstOf]
  split <;> simp_all

/-- What is found along edges is in the set of one of them. -/
theorem exists_mem_of_mem_firstOf (present : symbol ∈ (firstOf first edges).1) :
    ∃ edge, symbol ∈ symbolsAt first edge := by
  induction edges with
  | nil => cases present
  | cons edge rest ih =>
    rcases mem_firstOf_cons.mp present with ⟨here, -⟩ | ⟨-, later⟩
    · exact ⟨edge, here⟩
    · exact ih later

/-- What a pass adds to the set of a path's rule. -/
def foundFirst (first : List SymbolSet) (edges : List EdgeIndex) : SymbolSet :=
  if (firstOf first edges).2 then SymbolSet.insert .epsilon (firstOf first edges).1
  else (firstOf first edges).1

theorem mem_foundFirst : symbol ∈ foundFirst first edges ↔
    (symbol = .epsilon ∧ (firstOf first edges).2 = true) ∨ symbol ∈ (firstOf first edges).1 := by
  unfold foundFirst
  split <;> simp_all

theorem firstStep_eq (rule : PathRule) : PathGrammar.firstStep first rule =
    extendAt first rule.head (foundFirst first rule.body) := rfl

end Along

theorem PathGrammar.first_lookahead (paths : PathGrammar) (grammar : Grammar) :
    (paths.lookahead grammar).first =
      (settle paths.firstPass (paths.passBound grammar) (paths.initialFirst grammar)).1 := rfl

theorem PathGrammar.firstPasses_lookahead (paths : PathGrammar) (grammar : Grammar) :
    (paths.lookahead grammar).firstPasses =
      (settle paths.firstPass (paths.passBound grammar) (paths.initialFirst grammar)).2 := rfl

namespace Grammar

/-- The lookahead sets of the paths through the automaton of a grammar. -/
def lookahead (grammar : Grammar) : Lookahead := grammar.paths.lookahead grammar

variable {grammar : Grammar}

/-- What a symbol may start with, or the empty literal if the symbol may come to nothing. -/
def Opens (grammar : Grammar) (symbol opening : Symbol) : Prop :=
  (opening = .epsilon ∧ grammar.Vanishes [symbol]) ∨ grammar.Starts [symbol] opening

/-- What passes keep of the sets of all edges: those of terminals hold them, and none holds more
than what its symbol may start with. -/
structure FirstInvariant (grammar : Grammar) (first : List SymbolSet) : Prop where
  bounded : Bounded grammar.rules.length grammar.terminals.length grammar.paths.edges.length first
  terminals : ∀ {set symbol}, grammar.automaton.edge set symbol ∈ grammar.paths.edges →
    grammar.isTerminal symbol = true → symbol ∈ symbolsAt first (grammar.step set symbol)
  sound : ∀ {set symbol}, grammar.automaton.edge set symbol ∈ grammar.paths.edges →
    ∀ opening ∈ symbolsAt first (grammar.step set symbol), grammar.Opens symbol opening

theorem Opens.epsilon_iff {symbol : Symbol} :
    grammar.Opens symbol .epsilon ↔ grammar.Vanishes [symbol] := by
  constructor
  · rintro (⟨-, vanishes⟩ | starts)
    · exact vanishes
    · exact absurd rfl starts.ne_epsilon
  · exact fun vanishes => .inl ⟨rfl, vanishes⟩

/-- Edges of different symbols or states have different numbers. -/
theorem edge_eq_of_step_eq {set other : SetIndex} {symbol otherSymbol : Symbol}
    (known : grammar.automaton.edge set symbol ∈ grammar.paths.edges)
    (same : grammar.step set symbol = grammar.step other otherSymbol) :
    set = other ∧ symbol = otherSymbol := by
  have edges := (List.idxOf_inj known).mp same
  exact ⟨congrArg Edge.source edges, congrArg Edge.symbol edges⟩

theorem step_lt_length {set : SetIndex} {symbol : Symbol}
    (known : grammar.automaton.edge set symbol ∈ grammar.paths.edges) :
    grammar.step set symbol < grammar.paths.edges.length :=
  List.idxOf_lt_length_of_mem known

namespace WellFormed

variable (wellFormed : grammar.WellFormed)
include wellFormed

/-! ### Before any pass -/

theorem epsilon_inRange :
    Symbol.epsilon.InRange grammar.rules.length grammar.terminals.length := by
  have head := wellFormed.terminals_head
  rw [List.head?_eq_getElem?] at head
  exact (List.getElem?_eq_some_iff.mp head).1

/-- A terminal that is read next is there. -/
theorem inRange_of_mem_edges {set : SetIndex} {symbol : Symbol}
    (known : grammar.automaton.edge set symbol ∈ grammar.paths.edges)
    (consumes : grammar.isTerminal symbol = true) :
    symbol.InRange grammar.rules.length grammar.terminals.length := by
  obtain ⟨other, otherSymbol, same, origin⟩ := wellFormed.mem_edges_cases known
  obtain rfl : symbol = otherSymbol := congrArg Edge.symbol same
  rcases origin with ⟨-, rfl⟩ | ⟨item, present, next⟩
  · rw [wellFormed.isTerminal_startRule] at consumes
    cases consumes
  · have listed := wellFormed.symbols_mem_alternatives present
    exact wellFormed.inRange listed (List.mem_of_getElem? next)

omit wellFormed in
theorem symbolsAt_initialFirst {set : SetIndex} {symbol : Symbol}
    (known : grammar.automaton.edge set symbol ∈ grammar.paths.edges) :
    symbolsAt (grammar.paths.initialFirst grammar) (grammar.step set symbol) =
      if grammar.isTerminal symbol then [symbol] else [] := by
  rw [symbolsAt, PathGrammar.initialFirst, List.getElem?_map, step, List.getElem?_idxOf known]
  rfl

theorem bounded_initialFirst : Bounded grammar.rules.length grammar.terminals.length
    grammar.paths.edges.length (grammar.paths.initialFirst grammar) := by
  refine ⟨List.length_map _, ?_, ?_⟩
  · intro set present
    obtain ⟨edge, -, rfl⟩ := List.mem_map.mp present
    split
    · exact List.pairwise_singleton ..
    · exact .nil
  · intro set present symbol inSet
    obtain ⟨edge, known, rfl⟩ := List.mem_map.mp present
    split at inSet
    · rename_i consumes
      obtain rfl := List.mem_singleton.mp inSet
      obtain ⟨set, symbol, rfl, -⟩ := wellFormed.mem_edges_cases known
      exact wellFormed.inRange_of_mem_edges known consumes
    · cases inSet

theorem firstInvariant_initialFirst :
    grammar.FirstInvariant (grammar.paths.initialFirst grammar) where
  bounded := wellFormed.bounded_initialFirst
  terminals := by
    intro set symbol known consumes
    rw [symbolsAt_initialFirst known, if_pos consumes]
    exact List.mem_cons_self
  sound := by
    intro set symbol known opening present
    rw [symbolsAt_initialFirst known] at present
    split at present
    · rename_i consumes
      obtain rfl := List.mem_singleton.mp present
      by_cases blank : opening = .epsilon
      · exact .inl ⟨blank, blank ▸ .epsilon .nil⟩
      · exact .inr (.terminal consumes blank)
    · cases present

/-! ### Passes -/

/-- Sound sets find no more along symbols than what these may start with. -/
theorem sound_firstOf {first : List SymbolSet} (invariant : grammar.FirstInvariant first)
    {set : SetIndex} {symbols : List Symbol}
    (reads : grammar.automaton.Reads grammar set symbols) :
    ((firstOf first (grammar.steps set symbols)).2 = true → grammar.Vanishes symbols) ∧
      ∀ opening ∈ (firstOf first (grammar.steps set symbols)).1,
        grammar.Starts symbols opening := by
  -- By induction on the symbols, from the state that those before them lead to.
  induction symbols generalizing set with
  | nil => exact ⟨fun _ => .nil, fun _ present => absurd present List.not_mem_nil⟩
  | cons symbol rest ih =>
    have known := wellFormed.edge_mem_edges reads
    obtain ⟨target, edge, later⟩ := wellFormed.reads_cons reads
    obtain ⟨vanishes, starts⟩ := ih later
    have blank : .epsilon ∈ symbolsAt first (grammar.step set symbol) →
        grammar.Vanishes [symbol] :=
      fun present => Opens.epsilon_iff.mp (invariant.sound known _ present)
    rw [steps_cons edge]
    constructor
    · intro nullable
      obtain ⟨here, onward⟩ := nullable_firstOf_cons.mp nullable
      exact (blank here).append (vanishes onward)
    · intro opening present
      rcases mem_firstOf_cons.mp present with ⟨here, visible⟩ | ⟨here, onward⟩
      · rcases invariant.sound known _ here with ⟨same, -⟩ | starts
        · exact absurd same visible
        · exact starts.append_left rest
      · exact .skip (blank here) (starts opening onward)

theorem inRange_foundFirst {first : List SymbolSet} {edges : List EdgeIndex} {symbol : Symbol}
    (bounded : Bounded grammar.rules.length grammar.terminals.length
      grammar.paths.edges.length first)
    (present : symbol ∈ foundFirst first edges) :
    symbol.InRange grammar.rules.length grammar.terminals.length := by
  rcases mem_foundFirst.mp present with ⟨rfl, -⟩ | present
  · exact wellFormed.epsilon_inRange
  · obtain ⟨edge, inSet⟩ := exists_mem_of_mem_firstOf present
    exact bounded.symbolsAt_inRange inSet

/-- The step of a path keeps the invariant. -/
theorem firstInvariant_firstStep {first : List SymbolSet}
    (invariant : grammar.FirstInvariant first) {use : PathRule}
    (listed : use ∈ grammar.paths.rules) :
    grammar.FirstInvariant (PathGrammar.firstStep first use) where
  bounded := by
    rw [firstStep_eq]
    exact invariant.bounded.extendAt fun _ => wellFormed.inRange_foundFirst invariant.bounded
  terminals := by
    intro set symbol known consumes
    rw [firstStep_eq]
    exact mem_extendAt_of_mem (invariant.terminals known consumes)
  sound := by
    intro set symbol known opening present
    rw [firstStep_eq] at present
    obtain ⟨source, rule, alternative, starts, rfl⟩ := wellFormed.mem_path_rules_iff.mp listed
    rcases mem_or_of_mem_extendAt present with old | ⟨same, found⟩
    · exact invariant.sound known opening old
    · dsimp only at same found
      obtain ⟨rfl, rfl⟩ := edge_eq_of_step_eq known same
      have inner := wellFormed.symbols_mem_alternatives starts
      obtain ⟨vanishes, begins⟩ := wellFormed.sound_firstOf invariant (reads_of_start starts)
      rcases mem_foundFirst.mp found with ⟨blank, nullable⟩ | found
      · exact .inl ⟨blank, .rule inner (vanishes nullable) .nil⟩
      · exact .inr (.expand inner (begins opening found))

theorem enlarges_firstStep {use : PathRule} (listed : use ∈ grammar.paths.rules) :
    Enlarges sizeOfSets grammar.FirstInvariant (PathGrammar.firstStep · use) where
  kept := fun invariant => wellFormed.firstInvariant_firstStep invariant listed
  grows := by
    intro first invariant
    rw [firstStep_eq]
    exact Bounded.extendAt_grows invariant.bounded.ascending

/-! ### The sets that settle -/

theorem enlarges_firstPass :
    Enlarges sizeOfSets grammar.FirstInvariant grammar.paths.firstPass :=
  Enlarges.foldl fun _ => wellFormed.enlarges_firstStep

theorem firstInvariant_lookahead : grammar.FirstInvariant grammar.lookahead.first := by
  rw [lookahead, PathGrammar.first_lookahead]
  exact settle_induction (fun _ => wellFormed.enlarges_firstPass.kept)
    wellFormed.firstInvariant_initialFirst

/-- Passes come to an end with these sets. -/
theorem settles_first : Settles grammar.paths.firstPass (grammar.paths.initialFirst grammar)
    grammar.lookahead.first grammar.lookahead.firstPasses := by
  rw [lookahead, PathGrammar.first_lookahead, PathGrammar.firstPasses_lookahead]
  exact wellFormed.enlarges_firstPass.settles_passBound (fun _ invariant => invariant.bounded)
    wellFormed.firstInvariant_initialFirst

/-- No step changes the sets that settle. -/
theorem firstStep_lookahead {use : PathRule} (listed : use ∈ grammar.paths.rules) :
    PathGrammar.firstStep grammar.lookahead.first use = grammar.lookahead.first :=
  Enlarges.foldl_fixed (fun _ => wellFormed.enlarges_firstStep)
    wellFormed.firstInvariant_lookahead wellFormed.settles_first.pass_eq use listed

/-- The set of a rule holds what is found along its alternatives. -/
theorem foundFirst_subset {set : SetIndex} {rule : RuleIndex} {alternative : Nat}
    (starts : ⟨rule, alternative, 0⟩ ∈ grammar.automaton.items set) {opening : Symbol}
    (found : opening ∈ foundFirst grammar.lookahead.first
      (grammar.steps set (grammar.alternative rule alternative))) :
    opening ∈ symbolsAt grammar.lookahead.first (grammar.step set (.rule rule)) := by
  have inPaths := wellFormed.mem_path_rules_iff.mpr ⟨set, rule, alternative, starts, rfl⟩
  rw [← wellFormed.firstStep_lookahead inPaths, firstStep_eq]
  dsimp only
  refine mem_extendAt_self ?_ found
  rw [wellFormed.firstInvariant_lookahead.bounded.length_eq]
  exact step_lt_length (head_mem_edges starts)

/-- Nothing is needed along symbols that vanish. -/
theorem nullable_of_vanishes {symbols : List Symbol} (vanishes : grammar.Vanishes symbols)
    {set : SetIndex} (reads : grammar.automaton.Reads grammar set symbols) :
    (firstOf grammar.lookahead.first (grammar.steps set symbols)).2 = true := by
  induction vanishes generalizing set with
  | nil => rfl
  | epsilon _ ih =>
    obtain ⟨target, edge, later⟩ := wellFormed.reads_cons reads
    have here := wellFormed.firstInvariant_lookahead.terminals
      (wellFormed.edge_mem_edges reads) rfl
    rw [steps_cons edge]
    exact nullable_firstOf_cons.mpr ⟨here, ih later⟩
  | rule listed _ _ innerIh laterIh =>
    obtain ⟨target, edge, later⟩ := wellFormed.reads_cons reads
    obtain ⟨alternative, starts, rfl⟩ := startingItem_of_reads reads listed
    have inner := innerIh (reads_of_start starts)
    have here := wellFormed.foundFirst_subset starts (mem_foundFirst.mpr (.inl ⟨rfl, inner⟩))
    rw [steps_cons edge]
    exact nullable_firstOf_cons.mpr ⟨here, laterIh later⟩

/-- What symbols start with is found along them. -/
theorem mem_firstOf_of_starts {symbols : List Symbol} {opening : Symbol}
    (starts : grammar.Starts symbols opening) {set : SetIndex}
    (reads : grammar.automaton.Reads grammar set symbols) :
    opening ∈ (firstOf grammar.lookahead.first (grammar.steps set symbols)).1 := by
  induction starts generalizing set with
  | terminal consumes visible =>
    obtain ⟨target, edge, -⟩ := wellFormed.reads_cons reads
    have here := wellFormed.firstInvariant_lookahead.terminals
      (wellFormed.edge_mem_edges reads) consumes
    rw [steps_cons edge]
    exact mem_firstOf_cons.mpr (.inl ⟨here, visible⟩)
  | @skip symbol _ rest vanishes _ ih =>
    obtain ⟨target, edge, later⟩ := wellFormed.reads_cons reads
    have alone : grammar.automaton.Reads grammar set [symbol] := reads_of_append reads
    have nullable := wellFormed.nullable_of_vanishes vanishes alone
    rw [steps_cons edge] at nullable
    have here := (nullable_firstOf_cons.mp nullable).1
    rw [steps_cons edge]
    exact mem_firstOf_cons.mpr (.inr ⟨here, ih later⟩)
  | expand listed inner ih =>
    obtain ⟨target, edge, later⟩ := wellFormed.reads_cons reads
    obtain ⟨alternative, starts, rfl⟩ := startingItem_of_reads reads listed
    have found := ih (reads_of_start starts)
    have here := wellFormed.foundFirst_subset starts (mem_foundFirst.mpr (.inr found))
    rw [steps_cons edge]
    exact mem_firstOf_cons.mpr (.inl ⟨here, inner.ne_epsilon⟩)

/-- Nothing need be read along symbols that vanish, and no others. -/
theorem nullable_firstOf_iff {set : SetIndex} {symbols : List Symbol}
    (reads : grammar.automaton.Reads grammar set symbols) :
    (firstOf grammar.lookahead.first (grammar.steps set symbols)).2 = true ↔
      grammar.Vanishes symbols :=
  ⟨(wellFormed.sound_firstOf wellFormed.firstInvariant_lookahead reads).1,
    fun vanishes => wellFormed.nullable_of_vanishes vanishes reads⟩

/-- Along symbols that can be read is found what they start with. -/
theorem mem_firstOf_iff {set : SetIndex} {symbols : List Symbol} {opening : Symbol}
    (reads : grammar.automaton.Reads grammar set symbols) :
    opening ∈ (firstOf grammar.lookahead.first (grammar.steps set symbols)).1 ↔
      grammar.Starts symbols opening :=
  ⟨(wellFormed.sound_firstOf wellFormed.firstInvariant_lookahead reads).2 opening,
    fun starts => wellFormed.mem_firstOf_of_starts starts reads⟩

/-! ### The sets of edges -/

/-- A symbol that is read next has in its set what it may start with. -/
theorem mem_first_of_reads {set : SetIndex} {symbol opening : Symbol}
    (reads : grammar.automaton.Reads grammar set [symbol])
    (opens : grammar.Opens symbol opening) :
    opening ∈ symbolsAt grammar.lookahead.first (grammar.step set symbol) := by
  obtain ⟨target, edge, -⟩ := wellFormed.reads_cons reads
  rcases opens with ⟨rfl, vanishes⟩ | starts
  · have nullable := wellFormed.nullable_of_vanishes vanishes reads
    rw [steps_cons edge] at nullable
    exact (nullable_firstOf_cons.mp nullable).1
  · have found := wellFormed.mem_firstOf_of_starts starts reads
    rw [steps_cons edge] at found
    rcases mem_firstOf_cons.mp found with ⟨here, -⟩ | ⟨-, behind⟩
    · exact here
    · cases behind

/-- The start rule, which is read nowhere, has in its set what the first declared rule does. -/
theorem mem_first_startRule {opening : Symbol} (opens : grammar.Opens (.rule startRule) opening) :
    opening ∈ symbolsAt grammar.lookahead.first (grammar.step startSet (.rule startRule)) := by
  have only {symbols : List Symbol} (listed : symbols ∈ grammar.alternatives startRule) :
      symbols = grammar.alternative startRule 0 := by
    rw [wellFormed.alternatives_startRule] at listed
    rw [wellFormed.alternative_startRule, List.mem_singleton.mp listed]
  have starts := wellFormed.startItem_mem_items
  refine wellFormed.foundFirst_subset starts (mem_foundFirst.mpr ?_)
  rcases opens with ⟨blank, vanishes⟩ | begins
  · cases vanishes with
    | rule listed inner _ =>
      obtain rfl := only listed
      exact .inl ⟨blank, wellFormed.nullable_of_vanishes inner (reads_of_start starts)⟩
  · cases begins with
    | terminal consumes _ =>
      rw [wellFormed.isTerminal_startRule] at consumes
      cases consumes
    | skip _ later => cases later
    | expand listed inner =>
      obtain rfl := only listed
      exact .inr (wellFormed.mem_firstOf_of_starts inner (reads_of_start starts))

/-- The set of an edge holds what its symbol may start with. -/
theorem mem_first_iff {set : SetIndex} {symbol opening : Symbol}
    (known : grammar.automaton.edge set symbol ∈ grammar.paths.edges) :
    opening ∈ symbolsAt grammar.lookahead.first (grammar.step set symbol) ↔
      grammar.Opens symbol opening := by
  refine ⟨wellFormed.firstInvariant_lookahead.sound known opening, fun opens => ?_⟩
  obtain ⟨other, otherSymbol, same, origin⟩ := wellFormed.mem_edges_cases known
  obtain rfl : set = other := congrArg Edge.source same
  obtain rfl : symbol = otherSymbol := congrArg Edge.symbol same
  rcases origin with ⟨rfl, rfl⟩ | ⟨item, present, next⟩
  · exact wellFormed.mem_first_startRule opens
  · exact wellFormed.mem_first_of_reads (reads_of_next present next) opens

theorem mem_first_iff_of_getElem? {index : EdgeIndex} {edge : Edge} {opening : Symbol}
    (known : grammar.paths.edges[index]? = some edge) :
    opening ∈ symbolsAt grammar.lookahead.first index ↔ grammar.Opens edge.symbol opening := by
  have listed := List.mem_of_getElem? known
  obtain ⟨set, symbol, rfl, -⟩ := wellFormed.mem_edges_cases listed
  rw [← step_eq_of_getElem? known]
  exact wellFormed.mem_first_iff listed

/-- The sets hold terminals. -/
theorem isTerminal_of_mem_first {index : EdgeIndex} {opening : Symbol}
    (present : opening ∈ symbolsAt grammar.lookahead.first index) (visible : opening ≠ .epsilon) :
    grammar.isTerminal opening = true := by
  have inside : index < grammar.paths.edges.length := by
    rw [← wellFormed.firstInvariant_lookahead.bounded.length_eq]
    refine Nat.lt_of_not_le fun outside => ?_
    rw [symbolsAt, List.getElem?_eq_none outside] at present
    cases present
  rcases (wellFormed.mem_first_iff_of_getElem? (List.getElem?_eq_getElem inside)).mp present with
    ⟨blank, -⟩ | starts
  · exact absurd blank visible
  · exact starts.isTerminal

end WellFormed

theorem opens_iff {symbol opening : Symbol} : grammar.Opens symbol opening ↔
    grammar.First [symbol] opening ∨ opening = .epsilon ∧
      ∃ blanks, grammar.Derives [symbol] blanks ∧ ∀ blank ∈ blanks, blank = .epsilon := by
  rw [Opens, first_iff_starts, vanishes_iff, or_comm]

/-- The passes over the paths of a loaded grammar come to an end, and then the set of every edge
holds the terminals that something derived from its symbol starts with, and the empty literal if a
row of nothing but empty literals can be derived. The state that the symbol is read from makes no
difference. -/
theorem Loaded.first_spec (loaded : grammar.Loaded) :
    Settles grammar.paths.firstPass (grammar.paths.initialFirst grammar)
      grammar.lookahead.first grammar.lookahead.firstPasses ∧
    (∀ index edge, grammar.paths.edges[index]? = some edge → ∀ symbol,
      symbol ∈ symbolsAt grammar.lookahead.first index ↔
        grammar.First [edge.symbol] symbol ∨ symbol = .epsilon ∧
          ∃ blanks, grammar.Derives [edge.symbol] blanks ∧ ∀ blank ∈ blanks, blank = .epsilon) ∧
    ∀ left right edge other, grammar.paths.edges[left]? = some edge →
      grammar.paths.edges[right]? = some other → edge.symbol = other.symbol →
        symbolsAt grammar.lookahead.first left = symbolsAt grammar.lookahead.first right := by
  have wellFormed := loaded.wellFormed
  have ascending := wellFormed.firstInvariant_lookahead.bounded.ascending_symbolsAt
  refine ⟨wellFormed.settles_first, ?_, ?_⟩
  · intro index edge known symbol
    exact (wellFormed.mem_first_iff_of_getElem? known).trans opens_iff
  · intro left right edge other knownLeft knownRight same
    refine (ascending left).eq_of_mem_iff (ascending right) fun symbol => ?_
    rw [wellFormed.mem_first_iff_of_getElem? knownLeft,
      wellFormed.mem_first_iff_of_getElem? knownRight, same]

/-- A word may start with its last letter, behind an empty stem. A stem may not, and it may start
with the same behind a letter as in front of it. -/
theorem first_spec_sample : sample.First [.rule 1] (.terminal 1) ∧
    ¬sample.First [.rule 2] (.terminal 1) ∧
    symbolsAt sample.lookahead.first 2 = symbolsAt sample.lookahead.first 5 := by
  obtain ⟨-, holds, same⟩ := sample_loaded.first_spec
  have word : sample.paths.edges[1]? = some ⟨0, some 3, .rule 1⟩ := by decide +kernel
  have stem : sample.paths.edges[2]? = some ⟨0, some 4, .rule 2⟩ := by decide +kernel
  have inner : sample.paths.edges[5]? = some ⟨2, some 5, .rule 2⟩ := by decide +kernel
  refine ⟨?_, fun starts => ?_, same 2 5 _ _ stem inner rfl⟩
  · exact ((holds 1 _ word _).mp (by decide +kernel)).resolve_right fun blank => by cases blank.1
  · exact absurd ((holds 2 _ stem _).mpr (.inl starts)) (by decide +kernel)

end Grammar

end ShiftReduce
