import ShiftReduce.Proofs.Lookahead.Paths

/-!
# Paths cover the automaton

The paths of a grammar are one for each item with nothing read in each state. Such a path reads the
symbols of its alternative, each from the state that the one before leads to, and ends where the
alternative is read completely. In turn, every alternative that is read completely in some state is
that of a path which ends there, so no reduction lacks a path.

## Main definitions

* `PathGrammar.Joins` — edges that read symbols one after the other
* `PathGrammar.Traces` — the path of an item with nothing read
* `PathGrammar.Covers` — path grammars whose paths are those of an automaton

## Main results

* `Grammar.Loaded.covers_paths` — the paths of a loaded grammar cover its automaton
-/

namespace ShiftReduce

/-! ### What paths cover -/

namespace PathGrammar

/-- Edges, by number, that read some symbols: the first one from a given state, and each from the
state that the one before leads to. The last one leads to another given state. -/
inductive Joins (paths : PathGrammar) : SetIndex → List EdgeIndex → List Symbol → SetIndex → Prop
  | nil {set : SetIndex} : Joins paths set [] [] set
  | cons {set middle target : SetIndex} {symbol : Symbol} {symbols : List Symbol}
      {index : EdgeIndex} {indices : List EdgeIndex} :
      paths.edges[index]? = some ⟨set, some middle, symbol⟩ →
      Joins paths middle indices symbols target →
      Joins paths set (index :: indices) (symbol :: symbols) target

/-- A path is that of an item with nothing read in some state. The edge of its rule starts there and
leads somewhere, unless it is the first edge of all. Its other edges read the symbols of the
alternative from there, and the alternative is read completely where they end. -/
structure Traces (paths : PathGrammar) (grammar : Grammar) (start : SetIndex × Item)
    (use : PathRule) : Prop where
  rule_eq : use.rule = start.2.rule
  alternative_eq : use.alternative = start.2.alternative
  head : ∃ target, paths.edges[use.head]? = some ⟨start.1, target, .rule use.rule⟩ ∧
    (target = none ↔ use.head = 0)
  body : ∃ target,
    paths.Joins start.1 use.body (grammar.alternative use.rule use.alternative) target ∧
    paths.finalSet? use = some target ∧
    ⟨use.rule, use.alternative, (grammar.alternative use.rule use.alternative).length⟩ ∈
      grammar.automaton.items target

/-- The paths are those of the items with nothing read in all states, one for each. The first edge
is that of the start rule from the first state, every alternative that is read completely in some
state has a path that ends there, and an edge is known by its symbol and the state it starts in. -/
structure Covers (paths : PathGrammar) (grammar : Grammar) : Prop where
  starts_nodup : grammar.automaton.starts.Nodup
  traces : List.Forall₂ (paths.Traces grammar) grammar.automaton.starts paths.rules
  first : paths.edges[0]? = some ⟨startSet, none, .rule Grammar.startRule⟩
  complete : ∀ {set item}, item ∈ grammar.automaton.items set → item.isComplete grammar = true →
    ∃ use ∈ paths.rules, use.rule = item.rule ∧ use.alternative = item.alternative ∧
      paths.finalSet? use = some set
  edges_inj : ∀ {left right : EdgeIndex} {edge other : Edge}, paths.edges[left]? = some edge →
    paths.edges[right]? = some other → edge.source = other.source → edge.symbol = other.symbol →
      left = right

end PathGrammar

/-! ### Edges -/

theorem nodup_eraseDups {α : Type} [BEq α] [LawfulBEq α] : ∀ elements : List α,
    elements.eraseDups.Nodup
  | [] => List.nodup_nil
  | first :: rest => by
    rw [List.eraseDups_cons, List.nodup_cons, List.mem_eraseDups]
    exact ⟨by simp, nodup_eraseDups _⟩
termination_by elements => elements.length
decreasing_by exact Nat.lt_succ_of_le (List.length_filter_le ..)

namespace Grammar

variable {grammar : Grammar}

theorem nodup_edges : grammar.paths.edges.Nodup := by
  rw [edges_paths]
  exact nodup_eraseDups _

theorem getElem?_step {set : SetIndex} {symbol : Symbol}
    (known : grammar.automaton.edge set symbol ∈ grammar.paths.edges) :
    grammar.paths.edges[grammar.step set symbol]? = some (grammar.automaton.edge set symbol) :=
  List.getElem?_idxOf known

/-- An edge is in one place only. -/
theorem step_eq_of_getElem? {index : EdgeIndex} {set : SetIndex} {symbol : Symbol}
    (known : grammar.paths.edges[index]? = some (grammar.automaton.edge set symbol)) :
    grammar.step set symbol = index := by
  obtain ⟨inside, same⟩ := List.getElem?_eq_some_iff.mp known
  rw [step, ← same]
  exact nodup_edges.idxOf_getElem index inside

namespace WellFormed

variable (wellFormed : grammar.WellFormed)
include wellFormed

/-- Where the start rule starts, it does not come next. -/
theorem target?_startRule (set : SetIndex) :
    grammar.automaton.target? set (.rule startRule) = none := by
  rw [Option.eq_none_iff_forall_not_mem]
  intro target edge
  obtain ⟨item, -, next⟩ := wellFormed.target?_isSome_iff.mp ⟨target, edge⟩
  exact wellFormed.next?_ne_startRule item next

theorem edge_startRule_mem_edges :
    grammar.automaton.edge startSet (.rule startRule) ∈ grammar.paths.edges :=
  head_mem_edges wellFormed.startItem_mem_items

theorem getElem?_edges_zero :
    grammar.paths.edges[0]? = some ⟨startSet, none, .rule startRule⟩ := by
  have first := getElem?_step wellFormed.edge_startRule_mem_edges
  rwa [wellFormed.step_startRule, Automaton.edge, wellFormed.target?_startRule] at first

/-- Of the rules that start somewhere, the start rule alone does not come next there. -/
theorem target?_eq_none_iff {set : SetIndex} {rule : RuleIndex} {alternative : Nat}
    (present : ⟨rule, alternative, 0⟩ ∈ grammar.automaton.items set) :
    grammar.automaton.target? set (.rule rule) = none ↔ rule = startRule := by
  constructor
  · intro nowhere
    by_contra differs
    obtain ⟨target, edge⟩ := wellFormed.exists_target?_of_start present differs
    cases edge.symm.trans nowhere
  · rintro rfl
    exact wellFormed.target?_startRule set

/-- The edge of a rule that starts somewhere is the first of all if it is the start rule's. -/
theorem step_eq_zero_iff {set : SetIndex} {rule : RuleIndex} {alternative : Nat}
    (present : ⟨rule, alternative, 0⟩ ∈ grammar.automaton.items set) :
    grammar.step set (.rule rule) = 0 ↔ rule = startRule := by
  constructor
  · intro first
    have known := getElem?_step (head_mem_edges present)
    rw [first, wellFormed.getElem?_edges_zero] at known
    exact (Symbol.rule.inj (Edge.mk.inj (Option.some.inj known)).2.2).symm
  · rintro rfl
    obtain ⟨inside, -⟩ := mem_items.mp (wellFormed.mem_items_of_mem_set present)
    rw [wellFormed.alternatives_startRule] at inside
    obtain rfl : alternative = 0 := Nat.lt_one_iff.mp inside
    obtain rfl := wellFormed.eq_startSet_of_startItem present
    exact wellFormed.step_startRule

/-- The edges of a path are among those of the path grammar. -/
theorem lt_length_of_mem_body {use : PathRule} (listed : use ∈ grammar.paths.rules)
    {index : EdgeIndex} (inBody : index ∈ use.body) : index < grammar.paths.edges.length := by
  rw [wellFormed.rules_paths] at listed
  obtain ⟨⟨set, item⟩, starts, rfl⟩ := List.mem_map.mp listed
  obtain ⟨edge, along, rfl⟩ := List.mem_map.mp inBody
  obtain ⟨present, unread⟩ := mem_starts_iff.mp starts
  have path := mem_paths_iff.mpr ⟨set, item, present, unread, rfl⟩
  exact List.idxOf_lt_length_of_mem (mem_edges_of_paths.mpr ⟨_, path, .inr along⟩)

/-- An edge is known by its symbol and the state it starts in. -/
theorem edges_inj {left right : EdgeIndex} {edge other : Edge}
    (first : grammar.paths.edges[left]? = some edge)
    (second : grammar.paths.edges[right]? = some other) (source : edge.source = other.source)
    (symbol : edge.symbol = other.symbol) : left = right := by
  obtain ⟨_, _, rfl, -⟩ := wellFormed.mem_edges_cases (List.mem_of_getElem? first)
  obtain ⟨_, _, rfl, -⟩ := wellFormed.mem_edges_cases (List.mem_of_getElem? second)
  rw [← step_eq_of_getElem? first, ← step_eq_of_getElem? second]
  exact congrArg₂ grammar.step source symbol

/-! ### Paths -/

/-- What can be read from a state is read along edges of the path grammar. -/
theorem joins_of_reads {set target : SetIndex} {symbols : List Symbol}
    (reads : grammar.automaton.Reads grammar set symbols)
    (reached : grammar.automaton.reach? set symbols = some target) :
    grammar.paths.Joins set (grammar.steps set symbols) symbols target := by
  -- By induction on the symbols, from the state that those before them lead to.
  induction symbols generalizing set with
  | nil =>
    obtain rfl := Option.some.inj reached
    exact .nil
  | cons symbol rest ih =>
    obtain ⟨middle, edge, onward⟩ := wellFormed.reads_cons reads
    rw [Automaton.reach?, edge] at reached
    rw [steps_cons edge]
    refine .cons ?_ (ih onward reached)
    rw [getElem?_step (wellFormed.edge_mem_edges reads), Automaton.edge, edge]

/-- The path of an item with nothing read in a state. -/
theorem traces_of_mem_items {set : SetIndex} {rule : RuleIndex} {alternative : Nat}
    (present : ⟨rule, alternative, 0⟩ ∈ grammar.automaton.items set) :
    grammar.paths.Traces grammar (set, ⟨rule, alternative, 0⟩)
      ⟨grammar.step set (.rule rule), grammar.steps set (grammar.alternative rule alternative),
        rule, alternative⟩ := by
  obtain ⟨target, reached⟩ := wellFormed.exists_reach?_symbols present
  have complete := wellFormed.mem_items_of_reach? present (Nat.le_refl _)
    (by rwa [List.take_length])
  have head : grammar.paths.edges[grammar.step set (.rule rule)]? =
      some ⟨set, grammar.automaton.target? set (.rule rule), .rule rule⟩ :=
    getElem?_step (head_mem_edges present)
  have first : grammar.automaton.target? set (.rule rule) = none ↔
      grammar.step set (.rule rule) = 0 :=
    (wellFormed.target?_eq_none_iff present).trans (wellFormed.step_eq_zero_iff present).symm
  refine ⟨rfl, rfl, ?_, target, wellFormed.joins_of_reads (reads_of_start present) reached,
    wellFormed.finalSet?_of_mem present reached, complete⟩
  dsimp only
  exact ⟨_, head, first⟩

/-- An alternative that is read completely has a path that ends there. -/
theorem exists_use_of_complete {set : SetIndex} {item : Item}
    (present : item ∈ grammar.automaton.items set) (complete : item.isComplete grammar = true) :
    ∃ use ∈ grammar.paths.rules, use.rule = item.rule ∧ use.alternative = item.alternative ∧
      grammar.paths.finalSet? use = some set := by
  -- The item was read from some state on, and the path that starts there ends here.
  obtain ⟨source, starts, along⟩ := wellFormed.exists_source present
  rw [List.take_of_length_le (of_decide_eq_true complete)] at along
  exact ⟨_, wellFormed.mem_path_rules_iff.mpr ⟨source, _, _, starts, rfl⟩, rfl, rfl,
    wellFormed.finalSet?_of_mem starts along⟩

theorem nodup_starts : grammar.automaton.starts.Nodup := by
  refine nodup_flatMap_of_key Prod.fst List.nodup_range ?_ ?_
  · intro set _
    refine ((wellFormed.nodup_items_of_set set).filter _).map fun left right same => ?_
    exact (Prod.mk.inj same).2
  · intro set _ start listed
    obtain ⟨_, -, rfl⟩ := List.mem_map.mp listed
    rfl

end WellFormed

/-- The paths of a loaded grammar cover its automaton. -/
theorem Loaded.covers_paths (loaded : grammar.Loaded) : grammar.paths.Covers grammar where
  starts_nodup := loaded.wellFormed.nodup_starts
  traces := by
    rw [loaded.wellFormed.rules_paths, List.forall₂_map_right_iff, List.forall₂_same]
    rintro ⟨set, rule, alternative, dot⟩ listed
    obtain ⟨present, unread⟩ := mem_starts_iff.mp listed
    obtain rfl : dot = 0 := unread
    exact loaded.wellFormed.traces_of_mem_items present
  first := loaded.wellFormed.getElem?_edges_zero
  complete := loaded.wellFormed.exists_use_of_complete
  edges_inj := loaded.wellFormed.edges_inj

/-- Of the grammar for examples, the empty stem is read in two states, and both of its paths end in
the same one. -/
theorem covers_paths_sample : sample.paths.Covers sample ∧
    (sample.automaton.starts.filter fun start => start.2 = ⟨2, 1, 0⟩).map Prod.fst = [0, 2] ∧
    (sample.paths.rules.filter fun use => use.rule = 2 ∧ use.alternative = 1).map
      sample.paths.finalSet? = [some 1, some 1] :=
  ⟨sample_loaded.covers_paths, by decide +kernel, by decide +kernel⟩

end Grammar

end ShiftReduce
