import ShiftReduce.Lookahead.Path
import ShiftReduce.Proofs.Automaton.Valid

/-!
# Paths

The alternatives of a rule that may come next in a state are paths from there, and their edges lead
through the states that their symbols do. What an item has still to read is a part of such a path.

## Main definitions

* `Automaton.Reads` — symbols that come behind the dot of an item in a state
* `Automaton.starts` — the places where paths start
* `Grammar.paths` — the paths through the automaton of a grammar
* `Grammar.step`, `Grammar.steps` — the edges of symbols from a state, by number

## Main results

* `Grammar.WellFormed.rules_paths` — the paths are those of the items with nothing read
* `Grammar.WellFormed.edge_mem_edges` — what is read next is an edge of some path
* `Grammar.WellFormed.finalSet?_of_mem` — a path ends where its symbols lead
-/

namespace ShiftReduce

/-! ### Walks -/

namespace Automaton

variable {automaton : Automaton} {set target : SetIndex} {symbol : Symbol} {symbols : List Symbol}

theorem walk_cons (edge : automaton.target? set symbol = some target) :
    automaton.walk set (symbol :: symbols) =
      automaton.edge set symbol :: automaton.walk target symbols := by
  simp [walk, Automaton.edge, edge]

/-- The edges of a walk start where the symbols before them lead. -/
theorem mem_walk_iff {edge : Edge} (reached : automaton.reach? set symbols = some target) :
    edge ∈ automaton.walk set symbols ↔ ∃ left symbol right source,
      symbols = left ++ symbol :: right ∧ automaton.reach? set left = some source ∧
        edge = automaton.edge source symbol := by
  induction symbols generalizing set with
  | nil => simp [walk]
  | cons first rest ih =>
    obtain ⟨middle, step, onward⟩ := Option.bind_eq_some_iff.mp reached
    rw [walk_cons step, List.mem_cons, ih onward]
    constructor
    · rintro (rfl | ⟨left, symbol, right, source, rfl, along, rfl⟩)
      · exact ⟨[], first, rest, set, rfl, rfl, rfl⟩
      · refine ⟨first :: left, symbol, right, source, rfl, ?_, rfl⟩
        rw [reach?, step]
        exact along
    · rintro ⟨left, symbol, right, source, same, along, rfl⟩
      cases left with
      | nil =>
        obtain ⟨rfl, rfl⟩ := List.cons.inj same
        obtain rfl := Option.some.inj along
        exact .inl rfl
      | cons other left =>
        obtain ⟨rfl, rfl⟩ := List.cons.inj same
        rw [reach?, step] at along
        exact .inr ⟨left, symbol, right, source, rfl, along, rfl⟩

/-- A walk ends where its symbols lead. -/
theorem getLast?_walk (nonempty : symbols ≠ [])
    (reached : automaton.reach? set symbols = some target) :
    ∃ last, (automaton.walk set symbols).getLast? = some last ∧ last.target = some target := by
  induction symbols generalizing set with
  | nil => exact absurd rfl nonempty
  | cons first rest ih =>
    obtain ⟨middle, step, onward⟩ := Option.bind_eq_some_iff.mp reached
    rw [walk_cons step]
    cases rest with
    | nil =>
      obtain rfl := Option.some.inj onward
      exact ⟨_, rfl, step⟩
    | cons second rest =>
      obtain ⟨last, isLast, same⟩ := ih (List.cons_ne_nil _ _) onward
      exact ⟨last, by rw [List.getLast?_cons, isLast]; rfl, same⟩

end Automaton

/-- Some symbols come behind the dot of an item in a state. -/
def Automaton.Reads (automaton : Automaton) (grammar : Grammar) (set : SetIndex)
    (symbols : List Symbol) : Prop :=
  ∃ item ∈ automaton.items set, ∃ more,
    (item.symbols grammar).drop item.dot = symbols ++ more

/-- The places where paths start: states, each with its items that have nothing read. -/
def Automaton.starts (automaton : Automaton) : List (SetIndex × Item) :=
  (List.range automaton.sets.length).flatMap fun set =>
    ((automaton.items set).filter fun item => item.dot == 0).map (Prod.mk set)

namespace Grammar

/-- The paths through the automaton of a grammar. -/
def paths (grammar : Grammar) : PathGrammar := grammar.automaton.pathGrammar grammar

/-- The number of the edge of a symbol read from a state. -/
def step (grammar : Grammar) (set : SetIndex) (symbol : Symbol) : EdgeIndex :=
  grammar.paths.edges.idxOf (grammar.automaton.edge set symbol)

/-- The numbers of the edges of symbols read one after the other from a state. -/
def steps (grammar : Grammar) (set : SetIndex) (symbols : List Symbol) : List EdgeIndex :=
  (grammar.automaton.walk set symbols).map (grammar.paths.edges.idxOf ·)

variable {grammar : Grammar}

theorem steps_cons {set target : SetIndex} {symbol : Symbol} {symbols : List Symbol}
    (edge : grammar.automaton.target? set symbol = some target) :
    grammar.steps set (symbol :: symbols) =
      grammar.step set symbol :: grammar.steps target symbols := by
  rw [steps, Automaton.walk_cons edge]
  rfl

theorem paths_eq_map_starts {automaton : Automaton} : automaton.paths grammar =
    automaton.starts.map fun start => automaton.path grammar start.1 start.2 := by
  simp [Automaton.paths, Automaton.starts, List.map_flatMap, Function.comp_def]

theorem mem_starts_iff {automaton : Automaton} {set : SetIndex} {item : Item} :
    (set, item) ∈ automaton.starts ↔ item ∈ automaton.items set ∧ item.dot = 0 := by
  simp only [Automaton.starts, List.mem_flatMap, List.mem_range, List.mem_map, List.mem_filter]
  constructor
  · rintro ⟨_, -, _, ⟨present, unread⟩, same⟩
    obtain ⟨rfl, rfl⟩ := Prod.mk.inj same
    exact ⟨present, beq_iff_eq.mp unread⟩
  · rintro ⟨present, unread⟩
    exact ⟨set, Automaton.lt_length_of_mem_items present, item,
      ⟨present, beq_iff_eq.mpr unread⟩, rfl⟩

theorem mem_paths_iff {path : Path} : path ∈ grammar.automaton.paths grammar ↔
    ∃ set, ∃ item ∈ grammar.automaton.items set, item.dot = 0 ∧
      path = grammar.automaton.path grammar set item := by
  rw [paths_eq_map_starts, List.mem_map]
  constructor
  · rintro ⟨⟨set, item⟩, listed, rfl⟩
    obtain ⟨present, unread⟩ := mem_starts_iff.mp listed
    exact ⟨set, item, present, unread, rfl⟩
  · rintro ⟨set, item, present, unread, rfl⟩
    exact ⟨(set, item), mem_starts_iff.mpr ⟨present, unread⟩, rfl⟩

/-- An alternative has a path from where it starts. -/
theorem path_mem_paths {set : SetIndex} {rule : RuleIndex} {alternative : Nat}
    (present : ⟨rule, alternative, 0⟩ ∈ grammar.automaton.items set) :
    grammar.automaton.path grammar set ⟨rule, alternative, 0⟩ ∈ grammar.automaton.paths grammar :=
  mem_paths_iff.mpr ⟨set, ⟨rule, alternative, 0⟩, present, rfl, rfl⟩

theorem edges_paths : grammar.paths.edges = ((grammar.automaton.paths grammar).flatMap
    fun path => path.head :: path.body).eraseDups := by
  unfold paths Automaton.pathGrammar
  dsimp only

theorem mem_edges_of_paths {edge : Edge} : edge ∈ grammar.paths.edges ↔
    ∃ path ∈ grammar.automaton.paths grammar, edge = path.head ∨ edge ∈ path.body := by
  rw [edges_paths, List.mem_eraseDups, List.mem_flatMap]
  simp only [List.mem_cons]

namespace WellFormed

variable (wellFormed : grammar.WellFormed)
include wellFormed

/-! ### What can be read -/

/-- What can be read from a state starts with an edge, and the rest can be read from its target. -/
theorem reads_cons {set : SetIndex} {symbol : Symbol} {rest : List Symbol}
    (reads : grammar.automaton.Reads grammar set (symbol :: rest)) :
    ∃ target, grammar.automaton.target? set symbol = some target ∧
      grammar.automaton.Reads grammar target rest := by
  obtain ⟨item, present, more, behind⟩ := reads
  have next : item.next? grammar = some symbol := by
    rw [Item.next?, ← List.head?_drop, behind]
    rfl
  obtain ⟨target, edge⟩ := wellFormed.target?_isSome_iff.mpr ⟨item, present, next⟩
  refine ⟨target, edge, item.advance, wellFormed.advance_mem_items edge present next, more, ?_⟩
  have later : (item.symbols grammar).drop (item.dot + 1) = rest ++ more := by
    rw [← List.tail_drop, behind]
    rfl
  exact later

omit wellFormed in
/-- An alternative can be read from where it starts. -/
theorem reads_of_start {set : SetIndex} {rule : RuleIndex} {alternative : Nat}
    (present : ⟨rule, alternative, 0⟩ ∈ grammar.automaton.items set) :
    grammar.automaton.Reads grammar set (grammar.alternative rule alternative) :=
  ⟨_, present, [], (List.append_nil _).symm⟩

omit wellFormed in
theorem reads_of_append {set : SetIndex} {left right : List Symbol}
    (reads : grammar.automaton.Reads grammar set (left ++ right)) :
    grammar.automaton.Reads grammar set left := by
  obtain ⟨item, present, more, behind⟩ := reads
  exact ⟨item, present, right ++ more, by rw [behind, List.append_assoc]⟩

omit wellFormed in
theorem reads_of_next {set : SetIndex} {item : Item} {symbol : Symbol}
    (present : item ∈ grammar.automaton.items set) (next : item.next? grammar = some symbol) :
    grammar.automaton.Reads grammar set [symbol] := by
  obtain ⟨inside, rfl⟩ := List.getElem?_eq_some_iff.mp next
  exact ⟨item, present, _, List.drop_eq_getElem_cons inside⟩

omit wellFormed in
/-- Where a rule comes next, its alternatives start. -/
theorem startingItem_of_next {set : SetIndex} {item : Item} {rule : RuleIndex}
    {symbols : List Symbol} (present : item ∈ grammar.automaton.items set)
    (next : item.next? grammar = some (.rule rule)) (listed : symbols ∈ grammar.alternatives rule) :
    ∃ alternative, ⟨rule, alternative, 0⟩ ∈ grammar.automaton.items set ∧
      grammar.alternative rule alternative = symbols := by
  obtain ⟨alternative, inside, same⟩ := exists_alternative_eq listed
  exact ⟨alternative, startingItems_subset present next (start_mem_startingItems inside), same⟩

omit wellFormed in
theorem startingItem_of_reads {set : SetIndex} {rule : RuleIndex} {rest symbols : List Symbol}
    (reads : grammar.automaton.Reads grammar set (.rule rule :: rest))
    (listed : symbols ∈ grammar.alternatives rule) :
    ∃ alternative, ⟨rule, alternative, 0⟩ ∈ grammar.automaton.items set ∧
      grammar.alternative rule alternative = symbols := by
  obtain ⟨item, present, more, behind⟩ := reads
  refine startingItem_of_next present ?_ listed
  rw [Item.next?, ← List.head?_drop, behind]
  rfl

/-- An item comes from where its alternative starts. -/
theorem exists_source {set : SetIndex} {item : Item}
    (present : item ∈ grammar.automaton.items set) :
    ∃ source, ⟨item.rule, item.alternative, 0⟩ ∈ grammar.automaton.items source ∧
      grammar.automaton.reach? source ((item.symbols grammar).take item.dot) = some set := by
  have inside := Automaton.lt_length_of_mem_items present
  obtain ⟨symbols, reached⟩ := wellFormed.exists_reach? inside
  obtain ⟨known, before, after, chain, rfl⟩ := wellFormed.valid_of_mem_items reached present
  obtain ⟨source, reached, onward⟩ := Automaton.reach?_append_eq_some.mp reached
  have starts := start_mem_startingItems (mem_items.mp known).1
  exact ⟨source, wellFormed.startingItems_of_chain chain reached starts, onward⟩

/-! ### Paths and edges -/

/-- All edges of an alternative lead somewhere. -/
theorem exists_reach?_symbols {set : SetIndex} {rule : RuleIndex} {alternative : Nat}
    (present : ⟨rule, alternative, 0⟩ ∈ grammar.automaton.items set) :
    ∃ target, grammar.automaton.reach? set (grammar.alternative rule alternative) = some target :=
  wellFormed.exists_reach?_drop present

/-- Every edge of an alternative's path leads somewhere. -/
theorem isResolved_path {set : SetIndex} {rule : RuleIndex} {alternative : Nat}
    (present : ⟨rule, alternative, 0⟩ ∈ grammar.automaton.items set) :
    (grammar.automaton.path grammar set ⟨rule, alternative, 0⟩).isResolved = true := by
  obtain ⟨target, reached⟩ := wellFormed.exists_reach?_symbols present
  refine List.all_eq_true.mpr fun edge inBody => ?_
  obtain ⟨left, symbol, right, source, same, along, rfl⟩ :=
    (Automaton.mem_walk_iff reached).mp inBody
  rw [same] at reached
  obtain ⟨middle, sameAlong, onward⟩ := Automaton.reach?_append_eq_some.mp reached
  obtain rfl := Option.some.inj (along.symm.trans sameAlong)
  obtain ⟨next, step, -⟩ := Option.bind_eq_some_iff.mp onward
  simp [Automaton.edge, step]

/-- The paths are those of the items with nothing read, one for each, and none is left out. -/
theorem rules_paths : grammar.paths.rules = grammar.automaton.starts.map fun (set, item) =>
    ⟨grammar.step set (.rule item.rule), grammar.steps set (item.symbols grammar), item.rule,
      item.alternative⟩ := by
  have all : (grammar.automaton.paths grammar).filter Path.isResolved =
      grammar.automaton.paths grammar := by
    refine List.filter_eq_self.mpr fun path listed => ?_
    obtain ⟨set, ⟨rule, alternative, dot⟩, present, unread, rfl⟩ := mem_paths_iff.mp listed
    obtain rfl : dot = 0 := unread
    exact wellFormed.isResolved_path present
  calc grammar.paths.rules
      = ((grammar.automaton.paths grammar).filter Path.isResolved).map
          (Path.number grammar.paths.edges) := by
        unfold paths Automaton.pathGrammar
        dsimp only
    _ = (grammar.automaton.starts.map fun start =>
          grammar.automaton.path grammar start.1 start.2).map
            (Path.number grammar.paths.edges) := by rw [all, paths_eq_map_starts]
    _ = _ := List.map_map

theorem mem_path_rules_iff {use : PathRule} : use ∈ grammar.paths.rules ↔
    ∃ set rule alternative, ⟨rule, alternative, 0⟩ ∈ grammar.automaton.items set ∧
      use = ⟨grammar.step set (.rule rule),
        grammar.steps set (grammar.alternative rule alternative), rule, alternative⟩ := by
  rw [wellFormed.rules_paths, List.mem_map]
  constructor
  · rintro ⟨⟨set, rule, alternative, dot⟩, listed, rfl⟩
    obtain ⟨present, unread⟩ := mem_starts_iff.mp listed
    obtain rfl : dot = 0 := unread
    exact ⟨set, rule, alternative, present, rfl⟩
  · rintro ⟨set, rule, alternative, present, rfl⟩
    exact ⟨(set, ⟨rule, alternative, 0⟩), mem_starts_iff.mpr ⟨present, rfl⟩, rfl⟩

/-- The edges of the path grammar are read next in a state, or lead to a rule that starts there. -/
theorem mem_edges_cases {edge : Edge} (present : edge ∈ grammar.paths.edges) :
    ∃ set symbol, edge = grammar.automaton.edge set symbol ∧
      ((set = startSet ∧ symbol = .rule startRule) ∨
        ∃ item ∈ grammar.automaton.items set, item.next? grammar = some symbol) := by
  obtain ⟨path, listed, place⟩ := mem_edges_of_paths.mp present
  obtain ⟨set, item, inSet, unread, rfl⟩ := mem_paths_iff.mp listed
  rcases place with rfl | inBody
  · refine ⟨set, .rule item.rule, rfl, ?_⟩
    obtain ⟨rfl, rfl⟩ | parent := wellFormed.exists_parent inSet unread
    · exact .inl ⟨rfl, rfl⟩
    · exact .inr parent
  · obtain ⟨rule, alternative, dot⟩ := item
    obtain rfl : dot = 0 := unread
    obtain ⟨target, reached⟩ := wellFormed.exists_reach?_symbols inSet
    obtain ⟨left, symbol, right, source, same, along, rfl⟩ :=
      (Automaton.mem_walk_iff reached).mp inBody
    have symbols : grammar.alternative rule alternative = left ++ symbol :: right := same
    refine ⟨source, symbol, rfl, .inr ⟨⟨rule, alternative, left.length⟩, ?_, ?_⟩⟩
    · exact wellFormed.mem_items_of_append inSet symbols along
    · simp [Item.next?, Item.symbols, symbols]

/-- What is read next is an edge of some path. -/
theorem edge_mem_edges {set : SetIndex} {symbol : Symbol} {rest : List Symbol}
    (reads : grammar.automaton.Reads grammar set (symbol :: rest)) :
    grammar.automaton.edge set symbol ∈ grammar.paths.edges := by
  obtain ⟨item, present, more, behind⟩ := reads
  obtain ⟨source, inSource, along⟩ := wellFormed.exists_source present
  obtain ⟨target, reached⟩ := wellFormed.exists_reach?_symbols inSource
  refine mem_edges_of_paths.mpr ⟨_, path_mem_paths inSource, .inr ?_⟩
  refine (Automaton.mem_walk_iff reached).mpr
    ⟨(item.symbols grammar).take item.dot, symbol, rest ++ more, set, ?_, along, rfl⟩
  rw [← List.cons_append, ← behind]
  exact (List.take_append_drop _ _).symm

omit wellFormed in
/-- The rule of an item with nothing read heads a path. -/
theorem head_mem_edges {set : SetIndex} {rule : RuleIndex} {alternative : Nat}
    (present : ⟨rule, alternative, 0⟩ ∈ grammar.automaton.items set) :
    grammar.automaton.edge set (.rule rule) ∈ grammar.paths.edges :=
  mem_edges_of_paths.mpr ⟨_, path_mem_paths present, .inl rfl⟩

/-- A path ends where its symbols lead. -/
theorem finalSet?_of_mem {set target : SetIndex} {rule : RuleIndex} {alternative : Nat}
    (present : ⟨rule, alternative, 0⟩ ∈ grammar.automaton.items set)
    (reached : grammar.automaton.reach? set (grammar.alternative rule alternative) = some target)
    {head : EdgeIndex} :
    grammar.paths.finalSet?
      ⟨head, grammar.steps set (grammar.alternative rule alternative), rule, alternative⟩ =
        some target := by
  have listed := wellFormed.symbols_mem_alternatives present
  obtain ⟨last, isLast, leads⟩ :=
    Automaton.getLast?_walk (wellFormed.symbols_ne_nil listed) reached
  have inBody : last ∈ grammar.automaton.walk set (grammar.alternative rule alternative) :=
    List.mem_of_getLast? isLast
  have known : last ∈ grammar.paths.edges :=
    mem_edges_of_paths.mpr ⟨_, path_mem_paths present, .inr inBody⟩
  simp only [PathGrammar.finalSet?, steps, List.getLast?_map]
  have isLast' : (grammar.automaton.walk set (grammar.alternative rule alternative)).getLast? =
    some last := isLast
  rw [isLast', Option.map_some, Option.bind_some, List.getElem?_idxOf known, Option.bind_some,
    leads]

/-- The rule that starts every derivation heads the first path. -/
theorem step_startRule : grammar.step startSet (.rule startRule) = 0 := by
  have inside : 0 < grammar.automaton.sets.length :=
    Automaton.lt_length_of_mem_items wellFormed.startItem_mem_items
  obtain ⟨count, length⟩ := Nat.exists_eq_add_one.mpr inside
  have first : (grammar.automaton.items startSet).head? = some ⟨startRule, 0, 0⟩ := by
    rw [items_eq wellFormed.kernels_startSet]
    exact head?_expand
  obtain ⟨later, items⟩ := List.head?_eq_some_iff.mp first
  change grammar.automaton.items 0 = _ at items
  obtain ⟨others, paths⟩ : ∃ others, grammar.automaton.paths grammar =
      grammar.automaton.path grammar startSet ⟨startRule, 0, 0⟩ :: others := by
    rw [Automaton.paths, length, List.range_succ_eq_map, List.flatMap_cons, items]
    exact ⟨_, rfl⟩
  rw [step, edges_paths, paths, List.flatMap_cons, List.cons_append, List.eraseDups_cons]
  exact List.idxOf_cons_self

end WellFormed

end Grammar

end ShiftReduce
