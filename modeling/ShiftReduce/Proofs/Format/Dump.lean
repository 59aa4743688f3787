import Mathlib.Data.Set.Function
import ShiftReduce.Format.TableDump
import ShiftReduce.Proofs.Grammar.Lookup
import ShiftReduce.Proofs.Table.Contents
import ShiftReduce.Proofs.Text.Codes

/-!
# Dumps keep the whole table

A dump files the entries of a row under names. Different symbols of a loaded grammar have different
names: literals are in quotes, which can be read back, rules are in angle brackets, and no two rules
are named the same. So no entry takes the place of another, and the row can be read off the dump.

## Main definitions

* `Grammar.Has` — the terminals and the rules of a grammar
* `Tells` — entries that are filed under names, with nothing lost
* `StateDump.Faithful` — a state in words that tells its row

## Main results

* `Grammar.Indexed.injOn_symbolName` — symbols are told by their names
* `Tells.of_injOn` — nothing is lost under different names
* `Grammar.Loaded.dump_spec` — the dump of each state tells its row
-/

namespace ShiftReduce

/-! ### Names -/

namespace Grammar

/-- The terminals and the rules of a grammar. -/
def Has (grammar : Grammar) : Symbol → Prop
  | .terminal index => index < grammar.terminals.length
  | .rule index => index < grammar.rules.length

theorem Has.of_inRange {grammar : Grammar} {symbol : Symbol}
    (inRange : symbol.InRange grammar.rules.length grammar.terminals.length) :
    grammar.Has symbol := by
  cases symbol with
  | terminal index => exact inRange
  | rule index => exact inRange.2

variable {grammar : Grammar}

/-- Literals start with a quote, rules with a bracket. -/
theorem symbolName_terminal_ne_rule (index : TerminalIndex) (rule : RuleIndex) :
    grammar.symbolName (.terminal index) ≠ grammar.symbolName (.rule rule) := by
  intro same
  have first := congrArg (fun name : String => name.toList.head?) same
  simp [symbolName, Text.quote] at first

/-- A rule can be read off its name in brackets. -/
theorem ruleName_eq_of_symbolName_eq {left right : RuleIndex}
    (same : grammar.symbolName (.rule left) = grammar.symbolName (.rule right)) :
    grammar.ruleName left = grammar.ruleName right := by
  have chars := congrArg String.toList same
  simp only [symbolName, String.toList_append] at chars
  exact String.toList_injective (List.append_cancel_left (List.append_cancel_right chars))

namespace Indexed

variable {lexer : Lexer} (indexed : grammar.Indexed lexer)
include indexed

/-- Rules are told by their names. -/
theorem injOn_ruleName : Set.InjOn grammar.ruleName {rule | rule < grammar.rules.length} := by
  intro left leftKnown right rightKnown same
  have leftFound := (indexed.findRule?_iff _ left).mpr ⟨leftKnown, rfl⟩
  have rightFound := (indexed.findRule?_iff _ right).mpr ⟨rightKnown, same.symm⟩
  exact Option.some.inj (leftFound.symm.trans rightFound)

theorem injOn_terminal :
    Set.InjOn grammar.terminal {index | index < grammar.terminals.length} := by
  intro left leftKnown right rightKnown same
  simp only [terminal, List.getElem?_eq_getElem leftKnown, List.getElem?_eq_getElem rightKnown,
    Option.getD_some] at same
  exact (List.getElem_inj indexed.terminals_nodup).mp same

/-- Terminals and rules are told by their names. -/
theorem injOn_symbolName : Set.InjOn grammar.symbolName {symbol | grammar.Has symbol} := by
  intro left leftKnown right rightKnown same
  cases left with
  | terminal index =>
    cases right with
    | terminal place =>
      exact congrArg Symbol.terminal
        (indexed.injOn_terminal leftKnown rightKnown (Text.quote_injective same))
    | rule rule => exact absurd same (symbolName_terminal_ne_rule index rule)
  | rule rule =>
    cases right with
    | terminal place => exact absurd same.symm (symbolName_terminal_ne_rule place rule)
    | rule other =>
      exact congrArg Symbol.rule
        (indexed.injOn_ruleName leftKnown rightKnown (ruleName_eq_of_symbolName_eq same))

end Indexed

end Grammar

/-! ### Entries under names -/

/-- Entries are filed under names with nothing lost: each is there once, no two have one name, and
under the name of a key there is what the entries have under the key. -/
structure Tells {κ α β : Type} [DecidableEq κ] (name : κ → String) (tell : α → β) (keys : Set κ)
    (entries : List (κ × α)) (told : List (String × β)) : Prop where
  perm : told.Perm (entries.map (Prod.map name tell))
  nodup : (told.map Prod.fst).Nodup
  lookup_eq : ∀ key ∈ keys, told.lookup (name key) = (entries.lookup key).map tell

section Tells

variable {κ α β : Type} [DecidableEq κ] {name : κ → String} {tell : α → β} {keys : Set κ}
  {entries : List (κ × α)}

theorem lookup_map_of_injOn (injective : Set.InjOn name keys)
    (known : ∀ entry ∈ entries, entry.1 ∈ keys) {key : κ} (isKey : key ∈ keys) :
    (entries.map (Prod.map name tell)).lookup (name key) = (entries.lookup key).map tell := by
  induction entries with
  | nil => rfl
  | cons entry rest ih =>
    obtain ⟨first, held⟩ := entry
    rw [List.forall_mem_cons] at known
    rw [List.map_cons, Prod.map_apply, Sorted.lookup_cons_eq, Sorted.lookup_cons_eq, ih known.2]
    by_cases same : key = first
    · simp [same]
    · have differ : name key ≠ name first := fun names => same (injective isKey known.1 names)
      simp [same, differ]

/-- Under different names, nothing is lost. -/
theorem Tells.of_injOn (injective : Set.InjOn name keys)
    (known : ∀ entry ∈ entries, entry.1 ∈ keys)
    (distinct : entries.Pairwise fun left right => left.1 ≠ right.1) :
    Tells name tell keys entries (byName (entries.map (Prod.map name tell))) := by
  have renamed : (entries.map (Prod.map name tell)).Pairwise
      fun left right => left.1 ≠ right.1 := by
    apply List.pairwise_map.mpr
    apply distinct.imp_of_mem
    intro left right leftListed rightListed differ same
    exact differ (injective (known left leftListed) (known right rightListed) same)
  have perm : (byName (entries.map (Prod.map name tell))).Perm
      (entries.map (Prod.map name tell)) := Sorted.perm_ofList renamed
  refine ⟨perm, ?_, fun key isKey => ?_⟩
  · exact List.pairwise_map.mpr (renamed.perm perm.symm Ne.symm)
  · rw [Sorted.lookup_eq_of_perm renamed perm, lookup_map_of_injOn injective known isKey]

end Tells

/-! ### The rows of a table -/

namespace Table

variable {grammar : Grammar} {table after : Table} {candidate : Candidate}

@[simp] theorem gotos_put (state : SetIndex) :
    (table.put candidate).gotos state = table.gotos state := by
  unfold gotos put
  rw [List.getElem?_modify]
  rcases table.rows[state]? with _ | row
  · rfl
  · by_cases same : candidate.state = state <;> simp [same]

/-- Reductions do not touch the gotos. -/
theorem gotos_of_enter (entered : table.enter grammar candidate = .ok after) (state : SetIndex) :
    after.gotos state = table.gotos state := by
  obtain ⟨-, rfl⟩ | ⟨_, -, rfl⟩ | ⟨-, rfl⟩ | ⟨-, rfl⟩ := enter_cases entered
  · exact gotos_put state
  · rfl
  · rfl
  · rfl

end Table

theorem gotoOf?_eq_some {grammar : Grammar} {edge : Symbol × SetIndex}
    {entry : RuleIndex × SetIndex} (found : gotoOf? grammar edge = some entry) :
    edge = (.rule entry.1, entry.2) := by
  obtain ⟨symbol, target⟩ := edge
  cases symbol with
  | terminal index => cases found
  | rule rule =>
    unfold gotoOf? at found
    dsimp only at found
    split at found
    · cases found
    · cases found
      rfl

namespace Grammar

variable {grammar : Grammar} {table : Table}

theorem gotos_baseTable (state : SetIndex) :
    grammar.baseTable.gotos state =
      (grammar.automaton.edges state).filterMap (gotoOf? grammar) := by
  unfold Table.gotos baseTable Automaton.edges
  rw [List.getElem?_map]
  rcases grammar.automaton.sets[state]? with _ | set <;> rfl

/-- The gotos of a state are edges of it. -/
theorem gotos_table (built : grammar.table = .ok table) (state : SetIndex) :
    table.gotos state = (grammar.automaton.edges state).filterMap (gotoOf? grammar) := by
  rw [← gotos_baseTable]
  exact Table.enterAll_induction (motive := fun table =>
    table.gotos state = grammar.baseTable.gotos state)
    (fun _ same entered => (Table.gotos_of_enter entered state).trans same) rfl
    (WellFormed.enterAll_of_table built)

namespace WellFormed

theorem distinct_gotos (built : grammar.table = .ok table) (state : SetIndex) :
    (table.gotos state).Pairwise fun left right => left.1 ≠ right.1 := by
  rw [gotos_table built]
  refine List.Pairwise.filterMap _ ?_ (ascending_edges state).distinct
  intro left right differ goto leftFound other rightFound same
  rw [gotoOf?_eq_some leftFound, gotoOf?_eq_some rightFound] at differ
  exact differ (congrArg Symbol.rule same)

variable (wellFormed : grammar.WellFormed)
include wellFormed

theorem lt_length_of_mem_gotos (built : grammar.table = .ok table) {state : SetIndex}
    {entry : RuleIndex × SetIndex} (listed : entry ∈ table.gotos state) :
    entry.1 < grammar.rules.length := by
  rw [gotos_table built] at listed
  obtain ⟨edge, present, found⟩ := List.mem_filterMap.mp listed
  rw [gotoOf?_eq_some found] at present
  exact (wellFormed.inRange_of_target? (mem_edges_iff.mp present)).2

theorem has_of_mem_actions (built : grammar.table = .ok table) {state : SetIndex}
    {entry : Symbol × Action} (listed : entry ∈ table.actions state) :
    grammar.Has entry.1 := by
  have sound := wellFormed.sound_table built
  exact Has.of_inRange (wellFormed.inRange_of_action? sound (sound.mem_actions_iff.mp listed))

end WellFormed

end Grammar

/-! ### Dumps -/

/-- A state in words tells its row: its actions under the names of the terminals, and its gotos
under the names of the rules. -/
structure StateDump.Faithful (grammar : Grammar) (table : Table) (state : StateDump) : Prop where
  actions : Tells grammar.symbolName (Action.describe grammar) {symbol | grammar.Has symbol}
    (table.actions state.index) state.actions
  gotos : Tells grammar.ruleName id {rule | rule < grammar.rules.length}
    (table.gotos state.index) state.gotos

namespace Grammar

variable {grammar : Grammar}

theorem buildTables_table_eq {table : Table} (built : grammar.table = .ok table) :
    grammar.buildTables.table = table :=
  (congrArg Prod.fst WellFormed.buildTables_table).trans
    (congrArg Prod.fst (WellFormed.enterAll_of_table built))

/-- A state in words tells its row, where symbols are told by their names. -/
theorem faithful_dumpState {lexer : Lexer} (indexed : grammar.Indexed lexer)
    (wellFormed : grammar.WellFormed) {table : Table} (built : grammar.table = .ok table)
    (set : SetIndex) : (grammar.buildTables.dumpState grammar set).Faithful grammar table := by
  have sound := wellFormed.sound_table built
  obtain rfl := buildTables_table_eq built
  constructor
  · apply Tells.of_injOn indexed.injOn_symbolName
    · exact fun entry listed => wellFormed.has_of_mem_actions built listed
    · exact (sound.ascending_actions set).distinct
  · apply Tells.of_injOn indexed.injOn_ruleName
    · exact fun entry listed => wellFormed.lt_length_of_mem_gotos built listed
    · exact WellFormed.distinct_gotos built set

/-- Terminals and rules are told by their names, and the dump of a table has each of its states,
which tells the whole row: each action and each goto is there once, in words. -/
theorem Loaded.dump_spec (loaded : grammar.Loaded) :
    Set.InjOn grammar.symbolName {symbol | grammar.Has symbol} ∧
    ∀ table, grammar.table = .ok table →
      let dump := grammar.buildTables.dump grammar
      dump.states.map StateDump.index = List.range grammar.automaton.sets.length ∧
      ∀ state ∈ dump.states, state.Faithful grammar table := by
  have wellFormed := loaded.wellFormed
  obtain ⟨lexer, reachable, text, found⟩ := loaded
  have indexed := indexed_of_ofText reachable found
  refine ⟨indexed.injOn_symbolName, fun table built => ⟨?_, fun state listed => ?_⟩⟩
  · exact (List.map_map ..).trans (List.map_id _)
  · obtain ⟨set, -, rfl⟩ := List.mem_map.mp listed
    exact faithful_dumpState indexed wellFormed built set

/-- A grammar with a quote for a literal, and with another one that looks like its rule. -/
def lookalikeText : String := "<list> ::= '\"' <list> | \"<list>\" | ''"

/-- What is loaded from that text. -/
def lookalike : Grammar where
  rules := [⟨startName, .start, [[.rule 1]]⟩,
    ⟨"list", .declared, [[.terminal 1, .rule 1], [.terminal 2], [.terminal 0]]⟩,
    ⟨"Token-EOL", .tokenClass lineBreakClass, []⟩, ⟨"Token-EOF", .tokenClass endClass, []⟩]
  terminals := ["", "\"", "<list>"]
  classes := ["EOL", "EOF"]

theorem lookalike_loaded : lookalike.Loaded := by
  have read : (ofText Lexer.initial lookalikeText).toOption = some lookalike := by decide +kernel
  exact ⟨Lexer.initial, .initial, lookalikeText, eq_ok_of_toOption read⟩

/-- The table of that grammar. -/
def lookalikeTable : Table where
  rows := [
    ⟨[(.terminal 0, .shift 1), (.terminal 1, .shift 2), (.terminal 2, .shift 3)], [(1, 4)]⟩,
    ⟨[(.rule 3, .reduce 1 2)], []⟩,
    ⟨[(.terminal 0, .shift 1), (.terminal 1, .shift 2), (.terminal 2, .shift 3)], [(1, 5)]⟩,
    ⟨[(.rule 3, .reduce 1 1)], []⟩,
    ⟨[(.rule 3, .accept)], []⟩,
    ⟨[(.rule 3, .reduce 1 0)], []⟩]
  resolved := []

theorem table_lookalike : lookalike.table = .ok lookalikeTable :=
  eq_ok_of_toOption (by decide +kernel)

/-- In the first state, the literal that looks like the rule is found under a name of its own. -/
theorem dump_spec_lookalike :
    (∀ state ∈ (lookalike.buildTables.dump lookalike).states,
      state.Faithful lookalike lookalikeTable) ∧
    ∀ state ∈ (lookalike.buildTables.dump lookalike).states, state.index = 0 →
      state.actions.lookup "\"<list>\"" = some "shift 3" ∧ state.actions.lookup "<list>" = none ∧
        state.gotos.lookup "list" = some 4 := by
  have faithful := (lookalike_loaded.dump_spec.2 lookalikeTable table_lookalike).2
  refine ⟨faithful, fun state listed first => ?_⟩
  have actions := (faithful state listed).actions.lookup_eq
  have gotos := (faithful state listed).gotos.lookup_eq
  rw [first] at actions gotos
  have literal : lookalike.symbolName (.terminal 2) = "\"<list>\"" := by decide +kernel
  have rule : lookalike.symbolName (.rule 1) = "<list>" := by decide +kernel
  refine ⟨?_, ?_, gotos 1 (show 1 < 4 by decide)⟩
  · rw [← literal]
    exact actions (.terminal 2) (show 2 < 3 by decide)
  · rw [← rule]
    exact actions (.rule 1) (show 1 < 4 by decide)

example : lookalike.buildTables.dumpState lookalike 0 = {
    index := 0
    items := ["#S ::= . <list>", "list ::= . \"\\\"\" <list>", "list ::= . \"<list>\"",
      "list ::= . \"\""]
    actions := [("\"\"", "shift 1"), ("\"<list>\"", "shift 3"), ("\"\\\"\"", "shift 2")]
    gotos := [("list", 4)] } := by
  decide +kernel

end Grammar

end ShiftReduce
