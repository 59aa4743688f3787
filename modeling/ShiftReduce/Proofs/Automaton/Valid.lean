import ShiftReduce.Proofs.Automaton.States
import ShiftReduce.Proofs.Grammar.Derivation
import ShiftReduce.Proofs.Grammar.Loading

/-!
# Valid items

Some symbols read from the first state lead to the items that are valid for them: those that stand
at the end of a chain of productions, with the symbols in front of the chain and of the dot.

## Main definitions

* `Automaton.reach?` — the state that symbols read one after the other lead to
* `Item.Valid` — the items that fit behind some symbols

## Main results

* `Grammar.WellFormed.mem_items_iff_valid` — the items of a state that is reached
* `Grammar.WellFormed.exists_reach?` — all states are reached
* `Grammar.Loaded.reach?_iff_valid` — what is read, and the items behind it
-/

namespace ShiftReduce

/-- The state that reading symbols one after the other leads to. -/
def Automaton.reach? (automaton : Automaton) (set : SetIndex) : List Symbol → Option SetIndex
  | [] => some set
  | symbol :: rest =>
    (automaton.target? set symbol).bind fun target => automaton.reach? target rest

/-- An item stands at the end of a chain of productions, behind the symbols in front of the chain
and of its dot. -/
def Item.Valid (grammar : Grammar) (item : Item) (symbols : List Symbol) : Prop :=
  item ∈ grammar.items ∧ ∃ before after, grammar.Chain item.rule before after ∧
    symbols = before ++ (item.symbols grammar).take item.dot

/-! ### Reading symbols -/

namespace Automaton

variable {automaton : Automaton} {set target : SetIndex} {left right : List Symbol}

theorem reach?_append : automaton.reach? set (left ++ right) =
    (automaton.reach? set left).bind fun middle => automaton.reach? middle right := by
  induction left generalizing set with
  | nil => rfl
  | cons symbol rest ih =>
    rw [List.cons_append, reach?, reach?, Option.bind_assoc]
    exact Option.bind_congr fun middle _ => ih

@[simp] theorem reach?_singleton (symbol : Symbol) :
    automaton.reach? set [symbol] = automaton.target? set symbol :=
  Option.bind_fun_some _

theorem reach?_append_eq_some : automaton.reach? set (left ++ right) = some target ↔
    ∃ middle, automaton.reach? set left = some middle ∧
      automaton.reach? middle right = some target := by
  rw [reach?_append, Option.bind_eq_some_iff]

theorem reach?_concat {middle : SetIndex} {symbol : Symbol}
    (along : automaton.reach? set left = some middle)
    (edge : automaton.target? middle symbol = some target) :
    automaton.reach? set (left ++ [symbol]) = some target := by
  refine reach?_append_eq_some.mpr ⟨middle, along, ?_⟩
  rw [reach?_singleton, edge]

end Automaton

/-! ### Items and alternatives -/

namespace Item

variable {grammar : Grammar} {item : Item}

/-- An alternative is what is read of it, the symbol behind the dot and what comes later. -/
theorem symbols_eq_of_next {symbol : Symbol} (next : item.next? grammar = some symbol) :
    item.symbols grammar = (item.symbols grammar).take item.dot ++
      symbol :: (item.symbols grammar).drop (item.dot + 1) := by
  obtain ⟨inside, same⟩ := List.getElem?_eq_some_iff.mp next
  rw [← same, List.getElem_cons_drop, List.take_append_drop]

theorem take_advance {symbol : Symbol} (next : item.next? grammar = some symbol) :
    (item.advance.symbols grammar).take item.advance.dot =
      (item.symbols grammar).take item.dot ++ [symbol] := by
  have step := List.take_add_one (l := item.symbols grammar) (i := item.dot)
  have read : (item.symbols grammar)[item.dot]? = some symbol := next
  rw [read] at step
  exact step

/-- A rule behind the dot of an item continues its chain. -/
theorem chain_of_next {rule : RuleIndex} {before after : List Symbol}
    (present : item ∈ grammar.items) (next : item.next? grammar = some (.rule rule))
    (chain : grammar.Chain item.rule before after) :
    grammar.Chain rule (before ++ (item.symbols grammar).take item.dot)
      ((item.symbols grammar).drop (item.dot + 1) ++ after) := by
  apply chain.next
  rw [← symbols_eq_of_next next]
  exact symbols_mem_alternatives present

/-- What a closure adds to valid items is valid. -/
theorem Valid.of_inClosure {kernel : Kernel} {symbols : List Symbol}
    (valid : ∀ item ∈ kernel, item.Valid grammar symbols) (inside : InClosure grammar kernel item) :
    item.Valid grammar symbols := by
  induction inside with
  | kernel present => exact valid _ present
  | start _ next starts ih =>
    obtain ⟨known, before, after, chain, rfl⟩ := ih
    obtain ⟨rfl, inside, unread⟩ := mem_startingItems.mp starts
    have present := mem_items.mpr ⟨inside, unread ▸ Nat.zero_le _⟩
    refine ⟨present, _, _, chain_of_next known next chain, ?_⟩
    rw [unread, List.take_zero, List.append_nil]

end Item

/-! ### The items of a state -/

namespace Grammar.WellFormed

variable {grammar : Grammar} (wellFormed : grammar.WellFormed)
include wellFormed

/-- An edge reads a symbol that is there. -/
theorem inRange_of_target? {set target : SetIndex} {symbol : Symbol}
    (edge : grammar.automaton.target? set symbol = some target) :
    symbol.InRange grammar.rules.length grammar.terminals.length := by
  obtain ⟨item, present, next⟩ := wellFormed.target?_isSome_iff.mp ⟨target, edge⟩
  have listed := wellFormed.symbols_mem_alternatives present
  exact wellFormed.inRange listed (List.mem_of_getElem? next)

theorem valid_startItem : Item.Valid grammar ⟨startRule, 0, 0⟩ [] :=
  ⟨wellFormed.mem_items_of_mem_set wellFormed.startItem_mem_items, [], [], .start, rfl⟩

/-- The items of a state are valid for the symbols that lead there. -/
theorem valid_of_mem_items {symbols : List Symbol} {set : SetIndex} {item : Item}
    (reached : grammar.automaton.reach? startSet symbols = some set)
    (present : item ∈ grammar.automaton.items set) : item.Valid grammar symbols := by
  induction symbols using List.reverseRecOn generalizing set item with
  | nil =>
    obtain rfl := Option.some.inj reached
    obtain ⟨kernel, known, inside⟩ := mem_items_iff.mp present
    obtain rfl := Option.some.inj (known.symm.trans wellFormed.kernels_startSet)
    refine .of_inClosure (fun other present => ?_) inside
    rw [List.mem_singleton.mp present]
    exact wellFormed.valid_startItem
  | append_singleton rest symbol ih =>
    obtain ⟨middle, reached, edge⟩ := Automaton.reach?_append_eq_some.mp reached
    rw [Automaton.reach?_singleton] at edge
    obtain ⟨kernel, known, inside⟩ := mem_items_iff.mp present
    refine .of_inClosure (fun other inKernel => ?_) inside
    have read : other.dot ≠ 0 := by
      obtain ⟨_, next, -, successor, found⟩ := wellFormed.target?_eq_some_iff.mp edge
      obtain rfl := Option.some.inj (found.symm.trans known)
      exact dot_ne_zero_of_mem_successors successor inKernel
    have inSet := mem_items_iff.mpr ⟨kernel, known, .kernel inKernel⟩
    obtain ⟨earlier, inMiddle, next, rfl⟩ :=
      wellFormed.exists_mem_items_of_advance edge inSet read
    obtain ⟨-, before, after, chain, rfl⟩ := ih reached inMiddle
    refine ⟨wellFormed.mem_items_of_mem_set inSet, before, after, chain, ?_⟩
    rw [Item.take_advance next, List.append_assoc]

/-- Reading what is in front of its dot leads to an item from where its alternative starts. -/
theorem mem_items_of_reach? {set target : SetIndex} {rule : RuleIndex} {alternative dot : Nat}
    (present : ⟨rule, alternative, 0⟩ ∈ grammar.automaton.items set)
    (inside : dot ≤ (grammar.alternative rule alternative).length)
    (reached : grammar.automaton.reach? set ((grammar.alternative rule alternative).take dot) =
      some target) : ⟨rule, alternative, dot⟩ ∈ grammar.automaton.items target := by
  induction dot generalizing target with
  | zero =>
    obtain rfl := Option.some.inj reached
    exact present
  | succ dot ih =>
    rw [List.take_succ_eq_append_getElem inside] at reached
    obtain ⟨middle, reached, edge⟩ := Automaton.reach?_append_eq_some.mp reached
    rw [Automaton.reach?_singleton] at edge
    have earlier := ih (Nat.le_of_succ_le inside) reached
    exact wellFormed.advance_mem_items edge earlier (List.getElem?_eq_getElem inside)

/-- Reading some symbols of an alternative leads to the item with its dot behind them. -/
theorem mem_items_of_append {set target : SetIndex} {rule : RuleIndex} {alternative : Nat}
    {left right : List Symbol} (present : ⟨rule, alternative, 0⟩ ∈ grammar.automaton.items set)
    (symbols : grammar.alternative rule alternative = left ++ right)
    (reached : grammar.automaton.reach? set left = some target) :
    ⟨rule, alternative, left.length⟩ ∈ grammar.automaton.items target := by
  refine wellFormed.mem_items_of_reach? present (by simp [symbols]) ?_
  rwa [symbols, List.take_left]

/-- A rule at the end of a chain starts in the state that the symbols in front of it lead to. -/
theorem startingItems_of_chain {rule : RuleIndex} {before after : List Symbol} {set : SetIndex}
    (chain : grammar.Chain rule before after)
    (reached : grammar.automaton.reach? startSet before = some set) {start : Item}
    (starts : start ∈ grammar.startingItems rule) : start ∈ grammar.automaton.items set := by
  -- Along the chain, each rule starts because it comes next in the item of the one before.
  induction chain generalizing set start with
  | start =>
    obtain rfl := Option.some.inj reached
    obtain ⟨same, inside, unread⟩ := mem_startingItems.mp starts
    rw [wellFormed.alternatives_startRule] at inside
    obtain ⟨rule, alternative, dot⟩ := start
    obtain rfl : alternative = 0 := Nat.lt_one_iff.mp inside
    obtain rfl : rule = startRule := same
    obtain rfl : dot = 0 := unread
    exact wellFormed.startItem_mem_items
  | @next rule next before after left right _ listed ih =>
    obtain ⟨middle, reached, onward⟩ := Automaton.reach?_append_eq_some.mp reached
    obtain ⟨alternative, inside, symbols⟩ := exists_alternative_eq listed
    have present := ih reached (start_mem_startingItems inside)
    have parent := wellFormed.mem_items_of_append present symbols onward
    refine startingItems_subset parent ?_ starts
    simp [Item.next?, Item.symbols, symbols]

/-- A state that is reached holds the items that are valid for the symbols read on the way. -/
theorem mem_items_iff_valid {symbols : List Symbol} {set : SetIndex} {item : Item}
    (reached : grammar.automaton.reach? startSet symbols = some set) :
    item ∈ grammar.automaton.items set ↔ item.Valid grammar symbols := by
  refine ⟨wellFormed.valid_of_mem_items reached, ?_⟩
  rintro ⟨known, before, after, chain, rfl⟩
  obtain ⟨inside, bound⟩ := mem_items.mp known
  obtain ⟨middle, reached, onward⟩ := Automaton.reach?_append_eq_some.mp reached
  have start := wellFormed.startingItems_of_chain chain reached (start_mem_startingItems inside)
  exact wellFormed.mem_items_of_reach? start bound onward

/-- The rest of an item can be read where the item is. -/
theorem exists_reach?_drop {set : SetIndex} {item : Item}
    (present : item ∈ grammar.automaton.items set) :
    ∃ target, grammar.automaton.reach? set ((item.symbols grammar).drop item.dot) =
      some target := by
  -- With every step, less of the alternative is left.
  rcases next : item.next? grammar with _ | symbol
  · have done := List.getElem?_eq_none_iff.mp next
    exact ⟨set, by rw [List.drop_eq_nil_of_le done]; rfl⟩
  · obtain ⟨middle, edge⟩ := wellFormed.target?_isSome_iff.mpr ⟨item, present, next⟩
    obtain ⟨target, reached⟩ := exists_reach?_drop (wellFormed.advance_mem_items edge present next)
    obtain ⟨inside, same⟩ := List.getElem?_eq_some_iff.mp next
    refine ⟨target, ?_⟩
    rw [List.drop_eq_getElem_cons inside, same, Automaton.reach?, edge]
    exact reached
termination_by (item.symbols grammar).length - item.dot
decreasing_by
  obtain ⟨inside, -⟩ := List.getElem?_eq_some_iff.mp next
  exact Nat.sub_succ_lt_self _ _ inside

theorem exists_reach?_of_kernel {kernel : Kernel} (reachable : ReachableKernel grammar kernel) :
    ∃ symbols set, grammar.automaton.reach? startSet symbols = some set ∧
      (kernels grammar)[set]? = some kernel := by
  induction reachable with
  | start => exact ⟨[], startSet, rfl, wellFormed.kernels_startSet⟩
  | @edge kernel next symbol _ successor ih =>
    obtain ⟨symbols, set, reached, known⟩ := ih
    have found := wellFormed.discovering_kernels.closed kernel (List.mem_of_getElem? known) next
      (List.mem_map.mpr ⟨_, successor, rfl⟩)
    rw [List.append_nil] at found
    obtain ⟨target, place⟩ := List.getElem?_of_mem found
    have edge := wellFormed.target?_eq_some_iff.mpr ⟨kernel, next, known, successor, place⟩
    exact ⟨symbols ++ [symbol], target, Automaton.reach?_concat reached edge, place⟩

/-- Every state is reached. -/
theorem exists_reach? {set : SetIndex} (inside : set < grammar.automaton.sets.length) :
    ∃ symbols, grammar.automaton.reach? startSet symbols = some set := by
  rw [length_sets] at inside
  have known := List.getElem?_eq_getElem inside
  obtain ⟨symbols, other, reached, same⟩ :=
    wellFormed.exists_reach?_of_kernel (wellFormed.reachable_kernel known)
  have distinct := wellFormed.discovering_kernels.nodup
  rw [List.append_nil] at distinct
  obtain rfl := (List.getElem?_inj inside distinct).mp (known.trans same.symm)
  exact ⟨symbols, reached⟩

/-! ### What can be read -/

/-- Every state that is reached has an item. -/
theorem exists_mem_items_of_reach? {symbols : List Symbol} {set : SetIndex}
    (reached : grammar.automaton.reach? startSet symbols = some set) :
    ∃ item, item ∈ grammar.automaton.items set := by
  rcases List.eq_nil_or_concat symbols with rfl | ⟨rest, symbol, rfl⟩
  · obtain rfl := Option.some.inj reached
    exact ⟨_, wellFormed.startItem_mem_items⟩
  · rw [List.concat_eq_append] at reached
    obtain ⟨middle, -, edge⟩ := Automaton.reach?_append_eq_some.mp reached
    rw [Automaton.reach?_singleton] at edge
    obtain ⟨item, present, next⟩ := wellFormed.target?_isSome_iff.mp ⟨set, edge⟩
    exact ⟨_, wellFormed.advance_mem_items edge present next⟩

/-- Each part of an alternative can be read where the alternative starts. -/
theorem exists_reach?_take {set : SetIndex} {rule : RuleIndex} {alternative : Nat} (dot : Nat)
    (present : ⟨rule, alternative, 0⟩ ∈ grammar.automaton.items set) :
    ∃ target, grammar.automaton.reach? set ((grammar.alternative rule alternative).take dot) =
      some target := by
  obtain ⟨target, reached⟩ := wellFormed.exists_reach?_drop present
  rw [← List.take_append_drop dot (List.drop _ _)] at reached
  obtain ⟨middle, reached, -⟩ := Automaton.reach?_append_eq_some.mp reached
  exact ⟨middle, reached⟩

/-- The symbols in front of a chain can be read from the first state. -/
theorem exists_reach?_of_chain {rule : RuleIndex} {before after : List Symbol}
    (chain : grammar.Chain rule before after) :
    ∃ set, grammar.automaton.reach? startSet before = some set := by
  induction chain with
  | start => exact ⟨startSet, rfl⟩
  | @next rule next before after left right chain listed ih =>
    obtain ⟨middle, reached⟩ := ih
    obtain ⟨alternative, inside, symbols⟩ := exists_alternative_eq listed
    have starts := start_mem_startingItems inside
    have present := wellFormed.startingItems_of_chain chain reached starts
    obtain ⟨target, onward⟩ := wellFormed.exists_reach?_take left.length present
    rw [symbols, List.take_left] at onward
    exact ⟨target, Automaton.reach?_append_eq_some.mpr ⟨middle, reached, onward⟩⟩

/-- Symbols that an item is valid for can be read from the first state. -/
theorem exists_reach?_of_valid {symbols : List Symbol} {item : Item}
    (valid : item.Valid grammar symbols) :
    ∃ set, grammar.automaton.reach? startSet symbols = some set := by
  obtain ⟨known, before, after, chain, rfl⟩ := valid
  obtain ⟨middle, reached⟩ := wellFormed.exists_reach?_of_chain chain
  have starts := start_mem_startingItems (mem_items.mp known).1
  have present := wellFormed.startingItems_of_chain chain reached starts
  obtain ⟨target, onward⟩ := wellFormed.exists_reach?_take item.dot present
  exact ⟨target, Automaton.reach?_append_eq_some.mpr ⟨middle, reached, onward⟩⟩

end Grammar.WellFormed

/-- The automaton reads what some item is valid for, and then it is in a state with exactly the
items that are valid for what it has read. -/
theorem Grammar.Loaded.reach?_iff_valid {grammar : Grammar} (loaded : grammar.Loaded)
    (symbols : List Symbol) :
    ((∃ set, grammar.automaton.reach? startSet symbols = some set) ↔
      ∃ item : Item, item.Valid grammar symbols) ∧
    ∀ set, grammar.automaton.reach? startSet symbols = some set →
      ∀ item : Item, item ∈ grammar.automaton.items set ↔ item.Valid grammar symbols := by
  have wellFormed := loaded.wellFormed
  refine ⟨⟨?_, ?_⟩, fun set reached item => wellFormed.mem_items_iff_valid reached⟩
  · rintro ⟨set, reached⟩
    obtain ⟨item, present⟩ := wellFormed.exists_mem_items_of_reach? reached
    exact ⟨item, wellFormed.valid_of_mem_items reached present⟩
  · rintro ⟨item, valid⟩
    exact wellFormed.exists_reach?_of_valid valid

/-- Behind two letters and an empty literal stands one item, whose stem is over; a second empty
literal fits no item. -/
theorem Grammar.reach?_sample :
    (∀ item : Item, item.Valid sample [.terminal 2, .terminal 2, .epsilon] ↔ item = ⟨2, 1, 1⟩) ∧
    ∀ item : Item, ¬ item.Valid sample [.terminal 2, .epsilon, .epsilon] := by
  have reached :
      sample.automaton.reach? startSet [.terminal 2, .terminal 2, .epsilon] = some 1 := by
    decide +kernel
  have items : sample.automaton.items 1 = [⟨2, 1, 1⟩] := by decide +kernel
  have stuck : sample.automaton.reach? startSet [.terminal 2, .epsilon, .epsilon] = none := by
    decide +kernel
  refine ⟨fun item => ?_, fun item valid => ?_⟩
  · rw [← (sample_loaded.reach?_iff_valid _).2 1 reached, items, List.mem_singleton]
  · obtain ⟨set, found⟩ := (sample_loaded.reach?_iff_valid _).1.mpr ⟨item, valid⟩
    cases stuck.symm.trans found

end ShiftReduce
