import ShiftReduce.Proofs.Automaton.Kernels

/-!
# The states of the automaton

A state holds the closure of its kernel, and an edge advances the items that have its symbol behind
their dots. Nothing else about how states are found and numbered is used beyond this module.

## Main results

* `target?_isSome_iff` — a state has an edge for each symbol behind a dot of its items
* `advance_mem_items`, `exists_mem_items_of_advance` — the items on both ends of an edge
* `startingItems_subset`, `exists_parent` — where items with nothing read come from
* `eq_of_target?` — the symbol in front of a state
* `target?_ne_startSet` — no edge leads back to the first state
-/

namespace ShiftReduce

/-- An index with items is a state. -/
theorem Automaton.lt_length_of_mem_items {automaton : Automaton} {set : SetIndex} {item : Item}
    (present : item ∈ automaton.items set) : set < automaton.sets.length := by
  refine Nat.lt_of_not_le fun outside => ?_
  rw [items, List.getElem?_eq_none outside] at present
  cases present

/-- What holds of the items of all states holds of the items at every index. -/
theorem Automaton.forall_items {automaton : Automaton} {property : SetIndex → Item → Prop}
    (states : ∀ set < automaton.sets.length, ∀ item ∈ automaton.items set, property set item)
    (set : SetIndex) (item : Item) (present : item ∈ automaton.items set) : property set item :=
  states set (lt_length_of_mem_items present) item present

namespace Grammar.WellFormed

variable {grammar : Grammar} (wellFormed : grammar.WellFormed)

/-! ### States and kernels -/

theorem length_sets : grammar.automaton.sets.length = (kernels grammar).length :=
  List.length_map _

theorem items_eq {set : SetIndex} {kernel : Kernel}
    (known : (kernels grammar)[set]? = some kernel) :
    grammar.automaton.items set = closure grammar kernel := by
  unfold Automaton.items automaton
  rw [List.getElem?_map, known]
  rfl

theorem mem_items_iff {set : SetIndex} {item : Item} : item ∈ grammar.automaton.items set ↔
    ∃ kernel, (kernels grammar)[set]? = some kernel ∧ InClosure grammar kernel item := by
  unfold Automaton.items automaton
  rw [List.getElem?_map]
  cases (kernels grammar)[set]? with
  | none => simp
  | some kernel => simp [itemSet, mem_closure_iff]

theorem edges_eq {set : SetIndex} {kernel : Kernel}
    (known : (kernels grammar)[set]? = some kernel) :
    grammar.automaton.edges set = (successors grammar kernel).map fun successor =>
      (successor.1, (kernels grammar).idxOf successor.2) := by
  unfold Automaton.edges automaton
  rw [List.getElem?_map, known]
  rfl

theorem edges_eq_nil {set : SetIndex} (unknown : (kernels grammar)[set]? = none) :
    grammar.automaton.edges set = [] := by
  unfold Automaton.edges automaton
  rw [List.getElem?_map, unknown]
  rfl

theorem ascending_edges (set : SetIndex) : Sorted.Ascending (grammar.automaton.edges set) := by
  cases known : (kernels grammar)[set]? with
  | none =>
    rw [edges_eq_nil known]
    exact .nil
  | some kernel =>
    rw [edges_eq known, successors]
    simp only [List.map_map]
    refine List.pairwise_map.mpr ?_
    exact SymbolSet.ascending_ofList _

theorem mem_edges_iff {set target : SetIndex} {symbol : Symbol} :
    (symbol, target) ∈ grammar.automaton.edges set ↔
      grammar.automaton.target? set symbol = some target :=
  (ascending_edges set).mem_iff_lookup

/-- A state holds the items that start the rules behind the dots of its items. -/
theorem startingItems_subset {set : SetIndex} {item start : Item} {rule : RuleIndex}
    (present : item ∈ grammar.automaton.items set) (next : item.next? grammar = some (.rule rule))
    (starts : start ∈ grammar.startingItems rule) : start ∈ grammar.automaton.items set := by
  obtain ⟨kernel, known, inside⟩ := mem_items_iff.mp present
  exact mem_items_iff.mpr ⟨kernel, known, inside.start next starts⟩

include wellFormed

theorem reachable_kernel {set : SetIndex} {kernel : Kernel}
    (known : (kernels grammar)[set]? = some kernel) : ReachableKernel grammar kernel := by
  refine wellFormed.discovering_kernels.reachable kernel ?_
  rw [List.append_nil]
  exact List.mem_of_getElem? known

/-- An edge leads from a kernel to one of its successors. -/
theorem target?_eq_some_iff {set target : SetIndex} {symbol : Symbol} :
    grammar.automaton.target? set symbol = some target ↔
      ∃ kernel next, (kernels grammar)[set]? = some kernel ∧
        (symbol, next) ∈ successors grammar kernel ∧ (kernels grammar)[target]? = some next := by
  have discovering := wellFormed.discovering_kernels
  have nodup := discovering.nodup
  rw [List.append_nil] at nodup
  rw [← mem_edges_iff]
  constructor
  · intro present
    cases known : (kernels grammar)[set]? with
    | none =>
      rw [edges_eq_nil known] at present
      cases present
    | some kernel =>
      rw [edges_eq known] at present
      obtain ⟨⟨_, next⟩, successor, same⟩ := List.mem_map.mp present
      obtain ⟨rfl, rfl⟩ := Prod.mk.inj same
      have found := discovering.closed kernel (by simpa using List.mem_of_getElem? known) next
        (List.mem_map.mpr ⟨_, successor, rfl⟩)
      rw [List.append_nil] at found
      exact ⟨kernel, next, rfl, successor, List.getElem?_idxOf found⟩
  · rintro ⟨kernel, next, known, successor, found⟩
    rw [edges_eq known]
    refine List.mem_map.mpr ⟨_, successor, Prod.ext rfl ?_⟩
    obtain ⟨inside, rfl⟩ := List.getElem?_eq_some_iff.mp found
    exact nodup.idxOf_getElem target inside

/-! ### Items along edges -/

/-- The items of states are items of the grammar. -/
theorem mem_items_of_mem_set {set : SetIndex} {item : Item}
    (present : item ∈ grammar.automaton.items set) : item ∈ grammar.items := by
  obtain ⟨kernel, known, inside⟩ := mem_items_iff.mp present
  exact (wellFormed.reachable_kernel known).mem_items_of_mem_closure wellFormed
    (mem_closure_iff.mpr inside)

/-- A state holds no item twice. -/
theorem nodup_items_of_set (set : SetIndex) : (grammar.automaton.items set).Nodup := by
  rcases known : (kernels grammar)[set]? with _ | kernel
  · have noItems : grammar.automaton.items set = [] := by
      rw [Automaton.items, automaton, List.getElem?_map, known]
      rfl
    exact noItems ▸ List.nodup_nil
  · exact items_eq known ▸ (wellFormed.reachable_kernel known).nodup_closure wellFormed

theorem symbols_mem_alternatives {set : SetIndex} {item : Item}
    (present : item ∈ grammar.automaton.items set) :
    item.symbols grammar ∈ grammar.alternatives item.rule :=
  Item.symbols_mem_alternatives (wellFormed.mem_items_of_mem_set present)

/-- A state has an edge for each symbol behind a dot of its items. -/
theorem target?_isSome_iff {set : SetIndex} {symbol : Symbol} :
    (∃ target, grammar.automaton.target? set symbol = some target) ↔
      ∃ item ∈ grammar.automaton.items set, item.next? grammar = some symbol := by
  constructor
  · rintro ⟨target, edge⟩
    obtain ⟨kernel, next, known, successor, -⟩ := wellFormed.target?_eq_some_iff.mp edge
    obtain ⟨⟨item, present, read⟩, -⟩ := mem_successors.mp successor
    exact ⟨item, mem_items_iff.mpr ⟨kernel, known, mem_closure_iff.mp present⟩, read⟩
  · rintro ⟨item, present, read⟩
    obtain ⟨kernel, known, inside⟩ := mem_items_iff.mp present
    have successor := mem_successors.mpr ⟨⟨item, mem_closure_iff.mpr inside, read⟩, rfl⟩
    have found := wellFormed.discovering_kernels.closed kernel
      (List.mem_of_getElem? known) _ (List.mem_map.mpr ⟨_, successor, rfl⟩)
    rw [List.append_nil] at found
    obtain ⟨target, place⟩ := List.getElem?_of_mem found
    exact ⟨target, wellFormed.target?_eq_some_iff.mpr ⟨kernel, _, known, successor, place⟩⟩

/-- An edge leads to a state. -/
theorem target?_lt_length {set target : SetIndex} {symbol : Symbol}
    (edge : grammar.automaton.target? set symbol = some target) :
    target < grammar.automaton.sets.length := by
  obtain ⟨_, _, -, -, found⟩ := wellFormed.target?_eq_some_iff.mp edge
  rw [length_sets]
  exact (List.getElem?_eq_some_iff.mp found).1

/-- An edge advances the items that have its symbol behind their dots. -/
theorem advance_mem_items {set target : SetIndex} {symbol : Symbol} {item : Item}
    (edge : grammar.automaton.target? set symbol = some target)
    (present : item ∈ grammar.automaton.items set) (read : item.next? grammar = some symbol) :
    item.advance ∈ grammar.automaton.items target := by
  obtain ⟨kernel, next, known, successor, found⟩ := wellFormed.target?_eq_some_iff.mp edge
  obtain ⟨other, sameKnown, inside⟩ := mem_items_iff.mp present
  obtain rfl := Option.some.inj (known.symm.trans sameKnown)
  obtain ⟨-, rfl⟩ := mem_successors.mp successor
  have known := ShiftReduce.advance_mem_items (wellFormed.mem_items_of_mem_set present) read
  exact mem_items_iff.mpr ⟨_, found, .kernel (mem_kernelAfter.mpr
    ⟨known, item, mem_closure_iff.mpr inside, read, rfl⟩)⟩

/-- What is read of the items behind an edge ends with the symbol of the edge. -/
theorem exists_mem_items_of_advance {set target : SetIndex} {symbol : Symbol} {item : Item}
    (edge : grammar.automaton.target? set symbol = some target)
    (present : item ∈ grammar.automaton.items target) (read : item.dot ≠ 0) :
    ∃ before ∈ grammar.automaton.items set,
      before.next? grammar = some symbol ∧ before.advance = item := by
  obtain ⟨kernel, next, known, successor, found⟩ := wellFormed.target?_eq_some_iff.mp edge
  obtain ⟨other, sameFound, inside⟩ := mem_items_iff.mp present
  obtain rfl := Option.some.inj (found.symm.trans sameFound)
  obtain ⟨-, rfl⟩ := mem_successors.mp successor
  cases inside with
  | kernel inKernel =>
    obtain ⟨-, before, inside, next, same⟩ := mem_kernelAfter.mp inKernel
    exact ⟨before, mem_items_iff.mpr ⟨kernel, known, mem_closure_iff.mp inside⟩, next, same⟩
  | start _ _ starts => exact absurd (mem_startingItems.mp starts).2.2 read

/-- Edges that lead to the same state read the same symbol. -/
theorem eq_of_target? {left right target : SetIndex} {symbol other : Symbol}
    (leftEdge : grammar.automaton.target? left symbol = some target)
    (rightEdge : grammar.automaton.target? right other = some target) : symbol = other := by
  obtain ⟨⟨_, _, _⟩, present, next⟩ := wellFormed.target?_isSome_iff.mp ⟨target, leftEdge⟩
  have behind := wellFormed.advance_mem_items leftEdge present next
  obtain ⟨⟨_, _, _⟩, -, otherNext, same⟩ :=
    wellFormed.exists_mem_items_of_advance rightEdge behind (Nat.succ_ne_zero _)
  cases same
  exact Option.some.inj (next.symm.trans otherNext)

/-! ### The first state -/

theorem kernels_startSet : (kernels grammar)[startSet]? = some startKernel := by
  obtain ⟨rest, same⟩ := wellFormed.kernels_head
  rw [← same]
  rfl

theorem startItem_mem_items : ⟨startRule, 0, 0⟩ ∈ grammar.automaton.items startSet :=
  mem_items_iff.mpr ⟨startKernel, wellFormed.kernels_startSet, .kernel List.mem_cons_self⟩

/-- No edge leads back to the first state. -/
theorem target?_ne_startSet {set : SetIndex} {symbol : Symbol} :
    grammar.automaton.target? set symbol ≠ some startSet := by
  intro edge
  obtain ⟨kernel, next, -, successor, found⟩ := wellFormed.target?_eq_some_iff.mp edge
  obtain rfl := Option.some.inj (wellFormed.kernels_startSet.symm.trans found)
  exact dot_ne_zero_of_mem_successors successor List.mem_cons_self rfl

/-- An item with nothing read is the first one of all, or its rule comes next in another item. -/
theorem exists_parent {set : SetIndex} {item : Item}
    (present : item ∈ grammar.automaton.items set) (unread : item.dot = 0) :
    (set = startSet ∧ item = ⟨startRule, 0, 0⟩) ∨
      ∃ parent ∈ grammar.automaton.items set, parent.next? grammar = some (.rule item.rule) := by
  obtain ⟨kernel, known, inside⟩ := mem_items_iff.mp present
  cases inside with
  | kernel inKernel =>
    left
    cases wellFormed.reachable_kernel known with
    | start =>
      refine ⟨?_, List.mem_singleton.mp inKernel⟩
      have nodup := wellFormed.discovering_kernels.nodup
      rw [List.append_nil] at nodup
      exact (List.getElem?_inj (List.getElem?_eq_some_iff.mp known).1 nodup).mp
        (known.trans wellFormed.kernels_startSet.symm)
    | edge _ successor =>
      exact absurd unread (dot_ne_zero_of_mem_successors successor inKernel)
  | start parent next starts =>
    right
    rw [(mem_startingItems.mp starts).1]
    exact ⟨_, mem_items_iff.mpr ⟨kernel, known, parent⟩, next⟩

/-- The item that starts every derivation is in the first state only. -/
theorem eq_startSet_of_startItem {set : SetIndex}
    (present : ⟨startRule, 0, 0⟩ ∈ grammar.automaton.items set) : set = startSet := by
  obtain ⟨isStart, -⟩ | ⟨parent, -, next⟩ := wellFormed.exists_parent present rfl
  · exact isStart
  · exact absurd next (wellFormed.next?_ne_startRule parent)

/-- Where a rule other than the one that starts every derivation starts, it comes next. -/
theorem exists_target?_of_start {set : SetIndex} {rule : RuleIndex} {alternative : Nat}
    (starts : ⟨rule, alternative, 0⟩ ∈ grammar.automaton.items set) (differs : rule ≠ startRule) :
    ∃ target, grammar.automaton.target? set (.rule rule) = some target := by
  obtain ⟨-, same⟩ | parent := wellFormed.exists_parent starts rfl
  · exact absurd (congrArg Item.rule same) differs
  · exact wellFormed.target?_isSome_iff.mpr parent

end Grammar.WellFormed

end ShiftReduce
