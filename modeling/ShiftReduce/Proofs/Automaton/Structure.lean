import Mathlib.Order.Bounds.Basic
import ShiftReduce.Proofs.Automaton.Valid

/-!
# The structure of the automaton

The automaton has one state for each kernel that edges lead to from the first one. A kernel is in
order, what a closure adds to it has nothing read, and an edge leads to the only state whose kernel
holds what the edge moves.

## Main definitions

* `Item.Precedes` — the order of items
* `Item.Closed` — sets of items that hold those that start the rules behind their dots
* `Automaton.IsBehind` — the states whose kernel holds what reading a symbol moves
* `Automaton.IsCanonical` — the automaton of the sets of items of a grammar

## Main results

* `isLeast_closure` — the items of a closure are the least closed set
* `Grammar.WellFormed.isBehind_iff` — where an edge leads
* `Grammar.Loaded.automaton_spec` — discovery ends, and with that automaton
-/

namespace ShiftReduce

/-- The order of items: by rule, then by alternative, then by dot. -/
def Item.Precedes (left right : Item) : Prop :=
  left.rule < right.rule ∨ left.rule = right.rule ∧
    (left.alternative < right.alternative ∨
      left.alternative = right.alternative ∧ left.dot < right.dot)

/-- A set of items holds all those that start a rule behind the dot of one of them. -/
def Item.Closed (grammar : Grammar) (items : Set Item) : Prop :=
  ∀ parent ∈ items, ∀ rule, parent.next? grammar = some (.rule rule) →
    ∀ item ∈ grammar.startingItems rule, item ∈ items

/-- A state whose kernel holds the items of another one that have a symbol behind their dots, with
the dots moved behind it, and no others. -/
def Automaton.IsBehind (grammar : Grammar) (automaton : Automaton) (set : SetIndex)
    (symbol : Symbol) (target : SetIndex) : Prop :=
  ∃ state, automaton.sets[target]? = some state ∧ ∀ item, item ∈ state.kernel ↔
    ∃ before ∈ automaton.items set, before.next? grammar = some symbol ∧ before.advance = item

/-- The automaton of the sets of items of a grammar. -/
structure Automaton.IsCanonical (grammar : Grammar) (automaton : Automaton) : Prop where
  start : ∃ state, automaton.sets[startSet]? = some state ∧
    state.kernel = [⟨Grammar.startRule, 0, 0⟩]
  start_symbols : Item.symbols grammar ⟨Grammar.startRule, 0, 0⟩ = [.rule 1]
  kernels_nodup : (automaton.sets.map ItemSet.kernel).Nodup
  /-- A state is the one that its kernel stands for. -/
  place : ∀ {set state}, automaton.sets[set]? = some state →
    (automaton.sets.map ItemSet.kernel).idxOf state.kernel = set
  kernel_sorted : ∀ state ∈ automaton.sets, state.kernel.Pairwise Item.Precedes
  kernel_nodup : ∀ state ∈ automaton.sets, state.kernel.Nodup
  /-- Behind the kernel stand items with nothing read. -/
  items_eq : ∀ state ∈ automaton.sets, ∃ added,
    state.items = state.kernel ++ added ∧ ∀ item ∈ added, item.dot = 0
  items_nodup : ∀ state ∈ automaton.sets, state.items.Nodup
  items_least : ∀ state ∈ automaton.sets,
    IsLeast {items : Set Item | (∀ item ∈ state.kernel, item ∈ items) ∧ Item.Closed grammar items}
      {item | item ∈ state.items}
  edges_ascending : ∀ set, Sorted.Ascending (automaton.edges set)
  edge_iff : ∀ set symbol, (∃ target, automaton.target? set symbol = some target) ↔
    ∃ item ∈ automaton.items set, item.next? grammar = some symbol
  /-- An edge leads to the only state behind its symbol. -/
  target_iff : ∀ {set symbol target}, automaton.target? set symbol = some target →
    ∀ other, automaton.IsBehind grammar set symbol other ↔ other = target
  reachable : ∀ set < automaton.sets.length,
    ∃ symbols, automaton.reach? startSet symbols = some set
  incoming : ∀ {left right target symbol other}, automaton.target? left symbol = some target →
    automaton.target? right other = some target → symbol = other

/-! ### The order of items -/

namespace Item.Precedes

variable {left right : Item}

theorem ne (precedes : left.Precedes right) : left ≠ right := by
  rintro rfl
  obtain less | ⟨-, less | ⟨-, less⟩⟩ := precedes <;> exact Nat.lt_irrefl _ less

theorem not_precedes (precedes : left.Precedes right) : ¬ right.Precedes left := by
  unfold Precedes RuleIndex at *
  omega

end Item.Precedes

/-- The items of a grammar are listed in order. -/
theorem Grammar.pairwise_items (grammar : Grammar) : grammar.items.Pairwise Item.Precedes := by
  refine List.pairwise_flatMap.mpr ⟨fun rule _ => List.pairwise_flatMap.mpr ⟨?_, ?_⟩, ?_⟩
  · intro alternative _
    exact List.pairwise_map.mpr
      (List.pairwise_lt_range.imp fun before => .inr ⟨rfl, .inr ⟨rfl, before⟩⟩)
  · refine List.pairwise_lt_range.imp fun before left inLeft right inRight => ?_
    obtain ⟨_, -, rfl⟩ := List.mem_map.mp inLeft
    obtain ⟨_, -, rfl⟩ := List.mem_map.mp inRight
    exact .inr ⟨rfl, .inl before⟩
  · refine List.pairwise_lt_range.imp fun before left inLeft right inRight => ?_
    obtain ⟨_, -, inLeft⟩ := List.mem_flatMap.mp inLeft
    obtain ⟨_, -, rfl⟩ := List.mem_map.mp inLeft
    obtain ⟨_, -, inRight⟩ := List.mem_flatMap.mp inRight
    obtain ⟨_, -, rfl⟩ := List.mem_map.mp inRight
    exact .inl before

/-- Items in order are told by which they are. -/
theorem eq_of_pairwise_precedes {left right : List Item} (inOrder : left.Pairwise Item.Precedes)
    (otherInOrder : right.Pairwise Item.Precedes) (same : ∀ item, item ∈ left ↔ item ∈ right) :
    left = right := by
  have permuted : left.Perm right :=
    (List.perm_ext_iff_of_nodup (inOrder.imp Item.Precedes.ne)
      (otherInOrder.imp Item.Precedes.ne)).mpr same
  refine permuted.eq_of_pairwise ?_ inOrder otherInOrder
  exact fun first second _ _ before after => absurd after before.not_precedes

/-! ### Kernels and items -/

/-- The items of a closure are the least closed set that holds those it is made from. -/
theorem isLeast_closure (grammar : Grammar) (kernel : Kernel) :
    IsLeast {items : Set Item | (∀ item ∈ kernel, item ∈ items) ∧ Item.Closed grammar items}
      {item | item ∈ closure grammar kernel} := by
  refine ⟨⟨fun item present => mem_closure_iff.mpr (.kernel present), ?_⟩, ?_⟩
  · intro parent inside rule next item starts
    exact mem_closure_iff.mpr (.start (mem_closure_iff.mp inside) next starts)
  · rintro items ⟨holds, closed⟩ item inside
    induction mem_closure_iff.mp inside with
    | kernel present => exact holds _ present
    | start parent next starts ih =>
      exact closed _ (ih (mem_closure_iff.mpr parent)) _ next _ starts

theorem ReachableKernel.pairwise {grammar : Grammar} {kernel : Kernel}
    (reachable : ReachableKernel grammar kernel) (wellFormed : grammar.WellFormed) :
    kernel.Pairwise Item.Precedes :=
  grammar.pairwise_items.sublist (reachable.sublist wellFormed)

namespace Grammar.WellFormed

variable {grammar : Grammar}

theorem getElem?_sets (set : SetIndex) : grammar.automaton.sets[set]? =
    (kernels grammar)[set]?.map (itemSet grammar (kernels grammar)) :=
  List.getElem?_map ..

theorem map_kernel_sets : grammar.automaton.sets.map ItemSet.kernel = kernels grammar := by
  unfold automaton
  rw [List.map_map]
  exact List.map_id _

variable (wellFormed : grammar.WellFormed)
include wellFormed

theorem nodup_kernels : (kernels grammar).Nodup := by
  simpa using wellFormed.discovering_kernels.nodup

/-- A state is made from a kernel that edges lead to. -/
theorem exists_kernel {state : ItemSet} (present : state ∈ grammar.automaton.sets) :
    ∃ kernel, ReachableKernel grammar kernel ∧
      state = itemSet grammar (kernels grammar) kernel := by
  obtain ⟨kernel, found, rfl⟩ := List.mem_map.mp present
  exact ⟨kernel, wellFormed.discovering_kernels.reachable kernel (by simpa using found), rfl⟩

/-- The kernel behind an edge holds the items that the edge moves. -/
theorem mem_kernel_iff {set : SetIndex} {kernel next : Kernel} {symbol : Symbol}
    (known : (kernels grammar)[set]? = some kernel)
    (successor : (symbol, next) ∈ successors grammar kernel) {item : Item} :
    item ∈ next ↔ ∃ before ∈ grammar.automaton.items set,
      before.next? grammar = some symbol ∧ before.advance = item := by
  obtain ⟨-, rfl⟩ := mem_successors.mp successor
  rw [mem_kernelAfter, items_eq known, and_iff_right_iff_imp]
  rintro ⟨before, inside, read, rfl⟩
  have reachable := wellFormed.reachable_kernel known
  exact ShiftReduce.advance_mem_items (reachable.mem_items_of_mem_closure wellFormed inside) read

/-- An edge leads to the only state whose kernel holds the items that the edge moves. -/
theorem isBehind_iff {set target other : SetIndex} {symbol : Symbol}
    (edge : grammar.automaton.target? set symbol = some target) :
    grammar.automaton.IsBehind grammar set symbol other ↔ other = target := by
  obtain ⟨kernel, next, known, successor, found⟩ := wellFormed.target?_eq_some_iff.mp edge
  constructor
  · rintro ⟨state, place, holds⟩
    rw [getElem?_sets] at place
    obtain ⟨last, otherFound, rfl⟩ := Option.map_eq_some_iff.mp place
    have same : last = next := by
      refine eq_of_pairwise_precedes ((wellFormed.reachable_kernel otherFound).pairwise wellFormed)
        ((wellFormed.reachable_kernel found).pairwise wellFormed) fun item => ?_
      exact (holds item).trans (wellFormed.mem_kernel_iff known successor).symm
    subst same
    exact (List.getElem?_inj (List.getElem?_eq_some_iff.mp otherFound).1
      wellFormed.nodup_kernels).mp (otherFound.trans found.symm)
  · rintro rfl
    refine ⟨itemSet grammar (kernels grammar) next, ?_, fun item => ?_⟩
    · rw [getElem?_sets, found]
      rfl
    · exact wellFormed.mem_kernel_iff known successor

/-- The automaton that is built is that of the sets of items of the grammar. -/
theorem isCanonical_automaton : grammar.automaton.IsCanonical grammar where
  start := by
    refine ⟨itemSet grammar (kernels grammar) startKernel, ?_, rfl⟩
    rw [getElem?_sets, wellFormed.kernels_startSet]
    rfl
  start_symbols := wellFormed.alternative_startRule
  kernels_nodup := map_kernel_sets ▸ wellFormed.nodup_kernels
  place := by
    intro set state found
    rw [getElem?_sets] at found
    obtain ⟨kernel, known, rfl⟩ := Option.map_eq_some_iff.mp found
    obtain ⟨inside, rfl⟩ := List.getElem?_eq_some_iff.mp known
    rw [map_kernel_sets]
    exact wellFormed.nodup_kernels.idxOf_getElem set inside
  kernel_sorted := by
    intro state present
    obtain ⟨kernel, reachable, rfl⟩ := wellFormed.exists_kernel present
    exact reachable.pairwise wellFormed
  kernel_nodup := by
    intro state present
    obtain ⟨kernel, reachable, rfl⟩ := wellFormed.exists_kernel present
    exact grammar.nodup_items.sublist (reachable.sublist wellFormed)
  items_eq := by
    intro state present
    obtain ⟨kernel, -, rfl⟩ := wellFormed.exists_kernel present
    exact exists_expand_eq grammar [] kernel
  items_nodup := by
    intro state present
    obtain ⟨kernel, reachable, rfl⟩ := wellFormed.exists_kernel present
    exact reachable.nodup_closure wellFormed
  items_least := by
    intro state present
    obtain ⟨kernel, -, rfl⟩ := wellFormed.exists_kernel present
    exact isLeast_closure grammar kernel
  edges_ascending := ascending_edges
  edge_iff := fun _ _ => wellFormed.target?_isSome_iff
  target_iff := fun edge _ => wellFormed.isBehind_iff edge
  reachable := fun _ inside => wellFormed.exists_reach? inside
  incoming := wellFormed.eq_of_target?

end Grammar.WellFormed

/-- Discovery ends without a bound on its rounds, and the states of the kernels that it finds make
up the automaton of the sets of items of the grammar. -/
theorem Grammar.Loaded.automaton_spec {grammar : Grammar} (loaded : grammar.Loaded) :
    Discovers grammar [startKernel] [startKernel] (grammar.automaton.sets.map ItemSet.kernel) ∧
      grammar.automaton.IsCanonical grammar := by
  have wellFormed := loaded.wellFormed
  rw [WellFormed.map_kernel_sets]
  exact ⟨wellFormed.discovers_kernels, wellFormed.isCanonical_automaton⟩

/-- A rule that comes next in its own alternative, and the empty literal. -/
theorem Grammar.automaton_spec_sample : sample.automaton.IsCanonical sample :=
  sample_loaded.automaton_spec.2

end ShiftReduce
