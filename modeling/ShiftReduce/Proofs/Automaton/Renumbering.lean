import ShiftReduce.Proofs.Automaton.Valid
import ShiftReduce.Proofs.Grammar.Renumbering

/-!
# States under other numbers

A state is known by its items, and these are the ones that are valid for the symbols that lead to
it. Whether an item is valid for some symbols does not depend on numbers. So under other numbers the
same symbols lead to a state, and two rows of symbols lead to the same state if they did before.

## Main definitions

* `Grammar.Stands` — an alternative, of which a part is read behind some symbols
* `Grammar.Meets` — states that the same symbols lead to

## Main results

* `Grammar.WellFormed.eq_of_items` — states with the same items are the same
* `Grammar.Renumbered.exists_reach?`, `Grammar.Renumbered.reach?_eq_some` — where symbols lead under
  other numbers
* `Grammar.Renumbered.exists_target?` — edges under other numbers
-/

namespace ShiftReduce

variable {grammar other : Grammar}

/-! ### States and their items -/

/-- A kernel holds the items of its closure with something read, and the one that starts every
derivation. -/
theorem ReachableKernel.mem_iff (wellFormed : grammar.WellFormed) {kernel : Kernel}
    (reachable : ReachableKernel grammar kernel) {item : Item} :
    item ∈ kernel ↔ InClosure grammar kernel item ∧
      (item.dot ≠ 0 ∨ item.rule = Grammar.startRule) := by
  constructor
  · intro present
    refine ⟨.kernel present, ?_⟩
    cases reachable with
    | start =>
      rw [List.mem_singleton.mp present]
      exact .inr rfl
    | edge _ successor => exact .inl (dot_ne_zero_of_mem_successors successor present)
  · rintro ⟨inside, own⟩
    cases inside with
    | kernel present => exact present
    | start parent next starts =>
      obtain ⟨rfl, -, unread⟩ := mem_startingItems.mp starts
      have known := reachable.mem_items_of_mem_closure wellFormed (mem_closure_iff.mpr parent)
      have listed := Item.symbols_mem_alternatives known
      obtain ⟨positive, -⟩ := wellFormed.inRange listed (List.mem_of_getElem? next)
      rcases own with read | isStart
      · exact absurd unread read
      · rw [isStart] at positive
        exact absurd positive (Nat.lt_irrefl 0)

/-- Kernels with the same items are the same. -/
theorem ReachableKernel.eq_of_mem_iff {left right : Kernel}
    (leftReachable : ReachableKernel grammar left) (rightReachable : ReachableKernel grammar right)
    (same : ∀ item, item ∈ left ↔ item ∈ right) : left = right := by
  have differs {kernel next : Kernel} {symbol : Symbol}
      (successor : (symbol, next) ∈ successors grammar kernel) :
      (⟨Grammar.startRule, 0, 0⟩ : Item) ∉ next :=
    fun present => dot_ne_zero_of_mem_successors successor present rfl
  cases leftReachable with
  | start =>
    cases rightReachable with
    | start => rfl
    | edge _ successor => exact absurd ((same _).mp List.mem_cons_self) (differs successor)
  | edge _ successor =>
    cases rightReachable with
    | start => exact absurd ((same _).mpr List.mem_cons_self) (differs successor)
    | edge _ otherSuccessor =>
      obtain ⟨-, rfl⟩ := mem_successors.mp successor
      obtain ⟨-, rfl⟩ := mem_successors.mp otherSuccessor
      refine List.filter_congr fun item present => ?_
      have both := same item
      simp only [kernelAfter, List.mem_filter, present, true_and] at both
      exact Bool.eq_iff_iff.mpr both

/-- States with the same items are the same. -/
theorem Grammar.WellFormed.eq_of_items (wellFormed : grammar.WellFormed) {left right : SetIndex}
    (leftInside : left < grammar.automaton.sets.length)
    (rightInside : right < grammar.automaton.sets.length)
    (same : ∀ item, item ∈ grammar.automaton.items left ↔ item ∈ grammar.automaton.items right) :
    left = right := by
  rw [length_sets] at leftInside rightInside
  have leftKnown := List.getElem?_eq_getElem leftInside
  have rightKnown := List.getElem?_eq_getElem rightInside
  have kernels : (kernels grammar)[left] = (kernels grammar)[right] := by
    have leftReachable := wellFormed.reachable_kernel leftKnown
    have rightReachable := wellFormed.reachable_kernel rightKnown
    refine leftReachable.eq_of_mem_iff rightReachable fun item => ?_
    rw [leftReachable.mem_iff wellFormed, rightReachable.mem_iff wellFormed]
    simp only [← mem_closure_iff, ← items_eq leftKnown, ← items_eq rightKnown, same]
  have distinct := wellFormed.discovering_kernels.nodup
  rw [List.append_nil] at distinct
  exact (List.Nodup.getElem_inj_iff distinct).mp kernels

/-! ### Alternatives behind symbols -/

/-- The first `dot` symbols of an alternative are read at the end of some symbols, behind those that
productions put in front of its rule. -/
def Grammar.Stands (grammar : Grammar) (rule : RuleIndex) (alternative : List Symbol) (dot : Nat)
    (symbols : List Symbol) : Prop :=
  alternative ∈ grammar.alternatives rule ∧ dot ≤ alternative.length ∧
    ∃ before after, grammar.Chain rule before after ∧ symbols = before ++ alternative.take dot

theorem Item.valid_iff_stands {item : Item} {symbols : List Symbol} :
    item.Valid grammar symbols ↔ item ∈ grammar.items ∧
      grammar.Stands item.rule (item.symbols grammar) item.dot symbols := by
  constructor
  · rintro ⟨known, chain⟩
    exact ⟨known, symbols_mem_alternatives known, (mem_items.mp known).2, chain⟩
  · rintro ⟨known, -, -, chain⟩
    exact ⟨known, chain⟩

/-- An alternative that stands somewhere does so as an item. -/
theorem Grammar.Stands.exists_valid {rule : RuleIndex} {alternative symbols : List Symbol}
    {dot : Nat} (stands : grammar.Stands rule alternative dot symbols) :
    ∃ place, grammar.alternative rule place = alternative ∧
      Item.Valid grammar ⟨rule, place, dot⟩ symbols := by
  obtain ⟨listed, bound, chain⟩ := stands
  obtain ⟨place, inside, rfl⟩ := exists_alternative_eq listed
  exact ⟨place, rfl, mem_items.mpr ⟨inside, bound⟩, chain⟩

namespace Grammar.WellFormed

variable (wellFormed : grammar.WellFormed) {symbols others : List Symbol} {set target : SetIndex}
include wellFormed

/-- Symbols lead somewhere if some alternative stands behind them. -/
theorem exists_reach?_iff_stands :
    (∃ set, grammar.automaton.reach? startSet symbols = some set) ↔
      ∃ rule alternative dot, grammar.Stands rule alternative dot symbols := by
  constructor
  · rintro ⟨set, reached⟩
    obtain ⟨item, present⟩ := wellFormed.exists_mem_items_of_reach? reached
    have valid := wellFormed.valid_of_mem_items reached present
    exact ⟨_, _, _, (Item.valid_iff_stands.mp valid).2⟩
  · rintro ⟨rule, alternative, dot, stands⟩
    obtain ⟨place, -, valid⟩ := stands.exists_valid
    exact wellFormed.exists_reach?_of_valid valid

theorem lt_length_of_reach? (reached : grammar.automaton.reach? startSet symbols = some set) :
    set < grammar.automaton.sets.length := by
  obtain ⟨item, present⟩ := wellFormed.exists_mem_items_of_reach? reached
  exact Automaton.lt_length_of_mem_items present

/-- Two rows of symbols lead to the same state if the same alternatives stand behind both. -/
theorem eq_iff_stands (reached : grammar.automaton.reach? startSet symbols = some set)
    (otherReached : grammar.automaton.reach? startSet others = some target) :
    set = target ↔ ∀ rule alternative dot,
      grammar.Stands rule alternative dot symbols ↔ grammar.Stands rule alternative dot others := by
  have along {symbols others : List Symbol} {set : SetIndex}
      (reached : grammar.automaton.reach? startSet symbols = some set)
      (otherReached : grammar.automaton.reach? startSet others = some set)
      {rule : RuleIndex} {alternative : List Symbol} {dot : Nat}
      (stands : grammar.Stands rule alternative dot symbols) :
      grammar.Stands rule alternative dot others := by
    obtain ⟨place, rfl, valid⟩ := stands.exists_valid
    have present := (wellFormed.mem_items_iff_valid reached).mpr valid
    have otherValid := (wellFormed.mem_items_iff_valid otherReached).mp present
    exact (Item.valid_iff_stands.mp otherValid).2
  constructor
  · rintro rfl rule alternative dot
    exact ⟨along reached otherReached, along otherReached reached⟩
  · intro same
    refine wellFormed.eq_of_items (wellFormed.lt_length_of_reach? reached)
      (wellFormed.lt_length_of_reach? otherReached) fun item => ?_
    rw [wellFormed.mem_items_iff_valid reached, wellFormed.mem_items_iff_valid otherReached,
      Item.valid_iff_stands, Item.valid_iff_stands, same]

end Grammar.WellFormed

/-! ### Other numbers -/

/-- A state meets one of the grammar under other numbers if the same symbols lead to both. -/
def Grammar.Meets (grammar : Grammar) (numbers : Renumbering) (other : Grammar)
    (set target : SetIndex) : Prop :=
  ∃ symbols, grammar.automaton.reach? startSet symbols = some set ∧
    other.automaton.reach? startSet (symbols.map numbers.symbol) = some target

theorem Grammar.Meets.symm {numbers : Renumbering} {set target : SetIndex}
    (meets : grammar.Meets numbers other set target) :
    other.Meets numbers.symm grammar target set := by
  obtain ⟨symbols, reached, otherReached⟩ := meets
  exact ⟨_, otherReached, by simpa using reached⟩

namespace Grammar.Renumbered

variable {numbers : Renumbering} {symbols : List Symbol} {set target : SetIndex}

theorem stands (renumbered : grammar.Renumbered numbers other) {rule : RuleIndex}
    {alternative : List Symbol} {dot : Nat}
    (stands : grammar.Stands rule alternative dot symbols) :
    other.Stands (numbers.rule rule) (alternative.map numbers.symbol) dot
      (symbols.map numbers.symbol) := by
  obtain ⟨listed, bound, before, after, chain, rfl⟩ := stands
  refine ⟨renumbered.mem_alternatives listed, by rwa [List.length_map], _, _,
    renumbered.chain chain, ?_⟩
  rw [List.map_append, List.map_take]

variable (renumbered : grammar.Renumbered numbers other) (wellFormed : grammar.WellFormed)
  (otherFormed : other.WellFormed)
include renumbered

/-- An alternative stands under other numbers only if it did before. -/
theorem stands_iff {rule : RuleIndex} {alternative : List Symbol} {dot : Nat} :
    other.Stands rule alternative dot (symbols.map numbers.symbol) ↔
      grammar.Stands (numbers.symm.rule rule) (alternative.map numbers.symm.symbol) dot
        symbols := by
  constructor
  · intro holds
    simpa using renumbered.symm.stands holds
  · intro holds
    simpa using renumbered.stands holds

include wellFormed otherFormed

/-- Symbols lead somewhere under other numbers. -/
theorem exists_reach? (reached : grammar.automaton.reach? startSet symbols = some set) :
    ∃ target, other.automaton.reach? startSet (symbols.map numbers.symbol) = some target := by
  obtain ⟨rule, alternative, dot, holds⟩ := wellFormed.exists_reach?_iff_stands.mp ⟨set, reached⟩
  exact otherFormed.exists_reach?_iff_stands.mpr ⟨_, _, _, renumbered.stands holds⟩

/-- Every state meets one. -/
theorem exists_meets (inside : set < grammar.automaton.sets.length) :
    ∃ target, grammar.Meets numbers other set target := by
  obtain ⟨symbols, reached⟩ := wellFormed.exists_reach? inside
  obtain ⟨target, found⟩ := renumbered.exists_reach? wellFormed otherFormed reached
  exact ⟨target, symbols, reached, found⟩

/-- Whatever symbols lead to a state lead to the one that it meets. -/
theorem reach?_eq_some (meets : grammar.Meets numbers other set target)
    (again : grammar.automaton.reach? startSet symbols = some set) :
    other.automaton.reach? startSet (symbols.map numbers.symbol) = some target := by
  obtain ⟨others, reached, otherReached⟩ := meets
  obtain ⟨last, found⟩ := renumbered.exists_reach? wellFormed otherFormed again
  rw [found, Option.some_inj]
  refine (otherFormed.eq_iff_stands found otherReached).mpr fun rule alternative dot => ?_
  rw [renumbered.stands_iff, renumbered.stands_iff]
  exact (wellFormed.eq_iff_stands again reached).mp rfl _ _ _

/-- An edge reads the same symbol under other numbers. -/
theorem exists_target? (meets : grammar.Meets numbers other set target) {symbol : Symbol}
    {next : SetIndex} (edge : grammar.automaton.target? set symbol = some next) :
    ∃ last, other.automaton.target? target (numbers.symbol symbol) = some last := by
  obtain ⟨symbols, reached, otherReached⟩ := meets
  have onward := Automaton.reach?_concat reached edge
  obtain ⟨last, found⟩ := renumbered.exists_reach? wellFormed otherFormed onward
  rw [List.map_append] at found
  obtain ⟨middle, before, edge⟩ := Automaton.reach?_append_eq_some.mp found
  obtain rfl := Option.some.inj (otherReached.symm.trans before)
  exact ⟨last, by simpa using edge⟩

end Grammar.Renumbered

end ShiftReduce
