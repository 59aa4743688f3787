import ShiftReduce.Lookahead.Sets
import ShiftReduce.Proofs.Grammar.Ascending
import ShiftReduce.Proofs.Grammar.WellFormed

/-!
# Settling

Passes that only ever enlarge sets within bounds come to an end: the last one changes nothing, and
so neither does any of the steps that it consists of.

## Main definitions

* `Enlarges` — steps that keep an invariant and enlarge what they change
* `Settles` — repeating a pass without any bound until it changes nothing
* `Bounded` — ascending sets of symbols that are there

## Main results

* `Enlarges.settles_settle` — with enough fuel, settling ends because a pass changes nothing
* `Enlarges.foldl_fixed` — what a pass does not change, none of its steps does
* `Bounded.size_le`, `Bounded.extendAt_grows` — sets have bounds, and extending enlarges them
-/

namespace ShiftReduce

/-! ### Steps that enlarge -/

section Enlarges

variable {α β : Type} {size : α → Nat} {invariant : α → Prop}

/-- A step keeps an invariant, and enlarges what it changes. -/
structure Enlarges (size : α → Nat) (invariant : α → Prop) (step : α → α) : Prop where
  kept : ∀ {state}, invariant state → invariant (step state)
  grows : ∀ {state}, invariant state → step state = state ∨ size state < size (step state)

theorem Enlarges.id : Enlarges size invariant fun state => state :=
  ⟨fun holds => holds, fun _ => .inl rfl⟩

theorem Enlarges.comp {first second : α → α} (outer : Enlarges size invariant second)
    (inner : Enlarges size invariant first) :
    Enlarges size invariant fun state => second (first state) where
  kept := fun holds => outer.kept (inner.kept holds)
  grows := by
    intro state holds
    rcases inner.grows holds with same | more
    · rw [same]
      exact outer.grows holds
    · right
      rcases outer.grows (inner.kept holds) with same | evenMore
      · rwa [same]
      · exact Nat.lt_trans more evenMore

/-- If two steps together change nothing, the first one does not. -/
theorem Enlarges.fixed_of_comp {first second : α → α} {state : α}
    (outer : Enlarges size invariant second) (inner : Enlarges size invariant first)
    (holds : invariant state) (fixed : second (first state) = state) : first state = state := by
  rcases inner.grows holds with same | more
  · exact same
  · exfalso
    rcases outer.grows (inner.kept holds) with same | evenMore
    · rw [← same, fixed] at more
      exact Nat.lt_irrefl _ more
    · rw [fixed] at evenMore
      exact Nat.lt_asymm more evenMore

theorem Enlarges.foldl {step : α → β → α} {elements : List β}
    (each : ∀ element ∈ elements, Enlarges size invariant (step · element)) :
    Enlarges size invariant (elements.foldl step) := by
  induction elements with
  | nil => exact .id
  | cons element rest ih =>
    have later := ih fun other present => each other (List.mem_cons_of_mem _ present)
    exact later.comp (each element List.mem_cons_self)

/-- If all steps together change nothing, none of them does. -/
theorem Enlarges.foldl_fixed {step : α → β → α} {elements : List β} {state : α}
    (each : ∀ element ∈ elements, Enlarges size invariant (step · element))
    (holds : invariant state) (fixed : elements.foldl step state = state) :
    ∀ element ∈ elements, step state element = state := by
  induction elements with
  | nil => exact fun _ present => absurd present List.not_mem_nil
  | cons element rest ih =>
    have others : ∀ other ∈ rest, Enlarges size invariant (step · other) :=
      fun other present => each other (List.mem_cons_of_mem _ present)
    have first := (Enlarges.foldl others).fixed_of_comp (each element List.mem_cons_self) holds
      fixed
    rintro other (_ | ⟨_, later⟩)
    · exact first
    · rw [List.foldl_cons, first] at fixed
      exact ih others fixed other later

/-- A pass is repeated until one changes nothing, without any bound. The number of passes includes
that one. -/
inductive Settles (pass : α → α) : α → α → Nat → Prop
  | fixed {state : α} : pass state = state → Settles pass state state 1
  | changed {state settled : α} {passes : Nat} : pass state ≠ state →
      Settles pass (pass state) settled passes → Settles pass state settled (passes + 1)

variable {pass : α → α} {state : α}

/-- What settles, a pass does not change. -/
theorem Settles.pass_eq {settled : α} {passes : Nat} (settles : Settles pass state settled passes) :
    pass settled = settled := by
  induction settles with
  | fixed same => exact same
  | changed _ _ ih => exact ih

variable [DecidableEq α] {fuel : Nat}

/-- Settling keeps what passes keep. -/
theorem settle_induction {motive : α → Prop} (kept : ∀ state, motive state → motive (pass state))
    (holds : motive state) : motive (settle pass fuel state).1 := by
  induction fuel generalizing state with
  | zero => exact holds
  | succ fuel ih =>
    unfold settle
    dsimp only
    split
    · exact holds
    · exact ih (kept state holds)

/-- With more fuel than there is room to grow, settling is done before the fuel is. -/
theorem Enlarges.settles_settle (enlarges : Enlarges size invariant pass) {bound : Nat}
    (bounded : ∀ state, invariant state → size state ≤ bound) (enough : bound < fuel + size state)
    (holds : invariant state) :
    Settles pass state (settle pass fuel state).1 (settle pass fuel state).2 := by
  induction fuel generalizing state with
  | zero =>
    have := bounded state holds
    omega
  | succ fuel ih =>
    unfold settle
    dsimp only
    split
    · rename_i fixed
      exact .fixed fixed
    -- A pass that changes something uses up fuel and room alike.
    · rename_i changed
      have more := (enlarges.grows holds).resolve_left changed
      exact .changed changed (ih (by omega) (enlarges.kept holds))

end Enlarges

/-! ### Sets of symbols -/

/-- The number of symbols in some sets. -/
def sizeOfSets (sets : List SymbolSet) : Nat := sets.flatten.length

@[simp] theorem sizeOfSets_cons (set : SymbolSet) (rest : List SymbolSet) :
    sizeOfSets (set :: rest) = set.length + sizeOfSets rest := List.length_append

/-- A number of ascending sets of symbols that are there. -/
structure Bounded (rules terminals count : Nat) (sets : List SymbolSet) : Prop where
  length_eq : sets.length = count
  ascending : ∀ set ∈ sets, set.Ascending
  inRange : ∀ set ∈ sets, ∀ symbol ∈ set, symbol.InRange rules terminals

/-- A set of symbols that are there has no more of them than there are. -/
theorem SymbolSet.Ascending.length_le {rules terminals : Nat} {set : SymbolSet}
    (ascending : set.Ascending) (inRange : ∀ symbol ∈ set, symbol.InRange rules terminals) :
    set.length ≤ terminals + rules := by
  have listed : set ⊆ (List.range terminals).map .terminal ++ (List.range rules).map .rule := by
    intro symbol present
    have known := inRange symbol present
    cases symbol with
    | terminal index =>
      exact List.mem_append_left _ (List.mem_map.mpr ⟨index, List.mem_range.mpr known, rfl⟩)
    | rule index =>
      exact List.mem_append_right _ (List.mem_map.mpr ⟨index, List.mem_range.mpr known.2, rfl⟩)
  have bound := ascending.nodup.length_le_of_subset listed
  simpa using bound

namespace Bounded

variable {rules terminals count : Nat} {sets : List SymbolSet} {edge : EdgeIndex}
  {symbols : SymbolSet}

/-- The sets have no more symbols than there are, in each of them. -/
theorem size_le (bounded : Bounded rules terminals count sets) :
    sizeOfSets sets ≤ count * (terminals + rules) := by
  obtain ⟨rfl, ascending, inRange⟩ := bounded
  induction sets with
  | nil => exact Nat.zero_le _
  | cons set rest ih =>
    have first := (ascending set List.mem_cons_self).length_le (inRange set List.mem_cons_self)
    have later := ih (fun other present => ascending other (List.mem_cons_of_mem _ present))
      (fun other present => inRange other (List.mem_cons_of_mem _ present))
    rw [sizeOfSets_cons, List.length_cons, Nat.succ_mul]
    omega

theorem ascending_symbolsAt (bounded : Bounded rules terminals count sets) (edge : EdgeIndex) :
    (symbolsAt sets edge).Ascending := by
  unfold symbolsAt
  rcases known : sets[edge]? with _ | set
  · exact .nil
  · exact bounded.ascending set (List.mem_of_getElem? known)

theorem symbolsAt_inRange (bounded : Bounded rules terminals count sets) {symbol : Symbol}
    (present : symbol ∈ symbolsAt sets edge) : symbol.InRange rules terminals := by
  unfold symbolsAt at present
  rcases known : sets[edge]? with _ | set
  · simp [known] at present
  · rw [known] at present
    exact bounded.inRange set (List.mem_of_getElem? known) symbol present

theorem extendAt (bounded : Bounded rules terminals count sets)
    (inRange : ∀ symbol ∈ symbols, symbol.InRange rules terminals) :
    Bounded rules terminals count (ShiftReduce.extendAt sets edge symbols) := by
  obtain ⟨length, ascending, known⟩ := bounded
  have modified {set : SymbolSet} (present : set ∈ ShiftReduce.extendAt sets edge symbols) :
      set ∈ sets ∨ ∃ old ∈ sets, set = SymbolSet.union old symbols := by
    obtain ⟨place, inside, rfl⟩ := List.getElem_of_mem present
    simp only [ShiftReduce.extendAt, List.getElem_modify]
    split
    · exact .inr ⟨_, List.getElem_mem _, rfl⟩
    · exact .inl (List.getElem_mem _)
  refine ⟨?_, ?_, ?_⟩
  · rw [ShiftReduce.extendAt, List.length_modify, length]
  · intro set present
    obtain same | ⟨old, inSets, rfl⟩ := modified present
    · exact ascending set same
    · exact (ascending old inSets).union
  · intro set present symbol inSet
    obtain same | ⟨old, inSets, rfl⟩ := modified present
    · exact known set same symbol inSet
    · exact (SymbolSet.mem_union.mp inSet).elim (known old inSets symbol) (inRange symbol)

/-- Extending a set leaves it as it is or enlarges it. -/
theorem extendAt_grows (ascending : ∀ set ∈ sets, set.Ascending) :
    ShiftReduce.extendAt sets edge symbols = sets ∨
      sizeOfSets sets < sizeOfSets (ShiftReduce.extendAt sets edge symbols) := by
  induction sets generalizing edge with
  | nil => exact .inl (by cases edge <;> rfl)
  | cons set rest ih =>
    have first := ascending set List.mem_cons_self
    cases edge with
    | zero =>
      rcases @SymbolSet.union_eq_or_lt set symbols first with same | more
      · exact .inl (congrArg (· :: rest) same)
      · rw [ShiftReduce.extendAt, List.modify_zero_cons, sizeOfSets_cons, sizeOfSets_cons]
        exact .inr (Nat.add_lt_add_right more _)
    | succ edge =>
      have others : ∀ other ∈ rest, other.Ascending :=
        fun other present => ascending other (List.mem_cons_of_mem _ present)
      rcases @ih edge others with same | more
      · exact .inl (congrArg (set :: ·) same)
      · rw [ShiftReduce.extendAt, List.modify_succ_cons, sizeOfSets_cons, sizeOfSets_cons]
        exact .inr (Nat.add_lt_add_left more _)

end Bounded

/-- Passes that keep sets within bounds settle before their number runs out. -/
theorem Enlarges.settles_passBound {paths : PathGrammar} {grammar : Grammar}
    {invariant : List SymbolSet → Prop} {pass : List SymbolSet → List SymbolSet}
    {sets : List SymbolSet} (enlarges : Enlarges sizeOfSets invariant pass)
    (bounded : ∀ sets, invariant sets →
      Bounded grammar.rules.length grammar.terminals.length paths.edges.length sets)
    (holds : invariant sets) :
    Settles pass sets (settle pass (paths.passBound grammar) sets).1
      (settle pass (paths.passBound grammar) sets).2 := by
  refine enlarges.settles_settle (fun sets kept => (bounded sets kept).size_le) ?_ holds
  unfold PathGrammar.passBound
  omega

/-! ### What extended sets hold -/

section ExtendAt

variable {sets : List SymbolSet} {edge other : EdgeIndex} {symbols : SymbolSet} {symbol : Symbol}

/-- What a set holds after one of the sets was extended. -/
theorem mem_or_of_mem_extendAt (present : symbol ∈ symbolsAt (extendAt sets edge symbols) other) :
    symbol ∈ symbolsAt sets other ∨ (other = edge ∧ symbol ∈ symbols) := by
  unfold symbolsAt extendAt at present
  rw [List.getElem?_modify] at present
  unfold symbolsAt
  rcases known : sets[other]? with _ | set
  · simp [known] at present
  · by_cases same : edge = other
    · subst same
      simpa [known] using present
    · left
      simpa [known, same] using present

theorem mem_extendAt_of_mem (present : symbol ∈ symbolsAt sets other) :
    symbol ∈ symbolsAt (extendAt sets edge symbols) other := by
  unfold symbolsAt extendAt
  rw [List.getElem?_modify]
  unfold symbolsAt at present
  rcases known : sets[other]? with _ | set
  · simp [known] at present
  · rw [known] at present
    by_cases same : edge = other
    · simpa [same] using .inl present
    · simpa [same] using present

theorem mem_extendAt_self (inside : edge < sets.length) (present : symbol ∈ symbols) :
    symbol ∈ symbolsAt (extendAt sets edge symbols) edge := by
  unfold symbolsAt extendAt
  rw [List.getElem?_modify, List.getElem?_eq_getElem inside]
  simpa using .inr present

end ExtendAt

end ShiftReduce
