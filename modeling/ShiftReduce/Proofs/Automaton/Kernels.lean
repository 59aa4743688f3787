import Mathlib.Data.List.Sublists
import ShiftReduce.Automaton.Basic
import ShiftReduce.Proofs.Automaton.Closure
import ShiftReduce.Proofs.Grammar.Ascending
import ShiftReduce.Proofs.Grammar.WellFormed

/-!
# The kernels of the states

Discovery ends before its fuel does: every round takes a kernel from the queue, no kernel is queued
twice, and each selects from the items of the grammar. So it finds the kernels that edges lead to
from the first one, and all of those.

## Main definitions

* `ReachableKernel` — the kernels that edges lead to from the first one
* `Discovering` — what holds in every round of discovery
* `Discovers` — discovery without a bound on its rounds

## Main results

* `Grammar.WellFormed.discovers_kernels` — discovery ends, and with the kernels of all states
* `Grammar.WellFormed.discovering_kernels` — what holds of these kernels
-/

namespace ShiftReduce

/-- Parts that are told apart by a key, and have no repetitions each, have none together. -/
theorem nodup_flatMap_of_key {α β : Type} {elements : List α} {part : α → List β} (key : β → α)
    (distinct : elements.Nodup) (each : ∀ element ∈ elements, (part element).Nodup)
    (tells : ∀ element ∈ elements, ∀ member ∈ part element, key member = element) :
    (elements.flatMap part).Nodup := by
  refine List.nodup_flatMap.mpr ⟨each, distinct.imp_of_mem ?_⟩
  intro left right inLeft inRight differ member memberLeft memberRight
  exact differ ((tells left inLeft member memberLeft).symm.trans
    (tells right inRight member memberRight))

variable {grammar : Grammar}

/-! ### Items and edges -/

theorem mem_items {item : Item} : item ∈ grammar.items ↔
    item.alternative < (grammar.alternatives item.rule).length ∧
      item.dot ≤ (item.symbols grammar).length := by
  simp only [Grammar.items, Grammar.alternativeItems, List.mem_flatMap, List.mem_range,
    List.mem_map]
  constructor
  · rintro ⟨rule, -, alternative, inside, dot, bound, rfl⟩
    exact ⟨inside, Nat.le_of_lt_succ bound⟩
  · rintro ⟨inside, bound⟩
    have known := Grammar.lt_length_of_alternatives inside
    exact ⟨item.rule, known, item.alternative, inside, item.dot, Nat.lt_succ_of_le bound, rfl⟩

/-- The items of a grammar are listed once each. -/
theorem Grammar.nodup_items (grammar : Grammar) : grammar.items.Nodup := by
  refine nodup_flatMap_of_key Item.rule List.nodup_range ?_ ?_
  · intro rule _
    refine nodup_flatMap_of_key Item.alternative List.nodup_range ?_ ?_
    · intro alternative _
      exact List.nodup_range.map fun left right same => congrArg Item.dot same
    · intro alternative _ item listed
      obtain ⟨_, -, rfl⟩ := List.mem_map.mp listed
      rfl
  · intro rule _ item listed
    obtain ⟨_, -, inAlternative⟩ := List.mem_flatMap.mp listed
    obtain ⟨_, -, rfl⟩ := List.mem_map.mp inAlternative
    rfl

theorem Item.symbols_mem_alternatives {item : Item} (present : item ∈ grammar.items) :
    item.symbols grammar ∈ grammar.alternatives item.rule := by
  obtain ⟨inside, -⟩ := mem_items.mp present
  rw [symbols, Grammar.alternative, List.getElem?_eq_getElem inside]
  exact List.getElem_mem inside

theorem advance_mem_items {item : Item} {symbol : Symbol} (present : item ∈ grammar.items)
    (next : item.next? grammar = some symbol) : item.advance ∈ grammar.items := by
  obtain ⟨inside, -⟩ := mem_items.mp present
  exact mem_items.mpr ⟨inside, (List.getElem?_eq_some_iff.mp next).1⟩

theorem mem_nextSymbols {items : List Item} {symbol : Symbol} :
    symbol ∈ nextSymbols grammar items ↔ ∃ item ∈ items, item.next? grammar = some symbol := by
  rw [nextSymbols, SymbolSet.mem_ofList, List.mem_filterMap]

theorem mem_kernelAfter {items : List Item} {symbol : Symbol} {item : Item} :
    item ∈ kernelAfter grammar items symbol ↔ item ∈ grammar.items ∧
      ∃ before ∈ items, before.next? grammar = some symbol ∧ before.advance = item := by
  simp [kernelAfter, and_assoc]

theorem mem_successors {kernel next : Kernel} {symbol : Symbol} :
    (symbol, next) ∈ successors grammar kernel ↔
      (∃ item ∈ closure grammar kernel, item.next? grammar = some symbol) ∧
        next = kernelAfter grammar (closure grammar kernel) symbol := by
  rw [← mem_nextSymbols]
  unfold successors
  constructor
  · intro present
    obtain ⟨_, inside, same⟩ := List.mem_map.mp present
    obtain ⟨rfl, rfl⟩ := Prod.mk.inj same
    exact ⟨inside, rfl⟩
  · rintro ⟨inside, rfl⟩
    exact List.mem_map.mpr ⟨symbol, inside, rfl⟩

/-- A closure of items of the grammar holds such items only. -/
theorem closure_subset_items {kernel : Kernel} (known : ∀ item ∈ kernel, item ∈ grammar.items)
    {item : Item} (present : item ∈ closure grammar kernel) : item ∈ grammar.items := by
  obtain inside | ⟨-, -, starts⟩ := mem_closure_iff.mp present
  · exact known item inside
  · obtain ⟨rfl, inside, dot⟩ := mem_startingItems.mp starts
    exact mem_items.mpr ⟨inside, dot ▸ Nat.zero_le _⟩

/-! ### Reachable kernels -/

/-- The kernels that edges lead to from the first one. -/
inductive ReachableKernel (grammar : Grammar) : Kernel → Prop
  | start : ReachableKernel grammar startKernel
  | edge {kernel next : Kernel} {symbol : Symbol} : ReachableKernel grammar kernel →
      (symbol, next) ∈ successors grammar kernel → ReachableKernel grammar next

theorem Grammar.WellFormed.startKernel_sublist (wellFormed : grammar.WellFormed) :
    List.Sublist startKernel grammar.items := by
  refine List.singleton_sublist.mpr (mem_items.mpr ⟨?_, Nat.zero_le _⟩)
  rw [wellFormed.alternatives_startRule]
  exact Nat.one_pos

theorem ReachableKernel.sublist (wellFormed : grammar.WellFormed) {kernel : Kernel}
    (reachable : ReachableKernel grammar kernel) : List.Sublist kernel grammar.items := by
  cases reachable with
  | start => exact wellFormed.startKernel_sublist
  | edge _ successor =>
    obtain ⟨-, rfl⟩ := mem_successors.mp successor
    exact List.filter_sublist

/-- The items of a reachable kernel's closure are items of the grammar. -/
theorem ReachableKernel.mem_items_of_mem_closure (wellFormed : grammar.WellFormed)
    {kernel : Kernel} (reachable : ReachableKernel grammar kernel) {item : Item}
    (present : item ∈ closure grammar kernel) : item ∈ grammar.items :=
  closure_subset_items (fun _ inside => (reachable.sublist wellFormed).subset inside) present

/-- An edge that reads a symbol leads to items that have it in front of their dots. -/
theorem next_ne_nil_of_mem_successors (wellFormed : grammar.WellFormed) {kernel next : Kernel}
    {symbol : Symbol} (reachable : ReachableKernel grammar kernel)
    (successor : (symbol, next) ∈ successors grammar kernel) :
    ∃ item ∈ closure grammar kernel, item.next? grammar = some symbol ∧ item.advance ∈ next := by
  obtain ⟨⟨item, present, read⟩, rfl⟩ := mem_successors.mp successor
  have known := reachable.mem_items_of_mem_closure wellFormed present
  exact ⟨item, present, read,
    mem_kernelAfter.mpr ⟨advance_mem_items known read, item, present, read, rfl⟩⟩

/-- An edge leads to a kernel of items with something read. -/
theorem dot_ne_zero_of_mem_successors {kernel next : Kernel} {symbol : Symbol} {item : Item}
    (successor : (symbol, next) ∈ successors grammar kernel) (present : item ∈ next) :
    item.dot ≠ 0 := by
  obtain ⟨-, rfl⟩ := mem_successors.mp successor
  obtain ⟨-, before, -, -, rfl⟩ := mem_kernelAfter.mp present
  exact Nat.succ_ne_zero _

/-- The start rule comes next in no item. -/
theorem Grammar.WellFormed.next?_ne_startRule (wellFormed : grammar.WellFormed) (item : Item) :
    item.next? grammar ≠ some (.rule startRule) := by
  intro next
  have listed : item.symbols grammar ∈ grammar.alternatives item.rule := by
    unfold Item.next? Item.symbols alternative at next
    unfold Item.symbols alternative
    rcases known : (grammar.alternatives item.rule)[item.alternative]? with _ | symbols
    · rw [known] at next
      cases next
    · exact List.mem_of_getElem? known
  exact absurd (wellFormed.inRange listed (List.mem_of_getElem? next)).1 (Nat.lt_irrefl 0)

/-- The closure of a reachable kernel holds no item twice. -/
theorem ReachableKernel.nodup_closure (wellFormed : grammar.WellFormed) {kernel : Kernel}
    (reachable : ReachableKernel grammar kernel) : (closure grammar kernel).Nodup := by
  refine nodup_expand (grammar.nodup_items.sublist (reachable.sublist wellFormed)) ?_
  intro item inKernel unread
  cases reachable with
  | start =>
    obtain rfl := List.mem_singleton.mp inKernel
    exact .inr wellFormed.next?_ne_startRule
  | edge _ successor => exact absurd unread (dot_ne_zero_of_mem_successors successor inKernel)

/-- The successors of a kernel are all different. -/
theorem ReachableKernel.nodup_successors (wellFormed : grammar.WellFormed) {kernel : Kernel}
    (reachable : ReachableKernel grammar kernel) :
    ((successors grammar kernel).map Prod.snd).Nodup := by
  have distinct : (nextSymbols grammar (closure grammar kernel)).Nodup :=
    (SymbolSet.ascending_ofList _).nodup
  have targets : (successors grammar kernel).map Prod.snd =
      (nextSymbols grammar (closure grammar kernel)).map
        (kernelAfter grammar (closure grammar kernel)) := by
    simp [successors]
  rw [targets]
  refine List.Nodup.map_on ?_ distinct
  intro left leftRead right _ same
  have successor : (left, kernelAfter grammar (closure grammar kernel) left) ∈
      successors grammar kernel := mem_successors.mpr ⟨mem_nextSymbols.mp leftRead, rfl⟩
  obtain ⟨item, -, read, inLeft⟩ := next_ne_nil_of_mem_successors wellFormed reachable successor
  rw [same] at inLeft
  obtain ⟨-, other, -, otherRead, advanced⟩ := mem_kernelAfter.mp inLeft
  have same : other = item := by
    obtain ⟨rule, alternative, dot⟩ := item
    obtain ⟨_, _, _⟩ := other
    simpa [Item.advance] using advanced
  rw [same, read] at otherRead
  exact Option.some.inj otherRead

/-! ### Discovery -/

/-- What holds in every round of discovery, for the kernels that were taken from the queue and those
still in it. -/
structure Discovering (grammar : Grammar) (finished queue : List Kernel) : Prop where
  nodup : (finished ++ queue).Nodup
  reachable : ∀ kernel ∈ finished ++ queue, ReachableKernel grammar kernel
  closed : ∀ kernel ∈ finished, ∀ next ∈ (successors grammar kernel).map Prod.snd,
    next ∈ finished ++ queue

theorem Discovering.start : Discovering grammar [] [startKernel] where
  nodup := List.nodup_singleton _
  reachable := fun _ present => List.mem_singleton.mp present ▸ .start
  closed := fun _ present => absurd present List.not_mem_nil

/-- A round takes the first kernel of the queue and puts its new successors behind the others. -/
theorem Discovering.next (wellFormed : grammar.WellFormed) {finished rest : List Kernel}
    {kernel : Kernel} (discovering : Discovering grammar finished (kernel :: rest)) :
    Discovering grammar (finished ++ [kernel])
      (rest ++ ((successors grammar kernel).map Prod.snd).filter
        (· ∉ finished ++ kernel :: rest)) := by
  have taken : ReachableKernel grammar kernel := discovering.reachable kernel (by simp)
  have regroup (fresh : List Kernel) :
      finished ++ [kernel] ++ (rest ++ fresh) = finished ++ kernel :: rest ++ fresh := by simp
  refine ⟨?_, ?_, ?_⟩ <;> rw [regroup]
  · refine discovering.nodup.append ((taken.nodup_successors wellFormed).filter _) ?_
    intro other old fresh
    exact of_decide_eq_true (List.mem_filter.mp fresh).2 old
  · intro other present
    obtain old | fresh := List.mem_append.mp present
    · exact discovering.reachable other old
    · obtain ⟨⟨symbol, _⟩, successor, rfl⟩ := List.mem_map.mp (List.mem_filter.mp fresh).1
      exact taken.edge successor
  · intro other present next successor
    by_cases old : next ∈ finished ++ kernel :: rest
    · exact List.mem_append_left _ old
    · obtain earlier | last := List.mem_append.mp present
      · exact absurd (discovering.closed other earlier next successor) old
      · obtain rfl := List.mem_singleton.mp last
        exact List.mem_append_right _ (List.mem_filter.mpr ⟨successor, decide_eq_true old⟩)

/-- There are no more kernels than selections from the items. -/
theorem Discovering.length_le (wellFormed : grammar.WellFormed) {finished queue : List Kernel}
    (discovering : Discovering grammar finished queue) :
    (finished ++ queue).length ≤ Nat.pow 2 grammar.items.length := by
  have bound : (finished ++ queue).length ≤ grammar.items.sublists.length := by
    refine discovering.nodup.length_le_of_subset fun kernel present => ?_
    exact List.mem_sublists.mpr ((discovering.reachable kernel present).sublist wellFormed)
  exact bound.trans_eq (List.length_sublists _)

/-- A discovery without a bound on its rounds: it ends where the queue is empty. -/
inductive Discovers (grammar : Grammar) : (queue found result : List Kernel) → Prop
  | stop (found : List Kernel) : Discovers grammar [] found found
  | round {kernel : Kernel} {rest fresh found result : List Kernel} :
      fresh = ((successors grammar kernel).map Prod.snd).filter (· ∉ found) →
      Discovers grammar (rest ++ fresh) (found ++ fresh) result →
      Discovers grammar (kernel :: rest) found result

/-- With enough fuel, discovery ends as it does without a bound. -/
theorem Discovering.discovers (wellFormed : grammar.WellFormed) {finished queue : List Kernel}
    {fuel : Nat} (enough : Nat.pow 2 grammar.items.length ≤ fuel + finished.length)
    (discovering : Discovering grammar finished queue) :
    Discovers grammar queue (finished ++ queue)
      (discover grammar fuel queue (finished ++ queue)) := by
  induction fuel generalizing finished queue with
  | zero =>
    -- The finished kernels are as many as there can be, so there is no room for the queue.
    have bound := discovering.length_le wellFormed
    rw [List.length_append] at bound
    obtain rfl : queue = [] := List.length_eq_zero_iff.mp (by omega)
    exact .stop _
  | succ fuel ih =>
    cases queue with
    | nil => exact .stop _
    | cons kernel rest =>
      -- A round costs one unit of fuel and finishes one kernel, which keeps their sum.
      have fewer : Nat.pow 2 grammar.items.length ≤ fuel + (finished ++ [kernel]).length := by
        rw [List.length_append, List.length_singleton]
        omega
      have later := ih fewer (discovering.next wellFormed)
      rw [← List.append_assoc, List.append_assoc finished, List.singleton_append] at later
      exact .round rfl later

/-- Where discovery ends, the queue is empty, and what was found before is kept. -/
theorem Discovering.complete (wellFormed : grammar.WellFormed)
    {finished queue found result : List Kernel} (discovers : Discovers grammar queue found result)
    (known : found = finished ++ queue) (discovering : Discovering grammar finished queue) :
    Discovering grammar result [] ∧ found <+: result := by
  induction discovers generalizing finished with
  | stop found =>
    rw [known, List.append_nil]
    exact ⟨discovering, List.prefix_rfl⟩
  | @round kernel rest fresh found result isFresh _ ih =>
    subst known isFresh
    obtain ⟨complete, kept⟩ := ih (by simp) (discovering.next wellFormed)
    exact ⟨complete, (List.prefix_append _ _).trans kept⟩

/-- The kernels are those that discovery without a bound finds from the first one. -/
theorem Grammar.WellFormed.discovers_kernels (wellFormed : grammar.WellFormed) :
    Discovers grammar [startKernel] [startKernel] (kernels grammar) :=
  Discovering.start.discovers wellFormed (Nat.le_add_right _ _)

/-- All kernels that edges lead to are found, each once. -/
theorem Grammar.WellFormed.discovering_kernels (wellFormed : grammar.WellFormed) :
    Discovering grammar (kernels grammar) [] :=
  (Discovering.start.complete wellFormed wellFormed.discovers_kernels rfl).1

theorem Grammar.WellFormed.kernels_head (wellFormed : grammar.WellFormed) :
    [startKernel] <+: kernels grammar :=
  (Discovering.start.complete wellFormed wellFormed.discovers_kernels rfl).2

end ShiftReduce
