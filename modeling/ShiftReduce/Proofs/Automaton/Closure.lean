import Mathlib.Data.List.Nodup
import ShiftReduce.Automaton.Item

/-!
# What a closure holds

A closure holds the items it is made from, and those that start a rule behind the dot of one that it
holds. Nothing else is in it, and each rule is expanded once.

## Main definitions

* `InClosure` — the items that a closure holds, by where they come from

## Main results

* `mem_closure_iff` — the closure that is computed holds these items
* `nodup_expand` — it holds none of them twice
-/

namespace ShiftReduce

/-- The items of a closure: those that it is made from, and those that start a rule behind the dot
of one of its items. -/
inductive InClosure (grammar : Grammar) (kernel : List Item) : Item → Prop
  | kernel {item : Item} : item ∈ kernel → InClosure grammar kernel item
  | start {parent item : Item} {rule : RuleIndex} : InClosure grammar kernel parent →
      parent.next? grammar = some (.rule rule) → item ∈ grammar.startingItems rule →
      InClosure grammar kernel item

variable {grammar : Grammar} {expanded : List RuleIndex} {queue : List Item} {item : Item}

theorem mem_startingItems {rule : RuleIndex} : item ∈ grammar.startingItems rule ↔
    item.rule = rule ∧ item.alternative < (grammar.alternatives rule).length ∧ item.dot = 0 := by
  unfold Grammar.startingItems
  rw [List.mem_map]
  constructor
  · rintro ⟨alternative, inside, rfl⟩
    exact ⟨rfl, List.mem_range.mp inside, rfl⟩
  · rintro ⟨rfl, inside, start⟩
    exact ⟨item.alternative, List.mem_range.mpr inside, by rw [← start]⟩

theorem start_mem_startingItems {rule : RuleIndex} {alternative : Nat}
    (inside : alternative < (grammar.alternatives rule).length) :
    ⟨rule, alternative, 0⟩ ∈ grammar.startingItems rule :=
  mem_startingItems.mpr ⟨rfl, inside, rfl⟩

theorem InClosure.mono {fewer more : List Item} (sub : ∀ item ∈ fewer, InClosure grammar more item)
    (inside : InClosure grammar fewer item) : InClosure grammar more item := by
  induction inside with
  | kernel present => exact sub _ present
  | start _ next starts ih => exact .start ih next starts

/-- Expanding puts items with nothing read behind the queue. -/
theorem exists_expand_eq (grammar : Grammar) (expanded : List RuleIndex) (queue : List Item) :
    ∃ added, expand grammar expanded queue = queue ++ added ∧ ∀ item ∈ added, item.dot = 0 := by
  fun_induction expand grammar expanded queue with
  | case1 => exact ⟨[], rfl, nofun⟩
  | case2 expanded first rest rule next known ih =>
    obtain ⟨added, same, unread⟩ := ih
    exact ⟨added, congrArg (first :: ·) same, unread⟩
  | case3 expanded first rest rule next fresh ih =>
    obtain ⟨added, same, unread⟩ := ih
    refine ⟨grammar.startingItems rule ++ added, ?_, ?_⟩
    · rw [same, List.append_assoc, List.cons_append]
    · intro item present
      obtain starts | later := List.mem_append.mp present
      · exact (mem_startingItems.mp starts).2.2
      · exact unread item later
  | case4 expanded first rest none ih =>
    obtain ⟨added, same, unread⟩ := ih
    exact ⟨added, congrArg (first :: ·) same, unread⟩

/-- Expanding keeps the first item of the queue in front. -/
theorem head?_expand {rest : List Item} :
    (expand grammar expanded (item :: rest)).head? = some item := by
  obtain ⟨added, same, -⟩ := exists_expand_eq grammar expanded (item :: rest)
  rw [same]
  rfl

/-- Expanding keeps the items of the queue. -/
theorem mem_expand_of_mem (present : item ∈ queue) : item ∈ expand grammar expanded queue := by
  obtain ⟨added, same, -⟩ := exists_expand_eq grammar expanded queue
  rw [same]
  exact List.mem_append_left added present

/-- Expanding adds only what belongs to the closure of the queue. -/
theorem inClosure_of_mem_expand (present : item ∈ expand grammar expanded queue) :
    InClosure grammar queue item := by
  fun_induction expand grammar expanded queue with
  | case1 => cases present
  | case2 expanded first rest rule next known ih =>
    obtain rfl | later := List.mem_cons.mp present
    · exact .kernel List.mem_cons_self
    · exact (ih later).mono fun other inRest => .kernel (List.mem_cons_of_mem _ inRest)
  | case3 expanded first rest rule next fresh ih =>
    obtain rfl | later := List.mem_cons.mp present
    · exact .kernel List.mem_cons_self
    · refine (ih later).mono fun other inQueue => ?_
      obtain inRest | starts := List.mem_append.mp inQueue
      · exact .kernel (List.mem_cons_of_mem _ inRest)
      · exact .start (.kernel List.mem_cons_self) next starts
  | case4 expanded first rest none ih =>
    obtain rfl | later := List.mem_cons.mp present
    · exact .kernel List.mem_cons_self
    · exact (ih later).mono fun other inRest => .kernel (List.mem_cons_of_mem _ inRest)

/-- What expanding adds to the queue starts a rule that was not expanded before and comes next
somewhere. -/
theorem mem_expand_cases (present : item ∈ expand grammar expanded queue) : item ∈ queue ∨
    item.dot = 0 ∧ item.rule ∉ expanded ∧
      ∃ parent : Item, parent.next? grammar = some (.rule item.rule) := by
  fun_induction expand grammar expanded queue with
  | case1 => cases present
  | case2 expanded first rest rule next known ih =>
    obtain rfl | later := List.mem_cons.mp present
    · exact .inl List.mem_cons_self
    · exact (ih later).imp_left (List.mem_cons_of_mem _)
  | case3 expanded first rest rule next fresh ih =>
    obtain rfl | later := List.mem_cons.mp present
    · exact .inl List.mem_cons_self
    · obtain inQueue | ⟨unread, unknown, parent⟩ := ih later
      · obtain inRest | starts := List.mem_append.mp inQueue
        · exact .inl (List.mem_cons_of_mem _ inRest)
        · obtain ⟨rfl, -, unread⟩ := mem_startingItems.mp starts
          exact .inr ⟨unread, fresh, first, next⟩
      · exact .inr ⟨unread, fun known => unknown (List.mem_cons_of_mem _ known), parent⟩
  | case4 expanded first rest none ih =>
    obtain rfl | later := List.mem_cons.mp present
    · exact .inl List.mem_cons_self
    · exact (ih later).imp_left (List.mem_cons_of_mem _)

theorem nodup_startingItems (grammar : Grammar) (rule : RuleIndex) :
    (grammar.startingItems rule).Nodup := by
  refine List.nodup_range.map fun left right same => ?_
  exact congrArg Item.alternative same

/-- Expanding adds no item whose rule was expanded before, or comes next nowhere. -/
theorem notMem_expand (absent : item ∉ queue) (mark : item.dot = 0 → item.rule ∈ expanded ∨
      ∀ parent : Item, parent.next? grammar ≠ some (.rule item.rule)) :
    item ∉ expand grammar expanded queue := by
  intro again
  obtain inQueue | ⟨unread, unknown, parent, next⟩ := mem_expand_cases again
  · exact absent inQueue
  · exact (mark unread).elim unknown fun never => never parent next

/-- Expanding repeats no item if the items of the queue with nothing read are of rules that were
expanded before, or that come next nowhere. -/
theorem nodup_expand (distinct : queue.Nodup) (marked : ∀ item ∈ queue, item.dot = 0 →
      item.rule ∈ expanded ∨ ∀ parent : Item, parent.next? grammar ≠ some (.rule item.rule)) :
    (expand grammar expanded queue).Nodup := by
  fun_induction expand grammar expanded queue with
  | case1 => exact List.nodup_nil
  | case2 expanded first rest rule next known ih =>
    obtain ⟨once, distinct⟩ := List.nodup_cons.mp distinct
    obtain ⟨mark, marked⟩ := List.forall_mem_cons.mp marked
    exact List.nodup_cons.mpr ⟨notMem_expand once mark, ih distinct marked⟩
  | case3 expanded first rest rule next fresh ih =>
    obtain ⟨once, distinct⟩ := List.nodup_cons.mp distinct
    obtain ⟨mark, marked⟩ := List.forall_mem_cons.mp marked
    -- No item of the rule that is expanded now was in the queue before.
    have unmarked {item : Item} (starts : item ∈ grammar.startingItems rule)
        (mark : item.dot = 0 → item.rule ∈ expanded ∨
          ∀ parent : Item, parent.next? grammar ≠ some (.rule item.rule)) : False := by
      obtain ⟨rfl, -, unread⟩ := mem_startingItems.mp starts
      exact (mark unread).elim fresh fun never => never first next
    refine List.nodup_cons.mpr ⟨notMem_expand ?_ ?_, ih ?_ ?_⟩
    · intro again
      exact (List.mem_append.mp again).elim once fun starts => unmarked starts mark
    · exact fun unread => (mark unread).imp_left (List.mem_cons_of_mem _)
    · refine distinct.append (nodup_startingItems grammar rule) ?_
      exact fun item inRest starts => unmarked starts (marked item inRest)
    · intro item inQueue unread
      obtain inRest | starts := List.mem_append.mp inQueue
      · exact (marked item inRest unread).imp_left (List.mem_cons_of_mem _)
      · exact .inl ((mem_startingItems.mp starts).1 ▸ List.mem_cons_self)
  | case4 expanded first rest none ih =>
    obtain ⟨once, distinct⟩ := List.nodup_cons.mp distinct
    obtain ⟨mark, marked⟩ := List.forall_mem_cons.mp marked
    exact List.nodup_cons.mpr ⟨notMem_expand once mark, ih distinct marked⟩

/-- Behind the dots of what expanding yields, every rule has its items there, or had them expanded
before. -/
theorem expand_closed {rule : RuleIndex} (present : item ∈ expand grammar expanded queue)
    (next : item.next? grammar = some (.rule rule)) :
    rule ∈ expanded ∨ ∀ start ∈ grammar.startingItems rule,
      start ∈ expand grammar expanded queue := by
  fun_induction expand grammar expanded queue with
  | case1 => cases present
  | case2 expanded first rest other firstNext known ih =>
    obtain rfl | later := List.mem_cons.mp present
    · obtain rfl := Symbol.rule.inj (Option.some.inj (firstNext.symm.trans next))
      exact .inl known
    · exact (ih later).imp_right fun starts start isStart =>
        List.mem_cons_of_mem _ (starts start isStart)
  | case3 expanded first rest other firstNext fresh ih =>
    by_cases same : rule = other
    · subst same
      exact .inr fun start isStart =>
        List.mem_cons_of_mem _ (mem_expand_of_mem (List.mem_append_right _ isStart))
    · obtain rfl | later := List.mem_cons.mp present
      · exact absurd (Symbol.rule.inj (Option.some.inj (next.symm.trans firstNext))) same
      · obtain known | starts := ih later
        · exact .inl ((List.mem_cons.mp known).resolve_left same)
        · exact .inr fun start isStart => List.mem_cons_of_mem _ (starts start isStart)
  | case4 expanded first rest none ih =>
    obtain rfl | later := List.mem_cons.mp present
    · exact absurd next (none rule)
    · exact (ih later).imp_right fun starts start isStart =>
        List.mem_cons_of_mem _ (starts start isStart)

/-- The closure that is computed holds the items of the closure, and no others. -/
theorem mem_closure_iff {kernel : List Item} :
    item ∈ closure grammar kernel ↔ InClosure grammar kernel item := by
  refine ⟨inClosure_of_mem_expand, fun inside => ?_⟩
  induction inside with
  | kernel present => exact mem_expand_of_mem present
  | start _ next starts ih =>
    -- No rule counts as expanded when the queue is the kernel.
    obtain expanded | closed := expand_closed ih next
    · cases expanded
    · exact closed _ starts

end ShiftReduce
