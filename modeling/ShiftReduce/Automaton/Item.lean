import ShiftReduce.Grammar.Basic

/-!
# Items

An item is an alternative of a rule with a dot that separates what is read of it from what is not.
The items of a grammar are finitely many, and their closure adds to some of them all that may start
where a rule comes next.

## Main definitions

* `Item` — an alternative with a dot
* `Item.next?` — the symbol behind the dot
* `Grammar.items` — all items of a grammar, in order
* `closure` — items with those that may start at their dots
-/

namespace ShiftReduce

/-- An alternative of a rule with a dot in front of the symbol at place `dot`. -/
structure Item where
  rule : RuleIndex
  alternative : Nat
  dot : Nat
deriving DecidableEq, Repr

namespace Item

/-- The symbols of the item's alternative. -/
def symbols (grammar : Grammar) (item : Item) : List Symbol :=
  grammar.alternative item.rule item.alternative

/-- The symbol behind the dot. -/
def next? (grammar : Grammar) (item : Item) : Option Symbol := (item.symbols grammar)[item.dot]?

/-- Whether the dot is behind all symbols. -/
def isComplete (grammar : Grammar) (item : Item) : Bool :=
  (item.symbols grammar).length ≤ item.dot

/-- The item with its dot one place further. -/
def advance (item : Item) : Item := { item with dot := item.dot + 1 }

/-- The item in words, with a point for the dot. -/
def describe (grammar : Grammar) (item : Item) : String :=
  let names := (item.symbols grammar).map grammar.symbolName
  " ".intercalate
    (grammar.ruleName item.rule :: "::=" :: names.take item.dot ++ "." :: names.drop item.dot)

end Item

/-! ### The items of a grammar -/

namespace Grammar

/-- The items of one alternative. -/
def alternativeItems (grammar : Grammar) (rule : RuleIndex) (alternative : Nat) : List Item :=
  (List.range ((grammar.alternative rule alternative).length + 1)).map (⟨rule, alternative, ·⟩)

/-- All items of a grammar: by rule, then by alternative, then by dot. -/
def items (grammar : Grammar) : List Item :=
  (List.range grammar.rules.length).flatMap fun rule =>
    (List.range (grammar.alternatives rule).length).flatMap (grammar.alternativeItems rule)

/-- The items that start a rule: its alternatives with nothing read of them. -/
def startingItems (grammar : Grammar) (rule : RuleIndex) : List Item :=
  (List.range (grammar.alternatives rule).length).map (⟨rule, ·, 0⟩)

/-! ### Closure -/

/-- The number of items that start the rules which are not among `expanded`. -/
def unexpanded (grammar : Grammar) (expanded : List RuleIndex) : Nat :=
  (((List.range grammar.rules.length).filter (· ∉ expanded)).flatMap grammar.alternatives).length

/-- A rule that is no rule of the grammar has no alternatives. -/
theorem alternatives_eq_nil {grammar : Grammar} {rule : RuleIndex}
    (outside : grammar.rules.length ≤ rule) : grammar.alternatives rule = [] := by
  simp [alternatives, List.getElem?_eq_none outside]

/-- Marking a rule in a list without repetitions takes its alternatives off those of the rules that
are not marked. -/
theorem length_flatMap_filter_cons (grammar : Grammar) {rule : RuleIndex} {marked : List RuleIndex}
    (fresh : rule ∉ marked) : ∀ {rules : List RuleIndex}, rules.Nodup → rule ∈ rules →
      ((rules.filter (· ∉ rule :: marked)).flatMap grammar.alternatives).length +
          (grammar.alternatives rule).length =
        ((rules.filter (· ∉ marked)).flatMap grammar.alternatives).length
  | first :: rest, distinct, found => by
    rw [List.nodup_cons] at distinct
    rcases List.mem_cons.1 found with same | later
    · subst same
      have others : rest.filter (· ∉ rule :: marked) = rest.filter (· ∉ marked) := by
        refine List.filter_congr fun other present => ?_
        have differs : other ≠ rule := fun same => distinct.1 (same ▸ present)
        simp [differs]
      rw [List.filter_cons_of_neg (by simp), List.filter_cons_of_pos (by simpa using fresh), others,
        List.flatMap_cons, List.length_append, Nat.add_comm]
    · have differs : first ≠ rule := fun same => distinct.1 (same ▸ later)
      have smaller := length_flatMap_filter_cons grammar fresh distinct.2 later
      by_cases kept : first ∈ marked
      · rw [List.filter_cons_of_neg (by simp [kept]), List.filter_cons_of_neg (by simp [kept]),
          smaller]
      · rw [List.filter_cons_of_pos (by simp [kept, differs]),
          List.filter_cons_of_pos (by simpa using kept), List.flatMap_cons, List.flatMap_cons,
          List.length_append, List.length_append, Nat.add_assoc, smaller]

/-- Expanding a rule uses up the items that start it. -/
theorem unexpanded_cons (grammar : Grammar) {expanded : List RuleIndex} {rule : RuleIndex}
    (fresh : rule ∉ expanded) :
    grammar.unexpanded (rule :: expanded) + (grammar.alternatives rule).length =
      grammar.unexpanded expanded := by
  unfold unexpanded
  by_cases inside : rule < grammar.rules.length
  · exact grammar.length_flatMap_filter_cons fresh List.nodup_range (List.mem_range.2 inside)
  · rw [alternatives_eq_nil (Nat.le_of_not_lt inside)]
    have same : (List.range grammar.rules.length).filter (· ∉ rule :: expanded) =
        (List.range grammar.rules.length).filter (· ∉ expanded) := by
      refine List.filter_congr fun other present => ?_
      have differs : other ≠ rule := fun same => inside (same ▸ List.mem_range.1 present)
      simp [differs]
    rw [same, List.length_nil, Nat.add_zero]

end Grammar

/-- Puts behind each other the items of a queue and those that start the rules behind their dots,
except for the rules in `expanded`, whose items are in the queue or before it. -/
def expand (grammar : Grammar) (expanded : List RuleIndex) (queue : List Item) : List Item :=
  match queue with
  | [] => []
  | item :: rest =>
    match item.next? grammar with
    | some (.rule rule) =>
      if _known : rule ∈ expanded then item :: expand grammar expanded rest
      else item :: expand grammar (rule :: expanded) (rest ++ grammar.startingItems rule)
    | _ => item :: expand grammar expanded rest
termination_by grammar.unexpanded expanded + queue.length
decreasing_by
  · simp
  · have used := grammar.unexpanded_cons _known
    simp only [List.length_append, List.length_cons, Grammar.startingItems, List.length_map,
      List.length_range]
    omega
  · simp

/-- The items with those that start the rules behind their dots, and so on. The items of a rule are
added once. -/
def closure (grammar : Grammar) (items : List Item) : List Item := expand grammar [] items

end ShiftReduce
