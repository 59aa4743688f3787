import Mathlib.Data.List.Flatten
import Mathlib.Data.List.Forall2
import ShiftReduce.Proofs.Tree.Parts
import ShiftReduce.Proofs.Tree.Recursion

/-!
# Where the parts of syntax trees come from

A syntax tree is made of parts of its tree, in the order in which they stand there. Its leaves are
leaves of the tree and the rules of its branches are rules of branches there. A leaf below its root
stands for a branch that has nothing else below it.

## Main results

* `Node.ast_induction` — what holds of a tree if it holds of the branches below its innermost one
* `Node.toAst_parts` — leaves, rules and origins of a syntax tree
-/

namespace ShiftReduce.Node

variable {node inner child : Node}

/-! ### From branches to trees -/

theorem size_lt_of_mem {rule : String} {children : List Node} (below : child ∈ children) :
    child.size < (branch rule children).size := by
  obtain ⟨front, back, rfl⟩ := List.append_of_mem below
  rw [size, sizes_append, sizes]
  omega

/-- What holds of a tree if it holds of the branches below its innermost tree holds of all trees. -/
theorem ast_induction {motive : Node → Prop}
    (step : ∀ node inner, node.Innermost inner →
      (∀ child ∈ inner.children, child.isBranch = true → motive child) → motive node)
    (node : Node) : motive node := by
  induction size : node.size using Nat.strongRecOn generalizing node with
  | ind bound ih =>
    subst size
    refine step node _ node.innermost_collapse fun child below _ => ih _ ?_ child rfl
    have collapsed := node.size_collapse_le
    cases within : node.collapse with
    | leaf => rw [within] at below; cases below
    | branch rule children =>
      rw [within] at below collapsed
      exact Nat.lt_of_lt_of_le (size_lt_of_mem below) collapsed

/-- If what is taken from a branch stays in order when the branch is replaced, so does what is taken
from some trees. -/
theorem sublist_flatMap_branches {α : Type} {part : Node → List α} {replace : Node → Node}
    {nodes : List Node} (within : ∀ child ∈ nodes, child.isBranch = true →
      (part (replace child)).Sublist (part child)) :
    (((nodes.filter isBranch).map replace).flatMap part).Sublist (nodes.flatMap part) := by
  rw [List.flatMap_map]
  refine .trans (.flatMap_right _ fun child kept => ?_) (List.filter_sublist.flatMap part)
  obtain ⟨below, isBranch⟩ := List.mem_filter.mp kept
  exact within child below isBranch

/-! ### Leaves and rules -/

theorem Wraps.fringe_eq (wraps : node.Wraps child) : node.fringe = child.fringe := by
  cases wraps with
  | single => rw [fringe_branch, List.flatMap_singleton]

theorem fringe_ast_sublist (node : Node) : node.ast.fringe.Sublist node.fringe := by
  induction node using ast_induction with
  | step node inner innermost ih =>
    rw [ast_eq_of_innermost innermost, innermost.eq_of_wraps fringe Wraps.fringe_eq]
    cases inner with
    | leaf => exact .refl _
    | branch rule children =>
      rw [overBranches, fringe_branch, fringe_branch]
      exact sublist_flatMap_branches ih

/-- Everything in the innermost tree is in the tree, in the same order. -/
theorem Innermost.preorder_sublist (innermost : node.Innermost inner) :
    inner.preorder.Sublist node.preorder := by
  obtain ⟨chain, -⟩ := innermost
  induction chain with
  | refl => exact .refl _
  | tail _ wraps ih =>
    refine .trans ?_ ih
    cases wraps with
    | single =>
      rw [preorder_branch, List.flatMap_singleton]
      exact List.sublist_cons_self _ _

theorem ruleNames_ast_sublist (node : Node) : node.ast.ruleNames.Sublist node.ruleNames := by
  induction node using ast_induction with
  | step node inner innermost ih =>
    rw [ast_eq_of_innermost innermost]
    refine .trans ?_ (innermost.preorder_sublist.filterMap rule?)
    cases inner with
    | leaf => exact .refl _
    | branch rule children =>
      rw [overBranches, ruleNames_branch, ← ruleNames, ruleNames_branch]
      exact (sublist_flatMap_branches ih).cons_cons rule

/-! ### Empty leaves -/

/-- Leaves of a syntax tree are empty only where the tree is an empty leaf. -/
theorem isEpsilon_of_mem_fringe_ast {leaf : Node} (present : leaf ∈ node.ast.fringe)
    (empty : leaf.isEpsilon = true) : node.isEpsilon = true := by
  induction node using ast_induction with
  | step node inner innermost ih =>
    rw [ast_eq_of_innermost innermost] at present
    rw [innermost.eq_of_wraps isEpsilon Wraps.isEpsilon_eq]
    cases inner with
    | leaf value tokenClass =>
      obtain rfl := List.mem_singleton.mp present
      exact empty
    | branch rule children =>
      rw [overBranches, fringe_branch] at present
      simp only [List.mem_flatMap, List.mem_map, List.mem_filter] at present
      obtain ⟨_, ⟨child, ⟨below, isBranch⟩, rfl⟩, present⟩ := present
      have impossible := ih child below isBranch present
      cases child with
      | leaf => cases isBranch
      | branch => cases impossible

/-! ### Origins of leaves -/

/-- The leaves of a syntax tree stand for branches of the tree, one each and in the same order. From
every one of these branches, single children lead to the leaf. -/
def HasOrigins (node : Node) : Prop :=
  ∃ origins : List Node, origins.Sublist node.preorder ∧
    List.Forall₂ (Relation.TransGen Wraps) origins node.ast.fringe

theorem exists_origins_below {nodes : List Node}
    (within : ∀ child ∈ nodes, child.isBranch = true → child.HasOrigins) :
    ∃ origins : List Node, origins.Sublist (nodes.flatMap preorder) ∧
      List.Forall₂ (Relation.TransGen Wraps) origins
        (((nodes.filter isBranch).map ast).flatMap fringe) := by
  induction nodes with
  | nil => exact ⟨[], .slnil, .nil⟩
  | cons first rest ih =>
    rw [List.forall_mem_cons] at within
    obtain ⟨later, inRest, stand⟩ := ih within.2
    cases first with
    | leaf => exact ⟨later, .trans inRest (List.sublist_append_right _ _), stand⟩
    | branch rule children =>
      obtain ⟨earlier, inFirst, standFirst⟩ := within.1 rfl
      exact ⟨earlier ++ later, inFirst.append inRest, List.rel_append standFirst stand⟩

/-- All leaves of the syntax tree of a branch stand for branches, also one that is its root. -/
theorem hasOrigins_of_isBranch (isBranch : node.isBranch = true) : node.HasOrigins := by
  induction node using ast_induction with
  | step node inner innermost ih =>
    unfold HasOrigins
    rw [ast_eq_of_innermost innermost]
    cases inner with
    | leaf value tokenClass =>
      refine ⟨[node], ?_, .cons ?_ .nil⟩
      · cases node with
        | leaf => cases isBranch
        | branch => simp [preorder_branch]
      · rcases Relation.reflTransGen_iff_eq_or_transGen.mp innermost.chain with rfl | chain
        · cases isBranch
        · exact chain
    | branch rule children =>
      rw [overBranches, fringe_branch]
      obtain ⟨origins, present, stand⟩ := exists_origins_below fun child below isBranch =>
        ih child below isBranch isBranch
      refine ⟨origins, .trans ?_ innermost.preorder_sublist, stand⟩
      rw [preorder_branch]
      exact present.cons _

/-! ### Syntax trees -/

/-- The leaves of a syntax tree and the rules of its branches are found in its tree, in the same
order. It has no empty leaf unless the tree is one. Its leaves stand for branches of the tree from
which single children lead to them, unless it is a leaf itself. -/
theorem toAst_parts (node : Node) :
    node.toAst.fringe.Sublist node.fringe ∧
    node.toAst.ruleNames.Sublist node.ruleNames ∧
    (∀ leaf ∈ node.toAst.fringe, leaf.isEpsilon = true → node.isEpsilon = true) ∧
    (node.toAst.isLeaf = true ∨ ∃ origins : List Node, origins.Sublist node.preorder ∧
      List.Forall₂ (Relation.TransGen Wraps) origins node.toAst.fringe) := by
  rw [toAst_eq_ast]
  refine ⟨fringe_ast_sublist node, ruleNames_ast_sublist node,
    fun leaf present empty => isEpsilon_of_mem_fringe_ast present empty, ?_⟩
  cases node with
  | leaf => exact .inl rfl
  | branch => exact .inr (hasOrigins_of_isBranch rfl)

end ShiftReduce.Node
