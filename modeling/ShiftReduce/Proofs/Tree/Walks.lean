import Mathlib.Data.List.Forall2
import ShiftReduce.Proofs.Tree.Parts

/-!
# Walks over trees

Leaves are gathered and trees are compared with a stack of what is still to come, trees from all
depths among each other. At every moment of the first walk, the values to come are those of the
leaves of the trees on the stack, one tree after the other; at every moment of the second one, what
is left to be found out is whether all pairs on the stack are pairs of equal trees.

## Main definitions

* `Node.value?` — the value of a leaf

## Main results

* `Node.map_some_stackValues` — the values that a stack of trees has to come
* `Node.allSame_iff` — when all pairs of a stack are found to be the same
* `Node.walks_spec` — both walks, told by recursion
-/

namespace ShiftReduce.Node

/-! ### Leaves -/

/-- The value of a leaf. -/
def value? : Node → Option String
  | .leaf value _ => some value
  | .branch _ _ => none

/-- The values to come are those of the leaves of all trees on the stack, from the top down. -/
theorem map_some_stackValues (stack : List Node) :
    (stackValues stack).map some = (stack.flatMap fringe).map value? := by
  fun_induction stackValues stack with
  | case1 => rfl
  | case2 value tokenClass rest ih => exact congrArg (some value :: ·) ih
  | case3 rule children rest ih =>
    rw [ih, List.flatMap_append, List.flatMap_cons, fringe_branch]

theorem map_some_leafValues (node : Node) :
    node.leafValues.map some = node.fringe.map value? := by
  rw [leafValues, map_some_stackValues, List.flatMap_singleton]

/-- Each tree on a stack has its own values to come. -/
theorem stackValues_eq_flatMap (stack : List Node) :
    stackValues stack = stack.flatMap leafValues := by
  apply List.map_injective_iff.mpr (fun _ _ => Option.some.inj)
  rw [map_some_stackValues, List.map_flatMap, List.map_flatMap]
  simp only [map_some_leafValues]

section Branch

variable (rule : String) (children : List Node)

theorem leafValues_branch :
    (branch rule children).leafValues = children.flatMap leafValues := by
  rw [leafValues, stackValues, List.append_nil, stackValues_eq_flatMap]

theorem text_branch : (branch rule children).text = String.join (children.map text) := by
  rw [← String.toList_inj, text, leafValues_branch, String.toList_join, String.toList_join,
    List.flatMap_assoc, List.flatMap_map]
  simp only [text, String.toList_join]

theorem leaves_branch : (branch rule children).leaves = children.flatMap leaves := by
  rw [leaves, leafValues_branch, List.filter_flatMap]
  rfl

end Branch

theorem text_leaf (value : String) (tokenClass : Option String) :
    (leaf value tokenClass).text = value := by
  rw [text, leafValues, stackValues, stackValues, String.join_cons, String.join_nil,
    String.append_empty]

/-! ### Equality -/

/-- Pairs of children are pairs of equal trees, in whatever order, if the children are the same. -/
theorem eq_iff_forall_mem_zip {left right : List Node} :
    left = right ↔ left.length = right.length ∧
      ∀ pair ∈ (left.zip right).reverse, pair.1 = pair.2 := by
  rw [← List.forall₂_eq_eq_eq, List.forall₂_iff_zip]
  simp

/-- The pairs on a stack are found to be the same if each of them is one of equal trees. -/
theorem allSame_iff (pairs : List (Node × Node)) :
    allSame pairs = true ↔ ∀ pair ∈ pairs, pair.1 = pair.2 := by
  fun_induction allSame pairs with
  | case1 => simp
  | case2 left leftClass right rightClass rest ih => simp [ih]
  | case3 left leftChildren right rightChildren rest ih =>
    rw [Bool.and_eq_true, Bool.and_eq_true, ih, List.forall_mem_append, List.forall_mem_cons,
      beq_iff_eq, beq_iff_eq, branch.injEq, eq_iff_forall_mem_zip, and_assoc, and_assoc, and_assoc]
  | case4 pairs nonempty noLeaves noBranches =>
    -- A tree is no leaf and a branch at once, so the pair on top is not one of equal trees.
    refine iff_of_false Bool.false_ne_true fun same => ?_
    obtain ⟨⟨left, right⟩, rest, rfl⟩ := List.exists_cons_of_ne_nil nonempty
    obtain rfl : left = right := same _ List.mem_cons_self
    cases left with
    | leaf value tokenClass => exact noLeaves _ _ _ _ _ rfl
    | branch rule children => exact noBranches _ _ _ _ _ rfl

theorem same_iff (left right : Node) : left.same right = true ↔ left = right := by
  rw [same, allSame_iff, List.forall_mem_singleton]

/-! ### Both walks -/

/-- Two trees are found to be the same if they are: two leaves of the same value and class, or two
branches of the same rule over as many children, each the same as the other one in its place. The
values that are gathered are those of the leaves from left to right, each of them once, so those of
a branch, and its text, are those of its children one behind the other. -/
theorem walks_spec :
    (∀ left right : Node, left.same right = true ↔ left = right) ∧
    (∀ rule other children others, (branch rule children).same (branch other others) = true ↔
      rule = other ∧ List.Forall₂ (fun left right => left.same right = true) children others) ∧
    (∀ node : Node, node.leafValues.map some = node.fringe.map value? ∧
      node.leaves = node.leafValues.filter fun value => value ≠ "") ∧
    ∀ rule children, (branch rule children).leafValues = children.flatMap leafValues ∧
      (branch rule children).text = String.join (children.map text) ∧
      (branch rule children).leaves = children.flatMap leaves := by
  refine ⟨same_iff, ?_, fun node => ⟨map_some_leafValues node, ?_⟩, fun rule children =>
    ⟨leafValues_branch rule children, text_branch rule children, leaves_branch rule children⟩⟩
  · intro rule other children others
    simp only [same_iff, List.forall₂_eq_eq_eq, branch.injEq]
  · apply List.filter_congr
    intro value _
    rw [Bool.eq_iff_iff]
    simp

end ShiftReduce.Node
