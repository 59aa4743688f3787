import ShiftReduce.Tree.Node

/-!
# Parts of trees

The leaves and the branches of a tree, in the orders in which they are met.

## Main definitions

* `Node.branches`, `Node.fringe` — the branches of a tree, children first, and its leaves
* `Node.preorder`, `Node.ruleNames` — all trees in a tree and the rules of its branches, each in
  front of what is below
-/

namespace ShiftReduce.Node

mutual

/-- The name and the children of each branch of a tree, those of what is below a branch in front of
its own. -/
def branches : Node → List (String × List Node)
  | .leaf _ _ => []
  | .branch name children => branchesAll children ++ [(name, children)]

/-- The branches of trees from left to right. -/
def branchesAll : List Node → List (String × List Node)
  | [] => []
  | node :: rest => branches node ++ branchesAll rest

end

mutual

/-- The leaves of a tree from left to right, those without text among them. -/
def fringe : Node → List Node
  | .leaf value tokenClass => [.leaf value tokenClass]
  | .branch _ children => fringeAll children

/-- The leaves of trees from left to right. -/
def fringeAll : List Node → List Node
  | [] => []
  | node :: rest => fringe node ++ fringeAll rest

end

mutual

/-- A tree and the trees below it, each in front of those below it. -/
def preorder : Node → List Node
  | .leaf value tokenClass => [.leaf value tokenClass]
  | .branch rule children => .branch rule children :: preorderAll children

/-- Some trees and those below them, from left to right. -/
def preorderAll : List Node → List Node
  | [] => []
  | node :: rest => preorder node ++ preorderAll rest

end

theorem sizes_children_lt (node : Node) : sizes node.children < node.size := by
  cases node <;> simp [children, sizes, size]

/-- What holds of no trees, and of a tree with others behind it whenever it holds of its children
and of the others, holds of all lists of trees. -/
theorem forest_induction {motive : List Node → Prop} (nil : motive [])
    (cons : ∀ node rest, motive node.children → motive rest → motive (node :: rest))
    (nodes : List Node) : motive nodes := by
  match nodes with
  | [] => exact nil
  | node :: rest =>
    have positive := node.size_pos
    have smaller := node.sizes_children_lt
    exact cons node rest (forest_induction nil cons node.children)
      (forest_induction nil cons rest)
termination_by sizes nodes
decreasing_by all_goals simp only [sizes]; omega

/-- The rule of a branch. -/
def rule? : Node → Option String
  | .leaf _ _ => none
  | .branch rule _ => some rule

/-- The rules of the branches of a tree, each in front of those below it. -/
def ruleNames (node : Node) : List String := node.preorder.filterMap rule?

theorem fringeAll_eq_flatMap (nodes : List Node) : fringeAll nodes = nodes.flatMap fringe := by
  induction nodes with
  | nil => rfl
  | cons first rest ih => rw [fringeAll, ih, List.flatMap_cons]

theorem preorderAll_eq_flatMap (nodes : List Node) :
    preorderAll nodes = nodes.flatMap preorder := by
  induction nodes with
  | nil => rfl
  | cons first rest ih => rw [preorderAll, ih, List.flatMap_cons]

section Branch

variable (rule : String) (children : List Node)

theorem fringe_branch : (branch rule children).fringe = children.flatMap fringe := by
  rw [fringe, fringeAll_eq_flatMap]

theorem preorder_branch :
    (branch rule children).preorder = branch rule children :: children.flatMap preorder := by
  rw [preorder, preorderAll_eq_flatMap]

theorem ruleNames_branch :
    (branch rule children).ruleNames = rule :: children.flatMap ruleNames := by
  have named : (branch rule children).rule? = some rule := rfl
  rw [ruleNames, preorder_branch, List.filterMap_cons_some named, List.filterMap_flatMap]
  rfl

end Branch

theorem preorder_eq (node : Node) : node.preorder = node :: preorderAll node.children := by
  cases node <;> rfl

theorem length_preorderAll (nodes : List Node) : (preorderAll nodes).length = sizes nodes := by
  induction nodes using forest_induction with
  | nil => rfl
  | cons node rest inside beside =>
    rw [preorderAll, preorder_eq, List.length_append, List.length_cons, inside, beside, sizes]
    cases node <;> simp [size, children, sizes, Nat.add_comm]

/-- There are as many trees in a tree as it has nodes. -/
theorem length_preorder (node : Node) : node.preorder.length = node.size := by
  have whole := length_preorderAll [node]
  rwa [preorderAll, preorderAll, List.append_nil, sizes, sizes, Nat.add_zero] at whole

theorem fringeAll_eq_filter (nodes : List Node) :
    fringeAll nodes = (preorderAll nodes).filter isLeaf := by
  induction nodes using forest_induction with
  | nil => rfl
  | cons node rest inside beside =>
    rw [fringeAll, preorderAll, List.filter_append, ← beside, preorder_eq]
    cases node with
    | leaf value tokenClass => rfl
    | branch rule children => exact congrArg (· ++ fringeAll rest) inside

/-- The leaves of a tree are those of the trees in it that are leaves. -/
theorem fringe_eq_filter (node : Node) : node.fringe = node.preorder.filter isLeaf := by
  have whole := fringeAll_eq_filter [node]
  rwa [fringeAll, fringeAll, List.append_nil, preorderAll, preorderAll, List.append_nil] at whole

end ShiftReduce.Node
