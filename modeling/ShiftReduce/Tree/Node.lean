/-!
# Trees

A parse yields a tree whose leaves are pieces of the input and whose branches are rules. Trees of
left-recursive rules are as deep as the input is long, so what follows walks them with a stack of
the trees that are still to come.

## Main definitions

* `Node` — leaves and branches
* `Node.size` — the number of leaves and branches
* `Node.leafValues`, `Node.text`, `Node.leaves` — the leaves from left to right
* `Node.same` — whether two trees are equal
-/

namespace ShiftReduce

/-- A parse tree. A leaf has the text that it matched and the class of the token it is, if it is one
token; a branch has the rule that was reduced. -/
inductive Node
  | leaf (value : String) (tokenClass : Option String)
  | branch (rule : String) (children : List Node)
deriving Repr

namespace Node

/-- The leaf of an alternative that takes no input. -/
def epsilon : Node := .leaf "" none

/-- Whether the node is a leaf. -/
def isLeaf : Node → Bool
  | .leaf _ _ => true
  | .branch _ _ => false

/-- Whether the node is a branch. -/
def isBranch : Node → Bool
  | .leaf _ _ => false
  | .branch _ _ => true

/-- Whether the node is a leaf without text. -/
def isEpsilon : Node → Bool
  | .leaf value _ => value.isEmpty
  | .branch _ _ => false

/-- What tells how to evaluate a node: the rule of a branch, the class of a leaf. -/
def label? : Node → Option String
  | .leaf _ tokenClass => tokenClass
  | .branch rule _ => some rule

/-- The nodes below a branch, in order. -/
def children : Node → List Node
  | .leaf _ _ => []
  | .branch _ children => children

mutual

/-- The number of leaves and branches of a tree. -/
def size : Node → Nat
  | .leaf _ _ => 1
  | .branch _ children => 1 + sizes children

/-- The number of leaves and branches of some trees. -/
def sizes : List Node → Nat
  | [] => 0
  | node :: rest => size node + sizes rest

end

/-- Every tree has a node. -/
theorem size_pos (node : Node) : 0 < node.size := by
  cases node with
  | leaf value tokenClass => exact Nat.one_pos
  | branch rule children =>
    rw [size]
    omega

/-- Trees behind each other have all the nodes of both. -/
@[simp] theorem sizes_append (left right : List Node) :
    sizes (left ++ right) = sizes left + sizes right := by
  induction left with
  | nil => simp [sizes]
  | cons first rest ih => simp [sizes, ih, Nat.add_assoc]

/-- Trees in reverse have the same nodes. -/
@[simp] theorem sizes_reverse (nodes : List Node) : sizes nodes.reverse = sizes nodes := by
  induction nodes with
  | nil => rfl
  | cons first rest ih =>
    rw [List.reverse_cons, sizes_append, ih]
    simp [sizes, Nat.add_comm]

/-- Leaving trees out makes no more nodes. -/
theorem sizes_filter_le (keeps : Node → Bool) (nodes : List Node) :
    sizes (nodes.filter keeps) ≤ sizes nodes := by
  induction nodes with
  | nil => simp
  | cons first rest ih =>
    rw [List.filter_cons]
    split <;> simp only [sizes] <;> omega

/-! ### Leaves -/

/-- The values of the leaves of a stack of trees. -/
def stackValues (stack : List Node) : List String :=
  match stack with
  | [] => []
  | .leaf value _ :: rest => value :: stackValues rest
  | .branch _ children :: rest => stackValues (children ++ rest)
termination_by sizes stack
decreasing_by all_goals simp [sizes, size]

/-- The values of the leaves, from left to right. -/
def leafValues (node : Node) : List String := stackValues [node]

/-- The text of the tree: its leaves, one behind the other. -/
def text (node : Node) : String := String.join node.leafValues

/-- The values of the leaves that are not empty. -/
def leaves (node : Node) : List String := node.leafValues.filter fun value => !value.isEmpty

/-! ### Equality -/

/-- The trees that are paired with others have no more nodes than there are in all. -/
theorem sizes_zip_le (left right : List Node) :
    sizes ((left.zip right).map Prod.fst) ≤ sizes left := by
  induction left generalizing right with
  | nil => simp
  | cons first rest ih =>
    cases right with
    | nil => simp [sizes]
    | cons other others =>
      simp only [List.zip_cons_cons, List.map_cons, sizes]
      exact Nat.add_le_add_left (ih others) _

/-- Whether all pairs of a stack are pairs of equal trees. Of two branches, the last children are
compared first. -/
def allSame (pairs : List (Node × Node)) : Bool :=
  match pairs with
  | [] => true
  | (.leaf left leftClass, .leaf right rightClass) :: rest =>
    left == right && leftClass == rightClass && allSame rest
  | (.branch left leftChildren, .branch right rightChildren) :: rest =>
    left == right && leftChildren.length == rightChildren.length &&
      allSame ((leftChildren.zip rightChildren).reverse ++ rest)
  | _ => false
termination_by sizes (pairs.map Prod.fst)
decreasing_by
  · simp [sizes, size]
  · have fewer := sizes_zip_le leftChildren rightChildren
    simp only [List.map_append, List.map_reverse, sizes_append, sizes_reverse, List.map_cons, sizes,
      size]
    omega

/-- Whether two trees are equal. -/
def same (left right : Node) : Bool := allSame [(left, right)]

end Node

end ShiftReduce
