import ShiftReduce.Text.Measure
import ShiftReduce.Tree.Node

/-!
# Tree diagrams

A tree as text: one line for each node, with lines drawn from every node to those below it.

## Main definitions

* `Node.icon`, `Node.caption` — a node in its line
* `Node.diagram` — the whole text
-/

namespace ShiftReduce.Node

/-- The sign of a node: for branches, for empty leaves, for tokens, and for literals that several
tokens spelled. -/
def icon : Node → String
  | .branch _ _ => "≔"
  | .leaf value tokenClass =>
    if value.isEmpty then "∅" else if tokenClass.isSome then "◦" else "\""

/-- The start of a leaf's text. -/
def shorten (value : String) : String := String.ofList (Text.excerpt 30 value.toList)

/-- What a node's line says. -/
def caption : Node → String
  | .branch rule _ => rule
  | .leaf value tokenClass =>
    if value.isEmpty then "(empty)"
    else match tokenClass with
      | some name => shorten value ++ " : " ++ name
      | none => shorten value

/-! ### Lines -/

/-- A node with its depth below the first line, and whether it is the last below its branch. -/
structure Pending where
  node : Node
  depth : Nat
  isLast : Bool

/-- The nodes below a branch, in order. -/
def pendingChildren (depth : Nat) : List Node → List Pending
  | [] => []
  | [node] => [⟨node, depth, true⟩]
  | node :: rest => ⟨node, depth, false⟩ :: pendingChildren depth rest

/-- The nodes that wait are those of the tree. -/
theorem map_node_pendingChildren (depth : Nat) (nodes : List Node) :
    (pendingChildren depth nodes).map Pending.node = nodes := by
  induction nodes with
  | nil => rfl
  | cons first rest ih =>
    cases rest with
    | nil => rfl
    | cons second rest => simp only [pendingChildren, List.map_cons, ih]

/-- The lines that a line crosses on its left: one for each depth where more nodes come below. -/
def crossings (isOpen : List Bool) : String :=
  String.join (isOpen.map fun more => if more then "│  " else "   ")

/-- The line of a node below the first one. -/
def branchLine (isOpen : List Bool) (pending : Pending) : String :=
  crossings isOpen ++ (if pending.isLast then "└─" else "├─") ++ " " ++ pending.node.icon ++ " " ++
    pending.node.caption ++ "\n"

/-- The lines of a stack of nodes. `isOpen` says of each depth above the last line whether more
nodes come below there. -/
def stackLines (stack : List Pending) (isOpen : List Bool) : List String :=
  match stack with
  | [] => []
  | pending :: rest =>
    let above := isOpen.take pending.depth
    branchLine above pending ::
      stackLines (pendingChildren (pending.depth + 1) pending.node.children ++ rest)
        (above ++ [!pending.isLast])
termination_by sizes (stack.map Pending.node)
decreasing_by
  have below : sizes pending.node.children < pending.node.size := by
    cases pending.node <;> simp [children, sizes, size]
  simp only [List.map_append, map_node_pendingChildren, sizes_append, List.map_cons, sizes]
  omega

/-- The diagram of a tree. -/
def diagram (node : Node) : String :=
  node.icon ++ " " ++ node.caption ++ "\n" ++
    String.join (stackLines (pendingChildren 0 node.children) [])

end ShiftReduce.Node
