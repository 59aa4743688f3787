import ShiftReduce.Proofs.Tree.Parts
import ShiftReduce.Tree.Diagram

/-!
# Diagrams by recursion

A diagram is written with a stack of nodes that are still to come and a list that tells of each
depth whether more nodes come below there. Taken as a recursion, a node is drawn as its own line and
the drawings of its children, in order, each attached to it: a connector leads to the line of the
child, and a bar or blanks stand in front of what is below the child.

## Main definitions

* `Node.header` — the line of a node
* `Node.attach`, `Node.attachAll` — the lines of children below their parent
* `Node.drawing` — the lines of a diagram by recursion

## Main results

* `Node.drawing_eq` — the recursion in one equation
* `Node.stackLines_pendingChildren` — what is drawn of the children of a node
* `Node.diagram_spec` — diagrams are those of the recursion
-/

namespace ShiftReduce.Node

/-! ### The recursion -/

/-- What a node says in its line. -/
def header (node : Node) : String := node.icon ++ " " ++ node.caption ++ "\n"

/-- The lines of a child below its parent. A connector leads to its first line. The others stand
behind blanks if the child is the last one, and behind a bar otherwise. -/
def attach (isLast : Bool) : List String → List String
  | [] => []
  | first :: below =>
    ((if isLast then "└─" else "├─") ++ " " ++ first) ::
      below.map fun line => (if isLast then "   " else "│  ") ++ line

/-- The lines of all children below their parent, in order. -/
def attachAll : List (List String) → List String
  | [] => []
  | child :: rest => attach rest.isEmpty child ++ attachAll rest

mutual

/-- The lines of a tree: that of the node, and those of its children below. -/
def drawing : Node → List String
  | .leaf value tokenClass => [header (.leaf value tokenClass)]
  | .branch rule children => header (.branch rule children) :: attachAll (drawings children)

/-- The lines of each of some trees. -/
def drawings : List Node → List (List String)
  | [] => []
  | node :: rest => drawing node :: drawings rest

end

theorem drawings_eq_map (nodes : List Node) : drawings nodes = nodes.map drawing := by
  induction nodes with
  | nil => rfl
  | cons first rest ih => rw [drawings, ih, List.map_cons]

/-- A node is drawn as its own line, with the drawings of its children attached below. -/
theorem drawing_eq (node : Node) :
    node.drawing = node.header :: attachAll (node.children.map drawing) := by
  cases node with
  | leaf value tokenClass => rw [drawing, children, List.map_nil, attachAll]
  | branch rule children => rw [drawing, drawings_eq_map, Node.children]

/-! ### The stack -/

theorem pendingChildren_cons (depth : Nat) (node : Node) (rest : List Node) :
    pendingChildren depth (node :: rest) =
      ⟨node, depth, rest.isEmpty⟩ :: pendingChildren depth rest := by
  cases rest <;> rfl

/-- Below a child, its lines cross what its own line does, and then a bar or blanks. -/
theorem crossings_concat (isOpen : List Bool) (isLast : Bool) :
    crossings (isOpen ++ [!isLast]) = crossings isOpen ++ if isLast then "   " else "│  " := by
  cases isLast <;> simp [crossings]

section Stack

variable {isOpen other : List Bool} {rest : List Pending}

theorem stackLines_nil : stackLines [] isOpen = [] := by
  rw [stackLines]

theorem stackLines_cons (pending : Pending) : stackLines (pending :: rest) isOpen =
    branchLine (isOpen.take pending.depth) pending ::
      stackLines (pendingChildren (pending.depth + 1) pending.node.children ++ rest)
        (isOpen.take pending.depth ++ [!pending.isLast]) := by
  rw [stackLines]

/-- Of what is open, only the depths above the next node matter. -/
theorem stackLines_congr
    (agree : ∀ pending ∈ rest.head?, isOpen.take pending.depth = other.take pending.depth) :
    stackLines rest isOpen = stackLines rest other := by
  cases rest with
  | nil => rw [stackLines_nil, stackLines_nil]
  | cons pending rest => rw [stackLines_cons, stackLines_cons, agree pending rfl]

/-- The line of a child is its own line behind a connector, and behind what its parent crosses. -/
theorem branchLine_eq (pending : Pending) : branchLine isOpen pending =
    crossings isOpen ++
      ((if pending.isLast then "└─" else "├─") ++ " " ++ pending.node.header) := by
  simp only [branchLine, header, String.append_assoc]

/-- The next node is no deeper than the children of a node, be it one of them or one behind. -/
theorem depth_le_of_mem_head? {depth : Nat} (nodes : List Node)
    (shallow : ∀ pending ∈ rest.head?, pending.depth ≤ depth) :
    ∀ pending ∈ (pendingChildren depth nodes ++ rest).head?, pending.depth ≤ depth := by
  cases nodes with
  | nil => exact shallow
  | cons node others =>
    rw [pendingChildren_cons]
    simp

/-- The children of a node are drawn as in the recursion, each line behind what the lines of the
node cross. Whatever was open below, the stack goes on with what is open above them. -/
theorem stackLines_pendingChildren (nodes : List Node) (rest : List Pending)
    (above below : List Bool) (shallow : ∀ pending ∈ rest.head?, pending.depth ≤ above.length) :
    stackLines (pendingChildren above.length nodes ++ rest) (above ++ below) =
      (attachAll (nodes.map drawing)).map (crossings above ++ ·) ++ stackLines rest above := by
  induction nodes using forest_induction generalizing above below rest with
  | nil =>
    apply stackLines_congr
    intro pending next
    exact List.take_append_of_le_length (shallow pending next)
  | cons node others inside beside =>
    -- The node opens its depth to the nodes beside it, which come after those inside of it.
    have opened : above.length + 1 = (above ++ [!others.isEmpty]).length := by simp
    have deeper : ∀ pending ∈ (pendingChildren above.length others ++ rest).head?,
        pending.depth ≤ (above ++ [!others.isEmpty]).length := by
      intro pending next
      rw [← opened]
      exact Nat.le_succ_of_le (depth_le_of_mem_head? others shallow pending next)
    have drawnInside := inside (pendingChildren above.length others ++ rest)
      (above ++ [!others.isEmpty]) [] deeper
    rw [List.append_nil] at drawnInside
    have drawnBeside := beside rest above [!others.isEmpty] shallow
    rw [pendingChildren_cons, List.cons_append, stackLines_cons]
    dsimp only
    rw [List.take_left, opened, drawnInside, drawnBeside, branchLine_eq, List.map_cons, attachAll,
      drawing_eq, attach, List.isEmpty_map]
    simp [crossings_concat, String.append_assoc]

end Stack

/-- The diagram of a tree is its drawing by recursion: the line of the node, and the drawings of
its children in order, each attached below. -/
theorem diagram_spec (node : Node) : node.diagram = String.join node.drawing ∧
    node.drawing = node.header :: attachAll (node.children.map drawing) := by
  refine ⟨?_, node.drawing_eq⟩
  have drawn : stackLines (pendingChildren 0 node.children) [] =
      attachAll (node.children.map drawing) := by
    simpa [crossings, stackLines_nil] using stackLines_pendingChildren node.children [] [] [] nofun
  rw [diagram, drawn, drawing_eq, String.join_cons, header]

/-- Below the last child of the first child, the bar of the first child goes on. -/
example : drawing (.branch "sum" [.branch "sum" [.leaf "1" (some "int"), .branch "rest" [.epsilon]],
    .leaf "2" (some "int")]) =
      ["≔ sum\n", "├─ ≔ sum\n", "│  ├─ ◦ 1 : int\n", "│  └─ ≔ rest\n", "│     └─ ∅ (empty)\n",
        "└─ ◦ 2 : int\n"] := by cbv

end ShiftReduce.Node
