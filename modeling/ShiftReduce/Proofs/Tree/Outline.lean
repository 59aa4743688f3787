import Mathlib.Data.List.Forall2
import ShiftReduce.Proofs.Text.Lines
import ShiftReduce.Proofs.Tree.Drawing

/-!
# Reading diagrams

Each line of a diagram starts with strokes, three characters for each level of the node above the
first line, and what is said of the node stands behind them. As no node's sign looks like a stroke,
the depths of the nodes can be told from the lines, and with them which node is below which. All of
that holds as long as no node puts a line feed into its line.

## Main definitions

* `Outline`, `Node.outline` — what is said of the nodes of a tree, and how they are arranged
* `Outline.ofText` — the outlines that are read from a text
* `Node.levels` — the nodes of a tree with their depths
* `Node.IsLegible` — a diagram with one line for each node, from which the outline can be read

## Main results

* `Outline.ofRows_levels` — outlines are told by the depths of nodes in preorder
* `Node.exists_rows_diagram` — the rows that a diagram is written in
* `Node.length_lines_diagram` — how many lines a diagram has
* `Node.isLegible_iff` — which diagrams are legible
-/

namespace ShiftReduce

/-- What is said of a node, with the outlines of what is below it. -/
inductive Outline
  | entry (title : List Char) (below : List Outline)

namespace Outline

/-! ### Reading outlines -/

/-- Puts a row in front of the outlines of the rows behind it, each with its depth. Those up to the
first that is no deeper come to stand below the row. -/
def insertRow (row : Nat × List Char) (later : List (Nat × Outline)) : List (Nat × Outline) :=
  (row.1, .entry row.2 ((later.takeWhile fun other => row.1 < other.1).map Prod.snd)) ::
    later.dropWhile fun other => row.1 < other.1

/-- The outlines that rows with depths make up. -/
def ofRows (rows : List (Nat × List Char)) : List Outline := (rows.foldr insertRow []).map Prod.snd

/-- What stands in front of a line for each level: a bar or blanks, and last a connector. -/
def strokes : List (List Char) :=
  [['│', ' ', ' '], [' ', ' ', ' '], ['├', '─', ' '], ['└', '─', ' ']]

theorem length_of_mem_strokes : ∀ stroke ∈ strokes, stroke.length = 3 := by decide

/-- The number of strokes that a line starts with, and what stands behind them. -/
def rowOf (line : List Char) : Nat × List Char :=
  if starts : line.take 3 ∈ strokes then ((rowOf (line.drop 3)).1 + 1, (rowOf (line.drop 3)).2)
  else (0, line)
termination_by line.length
decreasing_by all_goals
  have length := length_of_mem_strokes _ starts
  rw [List.length_take] at length
  rw [List.length_drop]
  omega

/-- The outlines that are read from a text. -/
def ofText (text : String) : List Outline := ofRows ((Text.lines text.toList).map rowOf)

end Outline

namespace Node

/-! ### Levels -/

/-- What a line says of a node. -/
def title (node : Node) : List Char := (node.icon ++ " " ++ node.caption).toList

/-- The signs that nodes have in their lines. -/
def signs : List Char := ['≔', '∅', '◦', '"']

theorem exists_title_eq (node : Node) :
    ∃ sign ∈ signs, node.title = sign :: ' ' :: node.caption.toList := by
  have single : ∃ sign ∈ signs, node.icon.toList = [sign] := by
    cases node with
    | branch rule children =>
      rw [icon]
      exact ⟨'≔', by decide, rfl⟩
    | leaf value tokenClass =>
      rw [icon]
      split
      · exact ⟨'∅', by decide, rfl⟩
      · split
        · exact ⟨'◦', by decide, rfl⟩
        · exact ⟨'"', by decide, rfl⟩
  obtain ⟨sign, isSign, same⟩ := single
  refine ⟨sign, isSign, ?_⟩
  rw [title, String.toList_append, String.toList_append, same]
  rfl

mutual

/-- The outline of a tree. -/
def outline : Node → Outline
  | .leaf value tokenClass => .entry (title (.leaf value tokenClass)) []
  | .branch rule children => .entry (title (.branch rule children)) (outlines children)

/-- The outlines of some trees. -/
def outlines : List Node → List Outline
  | [] => []
  | node :: rest => outline node :: outlines rest

end

mutual

/-- The nodes of a tree with their depths, where the tree has a given one, each node in front of
those below it. -/
def levels (depth : Nat) : Node → List (Nat × Node)
  | .leaf value tokenClass => [(depth, .leaf value tokenClass)]
  | .branch rule children => (depth, .branch rule children) :: levelsAll (depth + 1) children

/-- The nodes of some trees with their depths, where the trees have a given one. -/
def levelsAll (depth : Nat) : List Node → List (Nat × Node)
  | [] => []
  | node :: rest => levels depth node ++ levelsAll depth rest

end

theorem outline_eq (node : Node) :
    node.outline = .entry node.title (node.children.map outline) := by
  have outlines_eq_map (nodes : List Node) : outlines nodes = nodes.map outline := by
    induction nodes with
    | nil => rfl
    | cons first rest ih => rw [outlines, ih, List.map_cons]
  cases node with
  | leaf value tokenClass => rfl
  | branch rule children => rw [outline, outlines_eq_map, Node.children]

theorem levels_eq (depth : Nat) (node : Node) :
    node.levels depth = (depth, node) :: levelsAll (depth + 1) node.children := by
  cases node <;> rfl

/-- The nodes with their depths are those in preorder. -/
theorem map_snd_levelsAll (depth : Nat) (nodes : List Node) :
    (levelsAll depth nodes).map Prod.snd = preorderAll nodes := by
  induction nodes using forest_induction generalizing depth with
  | nil => rfl
  | cons node rest inside beside =>
    rw [levelsAll, preorderAll, levels_eq, preorder_eq, List.map_append, List.map_cons, inside,
      beside]

/-- One level deeper, all nodes are. -/
theorem levelsAll_succ (depth : Nat) (nodes : List Node) :
    levelsAll (depth + 1) nodes =
      (levelsAll depth nodes).map fun place => (place.1 + 1, place.2) := by
  induction nodes using forest_induction generalizing depth with
  | nil => rfl
  | cons node rest inside beside =>
    rw [levelsAll, levelsAll, levels_eq, levels_eq, inside, beside, List.map_append, List.map_cons]

/-- And so are the nodes of one tree. -/
theorem levels_succ (depth : Nat) (node : Node) :
    node.levels (depth + 1) = (node.levels depth).map fun place => (place.1 + 1, place.2) := by
  rw [levels_eq, levels_eq, levelsAll_succ (depth + 1), List.map_cons]

theorem map_snd_levels (depth : Nat) (node : Node) :
    (node.levels depth).map Prod.snd = node.preorder := by
  rw [levels_eq, preorder_eq, List.map_cons, map_snd_levelsAll]

theorem length_levels (depth : Nat) (node : Node) : (node.levels depth).length = node.size := by
  rw [← length_preorder, ← map_snd_levels depth, List.length_map]

end Node

/-! ### Outlines told by depths -/

namespace Outline

/-- Deeper outlines come to stand below a row, up to the first one that is no deeper. -/
theorem insertRow_append {depth : Nat} {title : List Char} {below later : List (Nat × Outline)}
    (deeper : ∀ other ∈ below, depth < other.1)
    (shallow : ∀ other ∈ later.head?, other.1 ≤ depth) :
    insertRow (depth, title) (below ++ later) =
      (depth, .entry title (below.map Prod.snd)) :: later := by
  have all : ∀ other ∈ below, decide (depth < other.1) = true := by simpa using deeper
  rw [insertRow, List.takeWhile_append_of_pos all, List.dropWhile_append_of_pos all]
  cases later with
  | nil => rw [List.takeWhile_nil, List.dropWhile_nil, List.append_nil]
  | cons other others =>
    have stops : ¬ depth < other.1 := Nat.not_lt.mpr (shallow other rfl)
    simp [stops]

/-- The row of a node at a depth, as it is read. -/
def rowOfPlace (place : Nat × Node) : Nat × List Char := (place.1, place.2.title)

/-- The rows of trees make up their outlines, with those of no deeper rows behind them. -/
theorem foldr_insertRow_levelsAll (depth : Nat) (nodes : List Node) (later : List (Nat × Outline))
    (shallow : ∀ other ∈ later.head?, other.1 ≤ depth) :
    ((Node.levelsAll depth nodes).map rowOfPlace).foldr insertRow later =
      nodes.map (fun node => (depth, node.outline)) ++ later := by
  induction nodes using Node.forest_induction generalizing depth later with
  | nil => rfl
  | cons node rest inside beside =>
    -- What is beside the node is no deeper than the node, and so not below it.
    have next : ∀ other ∈ (rest.map (fun node => (depth, node.outline)) ++ later).head?,
        other.1 ≤ depth := by
      cases rest with
      | nil => exact shallow
      | cons first others => simp
    rw [Node.levelsAll, Node.levels_eq, List.map_append, List.map_cons, List.foldr_append,
      beside depth later shallow, List.foldr_cons,
      inside (depth + 1) _ fun other found => Nat.le_succ_of_le (next other found), rowOfPlace,
      insertRow_append (by simp) next, List.map_cons, List.cons_append, node.outline_eq]
    simp

/-- The rows of a tree make up its outline and no other one. -/
theorem ofRows_levels (node : Node) :
    ofRows ((node.levels 0).map rowOfPlace) = [node.outline] := by
  have built := foldr_insertRow_levelsAll 0 [node] [] nofun
  rw [Node.levelsAll, Node.levelsAll, List.append_nil] at built
  rw [ofRows, built]
  rfl

/-! ### Strokes -/

theorem rowOf_append {stroke rest : List Char} (isStroke : stroke ∈ strokes) :
    rowOf (stroke ++ rest) = ((rowOf rest).1 + 1, (rowOf rest).2) := by
  have length := length_of_mem_strokes stroke isStroke
  have front : (stroke ++ rest).take 3 = stroke := List.take_left' length
  have behind : (stroke ++ rest).drop 3 = rest := List.drop_left' length
  rw [rowOf, dif_pos (front.symm ▸ isStroke), behind]

/-- No sign of a node starts a stroke. -/
theorem rowOf_title (node : Node) : rowOf node.title = (0, node.title) := by
  have apart : ∀ stroke ∈ strokes, ∀ sign ∈ Node.signs, stroke.head? ≠ some sign := by
    simp [strokes, Node.signs]
  obtain ⟨sign, isSign, same⟩ := node.exists_title_eq
  rw [rowOf, dif_neg]
  rw [same]
  exact fun isStroke => apart _ isStroke sign isSign rfl

end Outline

namespace Node

/-! ### Rows of diagrams -/

/-- The row of a node at a depth: a stroke for each level, and behind them the title of the node. -/
inductive IsRowOf : Nat × Node → List Char → Prop
  | title (node : Node) : IsRowOf (0, node) node.title
  | indent {depth : Nat} {node : Node} {stroke row : List Char} : stroke ∈ Outline.strokes →
      IsRowOf (depth, node) row → IsRowOf (depth + 1, node) (stroke ++ row)

/-- A line is the row of a node at a depth, with a line feed behind it. -/
def IsLineOf (place : Nat × Node) (line : String) : Prop :=
  ∃ row, IsRowOf place row ∧ line.toList = row ++ ['\n']

variable {place : Nat × Node} {line : String}

theorem isLineOf_header (node : Node) : IsLineOf (0, node) node.header := by
  refine ⟨node.title, .title node, ?_⟩
  rw [header, String.toList_append]
  rfl

theorem IsLineOf.indent (isLine : IsLineOf place line) {stroke : String}
    (isStroke : stroke.toList ∈ Outline.strokes) :
    IsLineOf (place.1 + 1, place.2) (stroke ++ line) := by
  obtain ⟨row, isRow, same⟩ := isLine
  refine ⟨stroke.toList ++ row, .indent isStroke isRow, ?_⟩
  rw [String.toList_append, same, List.append_assoc]

/-- Below a parent, all lines are indented by one level. -/
theorem forall₂_attach (isLast : Bool) {places : List (Nat × Node)} {lines : List String}
    (all : List.Forall₂ IsLineOf places lines) :
    List.Forall₂ IsLineOf (places.map fun place => (place.1 + 1, place.2))
      (attach isLast lines) := by
  cases all with
  | nil => exact .nil
  | cons first below =>
    refine .cons (first.indent ?_) ?_
    · cases isLast <;> decide
    · rw [List.forall₂_map_left_iff, List.forall₂_map_right_iff]
      refine below.imp fun place line isLine => isLine.indent ?_
      cases isLast <;> decide

/-- The lines of trees below their parent are those of their nodes, one level down. -/
theorem forall₂_attachAll (nodes : List Node) :
    List.Forall₂ IsLineOf (levelsAll 1 nodes) (attachAll (nodes.map drawing)) := by
  induction nodes using forest_induction with
  | nil => exact .nil
  | cons node rest inside beside =>
    have drawn : List.Forall₂ IsLineOf (node.levels 0) node.drawing := by
      rw [levels_eq, drawing_eq]
      exact .cons (isLineOf_header node) inside
    rw [levelsAll, levels_succ, List.map_cons, attachAll]
    exact List.rel_append (forall₂_attach _ drawn) beside

/-- Lines are written as the rows of their nodes. -/
theorem exists_rows {places : List (Nat × Node)} {lines : List String}
    (all : List.Forall₂ IsLineOf places lines) :
    ∃ rows, List.Forall₂ IsRowOf places rows ∧ lines.flatMap String.toList = Text.written rows := by
  induction all with
  | nil => exact ⟨[], .nil, rfl⟩
  | cons isLine _ ih =>
    obtain ⟨row, isRow, same⟩ := isLine
    obtain ⟨rows, areRows, whole⟩ := ih
    refine ⟨row :: rows, .cons isRow areRows, ?_⟩
    rw [List.flatMap_cons, same, whole, Text.written_cons, List.append_assoc]
    rfl

/-- A diagram is written in the rows of the nodes in preorder. -/
theorem exists_rows_diagram (node : Node) :
    ∃ rows, List.Forall₂ IsRowOf (node.levels 0) rows ∧
      node.diagram.toList = Text.written rows := by
  have lines : List.Forall₂ IsLineOf (node.levels 0)
      (node.header :: stackLines (pendingChildren 0 node.children) []) := by
    have drawn := stackLines_pendingChildren node.children [] [] [] nofun
    simp only [List.append_nil, List.length_nil, stackLines_nil, crossings, List.map_nil,
      String.join_nil, String.empty_append, List.map_id'] at drawn
    rw [levels_eq, drawn]
    exact .cons (isLineOf_header node) (forall₂_attachAll node.children)
  obtain ⟨rows, areRows, written⟩ := exists_rows lines
  refine ⟨rows, areRows, ?_⟩
  rw [← written, diagram, ← header, String.toList_append, String.toList_join, List.flatMap_cons]

/-! ### Lines of diagrams -/

namespace IsRowOf

variable {row : List Char}

theorem exists_indent (isRow : IsRowOf place row) :
    ∃ indent : List Char, indent.length = 3 * place.1 ∧ row = indent ++ place.2.title := by
  induction isRow with
  | title node => exact ⟨[], rfl, rfl⟩
  | @indent depth node stroke row isStroke _ ih =>
    obtain ⟨indent, length, rfl⟩ := ih
    refine ⟨stroke ++ indent, ?_, (List.append_assoc ..).symm⟩
    rw [List.length_append, Outline.length_of_mem_strokes stroke isStroke, length]
    dsimp only
    omega

theorem rowOf_eq (isRow : IsRowOf place row) : Outline.rowOf row = Outline.rowOfPlace place := by
  induction isRow with
  | title node => exact Outline.rowOf_title node
  | indent isStroke _ ih =>
    rw [Outline.rowOf_append isStroke, ih]
    rfl

/-- Of a row, only what is said of the node may have line feeds. -/
theorem count_eq (isRow : IsRowOf place row) :
    row.count '\n' = place.2.caption.toList.count '\n' := by
  have noBreak : ∀ stroke ∈ Outline.strokes, stroke.count '\n' = 0 := by
    simp [Outline.strokes]
  induction isRow with
  | title node =>
    have noSign : ∀ sign ∈ signs, sign ≠ '\n' := by simp [signs]
    obtain ⟨sign, isSign, same⟩ := node.exists_title_eq
    rw [same, List.count_cons_of_ne (noSign sign isSign), List.count_cons_of_ne (by decide)]
  | indent isStroke _ ih => rw [List.count_append, noBreak _ isStroke, ih, Nat.zero_add]

end IsRowOf

/-- The rows of nodes have as many line feeds as there are in what is said of the nodes. -/
theorem count_rows {places : List (Nat × Node)} {rows : List (List Char)}
    (areRows : List.Forall₂ IsRowOf places rows) :
    rows.flatten.count '\n' =
      ((places.map Prod.snd).flatMap fun part => part.caption.toList).count '\n' := by
  induction areRows with
  | nil => rfl
  | cons isRow _ ih =>
    rw [List.flatten_cons, List.map_cons, List.flatMap_cons, List.count_append, List.count_append,
      isRow.count_eq, ih]

/-- A diagram has a line for each node, and another one for each line feed in what is said of it. -/
theorem length_lines_diagram (node : Node) : (Text.lines node.diagram.toList).length =
    node.size + (node.preorder.flatMap fun part => part.caption.toList).count '\n' := by
  obtain ⟨rows, areRows, written⟩ := node.exists_rows_diagram
  rw [written, Text.length_lines_written, count_rows areRows, map_snd_levels, ← areRows.length_eq,
    length_levels]

/-- A diagram that can be read: it has one line for each node, in preorder, which is indented by
three characters for each level of the node, and the outline of the tree can be told from it. -/
structure IsLegible (node : Node) : Prop where
  length_lines : (Text.lines node.diagram.toList).length = node.size
  line : ∀ (index : Nat) (part : Node), node.preorder[index]? = some part →
    ∃ (depth : Nat) (indent : List Char), (node.levels 0)[index]? = some (depth, part) ∧
      indent.length = 3 * depth ∧
      (Text.lines node.diagram.toList)[index]? = some (indent ++ part.title)
  ofText_diagram : Outline.ofText node.diagram = [node.outline]

/-- Without line feeds in what is said of the nodes, the lines of a diagram are its rows. -/
theorem isLegible_of_forall_caption {node : Node}
    (unbroken : ∀ part ∈ node.preorder, '\n' ∉ part.caption.toList) : node.IsLegible := by
  obtain ⟨rows, areRows, written⟩ := node.exists_rows_diagram
  have noBreak : ∀ row ∈ rows, '\n' ∉ row := by
    have none : rows.flatten.count '\n' = 0 := by
      rw [count_rows areRows, map_snd_levels, List.count_eq_zero, List.mem_flatMap]
      exact fun ⟨part, present, broken⟩ => unbroken part present broken
    intro row present broken
    exact List.count_eq_zero.mp none (List.mem_flatten.mpr ⟨row, present, broken⟩)
  have lines : Text.lines node.diagram.toList = rows := by rw [written, Text.lines_written noBreak]
  refine ⟨?_, fun index part found => ?_, ?_⟩
  · rw [lines, ← areRows.length_eq, length_levels]
  · rw [← map_snd_levels 0, List.getElem?_map, Option.map_eq_some_iff] at found
    obtain ⟨⟨depth, part⟩, found, rfl⟩ := found
    obtain ⟨inside, same⟩ := List.getElem?_eq_some_iff.mp found
    have listed : index < rows.length := areRows.length_eq ▸ inside
    have isRow : IsRowOf (node.levels 0)[index] rows[index] := areRows.get inside listed
    rw [same] at isRow
    obtain ⟨indent, length, row⟩ := isRow.exists_indent
    exact ⟨depth, indent, found, length, by rw [lines, List.getElem?_eq_getElem listed, row]⟩
  · have read : rows.map Outline.rowOf = (node.levels 0).map Outline.rowOfPlace := by
      rw [← List.forall₂_eq_eq_eq, List.forall₂_map_left_iff, List.forall₂_map_right_iff]
      exact areRows.flip.imp fun _ _ isRow => isRow.rowOf_eq
    rw [Outline.ofText, lines, read, Outline.ofRows_levels]

/-- Diagrams are legible exactly if nothing that is said of a node has a line feed. -/
theorem isLegible_iff (node : Node) :
    node.IsLegible ↔ ∀ part ∈ node.preorder, '\n' ∉ part.caption.toList := by
  refine ⟨fun legible part present broken => ?_, isLegible_of_forall_caption⟩
  have noMore : (node.preorder.flatMap fun part => part.caption.toList).count '\n' = 0 := by
    have length := node.length_lines_diagram
    rw [legible.length_lines] at length
    omega
  exact List.count_eq_zero.mp noMore (List.mem_flatMap.mpr ⟨part, present, broken⟩)

/-- Where no rule name has a line feed, it is the leaves that make a diagram legible or not. -/
theorem isLegible_iff_of_ruleNames {node : Node}
    (named : ∀ name ∈ node.ruleNames, '\n' ∉ name.toList) :
    node.IsLegible ↔ ∀ leaf ∈ node.fringe, '\n' ∉ leaf.caption.toList := by
  rw [isLegible_iff, fringe_eq_filter]
  constructor
  · exact fun unbroken leaf present => unbroken leaf (List.mem_filter.mp present).1
  · intro unbroken part present
    cases part with
    | leaf value tokenClass => exact unbroken _ (List.mem_filter.mpr ⟨present, rfl⟩)
    | branch rule children => exact named rule (List.mem_filterMap.mpr ⟨_, present, rfl⟩)

end Node

end ShiftReduce
