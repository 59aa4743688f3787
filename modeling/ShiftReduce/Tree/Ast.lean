import ShiftReduce.Tree.Node

/-!
# Syntax trees

What an evaluator works on is a parse tree without what only the grammar needs: chains of single
children become the innermost of them, and of the children of a branch only those that were
branches stay. So punctuation goes, and tokens that matter stay if a rule of their own wraps them.

## Main definitions

* `Node.collapse` — the end of a chain of single children
* `AstStep`, `Node.runSteps` — the work that is still to do, and doing it
* `Node.toAst` — the syntax tree of a parse tree
-/

namespace ShiftReduce

namespace Node

/-- Follows single children down to the innermost one. An empty leaf stays below its branch. -/
def collapse : Node → Node
  | .branch rule [child] => if child.isEpsilon then .branch rule [child] else collapse child
  | node => node

/-- Following single children makes no tree larger. -/
theorem size_collapse_le (node : Node) : node.collapse.size ≤ node.size := by
  induction node using collapse.induct with
  | case1 rule child empty => simp [collapse, empty]
  | case2 rule child filled ih =>
    rw [collapse, if_neg filled]
    simp only [size, sizes]
    omega
  | case3 node other => exact Nat.le_of_eq (congrArg size (collapse.eq_2 node other))

end Node

/-- A piece of work: to reduce a tree, or to put a rule above the last trees that were done. -/
inductive AstStep
  | reduce (node : Node)
  | assemble (rule : String) (arity : Nat)

namespace AstStep

/-- What is left to do. A tree counts for more than the work that it turns into. -/
def work : List AstStep → Nat
  | [] => 0
  | .reduce node :: rest => 2 * node.size + work rest
  | .assemble _ _ :: rest => 1 + work rest

/-- Trees to reduce count twice their nodes. -/
theorem work_map_reduce_append (nodes : List Node) (rest : List AstStep) :
    work (nodes.map .reduce ++ rest) = 2 * Node.sizes nodes + work rest := by
  induction nodes with
  | nil => simp [Node.sizes]
  | cons first others ih =>
    simp only [List.map_cons, List.cons_append, work, ih, Node.sizes]
    omega

end AstStep

namespace Node

/-- Does a stack of work. `done` are the trees that are done so far, the last one first. -/
def runSteps (steps : List AstStep) (done : List Node) : List Node :=
  match steps with
  | [] => done
  | .reduce node :: rest =>
    match _collapsed : node.collapse with
    | .leaf value tokenClass => runSteps rest (.leaf value tokenClass :: done)
    | .branch rule children =>
      let kept := children.filter isBranch
      runSteps (kept.map .reduce ++ .assemble rule kept.length :: rest) done
  | .assemble rule arity :: rest =>
    let children := (done.take arity).reverse.filter fun child => !child.isEpsilon
    runSteps rest (.branch rule children :: done.drop arity)
termination_by AstStep.work steps
decreasing_by
  · have positive := node.size_pos
    simp only [AstStep.work]
    omega
  · have collapsed := node.size_collapse_le
    have fewer := sizes_filter_le isBranch children
    rw [_collapsed] at collapsed
    simp only [AstStep.work_map_reduce_append, AstStep.work, size] at collapsed ⊢
    omega
  · simp only [AstStep.work]
    omega

/-- The syntax tree of a parse tree. -/
def toAst (node : Node) : Node :=
  match runSteps [.reduce node] [] with
  | [] => epsilon
  | result :: _ => result

end Node

end ShiftReduce
