import Mathlib.Logic.Relation
import ShiftReduce.Tree.Ast

/-!
# Syntax trees by recursion

The work on a syntax tree is kept on a stack, and what is done of it on another. Taken as a
recursion, the work is this: single children are followed down to the innermost one, and if that is
a branch, its children that are branches are replaced by their syntax trees. What both stacks hold
always makes up the tree that the recursion gives, so an assembly finds its children, none of them
empty, and one tree is left in the end.

## Main definitions

* `Node.Wraps`, `Node.Innermost` — single children, and where they lead
* `Node.ast` — the syntax tree by recursion
* `AstStep.next?` — the next piece of work
* `AstStep.Completes` — the tree that both stacks make up

## Main results

* `Node.ast_eq_of_innermost` — the recursion, told from the innermost tree
* `AstStep.Completes.next` — a piece of work leaves what the stacks make up
* `Node.toAst_spec` — syntax trees are those of the recursion, and no piece of work goes wrong
-/

namespace ShiftReduce

namespace Node

/-! ### Single children -/

/-- A branch wraps its only child, unless that is an empty leaf. -/
inductive Wraps : Node → Node → Prop
  | single {rule : String} {child : Node} : child.isEpsilon = false →
      Wraps (.branch rule [child]) child

/-- Single children lead from a tree down to one that wraps no other. -/
structure Innermost (node inner : Node) : Prop where
  chain : Relation.ReflTransGen Wraps node inner
  stops : ∀ child, ¬ inner.Wraps child

variable {node inner child : Node}

theorem Wraps.isEpsilon_eq (wraps : node.Wraps child) : node.isEpsilon = child.isEpsilon := by
  cases wraps with
  | single filled => rw [filled, isEpsilon]

/-- What a tree has in common with one that it wraps, it has in common with the innermost one. -/
theorem Innermost.eq_of_wraps {α : Type} (feature : Node → α)
    (same : ∀ {node child : Node}, node.Wraps child → feature node = feature child)
    (innermost : node.Innermost inner) : feature node = feature inner := by
  obtain ⟨chain, -⟩ := innermost
  induction chain with
  | refl => rfl
  | tail _ wraps ih => exact ih.trans (same wraps)

/-- Following single children leads to the innermost tree. -/
theorem innermost_collapse (node : Node) : node.Innermost node.collapse := by
  fun_induction collapse node with
  | case1 rule child empty =>
    refine ⟨.refl, fun other wraps => ?_⟩
    cases wraps with
    | single filled => exact Bool.false_ne_true (filled.symm.trans empty)
  | case2 rule child filled ih =>
    exact ⟨.head (.single (Bool.not_eq_true _ ▸ filled)) ih.chain, ih.stops⟩
  | case3 node other =>
    refine ⟨.refl, fun child wraps => ?_⟩
    cases wraps with
    | single => exact other _ _ rfl

/-! ### The recursion -/

mutual

/-- The syntax tree by recursion: that of the tree that is wrapped, if there is one, and else the
rule of a branch above the syntax trees of its children that are branches. -/
def ast : Node → Node
  | .leaf value tokenClass => .leaf value tokenClass
  | .branch rule [child] =>
    if child.isEpsilon then .branch rule (astBranches [child]) else ast child
  | .branch rule children => .branch rule (astBranches children)

/-- The syntax trees of those trees that are branches, in order. -/
def astBranches : List Node → List Node
  | [] => []
  | node :: rest => if node.isBranch then ast node :: astBranches rest else astBranches rest

end

/-- Replaces the children of a tree by what those are taken to that are branches. -/
def overBranches (replace : Node → Node) : Node → Node
  | .leaf value tokenClass => .leaf value tokenClass
  | .branch rule children => .branch rule ((children.filter isBranch).map replace)

theorem astBranches_eq (nodes : List Node) :
    astBranches nodes = (nodes.filter isBranch).map ast := by
  induction nodes with
  | nil => rfl
  | cons first rest ih =>
    rw [astBranches, ih, List.filter_cons]
    split <;> rfl

theorem Wraps.ast_eq (wraps : node.Wraps child) : node.ast = child.ast := by
  cases wraps with
  | single filled => simp [ast, filled]

/-- Where no single child is followed, the children that are branches are replaced. -/
theorem ast_eq_of_stops (stops : ∀ child, ¬ inner.Wraps child) :
    inner.ast = inner.overBranches ast := by
  fun_cases ast inner with
  | case1 => rfl
  | case2 rule child empty => rw [overBranches, astBranches_eq]
  | case3 rule child filled => exact absurd (.single (Bool.not_eq_true _ ▸ filled)) (stops child)
  | case4 rule children => rw [overBranches, astBranches_eq]

/-- The recursion, told at once: single children are followed to the innermost tree, of which the
children that are branches are replaced by their syntax trees. -/
theorem ast_eq_of_innermost (innermost : node.Innermost inner) :
    node.ast = inner.overBranches ast :=
  (innermost.eq_of_wraps ast Wraps.ast_eq).trans (ast_eq_of_stops innermost.stops)

theorem isEpsilon_overBranches (replace : Node → Node) (node : Node) :
    (node.overBranches replace).isEpsilon = node.isEpsilon := by
  cases node <;> rfl

/-- A syntax tree is an empty leaf only if its tree is. -/
theorem isEpsilon_ast (node : Node) : node.ast.isEpsilon = node.isEpsilon := by
  have innermost := node.innermost_collapse
  rw [ast_eq_of_innermost innermost, isEpsilon_overBranches,
    innermost.eq_of_wraps isEpsilon Wraps.isEpsilon_eq]

theorem isEpsilon_ast_of_isBranch (isBranch : node.isBranch = true) :
    node.ast.isEpsilon = false := by
  rw [isEpsilon_ast]
  cases node with
  | leaf => cases isBranch
  | branch => rfl

end Node

/-! ### Work on two stacks -/

namespace AstStep

open Node

/-- The next piece of work, if any is left: the work and the trees that are done behind it. -/
def next? : List AstStep × List Node → Option (List AstStep × List Node)
  | ([], _) => none
  | (.reduce node :: rest, done) =>
    match node.collapse with
    | .leaf value tokenClass => some (rest, .leaf value tokenClass :: done)
    | .branch rule children =>
      let kept := children.filter isBranch
      some (kept.map .reduce ++ .assemble rule kept.length :: rest, done)
  | (.assemble rule arity :: rest, done) =>
    let children := (done.take arity).reverse.filter fun child => !child.isEpsilon
    some (rest, .branch rule children :: done.drop arity)

/-- One piece of work after the other leads from a moment to another one. -/
abbrev Reaches : List AstStep × List Node → List AstStep × List Node → Prop :=
  Relation.ReflTransGen fun before after => next? before = some after

/-- The work on a stack is all done in the end. -/
theorem reaches_runSteps (steps : List AstStep) (done : List Node) :
    Reaches (steps, done) ([], runSteps steps done) := by
  fun_induction runSteps steps done with
  | case1 done => exact .refl
  | case2 done node rest value tokenClass collapsed ih =>
    exact .head (by simp [next?, collapsed]) ih
  | case3 done node rest rule children collapsed kept ih =>
    exact .head (by simp [next?, collapsed, kept]) ih
  | case4 done rule arity rest children ih => exact .head rfl ih

/-- The stacks of a moment make up a tree: what is to be reduced stands for its syntax tree, and an
assembly takes trees that are done, none of them empty, the last one first. In the end, the tree is
all there is. -/
inductive Completes : List AstStep → List Node → Node → Prop
  | finished (tree : Node) : Completes [] [tree] tree
  | reduce {node tree : Node} {rest : List AstStep} {done : List Node} :
      Completes rest (node.ast :: done) tree → Completes (.reduce node :: rest) done tree
  | assemble {rule : String} {children done : List Node} {rest : List AstStep} {tree : Node} :
      (∀ child ∈ children, child.isEpsilon = false) →
      Completes rest (.branch rule children :: done) tree →
      Completes (.assemble rule children.length :: rest) (children.reverse ++ done) tree

namespace Completes

variable {steps rest : List AstStep} {done : List Node} {tree : Node}

/-- Trees to reduce stand for their syntax trees, the first one deepest. -/
theorem reduceAll (nodes : List Node)
    (completes : Completes rest ((nodes.map ast).reverse ++ done) tree) :
    Completes (nodes.map .reduce ++ rest) done tree := by
  induction nodes generalizing done with
  | nil => exact completes
  | cons first others ih =>
    rw [List.map_cons, List.reverse_cons, List.append_assoc] at completes
    exact .reduce (ih completes)

/-- A piece of work leaves what the stacks make up. -/
theorem next {moment : List AstStep × List Node} (completes : Completes steps done tree)
    (works : next? (steps, done) = some moment) : Completes moment.1 moment.2 tree := by
  cases completes with
  | finished => cases works
  | @reduce node _ rest _ later =>
    rw [ast_eq_of_innermost node.innermost_collapse] at later
    rw [next?] at works
    cases collapsed : node.collapse with
    | leaf value tokenClass =>
      rw [collapsed] at works later
      cases works
      exact later
    | branch rule children =>
      rw [collapsed] at works later
      cases works
      apply reduceAll
      rw [← List.length_map (f := ast)]
      refine .assemble ?_ later
      simp only [List.forall_mem_map, List.mem_filter]
      exact fun child kept => isEpsilon_ast_of_isBranch kept.2
  | @assemble rule children done rest _ filled later =>
    cases works
    -- The children lie on top in reverse, and the filter keeps all of them.
    have kept : children.filter (fun child => !child.isEpsilon) = children := by
      simpa using filled
    rw [← List.length_reverse, List.take_left, List.drop_left, List.reverse_reverse, kept]
    exact later

theorem of_reaches {moment later : List AstStep × List Node} (reaches : Reaches moment later)
    (completes : Completes moment.1 moment.2 tree) : Completes later.1 later.2 tree := by
  induction reaches with
  | refl => exact completes
  | tail _ works ih => exact ih.next works

theorem eq_singleton (completes : Completes [] done tree) : done = [tree] := by
  cases completes with
  | finished => rfl

/-- The tree that the stacks make up is what is left when all work is done. -/
theorem runSteps_eq (completes : Completes steps done tree) : runSteps steps done = [tree] :=
  (completes.of_reaches (reaches_runSteps steps done)).eq_singleton

/-- An assembly finds the trees that it takes, and none of them is an empty leaf. -/
theorem arity_le {rule : String} {arity : Nat}
    (completes : Completes (.assemble rule arity :: rest) done tree) :
    arity ≤ done.length ∧ ∀ child ∈ done.take arity, child.isEpsilon = false := by
  cases completes with
  | @assemble _ children done _ _ filled _ =>
    rw [← List.length_reverse, List.take_left]
    exact ⟨by simp, by simpa using filled⟩

end Completes

end AstStep

namespace Node

theorem completes_reduce (node : Node) : AstStep.Completes [.reduce node] [] node.ast :=
  .reduce (.finished _)

theorem toAst_eq_ast (node : Node) : node.toAst = node.ast := by
  rw [toAst, node.completes_reduce.runSteps_eq]

/-- The syntax tree of a tree is that of the recursion, told at once or step by step. From every
moment of the work, this tree alone is left in the end; an assembly finds as many trees as it takes,
none of them an empty leaf. -/
theorem toAst_spec (node : Node) :
    node.toAst = node.ast ∧
    (∃ inner, node.Innermost inner ∧ node.ast = inner.overBranches ast) ∧
    ∀ steps done, AstStep.Reaches ([.reduce node], []) (steps, done) →
      runSteps steps done = [node.ast] ∧
      AstStep.Reaches (steps, done) ([], [node.ast]) ∧
      ∀ rule arity rest, steps = .assemble rule arity :: rest →
        arity ≤ done.length ∧ ∀ child ∈ done.take arity, child.isEpsilon = false := by
  have innermost := node.innermost_collapse
  refine ⟨node.toAst_eq_ast, ⟨_, innermost, ast_eq_of_innermost innermost⟩, ?_⟩
  intro steps done reaches
  have completes := node.completes_reduce.of_reaches reaches
  refine ⟨completes.runSteps_eq, ?_, ?_⟩
  · rw [← completes.runSteps_eq]
    exact AstStep.reaches_runSteps steps done
  · rintro rule arity rest rfl
    exact completes.arity_le

/-- A chain becomes its token, punctuation goes, and a branch without text stays. -/
example : toAst (.branch "sum" [.branch "term" [.branch "factor" [.leaf "1" (some "int")]],
    .leaf "+" none, .branch "rest" [.epsilon]]) =
      .branch "sum" [.leaf "1" (some "int"), .branch "rest" []] := by cbv

end Node

end ShiftReduce
