import Mathlib.Data.List.Forall2
import ShiftReduce.Proofs.Parser.Run
import ShiftReduce.Proofs.Tree.Parts

/-!
# The reductions of a parse

A run notes every reduction that it does. Each of them puts one branch into the tree, over branches
that are all there by then, so the reductions are the branches of the tree, the children of each in
front of it. Undone from the last one on, they replace rules by alternatives, always the last rule
in the row that is no terminal.

## Main definitions

* `Grammar.Fits` — what stands for a symbol below a branch
* `Grammar.Builds` — parse trees with the reductions that build them
* `Grammar.Unfolds` — reductions that are undone, each in the last place

## Main results

* `Grammar.Builds.branches` — reductions are branches
* `Grammar.Builds.exists_unfolds` — reductions are a derivation of the leaves
* `Grammar.WellFormed.exists_builds_of_reaches` — what a run keeps in step
* `Grammar.Loaded.reductions_of_yields` — the reductions of a tree that a run ends with
-/

namespace ShiftReduce

namespace Grammar

/-! ### Children that stand for symbols -/

/-- What stands for a symbol below a branch: a branch of a rule with its name, a leaf with the text
of a literal, a leaf of a token with the name of its class, and a leaf without text for the empty
literal and the end of the input. -/
inductive Fits (grammar : Grammar) : Symbol → Node → Prop
  | epsilon : Fits grammar .epsilon .epsilon
  | literal {index : TerminalIndex} {tokenClass : Option String} : grammar.terminal index ≠ "" →
      Fits grammar (.terminal index) (.leaf (grammar.terminal index) tokenClass)
  | token {rule : RuleIndex} {kind : ClassIndex} {value name : String} :
      grammar.classRule? kind = some rule → kind ≠ endClass → grammar.className? kind = some name →
      Fits grammar (.rule rule) (.leaf value (some name))
  | inputEnd : Fits grammar (.rule grammar.endRule) .epsilon
  | branch {rule : RuleIndex} {children : List Node} : grammar.isTerminal (.rule rule) = false →
      Fits grammar (.rule rule) (.branch (grammar.ruleName rule) children)

variable {grammar : Grammar}

/-- A rule with alternatives is no terminal. -/
theorem WellFormed.isTerminal_eq_false (wellFormed : grammar.WellFormed) {rule : RuleIndex}
    {symbols : List Symbol} (listed : symbols ∈ grammar.alternatives rule) :
    grammar.isTerminal (.rule rule) = false := by
  by_contra consumes
  rw [Bool.not_eq_false] at consumes
  rw [wellFormed.alternatives_eq_nil_of_isTerminal consumes] at listed
  cases listed

theorem Parses.fits {symbol : Symbol} {tokens : List Token} {node : Node}
    (parses : grammar.Parses symbol tokens node) (wellFormed : grammar.WellFormed) :
    grammar.Fits symbol node := by
  cases parses with
  | epsilon => exact .epsilon
  | literal text _ _ => exact .literal text
  | token known named notEnd => exact .token known (beq_eq_false_iff_ne.mp notEnd) named
  | inputEnd => exact .inputEnd
  | branch listed _ => exact .branch (wellFormed.isTerminal_eq_false listed)

/-- The parse trees of terminals are leaves. -/
theorem Parses.fringe_eq {symbol : Symbol} {tokens : List Token} {node : Node}
    (parses : grammar.Parses symbol tokens node) (wellFormed : grammar.WellFormed)
    (consumes : grammar.isTerminal symbol = true) : node.branches = [] ∧ node.fringe = [node] := by
  cases parses with
  | branch listed _ =>
    rw [wellFormed.isTerminal_eq_false listed] at consumes
    cases consumes
  | _ => exact ⟨rfl, rfl⟩

/-! ### Reductions that build trees -/

mutual

/-- The parse trees of a symbol over some tokens, with the reductions that build them, in the order
in which they are done. -/
inductive Builds (grammar : Grammar) : Symbol → List Token → List Reduction → Node → Prop
  | leaf {symbol : Symbol} {tokens : List Token} {node : Node} :
      grammar.isTerminal symbol = true → grammar.Parses symbol tokens node →
      Builds grammar symbol tokens [] node
  | branch {rule : RuleIndex} {alternative : Nat} {tokens : List Token}
      {reductions : List Reduction} {children : List Node} :
      alternative < (grammar.alternatives rule).length →
      BuildsAll grammar (grammar.alternative rule alternative) tokens reductions children →
      Builds grammar (.rule rule) tokens (reductions ++ [⟨rule, alternative⟩])
        (.branch (grammar.ruleName rule) children)

/-- The parse trees of a row of symbols, with the reductions that build them one after the other. -/
inductive BuildsAll (grammar : Grammar) :
    List Symbol → List Token → List Reduction → List Node → Prop
  | nil : BuildsAll grammar [] [] [] []
  | cons {symbol : Symbol} {symbols : List Symbol} {front back : List Token}
      {earlier later : List Reduction} {node : Node} {nodes : List Node} :
      Builds grammar symbol front earlier node → BuildsAll grammar symbols back later nodes →
      BuildsAll grammar (symbol :: symbols) (front ++ back) (earlier ++ later) (node :: nodes)

end

theorem BuildsAll.append {left right : List Symbol} {front back : List Token}
    {earlier later : List Reduction} {nodes others : List Node}
    (first : grammar.BuildsAll left front earlier nodes)
    (second : grammar.BuildsAll right back later others) :
    grammar.BuildsAll (left ++ right) (front ++ back) (earlier ++ later) (nodes ++ others) := by
  induction left generalizing front earlier nodes with
  | nil =>
    cases first
    exact second
  | cons symbol left ih =>
    cases first with
    | cons builds others =>
      rw [List.append_assoc, List.append_assoc]
      exact .cons builds (ih others)

/-- What builds the trees of two rows builds those of the one and then those of the other. -/
theorem BuildsAll.exists_append {left right : List Symbol} {tokens : List Token}
    {reductions : List Reduction} {nodes : List Node}
    (all : grammar.BuildsAll (left ++ right) tokens reductions nodes) :
    ∃ front back earlier later leftNodes rightNodes, tokens = front ++ back ∧
      reductions = earlier ++ later ∧ nodes = leftNodes ++ rightNodes ∧
      leftNodes.length = left.length ∧ grammar.BuildsAll left front earlier leftNodes ∧
      grammar.BuildsAll right back later rightNodes := by
  induction left generalizing tokens reductions nodes with
  | nil => exact ⟨[], tokens, [], reductions, [], nodes, rfl, rfl, rfl, rfl, .nil, all⟩
  | cons symbol left ih =>
    cases all with
    | cons builds others =>
      obtain ⟨_, _, _, _, _, _, rfl, rfl, rfl, length, inLeft, inRight⟩ := ih others
      exact ⟨_, _, _, _, _, _, (List.append_assoc ..).symm, (List.append_assoc ..).symm, rfl,
        congrArg (· + 1) length, .cons builds inLeft, inRight⟩

theorem buildsAll_singleton {symbol : Symbol} {tokens : List Token} {reductions : List Reduction}
    {node : Node} (builds : grammar.Builds symbol tokens reductions node) :
    grammar.BuildsAll [symbol] tokens reductions [node] := by
  have all := BuildsAll.cons builds .nil
  rwa [List.append_nil, List.append_nil] at all

theorem BuildsAll.builds {symbol : Symbol} {tokens : List Token} {reductions : List Reduction}
    {node : Node} (all : grammar.BuildsAll [symbol] tokens reductions [node]) :
    grammar.Builds symbol tokens reductions node := by
  cases all with
  | cons builds others =>
    cases others
    rwa [List.append_nil, List.append_nil]

/-! ### Reductions and branches -/

/-- A reduction put a branch into a tree: it has the name of the rule, and children for the symbols
of the alternative. -/
def Puts (grammar : Grammar) (reduction : Reduction) (branch : String × List Node) : Prop :=
  branch.1 = grammar.ruleName reduction.rule ∧
    reduction.alternative < (grammar.alternatives reduction.rule).length ∧
    List.Forall₂ grammar.Fits (grammar.alternative reduction.rule reduction.alternative) branch.2

theorem alternative_mem_alternatives {rule : RuleIndex} {alternative : Nat}
    (inside : alternative < (grammar.alternatives rule).length) :
    grammar.alternative rule alternative ∈ grammar.alternatives rule := by
  rw [Grammar.alternative, List.getElem?_eq_getElem inside]
  exact List.getElem_mem inside

theorem Builds.fits {symbol : Symbol} {tokens : List Token} {reductions : List Reduction}
    {node : Node} (builds : grammar.Builds symbol tokens reductions node)
    (wellFormed : grammar.WellFormed) : grammar.Fits symbol node := by
  cases builds with
  | leaf _ parses => exact parses.fits wellFormed
  | branch inside _ =>
    exact .branch (wellFormed.isTerminal_eq_false (alternative_mem_alternatives inside))

theorem BuildsAll.fits {symbols : List Symbol} {tokens : List Token} {reductions : List Reduction}
    {nodes : List Node} (all : grammar.BuildsAll symbols tokens reductions nodes)
    (wellFormed : grammar.WellFormed) : List.Forall₂ grammar.Fits symbols nodes := by
  induction symbols generalizing tokens reductions nodes with
  | nil =>
    cases all
    exact .nil
  | cons symbol symbols ih =>
    cases all with
    | cons builds others => exact .cons (builds.fits wellFormed) (ih others)

mutual

/-- The reductions that build a tree are its branches. -/
theorem Builds.branches {symbol : Symbol} {tokens : List Token} {reductions : List Reduction}
    {node : Node} (builds : grammar.Builds symbol tokens reductions node)
    (wellFormed : grammar.WellFormed) :
    List.Forall₂ grammar.Puts reductions node.branches := by
  cases builds with
  | leaf consumes parses =>
    rw [(parses.fringe_eq wellFormed consumes).1]
    exact .nil
  | branch inside all =>
    rw [Node.branches]
    exact List.rel_append (all.branches wellFormed)
      (.cons ⟨rfl, inside, all.fits wellFormed⟩ .nil)

theorem BuildsAll.branches {symbols : List Symbol} {tokens : List Token}
    {reductions : List Reduction} {nodes : List Node}
    (all : grammar.BuildsAll symbols tokens reductions nodes) (wellFormed : grammar.WellFormed) :
    List.Forall₂ grammar.Puts reductions (Node.branchesAll nodes) := by
  cases all with
  | nil => exact .nil
  | cons builds others =>
    rw [Node.branchesAll]
    exact List.rel_append (builds.branches wellFormed) (others.branches wellFormed)

end

/-! ### Reductions and derivations -/

/-- Reductions are undone one after the other: each replaces its rule, the last symbol that is no
terminal, by its alternative. -/
inductive Unfolds (grammar : Grammar) : List Reduction → List Symbol → List Symbol → Prop
  | nil {symbols : List Symbol} : Unfolds grammar [] symbols symbols
  | cons {rule : RuleIndex} {alternative : Nat} {rest : List Reduction}
      {left right target : List Symbol} : grammar.isTerminal (.rule rule) = false →
      (∀ symbol ∈ right, grammar.isTerminal symbol = true) →
      alternative < (grammar.alternatives rule).length →
      Unfolds grammar rest (left ++ grammar.alternative rule alternative ++ right) target →
      Unfolds grammar (⟨rule, alternative⟩ :: rest) (left ++ .rule rule :: right) target

theorem Unfolds.append {first second : List Reduction} {source middle target : List Symbol}
    (earlier : grammar.Unfolds first source middle)
    (later : grammar.Unfolds second middle target) :
    grammar.Unfolds (first ++ second) source target := by
  induction earlier with
  | nil => exact later
  | cons derives last inside _ ih => exact .cons derives last inside (ih later)

/-- Reductions are undone in the same way in front of terminals and behind anything. -/
theorem Unfolds.context {reductions : List Reduction} {source target : List Symbol}
    (unfolds : grammar.Unfolds reductions source target) (left right : List Symbol)
    (consumes : ∀ symbol ∈ right, grammar.isTerminal symbol = true) :
    grammar.Unfolds reductions (left ++ source ++ right) (left ++ target ++ right) := by
  induction unfolds with
  | nil => exact .nil
  | @cons rule alternative _ before behind _ derives last inside _ ih =>
    have all : ∀ symbol ∈ behind ++ right, grammar.isTerminal symbol = true := by
      intro symbol present
      rcases List.mem_append.mp present with within | outside
      · exact last symbol within
      · exact consumes symbol outside
    have step : grammar.Unfolds _ ((left ++ before) ++ .rule rule :: (behind ++ right)) _ :=
      .cons derives all inside (by simpa using ih)
    simpa using step

mutual

/-- The reductions that build a tree derive its leaves when they are undone. -/
theorem Builds.exists_unfolds {symbol : Symbol} {tokens : List Token} {reductions : List Reduction}
    {node : Node} (builds : grammar.Builds symbol tokens reductions node)
    (wellFormed : grammar.WellFormed) :
    ∃ terminals, (∀ terminal ∈ terminals, grammar.isTerminal terminal = true) ∧
      grammar.Unfolds reductions.reverse [symbol] terminals ∧
      grammar.ParsesAll terminals tokens node.fringe := by
  cases builds with
  | leaf consumes parses =>
    rw [(parses.fringe_eq wellFormed consumes).2]
    exact ⟨[symbol], by simpa using consumes, .nil, parsesAll_singleton parses⟩
  | branch inside all =>
    obtain ⟨terminals, consume, unfolds, leaves⟩ := all.exists_unfolds wellFormed
    have derives := wellFormed.isTerminal_eq_false (alternative_mem_alternatives inside)
    have step : grammar.Unfolds _ ([] ++ .rule _ :: []) terminals :=
      .cons derives (by simp) inside (by simpa using unfolds)
    refine ⟨terminals, consume, ?_, leaves⟩
    rwa [List.reverse_append]

theorem BuildsAll.exists_unfolds {symbols : List Symbol} {tokens : List Token}
    {reductions : List Reduction} {nodes : List Node}
    (all : grammar.BuildsAll symbols tokens reductions nodes) (wellFormed : grammar.WellFormed) :
    ∃ terminals, (∀ terminal ∈ terminals, grammar.isTerminal terminal = true) ∧
      grammar.Unfolds reductions.reverse symbols terminals ∧
      grammar.ParsesAll terminals tokens (Node.fringeAll nodes) := by
  cases all with
  | nil => exact ⟨[], by simp, .nil, .nil⟩
  | @cons symbol symbols _ _ _ _ _ _ builds others =>
    obtain ⟨front, consume, unfolds, leaves⟩ := builds.exists_unfolds wellFormed
    obtain ⟨back, behind, unfoldsOthers, otherLeaves⟩ := others.exists_unfolds wellFormed
    -- The rest of the row was built last, so it is undone first.
    have first := unfoldsOthers.context [symbol] [] (by simp)
    have second := unfolds.context [] back behind
    refine ⟨front ++ back, ?_, ?_, leaves.append otherLeaves⟩
    · intro terminal present
      rcases List.mem_append.mp present with within | outside
      · exact consume terminal within
      · exact behind terminal outside
    · rw [List.reverse_append]
      simp only [List.append_nil, List.nil_append, List.singleton_append] at first second
      exact first.append second

end

/-! ### Runs -/

namespace WellFormed

variable (wellFormed : grammar.WellFormed) {table : Table} (sound : table.Sound grammar)
  {tokens : List Token} {config next : Config} {frames : List Frame}
include wellFormed sound

/-- A step keeps the reductions that are noted in step with the trees on the stack. -/
theorem exists_builds_of_step (represents : config.Represents grammar tokens frames)
    (all : grammar.BuildsAll (frames.map Frame.symbol).reverse config.before.reverse
      config.reductions.reverse (frames.map Frame.node).reverse)
    (step : Engine.step ⟨grammar, table⟩ config = .running next) :
    ∃ others, next.Represents grammar tokens others ∧
      grammar.BuildsAll (others.map Frame.symbol).reverse next.before.reverse
        next.reductions.reverse (others.map Frame.node).reverse := by
  rcases chosen : Engine.choose? ⟨grammar, table⟩ config with
    _ | ⟨target | ⟨rule, alternative⟩ | _, width⟩
  · rw [Engine.step, chosen] at step
    cases step
  · obtain ⟨frame, other, -, -, same, shifted, -, -, consumes, reductions⟩ :=
      represents.step_shift wellFormed sound chosen
    cases same.symm.trans step
    have leaf := Builds.leaf consumes (shifted.parses frame List.mem_cons_self)
    refine ⟨_, shifted, ?_⟩
    rw [shifted.before, reductions]
    rw [represents.before] at all
    simpa using all.append (buildsAll_singleton leaf)
  · obtain ⟨popped, below, target, other, rfl, length, symbols, starts, -, -, same, joined, -,
      reductions⟩ := represents.step_reduce wellFormed sound chosen
    cases same.symm.trans step
    have listed := (mem_items.mp (wellFormed.mem_items_of_mem_set starts)).1
    simp only [List.map_append, List.reverse_append, symbols] at all
    obtain ⟨front, back, earlier, later, leftNodes, rightNodes, sameTokens, sameReductions,
      sameNodes, size, inBelow, inPopped⟩ := all.exists_append
    obtain ⟨rfl, rfl⟩ := List.append_inj sameNodes (by simp [size])
    have branch := Builds.branch listed inPopped
    refine ⟨_, joined, ?_⟩
    have taken : next.before.reverse = config.before.reverse := by
      rw [joined.before, represents.before]
      simp [Frame.joined]
    rw [taken, reductions, List.reverse_cons, sameTokens, sameReductions, List.append_assoc]
    simpa [Frame.joined] using inBelow.append (buildsAll_singleton branch)
  · obtain ⟨_, -, -, same, -⟩ := represents.step_accept wellFormed sound chosen
    cases same.symm.trans step

/-- In every moment of a run, the reductions that are noted build the trees on the stack. -/
theorem exists_builds_of_reaches
    (reached : Engine.Reaches ⟨grammar, table⟩ (.start tokens) config) :
    ∃ frames, config.Represents grammar tokens frames ∧
      grammar.BuildsAll (frames.map Frame.symbol).reverse config.before.reverse
        config.reductions.reverse (frames.map Frame.node).reverse := by
  induction reached with
  | refl => exact ⟨[], .start grammar tokens, .nil⟩
  | tail _ step ih =>
    obtain ⟨frames, represents, all⟩ := ih
    exact wellFormed.exists_builds_of_step sound represents all step

/-- The reductions of a run build the tree that it ends with. -/
theorem builds_of_yields {derivation : Derivation}
    (yields : Engine.Yields ⟨grammar, table⟩ tokens (.ok derivation)) :
    grammar.Builds (.rule 1) (tokens.takeWhile fun token => !token.isEnd) derivation.reductions
      derivation.tree := by
  obtain ⟨last, reached, finished⟩ := Engine.exists_runFor_iff.mp yields
  obtain ⟨frames, represents, all⟩ := wellFormed.exists_builds_of_reaches sound reached
  rcases represents.step_cases wellFormed sound with
    failed | ⟨_, _, running, -⟩ | ⟨frame, rfl, isFirst, accepted, taken⟩
  · cases failed.symm.trans finished
  · cases running.symm.trans finished
  · cases accepted.symm.trans finished
    rw [represents.before] at all
    rw [taken, ← isFirst]
    have single : grammar.BuildsAll [frame.symbol] frame.tokens last.reductions.reverse
        [frame.node] := by
      simpa using all
    exact single.builds

end WellFormed

end Grammar

/-- The reductions of a run that ends with a tree are the branches of the tree, children first. From
the last one on they are a derivation of its leaves from the first declared rule, which expands the
last rule of the row every time. -/
theorem Grammar.Loaded.reductions_of_yields {grammar : Grammar} (loaded : grammar.Loaded)
    {table : Table} (built : grammar.table = .ok table) {tokens : List Token}
    {derivation : Derivation} (yields : Engine.Yields ⟨grammar, table⟩ tokens (.ok derivation)) :
    List.Forall₂ grammar.Puts derivation.reductions derivation.tree.branches ∧
      ∃ terminals, (∀ terminal ∈ terminals, grammar.isTerminal terminal = true) ∧
        grammar.Unfolds derivation.reductions.reverse [.rule 1] terminals ∧
        grammar.ParsesAll terminals (tokens.takeWhile fun token => !token.isEnd)
          derivation.tree.fringe := by
  have wellFormed := loaded.wellFormed
  have builds := wellFormed.builds_of_yields (wellFormed.sound_table built) yields
  exact ⟨builds.branches wellFormed, builds.exists_unfolds wellFormed⟩

/-- Two letters: the empty stem is built first, then the stem around it, and then the word. -/
theorem Grammar.reductions_sample :
    List.Forall₂ sample.Puts [⟨2, 1⟩, ⟨2, 0⟩, ⟨1, 0⟩]
      [("stem", [.epsilon]), ("stem", [.leaf "a" (some "EOL"), .branch "stem" [.epsilon]]),
        ("word", [.branch "stem" [.leaf "a" (some "EOL"), .branch "stem" [.epsilon]],
          .leaf "b" (some "EOL")])] ∧
    ∃ terminals, sample.Unfolds [⟨1, 0⟩, ⟨2, 0⟩, ⟨2, 1⟩] [.rule 1] terminals ∧
      sample.ParsesAll terminals [⟨"a", lineBreakClass, 0, 1⟩, ⟨"b", lineBreakClass, 1, 2⟩]
        [.leaf "a" (some "EOL"), .epsilon, .leaf "b" (some "EOL")] := by
  have yields : Engine.Yields ⟨sample, sampleTable⟩
      [⟨"a", lineBreakClass, 0, 1⟩, ⟨"b", lineBreakClass, 1, 2⟩]
      (.ok ⟨.branch "word" [.branch "stem" [.leaf "a" (some "EOL"), .branch "stem" [.epsilon]],
        .leaf "b" (some "EOL")], [⟨2, 1⟩, ⟨2, 0⟩, ⟨1, 0⟩]⟩) := ⟨9, rfl⟩
  obtain ⟨puts, terminals, -, unfolds, leaves⟩ :=
    sample_loaded.reductions_of_yields table_sample yields
  exact ⟨puts, terminals, unfolds, leaves⟩

end ShiftReduce
