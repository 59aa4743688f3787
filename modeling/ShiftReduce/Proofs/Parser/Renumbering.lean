import ShiftReduce.Proofs.Parser.Run
import ShiftReduce.Proofs.Table.Renumbering

/-!
# Parses under other numbers

Which of the symbols that the next tokens match is preferred does not depend on numbers. So a parse
under other numbers does the same in each step, with the same trees on its stack, and ends with the
same tree or failure after as many steps.

## Main definitions

* `Config.Agrees` — moments with the same trees and the same tokens left

## Main results

* `Grammar.Renumbered.exists_choose?` — what is chosen under other numbers
* `Config.Agrees.step` — a step under other numbers
* `Grammar.Renumbered.runFor_eq` — a bounded parse under other numbers
-/

namespace ShiftReduce

/-! ### What is chosen -/

namespace Grammar.Renumbered

section Takes

variable {grammar other : Grammar} {numbers : Renumbering}
  (renumbered : grammar.Renumbered numbers other)
include renumbered

/-- A literal that is not the empty one is not the empty one under its new number. -/
theorem exists_terminal_eq_succ (index : TerminalIndex) :
    ∃ place, numbers.terminal (index + 1) = place + 1 := by
  refine Nat.exists_eq_succ_of_ne_zero fun empty => Nat.succ_ne_zero index ?_
  exact numbers.terminal.injective (empty.trans renumbered.epsilon.symm)

/-- A symbol is preferred as much under its new number. -/
theorem rank (symbol : Symbol) : other.rank (numbers.symbol symbol) = grammar.rank symbol := by
  match symbol with
  | .rule rule => rfl
  | .terminal 0 =>
    have same : numbers.symbol (.terminal 0) = .terminal 0 := renumbered.symbol_epsilon
    rw [same]
    rfl
  | .terminal (index + 1) =>
    obtain ⟨place, same⟩ := renumbered.exists_terminal_eq_succ index
    rw [Renumbering.symbol, same, Grammar.rank, Grammar.rank, ← same, renumbered.terminal]

/-- What the next tokens match, they match under its new number. -/
theorem takes (wellFormed : grammar.WellFormed) (otherFormed : other.WellFormed)
    {rest : List Token} {symbol : Symbol} {width : Nat}
    (takes : Takes grammar rest symbol width) :
    Takes other rest (numbers.symbol symbol) width := by
  cases takes with
  | @literal _ index _ found =>
    obtain ⟨place, same⟩ := renumbered.exists_terminal_eq_succ index
    rw [Renumbering.symbol, same]
    refine .literal ?_
    rw [← same, renumbered.terminal]
    exact found
  | token known notEnd =>
    exact .token (renumbered.classRule?_eq_some wellFormed otherFormed known) notEnd
  | inputEnd ends =>
    rw [numbers.symbol_rule, renumbered.endRule wellFormed otherFormed]
    exact .inputEnd ends
  | epsilon =>
    rw [renumbered.symbol_epsilon]
    exact .epsilon

/-- The leaf of tokens is the same. -/
theorem leaf_eq (table otherTable : Table) (tokens : List Token) :
    Engine.leaf ⟨other, otherTable⟩ tokens = Engine.leaf ⟨grammar, table⟩ tokens := by
  match tokens with
  | [] => rfl
  | [token] => exact congrArg (Node.leaf token.value) (renumbered.className? token.kind)
  | _ :: _ :: _ => rfl

end Takes

variable {grammar other : Grammar} {numbers : Renumbering}
  (renumbered : grammar.Renumbered numbers other) (wellFormed : grammar.WellFormed)
  (otherFormed : other.WellFormed) {table otherTable : Table} (built : grammar.table = .ok table)
  (otherBuilt : other.table = .ok otherTable) {set target : SetIndex}
  (meets : grammar.Meets numbers other set target) {rest : List Token}
include renumbered wellFormed otherFormed built otherBuilt meets

/-- What is preferred in a state is preferred in the one that it meets. -/
theorem prefers {symbol : Symbol} {width : Nat}
    (prefers : table.Prefers grammar set rest symbol width) :
    otherTable.Prefers other target rest (numbers.symbol symbol) width where
  takes := renumbered.takes wellFormed otherFormed prefers.takes
  first := by
    intro next action taken present takes
    obtain ⟨last, back, -⟩ := renumbered.symm.exists_action? otherFormed wellFormed meets.symm
      otherBuilt built present
    rcases prefers.first back (renumbered.symm.takes otherFormed wellFormed takes) with same | less
    · left
      rw [← same, numbers.symbol_symm]
    · right
      rwa [renumbered.rank, ← renumbered.symm.rank]

/-- What is chosen in a state is chosen in the one that it meets. -/
theorem exists_choose? {choice : Choice}
    (chosen : table.choose? grammar set rest = some choice) :
    ∃ action, otherTable.choose? other target rest = some ⟨action, choice.width⟩ ∧
      choice.action.Agrees grammar numbers other set target action := by
  obtain ⟨symbol, present, prefers⟩ :=
    ((wellFormed.sound_table built).choose?_eq_some_iff wellFormed).mp chosen
  obtain ⟨action, otherPresent, agrees⟩ :=
    renumbered.exists_action? wellFormed otherFormed meets built otherBuilt present
  exact ⟨action, ((otherFormed.sound_table otherBuilt).choose?_eq_some_iff otherFormed).mpr
    ⟨_, otherPresent, renumbered.prefers wellFormed otherFormed built otherBuilt meets prefers⟩,
    agrees⟩

/-- Where nothing is chosen, nothing is in the state that it meets. -/
theorem choose?_eq_none (unchosen : table.choose? grammar set rest = none) :
    otherTable.choose? other target rest = none := by
  rw [Option.eq_none_iff_forall_not_mem]
  intro choice chosen
  obtain ⟨action, back, -⟩ :=
    renumbered.symm.exists_choose? otherFormed wellFormed otherBuilt built meets.symm chosen
  cases unchosen.symm.trans back

end Grammar.Renumbered

/-! ### Steps -/

/-- Two moments of parses of the same tokens have frames of the same symbols, each in the numbers of
its own grammar, with the same trees, and the same tokens are left. -/
structure Config.Agrees (grammar : Grammar) (numbers : Renumbering) (other : Grammar)
    (tokens : List Token) (config last : Config) (frames others : List Frame) : Prop where
  represents : config.Represents grammar tokens frames
  otherRepresents : last.Represents other tokens others
  symbols : others.map Frame.symbol = (frames.map Frame.symbol).map numbers.symbol
  nodes : last.nodes = config.nodes
  rest : last.rest = config.rest

namespace Config.Agrees

variable {grammar other : Grammar} {numbers : Renumbering} {tokens : List Token}
  {config last : Config} {frames others : List Frame}

theorem start (grammar : Grammar) (numbers : Renumbering) (other : Grammar) (tokens : List Token) :
    Agrees grammar numbers other tokens (.start tokens) (.start tokens) [] [] where
  represents := .start grammar tokens
  otherRepresents := .start other tokens
  symbols := rfl
  nodes := rfl
  rest := rfl

theorem before (agrees : Agrees grammar numbers other tokens config last frames others) :
    last.before = config.before := by
  have split := agrees.otherRepresents.split
  rw [agrees.rest, ← agrees.represents.split] at split
  exact List.reverse_injective (List.append_cancel_right split)

theorem unexpected_eq (agrees : Agrees grammar numbers other tokens config last frames others) :
    Engine.unexpected last = Engine.unexpected config := by
  rw [Engine.unexpected, agrees.rest, agrees.before, Engine.unexpected]

/-- The states on top meet. -/
theorem meets (agrees : Agrees grammar numbers other tokens config last frames others) :
    grammar.Meets numbers other (topState frames) (topState others) := by
  have reached := agrees.otherRepresents.linked.reach?
  rw [agrees.symbols, ← List.map_reverse] at reached
  exact ⟨_, agrees.represents.linked.reach?, reached⟩

variable (agrees : Agrees grammar numbers other tokens config last frames others)
  (renumbered : grammar.Renumbered numbers other) (wellFormed : grammar.WellFormed)
  (otherFormed : other.WellFormed) {table otherTable : Table}
include agrees renumbered wellFormed otherFormed

/-- Shifts lead to moments that agree. -/
theorem step_shift (sound : table.Sound grammar) (otherSound : otherTable.Sound other)
    {symbol : Symbol} {target final : SetIndex} {width : Nat}
    (edge : grammar.automaton.target? (topState frames) symbol = some target)
    (otherEdge : other.automaton.target? (topState others) (numbers.symbol symbol) = some final)
    (chosen : Engine.choose? ⟨grammar, table⟩ config = some ⟨.shift target, width⟩)
    (otherChosen : Engine.choose? ⟨other, otherTable⟩ last = some ⟨.shift final, width⟩) :
    ∃ next onward frames others, Engine.step ⟨grammar, table⟩ config = .running next ∧
      Engine.step ⟨other, otherTable⟩ last = .running onward ∧
      Agrees grammar numbers other tokens next onward frames others := by
  obtain ⟨frame, next, -, read, step, represents, -⟩ :=
    agrees.represents.step_shift wellFormed sound chosen
  obtain ⟨otherFrame, onward, -, otherRead, otherStep, otherRepresents, -⟩ :=
    agrees.otherRepresents.step_shift otherFormed otherSound otherChosen
  refine ⟨next, onward, _, _, step, otherStep, represents, otherRepresents, ?_, ?_, ?_⟩
  · have same := wellFormed.eq_of_target? edge read
    have otherSame := otherFormed.eq_of_target? otherEdge otherRead
    rw [List.map_cons, List.map_cons, List.map_cons, agrees.symbols, ← same, ← otherSame]
  all_goals
    rw [Engine.step, chosen] at step
    rw [Engine.step, otherChosen] at otherStep
    cases step
    cases otherStep
  · rw [Engine.shift, Engine.shift, agrees.rest, agrees.nodes, renumbered.leaf_eq table otherTable]
  · rw [Engine.shift, Engine.shift, agrees.rest]

/-- Reductions lead to moments that agree. -/
theorem step_reduce (sound : table.Sound grammar) (otherSound : otherTable.Sound other)
    {rule : RuleIndex} {alternative place width : Nat}
    (same : other.alternative (numbers.rule rule) place =
      (grammar.alternative rule alternative).map numbers.symbol)
    (chosen : Engine.choose? ⟨grammar, table⟩ config = some ⟨.reduce rule alternative, width⟩)
    (otherChosen : Engine.choose? ⟨other, otherTable⟩ last =
      some ⟨.reduce (numbers.rule rule) place, width⟩) :
    ∃ next onward frames others, Engine.step ⟨grammar, table⟩ config = .running next ∧
      Engine.step ⟨other, otherTable⟩ last = .running onward ∧
      Agrees grammar numbers other tokens next onward frames others := by
  obtain ⟨popped, below, target, next, rfl, length, -, -, -, -, step, represents, rest, -⟩ :=
    agrees.represents.step_reduce wellFormed sound chosen
  obtain ⟨otherPopped, otherBelow, final, onward, rfl, otherLength, -, -, -, -, otherStep,
    otherRepresents, otherRest, -⟩ :=
    agrees.otherRepresents.step_reduce otherFormed otherSound otherChosen
  rw [same, List.length_map, ← length] at otherLength
  -- As many frames are taken off both stacks, so they agree above and below.
  have symbols := agrees.symbols
  have nodes := agrees.nodes
  rw [agrees.represents.nodes, agrees.otherRepresents.nodes] at nodes
  simp only [List.map_append] at symbols nodes
  obtain ⟨-, belowSymbols⟩ := List.append_inj symbols (by simp [otherLength])
  obtain ⟨poppedNodes, belowNodes⟩ := List.append_inj nodes (by simp [otherLength])
  refine ⟨next, onward, _, _, step, otherStep, represents, otherRepresents, ?_, ?_, ?_⟩
  · rw [List.map_cons, List.map_cons, List.map_cons, belowSymbols]
    rfl
  · rw [represents.nodes, otherRepresents.nodes, List.map_cons, List.map_cons, belowNodes,
      Frame.joined, Frame.joined, poppedNodes, renumbered.ruleName]
  · rw [rest, otherRest, agrees.rest]

/-- The same is done in moments that agree: both parses go on to such moments, or both end with the
same tree or failure. -/
theorem step (built : grammar.table = .ok table) (otherBuilt : other.table = .ok otherTable) :
    (∃ next onward frames others, Engine.step ⟨grammar, table⟩ config = .running next ∧
      Engine.step ⟨other, otherTable⟩ last = .running onward ∧
      Agrees grammar numbers other tokens next onward frames others) ∨
    ∃ result final, Engine.step ⟨grammar, table⟩ config = .finished result ∧
      Engine.step ⟨other, otherTable⟩ last = .finished final ∧
      final.map Derivation.tree = result.map Derivation.tree := by
  have sound := wellFormed.sound_table built
  have otherSound := otherFormed.sound_table otherBuilt
  have top : Engine.choose? ⟨grammar, table⟩ config =
      table.choose? grammar (topState frames) config.rest := by
    rw [Engine.choose?, agrees.represents.top_eq]
  have otherTop : Engine.choose? ⟨other, otherTable⟩ last =
      otherTable.choose? other (topState others) config.rest := by
    rw [Engine.choose?, agrees.otherRepresents.top_eq, agrees.rest]
  rcases chosen : Engine.choose? ⟨grammar, table⟩ config with _ | ⟨action, width⟩
  · have otherChosen := otherTop.trans (renumbered.choose?_eq_none wellFormed otherFormed built
      otherBuilt agrees.meets (top.symm.trans chosen))
    refine .inr ⟨.error (Engine.unexpected config), .error (Engine.unexpected last), ?_, ?_, ?_⟩
    · rw [Engine.step, chosen]
    · rw [Engine.step, otherChosen]
    · rw [agrees.unexpected_eq]
  · obtain ⟨last, found, same⟩ := renumbered.exists_choose? wellFormed otherFormed built otherBuilt
      agrees.meets (top.symm.trans chosen)
    have otherChosen := otherTop.trans found
    cases same with
    | shift edge otherEdge =>
      exact .inl (agrees.step_shift renumbered wellFormed otherFormed sound otherSound edge
        otherEdge chosen otherChosen)
    | reduce same =>
      exact .inl (agrees.step_reduce renumbered wellFormed otherFormed sound otherSound same chosen
        otherChosen)
    | accept =>
      obtain ⟨frame, rfl, -, step, -⟩ := agrees.represents.step_accept wellFormed sound chosen
      obtain ⟨otherFrame, rfl, -, otherStep, -⟩ :=
        agrees.otherRepresents.step_accept otherFormed otherSound otherChosen
      refine .inr ⟨_, _, step, otherStep, ?_⟩
      have nodes := agrees.nodes
      rw [agrees.represents.nodes, agrees.otherRepresents.nodes] at nodes
      exact congrArg Except.ok (List.singleton_inj.mp nodes)

/-- Parses that agree end with the same tree or failure after as many steps. -/
theorem runFor_eq (built : grammar.table = .ok table) (otherBuilt : other.table = .ok otherTable)
    (limit : Nat) :
    (Engine.runFor ⟨other, otherTable⟩ limit last).map (Except.map Derivation.tree) =
      (Engine.runFor ⟨grammar, table⟩ limit config).map (Except.map Derivation.tree) := by
  induction limit generalizing config last frames others with
  | zero => rfl
  | succ limit ih =>
    rcases agrees.step renumbered wellFormed otherFormed built otherBuilt with
      ⟨next, onward, _, _, step, otherStep, later⟩ | ⟨result, final, step, otherStep, same⟩
    · rw [Engine.runFor, otherStep, Engine.runFor, step]
      exact ih later
    · rw [Engine.runFor, otherStep, Engine.runFor, step]
      exact congrArg some same

end Config.Agrees

/-- The parse of some tokens under other numbers ends with the same tree or failure after as many
steps, or not at all. -/
theorem Grammar.Renumbered.runFor_eq {grammar other : Grammar} {numbers : Renumbering}
    (renumbered : grammar.Renumbered numbers other) (wellFormed : grammar.WellFormed)
    (otherFormed : other.WellFormed) {table otherTable : Table} (built : grammar.table = .ok table)
    (otherBuilt : other.table = .ok otherTable) (tokens : List Token) (limit : Nat) :
    (Engine.runFor ⟨other, otherTable⟩ limit (.start tokens)).map (Except.map Derivation.tree) =
      (Engine.runFor ⟨grammar, table⟩ limit (.start tokens)).map (Except.map Derivation.tree) :=
  (Config.Agrees.start grammar numbers other tokens).runFor_eq renumbered wellFormed otherFormed
    built otherBuilt limit

end ShiftReduce
