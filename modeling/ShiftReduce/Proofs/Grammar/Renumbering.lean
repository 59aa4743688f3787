import Mathlib.Logic.Equiv.Basic
import ShiftReduce.Proofs.Grammar.Derivation

/-!
# Other numbers

Rules and literals are known by their numbers, which come from the order of the text. In another
order they have other numbers, and the alternatives of a rule stand in another order. Whatever can
be derived is the same under the new numbers.

## Main definitions

* `Renumbering` — other numbers for literals and rules
* `Grammar.Renumbered` — a grammar under other numbers, with its alternatives in any order

## Main results

* `exists_renumbering` — the new numbers of the elements of a list that is put in another order
* `Grammar.Renumbered.symm` — numbers can be taken back
* `Grammar.Renumbered.starts`, `Grammar.Renumbered.chain` — what can be derived under other numbers
-/

namespace ShiftReduce

/-- The elements of a list in another order have other places. -/
theorem exists_renumbering {α : Type} {left right : List α} (perm : left.Perm right) :
    ∃ places : Equiv.Perm Nat, ∀ place, right[places place]? = left[place]? := by
  induction perm with
  | nil => exact ⟨.refl Nat, fun _ => rfl⟩
  | cons first _ ih =>
    obtain ⟨places, same⟩ := ih
    refine ⟨⟨fun place => place.casesOn 0 fun later => places later + 1,
      fun place => place.casesOn 0 fun later => places.symm later + 1, ?_, ?_⟩, ?_⟩
    · rintro (_ | later)
      · rfl
      · simp
    · rintro (_ | later)
      · rfl
      · simp
    · rintro (_ | later)
      · rfl
      · simpa using same later
  | swap first second rest =>
    refine ⟨Equiv.swap 0 1, ?_⟩
    rintro (_ | _ | later)
    · simp
    · simp
    · rw [Equiv.swap_apply_of_ne_of_ne (by omega) (by omega)]
      rfl
  | trans _ _ ihLeft ihRight =>
    obtain ⟨before, sameBefore⟩ := ihLeft
    obtain ⟨after, sameAfter⟩ := ihRight
    exact ⟨before.trans after, fun place => (sameAfter _).trans (sameBefore place)⟩

/-- A new place is that of the same element, where no element occurs twice. -/
theorem renumbering_eq {α : Type} {left right : List α} {places : Equiv.Perm Nat}
    (same : ∀ place, right[places place]? = left[place]?) (distinct : right.Nodup)
    {place next : Nat} {element : α} (found : left[place]? = some element)
    (otherFound : right[next]? = some element) : places place = next := by
  have inside := (List.getElem?_eq_some_iff.mp otherFound).1
  have again := (same place).trans (found.trans otherFound.symm)
  exact ((List.getElem?_inj inside distinct).mp again.symm).symm

/-- Other numbers for the literals and the rules of a grammar. -/
structure Renumbering where
  terminal : Equiv.Perm TerminalIndex
  rule : Equiv.Perm RuleIndex

namespace Renumbering

variable (numbers : Renumbering)

/-- A symbol under its new number. -/
def symbol : Symbol → Symbol
  | .terminal index => .terminal (numbers.terminal index)
  | .rule index => .rule (numbers.rule index)

/-- The old numbers. -/
def symm : Renumbering := ⟨numbers.terminal.symm, numbers.rule.symm⟩

@[simp] theorem symbol_rule (index : RuleIndex) :
    numbers.symbol (.rule index) = .rule (numbers.rule index) := rfl

@[simp] theorem symm_rule (index : RuleIndex) :
    numbers.symm.rule (numbers.rule index) = index := numbers.rule.symm_apply_apply index

@[simp] theorem rule_symm (index : RuleIndex) :
    numbers.rule (numbers.symm.rule index) = index := numbers.rule.apply_symm_apply index

@[simp] theorem terminal_symm (index : TerminalIndex) :
    numbers.terminal (numbers.symm.terminal index) = index :=
  numbers.terminal.apply_symm_apply index

@[simp] theorem symm_symbol (symbol : Symbol) :
    numbers.symm.symbol (numbers.symbol symbol) = symbol := by
  cases symbol with
  | terminal index => exact congrArg Symbol.terminal (numbers.terminal.symm_apply_apply index)
  | rule index => exact congrArg Symbol.rule (numbers.rule.symm_apply_apply index)

@[simp] theorem symbol_symm (symbol : Symbol) :
    numbers.symbol (numbers.symm.symbol symbol) = symbol := by
  cases symbol with
  | terminal index => exact congrArg Symbol.terminal (numbers.terminal.apply_symm_apply index)
  | rule index => exact congrArg Symbol.rule (numbers.rule.apply_symm_apply index)

theorem symbol_injective : Function.Injective numbers.symbol :=
  Function.LeftInverse.injective numbers.symm_symbol

@[simp] theorem symm_comp_symbol : numbers.symm.symbol ∘ numbers.symbol = id :=
  funext numbers.symm_symbol

@[simp] theorem symbol_comp_symm : numbers.symbol ∘ numbers.symm.symbol = id :=
  funext numbers.symbol_symm

end Renumbering

/-! ### Grammars under other numbers -/

/-- A grammar under other numbers. The rule that starts every derivation, the first declared rule
and the empty literal keep theirs. The alternatives of a rule may stand in any order. -/
structure Grammar.Renumbered (grammar : Grammar) (numbers : Renumbering) (other : Grammar) :
    Prop where
  startRule : numbers.rule Grammar.startRule = Grammar.startRule
  firstDeclared : numbers.rule 1 = 1
  epsilon : numbers.terminal 0 = 0
  classes : other.classes = grammar.classes
  terminals : ∀ index, other.terminals[numbers.terminal index]? = grammar.terminals[index]?
  rules : ∀ index, (other.rules[numbers.rule index]?).map (fun rule => (rule.name, rule.kind)) =
    (grammar.rules[index]?).map fun rule => (rule.name, rule.kind)
  alternatives : ∀ rule, (other.alternatives (numbers.rule rule)).Perm
    ((grammar.alternatives rule).map (List.map numbers.symbol))

namespace Grammar.Renumbered

variable {grammar other : Grammar} {numbers : Renumbering}

theorem symm (renumbered : grammar.Renumbered numbers other) :
    other.Renumbered numbers.symm grammar where
  startRule := (Equiv.symm_apply_eq _).mpr renumbered.startRule.symm
  firstDeclared := (Equiv.symm_apply_eq _).mpr renumbered.firstDeclared.symm
  epsilon := (Equiv.symm_apply_eq _).mpr renumbered.epsilon.symm
  classes := renumbered.classes.symm
  terminals := by
    intro index
    simpa using (renumbered.terminals (numbers.symm.terminal index)).symm
  rules := by
    intro index
    simpa using (renumbered.rules (numbers.symm.rule index)).symm
  alternatives := by
    intro rule
    have perm := (renumbered.alternatives (numbers.symm.rule rule)).map
      (List.map numbers.symm.symbol)
    simpa [Function.comp_def] using perm.symm

variable (renumbered : grammar.Renumbered numbers other)
include renumbered

/-! ### What rules and literals are called -/

theorem terminal (index : TerminalIndex) :
    other.terminal (numbers.terminal index) = grammar.terminal index := by
  rw [Grammar.terminal, renumbered.terminals, Grammar.terminal]

theorem ruleName (rule : RuleIndex) :
    other.ruleName (numbers.rule rule) = grammar.ruleName rule := by
  have same := congrArg (Option.map Prod.fst) (renumbered.rules rule)
  simp only [Option.map_map] at same
  exact congrArg (Option.getD · "") same

theorem className? (kind : ClassIndex) : other.className? kind = grammar.className? kind := by
  rw [Grammar.className?, renumbered.classes, Grammar.className?]

/-- The alternatives of a rule have other places. -/
theorem exists_places (rule : RuleIndex) : ∃ places : Equiv.Perm Nat, ∀ alternative,
    (other.alternatives (numbers.rule rule))[places alternative]? =
      ((grammar.alternatives rule)[alternative]?).map (List.map numbers.symbol) := by
  obtain ⟨places, same⟩ := exists_renumbering (renumbered.alternatives rule).symm
  exact ⟨places, fun alternative => by rw [same, List.getElem?_map]⟩

@[simp] theorem symbol_epsilon : numbers.symbol .epsilon = .epsilon :=
  congrArg Symbol.terminal renumbered.epsilon

theorem symbol_eq_epsilon_iff {symbol : Symbol} :
    numbers.symbol symbol = .epsilon ↔ symbol = .epsilon := by
  refine ⟨fun empty => numbers.symbol_injective (empty.trans renumbered.symbol_epsilon.symm), ?_⟩
  rintro rfl
  exact renumbered.symbol_epsilon

theorem kinds (rule : RuleIndex) : (other.rules[numbers.rule rule]?).map Rule.kind =
    (grammar.rules[rule]?).map Rule.kind := by
  have same := congrArg (Option.map Prod.snd) (renumbered.rules rule)
  simp only [Option.map_map] at same
  exact same

theorem isTerminal (symbol : Symbol) :
    other.isTerminal (numbers.symbol symbol) = grammar.isTerminal symbol := by
  cases symbol with
  | terminal index => rfl
  | rule index =>
    simp only [Renumbering.symbol, Grammar.isTerminal, isClassRule, renumbered.kinds]

/-- The rule of a class has its new number. -/
theorem classRule?_eq_some (wellFormed : grammar.WellFormed) (otherFormed : other.WellFormed)
    {kind : ClassIndex} {rule : RuleIndex} (found : grammar.classRule? kind = some rule) :
    other.classRule? kind = some (numbers.rule rule) := by
  obtain ⟨name, -, known⟩ := wellFormed.classRule?_eq_some found
  have same := renumbered.kinds rule
  rw [known] at same
  obtain ⟨image, otherKnown, isKind⟩ := Option.map_eq_some_iff.mp same
  exact otherFormed.classRule?_of_kind otherKnown isKind

theorem endRule (wellFormed : grammar.WellFormed) (otherFormed : other.WellFormed) :
    numbers.rule grammar.endRule = other.endRule := by
  have found := renumbered.classRule?_eq_some wellFormed otherFormed wellFormed.classRule?_endClass
  exact Option.some.inj (found.symm.trans otherFormed.classRule?_endClass)

theorem symbol_eq_endRule_iff (wellFormed : grammar.WellFormed) (otherFormed : other.WellFormed)
    {symbol : Symbol} :
    numbers.symbol symbol = .rule other.endRule ↔ symbol = .rule grammar.endRule := by
  rw [← renumbered.endRule wellFormed otherFormed, ← numbers.symbol_rule,
    numbers.symbol_injective.eq_iff]

/-! ### What can be derived -/

theorem mem_alternatives {rule : RuleIndex} {symbols : List Symbol}
    (listed : symbols ∈ grammar.alternatives rule) :
    symbols.map numbers.symbol ∈ other.alternatives (numbers.rule rule) :=
  (renumbered.alternatives rule).mem_iff.mpr (List.mem_map_of_mem listed)

theorem vanishes {symbols : List Symbol} (vanishes : grammar.Vanishes symbols) :
    other.Vanishes (symbols.map numbers.symbol) := by
  induction vanishes with
  | nil => exact .nil
  | epsilon _ ih =>
    rw [List.map_cons, renumbered.symbol_epsilon]
    exact .epsilon ih
  | rule listed _ _ inner later => exact .rule (renumbered.mem_alternatives listed) inner later

theorem starts {symbols : List Symbol} {terminal : Symbol}
    (starts : grammar.Starts symbols terminal) :
    other.Starts (symbols.map numbers.symbol) (numbers.symbol terminal) := by
  induction starts with
  | terminal consumes visible =>
    refine .terminal ((renumbered.isTerminal _).trans consumes) fun empty => ?_
    exact visible (renumbered.symbol_eq_epsilon_iff.mp empty)
  | skip vanishes _ ih => exact .skip (renumbered.vanishes vanishes) ih
  | expand listed _ ih => exact .expand (renumbered.mem_alternatives listed) ih

theorem chain {rule : RuleIndex} {before after : List Symbol}
    (chain : grammar.Chain rule before after) :
    other.Chain (numbers.rule rule) (before.map numbers.symbol) (after.map numbers.symbol) := by
  induction chain with
  | start =>
    rw [renumbered.startRule]
    exact .start
  | next _ listed ih =>
    have alternative := renumbered.mem_alternatives listed
    rw [List.map_append, List.map_cons] at alternative
    simpa using ih.next alternative

end Grammar.Renumbered

end ShiftReduce
