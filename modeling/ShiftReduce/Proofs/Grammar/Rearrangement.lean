import Mathlib.Data.List.Perm.Basic
import ShiftReduce.Proofs.Grammar.Declaration
import ShiftReduce.Proofs.Grammar.Renumbering

/-!
# Definitions in another order

All definitions but the first may stand in any order, and so may the alternatives of each. They are
loaded in one order if they are in the other, and become the same grammar under other numbers.

## Main definitions

* `Definition.Similar` — definitions with the same alternatives in any order
* `Definition.Rearranged` — definitions in another order

## Main results

* `Grammar.Declares.exists_renumbered` — what definitions become in another order
* `Definition.Rearranged.exists_ofDefinitions` — whether they are loaded
* `Grammar.exists_ofText_of_rearranged` — what texts that hold them declare
-/

namespace ShiftReduce

namespace Definition

/-- Definitions of the same name with the same alternatives in any order. -/
structure Similar (definition other : Definition) : Prop where
  name_eq : other.name = definition.name
  alternatives_perm : other.alternatives.Perm definition.alternatives

/-- The same definitions with the first one in front, and the others in any order. The alternatives
of each may stand in any order as well. -/
inductive Rearranged : List Definition → List Definition → Prop
  | nil : Rearranged [] []
  | cons {first other : Definition} {rest middle others : List Definition} :
      first.Similar other → rest.Perm middle → List.Forall₂ Similar middle others →
      Rearranged (first :: rest) (other :: others)

namespace Similar

variable {definition other : Definition}

theorem symm (similar : definition.Similar other) : other.Similar definition where
  name_eq := similar.name_eq.symm
  alternatives_perm := similar.alternatives_perm.symm

theorem mem_words_iff (similar : definition.Similar other) {word : Word} :
    word ∈ other.words ↔ word ∈ definition.words :=
  similar.alternatives_perm.flatten.mem_iff

theorem isReadable (similar : definition.Similar other) (readable : definition.IsReadable) :
    other.IsReadable where
  isName := by
    rw [similar.name_eq]
    exact readable.isName
  isFilled := by
    obtain ⟨nonempty, filled⟩ := readable.isFilled
    refine ⟨fun empty => nonempty ?_, fun words listed =>
      filled words (similar.alternatives_perm.mem_iff.mp listed)⟩
    exact (empty ▸ similar.alternatives_perm).nil_eq.symm
  isNamed := fun word occurs => readable.isNamed word (similar.mem_words_iff.mp occurs)

end Similar

namespace Rearranged

variable {definitions others : List Definition}

theorem symm (rearranged : Rearranged definitions others) : Rearranged others definitions := by
  cases rearranged with
  | nil => exact .nil
  | cons similar perm alike =>
    obtain ⟨middle, alike, perm⟩ := List.perm_comp_forall₂ perm alike
    exact .cons similar.symm perm.symm (alike.imp fun _ _ similar => similar.symm).flip

theorem ne_nil (rearranged : Rearranged definitions others) (nonempty : definitions ≠ []) :
    others ≠ [] := by
  cases rearranged with
  | nil => exact nonempty
  | cons => exact List.cons_ne_nil _ _

/-- The first definition keeps its name. -/
theorem head_name_eq (rearranged : Rearranged definitions others) :
    (others.map name).head? = (definitions.map name).head? := by
  cases rearranged with
  | nil => rfl
  | cons similar _ _ => exact congrArg some similar.name_eq

/-- The names are the same, in any order. -/
theorem names_perm (rearranged : Rearranged definitions others) :
    (definitions.map name).Perm (others.map name) := by
  cases rearranged with
  | nil => exact .nil
  | @cons first other rest middle others similar perm alike =>
    have names : List.Forall₂ Eq (middle.map name) (others.map name) :=
      List.forall₂_map_left_iff.mpr (List.forall₂_map_right_iff.mpr
        (alike.imp fun _ _ similar => similar.name_eq.symm))
    rw [List.forall₂_eq_eq_eq] at names
    rw [List.map_cons, List.map_cons, similar.name_eq, ← names]
    exact (perm.map name).cons first.name

/-- Every definition has a similar one. -/
theorem exists_similar (rearranged : Rearranged definitions others) {definition : Definition}
    (listed : definition ∈ definitions) : ∃ other ∈ others, definition.Similar other := by
  cases rearranged with
  | nil => cases listed
  | cons similar perm alike =>
    rcases List.mem_cons.mp listed with rfl | later
    · exact ⟨_, List.mem_cons_self, similar⟩
    · obtain ⟨place, inside, rfl⟩ := List.getElem_of_mem (perm.mem_iff.mp later)
      have otherInside := alike.length_eq ▸ inside
      exact ⟨_, List.mem_cons_of_mem _ (List.getElem_mem otherInside),
        alike.get inside otherInside⟩

theorem isReadable (rearranged : Rearranged definitions others)
    (readable : ∀ definition ∈ definitions, definition.IsReadable) :
    ∀ other ∈ others, other.IsReadable := by
  intro other listed
  obtain ⟨definition, known, similar⟩ := rearranged.symm.exists_similar listed
  exact similar.symm.isReadable (readable definition known)

theorem mem_words (rearranged : Rearranged definitions others) {word : Word}
    (occurs : word ∈ definitions.flatMap words) : word ∈ others.flatMap words := by
  obtain ⟨definition, listed, inside⟩ := List.mem_flatMap.mp occurs
  obtain ⟨other, otherListed, similar⟩ := rearranged.exists_similar listed
  exact List.mem_flatMap.mpr ⟨other, otherListed, similar.mem_words_iff.mpr inside⟩

theorem mem_words_iff (rearranged : Rearranged definitions others) {word : Word} :
    word ∈ others.flatMap words ↔ word ∈ definitions.flatMap words :=
  ⟨rearranged.symm.mem_words, rearranged.mem_words⟩

theorem ruleNames_perm (rearranged : Rearranged definitions others) (classes : List String) :
    (Grammar.ruleNames classes definitions).Perm (Grammar.ruleNames classes others) :=
  rearranged.names_perm.append_right _

end Rearranged

end Definition

/-! ### What they become -/

namespace Grammar.Declares

variable {grammar other : Grammar} {classes : List String} {definitions others : List Definition}
  (declares : grammar.Declares classes definitions) (otherDeclares : other.Declares classes others)
  (rearranged : Definition.Rearranged definitions others)

include declares in
/-- Names and kinds of the rules that definitions become. -/
theorem map_key_rules : grammar.rules.map (fun rule => (rule.name, rule.kind)) =
    (startName, .start) :: ((definitions.map Definition.name).map (·, .declared) ++
      (classRules 0 classes).map fun rule => (rule.name, rule.kind)) := by
  rw [declares.rules_eq, List.map_cons, List.map_append, List.map_map, List.map_map]
  rfl

include declares otherDeclares rearranged

/-- In another order, definitions have the same literals. -/
theorem terminals_perm : grammar.terminals.Perm other.terminals := by
  refine (List.perm_ext_iff_of_nodup declares.terminals_nodup otherDeclares.terminals_nodup).mpr ?_
  intro text
  rw [declares.mem_terminals_iff, otherDeclares.mem_terminals_iff, rearranged.mem_words_iff]

section Numbers

variable {numbers : Renumbering}
  (terminals : ∀ index, other.terminals[numbers.terminal index]? = grammar.terminals[index]?)
  (names : ∀ index, (other.rules.map Rule.name)[numbers.rule index]? =
    (grammar.rules.map Rule.name)[index]?)
include terminals names

/-- A word has its symbol under the new number. -/
theorem symbol_eq {word : Word} (occurs : word ∈ definitions.flatMap Definition.words) :
    numbers.symbol (word.symbol (ruleNames classes definitions) grammar.terminals) =
      word.symbol (ruleNames classes others) other.terminals := by
  have known := declares.resolved.known word occurs
  have otherKnown := otherDeclares.resolved.known word (rearranged.mem_words occurs)
  cases word with
  | literal text =>
    exact congrArg Symbol.terminal (renumbering_eq terminals otherDeclares.terminals_nodup
      (List.getElem?_idxOf known) (List.getElem?_idxOf otherKnown))
  | reference name =>
    rw [declares.map_name_rules, otherDeclares.map_name_rules] at names
    have found : (startName :: ruleNames classes definitions)[
        (ruleNames classes definitions).idxOf name + 1]? = some name := List.getElem?_idxOf known
    have otherFound : (startName :: ruleNames classes others)[
        (ruleNames classes others).idxOf name + 1]? = some name := List.getElem?_idxOf otherKnown
    exact congrArg Symbol.rule
      (renumbering_eq names otherDeclares.names_nodup found otherFound)

omit rearranged terminals in
theorem rule_startRule : numbers.rule startRule = startRule :=
  renumbering_eq names otherDeclares.nodup_map_name_rules declares.name_startRule
    otherDeclares.name_startRule

omit terminals in
theorem rule_firstDeclared : numbers.rule 1 = 1 := by
  have found := declares.name_firstDeclared
  have otherFound := otherDeclares.name_firstDeclared
  rw [rearranged.head_name_eq] at otherFound
  obtain ⟨first, rest, rfl⟩ := List.exists_cons_of_ne_nil declares.definitions_ne_nil
  exact renumbering_eq names otherDeclares.nodup_map_name_rules found otherFound

/-- Rules of the same name have the same alternatives under the new numbers, in any order. -/
theorem alternatives_perm {rule otherRule : Rule} (listed : rule ∈ grammar.rules)
    (otherListed : otherRule ∈ other.rules) (same : otherRule.name = rule.name) :
    otherRule.alternatives.Perm (rule.alternatives.map (List.map numbers.symbol)) := by
  rw [declares.rules_eq, List.mem_cons, List.mem_append, List.mem_map] at listed
  rcases listed with rfl | ⟨definition, known, rfl⟩ | isClass
  · have inOther : ⟨startName, .start, [[.rule 1]]⟩ ∈ other.rules := by
      rw [otherDeclares.rules_eq]
      exact List.mem_cons_self
    obtain rfl := otherDeclares.eq_of_name_eq otherListed inOther same
    have first := rule_firstDeclared declares otherDeclares rearranged names
    simp [first]
  · obtain ⟨next, nextKnown, similar⟩ := rearranged.exists_similar known
    have inOther : next.rule (ruleNames classes others) other.terminals ∈ other.rules := by
      rw [otherDeclares.rules_eq]
      exact List.mem_cons_of_mem _ (List.mem_append_left _ (List.mem_map_of_mem nextKnown))
    obtain rfl := otherDeclares.eq_of_name_eq otherListed inOther
      (same.trans similar.name_eq.symm)
    have symbols : definition.alternatives.map
          (List.map (Word.symbol (ruleNames classes others) other.terminals)) =
        (definition.rule (ruleNames classes definitions) grammar.terminals).alternatives.map
          (List.map numbers.symbol) := by
      rw [Definition.rule, List.map_map]
      refine List.map_congr_left fun words inAlternatives => ?_
      rw [Function.comp_apply, List.map_map]
      refine List.map_congr_left fun word inWords => ?_
      have occurs := List.mem_flatten_of_mem inAlternatives inWords
      exact (symbol_eq declares otherDeclares rearranged terminals names
        (List.mem_flatMap.mpr ⟨definition, known, occurs⟩)).symm
    rw [← symbols]
    exact similar.alternatives_perm.map _
  · have inOther : rule ∈ other.rules := by
      rw [otherDeclares.rules_eq]
      exact List.mem_cons_of_mem _ (List.mem_append_right _ isClass)
    obtain rfl := otherDeclares.eq_of_name_eq otherListed inOther same
    rw [alternatives_of_mem_classRules isClass]
    exact .nil

end Numbers

/-- In another order, literals and rules have other numbers. -/
theorem exists_numbers : ∃ numbers : Renumbering,
    (∀ index, other.terminals[numbers.terminal index]? = grammar.terminals[index]?) ∧
    ∀ index, (other.rules[numbers.rule index]?).map (fun rule => (rule.name, rule.kind)) =
      (grammar.rules[index]?).map fun rule => (rule.name, rule.kind) := by
  obtain ⟨terminal, terminals⟩ :=
    exists_renumbering (terminals_perm declares otherDeclares rearranged)
  have keys : (grammar.rules.map fun rule => (rule.name, rule.kind)).Perm
      (other.rules.map fun rule => (rule.name, rule.kind)) := by
    rw [declares.map_key_rules, otherDeclares.map_key_rules]
    exact ((rearranged.names_perm.map _).append_right _).cons _
  obtain ⟨rule, rules⟩ := exists_renumbering keys
  simp only [List.getElem?_map] at rules
  exact ⟨⟨terminal, rule⟩, terminals, rules⟩

/-- Definitions become the same grammar in another order, under other numbers. -/
theorem exists_renumbered : ∃ numbers, grammar.Renumbered numbers other := by
  obtain ⟨numbers, terminals, rules⟩ := exists_numbers declares otherDeclares rearranged
  have names (index : RuleIndex) : (other.rules.map Rule.name)[numbers.rule index]? =
      (grammar.rules.map Rule.name)[index]? := by
    have same := congrArg (Option.map Prod.fst) (rules index)
    rw [Option.map_map, Option.map_map, ← List.getElem?_map, ← List.getElem?_map] at same
    exact same
  refine ⟨numbers, rule_startRule declares otherDeclares names,
    rule_firstDeclared declares otherDeclares rearranged names,
    renumbering_eq terminals otherDeclares.terminals_nodup declares.terminals_zero
      otherDeclares.terminals_zero,
    otherDeclares.classes_eq.trans declares.classes_eq.symm, terminals, rules, fun index => ?_⟩
  have same := rules index
  rcases known : grammar.rules[index]? with _ | found
  · rw [known, Option.map_none, Option.map_eq_none_iff] at same
    simp [alternatives, known, same]
  · rw [known, Option.map_some] at same
    obtain ⟨otherFound, otherKnown, key⟩ := Option.map_eq_some_iff.mp same
    have perm := alternatives_perm declares otherDeclares rearranged terminals names
      (List.mem_of_getElem? known) (List.mem_of_getElem? otherKnown) (congrArg Prod.fst key)
    simpa [alternatives, known, otherKnown] using perm

end Grammar.Declares

/-- Definitions are loaded in another order if they are in one, and become the same grammar under
other numbers. -/
theorem Definition.Rearranged.exists_ofDefinitions {definitions others : List Definition}
    (rearranged : Rearranged definitions others) {classes : List String} {grammar : Grammar}
    (loaded : Grammar.ofDefinitions classes definitions = .ok grammar) :
    ∃ other numbers, Grammar.ofDefinitions classes others = .ok other ∧
      grammar.Renumbered numbers other := by
  have declares := Grammar.declares_of_ofDefinitions loaded
  have names := rearranged.ruleNames_perm classes
  have again : ∃ other, Grammar.ofDefinitions classes others = .ok other := by
    refine Grammar.exists_ofDefinitions_iff.mpr ⟨rearranged.ne_nil declares.definitions_ne_nil,
      (names.cons startName).nodup_iff.mp declares.names_nodup, fun word occurs => ?_⟩
    have bound := (declares.resolved.known word (rearranged.mem_words_iff.mp occurs)).isBound
    cases word with
    | literal text => trivial
    | reference name => exact names.mem_iff.mp bound
  obtain ⟨other, otherLoaded⟩ := again
  obtain ⟨numbers, renumbered⟩ := declares.exists_renumbered
    (Grammar.declares_of_ofDefinitions otherLoaded) rearranged
  exact ⟨other, numbers, otherLoaded, renumbered⟩

/-- A text with the definitions of another one in another order declares the same grammar under
other numbers. -/
theorem Grammar.exists_ofText_of_rearranged {definitions others : List Definition}
    (rearranged : Definition.Rearranged definitions others) {text otherText : String}
    (holds : Definition.Holds text definitions) (otherHolds : Definition.Holds otherText others)
    {lexer : Lexer} {grammar : Grammar} (loaded : ofText lexer text = .ok grammar) :
    ∃ other numbers, ofText lexer otherText = .ok other ∧ grammar.Renumbered numbers other := by
  obtain ⟨found, read, resolved⟩ := bind_eq_ok.mp loaded
  obtain ⟨readable, rfl⟩ := holds.ofText_eq_ok_iff.mp read
  obtain ⟨other, numbers, otherResolved, renumbered⟩ := rearranged.exists_ofDefinitions resolved
  have otherRead := otherHolds.ofText_eq_ok_iff.mpr ⟨rearranged.isReadable readable, rfl⟩
  exact ⟨other, numbers, bind_eq_ok.mpr ⟨others, otherRead, otherResolved⟩, renumbered⟩

end ShiftReduce
