import ShiftReduce.Proofs.Grammar.Loading
import ShiftReduce.Proofs.Lexer.WellFormed

/-!
# Looking up rules and literals

Rules are found by their names and by the classes whose tokens they stand for, literals by their
places. In a grammar that is loaded, every lookup has one answer, all places that alternatives speak
of are there, and every literal but the empty one is spoken of.

## Main definitions

* `Grammar.Indexed` — what places, names and classes lead to

## Main results

* `Grammar.Declares.findRule?_eq_some_iff` — rules are found by their names
* `Grammar.Declares.exists_terminal_mem` — where a literal occurs
* `Grammar.indexed_of_ofText` — lookups in a grammar that is loaded
-/

namespace ShiftReduce.Grammar

/-- What places, names and classes lead to in a grammar over the classes of a lexer. -/
structure Indexed (grammar : Grammar) (lexer : Lexer) : Prop where
  getElem?_startRule : grammar.rules[startRule]? = some ⟨startName, .start, [[.rule 1]]⟩
  startRule_notMem : ∀ rule, ∀ symbols ∈ grammar.alternatives rule, .rule startRule ∉ symbols
  declared : ∀ rule ∈ grammar.rules, rule.kind = .declared →
    rule.alternatives ≠ [] ∧ ∀ symbols ∈ rule.alternatives, symbols ≠ []
  /-- The rule of a class has the name of the class and stands for nothing but its tokens. -/
  tokenClass : ∀ rule ∈ grammar.rules, ∀ kind, rule.kind = .tokenClass kind →
    rule.alternatives = [] ∧ ∃ entry, lexer.classes[kind]? = some entry ∧
      rule.name = classRuleName entry.tokenClass.name
  exists_classRule? : ∀ kind < lexer.classes.length, ∃ rule, grammar.classRule? kind = some rule
  classRule?_iff : ∀ kind rule, grammar.classRule? kind = some rule ↔
    ∃ found, grammar.rules[rule]? = some found ∧ found.kind = .tokenClass kind
  names_nodup : (grammar.rules.map Rule.name).Nodup
  findRule?_iff : ∀ name rule, grammar.findRule? name = some rule ↔
    rule < grammar.rules.length ∧ grammar.ruleName rule = name
  terminals_zero : grammar.terminals[0]? = some ""
  terminals_nodup : grammar.terminals.Nodup
  inRange : ∀ rule, ∀ symbols ∈ grammar.alternatives rule, ∀ symbol ∈ symbols,
    symbol.InRange grammar.rules.length grammar.terminals.length
  /-- Only the empty literal may occur nowhere. -/
  terminal_mem : ∀ index < grammar.terminals.length, grammar.terminal index ≠ "" →
    ∃ rule, ∃ symbols ∈ grammar.alternatives rule, .terminal index ∈ symbols

variable {grammar : Grammar} {classes : List String} {definitions : List Definition}

/-! ### Rules and literals -/

namespace Declares

variable (declares : grammar.Declares classes definitions)
include declares

/-- A rule is found by its name, and by no other. -/
theorem findRule?_eq_some_iff {name : String} {rule : RuleIndex} :
    grammar.findRule? name = some rule ↔
      rule < grammar.rules.length ∧ grammar.ruleName rule = name := by
  rw [findRule?, findIdx?_name_eq_some_iff declares.nodup_map_name_rules]
  by_cases inside : rule < grammar.rules.length
  · simp [ruleName, inside]
  · simp [inside]

/-- The alternatives of a definition are those of a rule. -/
theorem exists_alternatives_eq {definition : Definition} (listed : definition ∈ definitions) :
    ∃ rule, grammar.alternatives rule =
      definition.alternatives.map
        (List.map (Word.symbol (ruleNames classes definitions) grammar.terminals)) := by
  have present : definition.rule (ruleNames classes definitions) grammar.terminals ∈
      grammar.rules := by
    rw [declares.rules_eq]
    apply List.mem_cons_of_mem
    exact List.mem_append_left _ (List.mem_map_of_mem listed)
  obtain ⟨rule, known⟩ := List.mem_iff_getElem?.mp present
  refine ⟨rule, ?_⟩
  rw [alternatives, known]
  rfl

/-- A literal that is not empty occurs in an alternative. -/
theorem exists_terminal_mem {index : TerminalIndex} (inside : index < grammar.terminals.length)
    (nonempty : grammar.terminal index ≠ "") :
    ∃ rule, ∃ symbols ∈ grammar.alternatives rule, .terminal index ∈ symbols := by
  have place : grammar.terminals.idxOf (grammar.terminal index) = index := by
    rw [terminal, List.getElem?_eq_getElem inside]
    exact declares.terminals_nodup.idxOf_getElem index inside
  have present : grammar.terminal index ∈ grammar.terminals :=
    List.idxOf_lt_length_iff.mp (place.symm ▸ inside)
  have occurs := (declares.mem_terminals_iff.mp present).resolve_left nonempty
  obtain ⟨definition, listed, isWord⟩ := List.mem_flatMap.mp occurs
  obtain ⟨words, inAlternatives, inWords⟩ := List.mem_flatten.mp isWord
  obtain ⟨rule, same⟩ := declares.exists_alternatives_eq listed
  refine ⟨rule, _, same ▸ List.mem_map_of_mem inAlternatives, ?_⟩
  refine List.mem_map.mpr ⟨_, inWords, ?_⟩
  rw [Word.symbol, place]

end Declares

/-- The rule that starts every derivation is not spoken of. -/
theorem WellFormed.startRule_notMem (wellFormed : grammar.WellFormed) {rule : RuleIndex}
    {symbols : List Symbol} (listed : symbols ∈ grammar.alternatives rule) :
    .rule startRule ∉ symbols := by
  intro occurs
  exact Nat.lt_irrefl 0 (wellFormed.inRange listed occurs).1

/-! ### Grammars that are loaded -/

/-- In a grammar that is loaded, rules are found by their names and by their classes, what
alternatives speak of is there, and no literal is there that none speaks of, but the empty one. -/
theorem indexed_of_ofText {lexer : Lexer} (reachable : lexer.Reachable) {text : String}
    (found : ofText lexer text = .ok grammar) : grammar.Indexed lexer := by
  obtain ⟨definitions, -, read⟩ := bind_eq_ok.mp found
  have declares := declares_of_ofDefinitions read
  have wellFormed : grammar.WellFormed := Loaded.wellFormed ⟨lexer, reachable, text, found⟩
  refine
    { getElem?_startRule := wellFormed.getElem?_startRule
      startRule_notMem := fun rule symbols listed => wellFormed.startRule_notMem listed
      declared := ?_
      tokenClass := ?_
      exists_classRule? := ?_
      classRule?_iff := fun kind rule => wellFormed.classRule?_eq_some_iff
      names_nodup := declares.nodup_map_name_rules
      findRule?_iff := fun name rule => declares.findRule?_eq_some_iff
      terminals_zero := declares.terminals_zero
      terminals_nodup := declares.terminals_nodup
      inRange := fun rule symbols listed symbol occurs => wellFormed.inRange listed occurs
      terminal_mem := fun index inside nonempty => declares.exists_terminal_mem inside nonempty }
  · intro rule listed isDeclared
    have declared := wellFormed.isDeclared_of_mem listed isDeclared
    exact ⟨declared.alternatives_ne_nil, declared.symbols_ne_nil⟩
  · intro rule listed kind isKind
    obtain ⟨name, named, rfl⟩ := wellFormed.eq_of_tokenClass listed isKind
    rw [className?, declares.classes_eq, Lexer.classNames, List.getElem?_map] at named
    obtain ⟨entry, inClasses, rfl⟩ := Option.map_eq_some_iff.mp named
    exact ⟨rfl, entry, inClasses, rfl⟩
  · intro kind inside
    apply wellFormed.exists_classRule?
    rwa [declares.classes_eq, Lexer.classNames, List.length_map]

/-- A grammar that speaks of a rule before it is defined, of a class, and of a literal twice. -/
def separated : Grammar where
  rules := [⟨startName, .start, [[.rule 1]]⟩,
    ⟨"list", .declared, [[.rule 2], [.rule 2, .terminal 1, .rule 1]]⟩,
    ⟨"item", .declared, [[.terminal 1], [.rule 3], [.terminal 0]]⟩,
    ⟨"Token-EOL", .tokenClass lineBreakClass, []⟩, ⟨"Token-EOF", .tokenClass endClass, []⟩]
  terminals := ["", ","]
  classes := ["EOL", "EOF"]

theorem indexed_separated : separated.Indexed Lexer.initial ∧
    separated.findRule? "Token-EOL" = some 3 ∧ separated.classRule? lineBreakClass = some 3 := by
  have found : ofText Lexer.initial
      "<list> ::= <item>\n | <item> ',' <list>\n<item> ::= \",\" | <Token-EOL> | ''" =
      .ok separated :=
    eq_ok_of_toOption (by decide +kernel)
  have indexed := indexed_of_ofText .initial found
  exact ⟨indexed, (indexed.findRule?_iff _ _).mpr ⟨by decide, rfl⟩,
    (indexed.classRule?_iff _ _).mpr ⟨_, rfl, rfl⟩⟩

end ShiftReduce.Grammar
