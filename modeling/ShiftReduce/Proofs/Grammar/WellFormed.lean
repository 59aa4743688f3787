import ShiftReduce.Grammar.Load

/-!
# Well-formed grammars

The rules of a grammar come in three parts: the one that starts every derivation, the declared ones,
and one for each token class. Alternatives are never empty and speak of what is there only.

## Main definitions

* `Symbol.InRange`, `Rule.IsDeclared` — symbols and rules that speak of what is there
* `Grammar.WellFormed` — the parts of a grammar, in order, and what they hold

## Main results

* `Grammar.WellFormed.rule_cases`, `Grammar.WellFormed.alternatives_cases` — where rules and
  alternatives come from
* `Grammar.WellFormed.classRule?_eq_some_iff`, `Grammar.WellFormed.exists_classRule?` — each class
  has one rule
-/

namespace ShiftReduce

@[simp] theorem Symbol.rule_ne_epsilon (rule : RuleIndex) : Symbol.rule rule ≠ .epsilon := by
  intro same
  cases same

@[simp] theorem Symbol.literal_ne_epsilon (index : TerminalIndex) :
    Symbol.terminal (index + 1) ≠ .epsilon := by
  intro same
  cases same

/-- A symbol stands for one of some terminals, or for one of some rules that is not the first. -/
def Symbol.InRange (rules terminals : Nat) : Symbol → Prop
  | .terminal index => index < terminals
  | .rule index => 0 < index ∧ index < rules

/-- A declared rule has alternatives, none of which is empty, over symbols that are there. -/
structure Rule.IsDeclared (rules terminals : Nat) (rule : Rule) : Prop where
  kind : rule.kind = .declared
  alternatives_ne_nil : rule.alternatives ≠ []
  symbols_ne_nil : ∀ symbols ∈ rule.alternatives, symbols ≠ []
  inRange : ∀ symbols ∈ rule.alternatives, ∀ symbol ∈ symbols, symbol.InRange rules terminals

namespace Grammar

/-- What loading guarantees: the parts of a grammar, in order, and what they hold. -/
structure WellFormed (grammar : Grammar) : Prop where
  layout : ∃ declared, declared ≠ [] ∧
    grammar.rules =
      ⟨startName, .start, [[.rule 1]]⟩ :: (declared ++ classRules 0 grammar.classes) ∧
    ∀ rule ∈ declared, rule.IsDeclared grammar.rules.length grammar.terminals.length
  endClass_lt : endClass < grammar.classes.length
  terminals_head : grammar.terminals.head? = some ""
  terminals_nodup : grammar.terminals.Nodup

theorem mem_alternatives_iff {grammar : Grammar} {rule : RuleIndex} {symbols : List Symbol} :
    symbols ∈ grammar.alternatives rule ↔
      ∃ found, grammar.rules[rule]? = some found ∧ symbols ∈ found.alternatives := by
  rcases known : grammar.rules[rule]? with _ | found <;> simp [alternatives, known]

/-- An alternative has a place among those of its rule. -/
theorem exists_alternative_eq {grammar : Grammar} {rule : RuleIndex} {symbols : List Symbol}
    (listed : symbols ∈ grammar.alternatives rule) :
    ∃ alternative < (grammar.alternatives rule).length,
      grammar.alternative rule alternative = symbols := by
  obtain ⟨alternative, inside, same⟩ := List.getElem_of_mem listed
  refine ⟨alternative, inside, ?_⟩
  rw [Grammar.alternative, List.getElem?_eq_getElem inside, same]
  rfl

/-- An index with alternatives is a rule. -/
theorem lt_length_of_alternatives {grammar : Grammar} {rule : RuleIndex} {alternative : Nat}
    (inside : alternative < (grammar.alternatives rule).length) : rule < grammar.rules.length := by
  refine Nat.lt_of_not_le fun outside => ?_
  rw [alternatives, List.getElem?_eq_none outside] at inside
  exact Nat.not_lt_zero _ inside

theorem getElem?_classRules (first kind : ClassIndex) (names : List String) :
    (classRules first names)[kind]? =
      names[kind]?.map fun name => ⟨classRuleName name, .tokenClass (first + kind), []⟩ := by
  induction names generalizing first kind with
  | nil => rfl
  | cons name rest ih =>
    cases kind with
    | zero => rfl
    | succ kind =>
      rw [classRules, List.getElem?_cons_succ, ih, List.getElem?_cons_succ, Nat.add_right_comm]
      rfl

namespace WellFormed

variable {grammar : Grammar} (wellFormed : grammar.WellFormed)
include wellFormed

/-- A rule is the one that starts every derivation, a declared one, or that of a class. -/
theorem rule_cases : ∃ offset, ∀ {index : RuleIndex} {rule : Rule},
    grammar.rules[index]? = some rule →
      (index = startRule ∧ rule = ⟨startName, .start, [[.rule 1]]⟩) ∨
      rule.IsDeclared grammar.rules.length grammar.terminals.length ∨
      ∃ kind name, index = offset + kind ∧ grammar.classes[kind]? = some name ∧
        rule = ⟨classRuleName name, .tokenClass kind, []⟩ := by
  obtain ⟨declared, -, rules, isDeclared⟩ := wellFormed.layout
  refine ⟨declared.length + 1, fun {index rule} found => ?_⟩
  rw [rules] at found
  cases index with
  | zero => exact .inl ⟨rfl, (Option.some.inj found).symm⟩
  | succ place =>
    right
    rw [List.getElem?_cons_succ] at found
    by_cases inside : place < declared.length
    · rw [List.getElem?_append_left inside] at found
      exact .inl (isDeclared rule (List.mem_of_getElem? found))
    · have behind : declared.length ≤ place := Nat.le_of_not_lt inside
      rw [List.getElem?_append_right behind, getElem?_classRules] at found
      obtain ⟨name, known, rfl⟩ := Option.map_eq_some_iff.mp found
      have place_eq : place + 1 = declared.length + 1 + (place - declared.length) := by omega
      exact .inr ⟨place - declared.length, name, place_eq, known, by rw [Nat.zero_add]⟩

theorem getElem?_startRule :
    grammar.rules[startRule]? = some ⟨startName, .start, [[.rule 1]]⟩ := by
  obtain ⟨declared, -, rules, -⟩ := wellFormed.layout
  rw [rules]
  rfl

/-- The rule that starts every derivation stands for the first declared rule. -/
theorem alternatives_startRule : grammar.alternatives startRule = [[.rule 1]] := by
  rw [alternatives, wellFormed.getElem?_startRule]
  rfl

theorem alternative_startRule : grammar.alternative startRule 0 = [.rule 1] := by
  rw [alternative, wellFormed.alternatives_startRule]
  rfl

/-- Rule 1 is declared. -/
theorem firstDeclared : ∃ rule, grammar.rules[1]? = some rule ∧
    rule.IsDeclared grammar.rules.length grammar.terminals.length := by
  obtain ⟨declared, nonempty, rules, isDeclared⟩ := wellFormed.layout
  obtain ⟨first, rest, rfl⟩ := List.exists_cons_of_ne_nil nonempty
  exact ⟨first, by rw [rules]; rfl, isDeclared first List.mem_cons_self⟩

/-- The first declared rule is no terminal. -/
theorem isTerminal_firstDeclared : grammar.isTerminal (.rule 1) = false := by
  obtain ⟨first, known, declared⟩ := wellFormed.firstDeclared
  simp [isTerminal, isClassRule, known, declared.kind]

/-- A rule with alternatives starts every derivation or is declared. -/
theorem alternatives_cases {rule : RuleIndex} {symbols : List Symbol}
    (listed : symbols ∈ grammar.alternatives rule) :
    (rule = startRule ∧ symbols = [.rule 1]) ∨
      ∃ found, grammar.rules[rule]? = some found ∧ symbols ∈ found.alternatives ∧
        found.IsDeclared grammar.rules.length grammar.terminals.length := by
  obtain ⟨found, known, inside⟩ := mem_alternatives_iff.mp listed
  obtain ⟨offset, cases⟩ := wellFormed.rule_cases
  obtain ⟨rfl, rfl⟩ | declared | ⟨kind, name, -, -, rfl⟩ := cases known
  · exact .inl ⟨rfl, List.mem_singleton.mp inside⟩
  · exact .inr ⟨found, known, inside, declared⟩
  · cases inside

/-- No alternative is empty. -/
theorem symbols_ne_nil {rule : RuleIndex} {symbols : List Symbol}
    (listed : symbols ∈ grammar.alternatives rule) : symbols ≠ [] := by
  obtain ⟨-, rfl⟩ | ⟨_, -, inside, declared⟩ := wellFormed.alternatives_cases listed
  · exact List.cons_ne_nil _ _
  · exact declared.symbols_ne_nil symbols inside

/-- The symbols of alternatives are there, and none is the rule that starts every derivation. -/
theorem inRange {rule : RuleIndex} {symbols : List Symbol} {symbol : Symbol}
    (listed : symbols ∈ grammar.alternatives rule) (occurs : symbol ∈ symbols) :
    symbol.InRange grammar.rules.length grammar.terminals.length := by
  obtain ⟨-, rfl⟩ | ⟨_, -, inside, declared⟩ := wellFormed.alternatives_cases listed
  · obtain rfl := List.mem_singleton.mp occurs
    obtain ⟨first, known, -⟩ := wellFormed.firstDeclared
    exact ⟨Nat.one_pos, (List.getElem?_eq_some_iff.mp known).1⟩
  · exact declared.inRange symbols inside symbol occurs

/-- The rules that stand for tokens have no alternatives. -/
theorem alternatives_eq_nil_of_isTerminal {rule : RuleIndex}
    (consumes : grammar.isTerminal (.rule rule) = true) : grammar.alternatives rule = [] := by
  rcases known : grammar.rules[rule]? with _ | found
  · simp [alternatives, known]
  · obtain ⟨offset, cases⟩ := wellFormed.rule_cases
    simp only [isTerminal, isClassRule, known] at consumes
    obtain ⟨-, rfl⟩ | declared | ⟨kind, name, -, -, rfl⟩ := cases known
    · simp at consumes
    · simp [declared.kind] at consumes
    · simp [alternatives, known]

/-- A rule of the declared kind is declared. -/
theorem isDeclared_of_mem {rule : Rule} (listed : rule ∈ grammar.rules)
    (isKind : rule.kind = .declared) :
    rule.IsDeclared grammar.rules.length grammar.terminals.length := by
  obtain ⟨index, known⟩ := List.mem_iff_getElem?.mp listed
  obtain ⟨offset, cases⟩ := wellFormed.rule_cases
  obtain ⟨-, rfl⟩ | declared | ⟨_, _, -, -, rfl⟩ := cases known
  · cases isKind
  · exact declared
  · cases isKind

/-- A rule that stands for the tokens of a class bears its name and has no alternatives. -/
theorem eq_of_tokenClass {rule : Rule} (listed : rule ∈ grammar.rules) {kind : ClassIndex}
    (isKind : rule.kind = .tokenClass kind) :
    ∃ name, grammar.className? kind = some name ∧
      rule = ⟨classRuleName name, .tokenClass kind, []⟩ := by
  obtain ⟨index, known⟩ := List.mem_iff_getElem?.mp listed
  obtain ⟨offset, cases⟩ := wellFormed.rule_cases
  obtain ⟨-, rfl⟩ | declared | ⟨other, name, -, named, rfl⟩ := cases known
  · cases isKind
  · rw [declared.kind] at isKind
    cases isKind
  · obtain rfl := RuleKind.tokenClass.inj isKind
    exact ⟨name, named, rfl⟩

/-- The rule of a class stands for the tokens of that class and bears its name. -/
theorem classRule?_eq_some {kind : ClassIndex} {rule : RuleIndex}
    (found : grammar.classRule? kind = some rule) :
    ∃ name, grammar.className? kind = some name ∧
      grammar.rules[rule]? = some ⟨classRuleName name, .tokenClass kind, []⟩ := by
  obtain ⟨inside, isKind, -⟩ := List.findIdx?_eq_some_iff_getElem.mp found
  obtain ⟨name, named, same⟩ :=
    wellFormed.eq_of_tokenClass (List.getElem_mem inside) (by simpa using isKind)
  exact ⟨name, named, same ▸ List.getElem?_eq_getElem inside⟩

/-- Each class has one rule. -/
theorem classRule?_of_kind {kind : ClassIndex} {index : RuleIndex} {rule : Rule}
    (known : grammar.rules[index]? = some rule) (isKind : rule.kind = .tokenClass kind) :
    grammar.classRule? kind = some index := by
  obtain ⟨inside, same⟩ := List.getElem?_eq_some_iff.mp known
  have ruled : (grammar.classRule? kind).isSome := by
    rw [classRule?, List.findIdx?_isSome]
    exact List.any_eq_true.mpr ⟨rule, List.mem_of_getElem? known, by simp [isKind]⟩
  obtain ⟨other, found⟩ := Option.isSome_iff_exists.mp ruled
  obtain ⟨name, -, otherKnown⟩ := wellFormed.classRule?_eq_some found
  obtain ⟨offset, cases⟩ := wellFormed.rule_cases
  have place {index : RuleIndex} {rule : Rule} (known : grammar.rules[index]? = some rule)
      (isKind : rule.kind = .tokenClass kind) : index = offset + kind := by
    obtain ⟨-, rfl⟩ | declared | ⟨_, _, place, -, rfl⟩ := cases known
    · cases isKind
    · rw [declared.kind] at isKind
      cases isKind
    · obtain rfl := RuleKind.tokenClass.inj isKind
      exact place
  rw [found, place known isKind, place otherKnown rfl]

/-- The rule of a class is the only one that stands for its tokens. -/
theorem classRule?_eq_some_iff {kind : ClassIndex} {rule : RuleIndex} :
    grammar.classRule? kind = some rule ↔
      ∃ found, grammar.rules[rule]? = some found ∧ found.kind = .tokenClass kind := by
  constructor
  · intro found
    obtain ⟨name, -, known⟩ := wellFormed.classRule?_eq_some found
    exact ⟨_, known, rfl⟩
  · rintro ⟨found, known, isKind⟩
    exact wellFormed.classRule?_of_kind known isKind

/-- Every class has a rule. -/
theorem exists_classRule? {kind : ClassIndex} (inside : kind < grammar.classes.length) :
    ∃ rule, grammar.classRule? kind = some rule := by
  obtain ⟨declared, -, rules, -⟩ := wellFormed.layout
  have listed := List.getElem?_eq_getElem inside
  have known : grammar.rules[declared.length + 1 + kind]? =
      some ⟨classRuleName grammar.classes[kind], .tokenClass kind, []⟩ := by
    rw [rules, Nat.add_right_comm, List.getElem?_cons_succ,
      List.getElem?_append_right (Nat.le_add_right _ _), Nat.add_sub_cancel_left,
      getElem?_classRules, listed, Nat.zero_add]
    rfl
  exact ⟨_, wellFormed.classRule?_of_kind known rfl⟩

/-- There is a rule for the token that ends inputs. -/
theorem classRule?_endClass : grammar.classRule? endClass = some grammar.endRule := by
  obtain ⟨rule, found⟩ := wellFormed.exists_classRule? wellFormed.endClass_lt
  rw [endRule, found]
  rfl

theorem isTerminal_of_classRule? {kind : ClassIndex} {rule : RuleIndex}
    (found : grammar.classRule? kind = some rule) : grammar.isTerminal (.rule rule) = true := by
  obtain ⟨name, -, known⟩ := wellFormed.classRule?_eq_some found
  simp [isTerminal, isClassRule, known]

theorem isTerminal_endRule : grammar.isTerminal (.rule grammar.endRule) = true :=
  wellFormed.isTerminal_of_classRule? wellFormed.classRule?_endClass

/-- The rule that starts every derivation is no terminal. -/
theorem isTerminal_startRule : grammar.isTerminal (.rule startRule) = false := by
  simp [isTerminal, isClassRule, wellFormed.getElem?_startRule]

/-- Two classes do not share a rule. -/
theorem classRule?_inj {left right : ClassIndex} {rule : RuleIndex}
    (foundLeft : grammar.classRule? left = some rule)
    (foundRight : grammar.classRule? right = some rule) : left = right := by
  obtain ⟨_, -, knownLeft⟩ := wellFormed.classRule?_eq_some foundLeft
  obtain ⟨_, -, knownRight⟩ := wellFormed.classRule?_eq_some foundRight
  have same := Option.some.inj (knownLeft.symm.trans knownRight)
  exact RuleKind.tokenClass.inj (congrArg Rule.kind same)

theorem terminal_zero : grammar.terminal 0 = "" := by
  rw [terminal, ← List.head?_eq_getElem?, wellFormed.terminals_head]
  rfl

/-- Only the first terminal is the empty literal. -/
theorem terminal_eq_empty_iff {index : TerminalIndex} (inside : index < grammar.terminals.length) :
    grammar.terminal index = "" ↔ index = 0 := by
  constructor
  · intro empty
    rw [terminal, List.getElem?_eq_getElem inside, Option.getD_some] at empty
    have head := wellFormed.terminals_head
    rw [List.head?_eq_getElem?] at head
    obtain ⟨first, same⟩ := List.getElem?_eq_some_iff.mp head
    exact (List.getElem_inj wellFormed.terminals_nodup).mp (empty.trans same.symm)
  · rintro rfl
    exact wellFormed.terminal_zero

end WellFormed

end Grammar

end ShiftReduce
