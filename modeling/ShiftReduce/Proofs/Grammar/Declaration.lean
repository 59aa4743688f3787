import Mathlib.Data.List.Nodup
import ShiftReduce.Proofs.Grammar.Reading
import ShiftReduce.Proofs.Grammar.WellFormed

/-!
# What definitions become

A name becomes the place of its rule, and a literal its place among those of the grammar.
Definitions are loaded if there are some, no name is given twice, and all names in them are those of
rules.

## Main definitions

* `Word.symbol` — the symbol of a word
* `Grammar.Declares` — the grammar that definitions become

## Main results

* `Grammar.declares_of_ofDefinitions` — what is loaded
* `Grammar.exists_ofDefinitions_iff` — when definitions are loaded
-/

namespace ShiftReduce

namespace Word

/-- A name among some that rules have, or a literal. -/
def IsBound (names : List String) : Word → Prop
  | .reference name => name ∈ names
  | .literal _ => True

instance (names : List String) : (word : Word) → Decidable (word.IsBound names)
  | .reference name => inferInstanceAs (Decidable (name ∈ names))
  | .literal _ => .isTrue trivial

/-- A name among some that rules have, or a literal among others. -/
def Known (names terminals : List String) : Word → Prop
  | .reference name => name ∈ names
  | .literal text => text ∈ terminals

/-- The symbol of a word, where `names` lists the rules behind the one that starts every
derivation. -/
def symbol (names terminals : List String) : Word → Symbol
  | .reference name => .rule (names.idxOf name + 1)
  | .literal text => .terminal (terminals.idxOf text)

variable {names before after : List String} {word : Word}

theorem Known.isBound (known : word.Known names after) : word.IsBound names := by
  cases word with
  | reference name => exact known
  | literal text => trivial

theorem Known.mono (known : word.Known names before) (grows : before <+: after) :
    word.Known names after := by
  cases word with
  | reference name => exact known
  | literal text => exact grows.subset known

/-- More literals behind those that are known change no symbol. -/
theorem Known.symbol_eq (known : word.Known names before) (grows : before <+: after) :
    word.symbol names before = word.symbol names after := by
  cases word with
  | reference name => rfl
  | literal text =>
    obtain ⟨added, rfl⟩ := grows
    exact congrArg Symbol.terminal (List.idxOf_append_of_mem known).symm

theorem Known.inRange (known : word.Known names after) :
    (word.symbol names after).InRange (names.length + 1) after.length := by
  cases word with
  | reference name =>
    exact ⟨Nat.succ_pos _, Nat.succ_lt_succ (List.idxOf_lt_length_iff.mpr known)⟩
  | literal text => exact List.idxOf_lt_length_iff.mpr known

end Word

/-- The rule that a definition becomes. -/
def Definition.rule (names terminals : List String) (definition : Definition) : Rule :=
  ⟨definition.name, .declared, definition.alternatives.map (List.map (Word.symbol names terminals))⟩

namespace Grammar

/-! ### Words and their symbols -/

/-- Literals that are added behind others repeat none of them. -/
def Extends (before after : List String) : Prop :=
  before <+: after ∧ (before.Nodup → after.Nodup)

theorem Extends.refl (terminals : List String) : Extends terminals terminals :=
  ⟨List.prefix_rfl, id⟩

theorem Extends.trans {first second third : List String} (before : Extends first second)
    (after : Extends second third) : Extends first third :=
  ⟨before.1.trans after.1, after.2 ∘ before.2⟩

/-- Some words are looked up: all of them are known afterwards, and the literals that are added are
theirs. -/
structure Resolved (names before : List String) (words : List Word) (after : List String) :
    Prop where
  grows : Extends before after
  known : ∀ word ∈ words, word.Known names after
  added : ∀ text ∈ after, text ∈ before ∨ .literal text ∈ words

namespace Resolved

variable {names before middle after : List String} {words others : List Word}

theorem nil (names before : List String) : Resolved names before [] before where
  grows := .refl before
  known := fun _ present => absurd present List.not_mem_nil
  added := fun _ present => .inl present

theorem append (first : Resolved names before words middle)
    (later : Resolved names middle others after) :
    Resolved names before (words ++ others) after where
  grows := first.grows.trans later.grows
  known := by
    intro word present
    rcases List.mem_append.mp present with inWords | inOthers
    · exact (first.known word inWords).mono later.grows.1
    · exact later.known word inOthers
  added := by
    intro text present
    rcases later.added text present with inMiddle | inOthers
    · rcases first.added text inMiddle with inBefore | inWords
      · exact .inl inBefore
      · exact .inr (List.mem_append_left _ inWords)
    · exact .inr (List.mem_append_right _ inOthers)

/-- Literals that are added later change no symbol. -/
theorem map_symbol_eq (resolved : Resolved names before words middle) (grows : middle <+: after) :
    words.map (Word.symbol names middle) = words.map (Word.symbol names after) :=
  List.map_congr_left fun word present => (resolved.known word present).symbol_eq grows

end Resolved

/-- A literal is known once it is added, in its place. -/
theorem resolved_intern (names : List String) (text : String) (before : List String) :
    Resolved names before [.literal text] (intern text before).2 ∧
      (intern text before).1 = (intern text before).2.idxOf text := by
  unfold intern
  split
  · rename_i index found
    obtain ⟨inside, place⟩ := List.findIdx?_eq_some_iff_findIdx_eq.mp found
    have place : before.idxOf text = index := place
    have present : text ∈ before := List.idxOf_lt_length_iff.mp (place ▸ inside)
    exact ⟨⟨.refl before, by simpa [Word.Known] using present, fun _ => .inl⟩, place.symm⟩
  · rename_i missing
    -- A literal is added only if it is not among those known, so none is added twice.
    have absent : text ∉ before := by
      intro present
      have differs := List.findIdx?_eq_none_iff.mp missing text present
      simp at differs
    refine ⟨⟨⟨List.prefix_append _ _, fun distinct => ?_⟩, by simp [Word.Known], ?_⟩, ?_⟩
    · exact List.nodup_append_comm.mp (List.nodup_cons.mpr ⟨absent, distinct⟩)
    · intro other present
      rcases List.mem_append.mp present with old | new
      · exact .inl old
      · rw [List.mem_singleton.mp new]
        exact .inr List.mem_cons_self
    · rw [List.idxOf_append_of_notMem absent]
      simp

section Resolve

variable {names before after : List String}

theorem resolved_word {word : Word} {symbol : Symbol}
    (found : resolveWord (startName :: names) before word = .ok (symbol, after)) :
    Resolved names before [word] after ∧ symbol = word.symbol names after := by
  cases word with
  | literal text =>
    obtain ⟨rfl, rfl⟩ := Prod.mk.inj (Except.ok.inj found)
    obtain ⟨resolved, place⟩ := resolved_intern names text before
    exact ⟨resolved, congrArg Symbol.terminal place⟩
  | reference name =>
    unfold resolveWord at found
    dsimp only at found
    split at found
    · rename_i index place
      obtain ⟨rfl, rfl⟩ := Prod.mk.inj (Except.ok.inj found)
      obtain ⟨inside, place⟩ := List.findIdx?_eq_some_iff_findIdx_eq.mp place
      have place : (startName :: names).idxOf name = index + 1 := place
      have other : startName ≠ name := by
        rintro rfl
        rw [List.idxOf_cons_self] at place
        cases place
      rw [List.idxOf_cons_ne _ other] at place
      obtain rfl := Nat.succ.inj place
      have present : name ∈ names := List.idxOf_lt_length_iff.mp (Nat.lt_of_succ_lt_succ inside)
      refine ⟨⟨.refl before, ?_, fun _ => .inl⟩, rfl⟩
      simpa [Word.Known] using present
    · cases found

theorem resolved_alternative {words : List Word} {symbols : List Symbol}
    (found : resolveAlternative (startName :: names) before words = .ok (symbols, after)) :
    Resolved names before words after ∧ symbols = words.map (Word.symbol names after) := by
  induction words generalizing before symbols with
  | nil =>
    obtain ⟨rfl, rfl⟩ := Prod.mk.inj (Except.ok.inj found)
    exact ⟨.nil names before, rfl⟩
  | cons word rest ih =>
    obtain ⟨⟨symbol, middle⟩, first, remaining⟩ := bind_eq_ok.mp found
    obtain ⟨⟨others, final⟩, later, same⟩ := bind_eq_ok.mp remaining
    obtain ⟨rfl, rfl⟩ := Prod.mk.inj (Except.ok.inj same)
    obtain ⟨resolved, rfl⟩ := resolved_word first
    obtain ⟨resolvedLater, rfl⟩ := ih later
    have kept := resolved.map_symbol_eq resolvedLater.grows.1
    exact ⟨resolved.append resolvedLater, congrArg (· ++ rest.map _) kept⟩

theorem resolved_alternatives {words : List (List Word)} {alternatives : List (List Symbol)}
    (found : resolveAlternatives (startName :: names) before words = .ok (alternatives, after)) :
    Resolved names before words.flatten after ∧
      alternatives = words.map (List.map (Word.symbol names after)) := by
  induction words generalizing before alternatives with
  | nil =>
    obtain ⟨rfl, rfl⟩ := Prod.mk.inj (Except.ok.inj found)
    exact ⟨.nil names before, rfl⟩
  | cons first rest ih =>
    obtain ⟨⟨symbols, middle⟩, now, remaining⟩ := bind_eq_ok.mp found
    obtain ⟨⟨others, final⟩, later, same⟩ := bind_eq_ok.mp remaining
    obtain ⟨rfl, rfl⟩ := Prod.mk.inj (Except.ok.inj same)
    obtain ⟨resolved, rfl⟩ := resolved_alternative now
    obtain ⟨resolvedLater, rfl⟩ := ih later
    have kept := resolved.map_symbol_eq resolvedLater.grows.1
    exact ⟨resolved.append resolvedLater, congrArg (· :: rest.map _) kept⟩

theorem resolved_definitions {definitions : List Definition} {rules : List Rule}
    (found : resolveDefinitions (startName :: names) before definitions = .ok (rules, after)) :
    Resolved names before (definitions.flatMap Definition.words) after ∧
      rules = definitions.map (Definition.rule names after) := by
  induction definitions generalizing before rules with
  | nil =>
    obtain ⟨rfl, rfl⟩ := Prod.mk.inj (Except.ok.inj found)
    exact ⟨.nil names before, rfl⟩
  | cons definition rest ih =>
    obtain ⟨⟨alternatives, middle⟩, now, remaining⟩ := bind_eq_ok.mp found
    obtain ⟨⟨others, final⟩, later, same⟩ := bind_eq_ok.mp remaining
    obtain ⟨rfl, rfl⟩ := Prod.mk.inj (Except.ok.inj same)
    obtain ⟨resolved, rfl⟩ := resolved_alternatives now
    obtain ⟨resolvedLater, rfl⟩ := ih later
    refine ⟨resolved.append resolvedLater, ?_⟩
    rw [List.map_cons, Definition.rule, List.cons.injEq, Rule.mk.injEq]
    refine ⟨⟨rfl, rfl, List.map_congr_left fun words listed => ?_⟩, rfl⟩
    refine List.map_congr_left fun word occurs => ?_
    exact (resolved.known word (List.mem_flatten_of_mem listed occurs)).symbol_eq
      resolvedLater.grows.1

/-! ### Words that can be looked up -/

variable (fresh : startName ∉ names)
include fresh

theorem exists_resolveWord {word : Word} (bound : word.IsBound names) (before : List String) :
    ∃ result, resolveWord (startName :: names) before word = .ok result := by
  cases word with
  | literal text => exact ⟨_, rfl⟩
  | reference name =>
    have other : startName ≠ name := by
      rintro rfl
      exact fresh bound
    have place : (startName :: names).findIdx? (· == name) = some (names.idxOf name + 1) := by
      refine List.findIdx?_eq_some_iff_findIdx_eq.mpr ⟨?_, List.idxOf_cons_ne names other⟩
      exact Nat.succ_lt_succ (List.idxOf_lt_length_iff.mpr bound)
    simp only [resolveWord, place]
    exact ⟨_, rfl⟩

theorem exists_resolveAlternative {words : List Word} (bound : ∀ word ∈ words, word.IsBound names)
    (before : List String) :
    ∃ result, resolveAlternative (startName :: names) before words = .ok result := by
  induction words generalizing before with
  | nil => exact ⟨_, rfl⟩
  | cons word rest ih =>
    rw [List.forall_mem_cons] at bound
    obtain ⟨first, now⟩ := exists_resolveWord fresh bound.1 before
    obtain ⟨others, later⟩ := ih bound.2 first.2
    exact ⟨_, bind_eq_ok.mpr ⟨first, now, bind_eq_ok.mpr ⟨others, later, rfl⟩⟩⟩

theorem exists_resolveAlternatives {words : List (List Word)}
    (bound : ∀ word ∈ words.flatten, word.IsBound names) (before : List String) :
    ∃ result, resolveAlternatives (startName :: names) before words = .ok result := by
  induction words generalizing before with
  | nil => exact ⟨_, rfl⟩
  | cons alternative rest ih =>
    rw [List.flatten_cons, List.forall_mem_append] at bound
    obtain ⟨first, now⟩ := exists_resolveAlternative fresh bound.1 before
    obtain ⟨others, later⟩ := ih bound.2 first.2
    exact ⟨_, bind_eq_ok.mpr ⟨first, now, bind_eq_ok.mpr ⟨others, later, rfl⟩⟩⟩

theorem exists_resolveDefinitions {definitions : List Definition}
    (bound : ∀ word ∈ definitions.flatMap Definition.words, word.IsBound names)
    (before : List String) :
    ∃ result, resolveDefinitions (startName :: names) before definitions = .ok result := by
  induction definitions generalizing before with
  | nil => exact ⟨_, rfl⟩
  | cons definition rest ih =>
    rw [List.flatMap_cons, List.forall_mem_append] at bound
    obtain ⟨first, now⟩ := exists_resolveAlternatives fresh bound.1 before
    obtain ⟨others, later⟩ := ih bound.2 first.2
    exact ⟨_, bind_eq_ok.mpr ⟨first, now, bind_eq_ok.mpr ⟨others, later, rfl⟩⟩⟩

end Resolve

/-! ### Loading -/

/-- No name is found twice if there is none among those before and none occurs twice. -/
theorem repeatedName?_eq_none_iff {seen names : List String} :
    repeatedName? seen names = none ↔ names.Nodup ∧ ∀ name ∈ names, name ∉ seen := by
  induction names generalizing seen with
  | nil => simp [repeatedName?]
  | cons name rest ih =>
    unfold repeatedName?
    split
    · rename_i repeated
      simp only [List.contains_iff_mem] at repeated
      simp [repeated]
    · rename_i first
      simp only [List.contains_iff_mem] at first
      rw [ih, List.nodup_cons, List.forall_mem_cons]
      constructor
      · rintro ⟨distinct, apart⟩
        refine ⟨⟨fun again => apart name again List.mem_cons_self, distinct⟩, first, ?_⟩
        exact fun other present old => apart other present (List.mem_cons_of_mem _ old)
      · rintro ⟨⟨once, distinct⟩, -, apart⟩
        refine ⟨distinct, fun other present => ?_⟩
        rw [List.mem_cons, not_or]
        exact ⟨fun same => once (same ▸ present), apart other present⟩

/-- The names of the rules that definitions and token classes have. -/
def ruleNames (classes : List String) (definitions : List Definition) : List String :=
  definitions.map Definition.name ++ classes.map classRuleName

/-- The grammar that definitions become over token classes: each becomes a rule, and the literals
are those that occur in them, with the empty one as the first. -/
structure Declares (grammar : Grammar) (classes : List String) (definitions : List Definition) :
    Prop where
  classes_eq : grammar.classes = classes
  rules_eq : grammar.rules = ⟨startName, .start, [[.rule 1]]⟩ ::
    (definitions.map (Definition.rule (ruleNames classes definitions) grammar.terminals) ++
      classRules 0 classes)
  definitions_ne_nil : definitions ≠ []
  names_nodup : (startName :: ruleNames classes definitions).Nodup
  resolved : Resolved (ruleNames classes definitions) [""] (definitions.flatMap Definition.words)
    grammar.terminals

theorem map_name_classRules (index : ClassIndex) (classes : List String) :
    (classRules index classes).map Rule.name = classes.map classRuleName := by
  induction classes generalizing index with
  | nil => rfl
  | cons name rest ih => exact congrArg (classRuleName name :: ·) (ih (index + 1))

/-- The rules of token classes have no alternatives. -/
theorem alternatives_of_mem_classRules {index : ClassIndex} {classes : List String} {rule : Rule}
    (listed : rule ∈ classRules index classes) : rule.alternatives = [] := by
  obtain ⟨kind, found⟩ := List.mem_iff_getElem?.mp listed
  rw [getElem?_classRules] at found
  obtain ⟨_, -, rfl⟩ := Option.map_eq_some_iff.mp found
  rfl

variable {grammar : Grammar} {classes : List String} {definitions : List Definition}

/-- What is loaded is what definitions become. -/
theorem declares_of_ofDefinitions (found : ofDefinitions classes definitions = .ok grammar) :
    grammar.Declares classes definitions := by
  unfold ofDefinitions at found
  dsimp only at found
  split at found
  · cases found
  rename_i nonempty
  split at found
  · cases found
  rename_i distinct
  obtain ⟨⟨declared, terminals⟩, looked, same⟩ := bind_eq_ok.mp found
  obtain rfl := Except.ok.inj same
  have nodup := (repeatedName?_eq_none_iff.mp distinct).1
  obtain ⟨resolved, rfl⟩ := resolved_definitions looked
  exact ⟨rfl, rfl, fun empty => nonempty (List.isEmpty_iff.mpr empty), nodup, resolved⟩

namespace Declares

variable (declares : grammar.Declares classes definitions)
include declares

theorem map_name_rules :
    grammar.rules.map Rule.name = startName :: ruleNames classes definitions := by
  rw [declares.rules_eq, List.map_cons, List.map_append, List.map_map, map_name_classRules]
  rfl

theorem length_rules : grammar.rules.length = (ruleNames classes definitions).length + 1 := by
  rw [← List.length_map Rule.name, declares.map_name_rules, List.length_cons]

theorem terminals_nodup : grammar.terminals.Nodup := declares.resolved.grows.2 (by simp)

theorem terminals_zero : grammar.terminals[0]? = some "" := by
  obtain ⟨added, same⟩ := declares.resolved.grows.1
  rw [← same]
  rfl

/-- The literals are those that occur, and the empty one. -/
theorem mem_terminals_iff {text : String} : text ∈ grammar.terminals ↔
    text = "" ∨ .literal text ∈ definitions.flatMap Definition.words := by
  constructor
  · intro present
    rcases declares.resolved.added text present with first | occurs
    · exact .inl (List.mem_singleton.mp first)
    · exact .inr occurs
  · rintro (rfl | occurs)
    · exact List.mem_of_getElem? declares.terminals_zero
    · exact declares.resolved.known _ occurs

theorem nodup_map_name_rules : (grammar.rules.map Rule.name).Nodup := by
  rw [declares.map_name_rules]
  exact declares.names_nodup

/-- Rules of the same name are the same. -/
theorem eq_of_name_eq {left right : Rule} (leftListed : left ∈ grammar.rules)
    (rightListed : right ∈ grammar.rules) (same : left.name = right.name) : left = right :=
  List.inj_on_of_nodup_map declares.nodup_map_name_rules leftListed rightListed same

/-- The rule that starts every derivation is the first. -/
theorem name_startRule : (grammar.rules.map Rule.name)[startRule]? = some startName := by
  rw [declares.map_name_rules]
  rfl

/-- The first definition becomes rule 1. -/
theorem name_firstDeclared :
    (grammar.rules.map Rule.name)[1]? = (definitions.map Definition.name).head? := by
  rw [declares.map_name_rules, ruleNames]
  obtain ⟨first, rest, rfl⟩ := List.exists_cons_of_ne_nil declares.definitions_ne_nil
  rfl

end Declares

/-- Definitions are loaded if there are some, no name is given twice, and all names in them are
those of rules. -/
theorem exists_ofDefinitions_iff : (∃ grammar, ofDefinitions classes definitions = .ok grammar) ↔
    definitions ≠ [] ∧ (startName :: ruleNames classes definitions).Nodup ∧
      ∀ word ∈ definitions.flatMap Definition.words,
        word.IsBound (ruleNames classes definitions) := by
  constructor
  · rintro ⟨grammar, found⟩
    have declares := declares_of_ofDefinitions found
    exact ⟨declares.definitions_ne_nil, declares.names_nodup,
      fun word present => (declares.resolved.known word present).isBound⟩
  · rintro ⟨nonempty, nodup, bound⟩
    obtain ⟨result, resolved⟩ :=
      exists_resolveDefinitions (List.nodup_cons.mp nodup).1 bound [""]
    have distinct : repeatedName? [] (startName :: ruleNames classes definitions) = none :=
      repeatedName?_eq_none_iff.mpr ⟨nodup, fun _ _ => List.not_mem_nil⟩
    rw [ruleNames, ← List.cons_append] at distinct resolved
    unfold ofDefinitions
    simp only [List.isEmpty_iff, nonempty, if_false, distinct, resolved]
    exact ⟨_, rfl⟩

end Grammar

end ShiftReduce
