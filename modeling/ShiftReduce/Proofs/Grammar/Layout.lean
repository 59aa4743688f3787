import ShiftReduce.Proofs.Grammar.Lexemes
import ShiftReduce.Proofs.Grammar.Rows
import ShiftReduce.Proofs.Grammar.Lookup

/-!
# Layouts of grammars

Definitions may be written in many ways: with spaces between lexemes or without, with their
alternatives over several lines, with blank lines, and with blanks of every kind at the ends of
lines. From each of them, the definitions are read again, and their words become the symbols that
they name.

## Main definitions

* `Definition.IsSpace`, `Definition.IsBreak` — what may stand between lexemes
* `Definition.Spread`, `Definition.Written` — ways to write lexemes and definitions
* `Definition.IsLayout` — ways to write a grammar
* `Grammar.Means` — the symbols that words stand for

## Main results

* `Definition.IsLayout.holds` — a layout holds the definitions that it writes
* `Grammar.exists_ofText_of_isLayout` — what is loaded from a layout
-/

namespace ShiftReduce

/-- What is written for a lexeme is a row. -/
theorem Bnf.Spells.isRow {lexeme : Lexeme} {text : List Char} (spells : Spells lexeme text) :
    Text.IsRow text := by
  cases spells with
  | define => exact ⟨by decide, ⟨':', rfl, rfl⟩, ⟨'=', rfl, rfl⟩⟩
  | pipe => exact ⟨by decide, ⟨'|', rfl, rfl⟩, ⟨'|', rfl, rfl⟩⟩
  | @reference name isName =>
    have noBreak : '\n' ∉ name.toList := notMem_of_isName isName (by decide) (by decide)
    exact ⟨by simp [noBreak], ⟨'<', rfl, rfl⟩, ⟨'>', List.getLast?_concat, rfl⟩⟩
  | @literal inner quote isQuote _ noBreak =>
    have visible : Text.isBlank quote = false := by
      obtain rfl | rfl := isQuote <;> rfl
    have other : '\n' ≠ quote := by
      obtain rfl | rfl := isQuote <;> decide
    exact ⟨by simp [noBreak, other], ⟨quote, rfl, visible⟩, ⟨quote, List.getLast?_concat, visible⟩⟩

namespace Definition

/-! ### Layouts -/

/-- Space within a line. -/
def IsSpace (text : List Char) : Prop := ∀ char ∈ text, char = ' ' ∨ char = '\t' ∨ char = '\x0C'

/-- The end of a line, with blanks of every kind and blank lines around it. -/
def IsBreak (text : List Char) : Prop := '\n' ∈ text ∧ ∀ char ∈ text, Text.isBlank char = true

/-- Lexemes are written one after the other, each behind space or the end of a line. -/
inductive Spread : List Bnf.Lexeme → List Char → Prop
  | nil : Spread [] []
  | cons {lexeme : Bnf.Lexeme} {lexemes : List Bnf.Lexeme} {gap token text : List Char} :
      IsSpace gap ∨ IsBreak gap → Bnf.Spells lexeme token → Spread lexemes text →
      Spread (lexeme :: lexemes) (gap ++ (token ++ text))

/-- The lexemes of the alternatives of a definition, with a bar between any two of them. -/
def body (definition : Definition) : List Bnf.Lexeme :=
  [Bnf.Lexeme.pipe].intercalate (definition.alternatives.map (List.map Word.lexeme))

/-- A definition is written with its name and `::=` on one line, and its alternatives behind. -/
inductive Written (definition : Definition) : List Char → Prop
  | intro {name space define text : List Char} : Bnf.Spells (.reference definition.name) name →
      IsSpace space → Bnf.Spells .define define → Spread definition.body text →
      Written definition (name ++ (space ++ define) ++ text)

/-- Definitions are written one after the other, each on lines of its own. -/
inductive WrittenAll : List Definition → List Char → Prop
  | last {definition : Definition} {text blanks : List Char} : definition.Written text →
      (∀ char ∈ blanks, Text.isBlank char = true) → WrittenAll [definition] (text ++ blanks)
  | cons {definition : Definition} {rest : List Definition} {text gap others : List Char} :
      definition.Written text → IsBreak gap → WrittenAll rest others →
      WrittenAll (definition :: rest) (text ++ (gap ++ others))

/-- A text writes some definitions, with any blanks in front. -/
def IsLayout (definitions : List Definition) (text : String) : Prop :=
  ∃ blanks rest, text.toList = blanks ++ rest ∧ (∀ char ∈ blanks, Text.isBlank char = true) ∧
    WrittenAll definitions rest

/-! ### Parts of a layout -/

theorem IsSpace.noBreak {text : List Char} (isSpace : IsSpace text) : '\n' ∉ text := by
  intro present
  have differs := isSpace _ present
  revert differs
  decide

theorem IsSpace.lexemes_eq {text : List Char} (isSpace : IsSpace text) :
    Bnf.lexemes text = .ok [] := by
  apply Bnf.lexemes_of_isSeparator
  intro char present
  rcases isSpace char present with rfl | rfl | rfl <;> rfl

/-- Words are written without `::=`. -/
theorem define_notMem_body (definition : Definition) : Bnf.Lexeme.define ∉ definition.body := by
  have noWord (word : Word) : word.lexeme ≠ .define := by cases word <;> simp [Word.lexeme]
  unfold body
  induction definition.alternatives with
  | nil => exact List.not_mem_nil
  | cons words rest ih =>
    cases rest with
    | nil => simpa using fun word _ => noWord word
    | cons next rest =>
      rw [List.map_cons, List.map_cons, List.intercalate_cons_cons, ← List.map_cons]
      simpa using ⟨fun word _ => noWord word, ih⟩

/-! ### Rows of a layout -/

/-- The rows of lexemes that are written behind a row, and those of what follows on lines of its
own: the row itself with lexemes of the same line, and rows with the other lexemes. -/
theorem Spread.exists_rows {lexemes : List Bnf.Lexeme} {text : List Char}
    (spread : Spread lexemes text) {behind : List Char} {tail : List (List Char)}
    (ends : ∀ row, Text.IsRow row → Text.rows (row ++ behind) = row :: tail) {row : List Char}
    (isRow : Text.IsRow row) {before : List Bnf.Lexeme} (lexed : Bnf.lexemes row = .ok before) :
    ∃ first others same different,
      Text.rows (row ++ (text ++ behind)) = first :: (others ++ tail) ∧
      Bnf.lexemes first = .ok (before ++ same) ∧
      List.Forall₂ (fun other lexemes => Bnf.lexemes other = .ok lexemes) others different ∧
      lexemes = same ++ different.flatten := by
  induction spread generalizing row before with
  | nil =>
    refine ⟨row, [], [], [], ends row isRow, ?_, .nil, rfl⟩
    rw [lexed, List.append_nil]
  | @cons lexeme lexemes gap token text separates spells _ ih =>
    obtain isSpace | isBreak := separates
    · -- On the same line, the lexeme makes the row longer.
      have longer := isRow.append isSpace.noBreak spells.isRow
      have longerLexed := Bnf.lexemes_append lexed
        (Bnf.lexemes_append isSpace.lexemes_eq spells.lexemes_eq)
      obtain ⟨first, others, same, different, rows, firstLexed, othersLexed, rfl⟩ :=
        ih longer longerLexed
      refine ⟨first, others, lexeme :: same, different, ?_, ?_, othersLexed, rfl⟩
      · rw [← rows]
        simp
      · rw [firstLexed]
        simp
    · -- On another line, it starts a row of its own.
      obtain ⟨first, others, same, different, rows, firstLexed, othersLexed, rfl⟩ :=
        ih spells.isRow spells.lexemes_eq
      refine ⟨row, first :: others, [], ([lexeme] ++ same) :: different, ?_, ?_,
        .cons firstLexed othersLexed, by simp⟩
      · have parts : row ++ (gap ++ (token ++ text) ++ behind) =
            row ++ (gap ++ (token ++ (text ++ behind))) := by simp
        rw [parts, isRow.rows_append_break isBreak.2 isBreak.1, rows, List.cons_append]
      · rw [lexed, List.append_nil]

/-- Joined rows have the lexemes of all of them. -/
theorem lexemes_joined {first : List Char} {others : List (List Char)} {before : List Bnf.Lexeme}
    {different : List (List Bnf.Lexeme)} (lexed : Bnf.lexemes first = .ok before)
    (othersLexed : List.Forall₂ (fun other lexemes => Bnf.lexemes other = .ok lexemes) others
      different) : Bnf.lexemes (joined first others) = .ok (before ++ different.flatten) := by
  induction othersLexed generalizing first before with
  | nil => rw [List.flatten_nil, List.append_nil]; exact lexed
  | @cons row found others different rowLexed _ ih =>
    have behind : Bnf.lexemes (' ' :: row) = .ok found :=
      (Bnf.lexemes_cons_of_isSeparator rfl row).trans rowLexed
    rw [List.flatten_cons, ← List.append_assoc]
    exact ih (Bnf.lexemes_append lexed behind)

/-- Rows without `::=` start no definitions. -/
theorem startsDefinition_eq_false {others : List (List Char)}
    {different : List (List Bnf.Lexeme)} (othersLexed : List.Forall₂
      (fun other lexemes => Bnf.lexemes other = .ok lexemes) others different)
    (absent : .define ∉ different.flatten) :
    ∀ row ∈ others, Bnf.startsDefinition row = false := by
  induction othersLexed with
  | nil => exact nofun
  | @cons row found others different rowLexed _ ih =>
    rw [List.flatten_cons, List.mem_append, not_or] at absent
    refine List.forall_mem_cons.mpr ⟨?_, ih absent.2⟩
    rw [Bool.eq_false_iff, ne_eq, Bnf.startsDefinition_iff rowLexed]
    rintro ⟨_, _, rfl⟩
    simp at absent

/-- A definition that is written is joined to its lexemes, whatever follows on lines of its own. -/
theorem Written.exists_joinRows? {definition : Definition} {text : List Char}
    (written : definition.Written text) {behind : List Char} {tail : List (List Char)}
    (ends : ∀ row, Text.IsRow row → Text.rows (row ++ behind) = row :: tail)
    (done : List (List Char)) :
    ∃ part, Bnf.lexemes part = .ok definition.lexemes ∧
      joinRows? done (Text.rows (text ++ behind)) = joinRows? (part :: done) tail := by
  obtain ⟨named, isSpace, defines, spread⟩ := written
  have isRow := named.isRow.append isSpace.noBreak defines.isRow
  have lexed := Bnf.lexemes_append named.lexemes_eq
    (Bnf.lexemes_append isSpace.lexemes_eq defines.lexemes_eq)
  obtain ⟨first, others, same, different, rows, firstLexed, othersLexed, parts⟩ :=
    spread.exists_rows ends isRow lexed
  have starts : Bnf.startsDefinition first = true :=
    (Bnf.startsDefinition_iff firstLexed).mpr ⟨_, _, rfl⟩
  have goOn : ∀ row ∈ others, Bnf.startsDefinition row = false := by
    apply startsDefinition_eq_false othersLexed
    intro present
    apply definition.define_notMem_body
    rw [parts]
    exact List.mem_append_right _ present
  refine ⟨joined first others, ?_, ?_⟩
  · rw [lexemes_joined firstLexed othersLexed, List.append_assoc, ← parts]
    rfl
  · rw [List.append_assoc, rows, joinRows?_append starts goOn]

/-- From a layout, the rows of each definition are joined to its lexemes. -/
theorem WrittenAll.exists_joinRows? {definitions : List Definition} {text : List Char}
    (written : WrittenAll definitions text) (done : List (List Char)) :
    ∃ parts, joinRows? done (Text.rows text) = some (done.reverse ++ parts) ∧
      parts.map Bnf.lexemes = definitions.map fun definition => .ok definition.lexemes := by
  -- What is joined before is arbitrary, so the rest is joined behind the first definition.
  induction written generalizing done with
  | @last definition text blanks written blank =>
    obtain ⟨part, lexed, joins⟩ :=
      written.exists_joinRows? (fun row isRow => isRow.rows_append_end blank) done
    refine ⟨[part], ?_, by simp [lexed]⟩
    rw [joins, joinRows?, List.reverse_cons]
  | @cons definition rest text gap others written isBreak _ ih =>
    obtain ⟨part, lexed, joins⟩ := written.exists_joinRows?
      (fun row isRow => isRow.rows_append_break isBreak.2 isBreak.1 others) done
    obtain ⟨parts, joinsRest, lexedRest⟩ := ih (part :: done)
    refine ⟨part :: parts, ?_, by simp [lexed, lexedRest]⟩
    rw [joins, joinsRest]
    simp

/-- A layout holds the definitions that it writes. -/
theorem IsLayout.holds {definitions : List Definition} {text : String}
    (isLayout : IsLayout definitions text) : Holds text definitions := by
  obtain ⟨blanks, rest, same, blank, written⟩ := isLayout
  obtain ⟨parts, joins, lexed⟩ := written.exists_joinRows? []
  have joinedLines := toOption_joinLines 1 [] (Text.lines text.toList)
  rw [← Text.rows, same, Text.rows_append_of_isBlank blank, List.map_nil, joins, ← same]
    at joinedLines
  unfold Holds
  cases lines : joinLines 1 [] (Text.lines text.toList) with
  | error error =>
    rw [lines] at joinedLines
    cases joinedLines
  | ok found =>
    rw [lines] at joinedLines
    have texts : found.map Prod.snd = parts := by simpa [Except.toOption] using joinedLines
    rw [← lexed, ← texts]
    simp [Except.map]

end Definition

namespace Grammar

/-! ### What is loaded -/

/-- The symbols that words stand for: the literal of the same text, and the rule of that name. -/
inductive Means (grammar : Grammar) : Word → Symbol → Prop
  | literal {text : String} {index : TerminalIndex} : grammar.terminals[index]? = some text →
      Means grammar (.literal text) (.terminal index)
  | reference {rule : RuleIndex} {found : Rule} : grammar.rules[rule]? = some found →
      Means grammar (.reference found.name) (.rule rule)

/-- A rule is what a definition declares: it has the same name, and alternatives with symbols that
the words stand for, in the same order. -/
structure IsRuleOf (grammar : Grammar) (definition : Definition) (rule : Rule) : Prop where
  name_eq : rule.name = definition.name
  kind_eq : rule.kind = .declared
  alternatives : List.Forall₂ (List.Forall₂ grammar.Means) definition.alternatives rule.alternatives

section Declares

variable {grammar : Grammar} {classes : List String} {definitions : List Definition}

/-- A word that is known stands for its symbol. -/
theorem Declares.means_symbol (declares : grammar.Declares classes definitions) {word : Word}
    (known : word.Known (ruleNames classes definitions) grammar.terminals) :
    grammar.Means word (word.symbol (ruleNames classes definitions) grammar.terminals) := by
  cases word with
  | literal text => exact .literal (List.getElem?_idxOf known)
  | reference name =>
    have place : (grammar.rules.map Rule.name)[(ruleNames classes definitions).idxOf name + 1]? =
        some name := by
      rw [declares.map_name_rules, List.getElem?_cons_succ]
      exact List.getElem?_idxOf known
    rw [List.getElem?_map] at place
    obtain ⟨found, isFound, rfl⟩ := Option.map_eq_some_iff.mp place
    exact .reference isFound

/-- A definition becomes a rule that it declares. -/
theorem Declares.isRuleOf (declares : grammar.Declares classes definitions)
    {definition : Definition} (listed : definition ∈ definitions) :
    grammar.IsRuleOf definition
      (definition.rule (ruleNames classes definitions) grammar.terminals) where
  name_eq := rfl
  kind_eq := rfl
  alternatives := by
    rw [Definition.rule, List.forall₂_map_right_iff, List.forall₂_same]
    intro words inAlternatives
    rw [List.forall₂_map_right_iff, List.forall₂_same]
    intro word inWords
    apply declares.means_symbol
    apply declares.resolved.known
    exact List.mem_flatMap.mpr ⟨definition, listed, List.mem_flatten_of_mem inAlternatives inWords⟩

end Declares

/-- No two rules have the same name, where no two definitions have and none has that of a class. -/
theorem nodup_ruleNames {classes : List String} {definitions : List Definition}
    (classesDistinct : classes.Nodup) (distinct : (definitions.map Definition.name).Nodup)
    (named : ∀ definition ∈ definitions, Definition.isName definition.name = true)
    (apart : ∀ definition ∈ definitions, ∀ className ∈ classes,
      definition.name ≠ classRuleName className) :
    (startName :: ruleNames classes definitions).Nodup := by
  rw [List.nodup_cons, ruleNames, List.mem_append, not_or, List.nodup_append]
  refine ⟨⟨?_, ?_⟩, distinct, ?_, ?_⟩
  · intro present
    obtain ⟨definition, listed, same⟩ := List.mem_map.mp present
    have absent : '#' ∉ definition.name.toList :=
      Bnf.notMem_of_isName (named definition listed) (by decide) (by decide)
    rw [same] at absent
    exact absent (by decide)
  · intro present
    obtain ⟨className, -, same⟩ := List.mem_map.mp present
    have heads := congrArg (fun name => name.toList.head?) same
    simp [classRuleName, startName] at heads
  · refine classesDistinct.map fun left right same => ?_
    exact (String.append_right_inj _).mp same
  · intro name isDefined other isClass
    obtain ⟨definition, listed, rfl⟩ := List.mem_map.mp isDefined
    obtain ⟨className, inClasses, rfl⟩ := List.mem_map.mp isClass
    exact apart definition listed className inClasses

/-- From every layout of definitions, over the classes of a lexer, a grammar is loaded: the rule
that starts every derivation stands for the first definition, the definitions become rules in the
same order, and the rules of the classes follow. -/
theorem exists_ofText_of_isLayout {lexer : Lexer} (reachable : lexer.Reachable)
    {definitions : List Definition} (nonempty : definitions ≠ [])
    (readable : ∀ definition ∈ definitions, definition.IsReadable)
    (distinct : (definitions.map Definition.name).Nodup)
    (apart : ∀ definition ∈ definitions, ∀ className ∈ lexer.classNames,
      definition.name ≠ classRuleName className)
    (bound : ∀ word ∈ definitions.flatMap Definition.words,
      word.IsBound (ruleNames lexer.classNames definitions))
    {text : String} (isLayout : Definition.IsLayout definitions text) :
    ∃ grammar declared, ofText lexer text = .ok grammar ∧
      grammar.rules =
        ⟨startName, .start, [[.rule 1]]⟩ :: (declared ++ classRules 0 lexer.classNames) ∧
      List.Forall₂ grammar.IsRuleOf definitions declared ∧
      (grammar.rules.map Rule.name).Nodup ∧ grammar.terminals.Nodup ∧
      grammar.terminals[0]? = some "" := by
  have read : Definition.ofText text = .ok definitions :=
    isLayout.holds.ofText_eq_ok_iff.mpr ⟨readable, rfl⟩
  have nodup := nodup_ruleNames reachable.wellFormed.classNames_nodup distinct
    (fun definition listed => (readable definition listed).isName) apart
  obtain ⟨grammar, found⟩ := exists_ofDefinitions_iff.mpr ⟨nonempty, nodup, bound⟩
  have declares := declares_of_ofDefinitions found
  refine ⟨grammar, _, bind_eq_ok.mpr ⟨definitions, read, found⟩, declares.rules_eq, ?_,
    declares.nodup_map_name_rules, declares.terminals_nodup, declares.terminals_zero⟩
  rw [List.forall₂_map_right_iff, List.forall₂_same]
  exact fun definition listed => declares.isRuleOf listed

/-- Definitions with literals that look like parts of definitions. -/
def scattered : List Definition :=
  [⟨"list", [[.reference "item", .literal "::= |"], [.literal ""]]⟩,
    ⟨"item", [[.reference "Token-EOL"], [.reference "list", .literal "\""]]⟩]

/-- A text for them with few spaces, with lines that are broken in front of literals, with a blank
line, and with blanks at the ends of lines that may not stand between lexemes. -/
def scatteredText : String :=
  "\u00a0\n<list>::=<item>\r\n\u2003\"::= |\"|\n\n''\x0c\u0085\n " ++
    "<item>\t::=\n<Token-EOL>|<list>'\"'\t"

theorem isLayout_scattered : Definition.IsLayout scattered scatteredText := by
  have nothing : Definition.IsSpace [] := nofun
  have tab : Definition.IsSpace ['\t'] := by simp [Definition.IsSpace]
  have wideBreak : Definition.IsBreak ['\r', '\n', '\u2003'] :=
    ⟨by decide, List.all_eq_true.mp rfl⟩
  have blankLine : Definition.IsBreak ['\n', '\n'] := ⟨by decide, List.all_eq_true.mp rfl⟩
  have between : Definition.IsBreak ['\x0c', '\u0085', '\n', ' '] :=
    ⟨by decide, List.all_eq_true.mp rfl⟩
  have lineBreak : Definition.IsBreak ['\n'] := ⟨by decide, List.all_eq_true.mp rfl⟩
  have ending : ∀ char ∈ ['\t'], Text.isBlank char = true := List.all_eq_true.mp rfl
  have list : Definition.Written
      ⟨"list", [[.reference "item", .literal "::= |"], [.literal ""]]⟩ _ :=
    .intro (.reference (by decide)) nothing .define <|
      .cons (.inl nothing) (.reference (by decide)) <|
      .cons (.inr wideBreak) (.literal (.inl rfl) (by decide) (by decide)) <|
      .cons (.inl nothing) .pipe <|
      .cons (.inr blankLine) (.literal (.inr rfl) (by decide) (by decide)) .nil
  have item : Definition.Written
      ⟨"item", [[.reference "Token-EOL"], [.reference "list", .literal "\""]]⟩ _ :=
    .intro (.reference (by decide)) tab .define <|
      .cons (.inr lineBreak) (.reference (by decide)) <|
      .cons (.inl nothing) .pipe <|
      .cons (.inl nothing) (.reference (by decide)) <|
      .cons (.inl nothing) (.literal (.inr rfl) (by decide) (by decide)) .nil
  exact ⟨['\u00a0', '\n'], _, by decide +kernel, List.all_eq_true.mp rfl,
    .cons list between (.last item ending)⟩

/-- The definitions are read again and become rules in the same order. -/
theorem exists_ofText_scattered : ∃ grammar declared,
    ofText Lexer.initial scatteredText = .ok grammar ∧
    grammar.rules = ⟨startName, .start, [[.rule 1]]⟩ :: (declared ++
      [⟨"Token-EOL", .tokenClass lineBreakClass, []⟩, ⟨"Token-EOF", .tokenClass endClass, []⟩]) ∧
    List.Forall₂ grammar.IsRuleOf scattered declared := by
  obtain ⟨grammar, declared, loaded, rules, isRules, -⟩ :=
    exists_ofText_of_isLayout .initial (List.cons_ne_nil _ _) (by decide) (by decide) (by decide)
      (by decide) isLayout_scattered
  exact ⟨grammar, declared, loaded, rules, isRules⟩

end Grammar

end ShiftReduce
