import ShiftReduce.Proofs.Grammar.Lexemes
import ShiftReduce.Proofs.Parser.Reproduction
import ShiftReduce.Proofs.Tree.Origins
import ShiftReduce.Proofs.Tree.Outline

/-!
# Diagrams of parses

The nodes of a parse tree are leaves of its tokens and branches of rules. Rules have names without
line feeds, and so it is tokens and the names of their classes that decide whether the diagrams of
the tree and of its syntax tree are legible.

## Main definitions

* `Grammar.IsPart` — what a node of a parse tree is

## Main results

* `Grammar.Parses.isPart` — each node of a parse tree is a leaf of its tokens or a branch of a rule
* `Language.isLegible_of_yields` — which diagrams of parses are legible
-/

namespace ShiftReduce

/-! ### Nodes of parse trees -/

/-- No rule that has alternatives has a line feed in its name. -/
theorem Grammar.notMem_ruleName {grammar : Grammar} {lexer : Lexer} {text : String}
    (loaded : ofText lexer text = .ok grammar) {rule : RuleIndex} {symbols : List Symbol}
    (listed : symbols ∈ grammar.alternatives rule) : '\n' ∉ (grammar.ruleName rule).toList := by
  obtain ⟨definitions, read, found⟩ := bind_eq_ok.mp loaded
  have declares := declares_of_ofDefinitions found
  obtain ⟨found, known, inside⟩ := mem_alternatives_iff.mp listed
  have present := List.mem_of_getElem? known
  rw [ruleName, known, Option.map_some, Option.getD_some]
  rw [declares.rules_eq, List.mem_cons, List.mem_append, List.mem_map] at present
  rcases present with rfl | ⟨definition, written, rfl⟩ | ofClass
  · decide
  · have readable := Definition.isReadable_of_ofText read definition written
    exact Bnf.notMem_of_isName readable.isName (by decide) (by decide)
  · rw [alternatives_of_mem_classRules ofClass] at inside
    cases inside

/-- The nodes of a parse tree of some tokens: leaves of text from these and of the class of one of
them or of none, and branches of rules that have alternatives. -/
inductive Grammar.IsPart (grammar : Grammar) (tokens : List Token) : Node → Prop
  | leaf {value : String} {tokenClass : Option String} :
      (∀ char ∈ value.toList, ∃ token ∈ tokens, char ∈ token.value.toList) →
      (∀ name ∈ tokenClass, name ∈ grammar.classes) → IsPart grammar tokens (.leaf value tokenClass)
  | branch {rule : RuleIndex} {symbols : List Symbol} {children : List Node} :
      symbols ∈ grammar.alternatives rule →
      IsPart grammar tokens (.branch (grammar.ruleName rule) children)

namespace Grammar

variable {grammar : Grammar} {tokens others : List Token} {node : Node}

theorem isPart_epsilon : grammar.IsPart tokens .epsilon := .leaf nofun nofun

theorem IsPart.mono (isPart : grammar.IsPart tokens node) (subset : tokens ⊆ others) :
    grammar.IsPart others node := by
  cases isPart with
  | leaf made classed =>
    refine .leaf (fun char present => ?_) classed
    obtain ⟨token, taken, inside⟩ := made char present
    exact ⟨token, subset taken, inside⟩
  | branch listed => exact .branch listed

theorem mem_classes_of_literalClass? {name : String}
    (found : name ∈ grammar.literalClass? tokens) : name ∈ grammar.classes := by
  match tokens with
  | [] => cases found
  | [token] => exact List.mem_of_getElem? found
  | _ :: _ :: _ => cases found

mutual

/-- Every node of a parse tree is a leaf of its tokens or a branch of a rule. -/
theorem Parses.isPart {symbol : Symbol} {tokens : List Token} {node : Node}
    (parses : grammar.Parses symbol tokens node) :
    ∀ part ∈ node.preorder, grammar.IsPart tokens part := by
  cases parses with
  | epsilon => exact List.forall_mem_singleton.mpr isPart_epsilon
  | literal _ _ joined =>
    refine List.forall_mem_singleton.mpr (.leaf (fun char present => ?_) fun name named => ?_)
    · rw [← joined, String.toList_join, List.flatMap_map] at present
      exact List.mem_flatMap.mp present
    · exact mem_classes_of_literalClass? named
  | token _ named _ =>
    refine List.forall_mem_singleton.mpr (.leaf (fun char present => ?_) fun name same => ?_)
    · exact ⟨_, List.mem_singleton_self _, present⟩
    · exact Option.some.inj same ▸ List.mem_of_getElem? named
  | inputEnd => exact List.forall_mem_singleton.mpr isPart_epsilon
  | branch listed all =>
    rw [Node.preorder_eq, List.forall_mem_cons]
    exact ⟨.branch listed, all.isPart⟩

/-- And so is every node of parse trees that stand in a row. -/
theorem ParsesAll.isPart {symbols : List Symbol} {tokens : List Token} {nodes : List Node}
    (all : grammar.ParsesAll symbols tokens nodes) :
    ∀ part ∈ Node.preorderAll nodes, grammar.IsPart tokens part := by
  cases all with
  | nil => exact nofun
  | cons parses later =>
    rw [Node.preorderAll, List.forall_mem_append]
    constructor
    · intro part present
      exact (parses.isPart part present).mono (List.subset_append_left _ _)
    · intro part present
      exact (later.isPart part present).mono (List.subset_append_right _ _)

end

end Grammar

/-! ### Line feeds in diagrams -/

namespace Node

variable {node : Node}

/-- What is said of a leaf has no line feed if neither its text nor its class has one. -/
theorem notMem_caption_leaf {value : String} {tokenClass : Option String}
    (text : '\n' ∉ value.toList) (classed : ∀ name ∈ tokenClass, '\n' ∉ name.toList) :
    '\n' ∉ (leaf value tokenClass).caption.toList := by
  have short : '\n' ∉ (shorten value).toList := by
    rw [shorten, String.toList_ofList, Text.excerpt]
    split
    · simpa using fun present => text (List.mem_of_mem_take present)
    · exact text
  by_cases empty : value.isEmpty = true
  · simp [caption, empty]
  · cases tokenClass with
    | none => rwa [caption, if_neg empty]
    | some name =>
      have noBreak := classed name rfl
      rw [caption, if_neg empty]
      simp [short, noBreak]

end Node

namespace Language

variable {language : Language} {lexer : Lexer} (reachable : lexer.Reachable) {text : String}
  (built : ofText lexer text = .ok language) {input : String} {derivation : Derivation}
  (yields : language.Yields input (.ok derivation))
include reachable built yields

/-- The nodes of the tree of an input are leaves of its tokens and branches of rules. -/
theorem isPart_of_yields : ∀ part ∈ derivation.tree.preorder,
    language.parser.grammar.IsPart (language.lexer.tokenize input).tokens part := by
  have tabled := table_of_ofText built
  obtain ⟨rfl, loaded, -⟩ := ofText_eq_ok_iff.mp built
  obtain ⟨-, yields⟩ := yields.tokens nofun
  have wellFormed := Grammar.Loaded.wellFormed ⟨_, reachable, text, loaded⟩
  obtain ⟨frame, -, tree, taken, parses⟩ :=
    wellFormed.exists_frame_of_yields (wellFormed.sound_table tabled) yields
  intro part present
  rw [tree] at present
  have isPart := parses.isPart part present
  rw [← taken] at isPart
  exact isPart.mono (List.takeWhile_subset _)

theorem notMem_ruleNames_of_yields : ∀ name ∈ derivation.tree.ruleNames, '\n' ∉ name.toList := by
  have areParts := isPart_of_yields reachable built yields
  obtain ⟨-, loaded, -⟩ := ofText_eq_ok_iff.mp built
  intro name present
  obtain ⟨part, inside, named⟩ := List.mem_filterMap.mp present
  cases areParts part inside with
  | leaf => cases named
  | branch listed =>
    obtain rfl := Option.some.inj named
    exact Grammar.notMem_ruleName loaded listed

/-- Where tokens and the names of classes have no line feeds, there are none in what is said of the
leaves. -/
theorem notMem_caption_of_yields
    (unbroken : ∀ token ∈ (language.lexer.tokenize input).tokens, '\n' ∉ token.value.toList)
    (classed : ∀ name ∈ language.lexer.classNames, '\n' ∉ name.toList) :
    ∀ leaf ∈ derivation.tree.fringe, '\n' ∉ leaf.caption.toList := by
  have areParts := isPart_of_yields reachable built yields
  obtain ⟨rfl, loaded, -⟩ := ofText_eq_ok_iff.mp built
  obtain ⟨definitions, -, found⟩ := bind_eq_ok.mp loaded
  have classes := (Grammar.declares_of_ofDefinitions found).classes_eq
  intro leaf present
  rw [Node.fringe_eq_filter, List.mem_filter] at present
  cases areParts leaf present.1 with
  | leaf made fromClasses =>
    refine Node.notMem_caption_leaf (fun broken => ?_) fun name isClass => ?_
    · obtain ⟨token, taken, inside⟩ := made _ broken
      exact unbroken token taken inside
    · exact classed name (classes ▸ fromClasses name isClass)
  | branch => cases present.2

/-- The diagrams of the tree of an input and of its syntax tree have a line for each node, and one
more for each line feed in what is said of a node. They are legible exactly if nothing that is said
of a leaf has a line feed; so they are if no token and no name of a class has one. -/
theorem isLegible_of_yields :
    (∀ tree ∈ [derivation.tree, derivation.tree.toAst],
      (Text.lines tree.diagram.toList).length =
        tree.size + (tree.preorder.flatMap fun part => part.caption.toList).count '\n' ∧
      (tree.IsLegible ↔ ∀ leaf ∈ tree.fringe, '\n' ∉ leaf.caption.toList)) ∧
    ((∀ token ∈ (language.lexer.tokenize input).tokens, '\n' ∉ token.value.toList) →
      (∀ name ∈ language.lexer.classNames, '\n' ∉ name.toList) →
      derivation.tree.IsLegible ∧ derivation.tree.toAst.IsLegible) := by
  have named := notMem_ruleNames_of_yields reachable built yields
  have ofTree := Node.isLegible_iff_of_ruleNames named
  have ofAst : derivation.tree.toAst.IsLegible ↔
      ∀ leaf ∈ derivation.tree.toAst.fringe, '\n' ∉ leaf.caption.toList := by
    apply Node.isLegible_iff_of_ruleNames
    rw [Node.toAst_eq_ast]
    exact fun name present => named name ((Node.ruleNames_ast_sublist _).subset present)
  refine ⟨?_, fun unbroken classed => ?_⟩
  · simp only [List.forall_mem_cons, List.not_mem_nil, false_imp_iff, implies_true, and_true]
    exact ⟨⟨Node.length_lines_diagram _, ofTree⟩, Node.length_lines_diagram _, ofAst⟩
  · have leaves := notMem_caption_of_yields reachable built yields unbroken classed
    refine ⟨ofTree.mpr leaves, ofAst.mpr fun leaf present => leaves leaf ?_⟩
    rw [Node.toAst_eq_ast] at present
    exact (Node.fringe_ast_sublist _).subset present

end Language

/-! ### A language with line breaks -/

/-- The text of a grammar of letters and line breaks in any order. -/
def Grammar.notesText : String :=
  "<notes> ::= <notes> <note> | \"\"\n<note> ::= <Token-letter> | <Token-EOL>"

/-- What is loaded from that text over a lexer with letters. -/
def Grammar.notes : Grammar where
  rules := [⟨startName, .start, [[.rule 1]]⟩,
    ⟨"notes", .declared, [[.rule 1, .rule 2], [.terminal 0]]⟩,
    ⟨"note", .declared, [[.rule 5], [.rule 3]]⟩,
    ⟨"Token-EOL", .tokenClass lineBreakClass, []⟩, ⟨"Token-EOF", .tokenClass endClass, []⟩,
    ⟨"Token-letter", .tokenClass 2, []⟩]
  terminals := [""]
  classes := ["EOL", "EOF", "letter"]

/-- Its table: one token after the other is taken for a note and put behind those before it. -/
def Grammar.notesTable : Table where
  rows := [
    ⟨[(.terminal 0, .shift 1)], [(1, 2)]⟩,
    ⟨[(.rule 3, .reduce 1 1), (.rule 4, .reduce 1 1), (.rule 5, .reduce 1 1)], []⟩,
    ⟨[(.rule 3, .shift 4), (.rule 4, .accept), (.rule 5, .shift 5)], [(2, 3)]⟩,
    ⟨[(.rule 3, .reduce 1 0), (.rule 4, .reduce 1 0), (.rule 5, .reduce 1 0)], []⟩,
    ⟨[(.rule 3, .reduce 2 1), (.rule 4, .reduce 2 1), (.rule 5, .reduce 2 1)], []⟩,
    ⟨[(.rule 3, .reduce 2 0), (.rule 4, .reduce 2 0), (.rule 5, .reduce 2 0)], []⟩]
  resolved := []

/-- The tree of two notes. -/
def Node.ofNotes (first second : Node) : Node :=
  .branch "notes" [.branch "notes" [.branch "notes" [.epsilon], .branch "note" [first]],
    .branch "note" [second]]

namespace Language

/-- The language of notes. -/
def notes : Language := ⟨Lexer.withLetters, Grammar.notes, Grammar.notes.buildTables⟩

theorem ofText_notes : ofText Lexer.withLetters Grammar.notesText = .ok notes := by
  have loaded : Grammar.ofText Lexer.withLetters Grammar.notesText = .ok Grammar.notes :=
    eq_ok_of_toOption (by decide +kernel)
  have unopposed : Grammar.notes.buildTables.conflict = none := by decide +kernel
  exact ofText_eq_ok_iff.mpr ⟨rfl, loaded, rfl, unopposed⟩

/-- An input of notes is parsed the way its tokens are. -/
theorem yields_notes {input : String} {tokens : List Token} {result : Except ParseError Derivation}
    (cut : Lexer.withLetters.tokenize input = ⟨true, tokens, "", initialState⟩)
    (yields : Engine.Yields ⟨Grammar.notes, Grammar.notesTable⟩ tokens result) :
    notes.Yields input result := by
  have tabled : Grammar.notes.buildTables.table = Grammar.notesTable := by decide +kernel
  rw [Yields, notes, cut, if_pos rfl, Parser.engine, tabled]
  exact yields

/-- The diagrams of two letters, of eight and five nodes: no token and no class has a line feed. -/
theorem isLegible_letters :
    (Node.ofNotes (.leaf "a" (some "letter")) (.leaf "b" (some "letter"))).IsLegible ∧
    (Node.ofNotes (.leaf "a" (some "letter")) (.leaf "b" (some "letter"))).toAst.IsLegible := by
  have cut : Lexer.withLetters.tokenize " a\tb" =
      ⟨true, [⟨"a", 2, 1, 2⟩, ⟨"b", 2, 3, 4⟩], "", initialState⟩ := by
    cbv
  have yields : notes.Yields " a\tb"
      (.ok ⟨.ofNotes (.leaf "a" (some "letter")) (.leaf "b" (some "letter")),
        [⟨1, 1⟩, ⟨2, 0⟩, ⟨1, 0⟩, ⟨2, 0⟩, ⟨1, 0⟩]⟩) :=
    yields_notes cut ⟨12, rfl⟩
  have reachable : Lexer.withLetters.Reachable := .apply _ .initial
  apply (isLegible_of_yields reachable ofText_notes yields).2
  · rw [notes, cut]
    decide
  · decide

/-- Not all diagrams of parses are legible. A line break among the notes puts a line feed into its
line, and what is said of it behind that stands in a line without a node. -/
theorem not_forall_isLegible : ¬ ∀ (lexer : Lexer) (text : String) (language : Language),
    lexer.Reachable → ofText lexer text = .ok language →
    ∀ (input : String) (derivation : Derivation), language.Yields input (.ok derivation) →
      derivation.tree.IsLegible ∧ derivation.tree.toAst.IsLegible := by
  intro legible
  have cut : Lexer.withLetters.tokenize "a \n" =
      ⟨true, [⟨"a", 2, 0, 1⟩, ⟨"\n", lineBreakClass, 2, 3⟩], "", initialState⟩ := by
    cbv
  have yields : notes.Yields "a \n"
      (.ok ⟨.ofNotes (.leaf "a" (some "letter")) (.leaf "\n" (some "EOL")),
        [⟨1, 1⟩, ⟨2, 0⟩, ⟨1, 0⟩, ⟨2, 1⟩, ⟨1, 0⟩]⟩) :=
    yields_notes cut ⟨12, rfl⟩
  have reachable : Lexer.withLetters.Reachable := .apply _ .initial
  have ofTree := (legible _ _ _ reachable ofText_notes _ _ yields).1
  have unbroken := (Node.isLegible_iff _).mp ofTree (.leaf "\n" (some "EOL"))
    (by simp [Node.ofNotes, Node.preorder, Node.preorderAll])
  exact unbroken (by decide)

end Language

end ShiftReduce
