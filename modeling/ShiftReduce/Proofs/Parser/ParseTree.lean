import Mathlib.Data.List.Basic
import ShiftReduce.Parser.Engine
import ShiftReduce.Proofs.Grammar.WellFormed

/-!
# Parse trees

A parse tree of some tokens stands for a symbol: a leaf for a literal that the tokens spell out or
for one token of a class, and a branch for an alternative of a rule, with a tree for each symbol.
Together the trees of an alternative take the tokens of the branch, in order.

## Main definitions

* `Grammar.Parses`, `Grammar.ParsesAll` — the parse trees of symbols and of rows of them
* `Takes` — what the engine takes for the symbol that it acts on

## Main results

* `spelledWidth?_spec`, `spelledWidth?_of_join` — the tokens that spell out a literal
* `Grammar.WellFormed.parses_of_takes` — what is taken is a leaf of a parse tree
-/

namespace ShiftReduce

/-! ### Spelling out literals -/

/-- The tokens that spell out a literal are there, are no ends, and have it as their text. -/
theorem spelledWidth?_spec {literal : List Char} {tokens : List Token} {width : Nat}
    (found : spelledWidth? literal tokens = some width) :
    0 < width ∧ width ≤ tokens.length ∧ (∀ token ∈ tokens.take width, token.isEnd = false) ∧
      (tokens.take width).flatMap (fun token => token.value.toList) = literal := by
  induction tokens generalizing literal width with
  | nil => cases found
  | cons token rest ih =>
    rw [spelledWidth?] at found
    split at found
    · cases found
    · rename_i inside
      have notEnd : token.isEnd = false := Bool.eq_false_iff.mpr inside
      -- The token has text besides the literal, ends the literal, or leaves some of it unspelled.
      split at found
      · cases found
      · rename_i whole
        obtain rfl := Option.some.inj found
        have text := List.isPrefixOf?_eq_some_iff_append_eq.mp whole
        simp [notEnd, ← text]
      · rename_i char unspelled more
        obtain ⟨fewer, later, rfl⟩ := Option.map_eq_some_iff.mp found
        obtain ⟨-, bound, unread, text⟩ := ih later
        rw [← List.isPrefixOf?_eq_some_iff_append_eq.mp more]
        simp only [List.take_succ_cons, List.flatMap_cons, text, List.length_cons]
        refine ⟨Nat.succ_pos _, Nat.succ_le_succ bound, ?_, trivial⟩
        rintro other (_ | ⟨_, present⟩)
        · exact notEnd
        · exact unread other present

/-- Tokens with text spell out what they have as their text, with others behind them as well. -/
theorem spelledWidth?_of_join {literal : List Char} {tokens rest : List Token}
    (nonempty : tokens ≠ []) (visible : ∀ token ∈ tokens, token.value ≠ "")
    (unread : ∀ token ∈ tokens, token.isEnd = false)
    (text : tokens.flatMap (fun token => token.value.toList) = literal) :
    spelledWidth? literal (tokens ++ rest) = some tokens.length := by
  induction tokens generalizing literal with
  | nil => exact absurd rfl nonempty
  | cons token later ih =>
    have notEnd := unread token List.mem_cons_self
    rw [List.flatMap_cons] at text
    rw [List.cons_append, spelledWidth?, if_neg (Bool.eq_false_iff.mp notEnd),
      List.isPrefixOf?_eq_some_iff_append_eq.mpr text]
    cases later with
    | nil => rfl
    | cons second later =>
      have others : ∀ other ∈ second :: later, other.value ≠ "" :=
        fun other present => visible other (List.mem_cons_of_mem _ present)
      have unspelled := ih (List.cons_ne_nil _ _) others
        (fun other present => unread other (List.mem_cons_of_mem _ present)) rfl
      obtain ⟨char, chars, same⟩ : ∃ char chars, (second :: later).flatMap
          (fun token => token.value.toList) = char :: chars := by
        refine List.exists_cons_of_ne_nil fun empty => others second List.mem_cons_self ?_
        rw [List.flatMap_cons, List.append_eq_nil_iff] at empty
        exact String.toList_eq_nil_iff.mp empty.1
      rw [same] at unspelled ⊢
      exact congrArg (Option.map (· + 1)) unspelled

/-! ### Parse trees -/

namespace Grammar

/-- The class of the leaf of a literal: that of the token, if it is only one. -/
def literalClass? (grammar : Grammar) : List Token → Option String
  | [token] => grammar.className? token.kind
  | _ => none

mutual

/-- The parse trees of a symbol over some tokens. -/
inductive Parses (grammar : Grammar) : Symbol → List Token → Node → Prop
  | epsilon : Parses grammar .epsilon [] .epsilon
  | literal {index : TerminalIndex} {tokens : List Token} : grammar.terminal index ≠ "" →
      tokens ≠ [] → String.join (tokens.map Token.value) = grammar.terminal index →
      Parses grammar (.terminal index) tokens
        (.leaf (grammar.terminal index) (grammar.literalClass? tokens))
  | token {rule : RuleIndex} {name : String} {token : Token} :
      grammar.classRule? token.kind = some rule → grammar.className? token.kind = some name →
      token.isEnd = false → Parses grammar (.rule rule) [token] (.leaf token.value (some name))
  | inputEnd : Parses grammar (.rule grammar.endRule) [] .epsilon
  | branch {rule : RuleIndex} {symbols : List Symbol} {tokens : List Token}
      {children : List Node} : symbols ∈ grammar.alternatives rule →
      ParsesAll grammar symbols tokens children →
      Parses grammar (.rule rule) tokens (.branch (grammar.ruleName rule) children)

/-- The parse trees of a row of symbols over some tokens. -/
inductive ParsesAll (grammar : Grammar) : List Symbol → List Token → List Node → Prop
  | nil : ParsesAll grammar [] [] []
  | cons {symbol : Symbol} {symbols : List Symbol} {front back : List Token} {node : Node}
      {nodes : List Node} : Parses grammar symbol front node →
      ParsesAll grammar symbols back nodes →
      ParsesAll grammar (symbol :: symbols) (front ++ back) (node :: nodes)

end

variable {grammar : Grammar}

/-- The parse trees of a rule that is no terminal are branches. -/
theorem Parses.exists_branch {symbol : Symbol} {tokens : List Token} {node : Node}
    (parses : grammar.Parses symbol tokens node) (wellFormed : grammar.WellFormed)
    {rule : RuleIndex} (same : symbol = .rule rule)
    (derives : grammar.isTerminal (.rule rule) = false) :
    ∃ symbols ∈ grammar.alternatives rule, ∃ children,
      grammar.ParsesAll symbols tokens children ∧
        node = .branch (grammar.ruleName rule) children := by
  cases parses with
  | epsilon => cases same
  | literal _ _ _ => cases same
  | token found _ _ =>
    cases same
    rw [wellFormed.isTerminal_of_classRule? found] at derives
    cases derives
  | inputEnd =>
    cases same
    rw [wellFormed.isTerminal_endRule] at derives
    cases derives
  | branch listed all =>
    cases same
    exact ⟨_, listed, _, all, rfl⟩

theorem ParsesAll.append {left right : List Symbol} {front back : List Token}
    {nodes others : List Node} (first : grammar.ParsesAll left front nodes)
    (second : grammar.ParsesAll right back others) :
    grammar.ParsesAll (left ++ right) (front ++ back) (nodes ++ others) := by
  induction left generalizing front nodes with
  | nil =>
    cases first
    exact second
  | cons symbol left ih =>
    cases first with
    | cons parses later =>
      rw [List.append_assoc]
      exact .cons parses (ih later)

theorem parsesAll_singleton {symbol : Symbol} {tokens : List Token} {node : Node}
    (parses : grammar.Parses symbol tokens node) : grammar.ParsesAll [symbol] tokens [node] := by
  have all := ParsesAll.cons parses .nil
  rwa [List.append_nil] at all

end Grammar

/-! ### Taking tokens -/

/-- What the engine takes for the symbol that it acts on: the tokens that spell out a literal, one
token for its class, and none for the end of the input or the empty literal. -/
inductive Takes (grammar : Grammar) : List Token → Symbol → Nat → Prop
  | literal {tokens : List Token} {index : TerminalIndex} {width : Nat} :
      spelledWidth? (grammar.terminal (index + 1)).toList tokens = some width →
      Takes grammar tokens (.terminal (index + 1)) width
  | token {token : Token} {rest : List Token} {rule : RuleIndex} :
      grammar.classRule? token.kind = some rule → token.isEnd = false →
      Takes grammar (token :: rest) (.rule rule) 1
  | inputEnd {token : Token} {rest : List Token} : token.isEnd = true →
      Takes grammar (token :: rest) (.rule grammar.endRule) 0
  | epsilon {token : Token} {rest : List Token} : Takes grammar (token :: rest) .epsilon 0

namespace Takes

variable {grammar : Grammar} {tokens : List Token} {symbol : Symbol} {width : Nat}

/-- Only tokens that are there are taken, and no ends. -/
theorem le_length (takes : Takes grammar tokens symbol width) :
    width ≤ tokens.length ∧ ∀ token ∈ tokens.take width, token.isEnd = false := by
  cases takes with
  | literal found =>
    obtain ⟨-, bound, unread, -⟩ := spelledWidth?_spec found
    exact ⟨bound, unread⟩
  | token _ notEnd => simp [notEnd]
  | inputEnd _ => simp
  | epsilon => simp

theorem ne_nil (takes : Takes grammar tokens symbol width) : tokens ≠ [] := by
  rintro rfl
  cases takes with
  | literal found => cases found

/-- What is taken is taken for a terminal. -/
theorem isTerminal (takes : Takes grammar tokens symbol width) (wellFormed : grammar.WellFormed) :
    grammar.isTerminal symbol = true := by
  cases takes with
  | literal _ => rfl
  | token known _ => exact wellFormed.isTerminal_of_classRule? known
  | inputEnd _ => exact wellFormed.isTerminal_endRule
  | epsilon => rfl

/-- A token is taken for the rule of its class, unless it is an end. -/
theorem of_classRule? {token : Token} {rest : List Token} {rule : RuleIndex}
    (known : grammar.classRule? token.kind = some rule) :
    Takes grammar (token :: rest) (.rule rule) (if token.isEnd then 0 else 1) := by
  by_cases ends : token.isEnd = true
  · have kind : token.kind = endClass := beq_iff_eq.mp ends
    have same : grammar.endRule = rule := by
      rw [Grammar.endRule, ← kind, known]
      rfl
    rw [if_pos ends, ← same]
    exact .inputEnd ends
  · rw [if_neg ends]
    exact .token known (Bool.eq_false_iff.mpr ends)

theorem classRule?_eq {token : Token} {rest : List Token} {rule : RuleIndex}
    (takes : Takes grammar (token :: rest) (.rule rule) width) (wellFormed : grammar.WellFormed) :
    grammar.classRule? token.kind = some rule ∧ width = if token.isEnd then 0 else 1 := by
  cases takes with
  | token known notEnd => exact ⟨known, by rw [notEnd]; rfl⟩
  | inputEnd ends =>
    have kind : token.kind = endClass := beq_iff_eq.mp ends
    exact ⟨kind ▸ wellFormed.classRule?_endClass, by rw [ends]; rfl⟩

/-- The rule of the end is acted on only where the next token is an end. -/
theorem isEnd_of_endRule (takes : Takes grammar tokens (.rule grammar.endRule) width)
    (wellFormed : grammar.WellFormed) :
    ∃ token rest, tokens = token :: rest ∧ token.isEnd = true := by
  cases takes with
  | @token token rest _ found notEnd =>
    have kind := wellFormed.classRule?_inj found wellFormed.classRule?_endClass
    rw [Token.isEnd, kind] at notEnd
    cases notEnd
  | @inputEnd token rest ends => exact ⟨token, rest, rfl, ends⟩

end Takes

/-- The leaf of tokens that spell out a literal. -/
theorem Engine.leaf_of_join {engine : Engine} {tokens : List Token} {text : String}
    (nonempty : tokens ≠ []) (joined : String.join (tokens.map Token.value) = text) :
    engine.leaf tokens = .leaf text (engine.grammar.literalClass? tokens) := by
  subst joined
  match tokens with
  | [] => exact absurd rfl nonempty
  | [token] => simp [leaf, Grammar.literalClass?]
  | _ :: _ :: _ => rfl

/-- What is taken is a leaf of a parse tree. -/
theorem Grammar.WellFormed.parses_of_takes {grammar : Grammar} (wellFormed : grammar.WellFormed)
    {table : Table} {tokens : List Token} {symbol : Symbol} {width : Nat}
    (inRange : symbol.InRange grammar.rules.length grammar.terminals.length)
    (takes : Takes grammar tokens symbol width) :
    grammar.Parses symbol (tokens.take width)
      (Engine.leaf ⟨grammar, table⟩ (tokens.take width)) := by
  cases takes with
  | @literal _ index _ found =>
    obtain ⟨positive, bound, -, text⟩ := spelledWidth?_spec found
    have joined : String.join ((tokens.take width).map Token.value) =
        grammar.terminal (index + 1) := by
      rw [← String.toList_inj, String.toList_join, List.flatMap_map, text]
    have visible : grammar.terminal (index + 1) ≠ "" :=
      fun empty => Nat.succ_ne_zero _ ((wellFormed.terminal_eq_empty_iff inRange).mp empty)
    have nonempty : tokens.take width ≠ [] := by
      refine List.ne_nil_of_length_pos ?_
      rw [List.length_take]
      omega
    rw [Engine.leaf_of_join nonempty joined]
    exact .literal visible nonempty joined
  | @token token rest rule found notEnd =>
    obtain ⟨name, known, -⟩ := wellFormed.classRule?_eq_some found
    rw [List.take_succ_cons, List.take_zero, Engine.leaf, known]
    exact .token found known notEnd
  | inputEnd _ => exact .inputEnd
  | epsilon => exact .epsilon

/-- The tokens of the leaf of a literal are taken for it. -/
theorem Grammar.WellFormed.takes_of_join {grammar : Grammar} (wellFormed : grammar.WellFormed)
    {index : TerminalIndex} {tokens rest : List Token} (text : grammar.terminal index ≠ "")
    (nonempty : tokens ≠ [])
    (joined : String.join (tokens.map Token.value) = grammar.terminal index)
    (visible : ∀ token ∈ tokens, token.value ≠ "")
    (unread : ∀ token ∈ tokens, token.isEnd = false) :
    Symbol.terminal index ≠ .epsilon ∧
      Takes grammar (tokens ++ rest) (.terminal index) tokens.length := by
  match index with
  | 0 => exact absurd wellFormed.terminal_zero text
  | index + 1 =>
    refine ⟨Symbol.literal_ne_epsilon index, .literal ?_⟩
    refine spelledWidth?_of_join nonempty visible unread ?_
    rw [← joined, String.toList_join, List.flatMap_map]

end ShiftReduce
