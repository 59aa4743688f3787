import Mathlib.Data.Set.Card
import ShiftReduce.Proofs.Parser.Prefixes

/-!
# Recursion behind nothing

Where every rule has parse trees, something may come next in every moment of a parse. A table that
leaves no choice open then keeps rules from leading back to themselves behind symbols that come to
nothing: in front of a terminal that may come next, such symbols could be put there forever. So
there is only so much room for symbols that come to nothing, and each production that puts some in
front of a rule takes up some of it.

## Main definitions

* `Grammar.Productive` — every rule has parse trees
* `Grammar.Leads` — productions that lead to a rule behind what comes to nothing
* `Grammar.headroom` — to how many rules they lead with something in front

## Main results

* `Grammar.Productive.exists_starts` — something may come next
* `Table.Decisive.eq_nil_of_leads` — no rule leads to itself behind something
* `Table.Decisive.headroom_lt` — what is put in front of a rule takes some of the room
-/

namespace ShiftReduce

namespace Grammar

/-- Every rule with alternatives has parse trees. -/
def Productive (grammar : Grammar) : Prop :=
  ∀ rule, grammar.alternatives rule ≠ [] → ∃ tokens tree, grammar.Parses (.rule rule) tokens tree

/-- Productions that lead from a rule to another one, with symbols in front of it that come to
nothing and others behind it. -/
inductive Leads (grammar : Grammar) :
    RuleIndex → List Symbol → List Symbol → RuleIndex → Prop
  | refl {rule : RuleIndex} : Leads grammar rule [] [] rule
  | head {rule next last : RuleIndex} {left right before after : List Symbol} :
      left ++ .rule next :: right ∈ grammar.alternatives rule → grammar.Vanishes left →
      Leads grammar next before after last →
      Leads grammar rule (left ++ before) (after ++ right) last

/-- The number of rules that productions lead to with something in front. -/
noncomputable def headroom (grammar : Grammar) (rule : RuleIndex) : Nat :=
  Set.ncard {last | ∃ before after, grammar.Leads rule before after last ∧ before ≠ []}

variable {grammar : Grammar}

/-! ### What may come next -/

mutual

/-- What has a parse tree comes to nothing or starts with something. -/
theorem Parses.vanishes_or_starts {symbol : Symbol} {tokens : List Token} {node : Node}
    (parses : grammar.Parses symbol tokens node) (wellFormed : grammar.WellFormed) :
    grammar.Vanishes [symbol] ∨ ∃ terminal, grammar.Starts [symbol] terminal := by
  cases parses with
  | epsilon => exact .inl (.epsilon .nil)
  | @literal index _ text _ _ =>
    match index with
    | 0 => exact absurd wellFormed.terminal_zero text
    | index + 1 => exact .inr ⟨_, .terminal rfl (Symbol.literal_ne_epsilon index)⟩
  | token known _ _ =>
    exact .inr ⟨_, .terminal (wellFormed.isTerminal_of_classRule? known) (Symbol.rule_ne_epsilon _)⟩
  | inputEnd => exact .inr ⟨_, .terminal wellFormed.isTerminal_endRule (Symbol.rule_ne_epsilon _)⟩
  | branch listed all =>
    rcases all.vanishes_or_starts wellFormed with vanishes | ⟨terminal, begins⟩
    · exact .inl (.rule listed vanishes .nil)
    · exact .inr ⟨terminal, .expand listed begins⟩

theorem ParsesAll.vanishes_or_starts {symbols : List Symbol} {tokens : List Token}
    {nodes : List Node} (all : grammar.ParsesAll symbols tokens nodes)
    (wellFormed : grammar.WellFormed) :
    grammar.Vanishes symbols ∨ ∃ terminal, grammar.Starts symbols terminal := by
  cases all with
  | nil => exact .inl .nil
  | cons parses later =>
    rcases parses.vanishes_or_starts wellFormed with vanishes | ⟨terminal, begins⟩
    · rcases later.vanishes_or_starts wellFormed with others | ⟨terminal, begins⟩
      · exact .inl (vanishes.append others)
      · exact .inr ⟨terminal, .skip vanishes begins⟩
    · exact .inr ⟨terminal, begins.append_left _⟩

end

/-- A symbol of an alternative has a parse tree. -/
theorem Productive.exists_parses (productive : grammar.Productive)
    (wellFormed : grammar.WellFormed) {symbol : Symbol} (occurs : symbol ∈ grammar.used) :
    ∃ tokens tree, grammar.Parses symbol tokens tree := by
  obtain ⟨_, _, listed, inside⟩ := mem_used_iff.mp occurs
  have inRange := wellFormed.inRange listed inside
  match symbol with
  | .terminal 0 => exact ⟨_, _, .epsilon⟩
  | .terminal (index + 1) =>
    have text : grammar.terminal (index + 1) ≠ "" :=
      fun empty => Nat.succ_ne_zero _ ((wellFormed.terminal_eq_empty_iff inRange).mp empty)
    exact ⟨[⟨grammar.terminal (index + 1), lineBreakClass, 0, 0⟩], _,
      .literal text (List.cons_ne_nil _ _) (by simp)⟩
  | .rule rule =>
    have known := List.getElem?_eq_getElem inRange.2
    obtain ⟨offset, cases⟩ := wellFormed.rule_cases
    obtain ⟨rfl, -⟩ | declared | ⟨kind, name, -, listed, same⟩ := cases known
    · exact absurd inRange.1 (Nat.lt_irrefl 0)
    · refine productive rule ?_
      rw [alternatives, known]
      exact declared.alternatives_ne_nil
    · have found := wellFormed.classRule?_of_kind known (congrArg Rule.kind same)
      by_cases ends : kind = endClass
      · obtain rfl : grammar.endRule = rule := by
          rw [endRule, ← ends, found]
          rfl
        exact ⟨_, _, .inputEnd⟩
      · exact ⟨[⟨"", kind, 0, 0⟩], _, .token found listed (beq_eq_false_iff_ne.mpr ends)⟩

/-- A symbol of an alternative comes to nothing or starts with something. -/
theorem Productive.vanishes_or_starts (productive : grammar.Productive)
    (wellFormed : grammar.WellFormed) {symbol : Symbol} (occurs : symbol ∈ grammar.used) :
    grammar.Vanishes [symbol] ∨ ∃ terminal, grammar.Starts [symbol] terminal := by
  obtain ⟨_, _, parses⟩ := productive.exists_parses wellFormed occurs
  exact parses.vanishes_or_starts wellFormed

/-- Symbols of alternatives with the end of the input behind them start with something. -/
theorem Productive.exists_starts (productive : grammar.Productive)
    (wellFormed : grammar.WellFormed) {symbols : List Symbol}
    (occur : ∀ symbol ∈ symbols, symbol ∈ grammar.used) :
    ∃ terminal, grammar.Starts (symbols ++ [.rule grammar.endRule]) terminal := by
  induction symbols with
  | nil => exact ⟨_, .terminal wellFormed.isTerminal_endRule (Symbol.rule_ne_epsilon _)⟩
  | cons symbol rest ih =>
    rw [List.forall_mem_cons] at occur
    rcases productive.vanishes_or_starts wellFormed occur.1 with vanishes | ⟨terminal, begins⟩
    · obtain ⟨terminal, begins⟩ := ih occur.2
      exact ⟨terminal, .skip vanishes begins⟩
    · exact ⟨terminal, begins.append_left (rest ++ [.rule grammar.endRule])⟩

theorem productive_sample : sample.Productive := by
  have nothing : sample.Parses (.rule 2) [] _ := .branch (by decide) (parsesAll_singleton .epsilon)
  have letter : sample.Parses (.terminal 1) [⟨"b", lineBreakClass, 0, 1⟩] _ :=
    .literal (by decide) (List.cons_ne_nil _ _) rfl
  have word : sample.Parses (.rule 1) _ _ :=
    .branch (by decide) (.cons nothing (parsesAll_singleton letter))
  have whole : sample.Parses (.rule 0) _ _ := .branch (by decide) (parsesAll_singleton word)
  intro rule listed
  match rule with
  | 0 => exact ⟨_, _, whole⟩
  | 1 => exact ⟨_, _, word⟩
  | 2 => exact ⟨_, _, nothing⟩
  | 3 | 4 | _ + 5 => exact absurd rfl listed

/-! ### Productions with nothing in front -/

theorem Leads.trans {rule next last : RuleIndex} {before after inner outer : List Symbol}
    (first : grammar.Leads rule before after next) (second : grammar.Leads next inner outer last) :
    grammar.Leads rule (before ++ inner) (outer ++ after) last := by
  induction first with
  | refl => rwa [List.append_nil]
  | head listed vanishes _ ih =>
    rw [List.append_assoc, ← List.append_assoc outer]
    exact .head listed vanishes (ih second)

theorem Leads.single {rule next : RuleIndex} {left right : List Symbol}
    (listed : left ++ .rule next :: right ∈ grammar.alternatives rule)
    (vanishes : grammar.Vanishes left) : grammar.Leads rule left right next := by
  have leads := Leads.head listed vanishes .refl
  rwa [List.append_nil] at leads

/-- A rule that productions lead to with something in front is one of the grammar. -/
theorem Leads.lt_length (wellFormed : grammar.WellFormed) {rule last : RuleIndex}
    {before after : List Symbol} (leads : grammar.Leads rule before after last)
    (nonempty : before ≠ []) : last < grammar.rules.length := by
  have ends : (last = rule ∧ before = []) ∨ last < grammar.rules.length := by
    clear nonempty
    induction leads with
    | refl => exact .inl ⟨rfl, rfl⟩
    | head listed _ _ ih =>
      rcases ih with ⟨rfl, -⟩ | inside
      · exact .inr (wellFormed.inRange listed (List.mem_append_right _ List.mem_cons_self)).2
      · exact .inr inside
  exact ends.resolve_left fun ⟨_, empty⟩ => nonempty empty

theorem leads_subset (wellFormed : grammar.WellFormed) (rule : RuleIndex) :
    {last | ∃ before after, grammar.Leads rule before after last ∧ before ≠ []} ⊆
      (Finset.range grammar.rules.length : Set Nat) := by
  rintro last ⟨_, _, leads, nonempty⟩
  exact Finset.mem_coe.mpr (Finset.mem_range.mpr (leads.lt_length wellFormed nonempty))

theorem finite_leads (wellFormed : grammar.WellFormed) (rule : RuleIndex) :
    {last | ∃ before after, grammar.Leads rule before after last ∧ before ≠ []}.Finite :=
  (Finset.finite_toSet _).subset (leads_subset wellFormed rule)

theorem headroom_le (wellFormed : grammar.WellFormed) (rule : RuleIndex) :
    grammar.headroom rule ≤ grammar.rules.length := by
  have bound := Set.ncard_le_ncard (leads_subset wellFormed rule) (Finset.finite_toSet _)
  rwa [Set.ncard_coe_finset, Finset.card_range] at bound

/-- Where productions lead, there is no more room than where they come from. -/
theorem Leads.headroom_le (wellFormed : grammar.WellFormed) {rule next : RuleIndex}
    {before after : List Symbol} (leads : grammar.Leads rule before after next) :
    grammar.headroom next ≤ grammar.headroom rule := by
  refine Set.ncard_le_ncard ?_ (finite_leads wellFormed rule)
  rintro last ⟨inner, outer, further, nonempty⟩
  exact ⟨_, _, leads.trans further, fun empty => nonempty (List.append_eq_nil_iff.mp empty).2⟩

/-- The symbols on both sides go on those of a chain. -/
theorem Leads.chain {rule last : RuleIndex} {before after inner outer : List Symbol}
    (leads : grammar.Leads rule inner outer last) (chain : grammar.Chain rule before after) :
    grammar.Chain last (before ++ inner) (outer ++ after) := by
  induction leads generalizing before after with
  | refl => rwa [List.append_nil]
  | head listed _ _ ih =>
    have further := ih (chain.next listed)
    rwa [List.append_assoc, ← List.append_assoc _ _ after] at further

/-- What starts where productions lead starts where they come from. -/
theorem Leads.starts {rule last : RuleIndex} {inner outer rest : List Symbol} {terminal : Symbol}
    (leads : grammar.Leads rule inner outer last)
    (begins : grammar.Starts (.rule last :: (outer ++ rest)) terminal) :
    grammar.Starts (.rule rule :: rest) terminal := by
  induction leads generalizing rest with
  | refl => exact begins
  | @head rule next last left right _ _ listed vanishes _ ih =>
    rw [List.append_assoc] at begins
    refine .of_rewrites ⟨[], rule, rest, _, listed, rfl, rfl⟩ ?_
    rw [List.nil_append, List.append_assoc]
    exact .append_right vanishes (ih begins)

/-- Symbols behind a rule may stand there once more if they come to nothing where something behind
them comes next. -/
theorem Starts.again {symbol terminal : Symbol} {outer rest : List Symbol}
    (begins : grammar.Starts (symbol :: (outer ++ rest)) terminal) :
    grammar.Starts (symbol :: (outer ++ (outer ++ rest))) terminal := by
  rw [← List.cons_append, starts_append] at begins ⊢
  exact begins.imp_right fun ⟨vanishes, later⟩ =>
    ⟨vanishes, .append_right vanishes.of_cons.2 later⟩

/-- A rule with symbols in front of it occurs in an alternative. -/
theorem Chain.rule_mem_used {rule : RuleIndex} {before after : List Symbol}
    (chain : grammar.Chain rule before after) (nonempty : before ≠ []) :
    .rule rule ∈ grammar.used := by
  cases chain with
  | start => exact absurd rfl nonempty
  | next _ listed => exact mem_used_iff.mpr ⟨_, _, listed, by simp⟩

end Grammar

namespace Table

variable {grammar : Grammar} {table : Table} {terminal : Symbol}

/-- Moves that always lead to where they can go on do not come to an end. -/
theorem not_halts {property : List Symbol → Prop}
    (onward : ∀ symbols, property symbols →
      ∃ next, property next ∧ Relation.TransGen (table.Moves grammar terminal) symbols next)
    {symbols : List Symbol} (holds : property symbols) :
    ¬ table.Halts grammar terminal symbols := by
  intro halts
  have every := halts.transGen
  clear halts
  induction every with
  | intro symbols _ ih =>
    obtain ⟨next, kept, moves⟩ := onward symbols holds
    exact ih next (Relation.transGen_swap.mpr moves) kept

namespace Decisive

variable (decisive : table.Decisive grammar) (wellFormed : grammar.WellFormed)
  (built : grammar.table = .ok table)
include decisive wellFormed built

/-- What comes to nothing in front of a rule is put behind what is read. -/
theorem moves_of_leads {rule last : RuleIndex} {before after inner outer : List Symbol}
    (leads : grammar.Leads rule inner outer last) (chain : grammar.Chain rule before after)
    (begins : grammar.Starts (.rule last :: (outer ++ (after ++ [.rule grammar.endRule]))) terminal)
    (inside : before ≠ [] ∨ terminal ≠ .rule grammar.endRule) :
    Relation.ReflTransGen (table.Moves grammar terminal) before (before ++ inner) := by
  induction leads generalizing before after with
  | refl => rw [List.append_nil]
  | @head rule next last left right _ _ listed vanishes leads ih =>
    obtain ⟨source, reached⟩ := wellFormed.exists_reach?_of_chain chain
    obtain ⟨alternative, place, same⟩ := Grammar.exists_alternative_eq listed
    have starts := wellFormed.startingItems_of_chain chain reached (start_mem_startingItems place)
    rw [List.append_assoc] at begins
    have visible := decisive.visible_of_rule_mem listed
      (List.mem_append_right left List.mem_cons_self)
    have behind : grammar.Starts (.rule next :: right) terminal ∨
        grammar.Vanishes (.rule next :: right) ∧ terminal ∈ grammar.followAt source rule := by
      have unfolded := leads.starts begins
      rw [← List.cons_append, Grammar.starts_append] at unfolded
      exact unfolded.imp_right fun ⟨others, later⟩ =>
        ⟨others, wellFormed.mem_followAt_of_chain chain reached later⟩
    have whole : grammar.alternative rule alternative = [] ++ (left ++ .rule next :: right) := same
    have first := decisive.moves_of_vanishes wellFormed built vanishes reached starts whole rfl
      (fun occurs => visible (List.mem_append_left _ occurs)) behind (by simpa using inside)
    rw [List.append_nil] at first
    have later := ih (chain.next listed) (by rwa [List.append_assoc])
      (inside.imp_left fun read => by simp [read])
    rw [List.append_assoc] at later
    exact first.trans later

/-- Moves come to an end in front of a terminal that a rule with symbols in front of it may start
with. -/
theorem halts_of_starts_rule {rule : RuleIndex} {before after : List Symbol}
    (chain : grammar.Chain rule before after) (nonempty : before ≠ [])
    (derives : grammar.isTerminal (.rule rule) = false)
    (begins : grammar.Starts (.rule rule :: (after ++ [.rule grammar.endRule])) terminal) :
    table.Halts grammar terminal before := by
  obtain ⟨set, reached⟩ := wellFormed.exists_reach?_of_chain chain
  cases begins with
  | terminal consumes _ =>
    rw [derives] at consumes
    cases consumes
  | expand listed begins =>
    obtain ⟨alternative, place, same⟩ := Grammar.exists_alternative_eq listed
    have starts := wellFormed.startingItems_of_chain chain reached (start_mem_startingItems place)
    have whole : grammar.alternative rule alternative = [] ++ _ := same
    have halts := decisive.halts_of_starts wellFormed built begins reached starts whole rfl
    rwa [List.append_nil] at halts
  | skip vanishes begins =>
    have differs : rule ≠ Grammar.startRule := by
      rintro rfl
      exact nonempty (wellFormed.eq_nil_of_chain_startRule chain).1
    have halts := decisive.halts_of_chain wellFormed built chain differs begins
    cases chain with
    | start => exact absurd rfl nonempty
    | @next parent _ before after left right chain listed =>
      obtain ⟨source, earlier, along⟩ := Automaton.reach?_append_eq_some.mp reached
      obtain ⟨alternative, place, same⟩ := Grammar.exists_alternative_eq listed
      have starts := wellFormed.startingItems_of_chain chain earlier (start_mem_startingItems place)
      have behind : grammar.Starts right terminal ∨
          grammar.Vanishes right ∧ terminal ∈ grammar.followAt source parent := by
        have unfolded := begins
        rw [List.append_assoc, Grammar.starts_append] at unfolded
        exact unfolded.imp_right fun ⟨others, later⟩ =>
          ⟨others, wellFormed.mem_followAt_of_chain chain earlier later⟩
      have visible := decisive.visible_of_rule_mem listed
        (List.mem_append_right left List.mem_cons_self)
      have moves := decisive.moves_of_vanishes wellFormed built vanishes earlier starts same along
        (fun occurs => visible (by simp [List.mem_singleton.mp occurs])) behind (.inl nonempty)
      exact decisive.halts_of_moves wellFormed built moves halts

/-- No rule leads to itself behind what comes to nothing. -/
theorem eq_nil_of_leads (productive : grammar.Productive) {rule : RuleIndex}
    {before after inner outer : List Symbol} (chain : grammar.Chain rule before after)
    (leads : grammar.Leads rule inner outer rule) : inner = [] := by
  by_contra nonempty
  have around := leads.chain chain
  have front : before ++ inner ≠ [] := fun empty => nonempty (List.append_eq_nil_iff.mp empty).2
  have occur : ∀ symbol ∈ .rule rule :: (outer ++ after), symbol ∈ grammar.used := by
    rw [List.forall_mem_cons]
    exact ⟨around.rule_mem_used front, fun symbol behind => around.mem_used behind⟩
  obtain ⟨terminal, begins⟩ := productive.exists_starts wellFormed occur
  have derives : grammar.isTerminal (.rule rule) = false := by
    rw [Bool.eq_false_iff]
    intro consumes
    cases leads with
    | refl => exact nonempty rfl
    | head listed _ _ =>
      rw [wellFormed.alternatives_eq_nil_of_isTerminal consumes] at listed
      cases listed
  rw [List.cons_append, List.append_assoc] at begins
  -- Whatever stands in front of the rule, what comes to nothing can be put behind it once more.
  have onward : ∀ symbols, (∃ after, grammar.Chain rule symbols after ∧ symbols ≠ [] ∧
      grammar.Starts (.rule rule :: (outer ++ (after ++ [.rule grammar.endRule]))) terminal) →
        ∃ next, (∃ after, grammar.Chain rule next after ∧ next ≠ [] ∧
          grammar.Starts (.rule rule :: (outer ++ (after ++ [.rule grammar.endRule]))) terminal) ∧
        Relation.TransGen (table.Moves grammar terminal) symbols next := by
    rintro symbols ⟨after, chain, read, begins⟩
    have moves := decisive.moves_of_leads wellFormed built leads chain begins (.inl read)
    refine ⟨symbols ++ inner, ⟨outer ++ after, leads.chain chain, by simp [read], ?_⟩, ?_⟩
    · rw [List.append_assoc outer]
      exact begins.again
    · refine (Relation.reflTransGen_iff_eq_or_transGen.mp moves).resolve_left fun same => ?_
      exact nonempty (List.append_right_eq_self.mp same)
  refine Table.not_halts onward ⟨outer ++ after, around, front, ?_⟩ ?_
  · rw [List.append_assoc outer]
    exact begins.again
  · refine decisive.halts_of_starts_rule wellFormed built around front derives ?_
    rwa [List.append_assoc]

/-- Symbols that are put in front of a rule take some of the room. -/
theorem headroom_lt (productive : grammar.Productive) {rule next : RuleIndex}
    {before after inner outer : List Symbol} (chain : grammar.Chain rule before after)
    (leads : grammar.Leads rule inner outer next) (nonempty : inner ≠ []) :
    grammar.headroom next < grammar.headroom rule := by
  refine Set.ncard_lt_ncard ⟨?_, fun all => ?_⟩ (Grammar.finite_leads wellFormed rule)
  · rintro last ⟨_, _, further, -⟩
    exact ⟨_, _, leads.trans further, fun empty => nonempty (List.append_eq_nil_iff.mp empty).1⟩
  · obtain ⟨_, _, around, others⟩ := all ⟨inner, outer, leads, nonempty⟩
    exact others (decisive.eq_nil_of_leads wellFormed built productive (leads.chain chain) around)

end Decisive

end Table

end ShiftReduce
