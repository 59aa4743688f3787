import Mathlib.Logic.Relation
import ShiftReduce.Proofs.Grammar.WellFormed

/-!
# Derivations

A derivation replaces rules by their alternatives, in any order and place. What a row of symbols may
start with, and whether it may come to nothing, is said by derivations; both can be told symbol by
symbol as well, which is how they are computed.

## Main definitions

* `Grammar.Derives` — rows of symbols that derivations lead to
* `Grammar.First` — the terminals that what is derived may start with
* `Grammar.Vanishes`, `Grammar.Starts` — coming to nothing and starting with a terminal, told symbol
  by symbol
* `Grammar.Chain` — rules that productions lead to, with what stands on either side

## Main results

* `Grammar.vanishes_iff`, `Grammar.first_iff_starts` — both ways of telling agree
-/

namespace ShiftReduce.Grammar

/-- One rule gives way to one of its alternatives. -/
def Rewrites (grammar : Grammar) (source target : List Symbol) : Prop :=
  ∃ left rule right, ∃ symbols ∈ grammar.alternatives rule,
    source = left ++ .rule rule :: right ∧ target = left ++ symbols ++ right

/-- Any number of rules give way to alternatives, one after the other. -/
def Derives (grammar : Grammar) : List Symbol → List Symbol → Prop :=
  Relation.ReflTransGen grammar.Rewrites

/-- The terminals, other than the empty literal, that something derived from a row of symbols starts
with once empty literals in front are left out. -/
def First (grammar : Grammar) (symbols : List Symbol) (terminal : Symbol) : Prop :=
  grammar.isTerminal terminal = true ∧ terminal ≠ .epsilon ∧
    ∃ front back, grammar.Derives symbols (front ++ terminal :: back) ∧
      ∀ symbol ∈ front, symbol = .epsilon

/-- A row of symbols from which a row of nothing but empty literals can be derived. -/
inductive Vanishes (grammar : Grammar) : List Symbol → Prop
  | nil : Vanishes grammar []
  | epsilon {rest : List Symbol} : Vanishes grammar rest → Vanishes grammar (.epsilon :: rest)
  | rule {rule : RuleIndex} {symbols rest : List Symbol} : symbols ∈ grammar.alternatives rule →
      Vanishes grammar symbols → Vanishes grammar rest → Vanishes grammar (.rule rule :: rest)

/-- A row of symbols that can start with a terminal. -/
inductive Starts (grammar : Grammar) : List Symbol → Symbol → Prop
  | terminal {terminal : Symbol} {rest : List Symbol} : grammar.isTerminal terminal = true →
      terminal ≠ .epsilon → Starts grammar (terminal :: rest) terminal
  | skip {symbol terminal : Symbol} {rest : List Symbol} : Vanishes grammar [symbol] →
      Starts grammar rest terminal → Starts grammar (symbol :: rest) terminal
  | expand {rule : RuleIndex} {terminal : Symbol} {symbols rest : List Symbol} :
      symbols ∈ grammar.alternatives rule → Starts grammar symbols terminal →
      Starts grammar (.rule rule :: rest) terminal

/-- A rule that productions lead to from the one that starts every derivation. Of the symbols that
come with it, those in front stand in order, and so do those behind. -/
inductive Chain (grammar : Grammar) : RuleIndex → List Symbol → List Symbol → Prop
  | start : Chain grammar startRule [] []
  | next {rule next : RuleIndex} {before after left right : List Symbol} :
      Chain grammar rule before after → left ++ .rule next :: right ∈ grammar.alternatives rule →
      Chain grammar next (before ++ left) (right ++ after)

variable {grammar : Grammar}

/-! ### Derivations in a context -/

theorem Rewrites.context {source target : List Symbol} (step : grammar.Rewrites source target)
    (left right : List Symbol) :
    grammar.Rewrites (left ++ source ++ right) (left ++ target ++ right) := by
  obtain ⟨before, rule, after, symbols, listed, rfl, rfl⟩ := step
  exact ⟨left ++ before, rule, after ++ right, symbols, listed, by simp, by simp⟩

theorem Derives.context {source target : List Symbol} (derives : grammar.Derives source target)
    (left right : List Symbol) :
    grammar.Derives (left ++ source ++ right) (left ++ target ++ right) := by
  induction derives with
  | refl => exact .refl
  | tail _ step ih => exact ih.tail (step.context left right)

theorem Derives.append {left front right back : List Symbol} (first : grammar.Derives left front)
    (second : grammar.Derives right back) :
    grammar.Derives (left ++ right) (front ++ back) := by
  have inFront := first.context [] right
  have behind := second.context front []
  simp only [List.nil_append, List.append_nil] at inFront behind
  exact inFront.trans behind

/-- A rule derives what one of its alternatives does. -/
theorem Derives.of_alternative {rule : RuleIndex} {symbols target : List Symbol}
    (listed : symbols ∈ grammar.alternatives rule) (derives : grammar.Derives symbols target) :
    grammar.Derives [.rule rule] target :=
  .head ⟨[], rule, [], symbols, listed, rfl, by simp⟩ derives

/-! ### Coming to nothing -/

theorem Vanishes.append {left right : List Symbol} (first : grammar.Vanishes left)
    (second : grammar.Vanishes right) : grammar.Vanishes (left ++ right) := by
  induction first with
  | nil => exact second
  | epsilon _ ih => exact .epsilon ih
  | rule listed inner _ _ ih => exact .rule listed inner ih

theorem Vanishes.of_cons {symbol : Symbol} {rest : List Symbol}
    (vanishes : grammar.Vanishes (symbol :: rest)) :
    grammar.Vanishes [symbol] ∧ grammar.Vanishes rest := by
  cases vanishes with
  | epsilon later => exact ⟨.epsilon .nil, later⟩
  | rule listed inner later => exact ⟨.rule listed inner .nil, later⟩

theorem vanishes_cons {symbol : Symbol} {rest : List Symbol} :
    grammar.Vanishes (symbol :: rest) ↔ grammar.Vanishes [symbol] ∧ grammar.Vanishes rest :=
  ⟨Vanishes.of_cons, fun ⟨first, later⟩ => first.append later⟩

theorem vanishes_append {left right : List Symbol} :
    grammar.Vanishes (left ++ right) ↔ grammar.Vanishes left ∧ grammar.Vanishes right := by
  induction left with
  | nil => simp [Vanishes.nil]
  | cons symbol rest ih =>
    rw [List.cons_append, vanishes_cons, ih, @vanishes_cons grammar symbol rest, and_assoc]

/-- What vanishes after a step vanished before. -/
theorem Vanishes.of_rewrites {source target : List Symbol} (step : grammar.Rewrites source target)
    (vanishes : grammar.Vanishes target) : grammar.Vanishes source := by
  obtain ⟨left, rule, right, symbols, listed, rfl, rfl⟩ := step
  obtain ⟨front, back⟩ := vanishes_append.mp vanishes
  obtain ⟨front, inner⟩ := vanishes_append.mp front
  exact front.append (.rule listed inner back)

/-- A row of symbols vanishes if a row of empty literals can be derived from it. -/
theorem vanishes_iff {symbols : List Symbol} :
    grammar.Vanishes symbols ↔
      ∃ blanks, grammar.Derives symbols blanks ∧ ∀ symbol ∈ blanks, symbol = .epsilon := by
  constructor
  · intro vanishes
    induction vanishes with
    | nil => exact ⟨[], .refl, by simp⟩
    | epsilon _ ih =>
      obtain ⟨blanks, derives, blank⟩ := ih
      have kept : grammar.Derives [.epsilon] [.epsilon] := .refl
      exact ⟨.epsilon :: blanks, kept.append derives, by simpa⟩
    | rule listed _ _ innerIh laterIh =>
      obtain ⟨inner, derivesInner, blankInner⟩ := innerIh
      obtain ⟨later, derivesLater, blankLater⟩ := laterIh
      refine ⟨inner ++ later, (Derives.of_alternative listed derivesInner).append derivesLater, ?_⟩
      intro symbol occurs
      exact (List.mem_append.mp occurs).elim (blankInner symbol) (blankLater symbol)
  · rintro ⟨blanks, derives, blank⟩
    -- From the last row backwards: empty literals vanish, and steps carry this to the first row.
    induction derives using Relation.ReflTransGen.head_induction_on with
    | refl =>
      clear symbols
      induction blanks with
      | nil => exact .nil
      | cons symbol rest ih =>
        obtain rfl := blank symbol List.mem_cons_self
        exact .epsilon (ih fun other occurs => blank other (List.mem_cons_of_mem _ occurs))
    | head step _ ih => exact ih.of_rewrites step

/-! ### Starting with a terminal -/

theorem Starts.isTerminal {symbols : List Symbol} {terminal : Symbol}
    (starts : grammar.Starts symbols terminal) : grammar.isTerminal terminal = true := by
  induction starts with
  | terminal consumes _ => exact consumes
  | skip _ _ ih => exact ih
  | expand _ _ ih => exact ih

theorem Starts.ne_epsilon {symbols : List Symbol} {terminal : Symbol}
    (starts : grammar.Starts symbols terminal) : terminal ≠ .epsilon := by
  induction starts with
  | terminal _ visible => exact visible
  | skip _ _ ih => exact ih
  | expand _ _ ih => exact ih

theorem Starts.append_left {left : List Symbol} {terminal : Symbol}
    (starts : grammar.Starts left terminal) (right : List Symbol) :
    grammar.Starts (left ++ right) terminal := by
  induction starts with
  | terminal consumes visible => exact .terminal consumes visible
  | skip vanishes _ ih => exact .skip vanishes ih
  | expand listed inner _ => exact .expand listed inner

theorem Starts.append_right {left right : List Symbol} {terminal : Symbol}
    (vanishes : grammar.Vanishes left) (starts : grammar.Starts right terminal) :
    grammar.Starts (left ++ right) terminal := by
  induction left with
  | nil => exact starts
  | cons symbol rest ih =>
    obtain ⟨first, later⟩ := vanishes.of_cons
    exact .skip first (ih later)

/-- A row of symbols starts with what its first part starts with, or, where that vanishes, with what
the rest does. -/
theorem starts_append {left right : List Symbol} {terminal : Symbol} :
    grammar.Starts (left ++ right) terminal ↔
      grammar.Starts left terminal ∨ grammar.Vanishes left ∧ grammar.Starts right terminal := by
  constructor
  · intro starts
    induction left with
    | nil => exact .inr ⟨.nil, starts⟩
    | cons symbol rest ih =>
      cases starts with
      | terminal consumes visible => exact .inl (.terminal consumes visible)
      | skip vanishes starts =>
        obtain inFirst | ⟨later, starts⟩ := ih starts
        · exact .inl (.skip vanishes inFirst)
        · exact .inr ⟨vanishes.append later, starts⟩
      | expand listed inner => exact .inl (.expand listed inner)
  · rintro (starts | ⟨vanishes, starts⟩)
    · exact starts.append_left right
    · exact .append_right vanishes starts

/-- What a row starts with after a step, it started with before. -/
theorem Starts.of_rewrites {source target : List Symbol} {terminal : Symbol}
    (step : grammar.Rewrites source target) (starts : grammar.Starts target terminal) :
    grammar.Starts source terminal := by
  obtain ⟨left, rule, right, symbols, listed, rfl, rfl⟩ := step
  -- The terminal comes from the left, from what the rule was replaced by, or from the right.
  rw [List.append_assoc, starts_append] at starts
  obtain inLeft | ⟨vanishes, starts⟩ := starts
  · exact inLeft.append_left _
  · obtain inner | ⟨inner, later⟩ := starts_append.mp starts
    · exact .append_right vanishes (.expand listed inner)
    · exact .append_right vanishes (.skip (.rule listed inner .nil) later)

/-- What derivations may start with can be told symbol by symbol. -/
theorem first_iff_starts {symbols : List Symbol} {terminal : Symbol} :
    grammar.First symbols terminal ↔ grammar.Starts symbols terminal := by
  constructor
  · rintro ⟨consumes, visible, front, back, derives, blank⟩
    induction derives using Relation.ReflTransGen.head_induction_on with
    | refl =>
      refine .append_right (vanishes_iff.mpr ⟨front, .refl, blank⟩) ?_
      exact .terminal consumes visible
    | head step _ ih => exact ih.of_rewrites step
  · intro starts
    refine ⟨starts.isTerminal, starts.ne_epsilon, ?_⟩
    induction starts with
    | @terminal terminal rest _ _ => exact ⟨[], rest, .refl, by simp⟩
    | skip vanishes _ ih =>
      obtain ⟨blanks, derivesFirst, blankFirst⟩ := vanishes_iff.mp vanishes
      obtain ⟨front, back, derives, blank⟩ := ih
      refine ⟨blanks ++ front, back, ?_, ?_⟩
      · rw [List.append_assoc]
        exact derivesFirst.append derives
      · intro symbol occurs
        exact (List.mem_append.mp occurs).elim (blankFirst symbol) (blank symbol)
    | @expand rule terminal symbols rest listed _ ih =>
      obtain ⟨front, back, derives, blank⟩ := ih
      refine ⟨front, back ++ rest, ?_, blank⟩
      have joined := (Derives.of_alternative listed derives).append (.refl (a := rest))
      simpa using joined

end ShiftReduce.Grammar
