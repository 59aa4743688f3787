import Mathlib
import ShiftReduce.Proofs.Lexer.StateMachine

/-!
# What a further class changes

A class that is registered is tried behind all others, and a state that is registered with it is not
strict. So it makes a difference only where no other class matches, which is where scanning used to
stop.

## Main definitions

* `Lexer.Extends` — a lexer with further classes behind the others, and the same in all else

## Main results

* `Lexer.Extends.select?_eq_some` — what was selected still is
* `Lexer.Extends.scan` — two scans in lockstep, as far as the first one goes
* `Lexer.tokenize_of_addClass` — registering a class keeps what was recognized
-/

namespace ShiftReduce

/-- A state that is added and not strict makes no state strict. -/
theorem StateTable.isStrict_add (table : StateTable) (name : String) (index : StateIndex) :
    (table.add name false).2.isStrict index = table.isStrict index := by
  unfold add
  cases table.find? name with
  | some _ => rfl
  | none =>
    unfold isStrict
    dsimp only
    rcases Nat.lt_or_ge index table.states.length with inside | outside
    · rw [List.getElem?_append_left inside]
    · rw [List.getElem?_append_right outside, List.getElem?_eq_none outside]
      cases index - table.states.length <;> rfl

namespace Lexer

/-- A lexer has the classes of another, in the same places, and further ones behind them. The same
states are strict, and all that tells the next state or the next place is the same. -/
structure Extends (lexer later : Lexer) : Prop where
  classes_prefix : lexer.classes <+: later.classes
  isStrict_eq : ∀ state, later.states.isStrict state = lexer.states.isStrict state
  transitions_eq : later.transitions = lexer.transitions
  stateful_eq : later.stateful = lexer.stateful
  skipsGaps_eq : later.skipsGaps = lexer.skipsGaps

variable {lexer later : Lexer}

/-- The state that is registered with a class makes no state strict. -/
theorem ScopesTo.isStrict_eq {scope : Scope} {states : StateTable} {state : StateIndex}
    (scopes : lexer.ScopesTo scope states state) (index : StateIndex) :
    states.isStrict index = lexer.states.isStrict index := by
  cases scopes with
  | any => rfl
  | initial => rfl
  | named => exact lexer.states.isStrict_add _ index

/-- A class that is registered extends the lexer, whichever state it is scoped to. -/
theorem extends_of_addClass {tokenClass : TokenClass} {kind : ClassIndex}
    (added : outcome (addClass tokenClass) lexer = (.ok kind, later)) : lexer.Extends later := by
  obtain ⟨-, -, states, _, scopes, rfl⟩ := (acts_addClass tokenClass).effect_of_ok added
  exact ⟨List.prefix_append _ _, scopes.isStrict_eq, rfl, rfl, rfl⟩

namespace Extends

variable (ext : lexer.Extends later)
include ext

theorem mayMatch_iff {state : StateIndex} {entry : RegisteredClass} :
    later.MayMatch state entry ↔ lexer.MayMatch state entry := by
  rw [MayMatch, MayMatch, ext.isStrict_eq]

/-- The first class that matches is the same if there was one. -/
theorem select?_eq_some {state : StateIndex} {text : List Char} {kind : ClassIndex} {found : Match}
    (selected : lexer.select? state text = some (kind, found)) :
    later.select? state text = some (kind, found) := by
  obtain ⟨before, entry, after, parts, rfl, may, isFound, first⟩ := exists_of_selectFrom? selected
  obtain ⟨added, same⟩ := ext.classes_prefix
  rw [select?, ← same, parts, List.append_assoc, List.cons_append]
  refine selectFrom?_append (fun other inFront mayOther => ?_) (ext.mayMatch_iff.mpr may) isFound _
  exact first other inFront (ext.mayMatch_iff.mp mayOther)

theorem stateAfter_eq (kind : ClassIndex) (state : StateIndex) :
    later.stateAfter kind state = lexer.stateAfter kind state := by
  rw [stateAfter, stateAfter, ext.stateful_eq, ext.transitions_eq]

theorem gap_eq (text : List Char) : later.gap text = lexer.gap text := by
  rw [gap, gap, ext.skipsGaps_eq]

theorem afterGap_eq (text : List Char) : later.afterGap text = lexer.afterGap text := by
  rw [afterGap, afterGap, ext.skipsGaps_eq]

/-- From any place on, the same tokens are found as before, and more of them only if scanning failed
before. -/
theorem scan (state : StateIndex) (offset : Nat) (text : List Char) :
    (lexer.scan state offset text).tokens <+: (later.scan state offset text).tokens ∧
    ((lexer.scan state offset text).success = true →
      later.scan state offset text = lexer.scan state offset text) := by
  fun_induction Lexer.scan lexer state offset text with
  | case1 => exact ⟨List.nil_prefix, fun _ => by rw [Lexer.scan]⟩
  | case2 => exact ⟨List.nil_prefix, fun failed => absurd failed Bool.false_ne_true⟩
  | case3 state offset first rest kind found selected value tail stop result ih =>
    -- Both lexers take the same token, and go on from the same place in the same state.
    have step : later.scan state offset (first :: rest) =
        { later.scan (lexer.stateAfter kind state) (stop + Text.byteLength (lexer.gap tail))
            (lexer.afterGap tail) with
          tokens := ⟨String.ofList value, kind, offset, stop⟩ ::
            (later.scan (lexer.stateAfter kind state) (stop + Text.byteLength (lexer.gap tail))
              (lexer.afterGap tail)).tokens } := by
      rw [Lexer.scan, ext.select?_eq_some selected]
      simp only [ext.stateAfter_eq, ext.gap_eq, ext.afterGap_eq]
      rfl
    rw [step]
    refine ⟨(List.prefix_cons_inj _).mpr ih.1, fun success => ?_⟩
    rw [ih.2 success]

end Extends

/-- Registering a class keeps what was recognized. The tokens of an input are found as before, and
an input that was scanned to its end is scanned in the same way, with the same tokens in the same
places and the same last state. -/
theorem tokenize_of_addClass {tokenClass : TokenClass} {kind : ClassIndex}
    (added : outcome (addClass tokenClass) lexer = (.ok kind, later)) (input : String) :
    (lexer.tokenize input).tokens <+: (later.tokenize input).tokens ∧
    ((lexer.tokenize input).success = true → later.tokenize input = lexer.tokenize input) := by
  have ext := extends_of_addClass added
  rw [tokenize, tokenize, ext.gap_eq, ext.afterGap_eq]
  exact ext.scan _ _ _

/-- A letter, in a state that no lexer has at first. -/
def letterClass : TokenClass :=
  ⟨"letter", some (.ofProgram "x" (Pattern.Expr.codes (CodeSet.ofList [(120, 120)])).toProgram),
    .named "letters"⟩

/-- The state of a class for letters is registered with the class. Brackets are scanned as before,
and so is what stands in front of a letter. -/
theorem tokenize_brackets : ∃ later,
    outcome (addClass letterClass) withBrackets = (.ok 5, later) ∧
    later.states.find? "letters" = some 3 ∧
    (withBrackets.tokenize "<x").tokens <+: (later.tokenize "<x").tokens ∧
    (withBrackets.tokenize "<\n>").success = true ∧
    later.tokenize "<\n>" = withBrackets.tokenize "<\n>" := by
  have added : outcome (addClass letterClass) withBrackets =
      (.ok 5, (outcome (addClass letterClass) withBrackets).2) := Prod.ext rfl rfl
  have success : (withBrackets.tokenize "<\n>").success = true := by cbv
  exact ⟨_, added, by decide +kernel, (tokenize_of_addClass added "<x").1, success,
    (tokenize_of_addClass added "<\n>").2 success⟩

end Lexer

end ShiftReduce
