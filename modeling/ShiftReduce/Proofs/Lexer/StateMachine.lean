import Mathlib
import ShiftReduce.Proofs.Lexer.Partition
import ShiftReduce.Proofs.Lexer.Selection
import ShiftReduce.Proofs.Lexer.WellFormed

/-!
# Scanning as a machine with states

While an input is cut into tokens, the lexer is in one state after the other. In each, the first
class that may match and does takes the next token, the first transition that fires leads to the
next state, and the machine stops where no class matches.

## Main definitions

* `Lexer.Reaches` — the states that are reached, with the places where they are
* `Lexer.Passes` — the states that some tokens are taken in

## Main results

* `Lexer.success_tokenize_eq_false_iff` — what it means to fail
* `Lexer.Reachable.tokenize_passes` — the tokens of an input follow the states
-/

namespace ShiftReduce.Lexer

/-- While an input is scanned, a state is reached at byte `offset`, with the rest of the input
behind: first the initial one behind the gap at the start, then, behind each token that is taken and
the gap that follows it, the one that the token moves the lexer to. -/
inductive Reaches (lexer : Lexer) (input : List Char) : StateIndex → (offset : Nat) →
    List Char → Prop
  | start {gap text : List Char} : input = gap ++ text → lexer.IsGap gap text →
      Reaches lexer input initialState (Text.byteLength gap) text
  | token {state next : StateIndex} {offset : Nat} {kind : ClassIndex}
      {value gap text : List Char} : Reaches lexer input state offset (value ++ (gap ++ text)) →
      lexer.Takes state (value ++ (gap ++ text)) kind value → lexer.IsGap gap text →
      lexer.Moves kind state next →
      Reaches lexer input next (offset + Text.byteLength value + Text.byteLength gap) text

/-- Some tokens of an input are taken in states, one after the other: the state of each is reached
where the token starts, its class takes it from the rest of the input, and it moves the lexer to the
state behind it. There is one state more than there are tokens. -/
inductive Passes (lexer : Lexer) (input : List Char) : List Token → List StateIndex → Prop
  | stop (state : StateIndex) : Passes lexer input [] [state]
  | token {token : Token} {tokens : List Token} {state next : StateIndex}
      {states : List StateIndex} {text : List Char} :
      lexer.Reaches input state token.start text →
      lexer.Takes state text token.kind token.value.toList →
      lexer.Moves token.kind state next → Passes lexer input tokens (next :: states) →
      Passes lexer input (token :: tokens) (state :: next :: states)

variable {lexer : Lexer} {input text : List Char} {state : StateIndex} {offset : Nat}

/-! ### One token -/

/-- The blanks that are skipped are the only gap in front of a text. -/
theorem gap_eq_of_isGap {gap : List Char} (isGap : lexer.IsGap gap text) :
    lexer.gap (gap ++ text) = gap ∧ lexer.afterGap (gap ++ text) = text := by
  unfold IsGap at isGap
  unfold Lexer.gap afterGap
  by_cases skips : lexer.skipsGaps = true
  · rw [if_pos skips] at isGap ⊢
    obtain ⟨blank, visible⟩ := isGap
    rw [if_pos skips, List.takeWhile_append_of_pos blank, List.dropWhile_append_of_pos blank]
    cases text with
    | nil => simp
    | cons first rest => simp [visible first rfl]
  · rw [if_neg skips] at isGap ⊢
    rw [if_neg skips, isGap]
    exact ⟨rfl, rfl⟩

/-- A token that is taken is the next one of the scan, which goes on behind the gap that follows. -/
theorem success_scan_of_takes {kind : ClassIndex} {value gap : List Char} {next : StateIndex}
    (takes : lexer.Takes state (value ++ (gap ++ text)) kind value) (isGap : lexer.IsGap gap text)
    (moves : lexer.Moves kind state next) :
    (lexer.scan state offset (value ++ (gap ++ text))).success =
      (lexer.scan next (offset + Text.byteLength value + Text.byteLength gap) text).success := by
  have nonempty : value ++ (gap ++ text) ≠ [] := List.append_ne_nil_of_left_ne_nil takes.ne_nil _
  obtain ⟨found, selected, cut⟩ := (exists_select?_iff nonempty).mpr takes
  have tail : (value ++ (gap ++ text)).drop found.length = gap ++ text := by
    have parts := List.take_append_drop found.length (value ++ (gap ++ text))
    rw [← cut] at parts
    exact List.append_cancel_left parts
  obtain ⟨first, rest, same⟩ := List.exists_cons_of_ne_nil nonempty
  rw [same] at selected cut tail ⊢
  obtain ⟨gapEq, afterEq⟩ := gap_eq_of_isGap isGap
  rw [scan, selected]
  simp only [← cut, tail, gapEq, afterEq, stateAfter_eq_iff.mpr moves]

/-! ### Places that are reached -/

/-- The initial state is reached behind the gap at the start. -/
theorem reaches_initialState (lexer : Lexer) (input : List Char) :
    lexer.Reaches input initialState (Text.byteLength (lexer.gap input)) (lexer.afterGap input) :=
  .start (gap_append_afterGap lexer input).symm (isGap_gap input)

/-- The text at a place that is reached is the rest of the input from there on. -/
theorem Reaches.exists_front (reaches : lexer.Reaches input state offset text) :
    ∃ front, input = front ++ text ∧ Text.byteLength front = offset := by
  induction reaches with
  | start parts _ => exact ⟨_, parts, rfl⟩
  | @token state next offset kind value gap text _ _ _ _ ih =>
    obtain ⟨front, parts, place⟩ := ih
    refine ⟨front ++ value ++ gap, by simp [parts], ?_⟩
    rw [Text.byteLength_append, Text.byteLength_append, place]

/-- From every place that is reached, scanning succeeds if it does from the start. -/
theorem success_tokenize_of_reaches {input : String}
    (reaches : lexer.Reaches input.toList state offset text) :
    (lexer.tokenize input).success = (lexer.scan state offset text).success := by
  induction reaches with
  | @start gap text parts isGap =>
    obtain ⟨gapEq, afterEq⟩ := gap_eq_of_isGap isGap
    rw [tokenize, parts, gapEq, afterEq]
  | token _ takes isGap moves ih => rw [ih, success_scan_of_takes takes isGap moves]

/-! ### The states of a scan -/

/-- From a place that is reached, the tokens of a scan are taken in states, from the one there to
the last one; where the scan fails, a place is reached at which no class matches. -/
theorem exists_passes_scan (reaches : lexer.Reaches input state offset text) :
    (∃ states, lexer.Passes input (lexer.scan state offset text).tokens (state :: states) ∧
      (state :: states).getLast? = some (lexer.scan state offset text).state) ∧
    ((lexer.scan state offset text).success = false → ∃ state offset text,
      lexer.Reaches input state offset text ∧ text ≠ [] ∧
      ∀ entry ∈ lexer.classes, lexer.MayMatch state entry →
        entry.tokenClass.match? text = none) := by
  fun_induction scan lexer state offset text with
  | case1 =>
    refine ⟨⟨[], .stop _, rfl⟩, fun failed => ?_⟩
    cases failed
  | case2 state offset first rest selected =>
    exact ⟨⟨[], .stop _, rfl⟩,
      fun _ => ⟨_, _, _, reaches, List.cons_ne_nil _ _, select?_eq_none_iff.mp selected⟩⟩
  | case3 state offset first rest kind found selected value tail stop result ih =>
    have takes : lexer.Takes state (first :: rest) kind value :=
      (exists_select?_iff (List.cons_ne_nil _ _)).mp ⟨found, selected, rfl⟩
    have moves : lexer.Moves kind state (lexer.stateAfter kind state) := stateAfter_eq_iff.mp rfl
    have parts : first :: rest = value ++ (lexer.gap tail ++ lexer.afterGap tail) := by
      rw [gap_append_afterGap]
      exact (List.take_append_drop _ _).symm
    have next := Reaches.token (parts ▸ reaches) (parts ▸ takes) (isGap_gap tail) moves
    obtain ⟨⟨states, passes, last⟩, fails⟩ := ih next
    refine ⟨⟨_ :: states, .token reaches ?_ moves passes, ?_⟩, fails⟩
    · simpa using takes
    · rwa [List.getLast?_cons_cons]

/-- Scanning fails if it reaches a place in front of the end at which no class matches that may. -/
theorem success_tokenize_eq_false_iff (lexer : Lexer) (input : String) :
    (lexer.tokenize input).success = false ↔ ∃ state offset text,
      lexer.Reaches input.toList state offset text ∧ text ≠ [] ∧
      ∀ entry ∈ lexer.classes, lexer.MayMatch state entry →
        entry.tokenClass.match? text = none := by
  constructor
  · exact (exists_passes_scan (reaches_initialState lexer input.toList)).2
  · rintro ⟨state, offset, text, reaches, nonempty, fails⟩
    obtain ⟨first, rest, rfl⟩ := List.exists_cons_of_ne_nil nonempty
    rw [success_tokenize_of_reaches reaches, scan, select?_eq_none_iff.mpr fails]

/-! ### Strict states -/

/-- In a strict state, no class takes a token that belongs to all states. -/
theorem WellFormed.not_any_of_takes (wellFormed : lexer.WellFormed) {kind : ClassIndex}
    {value : List Char} (takes : lexer.Takes state text kind value)
    (strict : lexer.states.isStrict state = true) :
    lexer.classState kind ≠ anyState ∧ kind ≠ lineBreakClass := by
  have apart : lexer.classState kind ≠ anyState := by
    obtain ⟨entry, found, known, own | ⟨-, lenient⟩, -⟩ := takes.exists_entry
    · rintro same
      have isAny : state = anyState := by simpa [classState, known, own] using same
      simp [isAny, StateTable.isStrict, wellFormed.states_anyState] at strict
    · rw [lenient] at strict
      cases strict
  refine ⟨apart, ?_⟩
  rintro rfl
  simp [classState, wellFormed.lineBreak] at apart

/-- No token that belongs to all states is taken in a strict one. -/
theorem WellFormed.not_any_of_passes (wellFormed : lexer.WellFormed) {tokens : List Token}
    {states : List StateIndex} (passes : lexer.Passes input tokens states) :
    ∀ pair ∈ tokens.zip states, lexer.states.isStrict pair.2 = true →
      lexer.classState pair.1.kind ≠ anyState ∧ pair.1.kind ≠ lineBreakClass := by
  induction passes with
  | stop => exact nofun
  | token _ takes _ _ ih =>
    rw [List.zip_cons_cons, List.forall_mem_cons]
    exact ⟨wellFormed.not_any_of_takes takes, ih⟩

/-- The tokens of an input are taken in states, one after the other, from the initial one to the one
that is told with the tokens. Scanning fails if no class matches at a place that it reaches in front
of the end, and no token that belongs to all states is taken in a strict one. -/
theorem Reachable.tokenize_passes (reachable : lexer.Reachable) (input : String) :
    (∃ states, lexer.Passes input.toList (lexer.tokenize input).tokens states ∧
      states.head? = some initialState ∧
      states.getLast? = some (lexer.tokenize input).state ∧
      ∀ pair ∈ (lexer.tokenize input).tokens.zip states, lexer.states.isStrict pair.2 = true →
        lexer.classState pair.1.kind ≠ anyState ∧ pair.1.kind ≠ lineBreakClass) ∧
    ((lexer.tokenize input).success = false ↔ ∃ state offset text,
      lexer.Reaches input.toList state offset text ∧ text ≠ [] ∧
      ∀ entry ∈ lexer.classes, lexer.MayMatch state entry →
        entry.tokenClass.match? text = none) := by
  obtain ⟨states, passes, last⟩ :=
    (exists_passes_scan (reaches_initialState lexer input.toList)).1
  exact ⟨⟨initialState :: states, passes, rfl, last,
    reachable.wellFormed.not_any_of_passes passes⟩, success_tokenize_eq_false_iff lexer input⟩

/-- A lexer with a strict state that is entered behind `<` and left behind `>`. -/
def withBrackets : Lexer :=
  Lexer.initial.applyAll [.setStateful true, .addState "inside" true,
    .addClasses
      [⟨"open", some (.ofProgram "<" (Pattern.Expr.codes (CodeSet.ofList [(60, 60)])).toProgram),
          .initial⟩,
        ⟨"line", some (.ofProgram "\\n" (Pattern.Expr.codes (CodeSet.ofList [(10, 10)])).toProgram),
          .named "inside"⟩,
        ⟨"close", some (.ofProgram ">" (Pattern.Expr.codes (CodeSet.ofList [(62, 62)])).toProgram),
          .named "inside"⟩],
    .addTransitions [⟨.ofClass "open", none, "inside"⟩, ⟨.ofClass "close", none, "default"⟩]]

/-- A line break in brackets is of the class of the strict state, one outside of the class that
belongs to all states; in brackets, no class takes a letter. -/
theorem passes_brackets : (∃ states, withBrackets.Passes "<\n> \n<x".toList
      [⟨"<", 2, 0, 1⟩, ⟨"\n", 3, 1, 2⟩, ⟨">", 4, 2, 3⟩, ⟨"\n", lineBreakClass, 4, 5⟩,
        ⟨"<", 2, 5, 6⟩]
      states ∧ states.head? = some initialState ∧ states.getLast? = some 2) ∧
    ∃ state offset text, withBrackets.Reaches "<\n> \n<x".toList state offset text ∧ text ≠ [] ∧
      ∀ entry ∈ withBrackets.classes, withBrackets.MayMatch state entry →
        entry.tokenClass.match? text = none := by
  have cut : withBrackets.tokenize "<\n> \n<x" =
      ⟨false, [⟨"<", 2, 0, 1⟩, ⟨"\n", 3, 1, 2⟩, ⟨">", 4, 2, 3⟩, ⟨"\n", lineBreakClass, 4, 5⟩,
        ⟨"<", 2, 5, 6⟩], "x", 2⟩ := by
    cbv
  have reachable : withBrackets.Reachable := Reachable.initial.applyAll _
  obtain ⟨⟨states, passes, head, last, -⟩, fails⟩ := reachable.tokenize_passes "<\n> \n<x"
  rw [cut] at passes last fails
  exact ⟨⟨states, passes, head, last⟩, fails.mp rfl⟩

end ShiftReduce.Lexer
