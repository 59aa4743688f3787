import ShiftReduce.Proofs.Lexer.StateMachine

/-!
# What is registered stays and is in range

Whatever is done to a lexer, with or without success, it stays well formed, and what is registered
with it keeps its place. So all that is looked up while an input is scanned is there.

## Main results

* `Lexer.WellFormed.lt_of_reaches`, `Lexer.WellFormed.forall_lt_of_passes` — scanning stays in range
* `Lexer.Reachable.registry_spec` — what holds of every lexer, now and later
-/

namespace ShiftReduce.Lexer

variable {lexer : Lexer} {input text : List Char} {state next : StateIndex} {offset : Nat}

/-! ### Scanning -/

section WellFormed

variable (wellFormed : lexer.WellFormed)
include wellFormed

theorem WellFormed.lt_of_moves {kind : ClassIndex} (moves : lexer.Moves kind state next)
    (inside : state < lexer.states.states.length) : next < lexer.states.states.length := by
  cases moves with
  | stateless => exact inside
  | silent => exact inside
  | fires _ parts =>
    apply wellFormed.target_lt
    simp [parts]

/-- A state that is reached is there. -/
theorem WellFormed.lt_of_reaches (reaches : lexer.Reaches input state offset text) :
    state < lexer.states.states.length := by
  induction reaches with
  | start => exact wellFormed.initialState_lt
  | token _ _ _ moves ih => exact wellFormed.lt_of_moves moves ih

/-- The classes and the states that some tokens are taken with are there. -/
theorem WellFormed.forall_lt_of_passes {tokens : List Token} {states : List StateIndex}
    (passes : lexer.Passes input tokens states)
    (inside : ∀ first, states.head? = some first → first < lexer.states.states.length) :
    (∀ token ∈ tokens, token.kind < lexer.classes.length) ∧
      ∀ state ∈ states, state < lexer.states.states.length := by
  induction passes with
  | stop state => exact ⟨nofun, by simpa using inside⟩
  | @token token tokens state next states text reaches takes moves _ ih =>
    have here := wellFormed.lt_of_reaches reaches
    have known : token.kind < lexer.classes.length := by
      obtain ⟨entry, found, known, -⟩ := takes.exists_entry
      exact (List.getElem?_eq_some_iff.mp known).1
    obtain ⟨kinds, later⟩ := ih (by simpa using wellFormed.lt_of_moves moves here)
    exact ⟨List.forall_mem_cons.mpr ⟨known, kinds⟩, List.forall_mem_cons.mpr ⟨here, later⟩⟩

end WellFormed

/-! ### Lexers -/

/-- Every lexer is well formed. What is done to it next, with or without success, leaves its classes
and states in their places. Its states are found by their names, and scanning any input leads to
states, classes and places in the input that are there. -/
theorem Reachable.registry_spec (reachable : lexer.Reachable) :
    lexer.WellFormed ∧
    (∀ operations, lexer.classes <+: (lexer.applyAll operations).classes ∧
      lexer.states.states <+: (lexer.applyAll operations).states.states) ∧
    (∀ index < lexer.states.states.length,
      lexer.findState? (lexer.states.name index) = some index) ∧
    ∀ input : String,
      (∀ state offset text, lexer.Reaches input.toList state offset text →
        state < lexer.states.states.length ∧
        ∃ front, input.toList = front ++ text ∧ Text.byteLength front = offset) ∧
      (∀ token ∈ (lexer.tokenize input).tokens, token.kind < lexer.classes.length) ∧
      (lexer.tokenize input).state < lexer.states.states.length := by
  have wellFormed := reachable.wellFormed
  refine ⟨wellFormed, ?_, fun index inside => wellFormed.findState?_name inside, fun input => ?_⟩
  · intro operations
    have changes : lexer.Changes (lexer.applyAll operations) := changes_applyAll operations
    exact ⟨changes.classes_prefix, changes.states_prefix⟩
  · obtain ⟨states, passes, last⟩ :=
      (exists_passes_scan (reaches_initialState lexer input.toList)).1
    obtain ⟨kinds, inside⟩ := wellFormed.forall_lt_of_passes passes
      (by simpa using wellFormed.initialState_lt)
    refine ⟨fun state offset text reaches => ?_, kinds, ?_⟩
    · exact ⟨wellFormed.lt_of_reaches reaches, reaches.exists_front⟩
    · exact inside _ (List.mem_of_getLast? last)

/-- A lexer whose switch for states is turned on and off, with registrations that fail for that
switch, for a name that is taken, and for a group that is missing. -/
def withEntries : Lexer :=
  Lexer.initial.applyAll [.addState "entry" true, .setStateful true,
    .addClass ⟨"key", none, .named "entry"⟩, .addClass ⟨"key", none, .any⟩,
    .addTransitions [⟨.ofClass "key", none, "default"⟩, ⟨.ofGroup "all", none, "entry"⟩],
    .addGroup "all" ["EOL", "key"], .addTransition ⟨.ofGroup "all", none, "entry"⟩,
    .setStateful false]

/-- The transition of the group comes first, and the state of the class is the one that was
registered with it. -/
theorem registry_entries :
    withEntries.transitions = [⟨[0, 2], anyState, 2, true⟩, ⟨[2], 2, initialState, false⟩] ∧
    withEntries.WellFormed ∧ withEntries.findState? "entry" = some 2 ∧
    withEntries.states.isStrict 2 = false ∧
    ∀ operations, withEntries.states.states <+:
      (withEntries.applyAll operations).states.states := by
  have reachable : withEntries.Reachable := Reachable.initial.applyAll _
  obtain ⟨wellFormed, stays, named, -⟩ := reachable.registry_spec
  refine ⟨by decide +kernel, wellFormed, ?_, by decide +kernel, fun later => (stays later).2⟩
  exact named 2 (by decide +kernel)

end ShiftReduce.Lexer
