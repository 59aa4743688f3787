import ShiftReduce.Lexer.Settings
import ShiftReduce.Proofs.Lexer.Outcomes

/-!
# Registrations that fail

A single registration that fails leaves no trace on the lexer. A series stops at the first of its
elements that fails: those in front of it are registered, and the failure is that of the element.
Settings are such a series, over all that they declare.

## Main definitions

* `Lexer.IsAtomic` — registrations that leave no trace where they fail
* `Lexer.Succeeds`, `Lexer.StopsAt` — series without a failure, and the first failure of a series
* `Declaration` — what settings declare, piece by piece

## Main results

* `Lexer.outcome_forM_eq_error_iff` — how a series of atomic registrations fails
* `Lexer.register_eq` — settings register their declarations one after the other
* `Lexer.failures_spec` — what is left behind by each kind of registration that fails
-/

namespace ShiftReduce

/-! ### Declarations -/

/-- A piece of what settings declare. -/
inductive Declaration
  | state (state : State)
  | tokenClass (settings : ClassSettings)
  | group (settings : GroupSettings)
  | transition (settings : TransitionSettings)

/-- Registers what is declared. A class with an invalid pattern and a transition that does not name
either a class or a group fail on their own. -/
def Declaration.register : Declaration → Registration Unit
  | .state declared => do let _ ← Lexer.addState declared.name declared.strict
  | .tokenClass declared =>
    match declared.toClass with
    | .ok added => do let _ ← Lexer.addClass added
    | .error error => throw error
  | .group declared => Lexer.addGroup declared.name declared.classes
  | .transition declared =>
    match declared.toRule with
    | .ok rule => Lexer.addTransition rule
    | .error error => throw error

namespace LexerSettings

/-- All that settings declare, in the order of registration. -/
def declarations (settings : LexerSettings) : List Declaration :=
  settings.states.map .state ++ settings.classes.map .tokenClass ++
    settings.groups.map .group ++ settings.transitions.map .transition

/-- The lexer that nothing is registered with yet, with its switches as they are set. -/
def blank (settings : LexerSettings) : Lexer :=
  { Lexer.initial with stateful := settings.stateful, skipsGaps := settings.skipWhitespace }

end LexerSettings

namespace Lexer

/-! ### Single registrations -/

/-- Wherever a registration fails, it leaves the lexer as it is. -/
def IsAtomic {α : Type} (registration : Registration α) : Prop :=
  ∀ lexer error later, outcome registration lexer = (.error error, later) → later = lexer

section IsAtomic

variable {α β : Type} {registration : Registration α}

/-- What has all of its effect or none leaves no trace where it fails. -/
theorem isAtomic_of_acts {effect : Lexer → α → Lexer → Prop}
    (acts : ∀ lexer : Lexer, lexer.Acts registration (effect lexer)) : IsAtomic registration := by
  intro lexer error later failed
  obtain ⟨other, unchanged⟩ | ⟨value, reached, succeeded, -⟩ := acts lexer
  · exact congrArg Prod.snd (failed.symm.trans unchanged)
  · cases failed.symm.trans succeeded

/-- Dropping the value of a registration makes no difference to its failures. -/
theorem IsAtomic.discard (atomic : IsAtomic registration) :
    IsAtomic (do let _ ← registration) := by
  intro lexer error later failed
  rw [outcome_bind] at failed
  rcases ran : outcome registration lexer with ⟨failure | value, reached⟩
  · rw [ran] at failed
    cases failed
    exact atomic lexer _ _ ran
  · rw [ran] at failed
    cases failed

theorem isAtomic_throw (error : LexerError) : IsAtomic (throw error : Registration α) := by
  intro lexer other later failed
  exact (congrArg Prod.snd failed).symm

theorem isAtomic_addState (name : String) (strict : Bool) : IsAtomic (addState name strict) :=
  isAtomic_of_acts fun _ => acts_addState name strict

theorem isAtomic_addClass (tokenClass : TokenClass) : IsAtomic (addClass tokenClass) :=
  isAtomic_of_acts fun _ => acts_addClass tokenClass

theorem isAtomic_addGroup (name : String) (members : List String) :
    IsAtomic (addGroup name members) :=
  isAtomic_of_acts fun _ => acts_addGroup name members

theorem isAtomic_addTransition (rule : TransitionRule) : IsAtomic (addTransition rule) :=
  isAtomic_of_acts fun _ => acts_addTransition rule

end IsAtomic

/-! ### Series -/

/-- Elements are registered one after the other without a failure, from a lexer to another one. -/
inductive Succeeds {α β : Type} (single : α → Registration β) : List α → Lexer → Lexer → Prop
  | nil (lexer : Lexer) : Succeeds single [] lexer lexer
  | cons {element : α} {rest : List α} {value : β} {lexer middle later : Lexer} :
      outcome (single element) lexer = (.ok value, middle) → Succeeds single rest middle later →
      Succeeds single (element :: rest) lexer later

/-- An element is the first of some that fails to be registered. The elements in front of it are,
and behind them the lexer is the later one. -/
def StopsAt {α β : Type} (single : α → Registration β) (elements : List α) (lexer : Lexer)
    (error : LexerError) (later : Lexer) : Prop :=
  ∃ front element rest, elements = front ++ element :: rest ∧
    Succeeds single front lexer later ∧ outcome (single element) later = (.error error, later)

/-- Registrations in a series fail at the first element that does, and with its error. -/
def FailsAtFirst {α β : Type} (single : α → Registration β) (series : List α → Registration Unit) :
    Prop :=
  ∀ elements lexer error later, outcome (series elements) lexer = (.error error, later) ↔
    StopsAt single elements lexer error later

section Series

variable {α β : Type} {single : α → Registration β} {element : α} {rest : List α}
  {lexer middle later : Lexer} {error : LexerError}

theorem not_stopsAt_nil : ¬StopsAt single [] lexer error later := by
  rintro ⟨front, element, rest, parts, -⟩
  simp at parts

/-- A series stops at its first element if that fails. -/
theorem stopsAt_cons_of_error {failure : LexerError}
    (failed : outcome (single element) lexer = (.error failure, lexer)) :
    StopsAt single (element :: rest) lexer error later ↔ failure = error ∧ lexer = later := by
  constructor
  · rintro ⟨front, other, behind, parts, succeeds, stops⟩
    cases succeeds with
    | nil =>
      obtain ⟨rfl, -⟩ := List.cons.inj parts
      simpa [failed] using stops
    | cons succeeded =>
      obtain ⟨rfl, -⟩ := List.cons.inj parts
      simp [failed] at succeeded
  · rintro ⟨rfl, rfl⟩
    exact ⟨[], element, rest, rfl, .nil lexer, failed⟩

/-- Behind an element that is registered, a series stops where the rest of it does. -/
theorem stopsAt_cons_of_ok {value : β}
    (succeeded : outcome (single element) lexer = (.ok value, middle)) :
    StopsAt single (element :: rest) lexer error later ↔
      StopsAt single rest middle error later := by
  constructor
  · rintro ⟨front, other, behind, parts, succeeds, stops⟩
    cases succeeds with
    | nil =>
      obtain ⟨rfl, -⟩ := List.cons.inj parts
      simp [succeeded] at stops
    | cons first others =>
      obtain ⟨rfl, tail⟩ := List.cons.inj parts
      obtain rfl := congrArg Prod.snd (succeeded.symm.trans first)
      exact ⟨_, other, behind, tail, others, stops⟩
  · rintro ⟨front, other, behind, rfl, succeeds, stops⟩
    exact ⟨element :: front, other, behind, rfl, .cons succeeded succeeds, stops⟩

/-- A series of atomic registrations fails at the first element that does. -/
theorem failsAtFirst_forM (single : α → Registration β)
    (atomic : ∀ element, IsAtomic (single element)) :
    FailsAtFirst single fun elements => elements.forM fun element => (do
      let _ ← single element) := by
  intro elements lexer error later
  induction elements generalizing lexer with
  | nil =>
    refine ⟨fun failed => ?_, fun stops => absurd stops not_stopsAt_nil⟩
    cases failed
  | cons element rest ih =>
    dsimp only
    rw [List.forM_eq_forM, List.forM_cons, bind_assoc, outcome_bind]
    rcases first : outcome (single element) lexer with ⟨failure | value, middle⟩
    · obtain rfl := atomic element lexer failure middle first
      simp [stopsAt_cons_of_error first]
    · rw [stopsAt_cons_of_ok first]
      exact ih middle

theorem failsAtFirst_addStates :
    FailsAtFirst (fun state => addState state.name state.strict) addStates :=
  failsAtFirst_forM _ fun state => isAtomic_addState state.name state.strict

theorem failsAtFirst_addClasses : FailsAtFirst addClass addClasses :=
  failsAtFirst_forM addClass isAtomic_addClass

theorem failsAtFirst_addTransitions : FailsAtFirst addTransition addTransitions := by
  have series : addTransitions = fun rules => rules.forM fun rule => (do
      let _ ← addTransition rule) := by
    funext rules
    simp [addTransitions]
  rw [series]
  exact failsAtFirst_forM addTransition isAtomic_addTransition

end Series

/-! ### Settings -/

theorem isAtomic_register (declaration : Declaration) : IsAtomic declaration.register := by
  cases declaration with
  | state declared => exact (isAtomic_addState declared.name declared.strict).discard
  | tokenClass declared =>
    rw [Declaration.register]
    split
    · exact (isAtomic_addClass _).discard
    · exact isAtomic_throw _
  | group declared => exact isAtomic_addGroup declared.name declared.classes
  | transition declared =>
    rw [Declaration.register]
    split
    · exact isAtomic_addTransition _
    · exact isAtomic_throw _

theorem register_tokenClass (declared : ClassSettings) :
    (Declaration.tokenClass declared).register = (do
      let tokenClass ← LexerSettings.register.liftExcept declared.toClass
      let _ ← addClass tokenClass) := by
  rw [Declaration.register]
  cases declared.toClass <;> rfl

theorem register_transition (declared : TransitionSettings) :
    (Declaration.transition declared).register = (do
      let rule ← LexerSettings.register.liftExcept declared.toRule
      addTransition rule) := by
  rw [Declaration.register]
  cases declared.toRule <;> rfl

/-- Settings set the switches and then register their declarations one after the other. -/
theorem register_eq (settings : LexerSettings) : settings.register = (do
    setStateful settings.stateful
    setSkipsGaps settings.skipWhitespace
    settings.declarations.forM fun declaration => do let _ ← declaration.register) := by
  simp only [LexerSettings.register, LexerSettings.declarations, addStates, List.forM_eq_forM,
    List.forM_append, List.forM_map, bind_pure_unit, bind_assoc, register_tokenClass,
    register_transition]
  rfl

theorem outcome_register (settings : LexerSettings) : outcome settings.register Lexer.initial =
    outcome (settings.declarations.forM fun declaration => do let _ ← declaration.register)
      settings.blank := by
  rw [register_eq, outcome_bind]
  rfl

theorem build_eq_error_iff {settings : LexerSettings} {error : LexerError} :
    settings.build = .error error ↔
      ∃ later, outcome settings.register Lexer.initial = (.error error, later) := by
  unfold LexerSettings.build outcome
  rcases settings.register.run.run Lexer.initial with ⟨failure | value, reached⟩ <;> simp

/-! ### Every kind of registration -/

/-- Registrations that fail leave no trace: a single one leaves the lexer as it was, and a series
leaves it as it was when its first failure came, with the error of the element that failed. The
first failure among the declarations of settings is that of the settings. -/
theorem failures_spec :
    (∀ name strict, IsAtomic (addState name strict)) ∧
    (∀ tokenClass, IsAtomic (addClass tokenClass)) ∧
    (∀ name members, IsAtomic (addGroup name members)) ∧
    (∀ rule, IsAtomic (addTransition rule)) ∧
    FailsAtFirst (fun state => addState state.name state.strict) addStates ∧
    FailsAtFirst addClass addClasses ∧
    FailsAtFirst addTransition addTransitions ∧
    ∀ settings error, LexerSettings.build settings = .error error ↔
      ∃ later, StopsAt Declaration.register settings.declarations settings.blank error later := by
  refine ⟨isAtomic_addState, isAtomic_addClass, isAtomic_addGroup, isAtomic_addTransition,
    failsAtFirst_addStates, failsAtFirst_addClasses, failsAtFirst_addTransitions, ?_⟩
  intro settings error
  rw [build_eq_error_iff, outcome_register]
  apply exists_congr
  exact failsAtFirst_forM Declaration.register isAtomic_register settings.declarations
    settings.blank error

/-- A class that is scoped to a new state brings that state along, but not where it is refused. -/
example : outcome (addClass ⟨"word", none, .named "text"⟩) Lexer.initial =
    (.error .notStateful, Lexer.initial) := rfl

end Lexer

end ShiftReduce
