import Mathlib.Data.List.Forall2
import ShiftReduce.Lexer.Registry

/-!
# What single registrations do

The registration of one state, class, group or transition does all that it should or nothing: it
fails and leaves the lexer as it is, or it succeeds with an effect that can be told from the lexer.

## Main definitions

* `Lexer.outcome`, `Lexer.after` — the result of a registration and the lexer behind it
* `Lexer.Reads` — registrations without an effect
* `Lexer.Resolves` — the transition that a rule declares
* `Lexer.Acts` — registrations with an effect of a certain kind, or without any

## Main results

* `Lexer.acts_addState`, `Lexer.acts_addClass`, `Lexer.acts_addGroup`, `Lexer.acts_addTransition` —
  the effects of single registrations
-/

namespace ShiftReduce

/-- A state is found once it is added, in the place that is told. -/
theorem StateTable.find?_add (table : StateTable) (name : String) (strict : Bool) :
    (table.add name strict).2.find? name = some (table.add name strict).1 := by
  cases found : table.find? name with
  | some index => simp [add, found]
  | none =>
    rw [find?] at found
    simp [add, find?, found, List.findIdx?_append]

namespace Lexer

/-! ### Outcomes -/

/-- The result of a registration, with the lexer behind it. -/
def outcome {α : Type} (registration : Registration α) (lexer : Lexer) :
    Except LexerError α × Lexer :=
  registration.run.run lexer

/-- The lexer behind a registration, whether that failed or not. -/
def after {α : Type} (registration : Registration α) (lexer : Lexer) : Lexer :=
  (registration.run.run lexer).2

section Outcome

variable {α β : Type} {lexer : Lexer}

/-- What follows on reading the lexer runs on the lexer that was read. -/
theorem outcome_get_bind (next : Lexer → Registration α) :
    outcome (get >>= next) lexer = outcome (next lexer) lexer := rfl

theorem outcome_bind (first : Registration α) (next : α → Registration β) :
    outcome (first >>= next) lexer =
      match outcome first lexer with
      | (.ok value, reached) => outcome (next value) reached
      | (.error error, reached) => (.error error, reached) := by
  unfold outcome ExceptT.run StateT.run
  simp only [bind, ExceptT.bind, ExceptT.mk, StateT.bind, ExceptT.bindCont]
  cases first lexer with
  | mk result reached => cases result <;> rfl

end Outcome

/-! ### Registrations that only read -/

/-- A registration leaves the lexer as it is, and its value, if it has one, is of a certain kind. -/
def Reads {α : Type} (lexer : Lexer) (registration : Registration α) (kind : α → Prop) : Prop :=
  ∃ result, outcome registration lexer = (result, lexer) ∧ ∀ value, result = .ok value → kind value

section Reads

variable {α β : Type} {lexer : Lexer}

theorem Reads.pure {kind : α → Prop} {value : α} (holds : kind value) :
    lexer.Reads (pure value) kind :=
  ⟨.ok value, rfl, fun _ same => Except.ok.inj same ▸ holds⟩

theorem Reads.require (value : Option α) (error : LexerError) :
    lexer.Reads (require value error) fun found => value = some found := by
  cases value with
  | none => exact ⟨.error error, rfl, nofun⟩
  | some value => exact .pure rfl

theorem Reads.bind {first : Registration α} {next : α → Registration β} {kind : α → Prop}
    {nextKind : β → Prop} (reads : lexer.Reads first kind)
    (nextReads : ∀ value, kind value → lexer.Reads (next value) nextKind) :
    lexer.Reads (first >>= next) nextKind := by
  obtain ⟨result, ran, isKind⟩ := reads
  cases result with
  | error error => exact ⟨.error error, by rw [outcome_bind, ran], nofun⟩
  | ok value =>
    obtain ⟨other, nextRan, isNextKind⟩ := nextReads value (isKind value rfl)
    exact ⟨other, by rw [outcome_bind, ran]; exact nextRan, isNextKind⟩

theorem Reads.mapM {elements : List α} {body : α → Registration β} {kind : α → β → Prop}
    (reads : ∀ element, lexer.Reads (body element) (kind element)) :
    lexer.Reads (elements.mapM body) (List.Forall₂ kind elements) := by
  induction elements with
  | nil => exact .pure .nil
  | cons element rest ih =>
    rw [List.mapM_cons]
    apply (reads element).bind
    intro value isKind
    apply ih.bind
    intro values areKind
    exact .pure (.cons isKind areKind)

end Reads

/-! ### Transitions that rules declare -/

/-- The state that a transition leaves: the one that is declared, or else `fallback`. -/
def IsSource (lexer : Lexer) (declared : Option String) (fallback source : StateIndex) : Prop :=
  match declared with
  | some name => lexer.findState? name = some source
  | none => source = fallback

/-- The transition that a rule declares, where all names in it are known. -/
inductive Resolves (lexer : Lexer) : TransitionRule → Transition → Prop
  | ofClass {name targetName : String} {declared : Option String} {kind : ClassIndex}
      {source target : StateIndex} : lexer.findState? targetName = some target →
      lexer.findClass? name = some kind →
      lexer.IsSource declared (lexer.classState kind) source →
      Resolves lexer ⟨.ofClass name, declared, targetName⟩ ⟨[kind], source, target, false⟩
  | ofGroup {name targetName : String} {declared : Option String} {group : Group}
      {source target : StateIndex} : lexer.findState? targetName = some target →
      lexer.findGroup? name = some group → lexer.IsSource declared anyState source →
      Resolves lexer ⟨.ofGroup name, declared, targetName⟩ ⟨group.classes, source, target, true⟩

section Resolves

variable {lexer : Lexer}

theorem reads_sourceOf (declared : Option String) (fallback : StateIndex) :
    lexer.Reads (sourceOf lexer declared fallback) (lexer.IsSource declared fallback) := by
  cases declared with
  | none => exact .pure rfl
  | some name => exact .require _ _

theorem reads_resolve (rule : TransitionRule) :
    lexer.Reads (resolve rule) (lexer.Resolves rule) := by
  obtain ⟨trigger, declared, targetName⟩ := rule
  apply (Reads.require (lexer.findState? targetName) _).bind
  intro target entered
  cases trigger with
  | ofClass name =>
    apply (Reads.require (lexer.findClass? name) _).bind
    intro kind known
    apply (reads_sourceOf declared (lexer.classState kind)).bind
    intro source left
    exact .pure (.ofClass entered known left)
  | ofGroup name =>
    apply (Reads.require (lexer.findGroup? name) _).bind
    intro group known
    apply (reads_sourceOf declared anyState).bind
    intro source left
    exact .pure (.ofGroup entered known left)

end Resolves

/-! ### Registrations that act -/

/-- A registration fails and leaves the lexer as it is, or it succeeds, and its value and the lexer
behind it are of a certain kind. -/
def Acts {α : Type} (lexer : Lexer) (registration : Registration α) (effect : α → Lexer → Prop) :
    Prop :=
  (∃ error, outcome registration lexer = (.error error, lexer)) ∨
    ∃ value later, outcome registration lexer = (.ok value, later) ∧ effect value later

section Acts

variable {α β : Type} {lexer later : Lexer}

namespace Acts

/-- What is read before a registration makes no difference, unless it fails. -/
theorem bind {first : Registration α} {next : α → Registration β} {kind : α → Prop}
    {effect : β → Lexer → Prop} (reads : lexer.Reads first kind)
    (acts : ∀ value, kind value → lexer.Acts (next value) effect) :
    lexer.Acts (first >>= next) effect := by
  obtain ⟨result, ran, isKind⟩ := reads
  unfold Acts
  rw [outcome_bind, ran]
  cases result with
  | error error => exact .inl ⟨error, rfl⟩
  | ok value => exact acts value (isKind value rfl)

variable {registration : Registration α} {effect : α → Lexer → Prop}

theorem effect_of_ok (acts : lexer.Acts registration effect) {value : α}
    (ran : outcome registration lexer = (.ok value, later)) : effect value later := by
  rcases acts with ⟨error, failed⟩ | ⟨value, later, succeeded, isEffect⟩
  · cases failed.symm.trans ran
  · cases succeeded.symm.trans ran
    exact isEffect

/-- What holds of a lexer and behind every effect on it holds after the registration. -/
theorem after (acts : lexer.Acts registration effect) {property : Lexer → Prop}
    (holds : property lexer) (behind : ∀ value later, effect value later → property later) :
    property (after registration lexer) := by
  change property (outcome registration lexer).2
  rcases acts with ⟨error, failed⟩ | ⟨value, later, succeeded, isEffect⟩
  · rwa [failed]
  · rw [succeeded]
    exact behind value later isEffect

end Acts

/-! ### Single registrations -/

theorem outcome_addState (name : String) (strict : Bool) :
    outcome (addState name strict) lexer =
      if lexer.stateful then
        (.ok (lexer.states.add name strict).1,
          { lexer with states := (lexer.states.add name strict).2 })
      else (.error .notStateful, lexer) := by
  rw [addState, outcome_get_bind]
  cases lexer.stateful <;> rfl

/-- A state is registered if the lexer has states. -/
theorem acts_addState (name : String) (strict : Bool) :
    lexer.Acts (addState name strict) fun index later =>
      lexer.stateful = true ∧ index = (lexer.states.add name strict).1 ∧
        later = { lexer with states := (lexer.states.add name strict).2 } := by
  unfold Acts
  rw [outcome_addState]
  by_cases mode : lexer.stateful = true
  · rw [if_pos mode]
    exact .inr ⟨_, _, rfl, mode, rfl, rfl⟩
  · rw [if_neg mode]
    exact .inl ⟨_, rfl⟩

/-- The states of a lexer behind the registration of a class with a scope, and the state that the
class matches in. One that the scope names is registered with the class. -/
inductive ScopesTo (lexer : Lexer) : Scope → StateTable → StateIndex → Prop
  | any : ScopesTo lexer .any lexer.states anyState
  | initial : ScopesTo lexer .initial lexer.states initialState
  | named {name : String} : lexer.stateful = true →
      ScopesTo lexer (.named name) (lexer.states.add name false).2 (lexer.states.add name false).1

/-- A class is registered behind all others if its name is new, with the state of its scope. -/
theorem acts_addClass (tokenClass : TokenClass) :
    lexer.Acts (addClass tokenClass) fun index later =>
      lexer.findClass? tokenClass.name = none ∧ index = lexer.classes.length ∧
        ∃ states state, lexer.ScopesTo tokenClass.scope states state ∧
          later = { lexer with classes := lexer.classes ++ [⟨tokenClass, state⟩], states } := by
  unfold Acts
  rw [addClass, outcome_get_bind]
  cases fresh : lexer.findClass? tokenClass.name with
  | some index => exact .inl ⟨_, rfl⟩
  | none =>
    cases place : tokenClass.scope with
    | any => exact .inr ⟨_, _, rfl, rfl, rfl, _, _, .any, rfl⟩
    | initial => exact .inr ⟨_, _, rfl, rfl, rfl, _, _, .initial, rfl⟩
    | named name =>
      dsimp only [Option.isSome_none]
      rw [if_neg Bool.false_ne_true, outcome_bind, outcome_addState]
      by_cases mode : lexer.stateful = true
      · rw [if_pos mode]
        exact .inr ⟨_, _, rfl, rfl, rfl, _, _, .named mode, rfl⟩
      · rw [if_neg mode]
        exact .inl ⟨_, rfl⟩

/-- A group is registered behind all others if its members are. -/
theorem acts_addGroup (name : String) (members : List String) :
    lexer.Acts (addGroup name members) fun _ later => ∃ classes,
      List.Forall₂ (fun member kind => lexer.findClass? member = some kind) members classes ∧
        later = { lexer with groups := lexer.groups ++ [⟨name, classes⟩] } := by
  apply Acts.bind (.mapM fun member => .require _ _)
  intro classes known
  exact .inr ⟨_, _, rfl, classes, known, rfl⟩

/-- A transition is registered if the lexer has states and all names in the rule are known. -/
theorem acts_addTransition (rule : TransitionRule) :
    lexer.Acts (addTransition rule) fun _ later => lexer.stateful = true ∧ ∃ transition,
      lexer.Resolves rule transition ∧
        later = { lexer with
          transitions := insertTransition transition lexer.transitions } := by
  unfold Acts
  rw [addTransition, outcome_get_bind]
  cases mode : lexer.stateful with
  | false => exact .inl ⟨_, rfl⟩
  | true =>
    apply Acts.bind (reads_resolve rule)
    intro transition resolved
    exact .inr ⟨_, _, rfl, rfl, transition, resolved, by rw [← mode]⟩

end Acts

end Lexer

end ShiftReduce
