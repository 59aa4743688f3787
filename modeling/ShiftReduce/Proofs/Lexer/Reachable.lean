import Mathlib.Logic.Relation
import ShiftReduce.Proofs.Lexer.Outcomes

/-!
# Lexers that registrations build

Every lexer starts as the initial one and is changed by registrations and switches only, any of
which may fail. There are six kinds of changes, each made behind certain checks, and an operation
makes none, one or several of them. What holds at the start and is kept by each of them holds of all
lexers there are.

## Main definitions

* `Lexer.Operation`, `Lexer.applyAll` — what can be done to a lexer, once and time and again
* `Lexer.Reachable` — the lexers that operations lead to
* `Lexer.Change` — what can happen to a lexer at a time

## Main results

* `Lexer.Operation.changes`, `Lexer.changes_applyAll` — operations make changes only
* `Lexer.Changes.classes_prefix` — no change takes classes away or puts any in front
* `Lexer.Reachable.endClass_lt` — every lexer has the class that ends inputs
-/

namespace ShiftReduce.Lexer

/-- What can be done to a lexer. -/
inductive Operation
  | setStateful (value : Bool)
  | setSkipsGaps (value : Bool)
  | addState (name : String) (strict : Bool)
  | addStates (states : List State)
  | addClass (tokenClass : TokenClass)
  | addClasses (classes : List TokenClass)
  | addGroup (name : String) (members : List String)
  | addTransition (rule : TransitionRule)
  | addTransitions (rules : List TransitionRule)

/-- The lexer behind an operation. -/
def Operation.apply : Operation → Lexer → Lexer
  | .setStateful value => after (Lexer.setStateful value)
  | .setSkipsGaps value => after (Lexer.setSkipsGaps value)
  | .addState name strict => after (Lexer.addState name strict)
  | .addStates states => after (Lexer.addStates states)
  | .addClass tokenClass => after (Lexer.addClass tokenClass)
  | .addClasses classes => after (Lexer.addClasses classes)
  | .addGroup name members => after (Lexer.addGroup name members)
  | .addTransition rule => after (Lexer.addTransition rule)
  | .addTransitions rules => after (Lexer.addTransitions rules)

/-- The lexer behind operations that are made one after the other. -/
def applyAll (lexer : Lexer) (operations : List Operation) : Lexer :=
  operations.foldl (fun lexer operation => operation.apply lexer) lexer

/-- The lexers that operations lead to from the initial one. -/
inductive Reachable : Lexer → Prop
  | initial : Reachable Lexer.initial
  | apply {lexer : Lexer} (operation : Operation) :
      Reachable lexer → Reachable (operation.apply lexer)

theorem Reachable.applyAll {lexer : Lexer} (reachable : lexer.Reachable)
    (operations : List Operation) : (lexer.applyAll operations).Reachable := by
  induction operations generalizing lexer with
  | nil => exact reachable
  | cons operation _ ih => exact ih (reachable.apply operation)

/-! ### What registrations keep -/

/-- A registration keeps a property of lexers, also where it fails. -/
def Preserves (property : Lexer → Prop) {α : Type} (registration : Registration α) : Prop :=
  ∀ lexer, property lexer → property (after registration lexer)

section Preserves

variable {property : Lexer → Prop} {α β : Type}

theorem Preserves.pure (value : α) : Preserves property (pure value : Registration α) :=
  fun _ holds => holds

/-- What both parts of a sequence keep, the sequence keeps. -/
theorem Preserves.bind {first : Registration α} {next : α → Registration β}
    (keepsFirst : Preserves property first) (keepsNext : ∀ value, Preserves property (next value)) :
    Preserves property (first >>= next) := by
  intro lexer holds
  have middle : property (outcome first lexer).2 := keepsFirst lexer holds
  change property (outcome (first >>= next) lexer).2
  rw [outcome_bind]
  rcases result : outcome first lexer with ⟨_ | value, reached⟩
  · rwa [result] at middle
  · rw [result] at middle
    exact keepsNext value reached middle

/-- A registration keeps what its effect keeps. -/
theorem Acts.preserves {registration : Registration α} {effect : Lexer → α → Lexer → Prop}
    (acts : ∀ lexer : Lexer, lexer.Acts registration (effect lexer))
    (keeps : ∀ lexer value later, property lexer → effect lexer value later → property later) :
    Preserves property registration :=
  fun lexer holds => (acts lexer).after holds fun value later => keeps lexer value later holds

theorem Preserves.forM {elements : List α} {body : α → Registration Unit}
    (keeps : ∀ element, Preserves property (body element)) :
    Preserves property (elements.forM body) := by
  induction elements with
  | nil => exact .pure ()
  | cons element rest ih => exact (keeps element).bind fun _ => ih

end Preserves

/-! ### Changes -/

/-- The state that a scope stands for, if there is one. -/
def scopeState? (lexer : Lexer) : Scope → Option StateIndex
  | .any => some anyState
  | .initial => some initialState
  | .named name => lexer.states.find? name

/-- What can happen to a lexer at a time, with what was checked before. -/
inductive Change (lexer : Lexer) : Lexer → Prop
  | setStateful (value : Bool) : Change lexer { lexer with stateful := value }
  | setSkipsGaps (value : Bool) : Change lexer { lexer with skipsGaps := value }
  | addState {name : String} (strict : Bool) : lexer.stateful = true →
      lexer.states.find? name = none →
      Change lexer { lexer with states := ⟨lexer.states.states ++ [⟨name, strict⟩]⟩ }
  | addClass {tokenClass : TokenClass} {state : StateIndex} :
      lexer.findClass? tokenClass.name = none → lexer.scopeState? tokenClass.scope = some state →
      Change lexer { lexer with classes := lexer.classes ++ [⟨tokenClass, state⟩] }
  | addGroup (name : String) {members : List String} {classes : List ClassIndex} :
      List.Forall₂ (fun member kind => lexer.findClass? member = some kind) members classes →
      Change lexer { lexer with groups := lexer.groups ++ [⟨name, classes⟩] }
  | addTransition {rule : TransitionRule} {transition : Transition} : lexer.stateful = true →
      lexer.Resolves rule transition →
      Change lexer { lexer with transitions := insertTransition transition lexer.transitions }

/-- A lexer leads to another by changes, one after the other. -/
abbrev Changes : Lexer → Lexer → Prop := Relation.ReflTransGen Change

section Changes

variable {lexer : Lexer} {α β : Type}

theorem changes_add (name : String) (strict : Bool) (mode : lexer.stateful = true) :
    lexer.Changes { lexer with states := (lexer.states.add name strict).2 } := by
  unfold StateTable.add
  cases found : lexer.states.find? name with
  | some index => exact .refl
  | none => exact .single (.addState strict mode found)

theorem changes_addState (name : String) (strict : Bool) :
    lexer.Changes (after (addState name strict) lexer) := by
  refine (acts_addState name strict).after .refl ?_
  rintro _ _ ⟨mode, -, rfl⟩
  exact changes_add name strict mode

theorem changes_addClass (tokenClass : TokenClass) :
    lexer.Changes (after (addClass tokenClass) lexer) := by
  refine (acts_addClass tokenClass).after .refl ?_
  rintro _ _ ⟨fresh, -, states, state, scopes, rfl⟩
  generalize place : tokenClass.scope = scope at scopes
  cases scopes with
  | any => exact .single (.addClass fresh (congrArg lexer.scopeState? place))
  | initial => exact .single (.addClass fresh (congrArg lexer.scopeState? place))
  | @named name mode =>
    refine (changes_add name false mode).tail (.addClass fresh ?_)
    rw [place]
    exact lexer.states.find?_add name false

theorem changes_addGroup (name : String) (members : List String) :
    lexer.Changes (after (addGroup name members) lexer) := by
  refine (acts_addGroup name members).after .refl ?_
  rintro _ _ ⟨classes, known, rfl⟩
  exact .single (.addGroup name known)

theorem changes_addTransition (rule : TransitionRule) :
    lexer.Changes (after (addTransition rule) lexer) := by
  refine (acts_addTransition rule).after .refl ?_
  rintro _ _ ⟨mode, transition, resolved, rfl⟩
  exact .single (.addTransition mode resolved)

/-- A registration that makes changes only leads to what its lexer leads to. -/
theorem preserves_changes {start : Lexer} {registration : Registration α}
    (changes : ∀ lexer : Lexer, lexer.Changes (after registration lexer)) :
    Preserves start.Changes registration :=
  fun lexer reached => reached.trans (changes lexer)

/-- An operation makes changes only, one after the other, whether it fails or not. -/
theorem Operation.changes (operation : Operation) (lexer : Lexer) :
    lexer.Changes (operation.apply lexer) := by
  cases operation with
  | setStateful value => exact .single (.setStateful value)
  | setSkipsGaps value => exact .single (.setSkipsGaps value)
  | addState name strict => exact changes_addState name strict
  | addStates states =>
    apply Preserves.forM _ lexer .refl
    exact fun _ => (preserves_changes fun _ => changes_addState _ _).bind fun _ => .pure ()
  | addClass tokenClass => exact changes_addClass tokenClass
  | addClasses classes =>
    apply Preserves.forM _ lexer .refl
    exact fun _ => (preserves_changes fun _ => changes_addClass _).bind fun _ => .pure ()
  | addGroup name members => exact changes_addGroup name members
  | addTransition rule => exact changes_addTransition rule
  | addTransitions rules =>
    apply Preserves.forM _ lexer .refl
    exact fun _ => preserves_changes fun _ => changes_addTransition _

/-- So do operations that are made one after the other. -/
theorem changes_applyAll (operations : List Operation) :
    lexer.Changes (lexer.applyAll operations) := by
  induction operations generalizing lexer with
  | nil => exact .refl
  | cons operation _ ih => exact (operation.changes lexer).trans ih

/-- Every lexer comes from the initial one by changes. -/
theorem Reachable.changes (reachable : lexer.Reachable) : Lexer.initial.Changes lexer := by
  induction reachable with
  | initial => exact .refl
  | apply operation _ ih => exact ih.trans (operation.changes _)

end Changes

/-! ### Classes stay -/

/-- The classes of a lexer start with given ones. -/
def HasClasses (front : List RegisteredClass) (lexer : Lexer) : Prop := front <+: lexer.classes

/-- No change takes classes away or puts any in front. -/
theorem Change.classes_prefix {lexer later : Lexer} (change : lexer.Change later) :
    lexer.classes <+: later.classes := by
  cases change with
  | addClass => exact List.prefix_append _ _
  | _ => exact List.prefix_rfl

theorem Changes.classes_prefix {lexer later : Lexer} (changes : lexer.Changes later) :
    lexer.classes <+: later.classes := by
  induction changes with
  | refl => exact List.prefix_rfl
  | tail _ change ih => exact ih.trans change.classes_prefix

/-- Every lexer starts with the classes of the initial one. -/
theorem Reachable.hasClasses {lexer : Lexer} (reachable : lexer.Reachable) :
    HasClasses Lexer.initial.classes lexer :=
  reachable.changes.classes_prefix

/-- Every lexer has the class of the token that ends inputs. -/
theorem Reachable.endClass_lt {lexer : Lexer} (reachable : lexer.Reachable) :
    endClass < lexer.classNames.length := by
  rw [classNames, List.length_map]
  exact reachable.hasClasses.length_le

end ShiftReduce.Lexer
