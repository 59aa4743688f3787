import Mathlib.Data.List.Nodup
import Mathlib.Data.List.TakeWhile
import ShiftReduce.Proofs.Lexer.Reachable

/-!
# Well-formed lexers

Two classes and two states are always there and keep their places. Names of classes and of states
are given once, what refers to a class or a state refers to one that is there, and transitions of
groups stand in front of the others.

## Main definitions

* `Lexer.WellFormed` — what holds of the parts of a lexer

## Main results

* `Lexer.WellFormed.of_change` — each change keeps it
* `Lexer.Reachable.wellFormed` — every lexer is well formed
* `Lexer.Changes.states_prefix` — no change takes states away or alters one
* `Lexer.WellFormed.findState?_name` — a state is found by its name
-/

namespace ShiftReduce

/-- Where names are given once, the first place with a name is the only one. -/
theorem findIdx?_name_eq_some_iff {α : Type} {nameOf : α → String} {elements : List α}
    (distinct : (elements.map nameOf).Nodup) {name : String} {index : Nat} :
    elements.findIdx? (fun element => nameOf element == name) = some index ↔
      (elements.map nameOf)[index]? = some name := by
  constructor
  · intro found
    obtain ⟨inside, same, -⟩ := List.findIdx?_eq_some_iff_getElem.mp found
    simpa [inside] using same
  · intro known
    obtain ⟨inside, same⟩ := List.getElem?_eq_some_iff.mp known
    rw [List.length_map] at inside
    rw [List.getElem_map] at same
    refine List.findIdx?_eq_some_iff_getElem.mpr ⟨inside, by simpa using same, ?_⟩
    intro earlier before again
    have repeated : (elements.map nameOf)[earlier]? = (elements.map nameOf)[index]? := by
      simpa [inside, before.trans inside, same] using again
    have inFront : earlier < (elements.map nameOf).length := by simpa using before.trans inside
    exact before.ne ((List.getElem?_inj inFront distinct).mp repeated)

/-- A name that is not found can be given to one more. -/
theorem nodup_map_append_singleton {α : Type} {nameOf : α → String} {elements : List α} {added : α}
    (distinct : (elements.map nameOf).Nodup)
    (fresh : elements.findIdx? (fun element => nameOf element == nameOf added) = none) :
    ((elements ++ [added]).map nameOf).Nodup := by
  have unnamed : ∀ element ∈ elements, nameOf element ≠ nameOf added := by simpa using fresh
  rw [List.map_append, List.nodup_append]
  exact ⟨distinct, List.nodup_singleton _, by simpa using unnamed⟩

theorem StateTable.find?_lt {table : StateTable} {name : String} {index : StateIndex}
    (found : table.find? name = some index) : index < table.states.length :=
  (List.findIdx?_eq_some_iff_getElem.mp found).1

namespace Lexer

/-- What holds of the parts of a lexer. -/
structure WellFormed (lexer : Lexer) : Prop where
  lineBreak : lexer.classes[lineBreakClass]? = some ⟨.lineBreak, anyState⟩
  inputEnd : lexer.classes[endClass]? = some ⟨.inputEnd, initialState⟩
  classNames_nodup : lexer.classNames.Nodup
  states_anyState : lexer.states.states[anyState]? = some ⟨anyStateName, false⟩
  states_initialState : lexer.states.states[initialState]? = some ⟨initialStateName, false⟩
  stateNames_nodup : (lexer.states.states.map State.name).Nodup
  /-- Every class belongs to a state that is there. -/
  state_lt : ∀ entry ∈ lexer.classes, entry.state < lexer.states.states.length
  /-- The members of groups are classes that are there. -/
  member_lt : ∀ group ∈ lexer.groups, ∀ kind ∈ group.classes, kind < lexer.classes.length
  source_lt : ∀ transition ∈ lexer.transitions, transition.source < lexer.states.states.length
  target_lt : ∀ transition ∈ lexer.transitions, transition.target < lexer.states.states.length
  kind_lt : ∀ transition ∈ lexer.transitions, ∀ kind ∈ transition.classes,
    kind < lexer.classes.length
  /-- The transitions of groups stand in front of those of single classes. -/
  grouped_first : lexer.transitions.Pairwise fun earlier later =>
    later.grouped = true → earlier.grouped = true

/-! ### Lookups -/

section Lookups

variable {lexer : Lexer}

theorem findClass?_lt {name : String} {kind : ClassIndex}
    (found : lexer.findClass? name = some kind) : kind < lexer.classes.length :=
  (List.findIdx?_eq_some_iff_getElem.mp found).1

theorem forall_lt_of_findClass? {members : List String} {classes : List ClassIndex}
    (known : List.Forall₂ (fun member kind => lexer.findClass? member = some kind)
      members classes) :
    ∀ kind ∈ classes, kind < lexer.classes.length := by
  induction known with
  | nil => exact nofun
  | cons found _ ih => exact List.forall_mem_cons.mpr ⟨findClass?_lt found, ih⟩

theorem mem_insertTransition {transition other : Transition} {transitions : List Transition} :
    other ∈ insertTransition transition transitions ↔
      other = transition ∨ other ∈ transitions := by
  unfold insertTransition
  by_cases grouped : transition.grouped = true
  · have parts : other ∈ transitions.takeWhile Transition.grouped ++
        transitions.dropWhile Transition.grouped ↔ other ∈ transitions := by
      rw [List.takeWhile_append_dropWhile]
    rw [← parts]
    simp only [grouped, if_true, List.mem_append, List.mem_cons]
    tauto
  · simp [grouped, or_comm]

theorem forall_mem_insertTransition {transition : Transition} {transitions : List Transition}
    {property : Transition → Prop} :
    (∀ other ∈ insertTransition transition transitions, property other) ↔
      property transition ∧ ∀ other ∈ transitions, property other := by
  simp only [mem_insertTransition, forall_eq_or_imp]

namespace WellFormed

variable (wellFormed : lexer.WellFormed)
include wellFormed

theorem lineBreak_lt : lineBreakClass < lexer.classes.length :=
  (List.getElem?_eq_some_iff.mp wellFormed.lineBreak).1

theorem endClass_lt : endClass < lexer.classes.length :=
  (List.getElem?_eq_some_iff.mp wellFormed.inputEnd).1

theorem anyState_lt : anyState < lexer.states.states.length :=
  (List.getElem?_eq_some_iff.mp wellFormed.states_anyState).1

theorem initialState_lt : initialState < lexer.states.states.length :=
  (List.getElem?_eq_some_iff.mp wellFormed.states_initialState).1

theorem findState?_lt {name : String} {index : StateIndex}
    (found : lexer.findState? name = some index) : index < lexer.states.states.length := by
  unfold findState? at found
  split_ifs at found
  · exact Option.some.inj found ▸ wellFormed.anyState_lt
  · exact Option.some.inj found ▸ wellFormed.initialState_lt
  · exact StateTable.find?_lt found

theorem classState_lt (kind : ClassIndex) :
    lexer.classState kind < lexer.states.states.length := by
  cases known : lexer.classes[kind]? with
  | none => simpa [classState, known] using wellFormed.anyState_lt
  | some entry =>
    simpa [classState, known] using wellFormed.state_lt entry (List.mem_of_getElem? known)

theorem isSource_lt {declared : Option String} {fallback source : StateIndex}
    (isSource : lexer.IsSource declared fallback source)
    (inside : fallback < lexer.states.states.length) : source < lexer.states.states.length := by
  cases declared with
  | none => exact (show source = fallback from isSource) ▸ inside
  | some name => exact wellFormed.findState?_lt isSource

theorem scopeState?_lt {scope : Scope} {state : StateIndex}
    (found : lexer.scopeState? scope = some state) : state < lexer.states.states.length := by
  cases scope with
  | any => exact Option.some.inj found ▸ wellFormed.anyState_lt
  | initial => exact Option.some.inj found ▸ wellFormed.initialState_lt
  | named name => exact StateTable.find?_lt found

/-- The transition that a rule declares refers to what is there. -/
theorem resolves_lt {rule : TransitionRule} {transition : Transition}
    (resolves : lexer.Resolves rule transition) :
    transition.source < lexer.states.states.length ∧
      transition.target < lexer.states.states.length ∧
      ∀ kind ∈ transition.classes, kind < lexer.classes.length := by
  cases resolves with
  | ofClass entered known left =>
    refine ⟨wellFormed.isSource_lt left (wellFormed.classState_lt _),
      wellFormed.findState?_lt entered, ?_⟩
    simpa using findClass?_lt known
  | ofGroup entered known left =>
    exact ⟨wellFormed.isSource_lt left wellFormed.anyState_lt, wellFormed.findState?_lt entered,
      wellFormed.member_lt _ (List.mem_of_find?_eq_some known)⟩

end WellFormed

end Lookups

/-! ### Changes -/

section Changes

variable {lexer later : Lexer}

/-- The transitions of groups stay in front of those of single classes. -/
theorem pairwise_insertTransition {transitions : List Transition}
    (ordered : transitions.Pairwise fun earlier later =>
      later.grouped = true → earlier.grouped = true) (transition : Transition) :
    (insertTransition transition transitions).Pairwise fun earlier later =>
      later.grouped = true → earlier.grouped = true := by
  unfold insertTransition
  by_cases grouped : transition.grouped = true
  · rw [if_pos grouped, List.pairwise_append, List.pairwise_cons]
    refine ⟨ordered.sublist (List.takeWhile_sublist _),
      ⟨fun _ _ _ => grouped, ordered.sublist (List.dropWhile_sublist _)⟩, ?_⟩
    intro earlier inFront _ _ _
    exact List.mem_takeWhile_imp inFront
  · rw [if_neg grouped, List.pairwise_append]
    simp [ordered, grouped]

namespace WellFormed

variable (wellFormed : lexer.WellFormed)
include wellFormed

/-- States that were there keep their places, so what refers to one still does. -/
theorem addState {name : String} (strict : Bool) (fresh : lexer.states.find? name = none) :
    { lexer with states := ⟨lexer.states.states ++ [⟨name, strict⟩]⟩ : Lexer }.WellFormed where
  __ := wellFormed
  states_anyState :=
    (List.getElem?_append_left wellFormed.anyState_lt).trans wellFormed.states_anyState
  states_initialState :=
    (List.getElem?_append_left wellFormed.initialState_lt).trans wellFormed.states_initialState
  stateNames_nodup := nodup_map_append_singleton wellFormed.stateNames_nodup fresh
  state_lt entry listed :=
    (wellFormed.state_lt entry listed).trans_le (List.prefix_append _ _).length_le
  source_lt transition listed :=
    (wellFormed.source_lt transition listed).trans_le (List.prefix_append _ _).length_le
  target_lt transition listed :=
    (wellFormed.target_lt transition listed).trans_le (List.prefix_append _ _).length_le

/-- Classes that were there keep their places, and the new one is in a state that is there. -/
theorem addClass {tokenClass : TokenClass} {state : StateIndex}
    (fresh : lexer.findClass? tokenClass.name = none)
    (place : lexer.scopeState? tokenClass.scope = some state) :
    { lexer with classes := lexer.classes ++ [⟨tokenClass, state⟩] : Lexer }.WellFormed where
  __ := wellFormed
  lineBreak := (List.getElem?_append_left wellFormed.lineBreak_lt).trans wellFormed.lineBreak
  inputEnd := (List.getElem?_append_left wellFormed.endClass_lt).trans wellFormed.inputEnd
  classNames_nodup := nodup_map_append_singleton wellFormed.classNames_nodup fresh
  state_lt := by
    rw [List.forall_mem_append, List.forall_mem_singleton]
    exact ⟨wellFormed.state_lt, wellFormed.scopeState?_lt place⟩
  member_lt group listed kind isMember :=
    (wellFormed.member_lt group listed kind isMember).trans_le (List.prefix_append _ _).length_le
  kind_lt transition listed kind isMember :=
    (wellFormed.kind_lt transition listed kind isMember).trans_le (List.prefix_append _ _).length_le

theorem addGroup (name : String) {members : List String} {classes : List ClassIndex}
    (known : List.Forall₂ (fun member kind => lexer.findClass? member = some kind)
      members classes) :
    { lexer with groups := lexer.groups ++ [⟨name, classes⟩] : Lexer }.WellFormed where
  __ := wellFormed
  member_lt := by
    rw [List.forall_mem_append, List.forall_mem_singleton]
    exact ⟨wellFormed.member_lt, forall_lt_of_findClass? known⟩

theorem addTransition {rule : TransitionRule} {transition : Transition}
    (resolved : lexer.Resolves rule transition) :
    { lexer with
      transitions := insertTransition transition lexer.transitions : Lexer }.WellFormed where
  __ := wellFormed
  source_lt := forall_mem_insertTransition.mpr
    ⟨(wellFormed.resolves_lt resolved).1, wellFormed.source_lt⟩
  target_lt := forall_mem_insertTransition.mpr
    ⟨(wellFormed.resolves_lt resolved).2.1, wellFormed.target_lt⟩
  kind_lt := forall_mem_insertTransition.mpr
    ⟨(wellFormed.resolves_lt resolved).2.2, wellFormed.kind_lt⟩
  grouped_first := pairwise_insertTransition wellFormed.grouped_first transition

/-- Each change leaves a lexer well formed. -/
theorem of_change (change : lexer.Change later) : later.WellFormed := by
  cases change with
  | setStateful value => exact { wellFormed with }
  | setSkipsGaps value => exact { wellFormed with }
  | addState strict _ fresh => exact wellFormed.addState strict fresh
  | addClass fresh place => exact wellFormed.addClass fresh place
  | addGroup name known => exact wellFormed.addGroup name known
  | addTransition _ resolved => exact wellFormed.addTransition resolved

end WellFormed

/-- Every lexer is well formed. -/
theorem Changes.wellFormed (changes : lexer.Changes later) (wellFormed : lexer.WellFormed) :
    later.WellFormed := by
  induction changes with
  | refl => exact wellFormed
  | tail _ change ih => exact ih.of_change change

theorem wellFormed_initial : Lexer.initial.WellFormed where
  lineBreak := rfl
  inputEnd := rfl
  classNames_nodup := by decide
  states_anyState := rfl
  states_initialState := rfl
  stateNames_nodup := by decide
  state_lt := by decide
  member_lt := nofun
  source_lt := nofun
  target_lt := nofun
  kind_lt := nofun
  grouped_first := .nil

theorem Reachable.wellFormed (reachable : lexer.Reachable) : lexer.WellFormed :=
  reachable.changes.wellFormed wellFormed_initial

/-! ### States stay -/

theorem Change.states_prefix (change : lexer.Change later) :
    lexer.states.states <+: later.states.states := by
  cases change with
  | addState => exact List.prefix_append _ _
  | _ => exact List.prefix_rfl

/-- No change takes states away or alters one. -/
theorem Changes.states_prefix (changes : lexer.Changes later) :
    lexer.states.states <+: later.states.states := by
  induction changes with
  | refl => exact List.prefix_rfl
  | tail _ change ih => exact ih.trans change.states_prefix

end Changes

/-! ### Names and places -/

section Names

variable {lexer : Lexer} (wellFormed : lexer.WellFormed)
include wellFormed

theorem WellFormed.find?_eq_some_iff {name : String} {index : StateIndex} :
    lexer.states.find? name = some index ↔
      (lexer.states.states.map State.name)[index]? = some name :=
  findIdx?_name_eq_some_iff wellFormed.stateNames_nodup

/-- The two states that every lexer has need no search, but are found by one as well. -/
theorem WellFormed.findState?_eq (name : String) :
    lexer.findState? name = lexer.states.find? name := by
  unfold findState?
  split_ifs with isAny isInitial
  · rw [isAny, wellFormed.find?_eq_some_iff.mpr]
    simp [wellFormed.states_anyState]
  · rw [isInitial, wellFormed.find?_eq_some_iff.mpr]
    simp [wellFormed.states_initialState]
  · rfl

/-- A state is found by its name. -/
theorem WellFormed.findState?_name {index : StateIndex}
    (inside : index < lexer.states.states.length) :
    lexer.findState? (lexer.states.name index) = some index := by
  rw [wellFormed.findState?_eq, wellFormed.find?_eq_some_iff]
  simp [StateTable.name, inside]

end Names

end Lexer

end ShiftReduce
