import Mathlib
import ShiftReduce.Proofs.Lexer.StateMachine

/-!
# Which declared transition applies

Transitions are declared by rules, in which classes, groups and states are named. Names keep their
meaning once they have one, so it does not matter what is registered between two declarations or
behind them: of the rules that were declared with success, the first one for a group that concerns a
token tells the state behind it, and without one, the first for a single class.

## Main definitions

* `Lexer.declaredBy` — the rules that operations declare with success, in order
* `Lexer.Concerns` — the rules for a token in a state
* `Lexer.MovesBy` — the state behind a token, told by rules
* `Lexer.Records` — transitions as the rules that declared them, those of groups in front

## Main results

* `Lexer.Changes.resolves` — rules keep their meaning
* `Lexer.records_applyAll` — a lexer records the rules that are declared with success
* `Lexer.stateAfter_of_declared` — the state behind a token is told by the rules alone
-/

namespace ShiftReduce.Lexer

/-! ### Declarations -/

/-- Whether a rule is for a group. -/
def TransitionRule.grouped (rule : TransitionRule) : Bool :=
  match rule.trigger with
  | .ofClass _ => false
  | .ofGroup _ => true

/-- Of some rules that are declared one after the other, those in front of the first one that
fails. -/
def declaredOf (lexer : Lexer) : List TransitionRule → List TransitionRule
  | [] => []
  | rule :: rest =>
    match outcome (addTransition rule) lexer with
    | (.ok _, later) => rule :: declaredOf later rest
    | (.error _, _) => []

/-- The rules that an operation declares with success. -/
def Operation.declared : Operation → Lexer → List TransitionRule
  | .addTransition rule, lexer => lexer.declaredOf [rule]
  | .addTransitions rules, lexer => lexer.declaredOf rules
  | _, _ => []

/-- The rules that operations declare with success, in order. -/
def declaredBy (lexer : Lexer) : List Operation → List TransitionRule
  | [] => []
  | operation :: rest => operation.declared lexer ++ declaredBy (operation.apply lexer) rest

/-! ### The rule that applies -/

/-- A rule is for tokens of class `kind` in `state`: it names the class, or a group of which the
first one of that name contains the class, and its source is the state or stands for all states. -/
inductive Concerns (lexer : Lexer) (kind : ClassIndex) (state : StateIndex) :
    TransitionRule → Prop
  | ofClass {name targetName : String} {declared : Option String} {source : StateIndex} :
      lexer.findClass? name = some kind →
      lexer.IsSource declared (lexer.classState kind) source → source = state ∨ source = anyState →
      Concerns lexer kind state ⟨.ofClass name, declared, targetName⟩
  | ofGroup {name targetName : String} {declared : Option String} {group : Group}
      {source : StateIndex} : lexer.findGroup? name = some group → kind ∈ group.classes →
      lexer.IsSource declared anyState source → source = state ∨ source = anyState →
      Concerns lexer kind state ⟨.ofGroup name, declared, targetName⟩

/-- An element is the first with a property. -/
def IsFirst {α : Type} (property : α → Prop) (elements : List α) (element : α) : Prop :=
  ∃ earlier later, elements = earlier ++ element :: later ∧ property element ∧
    ∀ other ∈ earlier, ¬ property other

/-- A token of class `kind` moves a lexer from one state to the next one: to the target of the first
rule for a group that concerns it, or else to that of the first rule for a single class that does,
or nowhere if none does. -/
inductive MovesBy (lexer : Lexer) (rules : List TransitionRule) (kind : ClassIndex)
    (state : StateIndex) : StateIndex → Prop
  | group {rule : TransitionRule} {next : StateIndex} :
      IsFirst (lexer.Concerns kind state) (rules.filter TransitionRule.grouped) rule →
      lexer.findState? rule.target = some next → MovesBy lexer rules kind state next
  | single {rule : TransitionRule} {next : StateIndex} :
      (∀ other ∈ rules.filter TransitionRule.grouped, ¬ lexer.Concerns kind state other) →
      IsFirst (lexer.Concerns kind state) (rules.filter fun rule => !rule.grouped) rule →
      lexer.findState? rule.target = some next → MovesBy lexer rules kind state next
  | still : (∀ rule ∈ rules, ¬ lexer.Concerns kind state rule) →
      MovesBy lexer rules kind state state

variable {lexer later : Lexer} {kind : ClassIndex} {state next : StateIndex}
  {rule : TransitionRule} {rules : List TransitionRule} {transition : Transition}

/-! ### Names keep their meaning -/

theorem Change.groups_prefix (change : lexer.Change later) : lexer.groups <+: later.groups := by
  cases change with
  | addGroup => exact List.prefix_append _ _
  | _ => exact List.prefix_rfl

/-- No change takes groups away or puts any in front. -/
theorem Changes.groups_prefix (changes : lexer.Changes later) :
    lexer.groups <+: later.groups := by
  induction changes with
  | refl => exact List.prefix_rfl
  | tail _ change ih => exact ih.trans change.groups_prefix

section Changes

variable (changes : lexer.Changes later)
include changes

theorem Changes.findState?_eq_some {name : String}
    (found : lexer.findState? name = some state) : later.findState? name = some state := by
  unfold findState? at found ⊢
  split_ifs at found ⊢
  · exact found
  · exact found
  · exact changes.states_prefix.findIdx?_eq_some found

theorem Changes.findClass?_eq_some {name : String}
    (found : lexer.findClass? name = some kind) : later.findClass? name = some kind :=
  changes.classes_prefix.findIdx?_eq_some found

theorem Changes.findGroup?_eq_some {name : String} {group : Group}
    (found : lexer.findGroup? name = some group) : later.findGroup? name = some group :=
  changes.groups_prefix.find?_eq_some found

theorem Changes.classState_eq (inside : kind < lexer.classes.length) :
    later.classState kind = lexer.classState kind := by
  obtain ⟨added, parts⟩ := changes.classes_prefix
  rw [classState, classState, ← parts, List.getElem?_append_left inside]

theorem Changes.isSource {declared : Option String} {fallback source : StateIndex}
    (isSource : lexer.IsSource declared fallback source) :
    later.IsSource declared fallback source := by
  cases declared with
  | none => exact isSource
  | some name => exact changes.findState?_eq_some isSource

/-- What a rule declares is declared by it forever. -/
theorem Changes.resolves (resolves : lexer.Resolves rule transition) :
    later.Resolves rule transition := by
  cases resolves with
  | ofClass entered known left =>
    refine .ofClass (changes.findState?_eq_some entered) (changes.findClass?_eq_some known) ?_
    rw [changes.classState_eq (findClass?_lt known)]
    exact changes.isSource left
  | ofGroup entered known left =>
    exact .ofGroup (changes.findState?_eq_some entered) (changes.findGroup?_eq_some known)
      (changes.isSource left)

end Changes

/-! ### Rules and their transitions -/

theorem IsSource.eq {declared : Option String} {fallback source other : StateIndex}
    (isSource : lexer.IsSource declared fallback source)
    (isOther : lexer.IsSource declared fallback other) : source = other := by
  cases declared with
  | none => exact Eq.trans isSource (Eq.symm isOther)
  | some name => exact Option.some.inj (Eq.trans (Eq.symm isSource) isOther)

namespace Resolves

variable (resolves : lexer.Resolves rule transition)
include resolves

theorem grouped_eq : transition.grouped = rule.grouped := by
  cases resolves <;> rfl

theorem findState?_target : lexer.findState? rule.target = some transition.target := by
  cases resolves <;> assumption

/-- A transition fires where the rule that declares it concerns the token. -/
theorem fires_iff : transition.fires kind state = true ↔ lexer.Concerns kind state rule := by
  unfold Transition.fires
  rw [Bool.and_eq_true, Bool.or_eq_true, beq_iff_eq, beq_iff_eq, List.contains_iff_mem]
  cases resolves with
  | ofClass _ known left =>
    constructor
    · rintro ⟨place, isKind⟩
      obtain rfl := List.mem_singleton.mp isKind
      exact .ofClass known left place
    · rintro (⟨named, leaves, place⟩ | _)
      obtain rfl := Option.some.inj (known.symm.trans named)
      exact ⟨left.eq leaves ▸ place, List.mem_singleton_self _⟩
  | ofGroup _ known left =>
    constructor
    · rintro ⟨place, isMember⟩
      exact .ofGroup known isMember left place
    · rintro (_ | ⟨named, isMember, leaves, place⟩)
      obtain rfl := Option.some.inj (known.symm.trans named)
      exact ⟨left.eq leaves ▸ place, isMember⟩

end Resolves

section Resolved

variable {transitions : List Transition}
  (resolved : List.Forall₂ lexer.Resolves rules transitions)
include resolved

/-- The first transition that fires is that of the first rule which concerns the token. -/
theorem exists_isFirst_of_find?
    (found : transitions.find? (fun other => other.fires kind state) = some transition) :
    ∃ rule, lexer.Resolves rule transition ∧ IsFirst (lexer.Concerns kind state) rules rule := by
  -- The induction is on both lists; a rule in front that does not concern the token is skipped.
  induction resolved with
  | nil => cases found
  | @cons rule first rules rest resolves _ ih =>
    rw [List.find?_cons] at found
    cases fires : first.fires kind state with
    | true =>
      rw [fires] at found
      obtain rfl := Option.some.inj found
      exact ⟨rule, resolves, [], rules, rfl, resolves.fires_iff.mp fires, nofun⟩
    | false =>
      rw [fires] at found
      obtain ⟨chosen, chosenResolves, earlier, later, rfl, concerns, before⟩ := ih found
      refine ⟨chosen, chosenResolves, rule :: earlier, later, rfl, concerns, ?_⟩
      refine List.forall_mem_cons.mpr ⟨fun concerned => ?_, before⟩
      rw [resolves.fires_iff.mpr concerned] at fires
      cases fires

theorem not_concerns_of_find?
    (missing : transitions.find? (fun other => other.fires kind state) = none) :
    ∀ rule ∈ rules, ¬ lexer.Concerns kind state rule := by
  induction resolved with
  | nil => exact nofun
  | cons resolves _ ih =>
    have silent := List.find?_eq_none.mp missing
    rw [List.forall_mem_cons] at silent ⊢
    exact ⟨fun concerns => silent.1 (resolves.fires_iff.mpr concerns),
      ih (List.find?_eq_none.mpr silent.2)⟩

theorem forall_grouped_eq {value : Bool} (same : ∀ rule ∈ rules, rule.grouped = value) :
    ∀ transition ∈ transitions, transition.grouped = value := by
  induction resolved with
  | nil => exact nofun
  | cons resolves _ ih =>
    rw [List.forall_mem_cons] at same ⊢
    exact ⟨resolves.grouped_eq.trans same.1, ih same.2⟩

end Resolved

/-! ### Transitions as records of rules -/

/-- Where the transitions of groups stand in front, one that is registered stands behind all others
of its kind. -/
theorem insertTransition_append {groups singles : List Transition}
    (allGroups : ∀ other ∈ groups, other.grouped = true)
    (allSingles : ∀ other ∈ singles, other.grouped = false) (transition : Transition) :
    insertTransition transition (groups ++ singles) =
      if transition.grouped then groups ++ [transition] ++ singles
      else groups ++ (singles ++ [transition]) := by
  have stops : singles.takeWhile Transition.grouped = [] ∧
      singles.dropWhile Transition.grouped = singles := by
    cases singles with
    | nil => exact ⟨rfl, rfl⟩
    | cons first rest => simp [allSingles first List.mem_cons_self]
  rw [insertTransition, List.takeWhile_append_of_pos allGroups,
    List.dropWhile_append_of_pos allGroups, stops.1, stops.2]
  simp

/-- The transitions of a lexer are those that rules declare: those of the rules for groups, behind
them those of the rules for single classes, all in the order of the rules. -/
def Records (lexer : Lexer) (rules : List TransitionRule) : Prop :=
  ∃ groups singles, lexer.transitions = groups ++ singles ∧
    List.Forall₂ lexer.Resolves (rules.filter TransitionRule.grouped) groups ∧
    List.Forall₂ lexer.Resolves (rules.filter fun rule => !rule.grouped) singles

namespace Records

variable (records : lexer.Records rules)
include records

/-- The state behind a token is told by the rules that the transitions record. -/
theorem movesBy_stateAfter (stateful : lexer.stateful = true) (kind : ClassIndex)
    (state : StateIndex) : lexer.MovesBy rules kind state (lexer.stateAfter kind state) := by
  obtain ⟨groups, singles, parts, resolvedGroups, resolvedSingles⟩ := records
  rw [stateAfter, if_pos stateful, parts, List.find?_append]
  cases inGroups : groups.find? fun transition => transition.fires kind state with
  | some transition =>
    obtain ⟨rule, resolves, isFirst⟩ := exists_isFirst_of_find? resolvedGroups inGroups
    exact .group isFirst resolves.findState?_target
  | none =>
    have noGroup := not_concerns_of_find? resolvedGroups inGroups
    rw [Option.none_or]
    cases inSingles : singles.find? fun transition => transition.fires kind state with
    | some transition =>
      obtain ⟨rule, resolves, isFirst⟩ := exists_isFirst_of_find? resolvedSingles inSingles
      exact .single noGroup isFirst resolves.findState?_target
    | none =>
      have noSingle := not_concerns_of_find? resolvedSingles inSingles
      refine .still fun rule listed => ?_
      cases grouped : rule.grouped with
      | true => exact noGroup rule (List.mem_filter.mpr ⟨listed, grouped⟩)
      | false => exact noSingle rule (List.mem_filter.mpr ⟨listed, by simp [grouped]⟩)

/-- Changes that leave the transitions as they are leave them records of the same rules. -/
theorem of_changes (changes : lexer.Changes later)
    (same : later.transitions = lexer.transitions) : later.Records rules := by
  obtain ⟨groups, singles, parts, resolvedGroups, resolvedSingles⟩ := records
  exact ⟨groups, singles, same.trans parts, resolvedGroups.imp fun _ _ => changes.resolves,
    resolvedSingles.imp fun _ _ => changes.resolves⟩

/-- A transition that is registered records the rule that declares it behind the others. -/
theorem insert (stateful : lexer.stateful = true) (resolves : lexer.Resolves rule transition) :
    Records { lexer with transitions := insertTransition transition lexer.transitions }
      (rules ++ [rule]) := by
  have changes : lexer.Changes
      { lexer with transitions := insertTransition transition lexer.transitions } :=
    .single (.addTransition stateful resolves)
  obtain ⟨groups, singles, parts, resolvedGroups, resolvedSingles⟩ := records
  have allGroups := forall_grouped_eq resolvedGroups fun _ kept => (List.mem_filter.mp kept).2
  have allSingles : ∀ other ∈ singles, other.grouped = false :=
    forall_grouped_eq resolvedSingles fun _ kept => by simpa using (List.mem_filter.mp kept).2
  replace resolvedGroups := resolvedGroups.imp fun _ _ => changes.resolves
  replace resolvedSingles := resolvedSingles.imp fun _ _ => changes.resolves
  have resolvesLater := changes.resolves resolves
  have inserted : insertTransition transition lexer.transitions = _ :=
    parts ▸ insertTransition_append allGroups allSingles transition
  rw [resolves.grouped_eq] at inserted
  unfold Records
  cases grouped : rule.grouped with
  | true =>
    rw [grouped, if_pos rfl] at inserted
    simp only [List.filter_append, List.filter_singleton, grouped, Bool.not_true, cond_true,
      cond_false, List.append_nil]
    exact ⟨_, _, inserted, List.rel_append resolvedGroups (.cons resolvesLater .nil),
      resolvedSingles⟩
  | false =>
    rw [grouped, if_neg Bool.false_ne_true] at inserted
    simp only [List.filter_append, List.filter_singleton, grouped, Bool.not_false, cond_true,
      cond_false, List.append_nil]
    exact ⟨_, _, inserted, resolvedGroups,
      List.rel_append resolvedSingles (.cons resolvesLater .nil)⟩

/-- So do transitions that are registered one after the other, up to the first that fails. -/
theorem addTransitions (added : List TransitionRule) :
    Records (after (Lexer.addTransitions added) lexer) (rules ++ lexer.declaredOf added) := by
  induction added generalizing lexer rules with
  | nil => rwa [declaredOf, List.append_nil]
  | cons rule rest ih =>
    change Records (outcome (addTransition rule >>= fun _ => Lexer.addTransitions rest) lexer).2 _
    rw [outcome_bind, declaredOf]
    rcases acts_addTransition rule with
      ⟨error, failed⟩ | ⟨_, later, succeeded, stateful, transition, resolves, isLater⟩
    · rw [failed]
      simpa using records
    · rw [succeeded, List.append_cons]
      subst isLater
      exact ih (records.insert stateful resolves)

theorem addTransition (rule : TransitionRule) :
    Records (after (Lexer.addTransition rule) lexer) (rules ++ lexer.declaredOf [rule]) := by
  have series := records.addTransitions [rule]
  change Records (outcome (Lexer.addTransition rule >>= fun _ => pure ()) lexer).2 _ at series
  change Records (outcome (Lexer.addTransition rule) lexer).2 _
  rw [outcome_bind] at series
  rcases ran : outcome (Lexer.addTransition rule) lexer with ⟨_ | _, later⟩
  all_goals
    rw [ran] at series
    exact series

end Records

/-! ### Operations -/

section Keeps

variable (transitions : List Transition)

theorem keeps_addState (name : String) (strict : Bool) :
    Preserves (fun lexer => lexer.transitions = transitions) (addState name strict) :=
  Acts.preserves (fun _ => acts_addState name strict) fun _ _ _ same ⟨_, _, added⟩ => added ▸ same

theorem keeps_addClass (tokenClass : TokenClass) :
    Preserves (fun lexer => lexer.transitions = transitions) (addClass tokenClass) :=
  Acts.preserves (fun _ => acts_addClass tokenClass) fun _ _ _ same ⟨_, _, _, _, _, added⟩ =>
    added ▸ same

theorem keeps_addGroup (name : String) (members : List String) :
    Preserves (fun lexer => lexer.transitions = transitions) (addGroup name members) :=
  Acts.preserves (fun _ => acts_addGroup name members) fun _ _ _ same ⟨_, _, added⟩ => added ▸ same

end Keeps

/-- What an operation does to a lexer is recorded by the rules that it declares with success. -/
theorem Records.apply (records : lexer.Records rules) (operation : Operation) :
    (operation.apply lexer).Records (rules ++ operation.declared lexer) := by
  have silent : (operation.apply lexer).transitions = lexer.transitions →
      (operation.apply lexer).Records (rules ++ []) := by
    rw [List.append_nil]
    exact records.of_changes (operation.changes lexer)
  cases operation with
  | addTransition rule => exact records.addTransition rule
  | addTransitions added => exact records.addTransitions added
  | setStateful value => exact silent rfl
  | setSkipsGaps value => exact silent rfl
  | addState name strict => exact silent (keeps_addState _ name strict lexer rfl)
  | addStates states =>
    have keeps : Preserves (fun later => later.transitions = lexer.transitions)
        (Lexer.addStates states) :=
      .forM fun state => (keeps_addState _ state.name state.strict).bind fun _ => .pure ()
    exact silent (keeps lexer rfl)
  | addClass tokenClass => exact silent (keeps_addClass _ tokenClass lexer rfl)
  | addClasses classes =>
    have keeps : Preserves (fun later => later.transitions = lexer.transitions)
        (Lexer.addClasses classes) :=
      .forM fun tokenClass => (keeps_addClass _ tokenClass).bind fun _ => .pure ()
    exact silent (keeps lexer rfl)
  | addGroup name members => exact silent (keeps_addGroup _ name members lexer rfl)

theorem Records.applyAll (records : lexer.Records rules) (operations : List Operation) :
    (lexer.applyAll operations).Records (rules ++ lexer.declaredBy operations) := by
  induction operations generalizing lexer rules with
  | nil => rwa [declaredBy, List.append_nil]
  | cons operation rest ih =>
    rw [declaredBy, ← List.append_assoc]
    exact ih (records.apply operation)

/-- A lexer records the rules that are declared with success, from the first operation on. -/
theorem records_applyAll (operations : List Operation) :
    (Lexer.initial.applyAll operations).Records (Lexer.initial.declaredBy operations) := by
  have records : Lexer.initial.Records [] := ⟨[], [], rfl, .nil, .nil⟩
  exact records.applyAll operations

/-! ### Rules tell the state -/

section IsFirst

variable {α : Type} {property : α → Prop} {elements : List α} {element other : α}

theorem IsFirst.exists_mem (isFirst : IsFirst property elements element) :
    element ∈ elements ∧ property element := by
  obtain ⟨earlier, later, rfl, holds, -⟩ := isFirst
  exact ⟨List.mem_append_right _ List.mem_cons_self, holds⟩

open Classical in
theorem IsFirst.find?_eq (isFirst : IsFirst property elements element) :
    elements.find? (fun element => decide (property element)) = some element := by
  obtain ⟨earlier, later, parts, holds, before⟩ := isFirst
  exact List.find?_eq_some_iff_append.mpr
    ⟨decide_eq_true holds, earlier, later, parts, by simpa using before⟩

theorem IsFirst.eq (isFirst : IsFirst property elements element)
    (otherFirst : IsFirst property elements other) : element = other :=
  Option.some.inj (isFirst.find?_eq.symm.trans otherFirst.find?_eq)

end IsFirst

/-- Rules tell one state behind a token. -/
theorem MovesBy.eq {next other : StateIndex} (moves : lexer.MovesBy rules kind state next)
    (otherMoves : lexer.MovesBy rules kind state other) : next = other := by
  have same : ∀ {first second : TransitionRule}, first = second →
      lexer.findState? first.target = some next → lexer.findState? second.target = some other →
      next = other := by
    rintro first _ rfl entered otherEntered
    exact Option.some.inj (entered.symm.trans otherEntered)
  cases moves with
  | group isFirst entered =>
    have first := isFirst.exists_mem
    cases otherMoves with
    | group otherFirst otherEntered => exact same (isFirst.eq otherFirst) entered otherEntered
    | single silent => exact absurd first.2 (silent _ first.1)
    | still silent => exact absurd first.2 (silent _ (List.mem_of_mem_filter first.1))
  | single noGroup isFirst entered =>
    have first := isFirst.exists_mem
    cases otherMoves with
    | group otherFirst =>
      exact absurd otherFirst.exists_mem.2 (noGroup _ otherFirst.exists_mem.1)
    | single _ otherFirst otherEntered => exact same (isFirst.eq otherFirst) entered otherEntered
    | still silent => exact absurd first.2 (silent _ (List.mem_of_mem_filter first.1))
  | still silent =>
    cases otherMoves with
    | group otherFirst =>
      have first := otherFirst.exists_mem
      exact absurd first.2 (silent _ (List.mem_of_mem_filter first.1))
    | single _ otherFirst =>
      have first := otherFirst.exists_mem
      exact absurd first.2 (silent _ (List.mem_of_mem_filter first.1))
    | still => rfl

theorem Records.stateAfter_eq_iff (records : lexer.Records rules)
    (stateful : lexer.stateful = true) :
    lexer.stateAfter kind state = next ↔ lexer.MovesBy rules kind state next := by
  have moves := records.movesBy_stateAfter stateful kind state
  exact ⟨fun same => same ▸ moves, fun others => moves.eq others⟩

/-- Every token that is taken moves the lexer to the state behind it. -/
theorem Passes.moves {input : List Char} {tokens : List Token} {states : List StateIndex}
    (passes : lexer.Passes input tokens states) :
    ∀ step ∈ tokens.zip (states.zip states.tail),
      lexer.Moves step.1.kind step.2.1 step.2.2 := by
  induction passes with
  | stop => exact nofun
  | token _ _ moves _ ih => exact List.forall_mem_cons.mpr ⟨moves, ih⟩

/-- The rules that were declared with success tell the state behind a token, whatever else was
registered between them and behind them: the first one for a group that concerns the token, or else
the first for a single class. In this way every token of an input leads to the state that the next
one is taken in. -/
theorem stateAfter_of_declared {operations : List Operation} {rules : List TransitionRule}
    (reached : Lexer.initial.applyAll operations = lexer)
    (declared : Lexer.initial.declaredBy operations = rules) (stateful : lexer.stateful = true) :
    (∀ kind state next,
      lexer.stateAfter kind state = next ↔ lexer.MovesBy rules kind state next) ∧
    ∀ input : String, ∃ states,
      lexer.Passes input.toList (lexer.tokenize input).tokens states ∧
      states.head? = some initialState ∧ states.getLast? = some (lexer.tokenize input).state ∧
      ∀ step ∈ (lexer.tokenize input).tokens.zip (states.zip states.tail),
        lexer.MovesBy rules step.1.kind step.2.1 step.2.2 := by
  have records : lexer.Records rules := reached ▸ declared ▸ records_applyAll operations
  refine ⟨fun kind state next => records.stateAfter_eq_iff stateful, fun input => ?_⟩
  obtain ⟨states, passes, last⟩ :=
    (exists_passes_scan (reaches_initialState lexer input.toList)).1
  refine ⟨initialState :: states, passes, rfl, last, fun step taken => ?_⟩
  rw [← records.stateAfter_eq_iff stateful]
  exact Lexer.stateAfter_eq_iff.mpr (passes.moves step taken)

/-- Operations that declare a rule for a class, then one for a group, of whose name another group is
registered later, then one more for the class, and one for a class that is missing. -/
def rivalOperations : List Operation :=
  [.setStateful true, .addStates [⟨"alone", false⟩, ⟨"grouped", false⟩],
    .addClass ⟨"name",
      some (.ofProgram "a" (Pattern.Expr.codes (CodeSet.ofList [(97, 97)])).toProgram), .any⟩,
    .addTransition ⟨.ofClass "name", some "default", "alone"⟩, .addGroup "names" ["name"],
    .addTransition ⟨.ofGroup "names", some "*", "grouped"⟩, .addGroup "names" ["EOL"],
    .addTransitions [⟨.ofClass "name", none, "default"⟩, ⟨.ofClass "number", none, "alone"⟩]]

/-- A lexer with rivals among its transitions. -/
def withRivals : Lexer := Lexer.initial.applyAll rivalOperations

/-- The rule for the group applies, though one for the class was declared first and the last group
of that name does not contain the class. -/
theorem stateAfter_rivals :
    withRivals.stateAfter 2 initialState = 3 ∧
    withRivals.MovesBy [⟨.ofClass "name", some "default", "alone"⟩,
      ⟨.ofGroup "names", some "*", "grouped"⟩, ⟨.ofClass "name", none, "default"⟩]
      2 initialState 3 := by
  have declared : Lexer.initial.declaredBy rivalOperations =
      [⟨.ofClass "name", some "default", "alone"⟩, ⟨.ofGroup "names", some "*", "grouped"⟩,
        ⟨.ofClass "name", none, "default"⟩] := by decide +kernel
  have reached : Lexer.initial.applyAll rivalOperations = withRivals := rfl
  have moves := (stateAfter_of_declared reached declared (by decide +kernel)).1 2 initialState 3
  have next : withRivals.stateAfter 2 initialState = 3 := by decide +kernel
  exact ⟨next, moves.mp next⟩

end ShiftReduce.Lexer
