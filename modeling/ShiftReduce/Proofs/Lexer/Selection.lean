import Mathlib.Tactic.Common
import ShiftReduce.Lexer.Scan

/-!
# Which class matches, and where a transition leads

In every state, some classes may match. Of these, the first one that does takes its match, and the
first transition that fires tells the next state.

## Main definitions

* `Lexer.MayMatch` — the classes that may match in a state
* `Lexer.Takes` — the class that takes its match, told by all classes
* `Lexer.Moves` — the state after a token, told by all transitions

## Main results

* `Lexer.exists_select?_iff`, `Lexer.select?_eq_none_iff` — the class that is selected
* `Lexer.stateAfter_eq_iff` — the state after a token
-/

namespace ShiftReduce.Lexer

/-- A class may match in a state: it belongs to the state, or else to all states that are not
strict, of which this is one. -/
def MayMatch (lexer : Lexer) (state : StateIndex) (entry : RegisteredClass) : Prop :=
  entry.state = state ∨ entry.state = anyState ∧ lexer.states.isStrict state = false

/-- A class takes the front `value` of a text, which is not empty: it may match and does, and no
class in front of it that may match does. -/
structure Takes (lexer : Lexer) (state : StateIndex) (text : List Char) (kind : ClassIndex)
    (value : List Char) : Prop where
  ne_nil : value ≠ []
  exists_entry : ∃ entry found, lexer.classes[kind]? = some entry ∧ lexer.MayMatch state entry ∧
    entry.tokenClass.match? text = some found ∧ value = text.take found.length
  first : ∀ entry ∈ lexer.classes.take kind, lexer.MayMatch state entry →
    entry.tokenClass.match? text = none

/-- A token of class `kind` moves a lexer from one state to the next one: to the target of the first
transition that fires, or nowhere if there is none or the lexer has no states. -/
inductive Moves (lexer : Lexer) (kind : ClassIndex) (state : StateIndex) : StateIndex → Prop
  | stateless : lexer.stateful = false → Moves lexer kind state state
  | silent : (∀ transition ∈ lexer.transitions, transition.fires kind state = false) →
      Moves lexer kind state state
  | fires {earlier later : List Transition} {transition : Transition} : lexer.stateful = true →
      lexer.transitions = earlier ++ transition :: later →
      (∀ other ∈ earlier, other.fires kind state = false) →
      transition.fires kind state = true → Moves lexer kind state transition.target

variable {lexer : Lexer} {state : StateIndex} {text : List Char}

/-! ### Classes -/

theorem admits_iff {entry : RegisteredClass} :
    lexer.admits state entry = true ↔ lexer.MayMatch state entry := by
  simp [admits, MayMatch, and_comm]

theorem selectFrom?_of_match {index : ClassIndex} {entry : RegisteredClass} {found : Match}
    (may : lexer.MayMatch state entry) (taken : entry.tokenClass.match? text = some found)
    (entries : List RegisteredClass) :
    lexer.selectFrom? state text index (entry :: entries) = some (index, found) := by
  simp [selectFrom?, admits_iff, may, taken]

theorem selectFrom?_of_none {index : ClassIndex} {entry : RegisteredClass}
    (fails : lexer.MayMatch state entry → entry.tokenClass.match? text = none)
    (entries : List RegisteredClass) :
    lexer.selectFrom? state text index (entry :: entries) =
      lexer.selectFrom? state text (index + 1) entries := by
  by_cases may : lexer.MayMatch state entry
  · simp [selectFrom?, admits_iff, may, fails may]
  · simp [selectFrom?, admits_iff, may]

/-- What is selected is a class that may match and does, behind some that do not. -/
theorem exists_of_selectFrom? {index kind : ClassIndex} {entries : List RegisteredClass}
    {found : Match} (selected : lexer.selectFrom? state text index entries = some (kind, found)) :
    ∃ before entry after, entries = before ++ entry :: after ∧ kind = index + before.length ∧
      lexer.MayMatch state entry ∧ entry.tokenClass.match? text = some found ∧
      ∀ other ∈ before, lexer.MayMatch state other → other.tokenClass.match? text = none := by
  induction entries generalizing index with
  | nil => cases selected
  | cons head rest ih =>
    by_cases matched : lexer.MayMatch state head ∧ (head.tokenClass.match? text).isSome
    · obtain ⟨may, isSome⟩ := matched
      obtain ⟨taken, isTaken⟩ := Option.isSome_iff_exists.mp isSome
      rw [selectFrom?_of_match may isTaken] at selected
      cases selected
      exact ⟨[], head, rest, rfl, rfl, may, isTaken, nofun⟩
    · have fails : lexer.MayMatch state head → head.tokenClass.match? text = none := by
        simpa using matched
      rw [selectFrom?_of_none fails] at selected
      obtain ⟨before, entry, after, rfl, rfl, may, isFound, first⟩ := ih selected
      refine ⟨head :: before, entry, after, rfl, ?_, may, isFound, ?_⟩
      · exact Nat.add_right_comm ..
      · exact List.forall_mem_cons.mpr ⟨fails, first⟩

/-- The class that is selected takes its match. -/
theorem match?_of_select? {kind : ClassIndex} {found : Match} {entry : RegisteredClass}
    (selected : lexer.select? state text = some (kind, found))
    (known : lexer.classes[kind]? = some entry) : entry.tokenClass.match? text = some found := by
  obtain ⟨before, other, after, parts, rfl, -, taken, -⟩ := exists_of_selectFrom? selected
  have place : lexer.classes[0 + before.length]? = some other := by simp [parts]
  obtain rfl := Option.some.inj (place.symm.trans known)
  exact taken

/-- The first class that may match and does is selected. -/
theorem selectFrom?_append {index : ClassIndex} {before : List RegisteredClass}
    {entry : RegisteredClass} {found : Match}
    (first : ∀ other ∈ before, lexer.MayMatch state other → other.tokenClass.match? text = none)
    (may : lexer.MayMatch state entry) (isFound : entry.tokenClass.match? text = some found)
    (after : List RegisteredClass) :
    lexer.selectFrom? state text index (before ++ entry :: after) =
      some (index + before.length, found) := by
  induction before generalizing index with
  | nil => exact selectFrom?_of_match may isFound after
  | cons head rest ih =>
    rw [List.forall_mem_cons] at first
    rw [List.cons_append, selectFrom?_of_none first.1, ih first.2, List.length_cons,
      Nat.add_right_comm, Nat.add_assoc]

/-- What is selected takes a front of the text. -/
theorem exists_select?_iff (nonempty : text ≠ []) {kind : ClassIndex} {value : List Char} :
    (∃ found, lexer.select? state text = some (kind, found) ∧ value = text.take found.length) ↔
      lexer.Takes state text kind value := by
  constructor
  · rintro ⟨found, selected, rfl⟩
    obtain ⟨before, entry, after, parts, rfl, may, isFound, first⟩ := exists_of_selectFrom? selected
    rw [Nat.zero_add]
    refine ⟨?_, ⟨entry, found, ?_, may, isFound, rfl⟩, ?_⟩
    · simp [nonempty, Nat.pos_iff_ne_zero.mp found.length_pos]
    · simp [parts]
    · simpa [parts] using first
  · rintro ⟨-, ⟨entry, found, known, may, isFound, rfl⟩, first⟩
    obtain ⟨inside, rfl⟩ := List.getElem?_eq_some_iff.mp known
    refine ⟨found, ?_, rfl⟩
    have parts := List.take_append_drop kind lexer.classes
    rw [List.drop_eq_getElem_cons inside] at parts
    rw [select?, ← parts, selectFrom?_append first may isFound, List.length_take]
    simp [Nat.le_of_lt inside]

/-- Nothing is selected where no class that may match does. -/
theorem select?_eq_none_iff : lexer.select? state text = none ↔
    ∀ entry ∈ lexer.classes, lexer.MayMatch state entry → entry.tokenClass.match? text = none := by
  unfold select?
  generalize 0 = index
  induction lexer.classes generalizing index with
  | nil => simp [selectFrom?]
  | cons head rest ih =>
    rw [List.forall_mem_cons]
    by_cases fails : lexer.MayMatch state head → head.tokenClass.match? text = none
    · rw [selectFrom?_of_none fails, ih]
      exact (and_iff_right fails).symm
    · obtain ⟨may, isSome⟩ := Classical.not_imp.mp fails
      obtain ⟨taken, isTaken⟩ := Option.ne_none_iff_exists'.mp isSome
      simp [selectFrom?_of_match may isTaken, fails]

/-! ### Transitions -/

/-- The state after a token is the one that the first transition which fires leads to. -/
theorem stateAfter_eq_iff {kind : ClassIndex} {next : StateIndex} :
    lexer.stateAfter kind state = next ↔ lexer.Moves kind state next := by
  constructor
  · rintro rfl
    unfold stateAfter
    by_cases stateful : lexer.stateful = true
    · rw [if_pos stateful]
      split
      · rename_i transition found
        obtain ⟨fires, earlier, later, parts, silent⟩ := List.find?_eq_some_iff_append.mp found
        exact .fires stateful parts (by simpa using silent) fires
      · rename_i missing
        exact .silent (by simpa using missing)
    · rw [if_neg stateful]
      exact .stateless (by simpa using stateful)
  · intro moves
    unfold stateAfter
    cases moves with
    | stateless still => simp [still]
    | silent silent =>
      have missing : lexer.transitions.find? (fun transition => transition.fires kind state) =
          none := by simpa using silent
      simp [missing]
    | @fires earlier later transition stateful parts silent fires =>
      have found : lexer.transitions.find? (fun transition => transition.fires kind state) =
          some transition :=
        List.find?_eq_some_iff_append.mpr ⟨fires, earlier, later, parts, by simpa using silent⟩
      simp [stateful, found]

end ShiftReduce.Lexer
