import ShiftReduce.Proofs.Parser.ParseTree
import ShiftReduce.Proofs.Table.Accounting

/-!
# The choice of an action

Of the symbols that a state has an action for and that the next tokens match, the engine prefers
literals to the class of the next token, longer literals to shorter ones, and anything to the empty
literal. No two of them are preferred alike, so the order in which the state holds them does not
matter.

## Main definitions

* `Grammar.rank` — how much a symbol is preferred
* `Table.Prefers` — a symbol that is matched, and no other is preferred to it

## Main results

* `Table.Sound.choose?_eq_some_iff` — the choice is that of the symbol that is preferred
* `Table.Sound.choose?_of_takes`, `Table.Sound.choose?_of_epsilon` — which action is chosen
* `Table.Sound.choose?_eq_iff_of_epsilon` — when the empty literal is chosen
-/

namespace ShiftReduce

/-! ### The longest literal -/

theorem longest?_mem {entries : List (List Char × Choice)} {entry : List Char × Choice}
    (found : longest? entries = some entry) : entry ∈ entries := by
  unfold longest? at found
  refine List.foldlRecOn (motive := fun best => ∀ entry, best = some entry → entry ∈ entries)
    entries _ ?_ ?_ entry found
  · exact fun _ same => nomatch same
  · intro best earlier element present entry same
    split at same
    · obtain rfl := Option.some.inj same
      exact present
    · rename_i literal choice
      split at same
      · obtain rfl := Option.some.inj same
        exact present
      · obtain rfl := Option.some.inj same
        exact earlier _ rfl

theorem exists_longest? {entries : List (List Char × Choice)} (nonempty : entries ≠ []) :
    ∃ entry, longest? entries = some entry := by
  obtain ⟨first, rest, rfl⟩ := List.exists_cons_of_ne_nil nonempty
  refine Option.isSome_iff_exists.mp ?_
  unfold longest?
  rw [List.foldl_cons]
  refine List.foldlRecOn (motive := fun (best : Option (List Char × Choice)) => best.isSome = true)
    rest _ rfl ?_
  intro best _ element _
  split
  · rfl
  · split <;> rfl

/-- No entry has a longer literal than the one with the longest. -/
theorem length_le_of_longest? {entries : List (List Char × Choice)} {entry : List Char × Choice}
    (found : longest? entries = some entry) :
    ∀ other ∈ entries, other.1.length ≤ entry.1.length := by
  induction entries using List.reverseRecOn generalizing entry with
  | nil => exact fun _ present => absurd present List.not_mem_nil
  | append_singleton rest last ih =>
    intro other present
    rcases before : longest? rest with _ | best
    · have empty : rest = [] := by
        by_contra nonempty
        obtain ⟨best, chosen⟩ := exists_longest? nonempty
        cases before.symm.trans chosen
      subst empty
      obtain rfl := List.mem_singleton.mp present
      obtain rfl := Option.some.inj found
      exact Nat.le_refl _
    · have chosen : (if best.1.length ≤ last.1.length then some last else some best) =
          some entry := by
        unfold longest? at before found
        rwa [List.foldl_append, before] at found
      have earlier := ih before
      split at chosen
      · obtain rfl := Option.some.inj chosen
        rcases List.mem_append.mp present with inRest | isLast
        · exact (earlier other inRest).trans (by assumption)
        · rw [List.mem_singleton.mp isLast]
      · obtain rfl := Option.some.inj chosen
        rcases List.mem_append.mp present with inRest | isLast
        · exact earlier other inRest
        · rw [List.mem_singleton.mp isLast]
          omega

/-- Of two literals that the next tokens spell out, one begins the other. -/
theorem prefix_or_prefix_of_spelledWidth? {left right : List Char} {tokens : List Token}
    {width other : Nat} (leftFound : spelledWidth? left tokens = some width)
    (rightFound : spelledWidth? right tokens = some other) : left <+: right ∨ right <+: left := by
  obtain ⟨-, -, -, rfl⟩ := spelledWidth?_spec leftFound
  obtain ⟨-, -, -, rfl⟩ := spelledWidth?_spec rightFound
  have begins {fewer more : Nat} (le : fewer ≤ more) :
      (tokens.take fewer).flatMap (fun token => token.value.toList) <+:
        (tokens.take more).flatMap fun token => token.value.toList := by
    obtain ⟨rest, split⟩ := List.take_prefix_take_left (l := tokens) le
    rw [← split, List.flatMap_append]
    exact List.prefix_append _ _
  exact (Nat.le_total width other).imp begins begins

/-- Two literals of the same length that the next tokens spell out are the same. -/
theorem eq_of_spelledWidth? {left right : List Char} {tokens : List Token} {width other : Nat}
    (leftFound : spelledWidth? left tokens = some width)
    (rightFound : spelledWidth? right tokens = some other) (same : left.length = right.length) :
    left = right := by
  rcases prefix_or_prefix_of_spelledWidth? leftFound rightFound with begins | begins
  · exact begins.eq_of_length same
  · exact (begins.eq_of_length same.symm).symm

theorem spelledChoice?_eq_some {grammar : Grammar} {rest : List Token} {symbol : Symbol}
    {action : Action} {entry : List Char × Choice} :
    spelledChoice? grammar rest (symbol, action) = some entry ↔
      ∃ index width, symbol = .terminal (index + 1) ∧
        spelledWidth? (grammar.terminal (index + 1)).toList rest = some width ∧
        entry = ((grammar.terminal (index + 1)).toList, ⟨action, width⟩) := by
  constructor
  · intro found
    match symbol with
    | .terminal (index + 1) =>
      obtain ⟨width, spelled, same⟩ := Option.bind_eq_some_iff.mp found
      exact ⟨index, width, rfl, spelled, (Option.some.inj same).symm⟩
  · rintro ⟨index, width, rfl, spelled, rfl⟩
    simp [spelledChoice?, literal?, spelled]

/-! ### The actions of a state -/

namespace Table.Sound

variable {grammar : Grammar} {table : Table} (sound : table.Sound grammar)
include sound

/-- A literal with an action is one of those to choose from if the next tokens spell it out. -/
theorem mem_spelledChoices {state : SetIndex} {rest : List Token} {index : TerminalIndex}
    {action : Action} {width : Nat}
    (present : table.action? state (.terminal (index + 1)) = some action)
    (found : spelledWidth? (grammar.terminal (index + 1)).toList rest = some width) :
    ((grammar.terminal (index + 1)).toList, ⟨action, width⟩) ∈
      (table.actions state).filterMap (spelledChoice? grammar rest) :=
  List.mem_filterMap.mpr ⟨_, sound.mem_actions_iff.mpr present,
    spelledChoice?_eq_some.mpr ⟨index, width, rfl, found, rfl⟩⟩

end Table.Sound

/-! ### The symbol that is preferred -/

/-- How much a symbol is preferred to others that match as well. -/
def Grammar.rank (grammar : Grammar) : Symbol → Nat
  | .terminal 0 => 0
  | .rule _ => 1
  | .terminal (index + 1) => (grammar.terminal (index + 1)).toList.length + 2

/-- The empty literal is preferred least. -/
theorem Grammar.rank_epsilon_lt (grammar : Grammar) {symbol : Symbol}
    (visible : symbol ≠ .epsilon) : grammar.rank .epsilon < grammar.rank symbol := by
  rcases symbol with (_ | index) | rule
  · exact absurd rfl visible
  · exact Nat.succ_pos _
  · exact Nat.one_pos

/-- A symbol that a state has an action for and that the next tokens match, and no other one that
they match is preferred to it. -/
structure Table.Prefers (grammar : Grammar) (table : Table) (state : SetIndex) (rest : List Token)
    (symbol : Symbol) (width : Nat) : Prop where
  takes : Takes grammar rest symbol width
  first : ∀ {other action taken}, table.action? state other = some action →
    Takes grammar rest other taken → other = symbol ∨ grammar.rank other < grammar.rank symbol

namespace Takes

variable {grammar : Grammar} {rest : List Token} {symbol other : Symbol} {width taken : Nat}

/-- The next tokens match a symbol in one way. -/
theorem width_eq (takes : Takes grammar rest symbol width) (wellFormed : grammar.WellFormed)
    (again : Takes grammar rest symbol taken) : width = taken := by
  obtain ⟨token, later, rfl⟩ := List.exists_cons_of_ne_nil takes.ne_nil
  match symbol with
  | .terminal 0 =>
    cases takes
    cases again
    rfl
  | .terminal (index + 1) =>
    obtain ⟨found⟩ := takes
    obtain ⟨foundAgain⟩ := again
    exact Option.some.inj (found.symm.trans foundAgain)
  | .rule rule =>
    rw [(takes.classRule?_eq wellFormed).2, (again.classRule?_eq wellFormed).2]

/-- Two symbols that the next tokens match are not preferred alike. -/
theorem eq_of_rank (takes : Takes grammar rest symbol width) (wellFormed : grammar.WellFormed)
    (otherTakes : Takes grammar rest other taken)
    (inRange : symbol.InRange grammar.rules.length grammar.terminals.length)
    (otherInRange : other.InRange grammar.rules.length grammar.terminals.length)
    (same : grammar.rank symbol = grammar.rank other) : symbol = other := by
  obtain ⟨token, later, rfl⟩ := List.exists_cons_of_ne_nil takes.ne_nil
  match symbol, other with
  | .terminal 0, .terminal 0 => rfl
  | .rule rule, .rule next =>
    obtain ⟨known, -⟩ := takes.classRule?_eq wellFormed
    obtain ⟨otherKnown, -⟩ := otherTakes.classRule?_eq wellFormed
    rw [Option.some.inj (known.symm.trans otherKnown)]
  | .terminal (index + 1), .terminal (place + 1) =>
    obtain ⟨found⟩ := takes
    obtain ⟨otherFound⟩ := otherTakes
    have text := String.toList_inj.mp
      (eq_of_spelledWidth? found otherFound (Nat.add_right_cancel same))
    have inside : index + 1 < grammar.terminals.length := inRange
    have otherInside : place + 1 < grammar.terminals.length := otherInRange
    simp only [Grammar.terminal, List.getElem?_eq_getElem inside,
      List.getElem?_eq_getElem otherInside, Option.getD_some] at text
    rw [(List.Nodup.getElem_inj_iff wellFormed.terminals_nodup).mp text]
  | .terminal 0, .terminal (_ + 1) => exact absurd same (by simp [Grammar.rank])
  | .terminal (_ + 1), .terminal 0 => exact absurd same (by simp [Grammar.rank])
  | .terminal 0, .rule _ => exact absurd same (by simp [Grammar.rank])
  | .rule _, .terminal 0 => exact absurd same (by simp [Grammar.rank])
  | .terminal (_ + 1), .rule _ => exact absurd same (by simp [Grammar.rank])
  | .rule _, .terminal (_ + 1) => exact absurd same (by simp [Grammar.rank])

end Takes

namespace Table.Sound

variable {grammar : Grammar} {table : Table} (sound : table.Sound grammar)
  (wellFormed : grammar.WellFormed) {state : SetIndex} {rest : List Token}
include sound wellFormed

/-- A literal that is chosen is preferred. -/
theorem prefers_of_literalChoice? {choice : Choice}
    (chosen : table.literalChoice? grammar state rest = some choice) :
    ∃ symbol, table.action? state symbol = some choice.action ∧
      table.Prefers grammar state rest symbol choice.width := by
  obtain ⟨entry, longest, rfl⟩ := Option.map_eq_some_iff.mp chosen
  obtain ⟨⟨_, _⟩, listed, spelled⟩ := List.mem_filterMap.mp (longest?_mem longest)
  obtain ⟨index, width, rfl, found, rfl⟩ := spelledChoice?_eq_some.mp spelled
  have present := sound.mem_actions_iff.mp listed
  refine ⟨_, present, .literal found, ?_⟩
  intro other action taken otherPresent otherTakes
  match other with
  | .terminal 0 => exact .inr (Nat.succ_pos _)
  | .rule _ => exact .inr (by simp [Grammar.rank])
  | .terminal (place + 1) =>
    obtain ⟨otherFound⟩ := otherTakes
    have short := length_le_of_longest? longest _ (sound.mem_spelledChoices otherPresent otherFound)
    rcases Nat.lt_or_eq_of_le short with less | same
    · exact .inr (Nat.add_lt_add_right less 2)
    · exact .inl (Takes.eq_of_rank (.literal otherFound) wellFormed (.literal found)
        (wellFormed.inRange_of_action? sound otherPresent)
        (wellFormed.inRange_of_action? sound present) (congrArg (· + 2) same))

omit wellFormed in
/-- Where no literal is chosen, the next tokens spell out none with an action. -/
theorem not_takes_of_literalChoice? (unspelled : table.literalChoice? grammar state rest = none)
    {index : TerminalIndex} {action : Action} {width : Nat}
    (present : table.action? state (.terminal (index + 1)) = some action) :
    ¬ Takes grammar rest (.terminal (index + 1)) width := by
  rintro ⟨found⟩
  obtain ⟨entry, longest⟩ :=
    exists_longest? (List.ne_nil_of_mem (sound.mem_spelledChoices present found))
  rw [literalChoice?, longest] at unspelled
  cases unspelled

/-- A choice is that of a symbol that is preferred. -/
theorem exists_prefers {choice : Choice}
    (chosen : table.choose? grammar state rest = some choice) :
    ∃ symbol, table.action? state symbol = some choice.action ∧
      table.Prefers grammar state rest symbol choice.width := by
  cases rest with
  | nil => cases chosen
  | cons token later =>
    rw [choose?, Option.or_eq_some_iff, Option.or_eq_some_iff] at chosen
    rcases chosen with literal | ⟨noLiteral, byClass | ⟨noClass, blank⟩⟩
    · exact sound.prefers_of_literalChoice? wellFormed literal
    · obtain ⟨rule, known, found⟩ := Option.bind_eq_some_iff.mp byClass
      obtain ⟨action, present, same⟩ := Option.bind_eq_some_iff.mp found
      obtain rfl := Option.some.inj same
      refine ⟨_, present, .of_classRule? known, ?_⟩
      rintro ((_ | index) | next) other taken otherPresent otherTakes
      · exact .inr Nat.one_pos
      · exact absurd otherTakes (sound.not_takes_of_literalChoice? noLiteral otherPresent)
      · left
        rw [Option.some.inj ((otherTakes.classRule?_eq wellFormed).1.symm.trans known)]
    · obtain ⟨action, present, rfl⟩ := Option.map_eq_some_iff.mp blank
      refine ⟨_, present, .epsilon, ?_⟩
      rintro ((_ | index) | next) other taken otherPresent otherTakes
      · exact .inl rfl
      · exact absurd otherTakes (sound.not_takes_of_literalChoice? noLiteral otherPresent)
      · obtain ⟨known, -⟩ := otherTakes.classRule?_eq wellFormed
        simp [classChoice?, known, otherPresent] at noClass

/-- A choice is an action under a symbol that the next tokens match. -/
theorem exists_takes {choice : Choice}
    (chosen : table.choose? grammar state rest = some choice) :
    ∃ symbol, table.action? state symbol = some choice.action ∧
      Takes grammar rest symbol choice.width := by
  obtain ⟨symbol, present, prefers⟩ := sound.exists_prefers wellFormed chosen
  exact ⟨symbol, present, prefers.takes⟩

/-- Something is chosen where the next tokens match a symbol with an action. -/
theorem exists_choose? {symbol : Symbol} {action : Action} {width : Nat}
    (present : table.action? state symbol = some action) (takes : Takes grammar rest symbol width) :
    ∃ choice, table.choose? grammar state rest = some choice := by
  obtain ⟨token, later, rfl⟩ := List.exists_cons_of_ne_nil takes.ne_nil
  rw [← Option.isSome_iff_exists, choose?, Option.isSome_or, Option.isSome_or]
  rcases symbol with (_ | index) | rule
  · have blank : (table.epsilonChoice? state).isSome := by
      rw [epsilonChoice?, Symbol.epsilon, present]
      rfl
    simp [blank]
  · obtain ⟨found⟩ := takes
    obtain ⟨entry, longest⟩ :=
      exists_longest? (List.ne_nil_of_mem (sound.mem_spelledChoices present found))
    simp [literalChoice?, longest]
  · simp [classChoice?, (takes.classRule?_eq wellFormed).1, present]

/-- The choice is that of the symbol that is preferred. -/
theorem choose?_eq_some_iff {choice : Choice} :
    table.choose? grammar state rest = some choice ↔
      ∃ symbol, table.action? state symbol = some choice.action ∧
        table.Prefers grammar state rest symbol choice.width := by
  refine ⟨sound.exists_prefers wellFormed, ?_⟩
  rintro ⟨symbol, present, prefers⟩
  obtain ⟨action, width⟩ := choice
  obtain ⟨⟨found, taken⟩, chosen⟩ := sound.exists_choose? wellFormed present prefers.takes
  obtain ⟨other, otherPresent, otherPrefers⟩ := sound.exists_prefers wellFormed chosen
  have same : other = symbol := by
    rcases prefers.first otherPresent otherPrefers.takes with same | less
    · exact same
    · rcases otherPrefers.first present prefers.takes with same | more
      · exact same.symm
      · omega
  subst same
  obtain rfl : found = action := Option.some.inj (otherPresent.symm.trans present)
  obtain rfl : taken = width := otherPrefers.takes.width_eq wellFormed prefers.takes
  exact chosen

/-- The action under a symbol is chosen if the next tokens match that one and no other that the
state has an action for. -/
theorem choose?_of_takes {symbol : Symbol} {action : Action} {width : Nat}
    (present : table.action? state symbol = some action)
    (takes : Takes grammar rest symbol width) (visible : symbol ≠ .epsilon)
    (only : ∀ {other action width}, table.action? state other = some action → other ≠ .epsilon →
      Takes grammar rest other width → other = symbol) :
    table.choose? grammar state rest = some ⟨action, width⟩ := by
  refine (sound.choose?_eq_some_iff wellFormed).mpr ⟨symbol, present, takes, ?_⟩
  intro other otherAction taken otherPresent otherTakes
  by_cases blank : other = .epsilon
  · rw [blank]
    exact .inr (grammar.rank_epsilon_lt visible)
  · exact .inl (only otherPresent blank otherTakes)

/-- The action under the empty literal is chosen if the next tokens match nothing that the state has
an action for. -/
theorem choose?_of_epsilon {action : Action} (present : table.action? state .epsilon = some action)
    (nonempty : rest ≠ [])
    (unmatched : ∀ {other action width}, table.action? state other = some action →
      other ≠ .epsilon → ¬ Takes grammar rest other width) :
    table.choose? grammar state rest = some ⟨action, 0⟩ := by
  obtain ⟨token, later, rfl⟩ := List.exists_cons_of_ne_nil nonempty
  refine (sound.choose?_eq_some_iff wellFormed).mpr ⟨.epsilon, present, .epsilon, ?_⟩
  intro other otherAction taken otherPresent otherTakes
  by_contra differs
  exact unmatched otherPresent (fun blank => differs (.inl blank)) otherTakes

/-- An action that only the empty literal has is chosen exactly if the next tokens match nothing
else that the state has an action for. -/
theorem choose?_eq_iff_of_epsilon {action : Action}
    (present : table.action? state .epsilon = some action)
    (own : ∀ symbol, table.action? state symbol = some action → symbol = .epsilon)
    (nonempty : rest ≠ []) :
    table.choose? grammar state rest = some ⟨action, 0⟩ ↔
      ∀ symbol width, symbol ≠ .epsilon → Takes grammar rest symbol width →
        table.action? state symbol = none := by
  constructor
  · intro chosen symbol width visible takes
    rw [Option.eq_none_iff_forall_not_mem]
    intro other otherPresent
    obtain ⟨key, keyPresent, prefers⟩ := sound.exists_prefers wellFormed chosen
    obtain rfl := own key keyPresent
    rcases prefers.first otherPresent takes with blank | less
    · exact visible blank
    · exact absurd less (Nat.not_lt_zero _)
  · intro unmatched
    refine sound.choose?_of_epsilon wellFormed present nonempty fun otherPresent visible takes => ?_
    rw [unmatched _ _ visible takes] at otherPresent
    cases otherPresent

end Table.Sound

end ShiftReduce
