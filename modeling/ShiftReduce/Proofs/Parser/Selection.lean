import Mathlib.Order.Bounds.Basic
import ShiftReduce.Proofs.Parser.Choice

/-!
# What is selected

The engine reads ahead token by token and stops as soon as a literal is spelled out or can no longer
be. Here the same is said without reading: a literal is spelled out by the first tokens whose texts
together are the literal, and of the literals that are spelled out the one with the most bytes is
taken. Two of them never have the same number of bytes, for one begins the other.

## Main definitions

* `Spells` — a number of tokens whose texts together are a literal
* `Table.Spelled` — a literal with an action, spelled out by the next tokens
* `Table.Selects` — the choice of a state, told by what the next tokens spell out

## Main results

* `spelledWidth?_eq_some_iff` — a literal is spelled out by the least number of tokens
* `Table.choose?_eq_of_perm` — the order in which a state holds its actions does not matter
* `Grammar.Loaded.choose?_spec` — the choices of a state for any tokens
-/

namespace ShiftReduce

/-! ### The tokens of a literal -/

/-- The first `width` tokens are there, are no ends, and have a literal as their text. -/
structure Spells (literal : List Char) (tokens : List Token) (width : Nat) : Prop where
  pos : 0 < width
  le_length : width ≤ tokens.length
  unread : ∀ token ∈ tokens.take width, token.isEnd = false
  text : (tokens.take width).flatMap (fun token => token.value.toList) = literal

theorem Spells.of_spelledWidth? {literal : List Char} {tokens : List Token} {width : Nat}
    (found : spelledWidth? literal tokens = some width) : Spells literal tokens width := by
  obtain ⟨positive, bound, unread, text⟩ := spelledWidth?_spec found
  exact ⟨positive, bound, unread, text⟩

/-- Reading ahead stops at the first place where the literal is spelled out. -/
theorem Spells.exists_spelledWidth? {literal : List Char} {tokens : List Token} {width : Nat}
    (spells : Spells literal tokens width) :
    ∃ first ≤ width, spelledWidth? literal tokens = some first := by
  induction tokens generalizing literal width with
  | nil => exact absurd spells.le_length (Nat.not_le.mpr spells.pos)
  | cons token rest ih =>
    obtain ⟨positive, bound, unread, text⟩ := spells
    obtain ⟨fewer, rfl⟩ := Nat.exists_eq_add_one_of_ne_zero positive.ne'
    rw [List.take_succ_cons, List.forall_mem_cons] at unread
    rw [List.take_succ_cons, List.flatMap_cons] at text
    rw [spelledWidth?, if_neg (Bool.eq_false_iff.mp unread.1),
      List.isPrefixOf?_eq_some_iff_append_eq.mpr text]
    -- The first token is all of the literal, or the others spell out what it leaves.
    rcases unspelled : (rest.take fewer).flatMap (fun token => token.value.toList) with
      _ | ⟨char, chars⟩
    · exact ⟨1, Nat.succ_le_succ (Nat.zero_le fewer), by simp only [unspelled]⟩
    · have more : 0 < fewer := by
        refine Nat.pos_of_ne_zero ?_
        rintro rfl
        cases unspelled
      obtain ⟨first, le, found⟩ := ih ⟨more, Nat.le_of_succ_le_succ bound, unread.2, unspelled⟩
      exact ⟨first + 1, Nat.succ_le_succ le, by simp only [unspelled, found, Option.map_some]⟩

/-- A literal is spelled out by the least number of tokens whose texts together are the literal. -/
theorem spelledWidth?_eq_some_iff {literal : List Char} {tokens : List Token} {width : Nat} :
    spelledWidth? literal tokens = some width ↔
      IsLeast {width | Spells literal tokens width} width := by
  constructor
  · intro found
    refine ⟨.of_spelledWidth? found, fun other spells => ?_⟩
    obtain ⟨first, le, again⟩ := Spells.exists_spelledWidth? spells
    obtain rfl := Option.some.inj (found.symm.trans again)
    exact le
  · rintro ⟨spells, least⟩
    obtain ⟨first, le, found⟩ := Spells.exists_spelledWidth? spells
    rwa [le.antisymm (least (.of_spelledWidth? found))] at found

/-- A text that goes on has more bytes. -/
theorem Text.byteLength_lt_of_prefix {left right : List Char} (begins : left <+: right)
    (shorter : left.length < right.length) : byteLength left < byteLength right := by
  obtain ⟨rest, rfl⟩ := begins
  cases rest with
  | nil => simp at shorter
  | cons char rest =>
    have positive := char.utf8Size_pos
    rw [byteLength_append, byteLength]
    omega

/-! ### The choice by what is spelled out -/

namespace Table

variable (grammar : Grammar) (table : Table) (state : SetIndex)

/-- A literal that a state has an action for, and that the next tokens spell out. -/
structure Spelled (rest : List Token) (index : TerminalIndex) (choice : Choice) : Prop where
  keyed : table.action? state (.terminal index) = some choice.action
  visible : grammar.terminal index ≠ ""
  least : IsLeast {width | Spells (grammar.terminal index).toList rest width} choice.width

/-- No literal that a state has an action for is spelled out by the next tokens. -/
def NoneSpelled (rest : List Token) : Prop :=
  ∀ index choice, ¬ table.Spelled grammar state rest index choice

/-- What a state selects: the longest literal that the next tokens spell out, or else the class of
the next token, or else the empty literal, or else nothing. -/
inductive Selects : List Token → Option Choice → Prop
  | literal {rest : List Token} {index : TerminalIndex} {choice : Choice} :
      table.Spelled grammar state rest index choice →
      (∀ other next, table.Spelled grammar state rest other next → other = index ∨
        Text.byteLength (grammar.terminal other).toList <
          Text.byteLength (grammar.terminal index).toList) →
      Selects rest (some choice)
  | token {token : Token} {later : List Token} {rule : RuleIndex} {action : Action} :
      table.NoneSpelled grammar state (token :: later) →
      grammar.classRule? token.kind = some rule → table.action? state (.rule rule) = some action →
      Selects (token :: later) (some ⟨action, if token.isEnd then 0 else 1⟩)
  | epsilon {token : Token} {later : List Token} {action : Action} :
      table.NoneSpelled grammar state (token :: later) →
      (∀ rule, grammar.classRule? token.kind = some rule →
        table.action? state (.rule rule) = none) →
      table.action? state .epsilon = some action → Selects (token :: later) (some ⟨action, 0⟩)
  | nothing {token : Token} {later : List Token} :
      table.NoneSpelled grammar state (token :: later) →
      (∀ rule, grammar.classRule? token.kind = some rule →
        table.action? state (.rule rule) = none) →
      table.action? state .epsilon = none → Selects (token :: later) none

namespace Sound

variable {grammar : Grammar} {table : Table} (sound : table.Sound grammar)
  (wellFormed : grammar.WellFormed) {state : SetIndex} {rest : List Token}
include sound wellFormed

/-- The literals that are spelled out are those of the symbols that the next tokens match. -/
theorem spelled_iff {index : TerminalIndex} {choice : Choice} :
    table.Spelled grammar state rest index choice ↔ index ≠ 0 ∧
      table.action? state (.terminal index) = some choice.action ∧
      Takes grammar rest (.terminal index) choice.width := by
  constructor
  · rintro ⟨keyed, visible, least⟩
    match index with
    | 0 => exact absurd wellFormed.terminal_zero visible
    | index + 1 =>
      exact ⟨Nat.succ_ne_zero index, keyed, .literal (spelledWidth?_eq_some_iff.mpr least)⟩
  · rintro ⟨notFirst, keyed, takes⟩
    have inside := wellFormed.inRange_of_action? sound keyed
    have visible := fun empty => notFirst ((wellFormed.terminal_eq_empty_iff inside).mp empty)
    obtain ⟨place, rfl⟩ := Nat.exists_eq_add_one_of_ne_zero notFirst
    obtain ⟨action, width⟩ := choice
    cases takes with
    | literal found => exact ⟨keyed, visible, spelledWidth?_eq_some_iff.mp found⟩

/-- Of two literals that are spelled out, the one that is preferred has more bytes. -/
theorem byteLength_lt_of_rank {index other : TerminalIndex} {choice next : Choice}
    (spelled : table.Spelled grammar state rest index choice)
    (otherSpelled : table.Spelled grammar state rest other next)
    (less : grammar.rank (.terminal other) < grammar.rank (.terminal index)) :
    Text.byteLength (grammar.terminal other).toList <
      Text.byteLength (grammar.terminal index).toList := by
  obtain ⟨notFirst, -, -⟩ := (sound.spelled_iff wellFormed).mp spelled
  obtain ⟨otherNotFirst, -, -⟩ := (sound.spelled_iff wellFormed).mp otherSpelled
  obtain ⟨place, rfl⟩ := Nat.exists_eq_add_one_of_ne_zero notFirst
  obtain ⟨otherPlace, rfl⟩ := Nat.exists_eq_add_one_of_ne_zero otherNotFirst
  have shorter := Nat.lt_of_add_lt_add_right less
  have begins := prefix_or_prefix_of_spelledWidth?
    (spelledWidth?_eq_some_iff.mpr otherSpelled.least) (spelledWidth?_eq_some_iff.mpr spelled.least)
  refine Text.byteLength_lt_of_prefix (begins.resolve_right fun more => ?_) shorter
  exact absurd more.length_le (Nat.not_le.mpr shorter)

/-- Where no literal is spelled out, a symbol that the next tokens match is that of a class or the
empty literal. -/
theorem not_literal_of_noneSpelled (unspelled : table.NoneSpelled grammar state rest)
    {index : TerminalIndex} {action : Action} {width : Nat}
    (present : table.action? state (.terminal (index + 1)) = some action) :
    ¬ Takes grammar rest (.terminal (index + 1)) width := fun takes =>
  unspelled _ ⟨action, width⟩
    ((sound.spelled_iff wellFormed).mpr ⟨Nat.succ_ne_zero index, present, takes⟩)

/-- Where nothing is chosen, nothing is selected. -/
theorem selects_none {token : Token} {later : List Token}
    (missed : table.choose? grammar state (token :: later) = none) :
    table.Selects grammar state (token :: later) none := by
  have unmatched {symbol action width} (present : table.action? state symbol = some action) :
      ¬ Takes grammar (token :: later) symbol width := by
    intro takes
    obtain ⟨choice, found⟩ := sound.exists_choose? wellFormed present takes
    cases missed.symm.trans found
  refine .nothing (fun index choice spelled => ?_) (fun rule known => ?_) ?_
  · obtain ⟨-, keyed, takes⟩ := (sound.spelled_iff wellFormed).mp spelled
    exact unmatched keyed takes
  · rw [Option.eq_none_iff_forall_ne_some]
    exact fun action present => unmatched present (.of_classRule? known)
  · rw [Option.eq_none_iff_forall_ne_some]
    exact fun action present => unmatched present .epsilon

/-- The literal that is preferred is selected. -/
theorem selects_of_prefers_literal {index : TerminalIndex} {choice : Choice} (notFirst : index ≠ 0)
    (present : table.action? state (.terminal index) = some choice.action)
    (prefers : table.Prefers grammar state rest (.terminal index) choice.width) :
    table.Selects grammar state rest (some choice) := by
  have spelled := (sound.spelled_iff wellFormed).mpr ⟨notFirst, present, prefers.takes⟩
  refine .literal spelled fun other next otherSpelled => ?_
  obtain ⟨-, keyed, takes⟩ := (sound.spelled_iff wellFormed).mp otherSpelled
  exact (prefers.first keyed takes).imp Symbol.terminal.inj
    (sound.byteLength_lt_of_rank wellFormed spelled otherSpelled)

/-- The empty literal is selected if nothing is preferred to it. -/
theorem selects_of_prefers_epsilon {token : Token} {later : List Token} {choice : Choice}
    (present : table.action? state .epsilon = some choice.action)
    (prefers : table.Prefers grammar state (token :: later) .epsilon choice.width) :
    table.Selects grammar state (token :: later) (some choice) := by
  have only {other action taken} (otherPresent : table.action? state other = some action)
      (otherTakes : Takes grammar (token :: later) other taken) : other = .epsilon :=
    (prefers.first otherPresent otherTakes).resolve_right (Nat.not_lt_zero _)
  obtain ⟨action, width⟩ := choice
  obtain rfl : width = 0 := prefers.takes.width_eq wellFormed .epsilon
  refine .epsilon (fun index choice spelled => ?_) (fun rule known => ?_) present
  · obtain ⟨notFirst, keyed, takes⟩ := (sound.spelled_iff wellFormed).mp spelled
    exact notFirst (Symbol.terminal.inj (only keyed takes))
  · rw [Option.eq_none_iff_forall_ne_some]
    intro action otherPresent
    cases only otherPresent (.of_classRule? known)

/-- The class of the next token is selected if no literal is preferred to it. -/
theorem selects_of_prefers_rule {token : Token} {later : List Token} {rule : RuleIndex}
    {choice : Choice} (present : table.action? state (.rule rule) = some choice.action)
    (prefers : table.Prefers grammar state (token :: later) (.rule rule) choice.width) :
    table.Selects grammar state (token :: later) (some choice) := by
  obtain ⟨action, width⟩ := choice
  obtain ⟨known, rfl⟩ := prefers.takes.classRule?_eq wellFormed
  refine .token (fun index choice spelled => ?_) known present
  obtain ⟨notFirst, keyed, takes⟩ := (sound.spelled_iff wellFormed).mp spelled
  obtain ⟨place, rfl⟩ := Nat.exists_eq_add_one_of_ne_zero notFirst
  rcases prefers.first keyed takes with same | less
  · cases same
  · exact absurd less (by simp [Grammar.rank])

/-- What is chosen for some tokens is selected. -/
theorem selects_choose? (nonempty : rest ≠ []) :
    table.Selects grammar state rest (table.choose? grammar state rest) := by
  obtain ⟨token, later, rfl⟩ := List.exists_cons_of_ne_nil nonempty
  rcases chosen : table.choose? grammar state (token :: later) with _ | choice
  · exact sound.selects_none wellFormed chosen
  · obtain ⟨symbol, present, prefers⟩ := sound.exists_prefers wellFormed chosen
    match symbol with
    | .terminal 0 => exact sound.selects_of_prefers_epsilon wellFormed present prefers
    | .terminal (index + 1) =>
      exact sound.selects_of_prefers_literal wellFormed (Nat.succ_ne_zero index) present prefers
    | .rule rule => exact sound.selects_of_prefers_rule wellFormed present prefers

/-- The longest of the literals that are spelled out is preferred. -/
theorem prefers_of_spelled {index : TerminalIndex} {choice : Choice}
    (spelled : table.Spelled grammar state rest index choice)
    (longest : ∀ other next, table.Spelled grammar state rest other next → other = index ∨
      Text.byteLength (grammar.terminal other).toList <
        Text.byteLength (grammar.terminal index).toList) :
    table.Prefers grammar state rest (.terminal index) choice.width := by
  obtain ⟨notFirst, keyed, takes⟩ := (sound.spelled_iff wellFormed).mp spelled
  obtain ⟨place, rfl⟩ := Nat.exists_eq_add_one_of_ne_zero notFirst
  refine ⟨takes, ?_⟩
  rintro ((_ | other) | rule) action taken otherPresent otherTakes
  · exact .inr (Nat.succ_pos _)
  · have otherSpelled : table.Spelled grammar state rest (other + 1) ⟨action, taken⟩ :=
      (sound.spelled_iff wellFormed).mpr ⟨Nat.succ_ne_zero other, otherPresent, otherTakes⟩
    rcases longest _ _ otherSpelled with same | fewer
    · exact .inl (congrArg Symbol.terminal same)
    · rcases Nat.lt_trichotomy (grammar.rank (.terminal (other + 1)))
        (grammar.rank (.terminal (place + 1))) with less | same | more
      · exact .inr less
      · exact .inl (otherTakes.eq_of_rank wellFormed takes
          (wellFormed.inRange_of_action? sound otherPresent)
          (wellFormed.inRange_of_action? sound keyed) same)
      · have := sound.byteLength_lt_of_rank wellFormed otherSpelled spelled more
        omega
  · exact .inr (by simp [Grammar.rank])

/-- What is selected is chosen. -/
theorem choose?_of_selects {result : Option Choice}
    (selects : table.Selects grammar state rest result) :
    table.choose? grammar state rest = result := by
  cases selects with
  | literal spelled longest =>
    exact (sound.choose?_eq_some_iff wellFormed).mpr
      ⟨_, spelled.keyed, sound.prefers_of_spelled wellFormed spelled longest⟩
  | @token token later rule action unspelled known present =>
    refine (sound.choose?_eq_some_iff wellFormed).mpr ⟨_, present, .of_classRule? known, ?_⟩
    rintro ((_ | other) | next) otherAction taken otherPresent otherTakes
    · exact .inr Nat.one_pos
    · exact absurd otherTakes (sound.not_literal_of_noneSpelled wellFormed unspelled otherPresent)
    · rw [Option.some.inj ((otherTakes.classRule?_eq wellFormed).1.symm.trans known)]
      exact .inl rfl
  | @epsilon token later action unspelled unclassed present =>
    refine (sound.choose?_eq_some_iff wellFormed).mpr ⟨_, present, .epsilon, ?_⟩
    rintro ((_ | other) | next) otherAction taken otherPresent otherTakes
    · exact .inl rfl
    · exact absurd otherTakes (sound.not_literal_of_noneSpelled wellFormed unspelled otherPresent)
    · rw [unclassed next (otherTakes.classRule?_eq wellFormed).1] at otherPresent
      cases otherPresent
  | @nothing token later unspelled unclassed absent =>
    rw [Option.eq_none_iff_forall_ne_some]
    intro choice chosen
    obtain ⟨(_ | other) | next, otherPresent, otherTakes⟩ := sound.exists_takes wellFormed chosen
    · cases otherPresent.symm.trans absent
    · exact sound.not_literal_of_noneSpelled wellFormed unspelled otherPresent otherTakes
    · rw [unclassed next (otherTakes.classRule?_eq wellFormed).1] at otherPresent
      cases otherPresent

/-- The choice of a state for some tokens is what it selects. -/
theorem choose?_eq_iff_selects (nonempty : rest ≠ []) (result : Option Choice) :
    table.choose? grammar state rest = result ↔ table.Selects grammar state rest result := by
  refine ⟨?_, sound.choose?_of_selects wellFormed⟩
  rintro rfl
  exact sound.selects_choose? wellFormed nonempty

end Sound

end Table

/-! ### The order of the actions -/

/-- Where the length tells entries apart, the one with the longest literal does not depend on their
order. -/
theorem longest?_eq_of_perm {entries others : List (List Char × Choice)}
    (alone : ∀ entry ∈ entries, ∀ other ∈ entries,
      entry.1.length = other.1.length → entry = other)
    (perm : others.Perm entries) : longest? others = longest? entries := by
  by_cases empty : entries = []
  · subst empty
    rw [perm.eq_nil]
  · obtain ⟨entry, found⟩ := exists_longest? empty
    have nonempty : others ≠ [] := fun noOthers => empty (noOthers ▸ perm.symm).eq_nil
    obtain ⟨other, otherFound⟩ := exists_longest? nonempty
    have present := longest?_mem found
    have otherPresent := perm.mem_iff.mp (longest?_mem otherFound)
    have le := length_le_of_longest? found other otherPresent
    have ge := length_le_of_longest? otherFound entry (perm.mem_iff.mpr present)
    rw [found, otherFound, alone entry present other otherPresent (ge.antisymm le)]

namespace Table

/-- The choice of a state does not depend on the order in which it holds its actions. -/
theorem Sound.choose?_eq_of_perm {grammar : Grammar} {table other : Table}
    (sound : table.Sound grammar) (wellFormed : grammar.WellFormed) {state : SetIndex}
    (perm : (other.actions state).Perm (table.actions state)) (rest : List Token) :
    other.choose? grammar state rest = table.choose? grammar state rest := by
  have found (symbol : Symbol) : other.action? state symbol = table.action? state symbol :=
    Sorted.lookup_eq_of_perm (sound.ascending_actions state).distinct perm symbol
  have literals : other.literalChoice? grammar state rest =
      table.literalChoice? grammar state rest := by
    refine congrArg (Option.map Prod.snd) (longest?_eq_of_perm ?_ (perm.filterMap _))
    intro left leftListed right rightListed same
    obtain ⟨⟨_, action⟩, leftPresent, leftSpelled⟩ := List.mem_filterMap.mp leftListed
    obtain ⟨⟨_, next⟩, rightPresent, rightSpelled⟩ := List.mem_filterMap.mp rightListed
    obtain ⟨index, width, rfl, leftFound, rfl⟩ := spelledChoice?_eq_some.mp leftSpelled
    obtain ⟨place, taken, rfl, rightFound, rfl⟩ := spelledChoice?_eq_some.mp rightSpelled
    rw [sound.mem_actions_iff] at leftPresent rightPresent
    have one := Takes.eq_of_rank (.literal leftFound) wellFormed (.literal rightFound)
      (wellFormed.inRange_of_action? sound leftPresent)
      (wellFormed.inRange_of_action? sound rightPresent) (congrArg (· + 2) same)
    cases one
    obtain rfl := Option.some.inj (leftPresent.symm.trans rightPresent)
    obtain rfl := Option.some.inj (leftFound.symm.trans rightFound)
    rfl
  cases rest with
  | nil => rfl
  | cons token later =>
    simp only [choose?, literals, classChoice?, epsilonChoice?, found]

end Table

/-! ### Loaded grammars -/

namespace Grammar

/-- A literal is spelled out by the least number of tokens, none of them an end, whose texts are
the literal. In every state, whatever tokens are left, the longest literal that is spelled out is
chosen, or else the class of the next token, or else the empty literal. No more tokens are taken
than there are, and the order of the actions does not matter. -/
theorem Loaded.choose?_spec {grammar : Grammar} (loaded : grammar.Loaded) {table : Table}
    (built : grammar.table = .ok table) (state : SetIndex) {rest : List Token}
    (nonempty : rest ≠ []) :
    (∀ literal width, spelledWidth? literal rest = some width ↔
      IsLeast {width | Spells literal rest width} width) ∧
    (∀ result, table.choose? grammar state rest = result ↔
      table.Selects grammar state rest result) ∧
    (∀ choice, table.choose? grammar state rest = some choice → choice.width ≤ rest.length) ∧
    ∀ other : Table, (other.actions state).Perm (table.actions state) →
      other.choose? grammar state rest = table.choose? grammar state rest := by
  have wellFormed := loaded.wellFormed
  have sound := wellFormed.sound_table built
  refine ⟨fun literal width => spelledWidth?_eq_some_iff,
    sound.choose?_eq_iff_selects wellFormed nonempty, fun choice chosen => ?_,
    fun other perm => sound.choose?_eq_of_perm wellFormed perm rest⟩
  obtain ⟨symbol, -, takes⟩ := sound.exists_takes wellFormed chosen
  exact takes.le_length.1

/-- A letter behind a token without text is spelled out by the two of them together. -/
theorem choose?_spec_sample :
    sampleTable.Selects sample 0
      [⟨"", lineBreakClass, 0, 0⟩, ⟨"a", lineBreakClass, 0, 1⟩] (some ⟨.shift 2, 2⟩) :=
  ((sample_loaded.choose?_spec table_sample 0 (List.cons_ne_nil _ _)).2.1 _).mp (by decide +kernel)

end Grammar

end ShiftReduce
