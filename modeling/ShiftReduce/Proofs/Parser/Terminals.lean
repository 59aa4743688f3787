import ShiftReduce.Proofs.Parser.Frames

/-!
# Telling terminals apart

Where no two terminals of the alternatives match the next tokens at once, a state has at most one
action to choose from, apart from that of the empty literal.

## Main definitions

* `Grammar.used` — the symbols that alternatives speak of
* `Grammar.isNext` — whether the next tokens match a terminal
* `Grammar.Separates` — tokens in which terminals can be told apart

## Main results

* `Grammar.WellFormed.isKey_of_action?` — what states have actions for
* `Grammar.Separates.eq_of_takes` — what a run sees next is determined by the tokens
* `Config.Represents.choose?_of_takes`, `Config.Represents.choose?_of_epsilon` — what is chosen
-/

namespace ShiftReduce

namespace Grammar

/-- The symbols that alternatives speak of. -/
def used (grammar : Grammar) : List Symbol :=
  grammar.rules.flatMap fun rule => rule.alternatives.flatten

/-- Whether the next tokens match a terminal: they spell out a literal, or the first of them is of a
class. -/
def isNext (grammar : Grammar) (tokens : List Token) : Symbol → Bool
  | .terminal 0 => false
  | .terminal (index + 1) => (spelledWidth? (grammar.terminal (index + 1)).toList tokens).isSome
  | .rule rule => tokens.head?.any fun token => grammar.classRule? token.kind == some rule

/-- What tables have actions for, besides the empty literal. -/
def IsKey (grammar : Grammar) (symbol : Symbol) : Prop :=
  symbol ∈ grammar.used ∨ symbol = .rule grammar.endRule

/-- Tokens with text and without an end, of which no two terminals of the alternatives match those
at one place. -/
structure Separates (grammar : Grammar) (tokens : List Token) : Prop where
  visible : ∀ token ∈ tokens, token.value ≠ ""
  unread : ∀ token ∈ tokens, token.isEnd = false
  unique : ∀ place, ∀ left ∈ grammar.used, ∀ right ∈ grammar.used,
    grammar.isNext (tokens.drop place) left = true →
      grammar.isNext (tokens.drop place) right = true → left = right

variable {grammar : Grammar} {table : Table} {tokens : List Token} {symbol : Symbol} {width : Nat}

/-! ### Keys -/

theorem mem_used_iff : symbol ∈ grammar.used ↔
    ∃ rule, ∃ symbols ∈ grammar.alternatives rule, symbol ∈ symbols := by
  simp only [used, List.mem_flatMap, List.mem_flatten, mem_alternatives_iff]
  constructor
  · rintro ⟨found, known, symbols, listed, occurs⟩
    obtain ⟨rule, same⟩ := List.getElem?_of_mem known
    exact ⟨rule, symbols, ⟨found, same, listed⟩, occurs⟩
  · rintro ⟨rule, symbols, ⟨found, same, listed⟩, occurs⟩
    exact ⟨found, List.mem_of_getElem? same, symbols, listed, occurs⟩

/-- What symbols start with is one of them, or occurs in an alternative. -/
theorem Starts.mem_or_mem_used {symbols : List Symbol} {terminal : Symbol}
    (starts : grammar.Starts symbols terminal) : terminal ∈ symbols ∨ terminal ∈ grammar.used := by
  induction starts with
  | terminal _ _ => exact .inl List.mem_cons_self
  | skip _ _ ih => exact ih.imp_left (List.mem_cons_of_mem _)
  | expand listed _ ih =>
    exact .inr (ih.elim (fun occurs => mem_used_iff.mpr ⟨_, _, listed, occurs⟩) id)

/-- The symbols behind a rule that productions lead to occur in alternatives. -/
theorem Chain.mem_used {rule : RuleIndex} {before after : List Symbol}
    (chain : grammar.Chain rule before after) (behind : symbol ∈ after) :
    symbol ∈ grammar.used := by
  induction chain with
  | start => cases behind
  | next _ listed ih =>
    rcases List.mem_append.mp behind with right | after
    · refine mem_used_iff.mpr ⟨_, _, listed, ?_⟩
      exact List.mem_append_right _ (List.mem_cons_of_mem _ right)
    · exact ih after

namespace WellFormed

variable (wellFormed : grammar.WellFormed)
include wellFormed

/-- What can be read from a state occurs in an alternative. -/
theorem mem_used_of_target? {set target : SetIndex}
    (edge : grammar.automaton.target? set symbol = some target) : symbol ∈ grammar.used := by
  obtain ⟨item, present, next⟩ := wellFormed.target?_isSome_iff.mp ⟨target, edge⟩
  have listed := wellFormed.symbols_mem_alternatives present
  exact mem_used_iff.mpr ⟨_, _, listed, List.mem_of_getElem? next⟩

theorem isKey_of_mem_follow {source : SetIndex} {rule : RuleIndex} {alternative : Nat}
    (starts : ⟨rule, alternative, 0⟩ ∈ grammar.automaton.items source)
    (follows : symbol ∈ symbolsAt grammar.lookahead.follow (grammar.step source (.rule rule))) :
    grammar.IsKey symbol := by
  obtain ⟨before, after, chain, -, begins⟩ := (wellFormed.mem_follow_iff_awaits starts).mp follows
  -- What follows stands behind a rule of the chain or is the end, or starts some alternative.
  rcases begins.mem_or_mem_used with behind | occurs
  · rcases List.mem_append.mp behind with inAfter | isEnd
    · exact .inl (chain.mem_used inAfter)
    · exact .inr (List.mem_singleton.mp isEnd)
  · exact .inl occurs

/-- Tables have actions for what occurs in alternatives and for the end of the input. -/
theorem isKey_of_action? (sound : table.Sound grammar) {state : SetIndex} {action : Action}
    (present : table.action? state symbol = some action) : grammar.IsKey symbol := by
  cases action with
  | shift target => exact .inl (wellFormed.mem_used_of_target? (sound.shift present).2)
  | reduce rule alternative =>
    obtain ⟨source, starts, -, follows⟩ := wellFormed.mem_lookaheads_iff.mp (sound.reduce present).2
    exact wellFormed.isKey_of_mem_follow starts follows
  | accept => exact .inr (sound.accept present).1

/-! ### Matching -/

/-- What the next tokens match is what they are taken for. -/
theorem isNext_iff : grammar.isNext tokens symbol = true ↔
    symbol ≠ .epsilon ∧ ∃ width, Takes grammar tokens symbol width := by
  match symbol with
  | .terminal 0 => exact ⟨nofun, fun visible => absurd rfl visible.1⟩
  | .terminal (index + 1) =>
    rw [isNext, Option.isSome_iff_exists]
    constructor
    · rintro ⟨width, found⟩
      exact ⟨Symbol.literal_ne_epsilon index, width, .literal found⟩
    · rintro ⟨-, width, ⟨found⟩⟩
      exact ⟨width, found⟩
  | .rule rule =>
    cases tokens with
    | nil => exact ⟨nofun, fun ⟨_, _, takes⟩ => absurd rfl takes.ne_nil⟩
    | cons token later =>
      rw [isNext, List.head?_cons, Option.any_some, beq_iff_eq]
      constructor
      · exact fun known => ⟨Symbol.rule_ne_epsilon rule, _, .of_classRule? known⟩
      · exact fun ⟨_, _, takes⟩ => (takes.classRule?_eq wellFormed).1

end WellFormed

end Grammar

/-- The tokens before an end spell out what they do with the end behind them. -/
theorem spelledWidth?_of_concat {literal : List Char} {front : List Token} {last : Token}
    {width : Nat} (ends : last.isEnd = true)
    (found : spelledWidth? literal (front ++ [last]) = some width) :
    spelledWidth? literal front = some width := by
  induction front generalizing literal width with
  | nil => simp [spelledWidth?, ends] at found
  | cons token front ih =>
    rw [List.cons_append, spelledWidth?] at found
    rw [spelledWidth?]
    split at found
    · cases found
    · rename_i inside
      rw [if_neg inside]
      split at found
      · cases found
      · exact found
      · obtain ⟨fewer, later, rfl⟩ := Option.map_eq_some_iff.mp found
        simp only [ih later, Option.map_some]

/-- Of tokens and an end, the tokens are taken, unless there are none. -/
theorem Takes.of_concat {grammar : Grammar} {front : List Token} {last : Token} {symbol : Symbol}
    {width : Nat} (takes : Takes grammar (front ++ [last]) symbol width)
    (visible : symbol ≠ .epsilon) (unread : ∀ token ∈ front, token.isEnd = false)
    (ends : last.isEnd = true) :
    Takes grammar front symbol width ∨ front = [] ∧ symbol = .rule grammar.endRule := by
  generalize same : front ++ [last] = tokens at takes
  cases takes with
  | literal found => exact .inl (.literal (spelledWidth?_of_concat ends (same ▸ found)))
  | token known notEnd =>
    cases front with
    | nil =>
      obtain ⟨rfl, -⟩ := List.cons.inj same
      rw [ends] at notEnd
      cases notEnd
    | cons first front =>
      obtain ⟨rfl, -⟩ := List.cons.inj same
      exact .inl (.token known notEnd)
  | inputEnd isEnd =>
    cases front with
    | nil => exact .inr ⟨rfl, rfl⟩
    | cons first front =>
      obtain ⟨rfl, -⟩ := List.cons.inj same
      rw [unread first List.mem_cons_self] at isEnd
      cases isEnd
  | epsilon => exact absurd rfl visible

namespace Grammar.Separates

variable {grammar : Grammar} {tokens rest : List Token} {left right : Symbol} {width other : Nat}

/-- No two keys are seen at once, at the end of the input neither. -/
theorem eq_of_takes (separates : grammar.Separates tokens) (wellFormed : grammar.WellFormed)
    (inside : rest <:+ Config.withEnd tokens) (leftKey : grammar.IsKey left)
    (rightKey : grammar.IsKey right) (leftVisible : left ≠ .epsilon)
    (rightVisible : right ≠ .epsilon) (leftTakes : Takes grammar rest left width)
    (rightTakes : Takes grammar rest right other) : left = right := by
  obtain ⟨last, same, ends⟩ := withEnd_eq_concat separates.unread
  rw [same] at inside
  obtain rfl | ⟨front, rfl, suffix⟩ := List.suffix_concat_iff.mp inside
  · exact absurd rfl leftTakes.ne_nil
  have unread : ∀ token ∈ front, token.isEnd = false :=
    fun token present => separates.unread token (suffix.subset present)
  have occurs {symbol : Symbol} {width : Nat} (isKey : grammar.IsKey symbol)
      (takes : Takes grammar front symbol width) : symbol ∈ grammar.used := by
    refine isKey.resolve_right ?_
    rintro rfl
    obtain ⟨token, later, rfl, isEnd⟩ := takes.isEnd_of_endRule wellFormed
    rw [unread token List.mem_cons_self] at isEnd
    cases isEnd
  rcases leftTakes.of_concat leftVisible unread ends with leftFront | ⟨rfl, rfl⟩
  · rcases rightTakes.of_concat rightVisible unread ends with rightFront | ⟨rfl, -⟩
    · have isNext := separates.unique (tokens.length - front.length) left (occurs leftKey leftFront)
        right (occurs rightKey rightFront)
      rw [← List.suffix_iff_eq_drop.mp suffix] at isNext
      rw [wellFormed.isNext_iff, wellFormed.isNext_iff] at isNext
      exact isNext ⟨leftVisible, _, leftFront⟩ ⟨rightVisible, _, rightFront⟩
    · exact absurd rfl leftFront.ne_nil
  · rcases rightTakes.of_concat rightVisible unread ends with rightFront | ⟨-, rfl⟩
    · exact absurd rfl rightFront.ne_nil
    · rfl

end Grammar.Separates

/-! ### Choices of a run -/

namespace Config.Represents

variable {grammar : Grammar} {table : Table} {tokens : List Token} {config : Config}
  {frames : List Frame} {symbol : Symbol} {action : Action} {width : Nat}

theorem rest_suffix (represents : config.Represents grammar tokens frames) :
    config.rest <:+ Config.withEnd tokens :=
  ⟨_, represents.split⟩

/-- What is taken of tokens before something else is of the tokens that were given. -/
theorem mem_of_mem_taken (represents : config.Represents grammar tokens frames)
    (separates : grammar.Separates tokens) {taken rest : List Token}
    (left : config.rest = taken ++ rest) (nonempty : rest ≠ []) :
    ∀ token ∈ taken, token ∈ tokens := by
  obtain ⟨last, same, -⟩ := withEnd_eq_concat separates.unread
  have split := represents.split
  rw [left, same, ← List.dropLast_append_getLast nonempty, ← List.append_assoc,
    ← List.append_assoc] at split
  intro token present
  rw [← (List.append_inj_left' split rfl)]
  simp [present]

/-- The action under what the next tokens match is chosen. -/
theorem choose?_of_takes (represents : config.Represents grammar tokens frames)
    (wellFormed : grammar.WellFormed) (sound : table.Sound grammar)
    (separates : grammar.Separates tokens)
    (present : table.action? (topState frames) symbol = some action) (visible : symbol ≠ .epsilon)
    (takes : Takes grammar config.rest symbol width) :
    Engine.choose? ⟨grammar, table⟩ config = some ⟨action, width⟩ := by
  rw [Engine.choose?, represents.top_eq]
  refine sound.choose?_of_takes wellFormed present takes visible ?_
  intro other otherAction otherWidth otherPresent otherVisible otherTakes
  exact separates.eq_of_takes wellFormed represents.rest_suffix
    (wellFormed.isKey_of_action? sound otherPresent) (wellFormed.isKey_of_action? sound present)
    otherVisible visible otherTakes takes

/-- The empty literal is chosen if the next tokens match something that the state has no action
for. -/
theorem choose?_of_epsilon (represents : config.Represents grammar tokens frames)
    (wellFormed : grammar.WellFormed) (sound : table.Sound grammar)
    (separates : grammar.Separates tokens)
    (present : table.action? (topState frames) .epsilon = some action)
    (isKey : grammar.IsKey symbol) (isNext : grammar.isNext config.rest symbol = true)
    (free : table.action? (topState frames) symbol = none) :
    Engine.choose? ⟨grammar, table⟩ config = some ⟨action, 0⟩ := by
  obtain ⟨visible, width, takes⟩ := wellFormed.isNext_iff.mp isNext
  rw [Engine.choose?, represents.top_eq]
  refine sound.choose?_of_epsilon wellFormed present represents.rest_ne_nil ?_
  intro other otherAction otherWidth otherPresent otherVisible otherTakes
  obtain rfl := separates.eq_of_takes wellFormed represents.rest_suffix
    (wellFormed.isKey_of_action? sound otherPresent) isKey otherVisible visible otherTakes takes
  rw [free] at otherPresent
  cases otherPresent

end Config.Represents

end ShiftReduce
