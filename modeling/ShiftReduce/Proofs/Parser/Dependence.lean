import ShiftReduce.Proofs.Parser.Completion

/-!
# What a parse depends on

A run reads the texts and the classes of tokens, and it never passes the first end of its input. So
two runs on tokens with the same texts and classes up to there go through the same states, build the
same trees and end alike, wherever the tokens stand and whatever follows the end. Only the column of
a failure tells the places apart.

## Main definitions

* `Token.Alike` — tokens with the same text and class
* `AlikeToEnd` — rows of tokens that are alike up to an end in both
* `Config.Alike` — moments with the same stacks, at the same place of alike tokens
* `Engine.EndAlike` — runs with the same result, up to the places of tokens

## Main results

* `AlikeToEnd.choose?_eq` — what is chosen depends on the tokens up to the first end
* `Config.Alike.step` — two runs in lockstep
* `Grammar.Loaded.endAlike_or_endless` — runs on alike tokens end alike, or neither ends
-/

namespace ShiftReduce

/-! ### Alike tokens -/

/-- Two tokens have the same text and the same class. They may stand in different places. -/
structure Token.Alike (token other : Token) : Prop where
  value : token.value = other.value
  kind : token.kind = other.kind

namespace Token.Alike

variable {token other : Token}

theorem symm (alike : token.Alike other) : other.Alike token := ⟨alike.value.symm, alike.kind.symm⟩

theorem isEnd_eq (alike : token.Alike other) : token.isEnd = other.isEnd :=
  congrArg (· == endClass) alike.kind

end Token.Alike

theorem map_value_eq {tokens others : List Token}
    (alike : List.Forall₂ Token.Alike tokens others) :
    tokens.map Token.value = others.map Token.value := by
  induction alike with
  | nil => rfl
  | cons head _ ih => rw [List.map_cons, List.map_cons, head.value, ih]

/-- The leaf of tokens depends on their texts and classes. -/
theorem Engine.leaf_eq_of_alike (engine : Engine) {tokens others : List Token}
    (alike : List.Forall₂ Token.Alike tokens others) : engine.leaf tokens = engine.leaf others := by
  have values := map_value_eq alike
  match alike with
  | .nil => rfl
  | .cons head .nil => simp only [leaf, head.value, head.kind]
  | .cons _ (.cons _ _) => exact congrArg (fun values => Node.leaf (String.join values) none) values

/-- The line behind tokens depends on their texts and classes. -/
theorem lineAfter_fst_eq {tokens others : List Token}
    (alike : List.Forall₂ Token.Alike tokens others) (line start otherStart : Nat) :
    (lineAfter line start tokens).1 = (lineAfter line otherStart others).1 := by
  induction alike generalizing line start otherStart with
  | nil => rfl
  | cons head _ ih =>
    rw [lineAfter, lineAfter, head.kind, head.value]
    split
    · exact ih ..
    · exact ih ..

/-- Both rows of tokens have an end, and the tokens up to it are alike. -/
inductive AlikeToEnd : List Token → List Token → Prop
  | ends {token other : Token} {rest others : List Token} : token.isEnd = true →
      other.isEnd = true → AlikeToEnd (token :: rest) (other :: others)
  | token {token other : Token} {rest others : List Token} : token.Alike other →
      AlikeToEnd rest others → AlikeToEnd (token :: rest) (other :: others)

namespace AlikeToEnd

variable {rest others : List Token}

/-- Tokens with an end are alike up to there if those before the first end are. -/
theorem of_takeWhile (ended : ∃ token ∈ rest, token.isEnd = true)
    (otherEnded : ∃ token ∈ others, token.isEnd = true)
    (alike : List.Forall₂ Token.Alike (rest.takeWhile fun token => !token.isEnd)
      (others.takeWhile fun token => !token.isEnd)) : AlikeToEnd rest others := by
  induction rest generalizing others with
  | nil => exact absurd ended (by simp)
  | cons token rest ih =>
    cases others with
    | nil => exact absurd otherEnded (by simp)
    | cons other others =>
      rw [List.exists_mem_cons_iff] at ended otherEnded
      rw [List.takeWhile_cons, List.takeWhile_cons] at alike
      cases isEnd : token.isEnd with
      | true =>
        cases otherIsEnd : other.isEnd with
        | true => exact .ends isEnd otherIsEnd
        | false =>
          rw [isEnd, otherIsEnd] at alike
          cases alike
      | false =>
        cases otherIsEnd : other.isEnd with
        | true =>
          rw [isEnd, otherIsEnd] at alike
          cases alike
        | false =>
          rw [isEnd, otherIsEnd] at alike
          rw [isEnd] at ended
          rw [otherIsEnd] at otherEnded
          obtain ⟨head, tail⟩ := List.forall₂_cons.mp alike
          exact .token head (ih (ended.resolve_left Bool.false_ne_true)
            (otherEnded.resolve_left Bool.false_ne_true) tail)

/-- The next tokens spell out the same literals. -/
theorem spelledWidth?_eq (alike : AlikeToEnd rest others) (literal : List Char) :
    spelledWidth? literal rest = spelledWidth? literal others := by
  induction alike generalizing literal with
  | ends first second => rw [spelledWidth?, spelledWidth?, if_pos first, if_pos second]
  | token head _ ih =>
    rw [spelledWidth?, spelledWidth?, head.isEnd_eq, head.value]
    split
    · rfl
    · split
      · rfl
      · rfl
      · rw [ih]

/-- The next tokens are both of one class. -/
theorem exists_cons (alike : AlikeToEnd rest others) : ∃ token later other otherLater,
    rest = token :: later ∧ others = other :: otherLater ∧ token.kind = other.kind := by
  cases alike with
  | ends first second =>
    exact ⟨_, _, _, _, rfl, rfl, (beq_iff_eq.mp first).trans (beq_iff_eq.mp second).symm⟩
  | token head _ => exact ⟨_, _, _, _, rfl, rfl, head.kind⟩

/-- What is chosen depends on the tokens up to the first end. -/
theorem choose?_eq (alike : AlikeToEnd rest others) (table : Table) (grammar : Grammar)
    (state : SetIndex) : table.choose? grammar state rest = table.choose? grammar state others := by
  have spelled : spelledChoice? grammar rest = spelledChoice? grammar others := by
    funext ⟨symbol, action⟩
    simp only [spelledChoice?, alike.spelledWidth?_eq]
  obtain ⟨token, later, other, otherLater, rfl, rfl, kind⟩ := alike.exists_cons
  have isEnd : token.isEnd = other.isEnd := congrArg (· == endClass) kind
  simp only [Table.choose?, Table.literalChoice?, Table.classChoice?, spelled, kind, isEnd]

/-- Tokens that are taken before an end are alike, and so are those that are left. -/
theorem take_drop (alike : AlikeToEnd rest others) {width : Nat}
    (unread : ∀ token ∈ rest.take width, token.isEnd = false) :
    List.Forall₂ Token.Alike (rest.take width) (others.take width) ∧
      AlikeToEnd (rest.drop width) (others.drop width) := by
  induction alike generalizing width with
  | ends first second =>
    cases width with
    | zero => exact ⟨.nil, .ends first second⟩
    | succ width =>
      rw [unread _ List.mem_cons_self] at first
      cases first
  | token head tail ih =>
    cases width with
    | zero => exact ⟨.nil, .token head tail⟩
    | succ width =>
      rw [List.take_succ_cons, List.forall_mem_cons] at unread
      obtain ⟨taken, left⟩ := ih unread.2
      exact ⟨.cons head taken, left⟩

end AlikeToEnd

/-! ### Runs in lockstep -/

/-- Two moments have the same stacks and reductions, at the same place of tokens that are alike up
to an end. -/
structure Config.Alike (config other : Config) : Prop where
  states : config.states = other.states
  nodes : config.nodes = other.nodes
  reductions : config.reductions = other.reductions
  before : List.Forall₂ Token.Alike config.before other.before
  rest : AlikeToEnd config.rest other.rest

/-- Two moments go on to moments that are alike, or end for the same reason. -/
inductive Engine.StepAlike (engine : Engine) (config other : Config) : Prop
  | running {next last : Config} : engine.step config = .running next →
      engine.step other = .running last → next.Alike last → StepAlike engine config other
  | accepted {derivation : Derivation} : engine.step config = .finished (.ok derivation) →
      engine.step other = .finished (.ok derivation) → StepAlike engine config other
  | internal {reason : String} : engine.step config = failInternally reason →
      engine.step other = failInternally reason → StepAlike engine config other
  | unexpected : engine.step config = .finished (.error (unexpected config)) →
      engine.step other = .finished (.error (Engine.unexpected other)) →
      StepAlike engine config other

namespace Config.Alike

variable {config other : Config}

/-- Parses begin alike if the tokens before the first end are. -/
theorem start {tokens others : List Token}
    (alike : List.Forall₂ Token.Alike (tokens.takeWhile fun token => !token.isEnd)
      (others.takeWhile fun token => !token.isEnd)) :
    (Config.start tokens).Alike (.start others) where
  states := rfl
  nodes := rfl
  reductions := rfl
  before := .nil
  rest := by
    have ended (tokens : List Token) : ∃ token ∈ Config.withEnd tokens, token.isEnd = true := by
      obtain ⟨front, last, same, ends⟩ := exists_withEnd_eq tokens
      exact ⟨last, same ▸ List.mem_concat_self, ends⟩
    refine .of_takeWhile (ended tokens) (ended others) ?_
    rwa [Config.start, Config.start, takeWhile_withEnd, takeWhile_withEnd]

theorem choose?_eq (alike : config.Alike other) (engine : Engine) :
    engine.choose? config = engine.choose? other := by
  unfold Engine.choose?
  rw [Config.top, alike.states, alike.rest.choose?_eq]
  rfl

/-- Shifts before an end lead to moments that are alike. -/
theorem shift (alike : config.Alike other) (engine : Engine) (target : SetIndex) {width : Nat}
    (unread : ∀ token ∈ config.rest.take width, token.isEnd = false) :
    (engine.shift config target width).Alike (engine.shift other target width) := by
  obtain ⟨taken, left⟩ := alike.rest.take_drop unread
  constructor
  · exact congrArg (target :: ·) alike.states
  · exact congrArg₂ List.cons (engine.leaf_eq_of_alike taken) alike.nodes
  · exact alike.reductions
  · exact List.rel_append (List.forall₂_reverse_iff.mpr taken) alike.before
  · exact left

/-- Reductions look at the stacks only. -/
theorem reduce (alike : config.Alike other) {engine : Engine} {rule : RuleIndex} {alternative : Nat}
    (same : engine.step config = engine.reduce config rule alternative)
    (otherSame : engine.step other = engine.reduce other rule alternative) :
    engine.StepAlike config other := by
  obtain ⟨states, nodes, before, rest, reductions⟩ := config
  obtain ⟨_, _, otherBefore, otherRest, _⟩ := other
  obtain ⟨rfl, rfl, rfl, read, left⟩ := alike
  simp only [Engine.reduce, Config.top] at same otherSame
  split at same
  · rename_i short
    rw [if_pos short] at otherSame
    exact .internal same otherSame
  · rename_i enough
    rw [if_neg enough] at otherSame
    split at same
    · rename_i missing
      rw [missing] at otherSame
      exact .internal same otherSame
    · rename_i target found
      rw [found] at otherSame
      exact .running same otherSame ⟨rfl, rfl, rfl, read, left⟩

theorem accept (alike : config.Alike other) {engine : Engine}
    (same : engine.step config = Engine.accept config)
    (otherSame : engine.step other = Engine.accept other) : engine.StepAlike config other := by
  have equal : Engine.accept other = Engine.accept config := by
    unfold Engine.accept
    rw [alike.nodes, alike.reductions]
  rw [equal] at otherSame
  obtain ⟨derivation, accepted⟩ | ⟨reason, failed⟩ :
      (∃ derivation, Engine.accept config = .finished (.ok derivation)) ∨
        ∃ reason, Engine.accept config = Engine.failInternally reason := by
    unfold Engine.accept
    split
    · exact .inl ⟨_, rfl⟩
    · exact .inr ⟨_, rfl⟩
  · exact .accepted (same.trans accepted) (otherSame.trans accepted)
  · exact .internal (same.trans failed) (otherSame.trans failed)

/-- Two runs go on in lockstep. -/
theorem step (alike : config.Alike other) {grammar : Grammar} {table : Table}
    (sound : table.Sound grammar) (wellFormed : grammar.WellFormed) :
    Engine.StepAlike ⟨grammar, table⟩ config other := by
  have again := (alike.choose?_eq ⟨grammar, table⟩).symm
  rcases chosen : Engine.choose? ⟨grammar, table⟩ config with
    _ | ⟨⟨target⟩ | ⟨rule, number⟩ | _, width⟩
  · rw [chosen] at again
    exact .unexpected (by rw [Engine.step, chosen]) (by rw [Engine.step, again])
  · rw [chosen] at again
    obtain ⟨symbol, -, takes⟩ := sound.exists_takes wellFormed chosen
    exact .running (by rw [Engine.step, chosen]) (by rw [Engine.step, again])
      (alike.shift _ target takes.le_length.2)
  · rw [chosen] at again
    exact alike.reduce (by rw [Engine.step, chosen]) (by rw [Engine.step, again])
  · rw [chosen] at again
    exact alike.accept (by rw [Engine.step, chosen]) (by rw [Engine.step, again])

/-- Whatever moment one run comes to, the other comes to one that is alike. -/
theorem exists_reaches (alike : config.Alike other) {grammar : Grammar} {table : Table}
    (sound : table.Sound grammar) (wellFormed : grammar.WellFormed) {last : Config}
    (reached : Engine.Reaches ⟨grammar, table⟩ config last) :
    ∃ otherLast, Engine.Reaches ⟨grammar, table⟩ other otherLast ∧ last.Alike otherLast := by
  induction reached with
  | refl => exact ⟨other, .refl, alike⟩
  | tail _ step ih =>
    obtain ⟨middle, reached, between⟩ := ih
    cases between.step sound wellFormed with
    | running first second onward =>
      cases first.symm.trans step
      exact ⟨_, reached.tail second, onward⟩
    | accepted first _ => cases first.symm.trans step
    | internal first _ => cases first.symm.trans step
    | unexpected first _ => cases first.symm.trans step

/-- Without an action, both runs are at an end, or at tokens that are alike and in the same line. -/
theorem unexpected_cases (alike : config.Alike other) :
    (Engine.unexpected config = .unexpectedEnd ∧ Engine.unexpected other = .unexpectedEnd) ∨
      ∃ token later next otherLater line column otherColumn,
        config.rest = token :: later ∧ other.rest = next :: otherLater ∧ token.Alike next ∧
        token.isEnd = false ∧
        Engine.unexpected config = .unexpectedToken token line column ∧
        Engine.unexpected other = .unexpectedToken next line otherColumn := by
  unfold Engine.unexpected
  obtain ⟨states, nodes, before, rest, reductions⟩ := config
  obtain ⟨otherStates, otherNodes, otherBefore, otherRest, otherReductions⟩ := other
  obtain ⟨-, -, -, read, left⟩ := alike
  dsimp only at read left ⊢
  cases left with
  | ends first second => exact .inl ⟨if_pos first, if_pos second⟩
  | @token token next rest others head tail =>
    by_cases isEnd : token.isEnd = true
    · exact .inl ⟨if_pos isEnd, if_pos (head.isEnd_eq ▸ isEnd)⟩
    · have line : (location otherBefore.reverse next).1 = (location before.reverse token).1 :=
        (lineAfter_fst_eq (List.forall₂_reverse_iff.mpr read) 1 0 0).symm
      refine .inr ⟨token, rest, next, others, _, _, (location otherBefore.reverse next).2, rfl, rfl,
        head, Bool.eq_false_iff.mpr isEnd, if_neg isEnd, ?_⟩
      rw [← line]
      exact if_neg (head.isEnd_eq ▸ isEnd)

end Config.Alike

/-! ### Runs that end alike -/

/-- The token behind those that were read, if it is no end, stands before the first one. -/
theorem Config.Represents.getElem?_takeWhile {grammar : Grammar} {tokens : List Token}
    {config : Config} {frames : List Frame} (represents : config.Represents grammar tokens frames)
    {token : Token} {later : List Token} (rest : config.rest = token :: later)
    (notEnd : token.isEnd = false) :
    (tokens.takeWhile fun token => !token.isEnd)[config.before.length]? = some token := by
  rw [represents.takeWhile_split, rest, List.takeWhile_cons_of_pos (by simp [notEnd]),
    List.getElem?_append_right (by simp)]
  simp

/-- Two runs end with the same derivation, both at an end of the input, or both at the token of one
index before the first end, which has the same text and class in both, and in the same line. -/
inductive Engine.EndAlike (engine : Engine) (tokens others : List Token) : Prop
  | accepted {derivation : Derivation} : engine.Yields tokens (.ok derivation) →
      engine.Yields others (.ok derivation) → EndAlike engine tokens others
  | unexpectedEnd : engine.Yields tokens (.error .unexpectedEnd) →
      engine.Yields others (.error .unexpectedEnd) → EndAlike engine tokens others
  | unexpectedToken {index : Nat} {token other : Token} {line column otherColumn : Nat} :
      engine.FailsAt tokens index (.unexpectedToken token line column) →
      engine.FailsAt others index (.unexpectedToken other line otherColumn) →
      (tokens.takeWhile fun token => !token.isEnd)[index]? = some token →
      (others.takeWhile fun token => !token.isEnd)[index]? = some other →
      token.Alike other → EndAlike engine tokens others

namespace Grammar

variable {grammar : Grammar} {table : Table} {tokens others : List Token}

theorem WellFormed.endAlike_of_yields (wellFormed : grammar.WellFormed)
    (sound : table.Sound grammar)
    (alike : List.Forall₂ Token.Alike (tokens.takeWhile fun token => !token.isEnd)
      (others.takeWhile fun token => !token.isEnd))
    {result : Except ParseError Derivation}
    (yields : Engine.Yields ⟨grammar, table⟩ tokens result) :
    Engine.EndAlike ⟨grammar, table⟩ tokens others := by
  obtain ⟨last, reached, finished⟩ := Engine.exists_runFor_iff.mp yields
  obtain ⟨otherLast, otherReached, between⟩ :=
    (Config.Alike.start alike).exists_reaches sound wellFormed reached
  obtain ⟨frames, represents⟩ := wellFormed.represents_of_reaches sound reached
  obtain ⟨_, otherRepresents⟩ := wellFormed.represents_of_reaches sound otherReached
  cases between.step sound wellFormed with
  | running first _ _ => cases first.symm.trans finished
  | accepted first second =>
    exact .accepted (Engine.exists_runFor_iff.mpr ⟨last, reached, first⟩)
      (Engine.exists_runFor_iff.mpr ⟨otherLast, otherReached, second⟩)
  | internal first _ =>
    exact absurd first ((wellFormed.consistent_of_represents sound represents).step_ne _)
  | unexpected first second =>
    rcases between.unexpected_cases with ⟨atEnd, otherAtEnd⟩ |
      ⟨token, _, other, _, line, column, otherColumn, rest, otherRest, head, notEnd, failure,
        otherFailure⟩
    · rw [atEnd] at first
      rw [otherAtEnd] at second
      exact .unexpectedEnd (Engine.exists_runFor_iff.mpr ⟨last, reached, first⟩)
        (Engine.exists_runFor_iff.mpr ⟨otherLast, otherReached, second⟩)
    · rw [failure] at first
      rw [otherFailure] at second
      have length := between.before.length_eq
      have next := otherRepresents.getElem?_takeWhile otherRest (head.isEnd_eq ▸ notEnd)
      rw [← length] at next
      exact .unexpectedToken ⟨last, reached, first, rfl⟩
        ⟨otherLast, otherReached, second, length.symm⟩
        (represents.getElem?_takeWhile rest notEnd) next head

/-- Two runs on tokens whose texts and classes are the same up to the first end of the input end
alike, or neither ends. -/
theorem Loaded.endAlike_or_endless (loaded : grammar.Loaded) (built : grammar.table = .ok table)
    (alike : List.Forall₂ Token.Alike (tokens.takeWhile fun token => !token.isEnd)
      (others.takeWhile fun token => !token.isEnd)) :
    Engine.EndAlike ⟨grammar, table⟩ tokens others ∨
      (∀ result, ¬ Engine.Yields ⟨grammar, table⟩ tokens result) ∧
        ∀ result, ¬ Engine.Yields ⟨grammar, table⟩ others result := by
  have wellFormed := loaded.wellFormed
  have sound := wellFormed.sound_table built
  by_cases ends : ∃ result, Engine.Yields ⟨grammar, table⟩ tokens result
  · obtain ⟨result, yields⟩ := ends
    exact .inl (wellFormed.endAlike_of_yields sound alike yields)
  · refine .inr ⟨fun result yields => ends ⟨result, yields⟩, fun result yields => ends ?_⟩
    have swapped := alike.flip.imp fun _ _ alike => alike.symm
    cases wellFormed.endAlike_of_yields sound swapped yields with
    | accepted _ second => exact ⟨_, second⟩
    | unexpectedEnd _ second => exact ⟨_, second⟩
    | unexpectedToken _ second _ _ _ => exact ⟨_, Engine.yields_error_iff.mpr ⟨_, second⟩⟩

/-- Neither the places of two tokens nor what stands behind an end make a difference. -/
theorem endAlike_sample : Engine.EndAlike ⟨sample, sampleTable⟩
    [⟨"a", lineBreakClass, 0, 1⟩, ⟨"c", lineBreakClass, 1, 2⟩]
    [⟨"a", lineBreakClass, 5, 6⟩, ⟨"c", lineBreakClass, 9, 10⟩, Token.endAt 3,
      ⟨"b", lineBreakClass, 0, 1⟩] := by
  refine (sample_loaded.endAlike_or_endless table_sample ?_).resolve_right fun endless => ?_
  · exact .cons ⟨rfl, rfl⟩ (.cons ⟨rfl, rfl⟩ .nil)
  · exact endless.1 (.error (.unexpectedToken ⟨"c", lineBreakClass, 1, 2⟩ 2 1)) ⟨3, rfl⟩

end Grammar

end ShiftReduce
