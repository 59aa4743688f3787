import ShiftReduce.Proofs.Parser.Run
import ShiftReduce.Proofs.Parser.Terminals

/-!
# Completeness

Where a table leaves no choice open and the terminals can be told apart in the input, a run does
what a parse tree of the input says: it takes the tokens of a leaf, and once behind the children of
a branch it reduces, for what comes next follows the rule.

## Main definitions

* `Table.Decisive` — a table that leaves no choice open
* `Table.Fits` — such a table, with an input in which terminals can be told apart
* `Engine.Accepts`, `Engine.AcceptsBehind` — runs that end with a tree

## Main results

* `Grammar.Parses.exists_isNext` — what comes next at the start of a tree
* `Table.Fits.accepts_of_parses`, `Table.Fits.accepts_of_parsesAll` — runs go past trees
* `Grammar.Loaded.yields_of_parses` — an input with a parse tree is parsed
-/

namespace ShiftReduce

/-- A table that leaves no choice open: no reduction was dropped, the empty literal stands alone,
the end of the input is in no alternative, and a state that may shift the empty literal has no other
action for what follows it. -/
structure Table.Decisive (grammar : Grammar) (table : Table) : Prop where
  resolved : table.resolved = []
  alone : ∀ rule ∈ grammar.rules, ∀ symbols ∈ rule.alternatives,
    .epsilon ∈ symbols → symbols = [.epsilon]
  unused : .rule grammar.endRule ∉ grammar.used
  free : ∀ state, ∀ item ∈ grammar.automaton.items state, item.dot = 0 →
    item.symbols grammar = [.epsilon] →
      ∀ terminal ∈ grammar.followAt state item.rule, table.action? state terminal = none

/-- A table that was built and leaves no choice open, with an input in which terminals can be told
apart. -/
structure Table.Fits (grammar : Grammar) (table : Table) (tokens : List Token) : Prop where
  wellFormed : grammar.WellFormed
  built : grammar.table = .ok table
  decisive : table.Decisive grammar
  separates : grammar.Separates tokens

namespace Engine

/-- A run from some moment ends with a tree. -/
def Accepts (engine : Engine) (config : Config) : Prop :=
  ∃ derivation limit, engine.runFor limit config = some (.ok derivation)

/-- Runs end with a tree once there is a frame of some state on top, with some tokens left. -/
def AcceptsBehind (engine : Engine) (tokens : List Token) (frames : List Frame)
    (target : SetIndex) (rest : List Token) : Prop :=
  ∀ next frame, Config.Represents engine.grammar tokens next (frame :: frames) →
    frame.state = target → next.rest = rest → engine.Accepts next

variable {engine : Engine} {config next : Config}

theorem Accepts.of_running (step : engine.step config = .running next)
    (accepts : engine.Accepts next) : engine.Accepts config := by
  obtain ⟨derivation, limit, found⟩ := accepts
  refine ⟨derivation, limit + 1, ?_⟩
  rw [runFor, step]
  exact found

theorem Accepts.of_finished {derivation : Derivation}
    (step : engine.step config = .finished (.ok derivation)) : engine.Accepts config :=
  ⟨derivation, 1, by rw [runFor, step]⟩

end Engine

/-! ### What comes next -/

namespace Grammar

variable {grammar : Grammar}

mutual

/-- At the start of a tree comes what its symbol starts with, or, if that may come to nothing, what
comes behind the tree. -/
theorem Parses.exists_isNext {symbol : Symbol} {taken : List Token} {node : Node}
    (parses : grammar.Parses symbol taken node) (wellFormed : grammar.WellFormed)
    (unused : .rule grammar.endRule ∉ grammar.used) (differs : symbol ≠ .rule grammar.endRule)
    (visible : ∀ token ∈ taken, token.value ≠ "") (unread : ∀ token ∈ taken, token.isEnd = false)
    {rest : List Token} {terminal : Symbol} (isNext : grammar.isNext rest terminal = true) :
    ∃ opening, grammar.isNext (taken ++ rest) opening = true ∧
      (grammar.Starts [symbol] opening ∨ (grammar.Vanishes [symbol] ∧ opening = terminal)) := by
  cases parses with
  | epsilon => exact ⟨terminal, isNext, .inr ⟨.epsilon .nil, rfl⟩⟩
  | literal text nonempty joined =>
    obtain ⟨inVisible, takes⟩ := wellFormed.takes_of_join text nonempty joined visible unread
    exact ⟨_, wellFormed.isNext_iff.mpr ⟨inVisible, _, takes⟩, .inl (.terminal rfl inVisible)⟩
  | @token rule _ token known _ notEnd =>
    have visible := Symbol.rule_ne_epsilon rule
    have takes : Takes grammar ([token] ++ rest) (.rule rule) 1 := .token known notEnd
    have consumes := wellFormed.isTerminal_of_classRule? known
    exact ⟨_, wellFormed.isNext_iff.mpr ⟨visible, _, takes⟩, .inl (.terminal consumes visible)⟩
  | inputEnd => exact absurd rfl differs
  | @branch _ symbols _ _ listed all =>
    have others : .rule grammar.endRule ∉ symbols :=
      fun occurs => unused (mem_used_iff.mpr ⟨_, _, listed, occurs⟩)
    obtain ⟨opening, here, starts | ⟨vanishes, same⟩⟩ :=
      all.exists_isNext wellFormed unused others visible unread isNext
    · exact ⟨opening, here, .inl (.expand listed starts)⟩
    · exact ⟨opening, here, .inr ⟨.rule listed vanishes .nil, same⟩⟩

theorem ParsesAll.exists_isNext {symbols : List Symbol} {taken : List Token} {nodes : List Node}
    (all : grammar.ParsesAll symbols taken nodes) (wellFormed : grammar.WellFormed)
    (unused : .rule grammar.endRule ∉ grammar.used) (differs : .rule grammar.endRule ∉ symbols)
    (visible : ∀ token ∈ taken, token.value ≠ "") (unread : ∀ token ∈ taken, token.isEnd = false)
    {rest : List Token} {terminal : Symbol} (isNext : grammar.isNext rest terminal = true) :
    ∃ opening, grammar.isNext (taken ++ rest) opening = true ∧
      (grammar.Starts symbols opening ∨ (grammar.Vanishes symbols ∧ opening = terminal)) := by
  cases all with
  | nil => exact ⟨terminal, isNext, .inr ⟨.nil, rfl⟩⟩
  | @cons symbol symbols front back _ _ parses later =>
    obtain ⟨differs, others⟩ := not_or.mp (List.mem_cons.not.mp differs)
    rw [List.forall_mem_append] at visible unread
    obtain ⟨middle, there, behind⟩ :=
      later.exists_isNext wellFormed unused others visible.2 unread.2 isNext
    obtain ⟨opening, here, starts | ⟨vanishes, rfl⟩⟩ :=
      parses.exists_isNext wellFormed unused (Ne.symm differs) visible.1 unread.1 there
    · exact ⟨opening, List.append_assoc .. ▸ here, .inl (starts.append_left symbols)⟩
    · refine ⟨opening, List.append_assoc .. ▸ here, ?_⟩
      rcases behind with starts | ⟨rest, same⟩
      · exact .inl (.skip vanishes starts)
      · exact .inr ⟨vanishes.append rest, same⟩

end

end Grammar

/-! ### Going past trees -/

/-- The empty literal takes no token. -/
theorem Grammar.ParsesAll.eq_nil_of_epsilon {grammar : Grammar} {taken : List Token}
    {nodes : List Node} (all : grammar.ParsesAll [.epsilon] taken nodes)
    (wellFormed : grammar.WellFormed) : taken = [] := by
  cases all with
  | cons parses later =>
    cases later
    cases parses with
    | epsilon => rfl
    | literal text _ _ => exact absurd wellFormed.terminal_zero text

theorem Table.Decisive.eq_of_epsilon_mem {grammar : Grammar} {table : Table}
    (decisive : table.Decisive grammar) {rule : RuleIndex} {symbols : List Symbol}
    (listed : symbols ∈ grammar.alternatives rule) (blank : .epsilon ∈ symbols) :
    symbols = [.epsilon] := by
  obtain ⟨found, known, inside⟩ := Grammar.mem_alternatives_iff.mp listed
  exact decisive.alone found (List.mem_of_getElem? known) symbols inside blank

namespace Table.Fits

variable {grammar : Grammar} {table : Table} {tokens : List Token}
  (fits : table.Fits grammar tokens) {config : Config} {frames : List Frame}
include fits

theorem sound : table.Sound grammar := fits.wellFormed.sound_table fits.built

/-! ### Actions of a run -/

theorem accepts_of_shift {target : SetIndex} {width : Nat}
    (represents : config.Represents grammar tokens frames)
    (chosen : Engine.choose? ⟨grammar, table⟩ config = some ⟨.shift target, width⟩)
    (behind : Engine.AcceptsBehind ⟨grammar, table⟩ tokens frames target (config.rest.drop width)) :
    Engine.Accepts ⟨grammar, table⟩ config := by
  obtain ⟨frame, next, same, -, step, shifted, left, -⟩ :=
    represents.step_shift fits.wellFormed fits.sound chosen
  exact .of_running step (behind next frame shifted same left)

/-- A run shifts a terminal that comes next. -/
theorem accepts_of_takes {symbol : Symbol} {target : SetIndex} {width : Nat}
    (represents : config.Represents grammar tokens frames)
    (edge : grammar.automaton.target? (topState frames) symbol = some target)
    (consumes : grammar.isTerminal symbol = true) (visible : symbol ≠ .epsilon)
    (takes : Takes grammar config.rest symbol width)
    (behind : Engine.AcceptsBehind ⟨grammar, table⟩ tokens frames target (config.rest.drop width)) :
    Engine.Accepts ⟨grammar, table⟩ config := by
  have differs : symbol ≠ .rule grammar.endRule := by
    rintro rfl
    exact fits.decisive.unused (fits.wellFormed.mem_used_of_target? edge)
  have present := fits.wellFormed.action?_of_target? fits.built consumes edge differs
  have chosen := represents.choose?_of_takes fits.wellFormed fits.sound fits.separates
    present visible takes
  exact fits.accepts_of_shift represents chosen behind

/-- A run reduces an alternative that lies on top, if what comes next follows its rule, or it ends
with a tree right there. -/
theorem accepts_of_reduce {pushed : List Frame} {rule : RuleIndex} {alternative : Nat}
    {target : SetIndex} {terminal : Symbol}
    (represents : config.Represents grammar tokens (pushed ++ frames))
    (starts : ⟨rule, alternative, 0⟩ ∈ grammar.automaton.items (topState frames))
    (edge : grammar.automaton.target? (topState frames) (.rule rule) = some target)
    (length : pushed.length = (grammar.alternative rule alternative).length)
    (along : grammar.automaton.reach? (topState frames) (grammar.alternative rule alternative) =
      some (topState (pushed ++ frames)))
    (isNext : grammar.isNext config.rest terminal = true)
    (follows : terminal ∈
      symbolsAt grammar.lookahead.follow (grammar.step (topState frames) (.rule rule)))
    (behind : Engine.AcceptsBehind ⟨grammar, table⟩ tokens frames target config.rest) :
    Engine.Accepts ⟨grammar, table⟩ config := by
  have lookahead := fits.wellFormed.mem_lookaheads_iff.mpr ⟨_, starts, along, follows⟩
  have differs : rule ≠ Grammar.startRule := by
    rintro rfl
    exact Nat.lt_irrefl 0 (fits.wellFormed.inRange_of_target? edge).1
  obtain ⟨visible, width, takes⟩ := fits.wellFormed.isNext_iff.mp isNext
  have chosen {action : Action}
      (present : table.action? (topState (pushed ++ frames)) terminal = some action) :
      Engine.choose? ⟨grammar, table⟩ config = some ⟨action, width⟩ :=
    represents.choose?_of_takes fits.wellFormed fits.sound fits.separates present visible takes
  -- The state may accept instead where the end follows the rule, which ends the run with a tree.
  rcases fits.wellFormed.action?_of_lookahead fits.built fits.decisive.resolved differs lookahead
    with reduces | accepts
  · obtain ⟨popped, below, _, next, same, count, -, -, -, goto, step, reduced, left, -⟩ :=
      represents.step_reduce fits.wellFormed fits.sound (chosen reduces)
    obtain ⟨-, rfl⟩ := List.append_inj same (length.trans count.symm)
    have state := Option.some.inj (goto.symm.trans edge)
    exact .of_running step (behind next _ reduced state left)
  · obtain ⟨frame, -, -, step, -⟩ :=
      represents.step_accept fits.wellFormed fits.sound (chosen accepts)
    exact .of_finished step

/-- A run shifts the empty literal and reduces it to its rule, if what comes next follows that. -/
theorem accepts_of_epsilon {rule : RuleIndex} {alternative : Nat} {target : SetIndex}
    {terminal : Symbol} (represents : config.Represents grammar tokens frames)
    (starts : ⟨rule, alternative, 0⟩ ∈ grammar.automaton.items (topState frames))
    (edge : grammar.automaton.target? (topState frames) (.rule rule) = some target)
    (blank : grammar.alternative rule alternative = [.epsilon])
    (isNext : grammar.isNext config.rest terminal = true)
    (follows : terminal ∈
      symbolsAt grammar.lookahead.follow (grammar.step (topState frames) (.rule rule)))
    (behind : Engine.AcceptsBehind ⟨grammar, table⟩ tokens frames target config.rest) :
    Engine.Accepts ⟨grammar, table⟩ config := by
  have reads := Grammar.WellFormed.reads_of_start starts
  rw [blank] at reads
  obtain ⟨middle, epsilonEdge, -⟩ := fits.wellFormed.reads_cons reads
  have present := fits.wellFormed.action?_of_target? fits.built rfl epsilonEdge
    (Symbol.rule_ne_epsilon _).symm
  have free := fits.decisive.free _ _ starts rfl blank terminal (Grammar.followAt_eq ▸ follows)
  have isKey := fits.wellFormed.isKey_of_mem_follow starts follows
  have chosen := represents.choose?_of_epsilon fits.wellFormed fits.sound fits.separates present
    isKey isNext free
  refine fits.accepts_of_shift represents chosen ?_
  intro next frame shifted same left
  rw [List.drop_zero] at left
  have onTop : next.Represents grammar tokens ([frame] ++ frames) := shifted
  refine fits.accepts_of_reduce onTop starts edge ?_ ?_ (left ▸ isNext) follows (left ▸ behind)
  · rw [blank]
    rfl
  · rw [blank, Automaton.reach?_singleton, epsilonEdge, ← same]
    rfl

/-! ### Trees that a run goes past -/

/-- What is taken before something else has text and no end. -/
theorem visible_of_taken (represents : config.Represents grammar tokens frames)
    {taken rest : List Token} {terminal : Symbol} (left : config.rest = taken ++ rest)
    (isNext : grammar.isNext rest terminal = true) :
    (∀ token ∈ taken, token.value ≠ "") ∧ ∀ token ∈ taken, token.isEnd = false := by
  obtain ⟨-, _, takes⟩ := fits.wellFormed.isNext_iff.mp isNext
  have given := represents.mem_of_mem_taken fits.separates left takes.ne_nil
  constructor
  · exact fun token present => fits.separates.visible token (given token present)
  · exact fun token present => fits.separates.unread token (given token present)

/-- What comes next behind the tree of a symbol follows the symbol in its alternative. -/
theorem exists_following (represents : config.Represents grammar tokens frames)
    {source : SetIndex} {rule : RuleIndex} {alternative : Nat} {read symbols : List Symbol}
    {symbol terminal : Symbol} {front back rest : List Token} {nodes : List Node}
    (later : grammar.ParsesAll symbols back nodes)
    (starts : ⟨rule, alternative, 0⟩ ∈ grammar.automaton.items source)
    (same : grammar.alternative rule alternative = read ++ symbol :: symbols)
    (along : grammar.automaton.reach? source read = some (topState frames))
    (left : config.rest = front ++ back ++ rest) (isNext : grammar.isNext rest terminal = true)
    (follows : terminal ∈ symbolsAt grammar.lookahead.follow (grammar.step source (.rule rule))) :
    ∃ opening, grammar.isNext (back ++ rest) opening = true ∧
      opening ∈ symbolsAt grammar.lookahead.follow (grammar.step (topState frames) symbol) := by
  have listed := fits.wellFormed.symbols_mem_alternatives starts
  rw [Item.symbols, same] at listed
  have differs : .rule grammar.endRule ∉ symbols := by
    intro occurs
    refine fits.decisive.unused (Grammar.mem_used_iff.mpr ⟨_, _, listed, ?_⟩)
    exact List.mem_append_right _ (List.mem_cons_of_mem _ occurs)
  obtain ⟨visible, unread⟩ := fits.visible_of_taken represents left isNext
  rw [List.forall_mem_append] at visible unread
  -- What comes next starts the symbols behind, or, if these vanish, comes behind the alternative.
  obtain ⟨opening, there, following⟩ := later.exists_isNext fits.wellFormed fits.decisive.unused
    differs visible.2 unread.2 isNext
  refine ⟨opening, there, fits.wellFormed.mem_follow_of_mem_alternative starts same along ?_⟩
  rcases following with begins | ⟨vanishes, rfl⟩
  · exact .inl begins
  · exact .inr ⟨vanishes, follows⟩

mutual

/-- A run goes past a tree of what may be read next, if what comes behind the tree follows that. -/
theorem accepts_of_parses {symbol : Symbol} {taken : List Token} {node : Node}
    (parses : grammar.Parses symbol taken node) {config : Config} {frames : List Frame}
    {target : SetIndex} {rest : List Token} {terminal : Symbol}
    (represents : config.Represents grammar tokens frames)
    (edge : grammar.automaton.target? (topState frames) symbol = some target)
    (visible : symbol ≠ .epsilon) (left : config.rest = taken ++ rest)
    (isNext : grammar.isNext rest terminal = true)
    (follows : terminal ∈
      symbolsAt grammar.lookahead.follow (grammar.step (topState frames) symbol))
    (behind : Engine.AcceptsBehind ⟨grammar, table⟩ tokens frames target rest) :
    Engine.Accepts ⟨grammar, table⟩ config := by
  have dropped : config.rest.drop taken.length = rest := by rw [left, List.drop_left]
  cases parses with
  | epsilon => exact absurd rfl visible
  | literal text nonempty joined =>
    obtain ⟨texts, unread⟩ := fits.visible_of_taken represents left isNext
    obtain ⟨-, takes⟩ := fits.wellFormed.takes_of_join text nonempty joined texts unread
    rw [← left] at takes
    exact fits.accepts_of_takes represents edge rfl visible takes (dropped.symm ▸ behind)
  | @token rule _ _ known _ notEnd =>
    have takes : Takes grammar config.rest (.rule rule) 1 := by
      rw [left]
      exact .token known notEnd
    have consumes := fits.wellFormed.isTerminal_of_classRule? known
    exact fits.accepts_of_takes represents edge consumes visible takes (dropped.symm ▸ behind)
  | inputEnd => exact absurd (fits.wellFormed.mem_used_of_target? edge) fits.decisive.unused
  | @branch rule symbols _ _ listed all =>
    obtain ⟨item, present, next⟩ := fits.wellFormed.target?_isSome_iff.mp ⟨target, edge⟩
    obtain ⟨alternative, starts, same⟩ :=
      Grammar.WellFormed.startingItem_of_next present next listed
    by_cases blank : .epsilon ∈ symbols
    · obtain rfl := fits.decisive.eq_of_epsilon_mem listed blank
      rw [all.eq_nil_of_epsilon fits.wellFormed, List.nil_append] at left
      exact fits.accepts_of_epsilon represents starts edge same (left.symm ▸ isNext) follows
        (left.symm ▸ behind)
    · have whole : grammar.alternative rule alternative = [] ++ symbols := same
      refine accepts_of_parsesAll all represents starts whole rfl blank left isNext follows ?_
      intro next pushed onTop length along left
      exact fits.accepts_of_reduce onTop starts edge (same.symm ▸ length) (same.symm ▸ along)
        (left.symm ▸ isNext) follows (left.symm ▸ behind)

/-- A run goes past the trees of the rest of an alternative, which is then on top. -/
theorem accepts_of_parsesAll {symbols : List Symbol} {taken : List Token} {nodes : List Node}
    (all : grammar.ParsesAll symbols taken nodes) {config : Config} {frames : List Frame}
    {source : SetIndex} {rule : RuleIndex} {alternative : Nat} {read : List Symbol}
    {rest : List Token} {terminal : Symbol}
    (represents : config.Represents grammar tokens frames)
    (starts : ⟨rule, alternative, 0⟩ ∈ grammar.automaton.items source)
    (same : grammar.alternative rule alternative = read ++ symbols)
    (along : grammar.automaton.reach? source read = some (topState frames))
    (visible : .epsilon ∉ symbols) (left : config.rest = taken ++ rest)
    (isNext : grammar.isNext rest terminal = true)
    (follows : terminal ∈ symbolsAt grammar.lookahead.follow (grammar.step source (.rule rule)))
    (behind : ∀ next pushed, next.Represents grammar tokens (pushed ++ frames) →
      pushed.length = symbols.length →
      grammar.automaton.reach? (topState frames) symbols = some (topState (pushed ++ frames)) →
      next.rest = rest → Engine.Accepts ⟨grammar, table⟩ next) :
    Engine.Accepts ⟨grammar, table⟩ config := by
  cases all with
  | nil => exact behind config [] represents rfl rfl left
  | @cons symbol symbols front back _ _ parses later =>
    obtain ⟨inVisible, others⟩ := not_or.mp (List.mem_cons.not.mp visible)
    obtain ⟨target, edge, -⟩ :=
      fits.wellFormed.reads_cons (fits.wellFormed.reads_of_reach? starts same along)
    obtain ⟨opening, there, following⟩ :=
      fits.exists_following represents later starts same along left isNext follows
    rw [List.append_assoc] at left
    refine accepts_of_parses parses represents edge (Ne.symm inVisible) left there following ?_
    rintro next frame shifted rfl left
    have onward : grammar.automaton.reach? source (read ++ [symbol]) =
        some (topState (frame :: frames)) := Automaton.reach?_concat along edge
    have whole : grammar.alternative rule alternative = (read ++ [symbol]) ++ symbols := by
      rw [same, List.append_assoc, List.singleton_append]
    refine accepts_of_parsesAll later shifted starts whole onward others left isNext follows ?_
    intro last pushed onTop length further left
    have stack : pushed ++ frame :: frames = (pushed ++ [frame]) ++ frames := by simp
    rw [stack] at onTop further
    refine behind last (pushed ++ [frame]) onTop ?_ ?_ left
    · simp [length]
    · rw [Automaton.reach?, edge]
      exact further

end

end Table.Fits

/-! ### Inputs with parse trees -/

/-- The end of the input follows the first declared rule in the first state. -/
theorem Grammar.WellFormed.endRule_mem_follow {grammar : Grammar}
    (wellFormed : grammar.WellFormed) : .rule grammar.endRule ∈
      symbolsAt grammar.lookahead.follow (grammar.step startSet (.rule 1)) := by
  have listed : [.rule 1] ∈ grammar.alternatives startRule := by
    rw [wellFormed.alternatives_startRule]
    exact List.mem_cons_self
  have chain : grammar.Chain 1 ([] ++ []) ([] ++ []) := .next .start listed
  refine wellFormed.mem_follow_of_chain chain rfl ?_
  exact .terminal wellFormed.isTerminal_endRule (Symbol.rule_ne_epsilon _)

/-- An input with a parse tree from the first declared rule is parsed by a table that leaves no
choice open, if the terminals of the alternatives can be told apart in it. -/
theorem Grammar.Loaded.yields_of_parses {grammar : Grammar} (loaded : grammar.Loaded)
    {table : Table} (built : grammar.table = .ok table) (decisive : table.Decisive grammar)
    {tokens : List Token} (separates : grammar.Separates tokens) {tree : Node}
    (parses : grammar.Parses (.rule 1) tokens tree) :
    ∃ derivation, Engine.Yields ⟨grammar, table⟩ tokens (.ok derivation) := by
  have wellFormed := loaded.wellFormed
  have fits : table.Fits grammar tokens := ⟨wellFormed, built, decisive, separates⟩
  have start := wellFormed.startItem_mem_items
  have next : Item.next? grammar ⟨startRule, 0, 0⟩ = some (.rule 1) := by
    rw [Item.next?, wellFormed.symbols_startRule]
    rfl
  obtain ⟨target, edge⟩ := wellFormed.target?_isSome_iff.mpr ⟨_, start, next⟩
  obtain ⟨last, split, ends⟩ := withEnd_eq_concat separates.unread
  have visible := Symbol.rule_ne_epsilon grammar.endRule
  have takes : Takes grammar [last] (.rule grammar.endRule) 0 := .inputEnd ends
  have isNext := wellFormed.isNext_iff.mpr ⟨visible, 0, takes⟩
  refine fits.accepts_of_parses parses (.start grammar tokens) edge (Symbol.rule_ne_epsilon 1)
    split isNext wellFormed.endRule_mem_follow ?_
  rintro config frame onTop rfl left
  have present := wellFormed.action?_endRule built (wellFormed.advance_mem_items edge start next)
  have chosen := onTop.choose?_of_takes wellFormed fits.sound separates present visible
    (left ▸ takes)
  obtain ⟨_, -, -, step, -⟩ := onTop.step_accept wellFormed fits.sound chosen
  exact .of_finished step

namespace Grammar

theorem decisive_sampleTable : sampleTable.Decisive sample where
  resolved := rfl
  alone := by decide
  unused := by decide +kernel
  free := by
    refine Automaton.forall_items ?_
    decide +kernel

/-- Letters, told apart by their texts. -/
theorem separates_sample : sample.Separates
    [⟨"a", lineBreakClass, 0, 1⟩, ⟨"b", lineBreakClass, 1, 2⟩] where
  visible := by decide
  unread := by decide
  unique := by
    intro place
    match place with
    | 0 => decide +kernel
    | 1 => decide +kernel
    | place + 2 =>
      intro left _ right _ isNext _
      obtain ⟨-, _, takes⟩ := sample_loaded.wellFormed.isNext_iff.mp isNext
      exact absurd List.drop_nil takes.ne_nil

/-- A word of a stem, which ends with nothing, and a letter. -/
theorem yields_sample : ∃ derivation, Engine.Yields ⟨sample, sampleTable⟩
    [⟨"a", lineBreakClass, 0, 1⟩, ⟨"b", lineBreakClass, 1, 2⟩] (.ok derivation) := by
  have nothing : sample.ParsesAll [.epsilon] [] [.epsilon] := parsesAll_singleton .epsilon
  have front : sample.Parses (.terminal 2) [⟨"a", lineBreakClass, 0, 1⟩] _ :=
    .literal (by decide) (List.cons_ne_nil _ _) rfl
  have back : sample.Parses (.terminal 1) [⟨"b", lineBreakClass, 1, 2⟩] _ :=
    .literal (by decide) (List.cons_ne_nil _ _) rfl
  have empty : sample.Parses (.rule 2) [] _ := .branch (by decide) nothing
  have stem : sample.Parses (.rule 2) [⟨"a", lineBreakClass, 0, 1⟩] _ :=
    .branch (by decide) (.cons front (parsesAll_singleton empty))
  have word : sample.Parses (.rule 1)
      [⟨"a", lineBreakClass, 0, 1⟩, ⟨"b", lineBreakClass, 1, 2⟩] _ :=
    .branch (by decide) (.cons stem (parsesAll_singleton back))
  exact sample_loaded.yields_of_parses table_sample decisive_sampleTable separates_sample word

end Grammar

end ShiftReduce
