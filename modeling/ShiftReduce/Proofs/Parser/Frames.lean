import ShiftReduce.Proofs.Parser.Choice

/-!
# Frames

The stacks of a parse hold a frame for every edge that was followed from the first state: the state
it leads to, the symbol it reads, and the tree of that symbol with the tokens that it takes. What is
read of an item in the state on top lies on top of the stack.

## Main definitions

* `Frame`, `Linked` — frames, each behind an edge from the one below
* `Frame.joined` — the frame that a reduction puts in the place of others
* `Config.Represents` — a moment of a parse told by frames

## Main results

* `Linked.exists_popped` — the frames of what is read of an item
* `Config.Represents.step_shift`, `Config.Represents.step_reduce`,
  `Config.Represents.step_accept` — what the actions do to frames
* `Config.Represents.step_cases` — all that a step can do
-/

namespace ShiftReduce

/-- An edge that was followed: the state it leads to and the symbol it reads, with the tokens and
the tree of that symbol. -/
structure Frame where
  state : SetIndex
  symbol : Symbol
  tokens : List Token
  node : Node

/-- The state on top of some frames. -/
def topState : List Frame → SetIndex
  | [] => startSet
  | frame :: _ => frame.state

/-- Every frame stands behind an edge from the state of the frame below. -/
inductive Linked (automaton : Automaton) : List Frame → Prop
  | nil : Linked automaton []
  | cons {frame : Frame} {below : List Frame} :
      automaton.target? (topState below) frame.symbol = some frame.state →
      Linked automaton below → Linked automaton (frame :: below)

theorem Linked.of_append {automaton : Automaton} {popped below : List Frame}
    (linked : Linked automaton (popped ++ below)) : Linked automaton below := by
  induction popped with
  | nil => exact linked
  | cons frame rest ih =>
    cases linked with
    | cons _ later => exact ih later

section Grammar

variable {grammar : Grammar} {frames : List Frame}

/-- The symbols of the frames on top lead from the state below them to the one on top. -/
theorem Linked.reach?_append {popped below : List Frame}
    (linked : Linked grammar.automaton (popped ++ below)) :
    grammar.automaton.reach? (topState below) (popped.map Frame.symbol).reverse =
      some (topState (popped ++ below)) := by
  induction popped with
  | nil => rfl
  | cons frame popped ih =>
    cases linked with
    | cons edge linked =>
      rw [List.map_cons, List.reverse_cons]
      exact Automaton.reach?_concat (ih linked) edge

/-- The symbols of all frames lead to the state on top. -/
theorem Linked.reach? (linked : Linked grammar.automaton frames) :
    grammar.automaton.reach? startSet (frames.map Frame.symbol).reverse =
      some (topState frames) := by
  have whole : Linked grammar.automaton (frames ++ []) := by rwa [List.append_nil]
  have reached := whole.reach?_append
  rwa [List.append_nil] at reached

/-- There are no frames below the first state. -/
theorem Linked.eq_nil (linked : Linked grammar.automaton frames) (wellFormed : grammar.WellFormed)
    (isStart : topState frames = startSet) : frames = [] := by
  cases linked with
  | nil => rfl
  | cons edge _ =>
    rw [topState] at isStart
    rw [isStart] at edge
    exact absurd edge wellFormed.target?_ne_startSet

/-- Nothing is read of the items in the first state. -/
theorem Grammar.WellFormed.dot_eq_zero_of_mem_startSet (wellFormed : grammar.WellFormed)
    {item : Item} (present : item ∈ grammar.automaton.items startSet) : item.dot = 0 := by
  have reached : grammar.automaton.reach? startSet [] = some startSet := rfl
  obtain ⟨known, before, after, -, empty⟩ := wellFormed.valid_of_mem_items reached present
  have bound := (mem_items.mp known).2
  have nothingRead : (item.symbols grammar).take item.dot = [] :=
    (List.append_eq_nil_iff.mp empty.symm).2
  rw [List.take_eq_nil_iff] at nothingRead
  rcases nothingRead with unread | short
  · exact unread
  · rw [short] at bound
    exact Nat.le_zero.mp bound

/-- The frames of what is read of an item lie on top, and the item starts below them. -/
theorem Linked.exists_popped (linked : Linked grammar.automaton frames)
    (wellFormed : grammar.WellFormed) {rule : RuleIndex} {alternative dot : Nat}
    (present : ⟨rule, alternative, dot⟩ ∈ grammar.automaton.items (topState frames)) :
    ∃ popped below, frames = popped ++ below ∧ popped.length = dot ∧
      (popped.map Frame.symbol).reverse = (grammar.alternative rule alternative).take dot ∧
      ⟨rule, alternative, 0⟩ ∈ grammar.automaton.items (topState below) := by
  induction dot generalizing frames with
  | zero => exact ⟨[], frames, rfl, rfl, rfl, present⟩
  | succ dot ih =>
    cases linked with
    | nil => exact absurd (wellFormed.dot_eq_zero_of_mem_startSet present) (Nat.succ_ne_zero _)
    | @cons frame rest edge linked =>
      obtain ⟨⟨_, _, _⟩, inRest, next, same⟩ :=
        wellFormed.exists_mem_items_of_advance edge present (Nat.succ_ne_zero _)
      cases same
      obtain ⟨popped, below, rfl, length, symbols, starts⟩ := ih linked inRest
      refine ⟨frame :: popped, below, rfl, congrArg (· + 1) length, ?_, starts⟩
      rw [List.map_cons, List.reverse_cons, symbols]
      exact (Item.take_advance next).symm

/-- The frame that takes the place of those of an alternative of a rule. -/
def Frame.joined (grammar : Grammar) (rule : RuleIndex) (target : SetIndex) (popped : List Frame) :
    Frame where
  state := target
  symbol := .rule rule
  tokens := popped.reverse.flatMap Frame.tokens
  node := .branch (grammar.ruleName rule) (popped.map Frame.node).reverse

/-- The trees of frames are those of their symbols, over all their tokens. -/
theorem parsesAll_of_frames
    (parses : ∀ frame ∈ frames, grammar.Parses frame.symbol frame.tokens frame.node) :
    grammar.ParsesAll (frames.map Frame.symbol).reverse (frames.reverse.flatMap Frame.tokens)
      (frames.map Frame.node).reverse := by
  induction frames with
  | nil => exact .nil
  | cons frame rest ih =>
    have later := ih fun other present => parses other (List.mem_cons_of_mem _ present)
    have first := Grammar.parsesAll_singleton (parses frame List.mem_cons_self)
    simpa using later.append first

end Grammar

/-! ### The end of the input -/

/-- An end is added to tokens unless they have one as their last. -/
theorem withEnd_cases (tokens : List Token) : Config.withEnd tokens = tokens ∨
    ∃ last, last.isEnd = true ∧ Config.withEnd tokens = tokens ++ [last] := by
  unfold Config.withEnd
  split
  · rename_i empty
    rw [List.getLast?_eq_none_iff.mp empty]
    exact .inr ⟨_, rfl, rfl⟩
  · split
    · exact .inl rfl
    · exact .inr ⟨_, rfl, rfl⟩

/-- The tokens with an end have one as their last. -/
theorem exists_withEnd_eq (tokens : List Token) :
    ∃ front last, Config.withEnd tokens = front ++ [last] ∧ last.isEnd = true := by
  unfold Config.withEnd
  split
  · exact ⟨[], _, rfl, rfl⟩
  · rename_i last isLast
    split
    · rename_i ends
      exact ⟨tokens.dropLast, last, (List.dropLast_append_getLast? last isLast).symm, ends⟩
    · exact ⟨tokens, _, rfl, rfl⟩

/-- Tokens without an end get one behind them. -/
theorem withEnd_eq_concat {tokens : List Token} (unread : ∀ token ∈ tokens, token.isEnd = false) :
    ∃ last, Config.withEnd tokens = tokens ++ [last] ∧ last.isEnd = true := by
  unfold Config.withEnd
  split
  · rename_i empty
    rw [List.getLast?_eq_none_iff.mp empty]
    exact ⟨_, rfl, rfl⟩
  · rename_i last isLast
    rw [unread last (List.mem_of_getLast? isLast)]
    exact ⟨_, rfl, rfl⟩

/-- Adding an end leaves the tokens before the first end as they are. -/
theorem takeWhile_withEnd (tokens : List Token) :
    (Config.withEnd tokens).takeWhile (fun token => !token.isEnd) =
      tokens.takeWhile (fun token => !token.isEnd) := by
  unfold Config.withEnd
  split
  · rename_i empty
    rw [List.getLast?_eq_none_iff.mp empty]
    rfl
  · split
    · rfl
    · rw [List.takeWhile_append]
      split
      · rename_i all
        rw [(List.takeWhile_sublist _).eq_of_length all]
        exact List.append_nil _
      · rfl

/-! ### Moments of a parse -/

/-- The stacks of a moment are those of linked frames, whose trees parse the tokens before the
current place. These and the tokens that are left make up the input with its end. -/
structure Config.Represents (grammar : Grammar) (tokens : List Token) (config : Config)
    (frames : List Frame) : Prop where
  states : config.states = frames.map Frame.state ++ [startSet]
  nodes : config.nodes = frames.map Frame.node
  linked : Linked grammar.automaton frames
  parses : ∀ frame ∈ frames, grammar.Parses frame.symbol frame.tokens frame.node
  before : config.before.reverse = frames.reverse.flatMap Frame.tokens
  split : config.before.reverse ++ config.rest = Config.withEnd tokens
  unread : ∀ token ∈ config.before, token.isEnd = false

namespace Config.Represents

variable {grammar : Grammar} {table : Table} {tokens : List Token} {config : Config}
  {frames : List Frame}

theorem start (grammar : Grammar) (tokens : List Token) :
    Represents grammar tokens (.start tokens) [] where
  states := rfl
  nodes := rfl
  linked := .nil
  parses := fun _ present => absurd present List.not_mem_nil
  before := rfl
  split := rfl
  unread := fun _ present => absurd present List.not_mem_nil

theorem top_eq (represents : config.Represents grammar tokens frames) :
    config.top = topState frames := by
  rw [Config.top, represents.states]
  cases frames <;> rfl

/-- The end of the input is never passed. -/
theorem rest_ne_nil (represents : config.Represents grammar tokens frames) : config.rest ≠ [] := by
  intro empty
  obtain ⟨front, last, same, ends⟩ := exists_withEnd_eq tokens
  have split := represents.split
  rw [empty, List.append_nil, same] at split
  have present : last ∈ config.before := by
    rw [← List.mem_reverse, split]
    exact List.mem_concat_self
  rw [represents.unread last present] at ends
  cases ends

/-- The tokens before the first end are those before the current place and those that are left
before an end. -/
theorem takeWhile_split (represents : config.Represents grammar tokens frames) :
    tokens.takeWhile (fun token => !token.isEnd) =
      config.before.reverse ++ config.rest.takeWhile fun token => !token.isEnd := by
  have unread : ∀ other ∈ config.before.reverse, (!other.isEnd) = true := by
    intro other present
    rw [represents.unread other (List.mem_reverse.mp present)]
    rfl
  rw [← takeWhile_withEnd, ← represents.split, List.takeWhile_append_of_pos unread]

/-- At an end, the tokens before the current place are those before the first end. -/
theorem takeWhile_eq (represents : config.Represents grammar tokens frames) {token : Token}
    {later : List Token} (rest : config.rest = token :: later) (ends : token.isEnd = true) :
    tokens.takeWhile (fun token => !token.isEnd) = frames.reverse.flatMap Frame.tokens := by
  rw [represents.takeWhile_split, rest, List.takeWhile_cons_of_neg (by simp [ends]),
    List.append_nil, represents.before]

/-- The frames below the top ones have the stacks without their tops. -/
theorem top_drop (represents : config.Represents grammar tokens frames)
    {popped below : List Frame} (same : frames = popped ++ below) :
    config.states.drop popped.length = below.map Frame.state ++ [startSet] ∧
      config.nodes.drop popped.length = below.map Frame.node ∧
      config.nodes.take popped.length = popped.map Frame.node := by
  rw [represents.states, represents.nodes, same, List.map_append, List.map_append,
    List.append_assoc]
  refine ⟨?_, ?_, ?_⟩
  · exact List.drop_left' (List.length_map _)
  · exact List.drop_left' (List.length_map _)
  · exact List.take_left' (List.length_map _)

/-! ### Actions -/

/-- What is chosen is an action of the state on top, under what the tokens that are left match. -/
theorem exists_takes (represents : config.Represents grammar tokens frames)
    (wellFormed : grammar.WellFormed) (sound : table.Sound grammar) {choice : Choice}
    (chosen : Engine.choose? ⟨grammar, table⟩ config = some choice) :
    ∃ symbol, table.action? (topState frames) symbol = some choice.action ∧
      Takes grammar config.rest symbol choice.width := by
  rw [← represents.top_eq]
  exact sound.exists_takes wellFormed chosen

/-- A shift puts the edge that it follows on top, with the tokens that it takes. -/
theorem step_shift (represents : config.Represents grammar tokens frames)
    (wellFormed : grammar.WellFormed) (sound : table.Sound grammar) {target : SetIndex}
    {width : Nat} (chosen : Engine.choose? ⟨grammar, table⟩ config = some ⟨.shift target, width⟩) :
    ∃ frame next, frame.state = target ∧
      grammar.automaton.target? (topState frames) frame.symbol = some target ∧
      Engine.step ⟨grammar, table⟩ config = .running next ∧
      next.Represents grammar tokens (frame :: frames) ∧
      next.rest = config.rest.drop width ∧ width ≤ config.rest.length ∧
      grammar.isTerminal frame.symbol = true ∧ next.reductions = config.reductions := by
  obtain ⟨symbol, present, takes⟩ := represents.exists_takes wellFormed sound chosen
  obtain ⟨-, edge⟩ := sound.shift present
  obtain ⟨bound, unread⟩ := takes.le_length
  have inRange := wellFormed.inRange_of_target? edge
  refine ⟨⟨target, symbol, config.rest.take width,
    Engine.leaf ⟨grammar, table⟩ (config.rest.take width)⟩,
    Engine.shift ⟨grammar, table⟩ config target width, rfl, edge, ?_, ?_, rfl, bound,
    takes.isTerminal wellFormed, rfl⟩
  · rw [Engine.step, chosen]
  · refine ⟨?_, ?_, .cons edge represents.linked, ?_, ?_, ?_, ?_⟩
    · exact congrArg (target :: ·) represents.states
    · exact congrArg (_ :: ·) represents.nodes
    · rintro frame (_ | ⟨_, below⟩)
      · exact wellFormed.parses_of_takes inRange takes
      · exact represents.parses frame below
    · simp [Engine.shift, represents.before]
    · simp [Engine.shift, ← represents.split]
    · intro token read
      obtain now | earlier := List.mem_append.mp read
      · exact unread token (List.mem_reverse.mp now)
      · exact represents.unread token earlier

/-- Frames of an alternative give way to a frame of its rule. -/
theorem reduced {popped below : List Frame} {rule : RuleIndex} {alternative : Nat}
    {target : SetIndex} (represents : config.Represents grammar tokens (popped ++ below))
    (listed : grammar.alternative rule alternative ∈ grammar.alternatives rule)
    (symbols : (popped.map Frame.symbol).reverse = grammar.alternative rule alternative)
    (edge : grammar.automaton.target? (topState below) (.rule rule) = some target) :
    Represents grammar tokens
      { config with
        states := target :: (below.map Frame.state ++ [startSet])
        nodes := (Frame.joined grammar rule target popped).node :: below.map Frame.node
        reductions := ⟨rule, alternative⟩ :: config.reductions }
      (Frame.joined grammar rule target popped :: below) where
  states := rfl
  nodes := rfl
  linked := .cons edge represents.linked.of_append
  parses := by
    rintro frame (_ | ⟨_, inBelow⟩)
    · have all := parsesAll_of_frames fun frame inPopped =>
        represents.parses frame (List.mem_append_left below inPopped)
      rw [symbols] at all
      exact .branch listed all
    · exact represents.parses frame (List.mem_append_right popped inBelow)
  before := by
    rw [represents.before]
    simp [Frame.joined]
  split := represents.split
  unread := represents.unread

/-- A reduction takes the frames of its alternative off the top and puts one for its rule in their
place. -/
theorem step_reduce (represents : config.Represents grammar tokens frames)
    (wellFormed : grammar.WellFormed) (sound : table.Sound grammar) {rule : RuleIndex}
    {alternative width : Nat}
    (chosen : Engine.choose? ⟨grammar, table⟩ config = some ⟨.reduce rule alternative, width⟩) :
    ∃ popped below target next, frames = popped ++ below ∧
      popped.length = (grammar.alternative rule alternative).length ∧
      (popped.map Frame.symbol).reverse = grammar.alternative rule alternative ∧
      ⟨rule, alternative, 0⟩ ∈ grammar.automaton.items (topState below) ∧
      table.goto? (topState below) rule = some target ∧
      grammar.automaton.target? (topState below) (.rule rule) = some target ∧
      Engine.step ⟨grammar, table⟩ config = .running next ∧
      next.Represents grammar tokens (Frame.joined grammar rule target popped :: below) ∧
      next.rest = config.rest ∧ next.reductions = ⟨rule, alternative⟩ :: config.reductions := by
  obtain ⟨symbol, present, -⟩ := represents.exists_takes wellFormed sound chosen
  obtain ⟨differs, lookahead⟩ := sound.reduce present
  have complete := wellFormed.mem_items_of_mem_lookaheads lookahead
  obtain ⟨popped, below, rfl, length, symbols, starts⟩ :=
    represents.linked.exists_popped wellFormed complete
  rw [List.take_length] at symbols
  obtain ⟨target, edge⟩ := wellFormed.exists_target?_of_start starts differs
  have listed : grammar.alternative rule alternative ∈ grammar.alternatives rule :=
    wellFormed.symbols_mem_alternatives complete
  have goto := sound.goto?_of_target? wellFormed listed edge
  refine ⟨popped, below, target, _, rfl, length, symbols, starts, goto, edge, ?_,
    represents.reduced listed symbols edge, rfl, rfl⟩
  obtain ⟨states, nodes, children⟩ := represents.top_drop rfl
  have enough : ¬ config.nodes.length < popped.length := by
    rw [represents.nodes, List.length_map, List.length_append]
    omega
  have top : (below.map Frame.state ++ [startSet]).head?.getD startSet = topState below := by
    cases below <;> rfl
  simp only [Engine.step, chosen, Engine.reduce, ← length, if_neg enough, states, nodes, children,
    Config.top, top, goto]
  rfl

/-- Only the state behind the first declared rule accepts, and with one tree. -/
theorem step_accept (represents : config.Represents grammar tokens frames)
    (wellFormed : grammar.WellFormed) (sound : table.Sound grammar) {width : Nat}
    (chosen : Engine.choose? ⟨grammar, table⟩ config = some ⟨.accept, width⟩) :
    ∃ frame, frames = [frame] ∧ frame.symbol = .rule 1 ∧
      Engine.step ⟨grammar, table⟩ config =
        .finished (.ok ⟨frame.node, config.reductions.reverse⟩) ∧
      tokens.takeWhile (fun token => !token.isEnd) = frame.tokens := by
  obtain ⟨symbol, present, takes⟩ := represents.exists_takes wellFormed sound chosen
  obtain ⟨rfl, complete⟩ := sound.accept present
  obtain ⟨popped, below, rfl, length, symbols, starts⟩ :=
    represents.linked.exists_popped wellFormed complete
  obtain ⟨frame, rfl⟩ := List.length_eq_one_iff.mp length
  rw [wellFormed.alternative_startRule] at symbols
  have isFirst : frame.symbol = .rule 1 := List.singleton_inj.mp symbols
  obtain rfl := represents.linked.of_append.eq_nil wellFormed
    (wellFormed.eq_startSet_of_startItem starts)
  refine ⟨frame, rfl, isFirst, ?_, ?_⟩
  · simp only [Engine.step, chosen, Engine.accept, represents.nodes]
    rfl
  · obtain ⟨token, later, rest, ends⟩ := takes.isEnd_of_endRule wellFormed
    simpa using represents.takeWhile_eq rest ends

/-- A step finds no action for what comes next, goes on with other frames, or ends with the tree of
the only frame. -/
theorem step_cases (represents : config.Represents grammar tokens frames)
    (wellFormed : grammar.WellFormed) (sound : table.Sound grammar) :
    (Engine.step ⟨grammar, table⟩ config = .finished (.error (Engine.unexpected config))) ∨
      (∃ next others, Engine.step ⟨grammar, table⟩ config = .running next ∧
        next.Represents grammar tokens others) ∨
      ∃ frame, frames = [frame] ∧ frame.symbol = .rule 1 ∧
        Engine.step ⟨grammar, table⟩ config =
          .finished (.ok ⟨frame.node, config.reductions.reverse⟩) ∧
        tokens.takeWhile (fun token => !token.isEnd) = frame.tokens := by
  rcases chosen : Engine.choose? ⟨grammar, table⟩ config with
    _ | ⟨target | ⟨rule, alternative⟩ | _, width⟩
  · left
    rw [Engine.step, chosen]
  · obtain ⟨frame, next, -, -, step, shifted, -⟩ :=
      represents.step_shift wellFormed sound chosen
    exact .inr (.inl ⟨next, _, step, shifted⟩)
  · obtain ⟨_, _, _, next, -, -, -, -, -, -, step, reduced, -⟩ :=
      represents.step_reduce wellFormed sound chosen
    exact .inr (.inl ⟨next, _, step, reduced⟩)
  · exact .inr (.inr (represents.step_accept wellFormed sound chosen))

end Config.Represents

end ShiftReduce
