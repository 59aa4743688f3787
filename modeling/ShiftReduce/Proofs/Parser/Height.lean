import Mathlib.Data.List.TakeWhile
import ShiftReduce.Proofs.Parser.Climbing

/-!
# The height of the stacks

Frames without tokens are those of symbols that come to nothing. Only so many of these may be read
one after the other, since what a production puts in front of a rule takes up some of the room, and
every other frame has a token of its own. So the stacks of a parse stay below a height that the
grammar and the number of tokens determine.

## Main definitions

* `Grammar.blankBound` — how many symbols may be read one after the other that come to nothing
* `Grammar.heightBound` — how many frames there may be over a number of tokens

## Main results

* `Table.Decisive.length_le_of_reach?` — few symbols that come to nothing are read behind others
* `Table.Decisive.length_frames_le` — there are not too many frames
-/

namespace ShiftReduce

namespace Grammar

/-- How many symbols that come to nothing may be read one after the other. -/
def blankBound (grammar : Grammar) : Nat :=
  grammar.used.length * (grammar.rules.length + 2)

/-- How many frames there may be over a number of tokens. -/
def heightBound (grammar : Grammar) (count : Nat) : Nat :=
  grammar.blankBound + (grammar.blankBound + 1) * count

variable {grammar : Grammar}

theorem length_le_length_used {rule : RuleIndex} {symbols : List Symbol}
    (listed : symbols ∈ grammar.alternatives rule) : symbols.length ≤ grammar.used.length := by
  obtain ⟨found, known, inside⟩ := mem_alternatives_iff.mp listed
  have part := List.sublist_flatten_of_mem inside
  have whole := List.sublist_flatten_of_mem
    (List.mem_map_of_mem (f := fun rule : Rule => rule.alternatives.flatten)
      (List.mem_of_getElem? known))
  exact (part.trans whole).length_le

mutual

/-- A symbol with a tree over no tokens comes to nothing, unless it is the end of the input. -/
theorem Parses.vanishes {symbol : Symbol} {tokens : List Token} {node : Node}
    (parses : grammar.Parses symbol tokens node) (empty : tokens = [])
    (unused : .rule grammar.endRule ∉ grammar.used) (inner : symbol ≠ .rule grammar.endRule) :
    grammar.Vanishes [symbol] := by
  cases parses with
  | epsilon => exact .epsilon .nil
  | literal _ nonempty _ => exact absurd empty nonempty
  | token _ _ _ => cases empty
  | inputEnd => exact absurd rfl inner
  | branch listed all =>
    refine .rule listed (all.vanishes empty unused fun isEnd => unused ?_) .nil
    exact mem_used_iff.mpr ⟨_, _, listed, isEnd⟩

theorem ParsesAll.vanishes {symbols : List Symbol} {tokens : List Token} {nodes : List Node}
    (all : grammar.ParsesAll symbols tokens nodes) (empty : tokens = [])
    (unused : .rule grammar.endRule ∉ grammar.used) (inner : .rule grammar.endRule ∉ symbols) :
    grammar.Vanishes symbols := by
  cases all with
  | nil => exact .nil
  | cons parses later =>
    obtain ⟨front, back⟩ := List.append_eq_nil_iff.mp empty
    obtain ⟨differs, others⟩ := not_or.mp (List.mem_cons.not.mp inner)
    exact (parses.vanishes front unused (Ne.symm differs)).append
      (later.vanishes back unused others)

end

end Grammar

/-! ### Symbols that come to nothing -/

namespace Table.Decisive

variable {grammar : Grammar} {table : Table} (decisive : table.Decisive grammar)
  (wellFormed : grammar.WellFormed) (built : grammar.table = .ok table)
  (productive : grammar.Productive)
include decisive wellFormed built productive

/-- What a production puts in front of a rule has its place in the room that it takes up. -/
theorem length_add_le_of_listed {rule next : RuleIndex} {before after left right : List Symbol}
    (chain : grammar.Chain rule before after)
    (listed : left ++ .rule next :: right ∈ grammar.alternatives rule)
    (vanishes : grammar.Vanishes left) :
    left.length + grammar.used.length * grammar.headroom next ≤
      grammar.used.length * grammar.headroom rule := by
  have leads := Grammar.Leads.single listed vanishes
  by_cases empty : left = []
  · rw [empty, List.length_nil, Nat.zero_add]
    exact Nat.mul_le_mul_left _ (leads.headroom_le wellFormed)
  · have less := decisive.headroom_lt wellFormed built productive chain leads empty
    have short := Grammar.length_le_length_used listed
    rw [List.length_append] at short
    have room := Nat.mul_le_mul_left grammar.used.length (Nat.succ_le_of_lt less)
    rw [Nat.mul_succ] at room
    omega

/-- The symbols that come to nothing in front of the rule of a chain leave it what is left of the
room. -/
theorem length_add_le_of_chain {rule : RuleIndex} {before after : List Symbol}
    (chain : grammar.Chain rule before after) {front symbols : List Symbol}
    (same : before = front ++ symbols) (vanishes : grammar.Vanishes symbols) :
    symbols.length + grammar.used.length * grammar.headroom rule ≤
      grammar.used.length * (grammar.rules.length + 1) := by
  induction chain generalizing front symbols with
  | start =>
    rw [(List.append_eq_nil_iff.mp same.symm).2, List.length_nil, Nat.zero_add]
    exact Nat.mul_le_mul_left _ (Nat.le_succ_of_le (Grammar.headroom_le wellFormed _))
  | @next rule next before after left right chain listed ih =>
    -- The symbols begin inside of the last production, or before it.
    rcases List.append_eq_append_iff.mp same with ⟨more, rfl, rfl⟩ | ⟨more, rfl, rfl⟩
    · have short := Grammar.length_le_length_used listed
      have room := Nat.mul_le_mul_left grammar.used.length (Grammar.headroom_le wellFormed next)
      simp only [List.length_append] at short
      rw [Nat.mul_succ]
      omega
    · obtain ⟨inner, last⟩ := Grammar.vanishes_append.mp vanishes
      have earlier := ih rfl inner
      have room :=
        decisive.length_add_le_of_listed wellFormed built productive chain listed last
      rw [List.length_append]
      omega

/-- Only so many symbols that come to nothing are read one after the other. -/
theorem length_le_of_reach? {front symbols : List Symbol} {set : SetIndex}
    (reached : grammar.automaton.reach? startSet (front ++ symbols) = some set)
    (vanishes : grammar.Vanishes symbols) : symbols.length ≤ grammar.blankBound := by
  obtain ⟨item, present⟩ := wellFormed.exists_mem_items_of_reach? reached
  obtain ⟨known, before, after, chain, same⟩ := wellFormed.valid_of_mem_items reached present
  have short := Grammar.length_le_length_used (Item.symbols_mem_alternatives known)
  have taken := List.length_take_le' item.dot (item.symbols grammar)
  rw [Grammar.blankBound, Nat.mul_succ]
  rcases List.append_eq_append_iff.mp same with ⟨more, rfl, rfl⟩ | ⟨more, rfl, inside⟩
  · obtain ⟨inner, -⟩ := Grammar.vanishes_append.mp vanishes
    have earlier := decisive.length_add_le_of_chain wellFormed built productive chain rfl inner
    rw [List.length_append]
    omega
  · rw [inside, List.length_append] at taken
    omega

end Table.Decisive

/-! ### Frames -/

section Frames

variable {grammar : Grammar} {frames : List Frame}

theorem Linked.mem_used (linked : Linked grammar.automaton frames)
    (wellFormed : grammar.WellFormed) : ∀ frame ∈ frames, frame.symbol ∈ grammar.used := by
  induction linked with
  | nil => exact fun _ present => absurd present List.not_mem_nil
  | cons edge _ ih =>
    rintro frame (_ | ⟨_, below⟩)
    · exact wellFormed.mem_used_of_target? edge
    · exact ih frame below

/-- The symbols of frames without tokens come to nothing. -/
theorem Linked.vanishes (linked : Linked grammar.automaton frames)
    (wellFormed : grammar.WellFormed) (unused : .rule grammar.endRule ∉ grammar.used)
    (parses : ∀ frame ∈ frames, grammar.Parses frame.symbol frame.tokens frame.node)
    {blanks : List Frame} (among : ∀ frame ∈ blanks, frame ∈ frames)
    (empty : ∀ frame ∈ blanks, frame.tokens = []) :
    grammar.Vanishes (blanks.map Frame.symbol).reverse := by
  have all := parsesAll_of_frames fun frame present => parses frame (among frame present)
  refine all.vanishes ?_ unused fun isEnd => ?_
  · simpa [List.flatMap_eq_nil_iff] using empty
  · obtain ⟨frame, present, same⟩ := List.mem_map.mp (List.mem_reverse.mp isEnd)
    exact unused (same ▸ linked.mem_used wellFormed frame (among frame present))

end Frames

namespace Table.Decisive

variable {grammar : Grammar} {table : Table} (decisive : table.Decisive grammar)
  (wellFormed : grammar.WellFormed) (built : grammar.table = .ok table)
  (productive : grammar.Productive) {frames : List Frame}
include decisive wellFormed built productive

/-- Few of the frames on top have no tokens. -/
theorem length_takeWhile_le (linked : Linked grammar.automaton frames)
    (parses : ∀ frame ∈ frames, grammar.Parses frame.symbol frame.tokens frame.node) :
    (frames.takeWhile fun frame => frame.tokens.isEmpty).length ≤ grammar.blankBound := by
  have reached := linked.reach?
  rw [← List.takeWhile_append_dropWhile (p := fun frame => frame.tokens.isEmpty) (l := frames),
    List.map_append, List.reverse_append] at reached
  have empty : ∀ frame ∈ frames.takeWhile fun frame => frame.tokens.isEmpty, frame.tokens = [] := by
    intro frame present
    have isEmpty : frame.tokens.isEmpty = true :=
      List.mem_takeWhile_imp (p := fun other : Frame => other.tokens.isEmpty) present
    exact List.isEmpty_iff.mp isEmpty
  have vanishes := linked.vanishes wellFormed decisive.unused parses
    (fun frame present => (List.takeWhile_sublist _).subset present) empty
  have bound := decisive.length_le_of_reach? wellFormed built productive reached vanishes
  rwa [List.length_reverse, List.length_map] at bound

/-- There are not more frames than the tokens that they take allow. -/
theorem length_frames_le (linked : Linked grammar.automaton frames)
    (parses : ∀ frame ∈ frames, grammar.Parses frame.symbol frame.tokens frame.node) :
    frames.length ≤ grammar.heightBound (frames.reverse.flatMap Frame.tokens).length := by
  -- Below the frames without tokens on top, each frame with tokens pays for those below it.
  have counted : frames.length ≤ (frames.takeWhile fun frame => frame.tokens.isEmpty).length +
      (grammar.blankBound + 1) * (frames.reverse.flatMap Frame.tokens).length := by
    induction linked with
    | nil => exact Nat.zero_le _
    | @cons frame below edge linked ih =>
      rw [List.forall_mem_cons] at parses
      have later := ih parses.2
      have few := decisive.length_takeWhile_le wellFormed built productive linked parses.2
      simp only [List.reverse_cons, List.flatMap_append, List.flatMap_singleton, List.length_append,
        List.length_cons, List.takeWhile_cons]
      rw [Nat.mul_add]
      by_cases empty : frame.tokens = []
      · simp only [empty, List.isEmpty_nil, if_true, List.length_cons, List.length_nil,
          Nat.mul_zero]
        omega
      · have one := List.length_pos_iff.mpr empty
        have pays := Nat.mul_le_mul_left (grammar.blankBound + 1) one
        simp only [List.isEmpty_eq_false_iff.mpr empty]
        omega
  have few := decisive.length_takeWhile_le wellFormed built productive linked parses
  rw [Grammar.heightBound]
  omega

end Table.Decisive

end ShiftReduce
