import ShiftReduce.Proofs.Lookahead.First

/-!
# The equations of what may follow

The paths of a path grammar force terminals into the sets of their edges: what the edges behind an
edge may start with, as far as those in between may be left out, and what follows the path where
all behind it may. The passes end in sets that obey these equations. They only ever add what the
equations force, so these sets are the least that do.

## Main definitions

* `Within` — sets of edges that hold no more than a family of sets does
* `PathGrammar.FollowClosed` — families of sets that obey the equations

## Main results

* `mem_firstOf_iff_split`, `nullable_firstOf_iff_forall` — what is found along edges, told by the
  edges that are left out
* `PathGrammar.followClosed_of_fixed` — sets that no pass changes obey the equations
* `PathGrammar.FollowClosed.within_settle` — passes stay below all sets that obey the equations
-/

namespace ShiftReduce

/-! ### Along edges -/

section Along

variable {first follow : List SymbolSet} {head edge : EdgeIndex} {edges left : List EdgeIndex}
  {symbol : Symbol}

theorem nullable_firstOf_iff_forall :
    (firstOf first edges).2 = true ↔ ∀ index ∈ edges, Symbol.epsilon ∈ symbolsAt first index := by
  induction edges with
  | nil => simp [firstOf]
  | cons edge rest ih => rw [nullable_firstOf_cons, ih, List.forall_mem_cons]

/-- Along edges is found what one of them may start with, if those in front of it may be left
out. -/
theorem mem_firstOf_iff_split : symbol ∈ (firstOf first edges).1 ↔
    ∃ skipped later right, edges = skipped ++ later :: right ∧
      (∀ index ∈ skipped, Symbol.epsilon ∈ symbolsAt first index) ∧
      symbol ∈ symbolsAt first later ∧ symbol ≠ .epsilon := by
  induction edges with
  | nil => simp [firstOf]
  | cons edge rest ih =>
    rw [mem_firstOf_cons, ih]
    constructor
    · rintro (⟨here, visible⟩ | ⟨blank, skipped, later, right, rfl, blanks, here, visible⟩)
      · exact ⟨[], edge, rest, rfl, by simp, here, visible⟩
      · exact ⟨edge :: skipped, later, right, rfl, List.forall_mem_cons.mpr ⟨blank, blanks⟩, here,
          visible⟩
    · rintro ⟨skipped, later, right, same, blanks, here, visible⟩
      cases skipped with
      | nil =>
        obtain ⟨rfl, rfl⟩ := List.cons.inj same
        exact .inl ⟨here, visible⟩
      | cons other skipped =>
        obtain ⟨rfl, rfl⟩ := List.cons.inj same
        obtain ⟨blank, blanks⟩ := List.forall_mem_cons.mp blanks
        exact .inr ⟨blank, skipped, later, right, rfl, blanks, here, visible⟩

/-- What a pass adds to the set of an edge of a path, from the edges behind it. -/
def foundFollow (first : List SymbolSet) (head : EdgeIndex) (edges : List EdgeIndex)
    (follow : List SymbolSet) : SymbolSet :=
  if (firstOf first edges).2 then
    SymbolSet.union (firstOf first edges).1 (symbolsAt follow head)
  else (firstOf first edges).1

theorem mem_foundFollow : symbol ∈ foundFollow first head edges follow ↔
    symbol ∈ (firstOf first edges).1 ∨
      ((firstOf first edges).2 = true ∧ symbol ∈ symbolsAt follow head) := by
  unfold foundFollow
  split <;> simp_all

theorem followAlong_cons : PathGrammar.followAlong first head follow (edge :: edges) =
    PathGrammar.followAlong first head
      (extendAt follow edge (foundFollow first head edges follow)) edges := rfl

theorem mem_followAlong_of_mem {other : EdgeIndex} (present : symbol ∈ symbolsAt follow other) :
    symbol ∈ symbolsAt (PathGrammar.followAlong first head follow edges) other := by
  induction edges generalizing follow with
  | nil => exact present
  | cons edge rest ih => exact ih (mem_extendAt_of_mem present)

/-! ### Steps that enlarge -/

section Enlarges

variable {rules terminals count : Nat}
  (inRange : ∀ edge, ∀ symbol ∈ symbolsAt first edge, symbol.InRange rules terminals)
include inRange

theorem enlarges_extendAt : Enlarges sizeOfSets (Bounded rules terminals count) fun follow =>
    extendAt follow edge (foundFollow first head edges follow) where
  kept := by
    intro follow bounded
    refine bounded.extendAt fun symbol found => ?_
    rcases mem_foundFollow.mp found with starts | ⟨-, behind⟩
    · obtain ⟨_, inSet⟩ := exists_mem_of_mem_firstOf starts
      exact inRange _ _ inSet
    · exact bounded.symbolsAt_inRange behind
  grows := fun bounded => Bounded.extendAt_grows bounded.ascending

theorem enlarges_followAlong : Enlarges sizeOfSets (Bounded rules terminals count) fun follow =>
    PathGrammar.followAlong first head follow edges := by
  induction edges with
  | nil => exact .id
  | cons edge rest ih =>
    simp only [followAlong_cons]
    exact ih.comp (enlarges_extendAt inRange)

theorem enlarges_followPass (paths : PathGrammar) :
    Enlarges sizeOfSets (Bounded rules terminals count) (paths.followPass first) :=
  Enlarges.foldl fun _ _ => enlarges_followAlong inRange

/-- Where the steps along a path change nothing, neither the first of them does nor the others. -/
theorem fixed_of_followAlong_cons (bounded : Bounded rules terminals count follow)
    (fixed : PathGrammar.followAlong first head follow (edge :: edges) = follow) :
    extendAt follow edge (foundFollow first head edges follow) = follow ∧
      PathGrammar.followAlong first head follow edges = follow := by
  rw [followAlong_cons] at fixed
  have same :=
    (enlarges_followAlong inRange).fixed_of_comp (enlarges_extendAt inRange) bounded fixed
  rw [same] at fixed
  exact ⟨same, fixed⟩

/-- Where the steps along a path change nothing, none of them does. -/
theorem extendAt_eq_of_followAlong (bounded : Bounded rules terminals count follow)
    (fixed : PathGrammar.followAlong first head follow (left ++ edge :: edges) = follow) :
    extendAt follow edge (foundFollow first head edges follow) = follow := by
  induction left with
  | nil => exact (fixed_of_followAlong_cons inRange bounded fixed).1
  | cons other left ih => exact ih (fixed_of_followAlong_cons inRange bounded fixed).2

end Enlarges

end Along

/-! ### Sets within a family -/

/-- The sets of edges hold no more than a family of sets does. -/
def Within (sets : List SymbolSet) (family : EdgeIndex → Symbol → Prop) : Prop :=
  ∀ edge, ∀ symbol ∈ symbolsAt sets edge, family edge symbol

theorem Within.extendAt {sets : List SymbolSet} {family : EdgeIndex → Symbol → Prop}
    {edge : EdgeIndex} {symbols : SymbolSet} (within : Within sets family)
    (added : ∀ symbol ∈ symbols, family edge symbol) :
    Within (extendAt sets edge symbols) family := by
  intro other symbol present
  rcases mem_or_of_mem_extendAt present with old | ⟨rfl, new⟩
  · exact within other symbol old
  · exact added symbol new

theorem symbolsAt_empty {edges : List Edge} {edge : EdgeIndex} {symbol : Symbol} :
    symbol ∉ symbolsAt (edges.map fun _ => []) edge := by
  rw [symbolsAt, List.getElem?_map]
  cases edges[edge]? <;> simp

theorem bounded_empty {rules terminals : Nat} (edges : List Edge) :
    Bounded rules terminals edges.length (edges.map fun _ => []) where
  length_eq := List.length_map _
  ascending := by
    intro set present
    obtain ⟨_, -, rfl⟩ := List.mem_map.mp present
    exact .nil
  inRange := by
    intro set present symbol inSet
    obtain ⟨_, -, rfl⟩ := List.mem_map.mp present
    cases inSet

/-! ### Equations -/

namespace PathGrammar

variable {paths : PathGrammar} {grammar : Grammar} {first follow : List SymbolSet}
  {family : EdgeIndex → Symbol → Prop}

/-- A family of sets over edges obeys the equations of what may follow. The end of the input follows
the first edge. An edge of a path is followed by what a later edge may start with, if those in
between may be left out, and by what follows the path if all later edges may. -/
structure FollowClosed (paths : PathGrammar) (grammar : Grammar) (first : List SymbolSet)
    (family : EdgeIndex → Symbol → Prop) : Prop where
  start : family 0 (.rule grammar.endRule)
  ahead : ∀ {use left edge skipped later right symbol}, use ∈ paths.rules →
    use.body = left ++ edge :: (skipped ++ later :: right) →
    (∀ index ∈ skipped, Symbol.epsilon ∈ symbolsAt first index) →
    symbol ∈ symbolsAt first later → symbol ≠ .epsilon → family edge symbol
  behind : ∀ {use left edge right symbol}, use ∈ paths.rules →
    use.body = left ++ edge :: right → (∀ index ∈ right, Symbol.epsilon ∈ symbolsAt first index) →
    family use.head symbol → family edge symbol

/-- What is found behind an edge of a path is in its set. -/
theorem FollowClosed.of_found (closed : paths.FollowClosed grammar first family) {use : PathRule}
    (listed : use ∈ paths.rules) {left right : List EdgeIndex} {edge : EdgeIndex} {symbol : Symbol}
    (split : use.body = left ++ edge :: right)
    (found : symbol ∈ (firstOf first right).1 ∨
      ((firstOf first right).2 = true ∧ family use.head symbol)) : family edge symbol := by
  rcases found with starts | ⟨nullable, follows⟩
  · obtain ⟨skipped, later, rest, rfl, blanks, here, visible⟩ := mem_firstOf_iff_split.mp starts
    exact closed.ahead listed split blanks here visible
  · exact closed.behind listed split (nullable_firstOf_iff_forall.mp nullable) follows

/-! ### Passes stay below -/

/-- The steps along a path stay within every family that obeys the equations. -/
theorem FollowClosed.within_followAlong (closed : paths.FollowClosed grammar first family)
    {use : PathRule} (listed : use ∈ paths.rules) {left right : List EdgeIndex}
    (split : use.body = left ++ right) (within : Within follow family) :
    Within (followAlong first use.head follow right) family := by
  -- Along the path from its start. What a step adds is found in sets that the steps before it kept
  -- within the family, so the equations ask for it.
  induction right generalizing left follow with
  | nil => exact within
  | cons edge rest ih =>
    rw [followAlong_cons]
    refine ih (by rw [split, List.append_cons]) (within.extendAt fun symbol found => ?_)
    refine closed.of_found listed split ((mem_foundFollow.mp found).imp_right ?_)
    exact And.imp_right (within _ _)

theorem FollowClosed.within_followPass (closed : paths.FollowClosed grammar first family)
    (within : Within follow family) : Within (paths.followPass first follow) family := by
  refine List.foldlRecOn (motive := fun sets => Within sets family) _ _ within ?_
  intro sets within use listed
  exact closed.within_followAlong listed (List.nil_append _).symm within

theorem FollowClosed.within_initialFollow (closed : paths.FollowClosed grammar first family) :
    Within (paths.initialFollow grammar) family := by
  have empty : Within (paths.edges.map fun _ => []) family :=
    fun _ _ present => absurd present symbolsAt_empty
  refine empty.extendAt fun symbol present => ?_
  rw [List.mem_singleton.mp present]
  exact closed.start

/-- Passes stay within every family that obeys the equations, however many there are. -/
theorem FollowClosed.within_settle (closed : paths.FollowClosed grammar first family)
    (fuel : Nat) :
    Within (settle (paths.followPass first) fuel (paths.initialFollow grammar)).1 family :=
  settle_induction (motive := fun sets => Within sets family)
    (fun _ => closed.within_followPass) closed.within_initialFollow

/-! ### Passes come to an end -/

theorem mem_followPass_of_mem {edge : EdgeIndex} {symbol : Symbol}
    (present : symbol ∈ symbolsAt follow edge) :
    symbol ∈ symbolsAt (paths.followPass first follow) edge := by
  refine List.foldlRecOn (motive := fun sets => symbol ∈ symbolsAt sets edge) _ _ present ?_
  exact fun sets present use _ => mem_followAlong_of_mem present

/-- The end of the input follows the first edge after any number of passes. -/
theorem endRule_mem_settle (nonempty : 0 < paths.edges.length) (fuel : Nat) :
    .rule grammar.endRule ∈ symbolsAt
      (settle (paths.followPass first) fuel (paths.initialFollow grammar)).1 0 := by
  refine settle_induction (motive := fun sets => .rule grammar.endRule ∈ symbolsAt sets 0)
    (fun _ => mem_followPass_of_mem) ?_
  exact mem_extendAt_self (by rwa [List.length_map]) List.mem_cons_self

/-- Sets that a pass does not change obey the equations. -/
theorem followClosed_of_fixed {rules terminals : Nat}
    (inRange : ∀ edge, ∀ symbol ∈ symbolsAt first edge, symbol.InRange rules terminals)
    (bounded : Bounded rules terminals paths.edges.length follow)
    (inside : ∀ use ∈ paths.rules, ∀ edge ∈ use.body, edge < paths.edges.length)
    (start : .rule grammar.endRule ∈ symbolsAt follow 0)
    (fixed : paths.followPass first follow = follow) :
    paths.FollowClosed grammar first fun edge symbol => symbol ∈ symbolsAt follow edge := by
  have found {use : PathRule} (listed : use ∈ paths.rules) {left right : List EdgeIndex}
      {edge : EdgeIndex} {symbol : Symbol} (split : use.body = left ++ edge :: right)
      (found : symbol ∈ foundFollow first use.head right follow) :
      symbol ∈ symbolsAt follow edge := by
    have along := Enlarges.foldl_fixed (fun _ _ => enlarges_followAlong inRange) bounded fixed use
      listed
    rw [split] at along
    rw [← extendAt_eq_of_followAlong inRange bounded along]
    refine mem_extendAt_self ?_ found
    rw [bounded.length_eq]
    exact inside use listed edge (by simp [split])
  refine ⟨start, ?_, ?_⟩
  · intro use left edge skipped later right symbol listed split blanks here visible
    refine found listed split (mem_foundFollow.mpr (.inl (mem_firstOf_iff_split.mpr ?_)))
    exact ⟨skipped, later, right, rfl, blanks, here, visible⟩
  · intro use left edge right symbol listed split blanks follows
    refine found listed split (mem_foundFollow.mpr (.inr ⟨?_, follows⟩))
    exact nullable_firstOf_iff_forall.mpr blanks

end PathGrammar

end ShiftReduce
