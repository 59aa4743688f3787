import ShiftReduce.Automaton.Item

/-!
# The automaton of a grammar

The states of the automaton are sets of items that are closed, and its edges read symbols. A state
is known by its kernel: the items that an edge moved their dot in. The states are numbered in the
order they are found from the first one, with the edges of each taken in the order of their symbols.
The empty literal is a symbol like any other here.

## Main definitions

* `kernelAfter` — the kernel that an edge leads to
* `discover` — the kernels of all states, in order
* `ItemSet`, `Automaton` — a state with its edges, and all states
* `Grammar.automaton` — the automaton of a grammar
-/

namespace ShiftReduce

/-- The items that identify a state, in the order of the grammar's items. -/
abbrev Kernel := List Item

/-- A place in the states of an automaton. -/
abbrev SetIndex := Nat

/-- The state that every parse starts in. -/
def startSet : SetIndex := 0

/-! ### Kernels -/

/-- The kernel of the state that every parse starts in. -/
def startKernel : Kernel := [⟨Grammar.startRule, 0, 0⟩]

/-- The kernel after reading a symbol: the items that have it behind their dots, advanced. They are
picked from all items, so that equal sets of items are equal kernels. -/
def kernelAfter (grammar : Grammar) (items : List Item) (symbol : Symbol) : Kernel :=
  let moved := (items.filter fun item => item.next? grammar == some symbol).map Item.advance
  grammar.items.filter fun item => moved.contains item

/-- The symbols behind the dots of some items. -/
def nextSymbols (grammar : Grammar) (items : List Item) : SymbolSet :=
  SymbolSet.ofList (items.filterMap (Item.next? grammar))

/-- The symbols that can be read in the state of a kernel, each with the kernel after it. -/
def successors (grammar : Grammar) (kernel : Kernel) : List (Symbol × Kernel) :=
  let items := closure grammar kernel
  (nextSymbols grammar items).map fun symbol => (symbol, kernelAfter grammar items symbol)

/-- The kernels that are found from those of a queue, behind the ones found so far. An item knows
the symbol in front of its dot, so the successors of a kernel are all different. -/
def discover (grammar : Grammar) (fuel : Nat) (queue found : List Kernel) : List Kernel :=
  match fuel, queue with
  | 0, _ => found
  | _, [] => found
  | fuel + 1, kernel :: rest =>
    let fresh := ((successors grammar kernel).map Prod.snd).filter (· ∉ found)
    discover grammar fuel (rest ++ fresh) (found ++ fresh)

/-- The kernels of all states. Each is a selection from the items of the grammar, which bounds their
number. -/
def kernels (grammar : Grammar) : List Kernel :=
  discover grammar (Nat.pow 2 grammar.items.length) [startKernel] [startKernel]

/-! ### States -/

/-- A state of the automaton: its kernel, all of its items, and the states that its edges lead to,
in the order of the symbols that they read. -/
structure ItemSet where
  kernel : Kernel
  items : List Item
  edges : List (Symbol × SetIndex)
deriving DecidableEq, Repr

/-- The states of an automaton. -/
structure Automaton where
  sets : List ItemSet
deriving DecidableEq, Repr

/-- The state of a kernel, among states of given kernels. -/
def itemSet (grammar : Grammar) (kernels : List Kernel) (kernel : Kernel) : ItemSet where
  kernel := kernel
  items := closure grammar kernel
  edges := (successors grammar kernel).map fun (symbol, target) =>
    (symbol, kernels.idxOf target)

/-- The automaton of a grammar. -/
def Grammar.automaton (grammar : Grammar) : Automaton :=
  let found := kernels grammar
  ⟨found.map (itemSet grammar found)⟩

namespace Automaton

/-- The items of a state; none for an index that is no state. -/
def items (automaton : Automaton) (set : SetIndex) : List Item :=
  (automaton.sets[set]?.map ItemSet.items).getD []

/-- The edges of a state. -/
def edges (automaton : Automaton) (set : SetIndex) : List (Symbol × SetIndex) :=
  (automaton.sets[set]?.map ItemSet.edges).getD []

/-- The state that reading a symbol leads to. -/
def target? (automaton : Automaton) (set : SetIndex) (symbol : Symbol) : Option SetIndex :=
  (automaton.edges set).lookup symbol

end Automaton

end ShiftReduce
