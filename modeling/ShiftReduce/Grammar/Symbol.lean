/-!
# Grammar symbols

The symbols of a grammar are its literal terminals and its rules, both by index. Terminals stand
before rules, and each kind is ordered by index.

## Main definitions

* `Symbol` — terminals and rules
* `Symbol.precedes` — their order
* `SymbolSet.ofList`, `SymbolSet.insert`, `SymbolSet.union` — sets of symbols as ascending lists
-/

namespace ShiftReduce

/-- A place in the rules of a grammar. -/
abbrev RuleIndex := Nat

/-- A place in the literal terminals of a grammar. -/
abbrev TerminalIndex := Nat

/-- A symbol of a grammar: a literal terminal or a rule. -/
inductive Symbol
  | terminal (index : TerminalIndex)
  | rule (index : RuleIndex)
deriving DecidableEq, Repr

namespace Symbol

/-- The empty literal, which every grammar has as its first terminal. -/
def epsilon : Symbol := .terminal 0

/-- The order of symbols: terminals before rules, each by index. -/
def precedes : Symbol → Symbol → Bool
  | .terminal left, .terminal right => left < right
  | .terminal _, .rule _ => true
  | .rule _, .terminal _ => false
  | .rule left, .rule right => left < right

end Symbol

/-- A set of symbols, as an ascending list. -/
abbrev SymbolSet := List Symbol

namespace SymbolSet

/-- Adds a symbol. -/
def insert (symbol : Symbol) : SymbolSet → SymbolSet
  | [] => [symbol]
  | first :: rest =>
    if symbol = first then first :: rest
    else if symbol.precedes first then symbol :: first :: rest
    else first :: insert symbol rest

/-- The symbols of a list. -/
def ofList (symbols : List Symbol) : SymbolSet := symbols.foldr insert []

/-- The symbols of both sets. -/
def union (left right : SymbolSet) : SymbolSet :=
  right.foldl (fun symbols symbol => insert symbol symbols) left

/-- A symbol is in a set with another one added if it is that one or was there before. -/
@[simp] theorem mem_insert {symbol added : Symbol} {symbols : SymbolSet} :
    symbol ∈ insert added symbols ↔ symbol = added ∨ symbol ∈ symbols := by
  induction symbols with
  | nil => simp [insert]
  | cons first rest ih =>
    unfold insert
    split
    · rename_i same
      subst same
      simp
    · split
      · simp
      · simp only [List.mem_cons, ih]
        constructor <;> rintro (h | h | h) <;> simp [h]

/-- The set of a list holds what the list holds. -/
@[simp] theorem mem_ofList {symbol : Symbol} {symbols : List Symbol} :
    symbol ∈ ofList symbols ↔ symbol ∈ symbols := by
  unfold ofList
  induction symbols with
  | nil => simp
  | cons first rest ih => simp [ih]

/-- A symbol is in a union if it is in one of the two sets. -/
@[simp] theorem mem_union {symbol : Symbol} {left right : SymbolSet} :
    symbol ∈ union left right ↔ symbol ∈ left ∨ symbol ∈ right := by
  unfold union
  induction right generalizing left with
  | nil => simp
  | cons first rest ih =>
    simp only [List.foldl_cons, ih, mem_insert, List.mem_cons]
    constructor
    · rintro ((h | h) | h) <;> simp [h]
    · rintro (h | h | h) <;> simp [h]

end SymbolSet

end ShiftReduce
