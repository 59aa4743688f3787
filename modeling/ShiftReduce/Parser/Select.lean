import ShiftReduce.Lexer.Token
import ShiftReduce.Table.Basic

/-!
# Choosing actions

What a state does next depends on the tokens that are left. Literals come first: the longest of
those that the state has an action for and that the next tokens spell out. Then comes the class of
the next token, and last the empty literal.

## Main definitions

* `spelledWidth?` — how many tokens spell out a literal
* `Choice` — an action and the number of tokens that it takes
* `Table.choose?` — the action for the tokens that are left
-/

namespace ShiftReduce

/-- How many tokens, taken whole from the start of a list, spell out a literal. -/
def spelledWidth? (literal : List Char) : List Token → Option Nat
  | [] => none
  | token :: rest =>
    if token.isEnd then none
    else match token.value.toList.isPrefixOf? literal with
      | none => none
      | some [] => some 1
      | some (char :: unspelled) => (spelledWidth? (char :: unspelled) rest).map (· + 1)

/-- An action, and the number of tokens that are taken if it is a shift. -/
structure Choice where
  action : Action
  width : Nat
deriving DecidableEq, Repr

/-- The literal of a symbol, unless it is the empty one. -/
def literal? (grammar : Grammar) : Symbol → Option (List Char)
  | .terminal (index + 1) => some (grammar.terminal (index + 1)).toList
  | _ => none

/-- The choice of an action if the next tokens spell out its literal, with the literal. -/
def spelledChoice? (grammar : Grammar) (rest : List Token) :
    Symbol × Action → Option (List Char × Choice)
  | (symbol, action) => do
    let literal ← literal? grammar symbol
    let width ← spelledWidth? literal rest
    return (literal, ⟨action, width⟩)

/-- The entry with the longest literal. -/
def longest? (entries : List (List Char × Choice)) : Option (List Char × Choice) :=
  entries.foldl (fun best entry =>
    match best with
    | none => some entry
    | some (literal, choice) =>
      if literal.length ≤ entry.1.length then some entry else some (literal, choice)) none

namespace Table

/-- The action for the longest literal that the next tokens spell out. -/
def literalChoice? (table : Table) (grammar : Grammar) (state : SetIndex) (rest : List Token) :
    Option Choice :=
  (longest? ((table.actions state).filterMap (spelledChoice? grammar rest))).map Prod.snd

/-- The action for the class of a token. The end of the input is never taken. -/
def classChoice? (table : Table) (grammar : Grammar) (state : SetIndex) (token : Token) :
    Option Choice := do
  let rule ← grammar.classRule? token.kind
  let action ← table.action? state (.rule rule)
  return ⟨action, if token.isEnd then 0 else 1⟩

/-- The action for the empty literal. -/
def epsilonChoice? (table : Table) (state : SetIndex) : Option Choice :=
  (table.action? state .epsilon).map fun action => ⟨action, 0⟩

/-- What a state does when the given tokens are left. -/
def choose? (table : Table) (grammar : Grammar) (state : SetIndex) (rest : List Token) :
    Option Choice :=
  match rest with
  | [] => none
  | token :: later =>
    (table.literalChoice? grammar state (token :: later)).or
      ((table.classChoice? grammar state token).or (table.epsilonChoice? state))

end Table

end ShiftReduce
