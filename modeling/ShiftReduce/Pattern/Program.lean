import ShiftReduce.Pattern.Expr

/-!
# Pattern programs

A pattern expression is carried out as a program whose instructions are states of a machine. All
ways of matching advance together, one character at a time, ordered by preference; a way that
reaches a state which a preferred one has already reached is given up.

## Main definitions

* `Pattern.Instruction`, `Pattern.Program` — the machine's states
* `Pattern.Expr.toProgram` — the program of an expression
* `Pattern.Program.matchLength?` — how many characters of a text the preferred match takes
-/

namespace ShiftReduce.Pattern

/-- A state of the machine. Targets are places in the program. -/
inductive Instruction
  /-- Takes one character of the set. -/
  | take (codes : CodeSet) (next : Nat)
  /-- Goes on at each of the targets, the first preferred. -/
  | fork (targets : List Nat)
  /-- Goes on if the condition holds. -/
  | check (look : Look) (next : Nat)
  /-- The text up to here matches. -/
  | accept
deriving Repr

/-- A program and the place where it starts. -/
structure Program where
  code : Array Instruction
  start : Nat
deriving Repr

/-! ### From expressions to programs -/

/-- The two targets of a fork, in order of preference. -/
def preference (greedy : Bool) (more done : Nat) : List Nat :=
  if greedy then [more, done] else [done, more]

/-- Appends instructions that go on at a given place. The result is where they start, with the
code that now holds them. -/
abbrev Emitter := Nat → Array Instruction → Nat × Array Instruction

namespace Emitter

/-- One after the other, `count` times. -/
def copies (body : Emitter) : Nat → Emitter
  | 0, next, code => (next, code)
  | count + 1, next, code =>
    let (start, code) := copies body count next code
    body start code

/-- Up to `count` times: each copy stands inside the optional part of the copy before. -/
def optionals (body : Emitter) (greedy : Bool) : Nat → Emitter
  | 0, next, code => (next, code)
  | count + 1, next, code =>
    let (inner, code) := optionals body greedy count next code
    let (start, code) := body inner code
    (code.size, code.push (.fork (preference greedy start next)))

/-- Once or more often: where the body starts, and where it is decided whether to go round. -/
def loop (body : Emitter) (greedy : Bool) (next : Nat) (code : Array Instruction) :
    Nat × Nat × Array Instruction :=
  let turn := code.size
  let (start, code) := body turn (code.push (.fork []))
  (start, turn, code.setIfInBounds turn (.fork (preference greedy start next)))

/-- A repetition. A body that may match nothing is entered by a fork of its own, so that leaving
it out is weighed before going round. -/
def repetition (least : Nat) (most : Option Nat) (greedy consumes : Bool) (body : Emitter) :
    Emitter := fun next code =>
  match most with
  | some most =>
    let (rest, code) := optionals body greedy (most - least) next code
    copies body least rest code
  | none =>
    let (start, turn, code) := loop body greedy next code
    match least with
    | 0 =>
      if consumes then (turn, code)
      else (code.size, code.push (.fork (preference greedy start next)))
    | least + 1 => copies body least start code

end Emitter

/-- Appends the instructions of an expression. -/
def Expr.emit : Expr → Emitter
  | .empty, next, code => (next, code)
  | .codes set, next, code => (code.size, code.push (.take set next))
  | .look kind, next, code => (code.size, code.push (.check kind next))
  | .sequence first second, next, code =>
    let (middle, code) := second.emit next code
    first.emit middle code
  | .choice preferred other, next, code =>
    let (left, code) := preferred.emit next code
    let (right, code) := other.emit next code
    (code.size, code.push (.fork [left, right]))
  | .repetition least most greedy body, next, code =>
    Emitter.repetition least most greedy body.consumes body.emit next code

/-- The program of an expression. -/
def Expr.toProgram (expr : Expr) : Program :=
  let (start, code) := expr.emit 0 #[.accept]
  ⟨code, start⟩

/-! ### Running programs -/

namespace Program

/-- The states that wait for a character, or accept, among those that `pending` leads to without
taking one. They come in order of preference, each once; `fuel` bounds the states visited. -/
def settle (program : Program) (before after : Option Char) :
    (fuel : Nat) → (pending : List Nat) → (visited : Array Bool) → List Nat
  | 0, _, _ => []
  | _, [], _ => []
  | fuel + 1, place :: pending, visited =>
    if visited.getD place true then settle program before after fuel pending visited
    else
      let visited := visited.setIfInBounds place true
      match program.code[place]? with
      | some (.fork targets) => settle program before after fuel (targets ++ pending) visited
      | some (.check look next) =>
        if look.holds before after then settle program before after fuel (next :: pending) visited
        else settle program before after fuel pending visited
      | some (.take ..) | some .accept => place :: settle program before after fuel pending visited
      | none => settle program before after fuel pending visited

/-- All waiting states that `pending` leads to. A state is expanded once and forks in two, which
bounds the number of steps. -/
def waiting (program : Program) (before after : Option Char) (pending : List Nat) : List Nat :=
  program.settle before after (pending.length + 2 * program.code.size + 1) pending
    (Array.replicate program.code.size false)

/-- Whether a state accepts. -/
def accepts (program : Program) (place : Nat) : Bool :=
  match program.code[place]? with
  | some .accept => true
  | _ => false

/-- Where a state goes on by taking `char`. -/
def advance? (program : Program) (char : Char) (place : Nat) : Option Nat :=
  match program.code[place]? with
  | some (.take codes next) => if codes.has char then some next else none
  | _ => none

/-- Follows all ways of matching from the states in `pending`, `taken` characters into the text.
What is less preferred than an accepting state is given up; `found` is the best match so far. -/
def follow (program : Program) (before : Option Char) (taken : Nat) (pending : List Nat)
    (found : Option Nat) : List Char → Option Nat
  | [] => if (program.waiting before none pending).any program.accepts then some taken else found
  | char :: rest =>
    let states := program.waiting before (some char) pending
    let found := if states.any program.accepts then some taken else found
    let live := states.takeWhile fun place => !program.accepts place
    match live.filterMap (program.advance? char) with
    | [] => found
    | next => follow program (some char) (taken + 1) next found rest

/-- The number of characters that the preferred match at the start of `text` takes, if there is a
match there. -/
def matchLength? (program : Program) (text : List Char) : Option Nat :=
  program.follow none 0 [program.start] none text

end Program

end ShiftReduce.Pattern
