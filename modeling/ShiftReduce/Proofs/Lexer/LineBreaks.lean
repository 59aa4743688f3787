import ShiftReduce.Proofs.Lexer.Gaps

/-!
# Line breaks in front of a lexer

The class of line breaks takes all breaks that stand together, and none are skipped between tokens.
So behind a token of that class something else follows, and a carriage return is never cut off from
a line feed behind it.

## Main definitions

* `Text.isBreak` — carriage returns and line feeds

## Main results

* `TokenClass.take_eq_of_match?_lineBreak` — the class of line breaks takes all that stand together
* `Lexer.Reachable.take_eq_of_select?` — and so does every token of that class
* `Lexer.isBreak_of_mem_gap` — no line break is skipped
-/

namespace ShiftReduce

/-- The characters of line breaks. -/
def Text.isBreak (char : Char) : Bool := char == '\n' || char == '\r'

theorem Text.isBreak_of_isGap {char : Char} (isGap : isGap char = true) : isBreak char = false := by
  rw [isBreak, Bool.or_eq_false_iff, beq_eq_false_iff_ne, beq_eq_false_iff_ne]
  constructor
  · rintro rfl
    cases isGap
  · rintro rfl
    cases isGap

/-! ### The class of line breaks -/

namespace Pattern.Program

/-- The program of a repetition of characters: one of the set is taken, and then it is decided
whether to take another one. -/
def oneOrMore (codes : CodeSet) : Program := ⟨#[.accept, .fork [2, 0], .take codes 1], 2⟩

variable {codes : CodeSet}

theorem toProgram_oneOrMore (codes : CodeSet) :
    (Expr.repetition 1 none true (.codes codes)).toProgram = oneOrMore codes := rfl

theorem advance?_oneOrMore (codes : CodeSet) (char : Char) :
    (oneOrMore codes).advance? char 2 = if codes.has char then some 1 else none := rfl

/-- Behind a character of the set, all others that follow are taken. -/
theorem follow_oneOrMore (before : Option Char) (taken : Nat) (found : Option Nat)
    (text : List Char) : (oneOrMore codes).follow before taken [1] found text =
      some (taken + (text.takeWhile codes.has).length) := by
  induction text generalizing before taken found with
  | nil => rfl
  | cons char rest ih =>
    have states : (oneOrMore codes).waiting before (some char) [1] = [2, 0] := rfl
    have live : [2, 0].takeWhile (fun place => !(oneOrMore codes).accepts place) = [2] := rfl
    have accepted : [2, 0].any (oneOrMore codes).accepts = true := rfl
    have onward := advance?_oneOrMore codes char
    rw [follow, states, live, accepted, List.takeWhile_cons]
    by_cases member : codes.has char = true
    · rw [if_pos member] at onward ⊢
      simp only [List.filterMap_cons_some onward, List.filterMap_nil, ih, List.length_cons]
      rw [Nat.add_right_comm, Nat.add_assoc]
    · rw [if_neg member] at onward ⊢
      simp [List.filterMap_cons_none onward]

/-- All characters of the set at the start of a text are taken, if there is one. -/
theorem matchLength?_oneOrMore (text : List Char) : (oneOrMore codes).matchLength? text =
    if (text.takeWhile codes.has) = [] then none else some (text.takeWhile codes.has).length := by
  rw [matchLength?]
  cases text with
  | nil => rfl
  | cons char rest =>
    have states : (oneOrMore codes).waiting none (some char) [2] = [2] := rfl
    have live : [2].takeWhile (fun place => !(oneOrMore codes).accepts place) = [2] := rfl
    have accepted : [2].any (oneOrMore codes).accepts = false := rfl
    have onward := advance?_oneOrMore codes char
    have start : (oneOrMore codes).start = 2 := rfl
    rw [follow, start, states, live, accepted, List.takeWhile_cons]
    by_cases member : codes.has char = true
    · rw [if_pos member] at onward ⊢
      simp [List.filterMap_cons_some onward, follow_oneOrMore, Nat.add_comm]
    · rw [if_neg member] at onward ⊢
      simp [List.filterMap_cons_none onward]

end Pattern.Program

namespace TokenClass

/-- The characters that the class of line breaks takes. -/
theorem has_lineBreak : (CodeSet.ofList [(10, 10), (13, 13)]).has = Text.isBreak := by
  have ranges : CodeSet.ofList [(10, 10), (13, 13)] = ⟨#[(10, 10), (13, 13)]⟩ := by
    simp [CodeSet.ofList, CodeSet.merge, List.mergeSort]
  funext char
  have search : CodeSet.has ⟨#[(10, 10), (13, 13)]⟩ char =
      if char.toNat < 13 then !decide (char.toNat < 10) && !decide (10 < char.toNat)
      else !decide (13 < char.toNat) := by
    simp [CodeSet.has, CodeSet.contains, CodeSet.search]
  have feed : char = '\n' ↔ char.toNat = 10 := Char.toNat_inj.symm
  have carriage : char = '\r' ↔ char.toNat = 13 := Char.toNat_inj.symm
  rw [ranges, Bool.eq_iff_iff, search, Text.isBreak, Bool.or_eq_true, beq_iff_eq, beq_iff_eq, feed,
    carriage]
  split
  · simp only [Bool.and_eq_true, Bool.not_eq_true', decide_eq_false_iff_not]
    omega
  · simp only [Bool.not_eq_true', decide_eq_false_iff_not]
    omega

/-- The class of line breaks takes all that stand at the start of a text. -/
theorem take_eq_of_match?_lineBreak {text : List Char} {found : Match}
    (matched : lineBreak.match? text = some found) :
    text.take found.length = text.takeWhile Text.isBreak := by
  have program : lineBreak.pattern.bind (fun pattern => pattern.matchLength? text) =
      (Pattern.Expr.repetition 1 none true
        (.codes (CodeSet.ofList [(10, 10), (13, 13)]))).toProgram.matchLength? text := rfl
  rw [match?, program, Pattern.Program.toProgram_oneOrMore,
    Pattern.Program.matchLength?_oneOrMore, has_lineBreak] at matched
  have length : found.length = (text.takeWhile Text.isBreak).length := by
    split at matched
    · rename_i length taken
      obtain rfl := Option.some.inj matched
      split_ifs at taken
      exact (Option.some.inj taken).symm
    · cases matched
  rw [length, ← List.prefix_iff_eq_take.mp (List.takeWhile_prefix _)]

end TokenClass

/-! ### Breaks in inputs -/

namespace Lexer

variable {lexer : Lexer} {text : List Char}

/-- A token of line breaks takes all that stand at its place. -/
theorem Reachable.take_eq_of_select? (reachable : lexer.Reachable) {state : StateIndex}
    {found : Match} (selected : lexer.select? state text = some (lineBreakClass, found)) :
    text.take found.length = text.takeWhile Text.isBreak :=
  TokenClass.take_eq_of_match?_lineBreak (match?_of_select? selected reachable.wellFormed.lineBreak)

/-- No line break is skipped. -/
theorem isBreak_of_mem_gap {char : Char} (present : char ∈ lexer.gap text) :
    Text.isBreak char = false := by
  unfold gap at present
  split at present
  · exact Text.isBreak_of_isGap (List.mem_takeWhile_imp present)
  · cases present

end Lexer

end ShiftReduce
