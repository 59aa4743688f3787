/-!
# Sets of code points

A set of code points is kept as ascending ranges that neither overlap nor touch, so membership is
a binary search and the set operations are merges.

## Main definitions

* `CodeSet` — a set of code points, and `CodeSet.contains`, its membership test
* `CodeSet.ofList` — the set of any list of ranges
* `CodeSet.union`, `CodeSet.complement`, `CodeSet.intersection`, `CodeSet.difference`,
  `CodeSet.symmetricDifference` — the set operations
* `CodeSet.ofText` — reads ranges written in hexadecimal, such as `41-5A C0`
-/

namespace ShiftReduce

/-- The largest code point. -/
def lastCode : Nat := 0x10FFFF

/-- A set of code points: ascending ranges with both ends included. -/
structure CodeSet where
  ranges : Array (Nat × Nat)
deriving Repr, DecidableEq, Inhabited

namespace CodeSet

/-- The set without members. -/
def empty : CodeSet := ⟨#[]⟩

/-- The set of all code points. -/
def all : CodeSet := ⟨#[(0, lastCode)]⟩

/-! ### Building sets -/

/-- Joins neighbouring ranges that overlap or touch, in a list ordered by lower end. -/
def merge : List (Nat × Nat) → List (Nat × Nat)
  | (low, high) :: (low', high') :: rest =>
    if low' ≤ high + 1 then merge ((low, max high high') :: rest)
    else (low, high) :: merge ((low', high') :: rest)
  | ranges => ranges
termination_by ranges => ranges.length

/-- The set of the code points in any of `ranges`. A range whose ends are crossed is empty. -/
def ofList (ranges : List (Nat × Nat)) : CodeSet :=
  let proper := ranges.filter fun range => range.1 ≤ range.2
  ⟨(merge (proper.mergeSort fun a b => a.1 ≤ b.1)).toArray⟩

/-- The set of a single character. -/
def single (char : Char) : CodeSet := ⟨#[(char.toNat, char.toNat)]⟩

/-! ### Membership -/

/-- Binary search for the range that holds `code`, between two positions of the array. -/
def search (ranges : Array (Nat × Nat)) (code : Nat) : (fuel low high : Nat) → Bool
  | 0, _, _ => false
  | fuel + 1, low, high =>
    if low < high then
      let middle := (low + high) / 2
      match ranges[middle]? with
      | none => false
      | some (first, last) =>
        if code < first then search ranges code fuel low middle
        else if last < code then search ranges code fuel (middle + 1) high
        else true
    else false

/-- Whether a code point is in the set. -/
def contains (codes : CodeSet) (code : Nat) : Bool :=
  search codes.ranges code (codes.ranges.size + 1) 0 codes.ranges.size

/-- Whether a character is in the set. -/
def has (codes : CodeSet) (char : Char) : Bool := codes.contains char.toNat

/-! ### Set operations -/

/-- The code points in some set of a list. -/
def unions (sets : List CodeSet) : CodeSet := ofList (sets.flatMap fun codes => codes.ranges.toList)

/-- The code points in either set. -/
def union (left right : CodeSet) : CodeSet := unions [left, right]

/-- The gaps between ascending ranges, from `start` on. -/
def gaps (start : Nat) : List (Nat × Nat) → List (Nat × Nat)
  | [] => if start ≤ lastCode then [(start, lastCode)] else []
  | (low, high) :: rest =>
    if start < low then (start, low - 1) :: gaps (high + 1) rest else gaps (high + 1) rest

/-- The code points outside the set. -/
def complement (codes : CodeSet) : CodeSet := ⟨(gaps 0 codes.ranges.toList).toArray⟩

/-- The code points in both sets. -/
def intersection (left right : CodeSet) : CodeSet :=
  (left.complement.union right.complement).complement

/-- The code points of the left set that are not in the right one. -/
def difference (left right : CodeSet) : CodeSet := left.intersection right.complement

/-- The code points in exactly one of the sets. -/
def symmetricDifference (left right : CodeSet) : CodeSet :=
  (left.difference right).union (right.difference left)

end CodeSet

/-! ### Ranges as text -/

namespace Unicode

/-- The non-empty pieces of `text` between characters of `marks`. -/
def pieces (marks : List Char) (text : List Char) : List (List Char) :=
  (text.splitOnP marks.contains).filter fun piece => !piece.isEmpty

/-- The value of a hexadecimal digit; zero for any other character. -/
def hexDigit (char : Char) : Nat :=
  if '0' ≤ char ∧ char ≤ '9' then char.toNat - '0'.toNat
  else if 'A' ≤ char ∧ char ≤ 'F' then char.toNat - 'A'.toNat + 10
  else if 'a' ≤ char ∧ char ≤ 'f' then char.toNat - 'a'.toNat + 10
  else 0

/-- The value of a hexadecimal numeral. -/
def hexValue (digits : List Char) : Nat :=
  digits.foldl (fun value digit => 16 * value + hexDigit digit) 0

end Unicode

/-- The set written as hexadecimal code points and ranges, separated by blanks and line feeds. -/
def CodeSet.ofText (text : String) : CodeSet :=
  CodeSet.ofList <| (Unicode.pieces [' ', '\n'] text.toList).map fun piece =>
    match (Unicode.pieces ['-'] piece).map Unicode.hexValue with
    | [low, high] => (low, high)
    | ends => (ends.headD 0, ends.headD 0)

end ShiftReduce
