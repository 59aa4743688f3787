/-!
# Numbers in double precision

A decimal number as it is written stands for the number in double precision that is nearest to it.
Written back, that number gets the fewest digits which still stand for it.

## Main definitions

* `Decimal` — a whole number times a power of ten
* `Decimal.ofText?` — the decimal that a text is
* `Double`, `Decimal.toDouble?` — a number in double precision, and the nearest one to a decimal
* `Double.toText` — a number in double precision with the fewest digits
* `Real` — numbers with a sign, infinity, and what is no number
-/

namespace ShiftReduce

/-- The number `digits * 10 ^ exponent`. -/
structure Decimal where
  digits : Nat
  exponent : Int
deriving DecidableEq, Repr

/-- The number `mantissa * 2 ^ exponent`. -/
structure Double where
  mantissa : Nat
  exponent : Int
deriving DecidableEq, Repr

/-! ### Reading -/

namespace Decimal

/-- The value of some digits in base ten. -/
def valueOf (digits : List Char) : Nat :=
  digits.foldl (fun value digit => 10 * value + (digit.toNat - '0'.toNat)) 0

/-- The exponent behind the letter that announces it: a sign, if any, and at least one digit. -/
def exponent? : List Char → Option Int
  | '-' :: digits => if digits.isEmpty || !digits.all Char.isDigit then none
      else some (-(valueOf digits : Int))
  | '+' :: digits => if digits.isEmpty || !digits.all Char.isDigit then none
      else some (valueOf digits)
  | digits => if digits.isEmpty || !digits.all Char.isDigit then none else some (valueOf digits)

/-- The decimal that a text without a sign is: digits, among them a point if any, and an exponent
if any. -/
def ofText? (text : List Char) : Option Decimal := do
  let whole := text.takeWhile Char.isDigit
  let rest := text.dropWhile Char.isDigit
  let (fraction, rest) := match rest with
    | '.' :: rest => (rest.takeWhile Char.isDigit, rest.dropWhile Char.isDigit)
    | rest => ([], rest)
  if whole.isEmpty && fraction.isEmpty then none
  let scale ← match rest with
    | [] => some 0
    | 'e' :: rest => exponent? rest
    | 'E' :: rest => exponent? rest
    | _ => none
  return ⟨valueOf (whole ++ fraction), scale - fraction.length⟩

/-! ### Rounding -/

/-- The number of digits of a number in base ten. -/
def digitCount (value : Nat) : Nat := (toString value).length

/-- The whole number nearest to a fraction; of two, the even one. -/
def divideNearest (numerator denominator : Nat) : Nat :=
  let quotient := numerator / denominator
  let rest := 2 * (numerator % denominator)
  if denominator < rest || (rest == denominator && quotient % 2 == 1) then quotient + 1
  else quotient

/-- The fraction `numerator / denominator / 2 ^ exponent`, as numerator and denominator. -/
def scaleDown (numerator denominator : Nat) (exponent : Int) : Nat × Nat :=
  match exponent with
  | .ofNat places => (numerator, denominator * Nat.pow 2 places)
  | .negSucc places => (numerator * Nat.pow 2 (places + 1), denominator)

/-- The least exponent of a number in double precision. -/
def leastExponent : Int := -1074

/-- The exponent that leaves 53 binary digits in front of the point of a fraction. -/
def exponentFor (numerator denominator : Nat) : Int :=
  let guess : Int := (numerator.log2 : Int) - denominator.log2 - 53
  let (scaled, unit) := scaleDown numerator denominator guess
  if scaled / unit < Nat.pow 2 53 then guess else guess + 1

/-- The number in double precision nearest to a fraction, unless that is too large for any. -/
def nearest? (numerator denominator : Nat) : Option Double :=
  let exponent := max leastExponent (exponentFor numerator denominator)
  let (scaled, unit) := scaleDown numerator denominator exponent
  let mantissa := divideNearest scaled unit
  let rounded : Double :=
    if mantissa = Nat.pow 2 53 then ⟨Nat.pow 2 52, exponent + 1⟩ else ⟨mantissa, exponent⟩
  if rounded.exponent ≤ 971 then some rounded else none

/-- The number in double precision nearest to a decimal, unless the decimal is too large for any.
Very large and very small decimals need not be worked out. -/
def toDouble? (decimal : Decimal) : Option Double :=
  if decimal.digits = 0 then some ⟨0, 0⟩
  else
    let magnitude : Int := digitCount decimal.digits + decimal.exponent
    if 400 < magnitude then none
    else if magnitude < -400 then some ⟨0, 0⟩
    else match decimal.exponent with
      | .ofNat places => nearest? (decimal.digits * Nat.pow 10 places) 1
      | .negSucc places => nearest? decimal.digits (Nat.pow 10 (places + 1))

end Decimal

/-! ### Writing -/

namespace Double

/-- The number as a fraction. -/
def fraction (double : Double) : Nat × Nat :=
  match double.exponent with
  | .ofNat places => (double.mantissa * Nat.pow 2 places, 1)
  | .negSucc places => (double.mantissa, Nat.pow 2 (places + 1))

/-- The decimals of a given exponent next to the number on both sides, the nearer one first. -/
def neighbours (double : Double) (exponent : Int) : List Decimal :=
  let (numerator, denominator) := double.fraction
  let (scaled, unit) := match exponent with
    | .ofNat places => (numerator, denominator * Nat.pow 10 places)
    | .negSucc places => (numerator * Nat.pow 10 (places + 1), denominator)
  let below : Decimal := ⟨scaled / unit, exponent⟩
  let above : Decimal := ⟨scaled / unit + 1, exponent⟩
  if 2 * (scaled % unit) ≤ unit then [below, above] else [above, below]

/-- A decimal with as few digits as possible that stands for the number. Each round adds a digit. -/
def shortest (double : Double) (rounds : Nat) (exponent : Int) : Decimal :=
  match rounds with
  | 0 => ⟨0, 0⟩
  | rounds + 1 =>
    match (double.neighbours exponent).find? fun decimal => decimal.toDouble? == some double with
    | some decimal => decimal
    | none => shortest double rounds (exponent - 1)

/-- The digits of a decimal with a point, if it has a fraction. -/
def positional (decimal : Decimal) : String :=
  match decimal.exponent with
  | .ofNat places => toString (decimal.digits * Nat.pow 10 places)
  | .negSucc places =>
    let whole := decimal.digits / Nat.pow 10 (places + 1)
    let part := toString (decimal.digits % Nat.pow 10 (places + 1))
    let zeros := List.replicate (places + 1 - part.length) '0'
    toString whole ++ "." ++ String.ofList zeros ++ part

/-- The number with the fewest digits that stand for it. -/
def toText (double : Double) : String :=
  if double.mantissa = 0 then "0"
  else
    let (numerator, denominator) := double.fraction
    let places : Int := (Decimal.digitCount numerator : Int) - Decimal.digitCount denominator
    positional (double.shortest 32 (places + 1))

end Double

/-! ### Signs and special numbers -/

/-- A number in double precision with a sign, infinity, or what is no number. -/
inductive Real
  | finite (negative : Bool) (magnitude : Double)
  | infinite (negative : Bool)
  | undefined
deriving DecidableEq, Repr

namespace Real

/-- Whether the number is zero, of either sign. -/
def isZero : Real → Bool
  | .finite _ magnitude => magnitude.mantissa == 0
  | _ => false

/-- The number with the fewest digits that stand for it. -/
def toText : Real → String
  | .finite negative magnitude => (if negative then "-" else "") ++ magnitude.toText
  | .infinite negative => if negative then "-inf" else "inf"
  | .undefined => "NaN"

end Real

end ShiftReduce
