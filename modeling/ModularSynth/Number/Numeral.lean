/-!
# Reading numerals

`readInteger` reads an optional sign and decimal digits as a 64-bit integer. `readFloat` reads an
optional sign, digits with at most one point among them and an optional exponent as the nearest
double, ties going to the even neighbour; a numeral beyond the largest double is infinite.
-/

namespace ModularSynth

namespace Numeral

/-- Only the ten ASCII digits are digits of a numeral. -/
def isDigit (c : Char) : Bool := '0' ≤ c && c ≤ '9'

/-- The number that a run of digits denotes. -/
def digitsValue (cs : List Char) : Nat :=
  cs.foldl (fun n c => 10 * n + (c.toNat - '0'.toNat)) 0

/-- The digits of a run, provided that it is a run of digits and not empty. -/
def digits? (cs : List Char) : Option Nat :=
  if cs ≠ [] ∧ cs.all isDigit then some (digitsValue cs) else none

/-- A leading sign, read as "negative", and the rest. -/
def splitSign : List Char → Bool × List Char
  | '-' :: cs => (true, cs)
  | '+' :: cs => (false, cs)
  | cs => (false, cs)

/-- A signed run of digits. -/
def integer? (cs : List Char) : Option Int :=
  let (negative, magnitude) := splitSign cs
  (digits? magnitude).map fun n => if negative then -(n : Int) else n

/-- The double nearest to `mantissa * 10 ^ exponent`. Exponents that put the number beyond every
double, or below half of the least one, are answered without forming the power. -/
def scaled (mantissa : Nat) (exponent : Int) : Float :=
  let magnitude := (toString mantissa).length + exponent
  if mantissa = 0 ∨ magnitude < -400 then 0.0
  else if 400 < magnitude then 1.0 / 0.0
  else Float.ofScientific mantissa (exponent < 0) exponent.natAbs

/-- The parts of a numeral before and after its exponent mark; no mark means exponent zero. -/
def splitExponent (cs : List Char) : Option (List Char × Int) :=
  let isMark := fun c : Char => c = 'e' || c = 'E'
  let mantissa := cs.takeWhile (!isMark ·)
  match cs.dropWhile (!isMark ·) with
  | [] => some (mantissa, 0)
  | _ :: exponent => (integer? exponent).map (mantissa, ·)

/-- An unsigned numeral: digits, at most one point before, among or after them, an exponent. -/
def magnitude? (cs : List Char) : Option Float := do
  let (mantissa, exponent) ← splitExponent cs
  let whole := mantissa.takeWhile isDigit
  let fraction ← match mantissa.dropWhile isDigit with
    | [] => some []
    | '.' :: fraction => some fraction
    | _ => none
  let significand ← digits? (whole ++ fraction)
  return scaled significand (exponent - fraction.length)

end Numeral

/-- A number as a 64-bit integer, if it is in range. -/
def int64? (n : Int) : Option Int64 :=
  if Int64.minValue.toInt ≤ n ∧ n ≤ Int64.maxValue.toInt then some (Int64.ofInt n) else none

/-- A signed run of digits in the range of 64-bit integers. -/
def readInteger (text : String) : Option Int64 :=
  (Numeral.integer? text.toList).bind int64?

/-- A signed decimal numeral as a double. -/
def readFloat (text : String) : Option Float :=
  let (negative, magnitude) := Numeral.splitSign text.toList
  (Numeral.magnitude? magnitude).map fun x => if negative then -x else x

end ModularSynth
