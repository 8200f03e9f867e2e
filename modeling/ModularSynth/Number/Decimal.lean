import ModularSynth.Number.Binary

/-!
# Decimal texts of doubles

A double is written with the fewest significant digits that read back as the same double, and of
the numbers with that many digits the nearest one; a tie goes away from zero. The text is always
positional: no exponent, and no point after a whole number.
-/

namespace ModularSynth

/-- The number `digits * 10 ^ exponent`. -/
structure Decimal where
  digits : Nat
  exponent : Int
  deriving DecidableEq, Repr

namespace Decimal

/-- A quotient of natural numbers. -/
structure Ratio where
  numerator : Nat
  denominator : Nat

/-- The ratio `n * 2 ^ exponent`. -/
def Ratio.ofBinary (n : Nat) (exponent : Int) : Ratio :=
  ⟨n <<< exponent.toNat, 1 <<< (-exponent).toNat⟩

/-- The ratio in units of `10 ^ exponent`. -/
def Ratio.inUnits (r : Ratio) (exponent : Int) : Ratio :=
  ⟨r.numerator * Nat.pow 10 (-exponent).toNat, r.denominator * Nat.pow 10 exponent.toNat⟩

/-- The reals that round to one double, as ratios: its own value between the two midpoints to
its neighbours. The midpoints belong to it when its significand is even. -/
structure RoundingInterval where
  low : Ratio
  value : Ratio
  high : Ratio
  closed : Bool

/-- The interval of the double `significand * 2 ^ exponent`. Below a power of two the doubles lie
twice as dense as above it. -/
def RoundingInterval.ofBinary (significand : Nat) (exponent : Int) : RoundingInterval :=
  let below :=
    if significand = Binary.leadingBit ∧ Binary.leastExponent < exponent then 1 else 2
  { low := .ofBinary (4 * significand - below) (exponent - 2)
    value := .ofBinary (4 * significand) (exponent - 2)
    high := .ofBinary (4 * significand + 2) (exponent - 2)
    closed := significand % 2 = 0 }

def RoundingInterval.inUnits (i : RoundingInterval) (exponent : Int) : RoundingInterval :=
  { i with
    low := i.low.inUnits exponent
    value := i.value.inUnits exponent
    high := i.high.inUnits exponent }

/-- The whole number `n` lies in the interval. -/
def RoundingInterval.contains (i : RoundingInterval) (n : Nat) : Bool :=
  let fromLow := compare i.low.numerator (n * i.low.denominator)
  let toHigh := compare (n * i.high.denominator) i.high.numerator
  if i.closed then fromLow != .gt && toHigh != .gt else fromLow == .lt && toHigh == .lt

/-- The whole number of the interval that is nearest to its value, if it holds one of the two
whole numbers around that value; of two that are equally near the greater. -/
def RoundingInterval.nearest? (i : RoundingInterval) : Option Nat :=
  let floor := i.value.numerator / i.value.denominator
  let aboveFloor := i.value.numerator % i.value.denominator
  match i.contains floor, i.contains (floor + 1) with
  | false, false => none
  | true, false => some floor
  | false, true => some (floor + 1)
  | true, true => if 2 * aboveFloor < i.value.denominator then some floor else some (floor + 1)

/-- Tries the units `10 ^ exponent`, `10 ^ (exponent - 1)`, … and takes the first that has a
multiple in the interval. -/
def shortestFrom (i : RoundingInterval) : Nat → Int → Decimal
  | 0, exponent => ⟨i.value.numerator / i.value.denominator, exponent⟩
  | tries + 1, exponent =>
    match (i.inUnits exponent).nearest? with
    | some digits => ⟨digits, exponent⟩
    | none => shortestFrom i tries (exponent - 1)

/-- The decimal with the fewest digits that rounds to the double `significand * 2 ^ exponent`.
The search begins above the value and needs at most the seventeen digits that tell every two
doubles apart. -/
def shortest (significand : Nat) (exponent : Int) : Decimal :=
  let start := (significand.log2 + exponent + 1) * 30103 / 100000 + 1
  shortestFrom (.ofBinary significand exponent) 21 start

/-- The digits with a point where the power of ten puts it. -/
def positional (d : Decimal) : String :=
  let digits := (toString d.digits).toList
  if 0 ≤ d.exponent then
    String.ofList (digits ++ List.replicate d.exponent.toNat '0')
  else
    let places := (-d.exponent).toNat
    let padded := List.replicate (places + 1 - digits.length) '0' ++ digits
    let whole := padded.length - places
    String.ofList (padded.take whole ++ '.' :: padded.drop whole)

end Decimal

/-- The text of a double. -/
def floatText (x : Float) : String :=
  match Binary.ofFloat? x with
  | some d =>
    let magnitude :=
      if d.significand = 0 then "0"
      else (Decimal.shortest d.significand d.exponent).positional
    if d.negative then "-" ++ magnitude else magnitude
  | none =>
    if x.isNaN then "NaN" else if x < 0.0 then "-inf" else "inf"

end ModularSynth
