import ModularSynth.Number.Binary

/-!
# Rounding to whole numbers and exact remainders

`roundHalfAway` rounds a double to the nearest integer, a half going away from zero.
`remainder` is the exact remainder of a division with the quotient cut off: it has the sign of
the dividend and is smaller than the divisor in magnitude.

`remainder` follows `fmod` of the libm package, which the oscillator calls to keep its phase within
a turn. No theorem depends on how it is computed.
-/

namespace ModularSynth

namespace Binary

/-- The integer nearest to the magnitude, a half going up. -/
def roundedMagnitude (d : Binary) : Nat :=
  if 0 ≤ d.exponent then d.significand <<< d.exponent.toNat
  else
    let scale := 1 <<< (-d.exponent).toNat
    (2 * d.significand + scale) / (2 * scale)

/-- The integer nearest to the value, a half going away from zero. -/
def roundHalfAway (d : Binary) : Int :=
  if d.negative then -(d.roundedMagnitude : Int) else d.roundedMagnitude

/-- What is left of `x` after taking away `y` as often as it goes; `y` is not zero. -/
def remainder (x y : Binary) : Binary :=
  let exponent := min x.exponent y.exponent
  ⟨x.negative, x.significandAt exponent % y.significandAt exponent, exponent⟩

end Binary

/-- The integer nearest to a finite double, a half going away from zero. -/
def roundHalfAway? (x : Float) : Option Int :=
  (Binary.ofFloat? x).map Binary.roundHalfAway

/-- Exact remainder with the sign of the dividend, also when it is zero. There is none for an
infinite or undefined dividend, nor for a divisor that is zero or undefined. -/
def remainder (x y : Float) : Float :=
  match Binary.ofFloat? x, Binary.ofFloat? y with
  | some a, some b => if b.significand = 0 then 0.0 / 0.0 else (a.remainder b).toFloat
  | some _, none => if y.isNaN then y else x
  | none, _ => 0.0 / 0.0

end ModularSynth
