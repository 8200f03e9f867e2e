import ModularSynth.Number.Binary

/-!
# Sine of a double up to a full turn

The sine is computed by two polynomials on `[-π/4, π/4]`, one for the sine and one for the
cosine, after the nearest multiple of a right angle is taken away. The angle that is left is kept
as a head and a tail, `π/2` being given in pieces whose multiples are exact; which pieces are
needed depends on how close the angle lies to the multiple. Every operation rounds once and in
the order written here, so that the result is settled to the last bit.

`sine` follows `sin` of the libm package, which the oscillator calls for its sample. No theorem
depends on how it is computed.
-/

namespace ModularSynth

namespace Sine

/-- An angle as the sum of a double and a much smaller one. -/
structure Angle where
  head : Float
  tail : Float

/-- Coefficients of the sine: powers 3, 5, … 13. -/
def s1 : Float := .ofBits 0xbfc5555555555549
def s2 : Float := .ofBits 0x3f8111111110f8a6
def s3 : Float := .ofBits 0xbf2a01a019c161d5
def s4 : Float := .ofBits 0x3ec71de357b1fe7d
def s5 : Float := .ofBits 0xbe5ae5e68a2b9ceb
def s6 : Float := .ofBits 0x3de5d93a5acfd57c

/-- Coefficients of the cosine: powers 4, 6, … 14. -/
def c1 : Float := .ofBits 0x3fa555555555554c
def c2 : Float := .ofBits 0xbf56c16c16c15177
def c3 : Float := .ofBits 0x3efa01a019cb1590
def c4 : Float := .ofBits 0xbe927e4f809c52ad
def c5 : Float := .ofBits 0x3e21ee9ebdb4b1c4
def c6 : Float := .ofBits 0xbda8fae9be8838d4

/-- The leading 33 bits of `π/2`, and what they leave out. -/
def p1 : Float := .ofBits 0x3ff921fb54400000
def p1Rest : Float := .ofBits 0x3dd0b4611a626331

/-- The next 33 bits of `π/2`, and what both leave out. -/
def p2 : Float := .ofBits 0x3dd0b4611a600000
def p2Rest : Float := .ofBits 0x3ba3198a2e037073

/-- The 33 bits after those, and the rest. -/
def p3 : Float := .ofBits 0x3ba3198a2e000000
def p3Rest : Float := .ofBits 0x397b839a252049c1

/-- `2/π`. -/
def inverse : Float := .ofBits 0x3fe45f306dc9c883

/-- Adding and taking away one and a half times `2 ^ 52` rounds to a whole number. -/
def shifter : Float := .ofBits 0x4338000000000000

/-- The higher-order terms of the sine polynomial in `z = x * x`. -/
def sineTail (z : Float) : Float :=
  let w := z * z
  s2 + z * (s3 + z * s4) + z * w * (s5 + z * s6)

/-- Sine of an angle within `π/4` that has no tail. -/
def plainSine (x : Float) : Float :=
  let z := x * x
  let v := z * x
  x + v * (s1 + z * sineTail z)

/-- Sine of an angle within `π/4`. -/
def ofReduced (a : Angle) : Float :=
  let x := a.head
  let z := x * x
  let v := z * x
  x - ((z * (0.5 * a.tail - v * sineTail z) - a.tail) - v * s1)

/-- Cosine of an angle within `π/4`. -/
def cosineOfReduced (a : Angle) : Float :=
  let x := a.head
  let z := x * x
  let w := z * z
  let r := z * (c1 + z * (c2 + z * c3)) + w * w * (c4 + z * (c5 + z * c6))
  let half := 0.5 * z
  let near := 1.0 - half
  near + (((1.0 - near) - half) + (z * r - x * a.tail))

/-- The high half of the bit pattern without the sign: magnitudes compare as these do. -/
def highWord (x : Float) : Nat :=
  x.toBits.toNat / 0x100000000 % 0x80000000

/-- The exponent field; the difference of two tells how many leading bits cancelled. -/
def exponentField (x : Float) : Int :=
  Int.ofNat (highWord x / 0x100000)

/-- Takes away `turns` right angles, `turns` given as a whole double. -/
def takeAway (x turns : Float) : Angle :=
  let z := x - turns * p1
  let head := z - turns * p1Rest
  ⟨head, (z - head) - turns * p1Rest⟩

/-- Takes away the nearest multiple of a right angle, with more pieces of `π/2` the more leading
bits cancel. -/
def takeAwayNearest (x : Float) : Float × Angle :=
  let turns := (x * inverse + shifter) - shifter
  let cancelled := fun y : Float => exponentField x - exponentField y
  let first := x - turns * p1
  let correction := turns * p1Rest
  let head := first - correction
  if cancelled head ≤ 16 then (turns, ⟨head, (first - head) - correction⟩)
  else
    let second := first - turns * p2
    let correction := turns * p2Rest - ((first - second) - turns * p2)
    let head := second - correction
    if cancelled head ≤ 49 then (turns, ⟨head, (second - head) - correction⟩)
    else
      let third := second - turns * p3
      let correction := turns * p3Rest - ((second - third) - turns * p3)
      let head := third - correction
      (turns, ⟨head, (third - head) - correction⟩)

/-- The number of right angles to take away from an angle between `π/4` and `9π/4` where one
subtraction is exact enough, and nothing where the angle lies close to a multiple of `π/2`. -/
def plainTurns (word : Nat) : Option Float :=
  if word ≤ 0x400f6a7a then
    if word % 0x100000 = 0x921fb then none
    else if word ≤ 0x4002d97c then some 1.0
    else some 2.0
  else if word ≤ 0x4015fdbc then
    if word = 0x4012d97c then none else some 3.0
  else if word = 0x401921fb then none
  else some 4.0

/-- The multiple of a right angle taken away, as a whole double, and the angle left. -/
def reduce (x : Float) : Float × Angle :=
  match plainTurns (highWord x) with
  | some turns =>
    let turns := if x < 0.0 then -turns else turns
    (turns, takeAway x turns)
  | none => takeAwayNearest x

/-- A whole double as an integer. -/
def wholeNumber (x : Float) : Int :=
  match Binary.ofFloat? x with
  | some d =>
    let magnitude := d.significand <<< d.exponent.toNat >>> (-d.exponent).toNat
    if d.negative then -(magnitude : Int) else magnitude
  | none => 0

end Sine

/-- Sine of an angle of at most a full turn, in radians. -/
def sine (x : Float) : Float :=
  let word := Sine.highWord x
  if x.isNaN then x
  else if word ≤ 0x3fe921fb then
    if word < 0x3e500000 then x else Sine.plainSine x
  else
    let (turns, angle) := Sine.reduce x
    match Sine.wholeNumber turns % 4 with
    | 0 => Sine.ofReduced angle
    | 1 => Sine.cosineOfReduced angle
    | 2 => -Sine.ofReduced angle
    | _ => -Sine.cosineOfReduced angle

end ModularSynth
