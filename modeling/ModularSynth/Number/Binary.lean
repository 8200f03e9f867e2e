/-!
# Finite doubles as integers times powers of two

A finite double is a sign, a natural significand and a power of two. `Binary.ofFloat?` reads
these off the bit pattern and `Binary.toFloat` writes a value that a double can hold exactly, so
that remainders, roundings and decimal texts are computed on integers, where nothing is lost.
-/

namespace ModularSynth

/-- The number `± significand * 2 ^ exponent`. -/
structure Binary where
  negative : Bool
  significand : Nat
  exponent : Int
  deriving DecidableEq, Repr

namespace Binary

/-- Bits of the fraction field of a double. -/
def fractionBits : Nat := 52

/-- The leading bit of a normal significand, which is not stored: it stands above the fraction. -/
def leadingBit : Nat := 1 <<< fractionBits

/-- The sign bit of a double. -/
def signBit : Nat := 1 <<< 63

/-- Exponent of the last place of the subnormal doubles. -/
def leastExponent : Int := -1074

/-- The exponent field that infinities and NaN carry. -/
def exponentLimit : Nat := 2047

def exponentField (bits : UInt64) : Nat :=
  bits.toNat / leadingBit % 2048

def fractionField (bits : UInt64) : Nat :=
  bits.toNat % leadingBit

def signField (bits : UInt64) : Bool :=
  decide (signBit ≤ bits.toNat)

/-- The value of a finite double; infinities and NaN have none. -/
def ofFloat? (x : Float) : Option Binary :=
  let bits := x.toBits
  if exponentField bits = exponentLimit then none
  else if exponentField bits = 0 then
    some ⟨signField bits, fractionField bits, leastExponent⟩
  else
    some ⟨signField bits, leadingBit + fractionField bits,
      leastExponent + (exponentField bits - 1 : Nat)⟩

/-- A value shifted so that its last place is `2 ^ exponent`; no bit is lost where `exponent` is
not above the value's own. -/
def significandAt (d : Binary) (exponent : Int) : Nat :=
  d.significand <<< (d.exponent - exponent).toNat

/-- The bit pattern of a magnitude `significand * 2 ^ exponent` that a double holds exactly. -/
def magnitudeBits (significand : Nat) (exponent : Int) : Nat :=
  if significand = 0 then 0
  else
    let field := significand.log2 + exponent - leastExponent - fractionBits + 1
    if field ≤ 0 then significand <<< (exponent - leastExponent).toNat
    else
      let whole := significand <<< fractionBits >>> significand.log2
      field.toNat * leadingBit + (whole - leadingBit)

/-- The double of this value. The value has to be one that a double holds exactly. -/
def toFloat (d : Binary) : Float :=
  let sign := if d.negative then signBit else 0
  Float.ofBits (UInt64.ofNat (sign + magnitudeBits d.significand d.exponent))

end Binary

end ModularSynth
