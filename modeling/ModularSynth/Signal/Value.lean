import ModularSynth.Number.Decimal

/-!
# Values in ports

Every port holds one `Value`. Integers, floats, samples and truth values travel over cables;
texts never do (`Value.carriedOnto`), they only occur in a patch description and as initial
contents of ports.
-/

namespace ModularSynth

/-- One stereo frame of signed 16-bit amplitudes. -/
structure Sample where
  left : Int16
  right : Int16
  deriving DecidableEq, Repr, Inhabited

namespace Sample

def silence : Sample := ⟨0, 0⟩

/-- The same amplitude on both channels. -/
def mono (amplitude : Int16) : Sample := ⟨amplitude, amplitude⟩

/-- The two bytes of an amplitude, low byte first. -/
def amplitudeBytes (amplitude : Int16) : List UInt8 :=
  [amplitude.toUInt16.toUInt8, (amplitude.toUInt16 >>> 8).toUInt8]

/-- The four bytes of a frame: left low, left high, right low, right high. -/
def bytes (s : Sample) : List UInt8 :=
  amplitudeBytes s.left ++ amplitudeBytes s.right

@[simp]
theorem length_bytes (s : Sample) : s.bytes.length = 4 := rfl

end Sample

/-- What kind of value a port expects or holds. -/
inductive Kind where
  | integer | float | sample | bool | text
  deriving DecidableEq, Repr

/-- The word for a kind in messages. -/
def Kind.label : Kind → String
  | .integer => "integer"
  | .float => "float"
  | .sample => "sample"
  | .bool => "bool"
  | .text => "string"

/-- Equality of values is equality of what they hold: the zeros of either sign differ and NaN
equals itself. `Value.agrees` is the numerical comparison. -/
inductive Value where
  | integer (n : Int64)
  | float (x : Float)
  | sample (s : Sample)
  | bool (b : Bool)
  | text (s : String)
  deriving DecidableEq

namespace Value

def kind : Value → Kind
  | integer _ => .integer
  | float _ => .float
  | sample _ => .sample
  | bool _ => .bool
  | text _ => .text

/-- The value a port of this kind starts with unless it is given another. -/
def zero : Kind → Value
  | .integer => integer 0
  | .float => float 0.0
  | .sample => sample .silence
  | .bool => bool false
  | .text => text ""

@[simp]
theorem kind_zero (k : Kind) : (zero k).kind = k := by
  cases k <;> rfl

def integer? : Value → Option Int64
  | integer n => some n
  | _ => none

def float? : Value → Option Float
  | float x => some x
  | _ => none

def sample? : Value → Option Sample
  | sample s => some s
  | _ => none

def bool? : Value → Option Bool
  | bool b => some b
  | _ => none

def text? : Value → Option String
  | text s => some s
  | _ => none

/-- What a port holds after a cable brought this value to it: a text leaves the port as it was,
anything else replaces its content. -/
def carriedOnto (v old : Value) : Value :=
  match v with
  | text _ => old
  | v => v

theorem carriedOnto_of_kind_ne_text {v : Value} (h : v.kind ≠ .text) (old : Value) :
    v.carriedOnto old = v := by
  cases v with
  | text s => exact absurd rfl h
  | _ => rfl

/-- Numerical comparison: NaN agrees with nothing and the zeros of either sign agree. -/
def agrees : Value → Value → Bool
  | integer m, integer n => m == n
  | float x, float y => x == y
  | sample s, sample t => s == t
  | bool a, bool b => a == b
  | text s, text t => s == t
  | _, _ => false

/-- The text of a value: texts in double quotes, a sample as its two amplitudes. -/
def display : Value → String
  | integer n => toString n
  | float x => floatText x
  | sample s => s!"({s.left}, {s.right})"
  | bool b => if b then "true" else "false"
  | text s => "\"" ++ s ++ "\""

end Value

end ModularSynth
