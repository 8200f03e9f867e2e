import ModularSynth.Device.Basic
import ModularSynth.Number.Rounding
import ModularSynth.Number.Sine

/-!
# Built-in devices

A constant source, a sine oscillator and a converter from floats to stereo samples.
-/

namespace ModularSynth

/-- Largest amplitude that a signal in `[-1, 1]` is brought to. -/
def fullScale : Float := 32767.0

/-- A full turn in radians. -/
def fullTurn : Float := .ofBits 0x401921fb54442d18

/-- The stereo sample of a signal: cut to `[-1, 1]`, brought to full scale and rounded, a half
going away from zero. NaN is silent. -/
def sampleOfSignal (signal : Float) : Sample :=
  let limited := if signal < -1.0 then -1.0 else if 1.0 < signal then 1.0 else signal
  match roundHalfAway? (limited * fullScale) with
  | some amplitude => .mono (Int16.ofInt amplitude)
  | none => .silence

/-- The devices that every patch description can use. The phase of an oscillator is in radians. -/
inductive Builtin where
  | constant (value : Float)
  | oscillator (phase : Float)
  | converter
  deriving DecidableEq

namespace Builtin

/-- An oscillator that has not run yet. -/
def newOscillator : Builtin := oscillator 0.0

def typeName : Builtin → String
  | constant _ => "FloatParam"
  | oscillator _ => "SinGenerator"
  | converter => "FloatToSample"

def constantPanel : Panel where
  outputs := [.ofKind "float" .float "desired float value"]

def oscillatorPanel : Panel where
  inputs := [
    .ofKind "freq" .float "frequency in Hz, between 0 and the sampling frequency",
    .ofKind "gain" .float "amplitude of the sinusoid, min 0",
    .ofKind "offset" .float "DC offset added to the sinusoid"]
  outputs := [.ofKind "sinusoid" .float "sinusoid curve"]

def converterPanel : Panel where
  inputs := [.ofKind "float" .float "float to convert into an audio signal"]
  outputs := [.ofKind "sample" .sample "converted audio"]

def panel : Builtin → Panel
  | constant _ => constantPanel
  | oscillator _ => oscillatorPanel
  | converter => converterPanel

/-- The phase one sample later, kept below a full turn. -/
def advancePhase (rate : UInt32) (frequency phase : Float) : Float :=
  remainder (phase + fullTurn * frequency / rate.toFloat) fullTurn

/-- The oscillator's next phase and output. -/
def oscillate (rate : UInt32) (inputs : List Value) (phase : Float) :
    Except DeviceError (Float × Float) := do
  if rate = 0 then throw (.unusableRate 0)
  let frequency ← floatInput oscillatorPanel inputs 0
  let gain ← floatInput oscillatorPanel inputs 1
  let offset ← floatInput oscillatorPanel inputs 2
  let phase := advancePhase rate frequency phase
  return (phase, sine phase * gain + offset)

def step (rate : UInt32) (inputs : List Value) (device : Builtin) (outputs : List Value) :
    StepResult Builtin :=
  match device with
  | constant value => ⟨device, outputs.set 0 (.float value), none⟩
  | oscillator phase =>
    match oscillate rate inputs phase with
    | .ok (phase, output) => ⟨oscillator phase, outputs.set 0 (.float output), none⟩
    | .error failure => ⟨device, outputs, some failure⟩
  | converter =>
    match floatInput converterPanel inputs 0 with
    | .ok signal => ⟨device, outputs.set 0 (.sample (sampleOfSignal signal)), none⟩
    | .error failure => ⟨device, outputs, some failure⟩

def reset : Builtin → Builtin
  | oscillator _ => newOscillator
  | device => device

instance : Device Builtin where
  typeName := typeName
  panel := panel
  step := step
  reset := reset
  panel_step := by
    intro rate inputs device outputs
    cases device with
    | constant => rfl
    | oscillator phase => simp only [step]; split <;> rfl
    | converter => simp only [step]; split <;> rfl
  length_step := by
    intro rate inputs device outputs
    cases device with
    | constant => simp [step]
    | oscillator phase => simp only [step]; split <;> simp
    | converter => simp only [step]; split <;> simp
  panel_reset := by
    intro device
    cases device <;> rfl

/-- A constant from the argument `value`, which is zero if it is not given. -/
def constantOfArguments (args : Arguments) : Except DeviceError Builtin := do
  let (value, rest) := args.takeFloat "value"
  let value ← value
  rest.finish
  return constant (value.getD 0.0)

/-- An oscillator; it takes no arguments. -/
def oscillatorOfArguments (args : Arguments) : Except DeviceError Builtin := do
  args.finish
  return newOscillator

/-- A converter; it takes no arguments. -/
def converterOfArguments (args : Arguments) : Except DeviceError Builtin := do
  args.finish
  return converter

end Builtin

end ModularSynth
