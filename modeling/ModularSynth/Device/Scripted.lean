import ModularSynth.Device.Basic

/-!
# Scripted devices

A `Scripted` device plays back a list of steps, each a list of actions on its ports. After the
last step of the list it repeats that step. It serves to try out patches with devices of any
behaviour, failures included.
-/

namespace ModularSynth

/-- One action of a scripted step. -/
inductive Action where
  /-- Writes a value to an output. -/
  | emit (output : Nat) (value : Value)
  /-- Carries an input over to an output, as a cable would. -/
  | copy (input output : Nat)
  /-- Writes the integer in an input plus a number, wrapping; other kinds count as zero. -/
  | add (input output : Nat) (amount : Int64)
  /-- Writes the float in an input, which fails on other kinds. -/
  | float (input output : Nat)
  /-- Writes the sampling rate. -/
  | rate (output : Nat)
  /-- Ends the step with a failure. -/
  | fail (reason : String)
  deriving DecidableEq

/-- A device that plays back a script; `played` counts the steps so far. -/
structure Scripted where
  panel : Panel
  script : List (List Action)
  played : Nat := 0
  deriving DecidableEq

namespace Scripted

/-- What one action makes of the outputs. -/
def act (panel : Panel) (rate : UInt32) (inputs outputs : List Value) :
    Action → Except DeviceError (List Value)
  | .emit output value => .ok (outputs.set output value)
  | .copy input output =>
    match inputs[input]? with
    | some value => .ok (outputs.modify output value.carriedOnto)
    | none => .ok outputs
  | .add input output amount =>
    let present := (inputs[input]?.bind Value.integer?).getD 0
    .ok (outputs.set output (.integer (present + amount)))
  | .float input output => do
    let value ← floatInput panel inputs input
    return outputs.set output (.float value)
  | .rate output => .ok (outputs.set output (.integer (Int64.ofNat rate.toNat)))
  | .fail reason => .error (.failed reason)

/-- Plays actions in order up to the first failure. -/
def actAll (panel : Panel) (rate : UInt32) (inputs : List Value) :
    List Action → List Value → List Value × Option DeviceError
  | [], outputs => (outputs, none)
  | action :: actions, outputs =>
    match act panel rate inputs outputs action with
    | .ok outputs => actAll panel rate inputs actions outputs
    | .error failure => (outputs, some failure)

/-- The actions of the next step. -/
def current (device : Scripted) : List Action :=
  (device.script[min device.played (device.script.length - 1)]?).getD []

def step (rate : UInt32) (inputs : List Value) (device : Scripted) (outputs : List Value) :
    StepResult Scripted :=
  if device.script.isEmpty then ⟨device, outputs, none⟩
  else
    let (outputs, failure) := actAll device.panel rate inputs device.current outputs
    ⟨{ device with played := device.played + 1 }, outputs, failure⟩

theorem length_act {panel : Panel} {rate : UInt32} {inputs outputs after : List Value}
    {action : Action} (h : act panel rate inputs outputs action = .ok after) :
    after.length = outputs.length := by
  cases action with
  | copy input output =>
    simp only [act] at h
    split at h <;> cases h <;> simp
  | float input output =>
    simp only [act] at h
    cases hin : floatInput panel inputs input with
    | error e => rw [hin] at h; cases h
    | ok x => rw [hin] at h; cases h; simp
  | fail reason => cases h
  | emit output value => cases h; simp
  | add input output amount => cases h; simp
  | rate output => cases h; simp

theorem length_actAll (panel : Panel) (rate : UInt32) (inputs : List Value)
    (actions : List Action) (outputs : List Value) :
    (actAll panel rate inputs actions outputs).1.length = outputs.length := by
  induction actions generalizing outputs with
  | nil => rfl
  | cons action actions ih =>
    simp only [actAll]
    split
    next after h => rw [ih, length_act h]
    next => rfl

instance : Device Scripted where
  typeName _ := "unknown"
  panel := panel
  step := step
  reset device := { device with played := 0 }
  panel_step := by
    intro rate inputs device outputs
    simp only [step]
    split <;> rfl
  length_step := by
    intro rate inputs device outputs
    simp only [step]
    split
    · rfl
    · exact length_actAll _ _ _ _ _
  panel_reset := by
    intro device
    rfl

end Scripted

end ModularSynth
