import ModularSynth.Device.Arguments
import ModularSynth.Signal.Port

/-!
# Devices

A `Device` is anything with a panel that computes one sample at a time: from the sampling rate,
the values in its input ports and those in its output ports it makes new values for the output
ports. What it does may depend on a state of its own, which `reset` brings back to the start. A
step never changes the panel, nor the number of output ports.
-/

namespace ModularSynth

/-- What a step leaves behind: the device, its output ports, and the failure if there was one.
What was written before a failure stays written. -/
structure StepResult (D : Type) where
  device : D
  outputs : List Value
  failure : Option DeviceError := none

class Device (D : Type) where
  typeName : D → String
  panel : D → Panel
  /-- One sample at the given rate, from the inputs and the present outputs. -/
  step : (rate : UInt32) → (inputs : List Value) → D → (outputs : List Value) → StepResult D
  reset : D → D
  panel_step : ∀ rate inputs device outputs,
    panel (step rate inputs device outputs).device = panel device
  length_step : ∀ rate inputs device outputs,
    (step rate inputs device outputs).outputs.length = outputs.length
  panel_reset : ∀ device, panel (reset device) = panel device

attribute [simp] Device.panel_step Device.length_step Device.panel_reset

/-- The float in an input port. A value of another kind is reported under the port's name. -/
def floatInput (panel : Panel) (inputs : List Value) (connector : Nat) :
    Except DeviceError Float :=
  match inputs[connector]? with
  | none => .error (.failed s!"input {connector} missing from port slots")
  | some (.float x) => .ok x
  | some other =>
    let port := (panel.inputs[connector]?.map (·.name)).getD ""
    .error (.inputKind port .float other.kind)

/-- Devices of two sorts side by side. -/
instance {A B : Type} [Device A] [Device B] : Device (A ⊕ B) where
  typeName
    | .inl a => Device.typeName a
    | .inr b => Device.typeName b
  panel
    | .inl a => Device.panel a
    | .inr b => Device.panel b
  step rate inputs device outputs :=
    match device with
    | .inl a =>
      let result := Device.step rate inputs a outputs
      { result with device := .inl result.device }
    | .inr b =>
      let result := Device.step rate inputs b outputs
      { result with device := .inr result.device }
  reset
    | .inl a => .inl (Device.reset a)
    | .inr b => .inr (Device.reset b)
  panel_step := by
    intro rate inputs device outputs
    cases device <;> exact Device.panel_step rate inputs _ outputs
  length_step := by
    intro rate inputs device outputs
    cases device <;> exact Device.length_step rate inputs _ outputs
  panel_reset := by
    intro device
    cases device <;> exact Device.panel_reset _

end ModularSynth
