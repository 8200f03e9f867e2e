import ModularSynth.Patch.Basic

/-!
# One pass over a patch

A pass makes one sample in two phases. First every cable carries the value in its output to its
input. Then every device steps once, in the order of slots, reading only its own inputs. As all
values cross before any device steps, each cable delays its signal by exactly one sample and the
order of stepping cannot be heard, feedback included. A device that fails ends the pass: what it
wrote before stays written, devices in lower slots have stepped, those in higher slots have not.
-/

namespace ModularSynth

/-- Writes a value that arrives over a cable to an input. -/
def Placed.receive {D : Type} (connector : Nat) (value : Value) (placed : Placed D) :
    Placed D :=
  { placed with inputs := placed.inputs.modify connector value.carriedOnto }

namespace Patch

variable {D : Type}

/-- What a cable finds in its output; texts do not travel. -/
def carried? (devices : Slots .device (Placed D)) (cable : Cable) : Option Value :=
  ((devices.get? cable.source.device).bind (·.outputs[cable.source.connector]?)).filter
    (·.kind ≠ .text)

/-- Carries the value of one cable from its output to its input. -/
def carry (devices : Slots .device (Placed D)) (cable : Cable) : Slots .device (Placed D) :=
  match carried? devices cable with
  | none => devices
  | some value =>
    devices.update cable.destination.device (Placed.receive cable.destination.connector value)

/-- The first phase: every cable in the order of slots carries its value. -/
def propagate (p : Patch D) : Patch D :=
  { p with devices := p.cables.values.foldl carry p.devices }

/-- The second phase: every device steps once, up to the first failure. -/
def stepAll [Device D] (p : Patch D) : Except PatchError Unit × Patch D :=
  let (devices, failure) := p.devices.updateUntil fun id placed =>
    let (placed, failure) := placed.step p.rate
    (placed, failure.map (PatchError.deviceFailed id))
  match failure with
  | none => (.ok (), { p with devices })
  | some failure => (.error failure, { p with devices })

/-- Makes one sample. -/
def pass [Device D] (p : Patch D) : Except PatchError Unit × Patch D :=
  p.propagate.stepAll

/-- Makes samples one after the other up to the first failure, which comes with the number of
passes before it. -/
def passes [Device D] (p : Patch D) : Nat → Except (PatchError × Nat) Unit × Patch D
  | 0 => (.ok (), p)
  | count + 1 =>
    match p.pass with
    | (.error failure, after) => (.error (failure, 0), after)
    | (.ok (), after) =>
      match after.passes count with
      | (.error (failure, done), last) => (.error (failure, done + 1), last)
      | (.ok (), last) => (.ok (), last)

end Patch

end ModularSynth
