import ModularSynth.Device.Error
import ModularSynth.Patch.Address
import ModularSynth.Signal.Port

/-!
# Errors of patches

What can go wrong in an operation on a patch, and the text that is shown for it.
-/

namespace ModularSynth

/-- Why an operation on a patch failed. -/
inductive PatchError where
  | unknownDevice (id : DeviceId)
  | unknownPort (id : DeviceId) (direction : Direction) (name : String)
  | unknownCable (id : CableId)
  | inputTaken (input : PortAddress)
  | deviceFailed (id : DeviceId) (failure : DeviceError)
  | misalignedBuffer (length : Nat)
  deriving DecidableEq, Repr

namespace PatchError

/-- The text shown for an error of a patch. -/
def message : PatchError → String
  | unknownDevice id => s!"unknown component {DeviceId.display id}"
  | unknownPort id direction name =>
    s!"component {DeviceId.display id} has no {direction.label} port named '{name}'"
  | unknownCable id => s!"unknown cable {CableId.display id}"
  | inputTaken input => s!"input {input.display} is already connected"
  | deviceFailed id failure =>
    s!"component {DeviceId.display id} failed to execute: {failure.message}"
  | misalignedBuffer length => s!"buffer of {length} bytes is not a whole number of 4-byte frames"

/-- The texts of the errors that led to this one. -/
def causes : PatchError → List String
  | deviceFailed _ failure => [failure.message]
  | _ => []

end PatchError

end ModularSynth
