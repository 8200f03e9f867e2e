import ModularSynth.Signal.Value

/-!
# Errors of devices

What can go wrong while a device is built from arguments or while it steps, and the text that is
shown for it.
-/

namespace ModularSynth

/-- Why a device could not be built or could not step. -/
inductive DeviceError where
  | inputKind (port : String) (expected found : Kind)
  | unusableRate (hertz : UInt32)
  | unknownArgument (name : String)
  | argumentKind (name : String) (expected found : Kind)
  | duplicateArgument (name : String)
  | failed (reason : String)
  deriving DecidableEq, Repr

/-- The text shown for a device error. -/
def DeviceError.message : DeviceError → String
  | inputKind port expected found =>
    s!"input '{port}' expects {expected.label}, found {found.label}"
  | unusableRate hertz => s!"sampling frequency {hertz} Hz is not usable"
  | unknownArgument name => s!"unknown argument '{name}'"
  | argumentKind name expected found =>
    s!"argument '{name}' expects {expected.label}, found {found.label}"
  | duplicateArgument name => s!"argument '{name}' given more than once"
  | failed reason => reason

end ModularSynth
