import ModularSynth.Patch.Slots

/-!
# Addresses of ports, and cables

A port is addressed by its device and its connector number; whether an input or an output is
meant follows from the use. A cable leads from the address of an output to that of an input.
-/

namespace ModularSynth

/-- A port of a device in a patch. -/
structure PortAddress where
  device : DeviceId
  connector : Nat
  deriving DecidableEq, Repr

/-- A connection from an output to an input. A value takes one sample to cross it. -/
structure Cable where
  source : PortAddress
  destination : PortAddress
  deriving DecidableEq, Repr

/-- The text of a device's key. -/
def DeviceId.display (id : DeviceId) : String := s!"#{id.slot}v{id.generation}"

/-- The text of a cable's key. -/
def CableId.display (id : CableId) : String := s!"~{id.slot}v{id.generation}"

/-- The text of an address. -/
def PortAddress.display (address : PortAddress) : String :=
  s!"{DeviceId.display address.device}:{address.connector}"

end ModularSynth
