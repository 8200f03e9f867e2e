import ModularSynth.Device.Basic
import ModularSynth.Patch.Error
import ModularSynth.Patch.PortIndex
import ModularSynth.Settings

/-!
# Patches

A `Patch` holds devices with the values in their ports, the cables between them, the sampling
rate and the output that is listened to. Two indices are kept in step with the cables: `feeds`
gives the cable that ends at an input, `fanOut` the cables that leave an output, oldest first.
-/

namespace ModularSynth

/-- A device in a patch with the values in its ports. -/
structure Placed (D : Type) where
  device : D
  inputs : List Value
  outputs : List Value

namespace Placed

variable {D : Type}

/-- A device whose ports hold their initial values. -/
def fresh [Device D] (device : D) : Placed D :=
  { device
    inputs := (Device.panel device).initialValues .input
    outputs := (Device.panel device).initialValues .output }

def values (placed : Placed D) : Direction → List Value
  | .input => placed.inputs
  | .output => placed.outputs

/-- Every port of a new device holds the initial value that is declared for it. -/
theorem getElem?_values_fresh [Device D] (device : D) (direction : Direction) (connector : Nat) :
    ((fresh device).values direction)[connector]? =
      (((Device.panel device).ports direction)[connector]?).map (·.initial) := by
  cases direction with
  | input => exact List.getElem?_map
  | output => exact List.getElem?_map

/-- The device and all its ports as at the start. -/
def reset [Device D] (placed : Placed D) : Placed D :=
  fresh (Device.reset placed.device)

/-- One step of the device. -/
def step [Device D] (rate : UInt32) (placed : Placed D) : Placed D × Option DeviceError :=
  let result := Device.step rate placed.inputs placed.device placed.outputs
  ({ placed with device := result.device, outputs := result.outputs }, result.failure)

section Step

variable [Device D] (rate : UInt32) (placed : Placed D)

@[simp]
theorem device_step : (placed.step rate).1.device =
    (Device.step rate placed.inputs placed.device placed.outputs).device := rfl

@[simp]
theorem outputs_step : (placed.step rate).1.outputs =
    (Device.step rate placed.inputs placed.device placed.outputs).outputs := rfl

@[simp]
theorem inputs_step : (placed.step rate).1.inputs = placed.inputs := rfl

@[simp]
theorem failure_step : (placed.step rate).2 =
    (Device.step rate placed.inputs placed.device placed.outputs).failure := rfl

end Step

end Placed

structure Patch (D : Type) where
  devices : Slots .device (Placed D) := .empty
  cables : Slots .cable Cable := .empty
  /-- The cable that ends at an input. -/
  feeds : PortIndex CableId := .empty
  /-- The cables that leave an output, in the order in which they were connected. -/
  fanOut : PortIndex (List CableId) := .empty
  rate : UInt32
  /-- The most frames that one read produces; at least one. -/
  readCap : Nat
  /-- The output that is listened to. -/
  output : Option PortAddress := none

namespace Patch

variable {D : Type}

/-- A patch without devices. -/
def ofSettings (settings : Settings) : Patch D :=
  { rate := settings.rate, readCap := max settings.readCap 1 }

/-- An empty patch at a sampling rate. -/
def ofRate (rate : UInt32) : Patch D :=
  ofSettings { rate }

def deviceCount (p : Patch D) : Nat := p.devices.size

def cableCount (p : Patch D) : Nat := p.cables.size

/-- The keys of all devices, in the order in which they step. -/
def deviceIds (p : Patch D) : List DeviceId := p.devices.keys

def device? (p : Patch D) (id : DeviceId) : Option D :=
  (p.devices.get? id).map (·.device)

def cable? (p : Patch D) (id : CableId) : Option Cable := p.cables.get? id

/-- The cable that ends at an input. -/
def inputCable? (p : Patch D) (input : PortAddress) : Option CableId := p.feeds.get? input

/-- The cables that leave an output, oldest first. -/
def outputCables (p : Patch D) (output : PortAddress) : List CableId :=
  (p.fanOut.get? output).getD []

def portValue? (p : Patch D) (direction : Direction) (address : PortAddress) : Option Value :=
  (p.devices.get? address.device).bind fun placed =>
    (placed.values direction)[address.connector]?

def inputValue? (p : Patch D) (input : PortAddress) : Option Value := p.portValue? .input input

def outputValue? (p : Patch D) (output : PortAddress) : Option Value :=
  p.portValue? .output output

/-- The sample in the output that is listened to; silence if there is none. -/
def currentFrame (p : Patch D) : Sample :=
  ((p.output.bind p.outputValue?).bind Value.sample?).getD .silence

/-- The port of a device with this name. Of ports with one name the last is meant. -/
def resolvePort [Device D] (p : Patch D) (id : DeviceId) (name : String)
    (direction : Direction) : Except PatchError PortAddress :=
  match p.devices.get? id with
  | none => .error (.unknownDevice id)
  | some placed =>
    match (Device.panel placed.device).lastIndexOf? direction name with
    | none => .error (.unknownPort id direction name)
    | some connector => .ok ⟨id, connector⟩

/-- Succeeds when the address is that of a port; a missing port is reported by its number. -/
def checkAddress (p : Patch D) (address : PortAddress) (direction : Direction) :
    Except PatchError Unit :=
  match p.devices.get? address.device with
  | none => .error (.unknownDevice address.device)
  | some placed =>
    if address.connector < (placed.values direction).length then .ok ()
    else .error (.unknownPort address.device direction (toString address.connector))

/-- A one-line account of a patch. -/
def summary (p : Patch D) : String :=
  let output := match p.output with
    | none => "None"
    | some address =>
      let id := address.device
      s!"Some(PortAddress \x7b component: ComponentId({id.slot}v{id.generation}), " ++
        s!"connector: {address.connector} \x7d)"
  s!"Graph \x7b components: {p.deviceCount}, cables: {p.cableCount}, " ++
    s!"sampling_frequency: {p.rate}, output: {output} \x7d"

end Patch

end ModularSynth
