import ModularSynth.Patch.Basic

/-!
# Editing a patch

Adding and deleting devices and cables, choosing the output, and the settings. An edit that fails
yields no patch: its conditions are checked first, the source before the destination, and whether
an input is taken last.
-/

namespace ModularSynth

namespace Patch

variable {D : Type}

/-- Adds a device; its ports hold their initial values. -/
def addDevice [Device D] (p : Patch D) (device : D) : DeviceId × Patch D :=
  let (id, devices) := p.devices.insert (.fresh device)
  (id, { p with devices })

/-- Removes a cable from the store and from both indices. -/
def removeCable (p : Patch D) (id : CableId) : Patch D :=
  match p.cables.remove id with
  | (none, _) => p
  | (some cable, cables) =>
    let siblings := (p.outputCables cable.source).filter (· ≠ id)
    { p with
      cables
      feeds := p.feeds.erase cable.destination
      fanOut :=
        if siblings.isEmpty then p.fanOut.erase cable.source
        else p.fanOut.set cable.source siblings }

/-- The cables that touch a device: those at its inputs in the order of connectors, then those at
its outputs, each output's oldest first. A cable from the device to itself occurs twice. -/
def incidentCables (p : Patch D) (id : DeviceId) (placed : Placed D) : List CableId :=
  (List.range placed.inputs.length).filterMap (fun connector => p.inputCable? ⟨id, connector⟩) ++
    (List.range placed.outputs.length).flatMap (fun connector => p.outputCables ⟨id, connector⟩)

/-- Deletes a device and every cable that touches it. If the output lay on it there is none
afterwards. -/
def deleteDevice (p : Patch D) (id : DeviceId) : Except PatchError (Patch D) :=
  match p.devices.get? id with
  | none => .error (.unknownDevice id)
  | some placed =>
    let unplugged := (p.incidentCables id placed).foldl removeCable p
    .ok { unplugged with
      devices := (unplugged.devices.remove id).2
      output := unplugged.output.filter (·.device ≠ id) }

/-- Connects an output to an input that no cable ends at. -/
def connect (p : Patch D) (source destination : PortAddress) :
    Except PatchError (CableId × Patch D) := do
  p.checkAddress source .output
  p.checkAddress destination .input
  if (p.inputCable? destination).isSome then throw (.inputTaken destination)
  let (id, cables) := p.cables.insert ⟨source, destination⟩
  return (id, { p with
    cables
    feeds := p.feeds.set destination id
    fanOut := p.fanOut.set source (p.outputCables source ++ [id]) })

/-- Connects an output to an input, both given by name. -/
def plug [Device D] (p : Patch D) (source : DeviceId) (sourcePort : String)
    (destination : DeviceId) (destinationPort : String) :
    Except PatchError (CableId × Patch D) := do
  let source ← p.resolvePort source sourcePort .output
  let destination ← p.resolvePort destination destinationPort .input
  p.connect source destination

/-- Deletes a cable. -/
def unplug (p : Patch D) (id : CableId) : Except PatchError (Patch D) :=
  if p.cables.contains id then .ok (p.removeCable id) else .error (.unknownCable id)

/-- Chooses the output that is listened to, in place of any chosen before. -/
def setOutput [Device D] (p : Patch D) (id : DeviceId) (port : String) :
    Except PatchError (Patch D) := do
  let address ← p.resolvePort id port .output
  return { p with output := some address }

def clearOutput (p : Patch D) : Patch D :=
  { p with output := none }

def setRate (p : Patch D) (hertz : UInt32) : Patch D :=
  { p with rate := hertz }

/-- Sets the cap on frames per read; zero counts as one. -/
def setReadCap (p : Patch D) (frames : Nat) : Patch D :=
  { p with readCap := max frames 1 }

/-- Brings every device and every port back to the start. -/
def reset [Device D] (p : Patch D) : Patch D :=
  { p with devices := p.devices.map Placed.reset }

end Patch

end ModularSynth
