import ModularSynth.Patch.Edit
import ModularSynth.Patch.Stream

/-!
# Operations on a patch as data

`Operation` lists everything that can be done to a patch; `perform` does it and answers. An edit
that fails leaves the patch as it was, a pass that fails leaves what it did up to the failure.
-/

namespace ModularSynth

inductive Operation (D : Type) where
  | addDevice (device : D)
  | deleteDevice (id : DeviceId)
  | plug (source : DeviceId) (sourcePort : String)
      (destination : DeviceId) (destinationPort : String)
  | connect (source destination : PortAddress)
  | unplug (id : CableId)
  | setOutput (id : DeviceId) (port : String)
  | clearOutput
  | setRate (hertz : UInt32)
  | setReadCap (frames : Nat)
  | pass
  | readFrames (buffer : List UInt8)
  | reset

/-- What an operation answers. A read also hands back its buffer. -/
inductive Answer where
  | done
  | device (id : DeviceId)
  | cable (id : CableId)
  | failed (error : PatchError)
  | read (outcome : Except PatchError Nat) (buffer : List UInt8)

namespace Patch

variable {D : Type}

/-- The answer and the patch after an edit that yields nothing but a patch. -/
def settle (p : Patch D) : Except PatchError (Patch D) → Answer × Patch D
  | .ok after => (.done, after)
  | .error error => (.failed error, p)

/-- The answer and the patch after an edit that yields a cable. -/
def settleCable (p : Patch D) : Except PatchError (CableId × Patch D) → Answer × Patch D
  | .ok (id, after) => (.cable id, after)
  | .error error => (.failed error, p)

/-- Does one operation. -/
def perform [Device D] (p : Patch D) : Operation D → Answer × Patch D
  | .addDevice device =>
    let (id, after) := p.addDevice device
    (.device id, after)
  | .deleteDevice id => p.settle (p.deleteDevice id)
  | .plug source sourcePort destination destinationPort =>
    p.settleCable (p.plug source sourcePort destination destinationPort)
  | .connect source destination => p.settleCable (p.connect source destination)
  | .unplug id => p.settle (p.unplug id)
  | .setOutput id port => p.settle (p.setOutput id port)
  | .clearOutput => (.done, p.clearOutput)
  | .setRate hertz => (.done, p.setRate hertz)
  | .setReadCap frames => (.done, p.setReadCap frames)
  | .pass =>
    match p.pass with
    | (.ok (), after) => (.done, after)
    | (.error error, after) => (.failed error, after)
  | .readFrames buffer =>
    let result := p.readFrames buffer
    (.read result.outcome result.buffer, result.patch)
  | .reset => (.done, p.reset)

/-- Does operations in order, failing ones included. -/
def run [Device D] (p : Patch D) : List (Operation D) → List Answer × Patch D
  | [] => ([], p)
  | operation :: operations =>
    let (answer, after) := p.perform operation
    let (answers, last) := after.run operations
    (answer :: answers, last)

/-- A patch that some operations make out of an empty one. -/
def Reachable [Device D] (p : Patch D) : Prop :=
  ∃ (settings : Settings) (operations : List (Operation D)),
    p = ((ofSettings settings).run operations).2

end Patch

end ModularSynth
