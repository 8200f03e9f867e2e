import ModularSynth.Signal.Value

/-!
# Ports and panels

A device describes its ports once: a `Panel` lists its input ports and its output ports. The
place of a port in its list is its connector number; inputs and outputs are numbered apart.
-/

namespace ModularSynth

/-- The side of a device that a port lies on. -/
inductive Direction where
  | input | output
  deriving DecidableEq, Repr

/-- The word for a side in messages. -/
def Direction.label : Direction → String
  | input => "input"
  | output => "output"

/-- A port as its device declares it. Its initial content is what it holds before anything is
written to it. -/
structure Port where
  name : String
  description : String := ""
  initial : Value
  deriving DecidableEq

namespace Port

/-- A port that starts with the zero of its kind. -/
def ofKind (name : String) (kind : Kind) (description : String := "") : Port :=
  { name, description, initial := .zero kind }

/-- A port expects values of the kind it starts with. -/
def kind (p : Port) : Kind := p.initial.kind

end Port

/-- The ports of a device, in the order of their connector numbers. -/
structure Panel where
  inputs : List Port := []
  outputs : List Port := []
  deriving DecidableEq

namespace Panel

def ports (panel : Panel) : Direction → List Port
  | .input => panel.inputs
  | .output => panel.outputs

/-- Connector number of the first port with this name. -/
def indexOf? (panel : Panel) (direction : Direction) (name : String) : Option Nat :=
  (panel.ports direction).findIdx? (·.name = name)

/-- Connector number of the last port with this name. -/
def lastIndexOf? (panel : Panel) (direction : Direction) (name : String) : Option Nat :=
  let ports := panel.ports direction
  (ports.reverse.findIdx? (·.name = name)).map (ports.length - 1 - ·)

/-- The first port with this name. -/
def port? (panel : Panel) (direction : Direction) (name : String) : Option Port :=
  (panel.ports direction).find? (·.name = name)

/-- What the ports of one side hold before anything is written to them. -/
def initialValues (panel : Panel) (direction : Direction) : List Value :=
  (panel.ports direction).map (·.initial)

@[simp]
theorem length_initialValues (panel : Panel) (direction : Direction) :
    (panel.initialValues direction).length = (panel.ports direction).length := by
  simp [initialValues]

end Panel

end ModularSynth
