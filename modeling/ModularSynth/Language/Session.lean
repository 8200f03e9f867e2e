import ModularSynth.Device.Registry
import ModularSynth.Language.Statement
import ModularSynth.Patch.Edit

/-!
# Carrying out statements

A `Session` is a patch under construction with the variables that name its devices. The output is
chosen by two parameters, one for the device and one for the port; each can be given once and the
choice is made when both are known. A statement that fails changes neither patch nor variables.
-/

namespace ModularSynth

/-- Why a statement could not be carried out. -/
inductive SessionFault where
  | unknownParameter (name : String)
  | parameterKind (name : String) (expected found : Kind)
  | parameterAlreadySet (name : String)
  | rateOutOfRange (value : Int64)
  | unknownVariable (name : String)
  | duplicateVariable (name : String)
  | unknownType (typeName : String)
  | construction (typeName : String) (failure : DeviceError)
  | patch (error : PatchError)
  deriving DecidableEq, Repr

namespace SessionFault

/-- The text of a fault without its place. -/
def message : SessionFault → String
  | unknownParameter name => s!"unknown parameter '{name}'"
  | parameterKind name expected found => s!"{name} expects {expected.label}, found {found.label}"
  | parameterAlreadySet name => s!"{name} can be set only once"
  | rateOutOfRange value => s!"sampling frequency {value} is out of range"
  | unknownVariable name => s!"variable '{name}' is not declared"
  | duplicateVariable name => s!"variable '{name}' is already declared"
  | unknownType typeName => s!"unknown component type '{typeName}'"
  | construction typeName failure => s!"cannot construct {typeName}: {failure.message}"
  | patch error => error.message

/-- The texts of the errors that led to this fault. -/
def causes : SessionFault → List String
  | construction _ failure => [failure.message]
  | patch error => error.message :: error.causes
  | _ => []

/-- What the registry's errors mean for the statement that needed a device. -/
def ofRegistry : RegistryError → SessionFault
  | .unknownType typeName => unknownType typeName
  | .construction typeName failure => construction typeName failure

end SessionFault

/-- A fault and the place of the statement. -/
structure SessionError where
  fault : SessionFault
  position : Position
  deriving DecidableEq, Repr

namespace SessionError

def message (error : SessionError) : String :=
  s!"{error.position.display}: {error.fault.message}"

def line (error : SessionError) : Nat := error.position.line

end SessionError

/-- The names of the parameters. -/
def rateParameter : String := "SAMPLING_FREQ"
def outputDeviceParameter : String := "OUTPUT_COMPONENT"
def outputPortParameter : String := "OUTPUT_PORT"

/-- A patch under construction. `outputBound` tells that the output has been chosen, or that the
choice failed; it is not made again. -/
structure Session (D : Type) where
  patch : Patch D
  /-- The variables with the devices that they name, oldest first. -/
  bindings : List (String × DeviceId) := []
  outputDevice : Option DeviceId := none
  outputPort : Option String := none
  outputBound : Bool := false

namespace Session

variable {D : Type}

/-- The device that a variable names. -/
def lookup? (s : Session D) (name : String) : Option DeviceId :=
  s.bindings.lookup name

def lookup (s : Session D) (name : String) : Except SessionFault DeviceId :=
  match s.lookup? name with
  | some id => .ok id
  | none => .error (.unknownVariable name)

/-- The text that a parameter was given. -/
def expectText (name : String) : Value → Except SessionFault String
  | .text text => .ok text
  | other => .error (.parameterKind name .text other.kind)

/-- The sampling rate that a parameter was given: a positive number of 32 bits. -/
def expectRate (name : String) : Value → Except SessionFault UInt32
  | .integer n =>
    if 0 < n.toInt ∧ n.toInt < UInt32.size then .ok (UInt32.ofNat n.toInt.toNat)
    else .error (.rateOutOfRange n)
  | other => .error (.parameterKind name .integer other.kind)

/-- Makes the choice of the output once both its parts are known. A choice that fails is not made
again. -/
def bindOutput [Device D] (s : Session D) : Except SessionFault Unit × Session D :=
  match s.outputBound, s.outputDevice, s.outputPort with
  | false, some id, some port =>
    let bound := { s with outputBound := true }
    match s.patch.setOutput id port with
    | .ok patch => (.ok (), { bound with patch })
    | .error error => (.error (.patch error), bound)
  | _, _, _ => (.ok (), s)

/-- Records what a parameter was given. -/
def setParameter (s : Session D) (name : String) (value : Value) :
    Except SessionFault (Session D) :=
  if name = rateParameter then do
    let rate ← expectRate name value
    return { s with patch := s.patch.setRate rate }
  else if name = outputDeviceParameter then do
    if s.outputDevice.isSome then throw (.parameterAlreadySet name)
    let id ← s.lookup (← expectText name value)
    return { s with outputDevice := some id }
  else if name = outputPortParameter then do
    if s.outputPort.isSome then throw (.parameterAlreadySet name)
    let port ← expectText name value
    return { s with outputPort := some port }
  else .error (.unknownParameter name)

/-- Builds a device and gives it a variable that names no other. -/
def create [Device D] (registry : Registry D) (s : Session D) (name typeName : String)
    (arguments : Arguments) : Except SessionFault (Session D) := do
  if (s.lookup? name).isSome then throw (.duplicateVariable name)
  let device ← (registry.instantiate typeName arguments).mapError .ofRegistry
  let (id, patch) := s.patch.addDevice device
  return { s with patch, bindings := s.bindings ++ [(name, id)] }

/-- Connects two ports of devices that variables name. -/
def connect [Device D] (s : Session D) (source destination : Endpoint) :
    Except SessionFault (Session D) := do
  let sourceId ← s.lookup source.device
  let destinationId ← s.lookup destination.device
  let (_, patch) ←
    (s.patch.plug sourceId source.port destinationId destination.port).mapError .patch
  return { s with patch }

/-- Carries out a command. -/
def perform [Device D] (registry : Registry D) (s : Session D) :
    Command → Except SessionFault Unit × Session D
  | .parameter name value =>
    match s.setParameter name value with
    | .ok after => after.bindOutput
    | .error fault => (.error fault, s)
  | .create name typeName arguments =>
    match s.create registry name typeName arguments with
    | .ok after => (.ok (), after)
    | .error fault => (.error fault, s)
  | .connect source destination =>
    match s.connect source destination with
    | .ok after => (.ok (), after)
    | .error fault => (.error fault, s)

/-- Carries out a statement; a fault is reported at its place. -/
def execute [Device D] (registry : Registry D) (s : Session D) (statement : Statement) :
    Except SessionError Unit × Session D :=
  let (outcome, after) := s.perform registry statement.command
  (outcome.mapError (⟨·, statement.position⟩), after)

end Session

end ModularSynth
