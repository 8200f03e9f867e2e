import ModularSynth.Device.Builtin

/-!
# Registries of device types

A `Registry` maps the names that patch descriptions use to constructors. Names are kept in
ascending order and a name registered again gets its new constructor in place of the old one.
What a listing tells about a type includes the ports of a device built without arguments.
-/

namespace ModularSynth

/-- Builds a device from arguments. -/
abbrev Factory (D : Type) := Arguments → Except DeviceError D

namespace Factory

variable {D : Type}

/-- A factory that takes no arguments. -/
def withoutArguments (device : D) : Factory D := fun args => do
  args.finish
  return device

/-- A factory that never succeeds. -/
def failing (reason : String) : Factory D := fun _ => .error (.failed reason)

/-- A factory that needs one float argument and takes no other. -/
def requiring (name : String) (build : Float → D) : Factory D := fun args => do
  let (value, rest) := args.takeFloat name
  match ← value with
  | none => .error (.failed s!"missing argument '{name}'")
  | some value =>
    rest.finish
    return build value

/-- The same devices among those of a larger sort. -/
def map {E : Type} (embed : D → E) (factory : Factory D) : Factory E :=
  fun args => (factory args).map embed

end Factory

/-- A registered type. `panel?` is the panel of a device built without arguments, if one can be
built so. -/
structure Registration (D : Type) where
  typeName : String
  description : String
  factory : Factory D
  panel? : Option Panel

/-- Why the registry could not deliver a device. -/
inductive RegistryError where
  | unknownType (typeName : String)
  | construction (typeName : String) (failure : DeviceError)
  deriving DecidableEq, Repr

namespace RegistryError

def message : RegistryError → String
  | unknownType typeName => s!"unknown component type '{typeName}'"
  | construction typeName failure => s!"cannot construct {typeName}: {failure.message}"

/-- The texts of the errors that led to this one. -/
def causes : RegistryError → List String
  | unknownType _ => []
  | construction _ failure => [failure.message]

end RegistryError

/-- Registered types in ascending order of their names. -/
structure Registry (D : Type) where
  registrations : List (Registration D) := []

namespace Registry

variable {D : Type}

def empty : Registry D := {}

/-- Puts a registration in its place, or in the place of the one with its name. -/
def place (registration : Registration D) : List (Registration D) → List (Registration D)
  | [] => [registration]
  | other :: rest =>
    if registration.typeName = other.typeName then registration :: rest
    else if registration.typeName < other.typeName then registration :: other :: rest
    else other :: place registration rest

/-- Registers a type. The factory is tried once without arguments to learn the ports. -/
def register [Device D] (registry : Registry D) (typeName description : String)
    (factory : Factory D) : Registry D :=
  let panel? := match factory .empty with
    | .ok device => some (Device.panel device)
    | .error _ => none
  ⟨place { typeName, description, factory, panel? } registry.registrations⟩

def find? (registry : Registry D) (typeName : String) : Option (Registration D) :=
  registry.registrations.find? (·.typeName = typeName)

def contains (registry : Registry D) (typeName : String) : Bool :=
  (registry.find? typeName).isSome

def typeNames (registry : Registry D) : List String :=
  registry.registrations.map (·.typeName)

/-- Builds a device of a registered type. -/
def instantiate (registry : Registry D) (typeName : String) (args : Arguments) :
    Except RegistryError D :=
  match registry.find? typeName with
  | none => .error (.unknownType typeName)
  | some registration =>
    (registration.factory args).mapError (.construction typeName)

theorem find?_place (registration : Registration D) (registrations : List (Registration D))
    (typeName : String) :
    (place registration registrations).find? (·.typeName = typeName) =
      if registration.typeName = typeName then some registration
      else registrations.find? (·.typeName = typeName) := by
  induction registrations with
  | nil =>
    by_cases h : registration.typeName = typeName <;> simp [place, h]
  | cons other rest ih =>
    by_cases hsame : registration.typeName = other.typeName
    · by_cases h : registration.typeName = typeName
      · simp [place, hsame, ← h]
      · have hother : other.typeName ≠ typeName := fun h' => h (hsame.trans h')
        simp [place, hsame, hother]
    · by_cases hless : registration.typeName < other.typeName
      · have hplace : place registration (other :: rest) = registration :: other :: rest := by
          simp [place, hsame, hless]
        rw [hplace, List.find?_cons]
        by_cases h : registration.typeName = typeName <;> simp [h]
      · have hplace : place registration (other :: rest) = other :: place registration rest := by
          simp [place, hsame, hless]
        rw [hplace, List.find?_cons, List.find?_cons, ih]
        by_cases h : registration.typeName = typeName
        · have hother : other.typeName ≠ typeName := fun h' => hsame (h.trans h'.symm)
          simp [h, hother]
        · simp [h]

/-- The three built-in types, for devices among which the built-in ones are. -/
def builtins [Device D] (embed : Builtin → D) : Registry D :=
  empty
    |>.register "FloatParam" "Constant float source; argument value"
      (Factory.map embed Builtin.constantOfArguments)
    |>.register "SinGenerator" "Sine oscillator with frequency, gain and offset inputs"
      (Factory.map embed Builtin.oscillatorOfArguments)
    |>.register "FloatToSample" "Converts a float in [-1, 1] into a 16-bit stereo frame"
      (Factory.map embed Builtin.converterOfArguments)

end Registry

end ModularSynth
