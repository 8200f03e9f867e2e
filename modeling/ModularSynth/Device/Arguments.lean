import ModularSynth.Device.Error

/-!
# Construction arguments

`Arguments` is a map from names to values that keeps the order in which names were first given.
A constructor takes out what it understands and then calls `finish`, which refuses what is left.
-/

namespace ModularSynth

/-- Named values in the order in which their names were first given. -/
structure Arguments where
  entries : List (String × Value) := []
  deriving DecidableEq

namespace Arguments

def empty : Arguments := {}

def size (args : Arguments) : Nat := args.entries.length

def isEmpty (args : Arguments) : Bool := args.entries.isEmpty

def get? (args : Arguments) (name : String) : Option Value :=
  args.entries.lookup name

/-- Some entry has this name. -/
def contains (args : Arguments) (name : String) : Bool :=
  args.entries.any (·.1 == name)

/-- Gives a name a value: in its place if it has one already, else at the end. -/
def set (args : Arguments) (name : String) (value : Value) : Arguments :=
  if args.contains name then
    ⟨args.entries.map fun entry => if entry.1 == name then (entry.1, value) else entry⟩
  else ⟨args.entries ++ [(name, value)]⟩

/-- Adds a name at the end; a name that is present already is refused. -/
def insert (args : Arguments) (name : String) (value : Value) : Except DeviceError Arguments :=
  if args.contains name then .error (.duplicateArgument name)
  else .ok ⟨args.entries ++ [(name, value)]⟩

/-- Takes a name out, the order of the rest being kept. -/
def take (args : Arguments) (name : String) : Option Value × Arguments :=
  (args.get? name, ⟨args.entries.eraseP (·.1 == name)⟩)

/-- Takes a name out and reads its value as a float, an integer becoming the nearest one. The
name is gone also when its value is neither. -/
def takeFloat (args : Arguments) (name : String) :
    Except DeviceError (Option Float) × Arguments :=
  let (value, rest) := args.take name
  match value with
  | none => (.ok none, rest)
  | some (.float x) => (.ok (some x), rest)
  | some (.integer n) => (.ok (some (Float.ofInt n.toInt)), rest)
  | some other => (.error (.argumentKind name .float other.kind), rest)

/-- Succeeds when every argument was taken, else names the first that was not. -/
def finish (args : Arguments) : Except DeviceError Unit :=
  match args.entries with
  | [] => .ok ()
  | (name, _) :: _ => .error (.unknownArgument name)

/-- Collects pairs in order; a later value for a name replaces the earlier one in its place. -/
def ofList (pairs : List (String × Value)) : Arguments :=
  pairs.foldl (fun args pair => args.set pair.1 pair.2) empty

@[simp]
theorem size_empty : empty.size = 0 := rfl

theorem contains_eq_false_iff (args : Arguments) (name : String) :
    args.contains name = false ↔ name ∉ args.entries.map (·.1) := by
  unfold contains
  rw [List.any_eq_false, List.mem_map]
  constructor
  · intro absent given
    obtain ⟨entry, member, rfl⟩ := given
    exact absent entry member (beq_self_eq_true _)
  · intro absent entry member same
    exact absent ⟨entry, member, eq_of_beq same⟩

end Arguments

end ModularSynth
