/-!
# Slots that are reused

`Slots` stores values under keys. A key is the number of a slot and a generation. When a value is
removed its slot waits at the end of a queue, and the slot that has waited longest is filled next;
each filling takes a new generation, so that the keys of earlier occupants find nothing.
Generations are odd and wrap at 32 bits.
-/

namespace ModularSynth

/-- What a key names: devices and cables have keys of different types. -/
inductive Resident where
  | device | cable
  deriving DecidableEq, Repr

/-- The number of a slot and the generation of its occupant. -/
structure Key (resident : Resident) where
  slot : UInt32
  generation : UInt32
  deriving DecidableEq, Repr

abbrev DeviceId := Key .device
abbrev CableId := Key .cable

/-- The generation of the first occupant of a slot. -/
def firstGeneration : UInt32 := 1

/-- The generation that follows when a slot is filled again. -/
def nextGeneration (generation : UInt32) : UInt32 := generation + 2

structure Slot (α : Type) where
  generation : UInt32
  occupant : Option α

/-- Values under keys. `free` lists the vacant slots, the one that has waited longest first, and
`size` counts the occupied ones. -/
structure Slots (resident : Resident) (α : Type) where
  slots : List (Slot α) := []
  free : List UInt32 := []
  size : Nat := 0

namespace Slot

def fill (a : α) (slot : Slot α) : Slot α :=
  ⟨nextGeneration slot.generation, some a⟩

def vacate (slot : Slot α) : Slot α :=
  { slot with occupant := none }

/-- The occupant, if it has the generation asked for. -/
def holding? (slot : Slot α) (generation : UInt32) : Option α :=
  if slot.generation = generation then slot.occupant else none

def update (generation : UInt32) (f : α → α) (slot : Slot α) : Slot α :=
  if slot.generation = generation then { slot with occupant := slot.occupant.map f } else slot

end Slot

namespace Slots

variable {resident : Resident} {α : Type}

def empty : Slots resident α := {}

def get? (s : Slots resident α) (key : Key resident) : Option α :=
  s.slots[key.slot.toNat]?.bind (·.holding? key.generation)

def contains (s : Slots resident α) (key : Key resident) : Bool :=
  (s.get? key).isSome

/-- Stores a value in the slot that has been vacant longest, or in a new slot. -/
def insert (s : Slots resident α) (a : α) : Key resident × Slots resident α :=
  match s.free with
  | index :: free =>
    let generation := (s.slots[index.toNat]?.map (·.generation)).getD 0
    (⟨index, nextGeneration generation⟩,
      { slots := s.slots.modify index.toNat (Slot.fill a), free, size := s.size + 1 })
  | [] =>
    (⟨UInt32.ofNat s.slots.length, firstGeneration⟩,
      { slots := s.slots ++ [⟨firstGeneration, some a⟩], free := [], size := s.size + 1 })

/-- Takes the value of a key out; a key that names nothing leaves all as it is. -/
def remove (s : Slots resident α) (key : Key resident) : Option α × Slots resident α :=
  match s.get? key with
  | some a =>
    (some a,
      { slots := s.slots.modify key.slot.toNat Slot.vacate
        free := s.free ++ [key.slot]
        size := s.size - 1 })
  | none => (none, s)

/-- Changes the value of a key, if it names one. -/
def update (s : Slots resident α) (key : Key resident) (f : α → α) : Slots resident α :=
  { s with slots := s.slots.modify key.slot.toNat (Slot.update key.generation f) }

/-- Changes every value. -/
def map (s : Slots resident α) (f : α → α) : Slots resident α :=
  { s with slots := s.slots.map fun slot => { slot with occupant := slot.occupant.map f } }

/-- The key of the occupant of the slot with this number. -/
def keyAt (index : Nat) (generation : UInt32) : Key resident :=
  ⟨UInt32.ofNat index, generation⟩

/-- Keys and values of a list of slots, the first of which has the given number. -/
def entriesFrom : Nat → List (Slot α) → List (Key resident × α)
  | _, [] => []
  | index, slot :: slots =>
    match slot.occupant with
    | some a => (keyAt index slot.generation, a) :: entriesFrom (index + 1) slots
    | none => entriesFrom (index + 1) slots

/-- Keys and values in the order of their slots. -/
def entries (s : Slots resident α) : List (Key resident × α) :=
  entriesFrom 0 s.slots

def keys (s : Slots resident α) : List (Key resident) := s.entries.map (·.1)

def values (s : Slots resident α) : List α := s.entries.map (·.2)

/-- Changes the values of a list of slots one after the other, up to the first that reports a
failure. What that value was changed to is kept; those after it stay as they are. -/
def updateUntilFrom {ε : Type} (f : Key resident → α → α × Option ε) :
    Nat → List (Slot α) → List (Slot α) × Option ε
  | _, [] => ([], none)
  | index, slot :: slots =>
    match slot.occupant with
    | none =>
      let (slots, failure) := updateUntilFrom f (index + 1) slots
      (slot :: slots, failure)
    | some a =>
      match f (keyAt index slot.generation) a with
      | (a, some failure) => ({ slot with occupant := some a } :: slots, some failure)
      | (a, none) =>
        let (slots, failure) := updateUntilFrom f (index + 1) slots
        ({ slot with occupant := some a } :: slots, failure)

/-- Changes the values in the order of their slots, up to the first that reports a failure. -/
def updateUntil {ε : Type} (s : Slots resident α) (f : Key resident → α → α × Option ε) :
    Slots resident α × Option ε :=
  let (slots, failure) := updateUntilFrom f 0 s.slots
  ({ s with slots }, failure)

end Slots

end ModularSynth
