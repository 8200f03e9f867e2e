import ModularSynth.Patch.Address

/-!
# Indices over ports

A `PortIndex` keeps at most one entry for each port. `get?_set` and `get?_erase` say what its
operations do to the entries of all ports.
-/

namespace ModularSynth

/-- What is kept about ports, at most one entry for each. -/
structure PortIndex (β : Type) where
  entries : List (PortAddress × β) := []

namespace PortIndex

variable {β : Type}

def empty : PortIndex β := {}

def get? (index : PortIndex β) (port : PortAddress) : Option β :=
  index.entries.lookup port

def erase (index : PortIndex β) (port : PortAddress) : PortIndex β :=
  ⟨index.entries.filter (·.1 ≠ port)⟩

/-- Gives a port an entry in place of the one it has. -/
def set (index : PortIndex β) (port : PortAddress) (b : β) : PortIndex β :=
  ⟨(port, b) :: (index.erase port).entries⟩

@[simp]
theorem get?_empty (port : PortAddress) : (empty : PortIndex β).get? port = none := rfl

theorem get?_erase (index : PortIndex β) (port other : PortAddress) :
    (index.erase port).get? other = if other = port then none else index.get? other := by
  obtain ⟨entries⟩ := index
  simp only [get?, erase]
  induction entries with
  | nil => simp
  | cons entry entries ih =>
    obtain ⟨key, b⟩ := entry
    simp only [ne_eq, decide_not] at ih ⊢
    by_cases hkey : key = port
    · subst hkey
      by_cases hother : other = key
      · simpa [hother] using ih
      · simp [List.lookup_cons, hother, ih, beq_false_of_ne hother]
    · by_cases hother : other = key
      · subst hother
        simp [hkey]
      · simp [List.lookup_cons, hkey, ih, beq_false_of_ne hother]

theorem get?_set (index : PortIndex β) (port other : PortAddress) (b : β) :
    (index.set port b).get? other = if other = port then some b else index.get? other := by
  have herase := get?_erase index port other
  by_cases hother : other = port
  · subst hother
    simp [set, get?]
  · simp only [set, get?, List.lookup_cons, beq_false_of_ne hother, if_neg hother] at herase ⊢
    exact herase

end PortIndex

end ModularSynth
