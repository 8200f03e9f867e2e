/-!
# Shared handles

Several handles can lead to one thing, each seeing what is done through the others. The thing
can be taken back when only one handle is left.
-/

namespace ModularSynth

/-- A thing with the number of handles to it besides the first. -/
structure Shared (α : Type) where
  content : α
  clones : Nat := 0

namespace Shared

variable {α : Type}

/-- One more handle. -/
def clone (s : Shared α) : Shared α := { s with clones := s.clones + 1 }

/-- One handle less; the first one stays. -/
def drop (s : Shared α) : Shared α := { s with clones := s.clones - 1 }

/-- The thing itself, when no other handle leads to it. -/
def tryUnwrap (s : Shared α) : Except (Shared α) α :=
  if s.clones = 0 then .ok s.content else .error s

end Shared

end ModularSynth
