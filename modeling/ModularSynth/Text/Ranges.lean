/-!
# Sets of numbers given by their switch points

A set of code points is written down as the ascending list of the points where membership
changes: the first point is the first member, the second is the first number after the first
run of members, and so on. `Ranges.contains` reads such a list.
-/

namespace ModularSynth.Text

/-- The points at which membership changes, in ascending order. -/
abbrev Ranges := List Nat

namespace Ranges

/-- A number is a member when the count of switch points at or below it is odd. -/
def contains : Ranges → Nat → Bool
  | [], _ => false
  | point :: points, n => if n < point then false else !contains points n

end Ranges

end ModularSynth.Text
