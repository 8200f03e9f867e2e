/-!
# Places in a text

Lines and columns count from one; a column is a character. A line feed belongs to the line that
it ends.
-/

namespace ModularSynth

structure Position where
  line : Nat := 1
  column : Nat := 1
  deriving DecidableEq, Repr

namespace Position

/-- The first character of a text. -/
def start : Position := {}

/-- The place after a character that stands at this place. -/
def advance (position : Position) (c : Char) : Position :=
  if c = '\n' then ⟨position.line + 1, 1⟩ else ⟨position.line, position.column + 1⟩

/-- The place after some characters, the first of which stands at this place. -/
def after (position : Position) (cs : List Char) : Position :=
  cs.foldl advance position

def display (position : Position) : String :=
  s!"line {position.line}, column {position.column}"

@[simp]
theorem after_nil (position : Position) : position.after [] = position := rfl

@[simp]
theorem after_cons (position : Position) (c : Char) (cs : List Char) :
    position.after (c :: cs) = (position.advance c).after cs := rfl

theorem after_append (position : Position) (cs ds : List Char) :
    position.after (cs ++ ds) = (position.after cs).after ds := by
  simp [after, List.foldl_append]

end Position

end ModularSynth
