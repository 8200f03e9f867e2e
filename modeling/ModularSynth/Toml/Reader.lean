import ModularSynth.Number.Numeral

/-!
# Readers

A `Reader` takes what it reads off the front of a text, or fails and takes nothing. Readers of
repeated things are bounded by the number of characters that are left.
-/

namespace ModularSynth.Toml

abbrev Reader (α : Type) := StateT (List Char) Option α

namespace Reader

variable {α : Type}

def next : Reader Char
  | [] => none
  | c :: cs => some (c, cs)

def satisfy (p : Char → Bool) : Reader Char := do
  let c ← next
  if p c then return c else failure

def char (c : Char) : Reader Unit := do
  let _ ← satisfy (· == c)

def word (s : String) : Reader Unit := s.toList.forM char

/-- The next character, which stays. -/
def peek? : Reader (Option Char) := fun cs => some (cs.head?, cs)

/-- All characters up to the first that does not satisfy the condition. -/
def span (p : Char → Bool) : Reader (List Char) := fun cs => some (cs.takeWhile p, cs.dropWhile p)

def endOfText : Reader Unit := fun cs => if cs.isEmpty then some ((), cs) else none

/-- As many as there are, up to a bound. -/
def manyUpTo (r : Reader α) : Nat → Reader (List α)
  | 0 => pure []
  | bound + 1 => (do
      let a ← r
      let rest ← manyUpTo r bound
      return a :: rest) <|> pure []

def many (r : Reader α) : Reader (List α) := do
  let cs ← get
  manyUpTo r cs.length

/-- One or more with separators between them. -/
def separated (r : Reader α) (separator : Reader Unit) : Reader (List α) := do
  let first ← r
  let rest ← many (do separator; r)
  return first :: rest

/-- A fixed number of them. -/
def times (r : Reader α) : Nat → Reader (List α)
  | 0 => pure []
  | n + 1 => do
    let a ← r
    let rest ← times r n
    return a :: rest

end Reader

end ModularSynth.Toml
