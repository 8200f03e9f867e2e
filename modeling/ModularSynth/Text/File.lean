/-!
# Text files

The bytes of a file, if there is one, as text. Only UTF-8 is text.
-/

namespace ModularSynth

/-- Why a file could not be read as text. -/
inductive FileFault where
  | notFound
  | invalidText
  deriving DecidableEq, Repr

/-- The text of a file: it may be missing, and its bytes have to be UTF-8. -/
def readTextFile : Option ByteArray → Except FileFault String
  | none => .error .notFound
  | some bytes =>
    match String.fromUTF8? bytes with
    | some text => .ok text
    | none => .error .invalidText

end ModularSynth
