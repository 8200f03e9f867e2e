import ModularSynth.Language.Reader
import ModularSynth.Language.Session
import ModularSynth.Text.File

/-!
# Building a patch from a description

A description is read and carried out statement by statement, so that the first error in the text
is the one that is reported, whatever its nature. A description in a file has to be UTF-8 text.
-/

namespace ModularSynth

/-- The first failure met while a patch is built. -/
inductive CompileError where
  | file (fault : FileFault)
  | lexical (error : LexError)
  | grammar (fault : GrammarFault) (position : Position)
  | semantic (error : SessionError)
  deriving DecidableEq, Repr

namespace CompileError

def ofParse : ParseError → CompileError
  | .lexical error => lexical error
  | .malformed fault position => grammar fault position

/-- The place of the failure in the text; a file that could not be read has none. -/
def position? : CompileError → Option Position
  | file _ => none
  | lexical error => some error.position
  | grammar _ position => some position
  | semantic error => some error.position

def line? (error : CompileError) : Option Nat := error.position?.map (·.line)

/-- The texts of the errors that led to this one, outermost first. -/
def causes : CompileError → List String
  | file _ => []
  | lexical error => [error.message]
  | grammar fault position => [(ParseError.malformed fault position).message]
  | semantic error => error.message :: error.fault.causes

/-- The text shown for a failure, other than that of a file. -/
def message? : CompileError → Option String
  | file _ => none
  | lexical error => some s!"lexical error: {error.message}"
  | grammar fault position =>
    some s!"syntax error: {(ParseError.malformed fault position).message}"
  | semantic error => some s!"semantic error: {error.message}"

end CompileError

namespace Session

variable {D : Type}

/-- Carries out statements in order up to the first error, be it their own or one of reading
them. -/
def run [Device D] (registry : Registry D) (s : Session D) :
    List (Except ParseError Statement) → Except CompileError Unit × Session D
  | [] => (.ok (), s)
  | .error error :: _ => (.error (.ofParse error), s)
  | .ok statement :: rest =>
    match s.execute registry statement with
    | (.ok (), after) => after.run registry rest
    | (.error error, after) => (.error (.semantic error), after)

end Session

/-- Builds a patch from a description with the device types of a registry. -/
def compileWith {D : Type} [Device D] (registry : Registry D) (settings : Settings)
    (text : String) : Except CompileError (Patch D) :=
  match ({ patch := .ofSettings settings } : Session D).run registry (parseText text) with
  | (.ok (), s) => .ok s.patch
  | (.error error, _) => .error error

/-- Builds a patch from a description with the built-in devices and the default settings. -/
def compile (text : String) : Except CompileError (Patch Builtin) :=
  compileWith (.builtins id) {} text

/-- Builds a patch from the description in a file. -/
def loadWith {D : Type} [Device D] (registry : Registry D) (settings : Settings)
    (file : Option ByteArray) : Except CompileError (Patch D) :=
  match readTextFile file with
  | .ok text => compileWith registry settings text
  | .error fault => .error (.file fault)

end ModularSynth
