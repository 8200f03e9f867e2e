import ModularSynth.Settings
import ModularSynth.Text.File
import ModularSynth.Toml.Document

/-!
# Settings files

Settings are written as a TOML document with one key for each setting. A missing key leaves the
setting at its default and other keys are ignored. Malformed documents and values that are no
integers in range are refused before settings that are zero.
-/

namespace ModularSynth

/-- Why settings could not be read. -/
inductive SettingsError where
  | file (fault : FileFault)
  /-- No TOML document, or a value that the setting cannot take. -/
  | malformed
  | notPositive (field : SettingsField)
  deriving DecidableEq, Repr

/-- The text shown for a setting that is zero. -/
def SettingsField.notPositiveMessage (field : SettingsField) : String :=
  s!"invalid config value for '{field.name}': must be greater than zero"

namespace Settings

/-- The number under the key of a setting: nothing if the key is missing, an error if there is
something else than a number from zero to a bound. -/
def fieldValue (table : Toml.Table) (field : SettingsField) (bound : Int) :
    Except SettingsError (Option Nat) :=
  match table.find? field.name with
  | none => .ok none
  | some (.datum (.integer n)) =>
    if 0 ≤ n.toInt ∧ n.toInt ≤ bound then .ok (some n.toInt.toNat) else .error .malformed
  | some _ => .error .malformed

/-- Fails on the first field that is zero. -/
def validate (settings : Settings) : Except SettingsError Unit :=
  match settings.invalidField? with
  | some field => .error (.notPositive field)
  | none => .ok ()

/-- The settings that a document gives. -/
def ofText (text : String) : Except SettingsError Settings := do
  let some table := Toml.Table.ofText? text | throw .malformed
  let rate ← fieldValue table .rate (UInt32.size - 1)
  let readCap ← fieldValue table .readCap Int64.maxValue.toInt
  let default : Settings := {}
  let settings : Settings := {
    rate := (rate.map UInt32.ofNat).getD default.rate
    readCap := readCap.getD default.readCap }
  settings.validate
  return settings

/-- The settings that a file gives. -/
def load (file : Option ByteArray) : Except SettingsError Settings :=
  match readTextFile file with
  | .ok text => ofText text
  | .error fault => .error (.file fault)

end Settings

end ModularSynth
