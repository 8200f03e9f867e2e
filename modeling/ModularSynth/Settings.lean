/-!
# Engine settings

The sampling rate and the cap on frames per read that a new patch starts with. Both have to be
positive to be valid.
-/

namespace ModularSynth

structure Settings where
  /-- Sampling frequency in hertz. -/
  rate : UInt32 := 48000
  /-- The most frames that one read produces. -/
  readCap : Nat := 500
  deriving DecidableEq, Repr

/-- The settings that have to be positive, under the names that a settings file gives them. -/
inductive SettingsField where
  | rate | readCap
  deriving DecidableEq, Repr

def SettingsField.name : SettingsField → String
  | rate => "sampling_frequency"
  | readCap => "max_frames_per_read"

namespace Settings

/-- The first field, in the order of the structure, that is zero. -/
def invalidField? (settings : Settings) : Option SettingsField :=
  if settings.rate = 0 then some .rate
  else if settings.readCap = 0 then some .readCap
  else none

end Settings

end ModularSynth
