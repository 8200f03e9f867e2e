import ModularSynth.Text.Ranges

/-!
# White space of Unicode

`isBlank` is the property White_Space. It holds of more characters than the ASCII test of the
core library, the line feed among them.
-/

namespace ModularSynth.Text

/-- Switch points of the property White_Space from U+0080 on. -/
def blankBeyondAscii : Ranges := [
  0x85, 0x86, 0xa0, 0xa1, 0x1680, 0x1681, 0x2000, 0x200b, 0x2028, 0x202a, 0x202f, 0x2030,
  0x205f, 0x2060, 0x3000, 0x3001]

/-- Unicode property White_Space. -/
def isBlank (c : Char) : Bool :=
  if c.toNat < 0x80 then c = ' ' || (0x09 ≤ c.toNat && c.toNat ≤ 0x0d)
  else blankBeyondAscii.contains c.toNat

end ModularSynth.Text
