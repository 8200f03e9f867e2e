import ModularSynth.Text.Visible

/-!
# Characters in quotes

A single character is shown between single quotes. The quote, the backslash and the common
controls have short escapes; other characters that cannot be shown as they are, are given by
their code in hexadecimal.
-/

namespace ModularSynth.Text

/-- A code in lower-case hexadecimal without leading zeros. -/
def hexadecimal (n : Nat) : String :=
  String.ofList (Nat.toDigits 16 n)

/-- A character as it stands between quotes. -/
def escaped (c : Char) : String :=
  match c with
  | '\x00' => "\\0"
  | '\t' => "\\t"
  | '\r' => "\\r"
  | '\n' => "\\n"
  | '\'' => "\\'"
  | '\\' => "\\\\"
  | c =>
    if isExtending c || isHidden c then "\\u\x7b" ++ hexadecimal c.toNat ++ "\x7d"
    else String.singleton c

/-- A character in single quotes. -/
def quoted (c : Char) : String :=
  "'" ++ escaped c ++ "'"

end ModularSynth.Text
