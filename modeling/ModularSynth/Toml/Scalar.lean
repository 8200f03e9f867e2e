import ModularSynth.Toml.Reader
import ModularSynth.Toml.Table

/-!
# Scalars of TOML

White space, comments, the four forms of texts, integers, floats, truth values, and dates and
times.
-/

namespace ModularSynth.Toml

open Reader

def isSpace (c : Char) : Bool := c = ' ' || c = '\t'

/-- Characters that may stand in comments and texts: no controls other than the tab. -/
def isPlain (c : Char) : Bool := c = '\t' || (0x20 ≤ c.toNat && c.toNat ≠ 0x7f)

def spaces : Reader Unit := do
  let _ ← span isSpace

/-- A line feed, possibly after a carriage return. -/
def newline : Reader Unit := char '\n' <|> word "\r\n"

def comment : Reader Unit := do
  char '#'
  let _ ← span isPlain

/-- What may stand between the values of an array. -/
def trivia : Reader Unit := do
  let _ ← many ((do let _ ← satisfy isSpace) <|> newline <|> comment)

/-- The end of a line, after white space and a comment. -/
def lineEnd : Reader Unit := do
  spaces
  let _ ← optional comment
  newline <|> endOfText

def hexDigitValue? (c : Char) : Option Nat :=
  if '0' ≤ c && c ≤ '9' then some (c.toNat - '0'.toNat)
  else if 'a' ≤ c && c ≤ 'f' then some (c.toNat - 'a'.toNat + 10)
  else if 'A' ≤ c && c ≤ 'F' then some (c.toNat - 'A'.toNat + 10)
  else none

/-- The number that digits denote, those that are none counting as zero. -/
def radixValue (radix : Nat) (cs : List Char) : Nat :=
  cs.foldl (fun n c => radix * n + (hexDigitValue? c).getD 0) 0

/-- The character of a code with a fixed number of hexadecimal digits. -/
def codePoint (digits : Nat) : Reader Char := do
  let cs ← times (satisfy fun c => (hexDigitValue? c).isSome) digits
  let n := radixValue 16 cs
  if h : n.isValidChar then return Char.ofNatAux n h else failure

/-- A character written as an escape. -/
def escape : Reader Char := do
  char '\\'
  match ← next with
  | 'b' => return '\x08'
  | 't' => return '\t'
  | 'n' => return '\n'
  | 'f' => return '\x0c'
  | 'r' => return '\r'
  | '"' => return '"'
  | '\\' => return '\\'
  | 'u' => codePoint 4
  | 'U' => codePoint 8
  | _ => failure

/-- A text in double quotes on one line. -/
def basicText : Reader String := do
  char '"'
  let cs ← many (satisfy (fun c => isPlain c && c != '"' && c != '\\') <|> escape)
  char '"'
  return String.ofList cs

/-- A text in single quotes on one line; it has no escapes. -/
def literalText : Reader String := do
  char '\''
  let cs ← span (fun c => isPlain c && c != '\'')
  char '\''
  return String.ofList cs

/-- One or two quotes that do not close a text of several lines. -/
def innerQuotes (quote : Char) : Reader Unit := fun cs =>
  let count := (cs.takeWhile (· == quote)).length
  if 0 < count ∧ count < 3 then some ((), cs.drop count) else none

/-- The three quotes that close a text of several lines, after up to two that belong to it. -/
def closingQuotes (quote : Char) : Reader Unit := fun cs =>
  let count := (cs.takeWhile (· == quote)).length
  if count < 3 then none else some ((), cs.drop (min count 5))

/-- A line break that a backslash hides, with the white space around it. -/
def hiddenNewline : Reader Unit := do
  char '\\'
  spaces
  newline
  let _ ← many ((do let _ ← satisfy isSpace) <|> newline)

/-- A text of several lines between triple quotes, its characters being those of a reader. -/
def multilineText (quote : Char) (character : Reader Unit) : Reader Unit := do
  word (String.ofList [quote, quote, quote])
  let _ ← optional newline
  let _ ← many (character <|> newline <|> innerQuotes quote)
  closingQuotes quote

def multilineBasicText : Reader Unit :=
  multilineText '"' ((do let _ ← satisfy fun c => isPlain c && c != '"' && c != '\\')
    <|> hiddenNewline <|> (do let _ ← escape))

def multilineLiteralText : Reader Unit :=
  multilineText '\'' (do let _ ← satisfy fun c => isPlain c && c != '\'')

def text : Reader Datum := do
  multilineBasicText <|> (do let _ ← basicText) <|> multilineLiteralText
    <|> (do let _ ← literalText)
  return .text

/-- Digits with single underscores between them, which are left out. -/
def digitRun (isDigit : Char → Bool) : Reader (List Char) := do
  let first ← satisfy isDigit
  let rest ← many (satisfy isDigit <|> (do char '_'; satisfy isDigit))
  return first :: rest

def sign : Reader (List Char) := do
  let c ← optional (satisfy fun c => c = '+' || c = '-')
  return c.toList

/-- A decimal integer as it is written, without underscores. Zero stands alone. -/
def decimalDigits : Reader (List Char) := do
  let sign ← sign
  let digits ← match ← peek? with
    | some '0' => do
      char '0'
      pure ['0']
    | _ => digitRun Numeral.isDigit
  return sign ++ digits

/-- An integer in another base, which has a mark and no sign. -/
def radixInteger (mark : Char) (radix : Nat) : Reader Datum := do
  char '0'
  char mark
  let digits ← digitRun fun c => (hexDigitValue? c).any (· < radix)
  match int64? (radixValue radix digits) with
  | some n => return .integer n
  | none => failure

def decimalInteger : Reader Datum := do
  match readInteger (String.ofList (← decimalDigits)) with
  | some n => return .integer n
  | none => failure

def integer : Reader Datum :=
  radixInteger 'x' 16 <|> radixInteger 'o' 8 <|> radixInteger 'b' 2 <|> decimalInteger

def exponent : Reader (List Char) := do
  let mark ← satisfy fun c => c = 'e' || c = 'E'
  let sign ← sign
  let digits ← digitRun Numeral.isDigit
  return mark :: sign ++ digits

def fraction : Reader (List Char) := do
  char '.'
  let digits ← digitRun Numeral.isDigit
  return '.' :: digits

/-- A decimal float; a number too large for one is refused. -/
def decimalFloat : Reader Datum := do
  let whole ← decimalDigits
  let rest ← exponent <|> (do
    let fraction ← fraction
    let exponent ← optional exponent
    return fraction ++ exponent.getD [])
  match readFloat (String.ofList (whole ++ rest)) with
  | some x => if x == 1.0 / 0.0 then failure else return .float
  | none => failure

def specialFloat : Reader Datum := do
  let _ ← sign
  word "inf" <|> word "nan"
  return .float

def float : Reader Datum := decimalFloat <|> specialFloat

def boolean : Reader Datum := do
  word "true" <|> word "false"
  return .boolean

/-- A number with a fixed count of digits between two bounds. -/
def boundedNumber (digits low high : Nat) : Reader Nat := do
  let cs ← times (satisfy Numeral.isDigit) digits
  let n := Numeral.digitsValue cs
  if low ≤ n ∧ n ≤ high then return n else failure

/-- The days of a month. -/
def daysInMonth (year month : Nat) : Nat :=
  if month = 2 then
    if year % 4 = 0 ∧ (year % 100 ≠ 0 ∨ year % 400 = 0) then 29 else 28
  else if month = 4 ∨ month = 6 ∨ month = 9 ∨ month = 11 then 30
  else 31

def date : Reader Unit := do
  let year ← boundedNumber 4 0 9999
  char '-'
  let month ← boundedNumber 2 1 12
  char '-'
  let _ ← boundedNumber 2 1 (daysInMonth year month)

/-- A time of day; a minute may have a leap second. -/
def time : Reader Unit := do
  let _ ← boundedNumber 2 0 23
  char ':'
  let _ ← boundedNumber 2 0 59
  char ':'
  let _ ← boundedNumber 2 0 60
  let _ ← optional (do
    char '.'
    let _ ← satisfy Numeral.isDigit
    span Numeral.isDigit)

def timeOffset : Reader Unit :=
  (do let _ ← satisfy fun c => c = 'Z' || c = 'z') <|> do
    let _ ← satisfy fun c => c = '+' || c = '-'
    let _ ← boundedNumber 2 0 23
    char ':'
    let _ ← boundedNumber 2 0 59

/-- A date, a time, or both, the latter possibly with an offset. -/
def moment : Reader Datum := do
  (do
    date
    let _ ← optional (do
      let _ ← satisfy fun c => c = 'T' || c = 't' || c = ' '
      time
      optional timeOffset)) <|> time
  return .moment

/-- A value that holds no other values. -/
def scalar : Reader Datum :=
  text <|> moment <|> float <|> integer <|> boolean

end ModularSynth.Toml
