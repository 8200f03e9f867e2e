import ModularSynth.Language.Token
import ModularSynth.Number.Numeral
import ModularSynth.Text.Alphabetic
import ModularSynth.Text.Blank

/-!
# From text to tokens

A text is cut into chunks: gaps of white space, which say nothing, and tokens. A line feed is no
gap but a token, since it ends a statement. `Chunk.read` cuts one token off the front of a text;
`Chunk.used_append_rest` says that nothing is lost and `Chunk.used_ne_nil` that every chunk makes
progress, failed ones included. `Cursor.scan` reads tokens up to the end or the first error.
-/

namespace ModularSynth

/-- White space that separates tokens without being one. -/
def isGap (c : Char) : Bool := Text.isBlank c && c != '\n'

def beginsIdentifier (c : Char) : Bool := Text.isAlphabetic c || c = '_'

def continuesIdentifier (c : Char) : Bool := Text.isAlphanumeric c || c = '_' || c = '-'

/-- Whether a character ends a quoted text or makes it unterminated. -/
def endsText (c : Char) : Bool := c = '"' || c = '\n'

/-- The longest front of a text that continues an identifier, and the rest. A hyphen does not
continue it when it begins an arrow. -/
def spanIdentifier : List Char → List Char × List Char
  | [] => ([], [])
  | c :: cs =>
    if (c = '-' ∧ cs.head? = some '>') ∨ continuesIdentifier c = false then ([], c :: cs)
    else
      let (tail, rest) := spanIdentifier cs
      (c :: tail, rest)

/-- What stands at the front of a text: the characters that were read, what they say, and the
characters after them. -/
structure Chunk where
  used : List Char
  content : Except LexFault Lexeme
  rest : List Char

namespace Chunk

/-- Lexemes of a single character. -/
def symbol? : Char → Option Lexeme
  | '@' => some .atSign
  | '(' => some .openParen
  | ')' => some .closeParen
  | '=' => some .equals
  | ':' => some .colon
  | ',' => some .comma
  | '\n' => some .newline
  | _ => none

/-- A number whose first characters are given: digits, and possibly a point and more digits. A
point right after that is a fault. -/
def readNumber (first cs : List Char) : Chunk :=
  let whole := first ++ cs.takeWhile Numeral.isDigit
  match cs.dropWhile Numeral.isDigit with
  | '.' :: cs =>
    let used := whole ++ '.' :: cs.takeWhile Numeral.isDigit
    match cs.dropWhile Numeral.isDigit with
    | '.' :: rest => ⟨used, .error (.malformedNumber (String.ofList used)), '.' :: rest⟩
    | rest => ⟨used, .ok (.number (String.ofList used)), rest⟩
  | rest => ⟨whole, .ok (.number (String.ofList whole)), rest⟩

/-- What follows an opening quote. -/
def readText (cs : List Char) : Chunk :=
  let text := cs.takeWhile (!endsText ·)
  match cs.dropWhile (!endsText ·) with
  | '"' :: rest => ⟨'"' :: text ++ ['"'], .ok (.quoted (String.ofList text)), rest⟩
  | rest => ⟨'"' :: text, .error .unterminatedText, rest⟩

/-- What follows a hyphen that continues no identifier: the rest of an arrow or a number. -/
def readHyphen : List Char → Chunk
  | '>' :: rest => ⟨['-', '>'], .ok .arrow, rest⟩
  | c :: cs =>
    if Numeral.isDigit c then readNumber ['-'] (c :: cs)
    else ⟨['-'], .error (.unexpectedCharacter '-'), c :: cs⟩
  | [] => ⟨['-'], .error (.unexpectedCharacter '-'), []⟩

def readIdentifier (first : Char) (cs : List Char) : Chunk :=
  let (tail, rest) := spanIdentifier cs
  ⟨first :: tail, .ok (.identifier (String.ofList (first :: tail))), rest⟩

/-- The chunk at the front of the text `c :: cs`, whose first character is no gap. -/
def read (c : Char) (cs : List Char) : Chunk :=
  match symbol? c with
  | some lexeme => ⟨[c], .ok lexeme, cs⟩
  | none =>
    if c = '-' then readHyphen cs
    else if c = '"' then readText cs
    else if Numeral.isDigit c then readNumber [c] cs
    else if beginsIdentifier c then readIdentifier c cs
    else ⟨[c], .error (.unexpectedCharacter c), cs⟩

theorem spanIdentifier_append (cs : List Char) :
    (spanIdentifier cs).1 ++ (spanIdentifier cs).2 = cs := by
  induction cs with
  | nil => rfl
  | cons c cs ih =>
    simp only [spanIdentifier]
    split
    · rfl
    · simp [ih]

theorem readNumber_used_append_rest (first cs : List Char) :
    (readNumber first cs).used ++ (readNumber first cs).rest = first ++ cs := by
  have hwhole := List.takeWhile_append_dropWhile (p := Numeral.isDigit) (l := cs)
  simp only [readNumber]
  split
  next fraction hrest =>
    have hfraction := List.takeWhile_append_dropWhile (p := Numeral.isDigit) (l := fraction)
    rw [hrest] at hwhole
    split
    next rest hend =>
      rw [hend] at hfraction
      simp [hfraction, hwhole]
    next => simp [hfraction, hwhole]
  next => simp [hwhole]

theorem readText_used_append_rest (cs : List Char) :
    (readText cs).used ++ (readText cs).rest = '"' :: cs := by
  have htext := List.takeWhile_append_dropWhile (p := fun c => !endsText c) (l := cs)
  simp only [readText]
  split
  next rest hrest =>
    rw [hrest] at htext
    simp [htext]
  next => simp [htext]

theorem readHyphen_used_append_rest (cs : List Char) :
    (readHyphen cs).used ++ (readHyphen cs).rest = '-' :: cs := by
  unfold readHyphen
  split
  · rfl
  · split
    · exact readNumber_used_append_rest _ _
    · rfl
  · rfl

/-- Nothing of the text is lost. -/
theorem used_append_rest (c : Char) (cs : List Char) :
    (read c cs).used ++ (read c cs).rest = c :: cs := by
  unfold read
  split
  · rfl
  · split
    next hc => subst hc; exact readHyphen_used_append_rest cs
    next =>
      split
      next hc => subst hc; exact readText_used_append_rest cs
      next =>
        split
        · exact readNumber_used_append_rest _ _
        · split
          · simp [readIdentifier, spanIdentifier_append]
          · rfl

theorem readNumber_used_ne_nil {first : List Char} (cs : List Char) (h : first ≠ []) :
    (readNumber first cs).used ≠ [] := by
  simp only [readNumber]
  split
  · split <;> simp [h]
  · simp [h]

theorem readText_used_ne_nil (cs : List Char) : (readText cs).used ≠ [] := by
  simp only [readText]
  split <;> simp

theorem readHyphen_used_ne_nil (cs : List Char) : (readHyphen cs).used ≠ [] := by
  unfold readHyphen
  split
  · simp
  · split
    · exact readNumber_used_ne_nil _ (by simp)
    · simp
  · simp

/-- Every chunk has at least one character. -/
theorem used_ne_nil (c : Char) (cs : List Char) : (read c cs).used ≠ [] := by
  unfold read
  split
  · simp
  · split
    · exact readHyphen_used_ne_nil cs
    · split
      · exact readText_used_ne_nil cs
      · split
        · exact readNumber_used_ne_nil _ (by simp)
        · split <;> simp [readIdentifier]

theorem length_rest_lt (c : Char) (cs : List Char) :
    (read c cs).rest.length < (c :: cs).length := by
  have happend := congrArg List.length (used_append_rest c cs)
  have hused := List.length_pos_iff.mpr (used_ne_nil c cs)
  rw [List.length_append] at happend
  omega

end Chunk

/-- An unread text and the place of its first character. -/
structure Cursor where
  rest : List Char
  position : Position
  deriving DecidableEq

/-- The place of a fault in a token that was read between two places. -/
def LexFault.place (fault : LexFault) (first after : Position) : Position :=
  match fault with
  | malformedNumber _ => after
  | _ => first

/-- The outcome of reading one token. -/
abbrev LexItem := Except LexError Token

namespace Cursor

def ofString (text : String) : Cursor := ⟨text.toList, .start⟩

/-- The cursor after some characters of its text. -/
def advance (cursor : Cursor) (used rest : List Char) : Cursor :=
  ⟨rest, cursor.position.after used⟩

def skipGap (cursor : Cursor) : Cursor :=
  cursor.advance (cursor.rest.takeWhile isGap) (cursor.rest.dropWhile isGap)

/-- Reads one token, or finds that none is left, and gives the cursor after it. -/
def next (cursor : Cursor) : Option LexItem × Cursor :=
  let first := cursor.skipGap
  match first.rest with
  | [] => (none, first)
  | c :: cs =>
    let chunk := Chunk.read c cs
    let after := first.advance chunk.used chunk.rest
    match chunk.content with
    | .ok lexeme => (some (.ok ⟨lexeme, first.position⟩), after)
    | .error fault =>
      (some (.error ⟨fault, fault.place first.position after.position⟩), after)

theorem length_skipGap_le (cursor : Cursor) :
    cursor.skipGap.rest.length ≤ cursor.rest.length :=
  (List.dropWhile_suffix isGap).length_le

/-- A cursor moves on with every token and every error. -/
theorem length_next_lt {cursor after : Cursor} {item : LexItem}
    (h : cursor.next = (some item, after)) : after.rest.length < cursor.rest.length := by
  have hgap := length_skipGap_le cursor
  simp only [next] at h
  split at h
  · cases h
  next c cs hrest =>
    have hchunk := Chunk.length_rest_lt c cs
    rw [hrest] at hgap
    split at h <;>
    · cases h
      simp only [advance]
      omega

/-- Reads tokens up to the end of the text or the first error, which is the last item. -/
def scan (cursor : Cursor) : List LexItem × Cursor :=
  match _h : cursor.next with
  | (none, last) => ([], last)
  | (some (.error error), last) => ([.error error], last)
  | (some (.ok token), after) =>
    let (items, last) := after.scan
    (.ok token :: items, last)
termination_by cursor.rest.length
decreasing_by exact length_next_lt _h

end Cursor

/-- The tokens of a text, up to the first error. -/
def tokens (text : String) : List LexItem := (Cursor.ofString text).scan.1

end ModularSynth
