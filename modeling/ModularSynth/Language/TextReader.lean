import ModularSynth.Language.Scan

/-!
# Reading tokens off a text

A `TextReader` goes through the bytes of a text and counts lines and columns as it goes. It looks at
the text from its offset on, which is possible only at the boundary of a character that is not past
the end: anywhere else there is no outcome, and the program stops (`none`). `TextReader.nextToken`
can be called again whatever came of it, and every call that finds something takes a character
(`TextReader.unread_lt_of_nextToken`). `TextReader.next` yields items up to the first error.
-/

namespace ModularSynth

/-- A text of which some bytes have been read, and the place of the next character. -/
structure TextReader where
  source : String
  offset : String.Pos.Raw := 0
  line : Nat := 1
  column : Nat := 1
  /-- An error has been met. -/
  failed : Bool := false
  deriving DecidableEq

namespace TextReader

def new (text : String) : TextReader := { source := text }

def position (reader : TextReader) : Position := ⟨reader.line, reader.column⟩

/-- The number of bytes that are left. -/
def unread (reader : TextReader) : Nat :=
  reader.source.utf8ByteSize - reader.offset.byteIdx

/-! ### Characters -/

/-- The character that begins at an offset. At the end there is none. -/
def characterAt (reader : TextReader) (offset : String.Pos.Raw) : Option Char :=
  if offset < reader.source.rawEndPos then some (offset.get reader.source) else none

/-- Looks at the next character. -/
def peek (reader : TextReader) : Option (Option Char) :=
  if reader.offset.IsValid reader.source then some (reader.characterAt reader.offset) else none

/-- Looks at the character after the next one. -/
def peekSecond (reader : TextReader) : Option (Option Char) := do
  match ← reader.peek with
  | none => return none
  | some c => return reader.characterAt (reader.offset + c)

/-- The reader after a character. -/
def past (reader : TextReader) (c : Char) : TextReader :=
  { reader with
    offset := reader.offset + c
    line := if c = '\n' then reader.line + 1 else reader.line
    column := if c = '\n' then 1 else reader.column + 1 }

/-- Takes the next character. -/
def bump (reader : TextReader) : Option (Option Char × TextReader) := do
  match ← reader.peek with
  | none => return (none, reader)
  | some c => return (some c, reader.past c)

theorem unread_past_lt {reader : TextReader} {c : Char} (ahead : reader.peek = some (some c)) :
    (reader.past c).unread < reader.unread := by
  unfold peek characterAt at ahead
  split at ahead
  next =>
    split at ahead
    next within =>
      have width := c.utf8Size_pos
      have within : reader.offset.byteIdx < reader.source.utf8ByteSize := within
      show reader.source.utf8ByteSize - (reader.offset.byteIdx + c.utf8Size) <
        reader.source.utf8ByteSize - reader.offset.byteIdx
      omega
    next => cases ahead
  next => cases ahead

/-- Takes characters as long as they are wanted, and adds them to a literal. Whether a character is
wanted depends on the literal before it and on what comes after it. -/
def takeWhile (wanted : TextReader → String → Char → Option Bool) (literal : String)
    (reader : TextReader) : Option (String × TextReader) :=
  match _h : reader.peek with
  | none => none
  | some none => some (literal, reader)
  | some (some c) =>
    match wanted reader literal c with
    | none => none
    | some false => some (literal, reader)
    | some true => takeWhile wanted (literal.push c) (reader.past c)
termination_by reader.unread
decreasing_by exact unread_past_lt _h

/-! ### Tokens -/

/-- What is returned at the end of the text, or a token, or an error, with the reader after it. -/
abbrev Outcome := Option (Except LexError (Option Token) × TextReader)

def skipWhitespace (reader : TextReader) : Option TextReader :=
  (reader.takeWhile (fun _ _ c => some (isGap c)) "").map (·.2)

/-- Whether a character goes on with an identifier. A hyphen that begins an arrow does not. -/
def namePart (reader : TextReader) (_ : String) (c : Char) : Option Bool :=
  if c = '-' then reader.peekSecond.map (· ≠ some '>')
  else some (Text.isAlphanumeric c || c = '_')

/-- An identifier whose first character has been taken. -/
def identifier (reader : TextReader) (first : Char) (start : Position) : Outcome := do
  let (literal, reader) ← reader.takeWhile namePart (String.singleton first)
  return (.ok (some ⟨.identifier literal, start⟩), reader)

/-- Whether a character goes on with a number. A second point does not. -/
def numberPart (_ : TextReader) (literal : String) (c : Char) : Option Bool :=
  some (if c = '.' then !literal.toList.contains '.' else Numeral.isDigit c)

/-- A number of which a digit or a hyphen has been taken. A second point right after it is an
error. -/
def number (reader : TextReader) (first : Char) (start : Position) : Outcome := do
  let (literal, reader) ← reader.takeWhile numberPart (String.singleton first)
  match ← reader.peek with
  | some '.' => return (.error ⟨.malformedNumber literal, reader.position⟩, reader)
  | _ => return (.ok (some ⟨.number literal, start⟩), reader)

/-- A text whose opening quote has been taken. -/
def quoted (reader : TextReader) (start : Position) : Outcome := do
  let (literal, reader) ← reader.takeWhile (fun _ _ c => some (!endsText c)) ""
  match ← reader.peek with
  | some '"' =>
    let (_, reader) ← reader.bump
    return (.ok (some ⟨.quoted literal, start⟩), reader)
  | _ => return (.error ⟨.unterminatedText, start⟩, reader)

/-- What begins with a hyphen that has been taken: an arrow or a number. -/
def hyphen (reader : TextReader) (start : Position) : Outcome := do
  match ← reader.peek with
  | some '>' =>
    let (_, reader) ← reader.bump
    return (.ok (some ⟨.arrow, start⟩), reader)
  | some c =>
    if Numeral.isDigit c then reader.number '-' start
    else return (.error ⟨.unexpectedCharacter '-', start⟩, reader)
  | none => return (.error ⟨.unexpectedCharacter '-', start⟩, reader)

/-- What begins with a character that has been taken. -/
def token (reader : TextReader) (c : Char) (start : Position) : Outcome :=
  match Chunk.symbol? c with
  | some lexeme => some (.ok (some ⟨lexeme, start⟩), reader)
  | none =>
    if c = '-' then reader.hyphen start
    else if c = '"' then reader.quoted start
    else if Numeral.isDigit c then reader.number c start
    else if beginsIdentifier c then reader.identifier c start
    else some (.error ⟨.unexpectedCharacter c, start⟩, reader)

/-- Reads the next token; there is none at the end of the text. -/
def nextToken (reader : TextReader) : Outcome := do
  let reader ← reader.skipWhitespace
  match ← reader.bump with
  | (none, reader) => return (.ok none, reader)
  | (some c, after) => after.token c reader.position

/-- The next item, until there is none or an error has been met. -/
def next (reader : TextReader) : Option (Option LexItem × TextReader) :=
  if reader.failed then some (none, reader)
  else do
    match ← reader.nextToken with
    | (.ok token?, reader) => return (token?.map .ok, reader)
    | (.error error, reader) => return (some (.error error), { reader with failed := true })

/-! ### Every call takes something -/

theorem unread_takeWhile_le {wanted : TextReader → String → Char → Option Bool}
    {literal result : String} {reader after : TextReader}
    (taken : reader.takeWhile wanted literal = some (result, after)) :
    after.unread ≤ reader.unread := by
  fun_induction takeWhile wanted literal reader with
  | case1 => cases taken
  | case2 =>
    cases taken
    exact Nat.le_refl _
  | case3 => cases taken
  | case4 =>
    cases taken
    exact Nat.le_refl _
  | case5 literal reader c ahead _ ih =>
    exact Nat.le_trans (ih taken) (Nat.le_of_lt (unread_past_lt ahead))

/-- No outcome puts back anything into what was left. -/
def Takes (reader : TextReader) (outcome : Outcome) : Prop :=
  ∀ result after, outcome = some (result, after) → after.unread ≤ reader.unread

section Takes

variable {reader later : TextReader}

theorem unread_bump_le {c? : Option Char} (bumped : reader.bump = some (c?, later)) :
    later.unread ≤ reader.unread := by
  simp only [bump, bind, Option.bind_eq_some_iff] at bumped
  obtain ⟨_ | c, ahead, same⟩ := bumped
  · cases same
    exact Nat.le_refl _
  · cases same
    exact Nat.le_of_lt (unread_past_lt ahead)

theorem unread_bump_lt {c : Char} (bumped : reader.bump = some (some c, later)) :
    later.unread < reader.unread := by
  simp only [bump, bind, Option.bind_eq_some_iff] at bumped
  obtain ⟨_ | c, ahead, same⟩ := bumped
  · cases same
  · cases same
    exact unread_past_lt ahead

theorem takes_some {result : Except LexError (Option Token)}
    (less : later.unread ≤ reader.unread) : reader.Takes (some (result, later)) := by
  intro _ _ same
  cases same
  exact less

theorem takes_bind {α : Type} {x : Option α} {f : α → Outcome}
    (each : ∀ a, x = some a → reader.Takes (f a)) : reader.Takes (x >>= f) := by
  intro result after reached
  obtain ⟨a, found, reached⟩ := Option.bind_eq_some_iff.mp reached
  exact each a found result after reached

theorem takes_identifier (first : Char) (start : Position) :
    reader.Takes (reader.identifier first start) :=
  takes_bind fun _ taken => takes_some (unread_takeWhile_le taken)

theorem takes_number (first : Char) (start : Position) :
    reader.Takes (reader.number first start) := by
  apply takes_bind
  rintro ⟨literal, later⟩ taken
  have less := unread_takeWhile_le taken
  apply takes_bind
  intro c? _
  split
  · exact takes_some less
  · exact takes_some less

theorem takes_quoted (start : Position) : reader.Takes (reader.quoted start) := by
  apply takes_bind
  rintro ⟨literal, later⟩ taken
  have less := unread_takeWhile_le taken
  apply takes_bind
  intro c? _
  split
  · exact takes_bind fun _ bumped => takes_some (Nat.le_trans (unread_bump_le bumped) less)
  · exact takes_some less

theorem takes_hyphen (start : Position) : reader.Takes (reader.hyphen start) := by
  apply takes_bind
  intro c? _
  split
  · exact takes_bind fun _ bumped => takes_some (unread_bump_le bumped)
  · split
    · exact takes_number _ _
    · exact takes_some (Nat.le_refl _)
  · exact takes_some (Nat.le_refl _)

theorem takes_token (c : Char) (start : Position) : reader.Takes (reader.token c start) := by
  unfold token
  split
  · exact takes_some (Nat.le_refl _)
  · split
    · exact takes_hyphen _
    · split
      · exact takes_quoted _
      · split
        · exact takes_number _ _
        · split
          · exact takes_identifier _ _
          · exact takes_some (Nat.le_refl _)

end Takes

/-- A call takes a character, unless it finds the end of the text. -/
theorem unread_lt_of_nextToken {reader after : TextReader}
    {result : Except LexError (Option Token)} (called : reader.nextToken = some (result, after))
    (something : result ≠ .ok none) : after.unread < reader.unread := by
  simp only [nextToken, bind, Option.bind_eq_some_iff] at called
  obtain ⟨first, skipped, ⟨c?, later⟩, bumped, reached⟩ := called
  obtain ⟨⟨_, _⟩, taken, rfl⟩ := Option.map_eq_some_iff.mp skipped
  have less := unread_takeWhile_le taken
  cases c? with
  | none =>
    cases reached
    exact absurd rfl something
  | some c =>
    have fewer := unread_bump_lt bumped
    have least := takes_token c _ _ _ reached
    exact Nat.lt_of_le_of_lt least (Nat.lt_of_lt_of_le fewer less)

theorem unread_lt_of_next {reader after : TextReader} {item : LexItem}
    (called : reader.next = some (some item, after)) : after.unread < reader.unread := by
  unfold next at called
  split at called
  · cases called
  · obtain ⟨⟨result, later⟩, read, reached⟩ := Option.bind_eq_some_iff.mp called
    have fewer := unread_lt_of_nextToken read
    rcases result with error | _ | token
    · cases reached
      exact fewer nofun
    · cases reached
    · cases reached
      exact fewer nofun

/-! ### Calling on -/

/-- Reads tokens up to the end of the text, going on after errors: every token or error with the
place after it, and the reader at the end. -/
def readings (reader : TextReader) : Option (List (LexItem × Position) × TextReader) :=
  match _h : reader.nextToken with
  | none => none
  | some (.ok none, last) => some ([], last)
  | some (.ok (some token), after) =>
    after.readings.map fun (later, last) => ((.ok token, after.position) :: later, last)
  | some (.error error, after) =>
    after.readings.map fun (later, last) => ((.error error, after.position) :: later, last)
termination_by reader.unread
decreasing_by all_goals exact unread_lt_of_nextToken _h nofun

/-- All items that the reader yields, and the reader after them. -/
def items (reader : TextReader) : Option (List LexItem × TextReader) :=
  match _h : reader.next with
  | none => none
  | some (none, last) => some ([], last)
  | some (some item, after) => after.items.map fun (later, last) => (item :: later, last)
termination_by reader.unread
decreasing_by exact unread_lt_of_next _h

end TextReader

end ModularSynth
