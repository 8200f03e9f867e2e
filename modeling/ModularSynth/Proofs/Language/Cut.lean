import Mathlib.Data.Bool.AllAny
import Mathlib.Data.List.Induction
import ModularSynth.Language.Scan

/-!
# Texts as sequences of tokens

`Cut` says what the tokens of a text are without reading it: gaps of white space, spellings of
lexemes that could not have been longer, and possibly an end at which no token can be read. Every
text has a cut (`exists_cut`) and scanning yields it (`scan_of_cut`), so the tokens of a text are
those of its only cut (`tokens_eq_iff_cut`). Places are counted from what stands before them.
-/

namespace ModularSynth

/-! ### Classes of characters -/

namespace Text

/-- The codes of white space. -/
def blankCodes : List Nat := [0x09, 0x0a, 0x0b, 0x0c, 0x0d, 0x20, 0x85, 0xa0, 0x1680, 0x2000,
  0x2001, 0x2002, 0x2003, 0x2004, 0x2005, 0x2006, 0x2007, 0x2008, 0x2009, 0x200a, 0x2028, 0x2029,
  0x202f, 0x205f, 0x3000]

theorem toNat_mem_of_isBlank {c : Char} (blank : isBlank c = true) : c.toNat ∈ blankCodes := by
  unfold isBlank at blank
  simp only [blankCodes, List.mem_cons, List.not_mem_nil, or_false]
  split at blank
  next ascii =>
    simp only [Bool.or_eq_true, Bool.and_eq_true, decide_eq_true_eq] at blank
    rcases blank with rfl | control
    · decide
    · omega
  next beyond =>
    simp [Ranges.contains, blankBeyondAscii] at blank
    omega

/-- Nothing blank is a letter or a number. -/
theorem isAlphanumeric_eq_false_of_isBlank {c : Char} (blank : isBlank c = true) :
    isAlphanumeric c = false := by
  have each : ∀ n ∈ blankCodes, isAlphanumeric (Char.ofNat n) = false := by decide +kernel
  rw [← Char.ofNat_toNat c]
  exact each _ (toNat_mem_of_isBlank blank)

/-- No letter is white space. -/
theorem isAlphabetic_eq_false_of_isBlank {c : Char} (blank : isBlank c = true) :
    isAlphabetic c = false :=
  (Bool.or_eq_false_iff.mp (isAlphanumeric_eq_false_of_isBlank blank)).1

end Text

/-- The characters that are tokens by themselves. -/
def singleMarks : List Char := ['@', '(', ')', '=', ':', ',', '\n']

/-- The characters that a token can begin with if it is neither a number without a sign nor an
identifier. -/
def tokenMarks : List Char := singleMarks ++ ['-', '"']

def digitMarks : List Char := ['0', '1', '2', '3', '4', '5', '6', '7', '8', '9']

theorem mem_digitMarks_of_isDigit {c : Char} (digit : Numeral.isDigit c = true) :
    c ∈ digitMarks := by
  have code : c.val.toNat = c.toNat := rfl
  simp only [Numeral.isDigit, Bool.and_eq_true, decide_eq_true_eq, Char.le_def,
    UInt32.le_iff_toNat_le, code] at digit
  obtain ⟨low, high⟩ := digit
  change 48 ≤ c.toNat at low
  change c.toNat ≤ 57 at high
  rw [← Char.ofNat_toNat c]
  generalize c.toNat = n at low high
  have each : ∀ n ≤ 57, 48 ≤ n → Char.ofNat n ∈ digitMarks := by decide
  exact each n high low

theorem symbol?_eq_none_iff {c : Char} : Chunk.symbol? c = none ↔ c ∉ singleMarks := by
  unfold Chunk.symbol? singleMarks
  split
  all_goals simp_all

-- Stated over the list: deciding the quantifier itself would run through all characters.
theorem classes_of_mark : ∀ c ∈ tokenMarks ++ digitMarks,
    beginsIdentifier c = false ∧ isGap c = false :=
  List.all_iff_forall_prop.mp (by decide)

/-- What begins an identifier begins no token of another kind and is no gap. -/
structure Initial (c : Char) : Prop where
  not_symbol : Chunk.symbol? c = none
  not_hyphen : c ≠ '-'
  not_quote : c ≠ '"'
  not_digit : Numeral.isDigit c = false
  not_gap : isGap c = false

theorem initial_of_beginsIdentifier {c : Char} (begins : beginsIdentifier c = true) :
    Initial c := by
  have elsewhere : c ∉ tokenMarks ++ digitMarks := by
    intro mark
    rw [(classes_of_mark c mark).1] at begins
    cases begins
  refine ⟨?_, ?_, ?_, ?_, ?_⟩
  · rw [symbol?_eq_none_iff]
    intro symbol
    exact elsewhere (List.mem_append_left _ (List.mem_append_left _ symbol))
  · rintro rfl
    exact elsewhere (by decide)
  · rintro rfl
    exact elsewhere (by decide)
  · rw [Bool.eq_false_iff]
    intro digit
    exact elsewhere (List.mem_append_right _ (mem_digitMarks_of_isDigit digit))
  · simp only [beginsIdentifier, Bool.or_eq_true, decide_eq_true_eq] at begins
    rcases begins with letter | rfl
    · rw [Bool.eq_false_iff]
      intro gap
      have blank := (Bool.and_eq_true _ _).mp gap
      rw [Text.isAlphabetic_eq_false_of_isBlank blank.1] at letter
      cases letter
    · decide

/-! ### Lexemes and their spellings -/

/-- The place of the character after some others. -/
def Position.following (before : List Char) : Position :=
  ⟨before.count '\n' + 1, (before.reverse.takeWhile (· ≠ '\n')).length + 1⟩

theorem Position.start_after (before : List Char) : start.after before = following before := by
  induction before using List.reverseRecOn with
  | nil => rfl
  | append_singleton before c ih =>
    rw [after_append, ih, after_cons, after_nil]
    unfold following advance
    by_cases ends : c = '\n'
    · simp [ends]
    · simp [ends]

theorem Position.following_append (before cs : List Char) :
    (following before).after cs = following (before ++ cs) := by
  rw [← start_after, ← start_after, after_append]

namespace Numeral

/-- Digits, and possibly a hyphen before them. -/
inductive Whole : List Char → Prop
  | positive {digits : List Char} (nonempty : digits ≠ [])
      (every : ∀ c ∈ digits, isDigit c = true) : Whole digits
  | negative {digits : List Char} (nonempty : digits ≠ [])
      (every : ∀ c ∈ digits, isDigit c = true) : Whole ('-' :: digits)

/-- A whole number with a point and possibly more digits. -/
inductive Pointed : List Char → Prop
  | intro {whole fraction : List Char} (begins : Whole whole)
      (every : ∀ c ∈ fraction, isDigit c = true) : Pointed (whole ++ '.' :: fraction)

end Numeral

namespace Lexeme

/-- The characters of a lexeme in a text. -/
def spelling : Lexeme → List Char
  | quoted text => '"' :: (text.toList ++ ['"'])
  | lexeme => lexeme.literal.toList

@[simp]
theorem spelling_identifier (name : String) : (identifier name).spelling = name.toList := rfl

@[simp]
theorem spelling_number (digits : String) : (number digits).spelling = digits.toList := rfl

@[simp]
theorem spelling_quoted (text : String) :
    (quoted text).spelling = '"' :: (text.toList ++ ['"']) := rfl

/-- The literal has the shape of its kind. -/
def Shaped : Lexeme → Prop
  | identifier name => ∃ first rest, name.toList = first :: rest ∧ beginsIdentifier first = true ∧
      ∀ c ∈ rest, continuesIdentifier c = true
  | number digits => Numeral.Whole digits.toList ∨ Numeral.Pointed digits.toList
  | quoted text => ∀ c ∈ text.toList, endsText c = false
  | _ => True

/-- The characters after a lexeme do not continue it. An identifier ends at a hyphen only where an
arrow begins, and it leaves the hyphen to the arrow. -/
def EndsBefore : Lexeme → List Char → Prop
  | identifier name, after =>
    (∀ c ∈ after.head?, continuesIdentifier c = true → c = '-' ∧ after.tail.head? = some '>') ∧
      (name.toList.getLast? = some '-' → after.head? ≠ some '>')
  | number _, after => ∀ c ∈ after.head?, Numeral.isDigit c = false ∧ c ≠ '.'
  | _, _ => True

end Lexeme

/-- No lexeme is spelt with this character at its front, and it is no gap. -/
def BeginsNothing (c : Char) : Prop :=
  isGap c = false ∧ ∀ lexeme : Lexeme, lexeme.Shaped → lexeme.spelling.head? ≠ some c

/-- Ways in which a text that stands after other characters begins with no token, each with its
error. -/
inductive Stuck (before : List Char) : List Char → LexError → Prop
  | character {c : Char} {rest : List Char} (stray : BeginsNothing c) :
      Stuck before (c :: rest) ⟨.unexpectedCharacter c, .following before⟩
  | hyphen {rest : List Char} (no_arrow : rest.head? ≠ some '>')
      (no_number : ∀ c ∈ rest.head?, Numeral.isDigit c = false) :
      Stuck before ('-' :: rest) ⟨.unexpectedCharacter '-', .following before⟩
  | point {number rest : List Char} (pointed : Numeral.Pointed number) :
      Stuck before (number ++ '.' :: rest)
        ⟨.malformedNumber (String.ofList number), .following (before ++ number)⟩
  | text {text rest : List Char} (every : ∀ c ∈ text, endsText c = false)
      (unclosed : rest = [] ∨ rest.head? = some '\n') :
      Stuck before ('"' :: (text ++ rest)) ⟨.unterminatedText, .following before⟩

/-- The items that a text, standing after other characters, is cut into: each token after a gap and
at the place of its first character, and at most one error at the end. -/
inductive Cut : List Char → List Char → List LexItem → Prop
  | finish {before gap : List Char} (blank : ∀ c ∈ gap, isGap c = true) : Cut before gap []
  | token {before gap after : List Char} {lexeme : Lexeme} {items : List LexItem}
      (blank : ∀ c ∈ gap, isGap c = true) (shaped : lexeme.Shaped)
      (ends : lexeme.EndsBefore after)
      (cut : Cut (before ++ gap ++ lexeme.spelling) after items) :
      Cut before (gap ++ lexeme.spelling ++ after)
        (.ok ⟨lexeme, .following (before ++ gap)⟩ :: items)
  | stop {before gap rest : List Char} {error : LexError} (blank : ∀ c ∈ gap, isGap c = true)
      (stuck : Stuck (before ++ gap) rest error) : Cut before (gap ++ rest) [.error error]

/-! ### Every text has a cut -/

/-- A run of characters of a class, and what comes after it. -/
theorem exists_run (p : Char → Bool) (cs : List Char) :
    ∃ run after, cs = run ++ after ∧ (∀ c ∈ run, p c = true) ∧ ∀ c ∈ after.head?, p c = false := by
  refine ⟨cs.takeWhile p, cs.dropWhile p, List.takeWhile_append_dropWhile.symm, ?_, ?_⟩
  · intro c member
    exact List.all_eq_true.mp List.all_takeWhile c member
  · intro c first
    have rejected := List.head?_dropWhile_not p cs
    rw [Option.mem_def.mp first] at rejected
    simpa using rejected

/-- What can stand at the front of a text: a lexeme that ends there, or nothing that can be read. -/
def Begins (cs : List Char) : Prop :=
  (∃ (lexeme : Lexeme) (after : List Char), lexeme.Shaped ∧ lexeme.EndsBefore after ∧
      cs = lexeme.spelling ++ after) ∨
    ∀ before, ∃ error, Stuck before cs error

theorem begins_of_whole {whole : List Char} (shape : Numeral.Whole whole) (cs : List Char)
    (ends : ∀ c ∈ cs.head?, Numeral.isDigit c = false) : Begins (whole ++ cs) := by
  cases cs with
  | nil =>
    left
    refine ⟨.number (String.ofList whole), [], ?_, ?_, ?_⟩
    · exact Or.inl (by rwa [String.toList_ofList])
    · intro c first
      cases first
    · simp
  | cons d cs =>
    by_cases point : d = '.'
    · subst point
      obtain ⟨fraction, after, rfl, every, stops⟩ := exists_run Numeral.isDigit cs
      have pointed := Numeral.Pointed.intro shape every
      by_cases again : after.head? = some '.'
      · right
        intro before
        obtain ⟨rest, rfl⟩ : ∃ rest, after = '.' :: rest := List.head?_eq_some_iff.mp again
        have stuck : Stuck before (whole ++ '.' :: fraction ++ '.' :: rest) _ := .point pointed
        rw [List.append_assoc, List.cons_append] at stuck
        exact ⟨_, stuck⟩
      · left
        refine ⟨.number (String.ofList (whole ++ '.' :: fraction)), after, ?_, ?_, ?_⟩
        · exact Or.inr (by rwa [String.toList_ofList])
        · intro c first
          refine ⟨stops c first, ?_⟩
          intro same
          rw [same] at first
          exact again first
        · simp
    · left
      refine ⟨.number (String.ofList whole), d :: cs, ?_, ?_, ?_⟩
      · exact Or.inl (by rwa [String.toList_ofList])
      · intro c first
        cases first
        exact ⟨ends d rfl, point⟩
      · simp

theorem begins_of_quote (cs : List Char) : Begins ('"' :: cs) := by
  obtain ⟨text, after, rfl, every, stops⟩ := exists_run (!endsText ·) cs
  have inside : ∀ c ∈ text, endsText c = false := fun c member => by simpa using every c member
  cases after with
  | nil =>
    right
    intro before
    exact ⟨_, .text inside (Or.inl rfl)⟩
  | cons d rest =>
    have last := stops d rfl
    simp only [endsText, Bool.not_eq_eq_eq_not, Bool.not_false, Bool.or_eq_true,
      decide_eq_true_eq] at last
    rcases last with rfl | rfl
    · left
      refine ⟨.quoted (String.ofList text), rest, ?_, trivial, ?_⟩
      · intro c member
        rw [String.toList_ofList] at member
        exact inside c member
      · simp
    · right
      intro before
      exact ⟨_, .text inside (Or.inr rfl)⟩

/-- An identifier takes all that continues it up to an arrow. -/
theorem exists_identifier (first : Char) (cs : List Char) :
    ∃ tail after, cs = tail ++ after ∧ (∀ c ∈ tail, continuesIdentifier c = true) ∧
      (∀ c ∈ after.head?, continuesIdentifier c = true → c = '-' ∧ after.tail.head? = some '>') ∧
      ((first :: tail).getLast? = some '-' → tail = [] ∨ after.head? ≠ some '>') := by
  induction cs generalizing first with
  | nil => exact ⟨[], [], rfl, by simp, by simp, fun _ => Or.inl rfl⟩
  | cons c cs ih =>
    by_cases arrow : c = '-' ∧ cs.head? = some '>'
    · refine ⟨[], c :: cs, rfl, by simp, ?_, fun _ => Or.inl rfl⟩
      intro d same _
      cases same
      exact arrow
    · by_cases continues : continuesIdentifier c = true
      · obtain ⟨tail, after, rfl, every, stops, last⟩ := ih c
        refine ⟨c :: tail, after, rfl, ?_, stops, ?_⟩
        · exact List.forall_mem_cons.mpr ⟨continues, every⟩
        · intro hyphen
          rw [List.getLast?_cons_cons] at hyphen
          right
          rcases last hyphen with rfl | no_arrow
          · intro begins
            exact arrow ⟨by simpa using hyphen, begins⟩
          · exact no_arrow
      · refine ⟨[], c :: cs, rfl, by simp, ?_, fun _ => Or.inl rfl⟩
        intro d same continues'
        cases same
        exact absurd continues' continues

theorem begins_of_letter {c : Char} (begins : beginsIdentifier c = true) (cs : List Char) :
    Begins (c :: cs) := by
  obtain ⟨tail, after, rfl, every, stops, last⟩ := exists_identifier c cs
  left
  refine ⟨.identifier (String.ofList (c :: tail)), after, ?_, ⟨stops, ?_⟩, ?_⟩
  · exact ⟨c, tail, String.toList_ofList, begins, every⟩
  · rw [String.toList_ofList]
    intro hyphen
    rcases last hyphen with rfl | no_arrow
    · exact absurd (by simpa using hyphen) (initial_of_beginsIdentifier begins).not_hyphen
    · exact no_arrow
  · simp

/-- The first character of a lexeme. -/
theorem Lexeme.head_of_shaped {lexeme : Lexeme} {c : Char} (shaped : lexeme.Shaped)
    (first : lexeme.spelling.head? = some c) :
    c ∈ tokenMarks ∨ Numeral.isDigit c = true ∨ beginsIdentifier c = true := by
  have of_whole : ∀ {whole : List Char}, Numeral.Whole whole → whole.head? = some c →
      c = '-' ∨ Numeral.isDigit c = true := by
    intro whole shape first
    cases shape with
    | positive _ every => exact Or.inr (every c (List.mem_of_head? first))
    | negative => exact Or.inl (Option.some.inj first).symm
  cases lexeme with
  | identifier name =>
    obtain ⟨initial, rest, spelt, letter, -⟩ := shaped
    rw [spelling_identifier, spelt, List.head?_cons, Option.some.injEq] at first
    exact Or.inr (Or.inr (first ▸ letter))
  | number digits =>
    rw [spelling_number] at first
    have begins : c = '-' ∨ Numeral.isDigit c = true := by
      rcases shaped with shape | shape
      · exact of_whole shape first
      · generalize digits.toList = spelt at shape first
        cases shape with | @intro whole fraction shape every =>
        cases whole with
        | nil => cases shape with | positive nonempty => exact absurd rfl nonempty
        | cons d whole => exact of_whole shape first
    rcases begins with rfl | digit
    · exact Or.inl (by decide)
    · exact Or.inr (Or.inl digit)
  | quoted text =>
    cases first
    exact Or.inl (by decide)
  | _ =>
    cases first
    exact Or.inl (by decide)

theorem Lexeme.not_gap_of_head {lexeme : Lexeme} {c : Char} (shaped : lexeme.Shaped)
    (first : lexeme.spelling.head? = some c) : isGap c = false := by
  rcases head_of_shaped shaped first with mark | digit | letter
  · exact (classes_of_mark c (List.mem_append_left _ mark)).2
  · exact (classes_of_mark c (List.mem_append_right _ (mem_digitMarks_of_isDigit digit))).2
  · exact (initial_of_beginsIdentifier letter).not_gap

/-- A character that begins no lexeme. -/
theorem beginsNothing_of_stray {c : Char} (not_gap : isGap c = false)
    (not_symbol : Chunk.symbol? c = none) (not_hyphen : c ≠ '-') (not_quote : c ≠ '"')
    (not_digit : Numeral.isDigit c = false) (not_letter : beginsIdentifier c = false) :
    BeginsNothing c := by
  refine ⟨not_gap, ?_⟩
  intro lexeme shaped first
  rcases lexeme.head_of_shaped shaped first with mark | digit | letter
  · rw [symbol?_eq_none_iff] at not_symbol
    simp_all [tokenMarks]
  · rw [digit] at not_digit
    cases not_digit
  · rw [letter] at not_letter
    cases not_letter

theorem begins_of_not_gap {c : Char} (not_gap : isGap c = false) (cs : List Char) :
    Begins (c :: cs) := by
  by_cases symbol : Chunk.symbol? c = none
  · by_cases hyphen : c = '-'
    · subst hyphen
      obtain ⟨digits, after, rfl, every, stops⟩ := exists_run Numeral.isDigit cs
      by_cases number : digits = []
      · subst number
        by_cases arrow : after.head? = some '>'
        · obtain ⟨rest, rfl⟩ : ∃ rest, after = '>' :: rest := List.head?_eq_some_iff.mp arrow
          exact Or.inl ⟨.arrow, rest, trivial, trivial, rfl⟩
        · exact Or.inr fun before => ⟨_, .hyphen arrow stops⟩
      · exact begins_of_whole (.negative number every) after stops
    · by_cases quote : c = '"'
      · subst quote
        exact begins_of_quote cs
      · cases digit : Numeral.isDigit c with
        | true =>
          obtain ⟨digits, after, rfl, every, stops⟩ := exists_run Numeral.isDigit cs
          exact begins_of_whole (.positive (List.cons_ne_nil c digits)
            (List.forall_mem_cons.mpr ⟨digit, every⟩)) after stops
        | false =>
          cases letter : beginsIdentifier c with
          | true => exact begins_of_letter letter cs
          | false =>
            exact Or.inr fun before =>
              ⟨_, .character (beginsNothing_of_stray not_gap symbol hyphen quote digit letter)⟩
  · rw [symbol?_eq_none_iff, not_not] at symbol
    left
    simp only [singleMarks, List.mem_cons, List.not_mem_nil, or_false] at symbol
    rcases symbol with rfl | rfl | rfl | rfl | rfl | rfl | rfl
    · exact ⟨.atSign, cs, trivial, trivial, rfl⟩
    · exact ⟨.openParen, cs, trivial, trivial, rfl⟩
    · exact ⟨.closeParen, cs, trivial, trivial, rfl⟩
    · exact ⟨.equals, cs, trivial, trivial, rfl⟩
    · exact ⟨.colon, cs, trivial, trivial, rfl⟩
    · exact ⟨.comma, cs, trivial, trivial, rfl⟩
    · exact ⟨.newline, cs, trivial, trivial, rfl⟩

theorem Lexeme.length_spelling_pos {lexeme : Lexeme} (shaped : lexeme.Shaped) :
    0 < lexeme.spelling.length := by
  rw [List.length_pos_iff]
  cases lexeme with
  | identifier name =>
    obtain ⟨first, rest, spelt, -⟩ := shaped
    simp [spelt]
  | number digits =>
    rw [spelling_number]
    intro empty
    rcases shaped with shape | shape
    · rw [empty] at shape
      cases shape with | positive nonempty => exact nonempty rfl
    · rw [empty] at shape
      generalize same : ([] : List Char) = cs at shape
      cases shape with | intro => simp at same
  | quoted text => simp
  | _ => decide

theorem exists_cut (before cs : List Char) : ∃ items, Cut before cs items := by
  induction length : cs.length using Nat.strongRecOn generalizing before cs with
  | ind count ih =>
    obtain ⟨gap, rest, rfl, blank, stops⟩ := exists_run isGap cs
    cases rest with
    | nil =>
      rw [List.append_nil]
      exact ⟨[], .finish blank⟩
    | cons c rest =>
      rcases begins_of_not_gap (stops c rfl) rest with ⟨lexeme, after, shaped, ends, split⟩ | stuck
      · have shorter : after.length < count := by
          have nonempty := Lexeme.length_spelling_pos shaped
          have lengths := congrArg List.length split
          rw [List.length_append] at lengths length
          omega
        obtain ⟨items, cut⟩ := ih _ shorter (before ++ gap ++ lexeme.spelling) after rfl
        have whole := Cut.token blank shaped ends cut
        rw [List.append_assoc, ← split] at whole
        exact ⟨_, whole⟩
      · obtain ⟨error, stuck⟩ := stuck (before ++ gap)
        exact ⟨_, .stop blank stuck⟩

theorem Stuck.not_gap_head {before cs : List Char} {c : Char} {error : LexError}
    (stuck : Stuck before (c :: cs) error) : isGap c = false := by
  generalize whole : c :: cs = text at stuck
  cases stuck with
  | character stray =>
    cases whole
    exact stray.1
  | @point number rest pointed =>
    have shaped : (Lexeme.number (String.ofList number)).Shaped :=
      Or.inr (by rwa [String.toList_ofList])
    have nonempty := Lexeme.length_spelling_pos shaped
    rw [Lexeme.spelling_number, String.toList_ofList] at nonempty
    obtain ⟨d, tail, rfl⟩ := List.exists_cons_of_length_pos nonempty
    cases whole
    exact Lexeme.not_gap_of_head shaped (by rw [Lexeme.spelling_number, String.toList_ofList]; rfl)
  | _ =>
    cases whole
    decide

/-! ### Scanning a cut -/

namespace Chunk

/-- Taking a run of a class off a text that goes on with no character of the class. -/
theorem takeWhile_append_of_stops {p : Char → Bool} {run after : List Char}
    (every : ∀ c ∈ run, p c = true) (stops : ∀ c ∈ after.head?, p c = false) :
    (run ++ after).takeWhile p = run ∧ (run ++ after).dropWhile p = after := by
  rw [List.takeWhile_append_of_pos every, List.dropWhile_append_of_pos every]
  cases after with
  | nil => simp
  | cons c after => simp [stops c rfl]

section Number

open Numeral (isDigit Whole Pointed)

variable {first digits after : List Char} (every : ∀ c ∈ digits, isDigit c = true)

include every

theorem readNumber_of_whole (stops : ∀ c ∈ after.head?, isDigit c = false ∧ c ≠ '.') :
    readNumber first (digits ++ after) =
      ⟨first ++ digits, .ok (.number (String.ofList (first ++ digits))), after⟩ := by
  obtain ⟨taken, dropped⟩ := takeWhile_append_of_stops every fun c head => (stops c head).1
  unfold readNumber
  rw [taken, dropped]
  split
  next rest => exact absurd rfl (stops '.' rfl).2
  next => rfl

variable {fraction : List Char} (every' : ∀ c ∈ fraction, isDigit c = true)

include every'

theorem readNumber_of_pointed (stops : ∀ c ∈ after.head?, isDigit c = false ∧ c ≠ '.') :
    readNumber first (digits ++ '.' :: (fraction ++ after)) =
      ⟨first ++ digits ++ '.' :: fraction,
        .ok (.number (String.ofList (first ++ digits ++ '.' :: fraction))), after⟩ := by
  have point : ∀ c ∈ ('.' :: (fraction ++ after)).head?, isDigit c = false := by
    intro c head
    cases head
    decide
  obtain ⟨taken, dropped⟩ := takeWhile_append_of_stops every point
  obtain ⟨taken', dropped'⟩ := takeWhile_append_of_stops every' fun c head => (stops c head).1
  simp only [readNumber, taken, dropped, taken', dropped']
  split
  next rest => exact absurd rfl (stops '.' rfl).2
  next => rfl

theorem readNumber_of_second_point :
    readNumber first (digits ++ '.' :: (fraction ++ '.' :: after)) =
      ⟨first ++ digits ++ '.' :: fraction,
        .error (.malformedNumber (String.ofList (first ++ digits ++ '.' :: fraction))),
        '.' :: after⟩ := by
  have point : ∀ rest : List Char, ∀ c ∈ ('.' :: rest).head?, isDigit c = false := by
    intro rest c head
    cases head
    decide
  obtain ⟨taken, dropped⟩ := takeWhile_append_of_stops every (point (fraction ++ '.' :: after))
  obtain ⟨taken', dropped'⟩ := takeWhile_append_of_stops every' (point after)
  simp only [readNumber, taken, dropped, taken', dropped']

end Number

theorem readText_of_closed {text : List Char} (every : ∀ c ∈ text, endsText c = false)
    (after : List Char) :
    readText (text ++ '"' :: after) =
      ⟨'"' :: text ++ ['"'], .ok (.quoted (String.ofList text)), after⟩ := by
  have within : ∀ c ∈ text, (!endsText c) = true := fun c member => by simp [every c member]
  have stops : ∀ c ∈ ('"' :: after).head?, (!endsText c) = false := by
    intro c head
    cases head
    decide
  obtain ⟨taken, dropped⟩ := takeWhile_append_of_stops within stops
  simp only [readText, taken, dropped]

theorem readText_of_unclosed {text after : List Char} (every : ∀ c ∈ text, endsText c = false)
    (unclosed : after = [] ∨ after.head? = some '\n') :
    readText (text ++ after) = ⟨'"' :: text, .error .unterminatedText, after⟩ := by
  have within : ∀ c ∈ text, (!endsText c) = true := fun c member => by simp [every c member]
  have stops : ∀ c ∈ after.head?, (!endsText c) = false := by
    intro c head
    rcases unclosed with rfl | feed
    · cases head
    · rw [feed] at head
      cases head
      decide
  obtain ⟨taken, dropped⟩ := takeWhile_append_of_stops within stops
  simp only [readText, taken, dropped]
  split
  next rest =>
    rcases unclosed with closed | closed
    · cases closed
    · simp at closed
  next => rfl

theorem spanIdentifier_of_run {tail after : List Char}
    (every : ∀ c ∈ tail, continuesIdentifier c = true)
    (stops : ∀ c ∈ after.head?, continuesIdentifier c = true →
      c = '-' ∧ after.tail.head? = some '>')
    (last : tail.getLast? = some '-' → after.head? ≠ some '>') :
    spanIdentifier (tail ++ after) = (tail, after) := by
  induction tail with
  | nil =>
    cases after with
    | nil => rfl
    | cons c after =>
      rw [List.nil_append, spanIdentifier, if_pos]
      cases continues : continuesIdentifier c with
      | true => exact Or.inl (stops c rfl continues)
      | false => exact Or.inr rfl
  | cons c tail ih =>
    rw [List.forall_mem_cons] at every
    have no_arrow : ¬ (c = '-' ∧ (tail ++ after).head? = some '>') := by
      intro arrow
      obtain ⟨rfl, begins⟩ := arrow
      cases tail with
      | nil => exact last rfl begins
      | cons d tail =>
        have continues := every.2 d List.mem_cons_self
        rw [List.cons_append, List.head?_cons, Option.some.injEq] at begins
        rw [begins] at continues
        revert continues
        decide
    have rest := ih every.2 fun hyphen => by
      apply last
      cases tail with
      | nil => cases hyphen
      | cons d tail => rwa [List.getLast?_cons_cons]
    rw [List.cons_append, spanIdentifier, every.1, if_neg, rest]
    rintro (arrow | impossible)
    · exact no_arrow arrow
    · cases impossible

section Read

variable {c : Char} {cs : List Char}

theorem read_of_digit (digit : Numeral.isDigit c = true) : read c cs = readNumber [c] cs := by
  have each : ∀ c ∈ digitMarks, symbol? c = none ∧ c ≠ '-' ∧ c ≠ '"' :=
    List.all_iff_forall_prop.mp (by decide)
  obtain ⟨not_symbol, not_hyphen, not_quote⟩ := each c (mem_digitMarks_of_isDigit digit)
  simp only [read, not_symbol, if_neg not_hyphen, if_neg not_quote, digit, if_true]

theorem read_of_hyphen_digit (digit : Numeral.isDigit c = true) :
    read '-' (c :: cs) = readNumber ['-'] (c :: cs) := by
  have not_arrow : c ≠ '>' := by
    rintro rfl
    revert digit
    decide
  have hyphen : read '-' (c :: cs) = readHyphen (c :: cs) := rfl
  rw [hyphen, readHyphen.eq_def]
  split
  next rest same => exact absurd (List.cons.inj same).1 not_arrow
  next d ds _ same =>
    cases same
    rw [if_pos digit]
  next impossible => cases impossible

theorem read_of_letter (letter : beginsIdentifier c = true) : read c cs = readIdentifier c cs := by
  obtain ⟨not_symbol, not_hyphen, not_quote, not_digit, -⟩ := initial_of_beginsIdentifier letter
  simp only [read, not_symbol, if_neg not_hyphen, if_neg not_quote, not_digit, letter, if_true,
    Bool.false_eq_true, if_false]

end Read

/-- What is read of a number with or without a hyphen is read from its first digit on. -/
theorem exists_read_of_whole {whole : List Char} (shape : Numeral.Whole whole)
    (after : List Char) :
    ∃ c first digits tail, whole = first ++ digits ∧ whole = c :: tail ∧
      (∀ c ∈ digits, Numeral.isDigit c = true) ∧
        read c (tail ++ after) = readNumber first (digits ++ after) := by
  cases shape with
  | positive nonempty every =>
    cases whole with
    | nil => exact absurd rfl nonempty
    | cons c digits =>
      rw [List.forall_mem_cons] at every
      exact ⟨c, [c], digits, digits, rfl, rfl, every.2, read_of_digit every.1⟩
  | @negative digits nonempty every =>
    cases digits with
    | nil => exact absurd rfl nonempty
    | cons c digits =>
      exact ⟨'-', ['-'], c :: digits, c :: digits, rfl, rfl, every,
        read_of_hyphen_digit (List.forall_mem_cons.mp every).1⟩

/-- A lexeme that ends where it stands is read. -/
theorem read_of_shaped {lexeme : Lexeme} {c : Char} {after cs : List Char}
    (shaped : lexeme.Shaped) (ends : lexeme.EndsBefore after)
    (split : c :: cs = lexeme.spelling ++ after) :
    read c cs = ⟨lexeme.spelling, .ok lexeme, after⟩ := by
  cases lexeme with
  | identifier name =>
    obtain ⟨first, tail, spelt, letter, every⟩ := shaped
    obtain ⟨stops, last⟩ := ends
    have spelling : Lexeme.spelling (.identifier name) = first :: tail := spelt
    rw [spelling, List.cons_append, List.cons.injEq] at split
    obtain ⟨rfl, rfl⟩ := split
    have hyphen_last : tail.getLast? = some '-' → after.head? ≠ some '>' := by
      intro hyphen
      apply last
      cases tail with
      | nil => cases hyphen
      | cons d tail => rwa [spelt, List.getLast?_cons_cons]
    rw [read_of_letter letter, spelling]
    simp only [readIdentifier, spanIdentifier_of_run every stops hyphen_last]
    rw [← spelt, String.ofList_toList]
  | number digits =>
    rw [Lexeme.spelling_number] at split ⊢
    rcases shaped with shape | shape
    · obtain ⟨d, first, run, tail, parts, spelt, every, begun⟩ :=
        exists_read_of_whole shape after
      rw [spelt, List.cons_append, List.cons.injEq] at split
      obtain ⟨rfl, rfl⟩ := split
      rw [begun, readNumber_of_whole every ends, ← parts, String.ofList_toList]
    · generalize literal : digits.toList = spelt at shape split
      cases shape with | @intro whole fraction shape every' =>
      obtain ⟨d, first, run, tail, parts, rfl, every, begun⟩ :=
        exists_read_of_whole shape ('.' :: (fraction ++ after))
      rw [List.append_assoc, List.cons_append, List.cons_append, List.cons.injEq] at split
      obtain ⟨rfl, rfl⟩ := split
      rw [begun, readNumber_of_pointed every every' ends, ← parts, ← literal,
        String.ofList_toList]
  | quoted text =>
    rw [Lexeme.spelling_quoted, List.cons_append, List.append_assoc, List.singleton_append,
      List.cons.injEq] at split
    obtain ⟨rfl, rfl⟩ := split
    have quote : read '"' (text.toList ++ '"' :: after) =
        readText (text.toList ++ '"' :: after) := rfl
    rw [quote, readText_of_closed shaped, Lexeme.spelling_quoted, String.ofList_toList,
      List.cons_append]
  | _ =>
    cases split
    rfl

theorem read_of_stray {c : Char} (stray : BeginsNothing c) (cs : List Char) :
    read c cs = ⟨[c], .error (.unexpectedCharacter c), cs⟩ := by
  obtain ⟨-, unspelt⟩ := stray
  have symbol : symbol? c = none := by
    rw [symbol?_eq_none_iff]
    intro member
    simp only [singleMarks, List.mem_cons, List.not_mem_nil, or_false] at member
    rcases member with rfl | rfl | rfl | rfl | rfl | rfl | rfl
    · exact unspelt .atSign trivial rfl
    · exact unspelt .openParen trivial rfl
    · exact unspelt .closeParen trivial rfl
    · exact unspelt .equals trivial rfl
    · exact unspelt .colon trivial rfl
    · exact unspelt .comma trivial rfl
    · exact unspelt .newline trivial rfl
  have hyphen : c ≠ '-' := by
    rintro rfl
    exact unspelt .arrow trivial rfl
  have quote : c ≠ '"' := by
    rintro rfl
    exact unspelt (.quoted "") (by simp [Lexeme.Shaped]) rfl
  have digit : Numeral.isDigit c = false := by
    rw [Bool.eq_false_iff]
    intro digit
    have shape : Numeral.Whole [c] :=
      .positive (List.cons_ne_nil c []) (List.forall_mem_singleton.mpr digit)
    apply unspelt (.number (String.ofList [c]))
    · exact Or.inl (by rwa [String.toList_ofList])
    · rw [Lexeme.spelling_number, String.toList_ofList, List.head?_cons]
  have letter : beginsIdentifier c = false := by
    rw [Bool.eq_false_iff]
    intro letter
    apply unspelt (.identifier (String.ofList [c]))
    · exact ⟨c, [], String.toList_ofList, letter, fun _ member => nomatch member⟩
    · rw [Lexeme.spelling_identifier, String.toList_ofList, List.head?_cons]
  simp only [read, symbol, if_neg hyphen, if_neg quote, digit, letter, Bool.false_eq_true,
    if_false]

/-- Where no token begins, reading reports the error. -/
theorem read_of_stuck {before cs : List Char} {c : Char} {error : LexError}
    (stuck : Stuck before (c :: cs) error) :
    ∃ fault, (read c cs).content = .error fault ∧
      error = ⟨fault, fault.place (.following before)
        (.following (before ++ (read c cs).used))⟩ := by
  generalize whole : c :: cs = text at stuck
  cases stuck with
  | character stray =>
    cases whole
    rw [read_of_stray stray]
    exact ⟨_, rfl, rfl⟩
  | hyphen no_arrow no_number =>
    cases whole
    have refused : read '-' cs = ⟨['-'], .error (.unexpectedCharacter '-'), cs⟩ := by
      have hyphen : read '-' cs = readHyphen cs := rfl
      rw [hyphen, readHyphen.eq_def]
      split
      next => exact absurd rfl no_arrow
      next d _ _ => rw [no_number d rfl, if_neg Bool.false_ne_true]
      next => rfl
    rw [refused]
    exact ⟨_, rfl, rfl⟩
  | @point number rest pointed =>
    cases pointed with | @intro digits fraction shape every' =>
    obtain ⟨d, first, run, tail, parts, rfl, every, begun⟩ :=
      exists_read_of_whole shape ('.' :: (fraction ++ '.' :: rest))
    rw [List.append_assoc, List.cons_append, List.cons_append, List.cons.injEq] at whole
    obtain ⟨rfl, rfl⟩ := whole
    rw [begun, readNumber_of_second_point every every', ← parts]
    exact ⟨_, rfl, rfl⟩
  | @text text rest every unclosed =>
    cases whole
    have quote : read '"' (text ++ rest) = readText (text ++ rest) := rfl
    rw [quote, readText_of_unclosed every unclosed]
    exact ⟨_, rfl, rfl⟩

end Chunk

namespace Cursor

theorem skipGap_of_gap {gap rest : List Char} (blank : ∀ c ∈ gap, isGap c = true)
    (stops : ∀ c ∈ rest.head?, isGap c = false) (before : List Char) :
    skipGap ⟨gap ++ rest, .following before⟩ = ⟨rest, .following (before ++ gap)⟩ := by
  obtain ⟨taken, dropped⟩ := Chunk.takeWhile_append_of_stops blank stops
  simp only [skipGap, advance, taken, dropped, Position.following_append]

theorem next_of_gap {gap : List Char} (blank : ∀ c ∈ gap, isGap c = true) (before : List Char) :
    next ⟨gap, .following before⟩ = (none, ⟨[], .following (before ++ gap)⟩) := by
  have stops : ∀ c ∈ ([] : List Char).head?, isGap c = false := by simp
  have skipped := skipGap_of_gap blank stops before
  rw [List.append_nil] at skipped
  simp only [next, skipped]

theorem next_of_token {gap after : List Char} {lexeme : Lexeme}
    (blank : ∀ c ∈ gap, isGap c = true) (shaped : lexeme.Shaped)
    (ends : lexeme.EndsBefore after) (before : List Char) :
    next ⟨gap ++ lexeme.spelling ++ after, .following before⟩ =
      (some (.ok ⟨lexeme, .following (before ++ gap)⟩),
        ⟨after, .following (before ++ gap ++ lexeme.spelling)⟩) := by
  have nonempty := Lexeme.length_spelling_pos shaped
  have first := fun c => Lexeme.not_gap_of_head (c := c) shaped
  obtain ⟨c, tail, spelt⟩ := List.exists_cons_of_length_pos nonempty
  have split : c :: (tail ++ after) = lexeme.spelling ++ after := by rw [spelt, List.cons_append]
  have stops : ∀ d ∈ (c :: (tail ++ after)).head?, isGap d = false := by
    intro d head
    cases head
    exact first c (by rw [spelt, List.head?_cons])
  have skipped := skipGap_of_gap blank stops before
  rw [List.append_assoc, ← split]
  simp only [next, skipped, Chunk.read_of_shaped shaped ends split, advance,
    Position.following_append]

theorem next_of_stuck {gap rest : List Char} {error : LexError} {before : List Char}
    (blank : ∀ c ∈ gap, isGap c = true) (stuck : Stuck (before ++ gap) rest error) :
    (next ⟨gap ++ rest, .following before⟩).1 = some (.error error) := by
  have nonempty : rest ≠ [] := by
    cases stuck with
    | point => simp
    | _ => exact List.cons_ne_nil _ _
  obtain ⟨c, cs, rfl⟩ := List.exists_cons_of_ne_nil nonempty
  have stops : ∀ d ∈ (c :: cs).head?, isGap d = false := by
    intro d head
    cases head
    exact stuck.not_gap_head
  have skipped := skipGap_of_gap blank stops before
  obtain ⟨fault, content, rfl⟩ := Chunk.read_of_stuck stuck
  simp only [next, skipped, content, advance, Position.following_append]

/-! A scan goes on with what the next token leaves. -/

theorem scan_of_none {cursor last : Cursor} (read : cursor.next = (none, last)) :
    cursor.scan = ([], last) := by
  rw [scan]
  split
  next last' other =>
    rw [read] at other
    cases other
    rfl
  next error last' other =>
    rw [read] at other
    cases other
  next token after other =>
    rw [read] at other
    cases other

theorem scan_of_error {cursor last : Cursor} {error : LexError}
    (read : cursor.next = (some (.error error), last)) : cursor.scan = ([.error error], last) := by
  rw [scan]
  split
  next last' other =>
    rw [read] at other
    cases other
  next error' last' other =>
    rw [read] at other
    cases other
    rfl
  next token after other =>
    rw [read] at other
    cases other

theorem scan_of_token {cursor after : Cursor} {token : Token}
    (read : cursor.next = (some (.ok token), after)) :
    cursor.scan.1 = .ok token :: after.scan.1 := by
  rw [scan]
  split
  next last other =>
    rw [read] at other
    cases other
  next error last other =>
    rw [read] at other
    cases other
  next token' after' other =>
    rw [read] at other
    cases other
    rfl

/-- Scanning yields the items of a cut. -/
theorem scan_of_cut {before cs : List Char} {items : List LexItem} (cut : Cut before cs items) :
    (scan ⟨cs, .following before⟩).1 = items := by
  induction cut with
  | @finish before gap blank => rw [scan_of_none (next_of_gap blank before)]
  | @token before gap after lexeme items blank shaped ends _ ih =>
    rw [scan_of_token (next_of_token blank shaped ends before), ih]
  | @stop before gap rest error blank stuck =>
    rw [scan_of_error (Prod.ext (next_of_stuck blank stuck) rfl)]

end Cursor

/-- The tokens of a text are those of its cut: the text is cut without loss into gaps and spellings
of lexemes that could not have been longer, up to its end or to a place where no token begins, and
there is no other such cut. -/
theorem tokens_eq_iff_cut (text : String) (items : List LexItem) :
    tokens text = items ↔ Cut [] text.toList items := by
  have scanned : ∀ items, Cut [] text.toList items → tokens text = items :=
    fun items cut => Cursor.scan_of_cut cut
  constructor
  · intro yields
    obtain ⟨cut_items, cut⟩ := exists_cut [] text.toList
    rw [← yields, scanned cut_items cut]
    exact cut
  · exact scanned items

end ModularSynth
