import Mathlib.Data.Nat.Digits.Defs
import ModularSynth.Proofs.Language.Atomicity
import ModularSynth.Proofs.Language.Resumption
import ModularSynth.Proofs.Language.Spelling

/-!
# What numbers denote

A number is shaped by the scanner and valued by the parser, and a sampling rate is checked once more
by the session. The three agree. A number of any length with a point is a float. One without is
exactly the integer that it denotes in the decimal system (`Numeral.denoted`), or it is refused
because it has no 64 bits to fit in; and as a sampling rate it is set exactly, or refused because it
is not positive or has more than 32 bits. No number is cut off or wraps around
(`readsNumber_of_next`).
-/

namespace ModularSynth

namespace Numeral

/-! ### Decimal notation -/

/-- The number that a digit stands for. -/
def digitOf (c : Char) : Nat := c.toNat - '0'.toNat

/-- What digits, possibly after a hyphen, denote in the decimal system. -/
def denoted : List Char → Int
  | '-' :: digits => -((Nat.ofDigits 10 (digits.reverse.map digitOf) : Nat) : Int)
  | digits => (Nat.ofDigits 10 (digits.reverse.map digitOf) : Nat)

theorem digitsValue_eq_ofDigits (digits : List Char) :
    digitsValue digits = Nat.ofDigits 10 (digits.reverse.map digitOf) := by
  induction digits using List.reverseRecOn with
  | nil => rfl
  | append_singleton digits c ih =>
    have last : digitsValue (digits ++ [c]) = 10 * digitsValue digits + digitOf c := by
      simp [digitsValue, digitOf, List.foldl_append]
    rw [last, ih, List.reverse_append, List.reverse_singleton, List.singleton_append,
      List.map_cons, Nat.ofDigits_cons, Nat.add_comm]

/-! ### What the readers make of the shapes -/

theorem not_sign_of_isDigit {c : Char} (digit : isDigit c = true) : c ≠ '-' ∧ c ≠ '+' := by
  constructor
  · rintro rfl
    cases digit
  · rintro rfl
    cases digit

theorem not_mark_of_isDigit {c : Char} (digit : isDigit c = true) :
    c ≠ '.' ∧ c ≠ 'e' ∧ c ≠ 'E' := by
  refine ⟨?_, ?_, ?_⟩
  all_goals
    rintro rfl
    cases digit

/-- The sign of a whole number, and its digits. -/
theorem Whole.exists_digits {whole : List Char} (shape : Whole whole) :
    ∃ negative digits, digits ≠ [] ∧ (∀ c ∈ digits, isDigit c = true) ∧
      (∀ rest, splitSign (whole ++ rest) = (negative, digits ++ rest)) ∧
      denoted whole = if negative then -(digitsValue digits : Int) else digitsValue digits := by
  cases shape with
  | positive nonempty every =>
    obtain ⟨c, digits, rfl⟩ := List.exists_cons_of_ne_nil nonempty
    obtain ⟨not_hyphen, not_plus⟩ := not_sign_of_isDigit (List.forall_mem_cons.mp every).1
    refine ⟨false, c :: digits, nonempty, every, ?_, ?_⟩
    · intro rest
      rw [List.cons_append, splitSign]
      · exact fun cs same => not_hyphen (List.cons.inj same).1
      · exact fun cs same => not_plus (List.cons.inj same).1
    · rw [denoted, digitsValue_eq_ofDigits, if_neg Bool.false_ne_true]
      exact fun cs same => not_hyphen (List.cons.inj same).1
  | @negative digits nonempty every =>
    refine ⟨true, digits, nonempty, every, fun rest => rfl, ?_⟩
    rw [digitsValue_eq_ofDigits, if_pos rfl, denoted]

theorem Whole.point_notMem {whole : List Char} (shape : Whole whole) : '.' ∉ whole := by
  intro member
  cases shape with
  | positive nonempty every => exact (not_mark_of_isDigit (every _ member)).1 rfl
  | negative nonempty every =>
    rcases List.mem_cons.mp member with impossible | member
    · cases impossible
    · exact (not_mark_of_isDigit (every _ member)).1 rfl

theorem Pointed.point_mem {number : List Char} (shape : Pointed number) : '.' ∈ number := by
  cases shape with
  | intro begins every => exact List.mem_append_right _ List.mem_cons_self

theorem digits?_eq {digits : List Char} (nonempty : digits ≠ [])
    (every : ∀ c ∈ digits, isDigit c = true) : digits? digits = some (digitsValue digits) :=
  if_pos ⟨nonempty, List.all_eq_true.mpr every⟩

/-- A whole number is read as what it denotes. -/
theorem Whole.integer?_eq {whole : List Char} (shape : Whole whole) :
    integer? whole = some (denoted whole) := by
  obtain ⟨negative, digits, nonempty, every, split, value⟩ := shape.exists_digits
  have signed := split []
  rw [List.append_nil, List.append_nil] at signed
  rw [integer?, signed]
  simp [digits?_eq nonempty every, value]

/-- Digits with a point among or after them are a magnitude, which has no exponent. -/
theorem exists_magnitude {whole fraction : List Char} (nonempty : whole ≠ [])
    (every : ∀ c ∈ whole, isDigit c = true) (every' : ∀ c ∈ fraction, isDigit c = true) :
    ∃ x, magnitude? (whole ++ '.' :: fraction) = some x := by
  have no_mark : ∀ c ∈ whole ++ '.' :: fraction,
      (!(decide (c = 'e') || decide (c = 'E'))) = true := by
    intro c member
    rcases List.mem_append.mp member with digit | rest
    · simp [not_mark_of_isDigit (every c digit)]
    · rcases List.mem_cons.mp rest with rfl | digit
      · rfl
      · simp [not_mark_of_isDigit (every' c digit)]
  have unmarked : splitExponent (whole ++ '.' :: fraction) =
      some (whole ++ '.' :: fraction, 0) := by
    have ends : ∀ c ∈ ([] : List Char).head?,
        (!(decide (c = 'e') || decide (c = 'E'))) = false := by simp
    obtain ⟨taken, dropped⟩ := Chunk.takeWhile_append_of_stops no_mark ends
    rw [List.append_nil] at taken dropped
    simp only [splitExponent, taken, dropped]
  have stops : ∀ c ∈ ('.' :: fraction).head?, isDigit c = false := by
    intro c first
    cases first
    rfl
  obtain ⟨taken, dropped⟩ := Chunk.takeWhile_append_of_stops every stops
  have digits : digits? (whole ++ fraction) = some (digitsValue (whole ++ fraction)) :=
    digits?_eq (List.append_ne_nil_of_left_ne_nil nonempty fraction)
      (List.forall_mem_append.mpr ⟨every, every'⟩)
  unfold magnitude?
  rw [unmarked]
  simp [taken, dropped, digits]

end Numeral

/-- Every number with a point is read as a float. -/
theorem exists_readFloat_of_pointed {literal : String}
    (shape : Numeral.Pointed literal.toList) : ∃ x, readFloat literal = some x := by
  unfold readFloat
  generalize literal.toList = number at shape
  cases shape with
  | intro begins every' =>
    obtain ⟨negative, digits, nonempty, every, split, -⟩ := begins.exists_digits
    obtain ⟨x, read⟩ := Numeral.exists_magnitude nonempty every every'
    refine ⟨if negative then -x else x, ?_⟩
    rw [split]
    simp only [read, Option.map_some]

/-- What denotes an integer of 64 bits is read as that integer, -/
theorem exists_readInteger_of_whole {literal : String} (shape : Numeral.Whole literal.toList)
    (least : -2 ^ 63 ≤ Numeral.denoted literal.toList)
    (most : Numeral.denoted literal.toList < 2 ^ 63) :
    ∃ n : Int64, n.toInt = Numeral.denoted literal.toList ∧ readInteger literal = some n := by
  refine ⟨Int64.ofInt (Numeral.denoted literal.toList), Int64.toInt_ofInt_of_le least most, ?_⟩
  rw [readInteger, shape.integer?_eq, Option.bind_some]
  exact if_pos ⟨least, Int.le_of_lt_add_one most⟩

/-- and what denotes any other is not read. -/
theorem readInteger_eq_none_of_whole {literal : String} (shape : Numeral.Whole literal.toList)
    (outside : ¬ (-2 ^ 63 ≤ Numeral.denoted literal.toList ∧
      Numeral.denoted literal.toList < 2 ^ 63)) : readInteger literal = none := by
  rw [readInteger, shape.integer?_eq, Option.bind_some]
  apply if_neg
  intro inside
  exact outside ⟨inside.1, Int.lt_add_one_of_le inside.2⟩

/-! ### Tokens -/

/-- Every token that is read off a text has the shape of its kind. -/
theorem Cursor.shaped_of_next {cursor after : Cursor} {token : Token}
    (read : cursor.next = (some (.ok token), after)) : token.lexeme.Shaped := by
  simp only [next] at read
  split at read
  next => cases read
  next c cs front =>
    have not_gap : isGap c = false := by
      have head := List.head?_dropWhile_not isGap cursor.rest
      have same : cursor.rest.dropWhile isGap = c :: cs := front
      rw [same] at head
      simpa using head
    rcases begins_of_not_gap not_gap cs with ⟨lexeme, rest, shaped, ends, split⟩ | stuck
    · rw [Chunk.read_of_shaped shaped ends split] at read
      cases read
      exact shaped
    · obtain ⟨error, stuck⟩ := stuck []
      obtain ⟨fault, content, -⟩ := Chunk.read_of_stuck stuck
      rw [content] at read
      cases read

namespace Token

variable {literal : String} {position : Position}

theorem value_of_pointed (shape : Numeral.Pointed literal.toList) :
    ∃ x, readFloat literal = some x ∧
      (Token.mk (.number literal) position).value = .ok (.float x) := by
  obtain ⟨x, read⟩ := exists_readFloat_of_pointed shape
  have point : literal.toList.contains '.' = true := List.contains_iff_mem.mpr shape.point_mem
  refine ⟨x, read, ?_⟩
  simp only [value, Lexeme.valueOfNumber?, point, if_true, read, Option.map_some]

theorem value_of_whole (shape : Numeral.Whole literal.toList) :
    (Token.mk (.number literal) position).value =
      match readInteger literal with
      | some n => .ok (.integer n)
      | none => .error (.malformed (.invalidNumber literal) position) := by
  have no_point : literal.toList.contains '.' = false := by
    rw [Bool.eq_false_iff, ne_eq, List.contains_iff_mem]
    exact shape.point_notMem
  simp only [value, Lexeme.valueOfNumber?, no_point, Bool.false_eq_true, if_false]
  cases readInteger literal with
  | some n => rfl
  | none => rfl

end Token

/-! ### A line that gives the sampling rate -/

/-- The white space in such a line: before each of its lexemes, and after the last. -/
structure RateLine where
  indent : List Char
  inner : List Char
  space : List Char
  trail : List Char
  blank_indent : ∀ c ∈ indent, isGap c = true
  blank_inner : ∀ c ∈ inner, isGap c = true
  blank_space : ∀ c ∈ space, isGap c = true
  blank_trail : ∀ c ∈ trail, isGap c = true
  /-- Without white space the number would be part of the name before it. -/
  apart : space ≠ []

namespace RateLine

/-- What stands before the number. -/
def lead (line : RateLine) : List Char :=
  line.indent ++ ['@'] ++ line.inner ++ rateParameter.toList ++ line.space

def text (line : RateLine) (literal : String) : List Char :=
  line.lead ++ literal.toList ++ line.trail

/-- The place of the line's first token after some characters. -/
def place (line : RateLine) (before : List Char) : Position := .following (before ++ line.indent)

/-- The place of its number. -/
def numberPlace (line : RateLine) (before : List Char) : Position :=
  .following (before ++ line.lead)

end RateLine

/-- A gap more before a text is a gap more in its cut. -/
theorem Cut.of_gap {before gap cs : List Char} {items : List LexItem}
    (blank : ∀ c ∈ gap, isGap c = true) (cut : Cut (before ++ gap) cs items) :
    Cut before (gap ++ cs) items := by
  generalize start : before ++ gap = begun at cut
  cases cut with
  | finish blank' => exact .finish (List.forall_mem_append.mpr ⟨blank, blank'⟩)
  | token blank' shaped ends later =>
    subst start
    rw [List.append_assoc before] at later ⊢
    have whole := Cut.token (List.forall_mem_append.mpr ⟨blank, blank'⟩) shaped ends later
    simpa only [List.append_assoc] using whole
  | stop blank' stuck =>
    subst start
    rw [List.append_assoc] at stuck
    have whole := Cut.stop (List.forall_mem_append.mpr ⟨blank, blank'⟩) stuck
    simpa only [List.append_assoc] using whole

/-- A line is over where nothing follows or a line feed. -/
def LineOver (rest : List Char) : Prop :=
  ∀ c ∈ rest.head?, c = '\n'

/-- What follows a line is cut into nothing, or a line feed and more. -/
theorem LineOver.exists_cut {rest : List Char} (ended : LineOver rest) (before : List Char) :
    ∃ items, Cut before rest items ∧
      (items = [] ∨ ∃ position more, items = .ok ⟨.newline, position⟩ :: more) := by
  cases rest with
  | nil => exact ⟨[], .finish (List.forall_mem_nil _), Or.inl rfl⟩
  | cons c rest =>
    obtain rfl := ended c rfl
    have shaped : Lexeme.newline.Shaped := trivial
    obtain ⟨more, cut⟩ := ModularSynth.exists_cut (before ++ [] ++ ['\n']) rest
    exact ⟨_, .token (List.forall_mem_nil _) shaped trivial cut,
      Or.inr ⟨_, more, rfl⟩⟩

namespace RateLine

variable {literal : String} {rest : List Char}

/-- The number ends where the line does. -/
theorem endsBefore (line : RateLine) (ended : LineOver rest) :
    (Lexeme.number literal).EndsBefore (line.trail ++ rest) := by
  cases trail : line.trail with
  | nil =>
    intro c first
    obtain rfl := ended c first
    decide
  | cons c trail =>
    have gap := line.blank_trail c (by rw [trail]; exact List.mem_cons_self)
    exact Lexeme.endsBefore_gap _ gap _

theorem shaped_rateParameter : (Lexeme.identifier rateParameter).Shaped :=
  ⟨'S', "AMPLING_FREQ".toList, rfl, by decide, List.all_iff_forall_prop.mp (by decide)⟩

/-- The three tokens of the line. -/
theorem cut (line : RateLine) {before : List Char} {items : List LexItem}
    (shaped : (Lexeme.number literal).Shaped) (ended : LineOver rest)
    (later : Cut (before ++ line.text literal) rest items) :
    ∃ namePlace, Cut before (line.text literal ++ rest)
      (.ok ⟨.atSign, line.place before⟩ :: .ok ⟨.identifier rateParameter, namePlace⟩ ::
        .ok ⟨.number literal, line.numberPlace before⟩ :: items) := by
  have after_number : Cut (before ++ line.lead ++ literal.toList) (line.trail ++ rest) items := by
    apply Cut.of_gap line.blank_trail
    simpa only [text, List.append_assoc] using later
  have after_name : Cut (before ++ line.indent ++ ['@'] ++ line.inner ++ rateParameter.toList)
      (line.space ++ literal.toList ++ (line.trail ++ rest))
      (.ok ⟨.number literal, line.numberPlace before⟩ :: items) := by
    have place : before ++ line.lead =
        before ++ line.indent ++ ['@'] ++ line.inner ++ rateParameter.toList ++ line.space := by
      simp only [lead, List.append_assoc]
    rw [place] at after_number
    rw [numberPlace, place]
    exact .token line.blank_space shaped (line.endsBefore ended) after_number
  have name_ends : (Lexeme.identifier rateParameter).EndsBefore
      (line.space ++ literal.toList ++ (line.trail ++ rest)) := by
    obtain ⟨c, space, spaced⟩ := List.exists_cons_of_ne_nil line.apart
    have gap := line.blank_space c (by rw [spaced]; exact List.mem_cons_self)
    rw [spaced]
    exact Lexeme.endsBefore_gap _ gap _
  have after_sign := Cut.token line.blank_inner shaped_rateParameter name_ends after_name
  have shaped_sign : Lexeme.atSign.Shaped := trivial
  have whole := Cut.token line.blank_indent shaped_sign trivial after_sign
  have split : line.text literal ++ rest = line.indent ++ ['@'] ++ (line.inner ++
      rateParameter.toList ++ (line.space ++ literal.toList ++ (line.trail ++ rest))) := by
    simp only [text, lead, List.append_assoc]
  rw [split]
  exact ⟨_, whole⟩

end RateLine

/-! A line for a parameter is read as a statement, and what follows it as if it stood alone. -/

section Parameter

variable {first second : Position} {name : String} {token : Token} {items : List LexItem}

theorem readStatement_parameter (first second : Position) (name : String) (token : Token)
    (items : List LexItem) :
    readStatement (.ok ⟨.atSign, first⟩ :: .ok ⟨.identifier name, second⟩ :: .ok token :: items) =
      continueStatement first (.parameterValue name) second (.ok token :: items) := by
  have begun : Partial.begin ⟨.atSign, first⟩ = .ok .parameterName := rfl
  rw [readStatement_of_begin_ok (by simp) begun, continueStatement_of_feeds .parameterName]

theorem parse_parameter_of_ok {value : Value} (denotes : token.value = .ok value)
    (ended : items = [] ∨ ∃ position more, items = .ok ⟨.newline, position⟩ :: more) :
    parse (.ok ⟨.atSign, first⟩ :: .ok ⟨.identifier name, second⟩ :: .ok token :: items) =
      .ok ⟨.parameter name value, first⟩ :: parse items := by
  have feeds : (Partial.parameterValue name).Feeds token (.lineEnd (.parameter name value)) :=
    .parameterValue (Token.value_eq_ok_iff.mp denotes)
  have read := readStatement_parameter first second name token items
  rw [continueStatement_of_feeds feeds] at read
  rcases ended with rfl | ⟨position, more, rfl⟩
  · rw [parse_of_statement read]
  · rw [continueStatement_of_end rfl rfl] at read
    rw [parse_of_statement read, parse_newline]

theorem parse_parameter_of_error {error : ParseError} (refused : token.value = .error error) :
    parse (.ok ⟨.atSign, first⟩ :: .ok ⟨.identifier name, second⟩ :: .ok token :: items) =
      [.error error] := by
  have unfed : (Partial.parameterValue name).feed token = .error error := by
    simp only [Partial.feed, refused]
    rfl
  apply parse_of_failed
  rw [readStatement_parameter, continueStatement_of_refused unfed (Or.inl rfl)]

end Parameter

namespace Session

variable {D : Type} [Device D] (registry : Registry D) (s : Session D) {before rest : List Char}
  {literal : String}

/-- A line whose number denotes a value sets the sampling rate to it, if the session lets it, and
what comes after the line is carried out next. -/
theorem runText_rate_of_value (line : RateLine) (shaped : (Lexeme.number literal).Shaped)
    (ended : LineOver rest) {value : Value}
    (denotes : (Token.mk (.number literal) (line.numberPlace before)).value = .ok value) :
    s.runText registry before (line.text literal ++ rest) =
      match s.execute registry ⟨.parameter rateParameter value, line.place before⟩ with
      | (.ok (), after) => after.runText registry (before ++ line.text literal) rest
      | (.error error, after) => (.error (.semantic error), after) := by
  obtain ⟨items, later, shape⟩ := ended.exists_cut (before ++ line.text literal)
  obtain ⟨namePlace, cut⟩ := line.cut shaped ended later
  unfold runText
  rw [Cursor.scan_of_cut cut, Cursor.scan_of_cut later, parse_parameter_of_ok denotes shape]
  rfl

/-- A line whose number denotes nothing is an error where the number stands. -/
theorem runText_rate_of_error (line : RateLine) (shaped : (Lexeme.number literal).Shaped)
    (ended : LineOver rest) {error : ParseError}
    (refused : (Token.mk (.number literal) (line.numberPlace before)).value = .error error) :
    s.runText registry before (line.text literal ++ rest) = (.error (.ofParse error), s) := by
  obtain ⟨items, later, -⟩ := ended.exists_cut (before ++ line.text literal)
  obtain ⟨namePlace, cut⟩ := line.cut shaped ended later
  unfold runText
  rw [Cursor.scan_of_cut cut, parse_parameter_of_error refused, run]

/-- A rate of 32 bits other than zero is set, -/
theorem Paired.execute_rate_of_inside {s : Session D} (paired : s.Paired) {n : Int64}
    (least : 0 < n.toInt) (most : n.toInt < 2 ^ 32) (position : Position) :
    s.execute registry ⟨.parameter rateParameter (.integer n), position⟩ =
      (.ok (), { s with patch := s.patch.setRate (UInt32.ofNat n.toInt.toNat) }) := by
  have accepted : s.setParameter rateParameter (.integer n) =
      .ok { s with patch := s.patch.setRate (UInt32.ofNat n.toInt.toNat) } :=
    setParameter_eq_ok_iff.mpr (Or.inl ⟨rfl, n, rfl, ⟨least, most⟩, rfl⟩)
  have idle : Session.bindOutput
      { s with patch := s.patch.setRate (UInt32.ofNat n.toInt.toNat) } = (.ok (), _) :=
    bindOutput_of_idle paired.idle
  simp only [execute, perform_parameter_of_ok accepted, idle, Except.mapError]

/-- and any other is refused. -/
theorem execute_rate_of_outside {n : Int64} (outside : ¬ (0 < n.toInt ∧ n.toInt < 2 ^ 32))
    (position : Position) :
    s.execute registry ⟨.parameter rateParameter (.integer n), position⟩ =
      (.error ⟨.rateOutOfRange n, position⟩, s) := by
  have refused : s.setParameter rateParameter (.integer n) = .error (.rateOutOfRange n) := by
    have range : expectRate rateParameter (.integer n) = .error (.rateOutOfRange n) :=
      if_neg outside
    rw [setParameter, if_pos rfl, range]
    rfl
  simp only [execute, perform_parameter_of_error refused, Except.mapError]

end Session

/-- What the number of a token says as a value, and as the sampling rate in a line of its own. The
line stands after the characters `before` and is carried out in the session `s`. -/
structure ReadsNumber {D : Type} [Device D] (registry : Registry D) (s : Session D)
    (before : List Char) (line : RateLine) (rest : List Char) (literal : String)
    (position : Position) : Prop where
  /-- A number with a point is a float, whatever its length. -/
  float : '.' ∈ literal.toList → ∃ x, readFloat literal = some x ∧
    (Token.mk (.number literal) position).value = .ok (.float x)
  /-- A number without one is the integer that it denotes, if that has 64 bits, -/
  integer : '.' ∉ literal.toList →
    -2 ^ 63 ≤ Numeral.denoted literal.toList → Numeral.denoted literal.toList < 2 ^ 63 →
    ∃ n : Int64, n.toInt = Numeral.denoted literal.toList ∧
      (Token.mk (.number literal) position).value = .ok (.integer n)
  /-- and otherwise is refused where it stands. -/
  beyond : '.' ∉ literal.toList →
    ¬ (-2 ^ 63 ≤ Numeral.denoted literal.toList ∧ Numeral.denoted literal.toList < 2 ^ 63) →
    (Token.mk (.number literal) position).value =
      .error (.malformed (.invalidNumber literal) position)
  /-- As a sampling rate it is set to exactly what it denotes, if that is positive and has 32 bits,
  and the text goes on after the line. -/
  rate_set : '.' ∉ literal.toList →
    0 < Numeral.denoted literal.toList → Numeral.denoted literal.toList < 2 ^ 32 →
    ∃ hertz : UInt32, (hertz.toNat : Int) = Numeral.denoted literal.toList ∧
      s.runText registry before (line.text literal ++ rest) =
        ({ s with patch := { s.patch with rate := hertz } } : Session D).runText registry
          (before ++ line.text literal) rest
  /-- Another integer of 64 bits is out of range: the error names it and stands where the line
  begins, and nothing changes. -/
  rate_out_of_range : '.' ∉ literal.toList →
    ¬ (0 < Numeral.denoted literal.toList ∧ Numeral.denoted literal.toList < 2 ^ 32) →
    -2 ^ 63 ≤ Numeral.denoted literal.toList → Numeral.denoted literal.toList < 2 ^ 63 →
    ∃ n : Int64, n.toInt = Numeral.denoted literal.toList ∧
      s.runText registry before (line.text literal ++ rest) =
        (.error (.semantic ⟨.rateOutOfRange n, line.place before⟩), s)
  /-- Beyond that there is no number, and the error stands where it does. -/
  rate_beyond : '.' ∉ literal.toList →
    ¬ (-2 ^ 63 ≤ Numeral.denoted literal.toList ∧ Numeral.denoted literal.toList < 2 ^ 63) →
    s.runText registry before (line.text literal ++ rest) =
      (.error (.grammar (.invalidNumber literal) (line.numberPlace before)), s)

/-- Every number that is read off a text, wherever it stands, has the value that it denotes or none,
and gives the sampling rate by that value in every session that statements lead to. -/
theorem readsNumber_of_next {D : Type} [Device D] {registry : Registry D} {s : Session D}
    {cursor after : Cursor} {literal : String} {position : Position} {rest : List Char}
    (read : cursor.next = (some (.ok ⟨.number literal, position⟩), after))
    (reached : s.Reached registry) (ended : LineOver rest) (before : List Char)
    (line : RateLine) : ReadsNumber registry s before line rest literal position := by
  have shaped : (Lexeme.number literal).Shaped := Cursor.shaped_of_next read
  have paired := Session.paired_of_reached reached
  have whole : '.' ∉ literal.toList → Numeral.Whole literal.toList := by
    intro no_point
    rcases shaped with whole | pointed
    · exact whole
    · exact absurd pointed.point_mem no_point
  have integer : ∀ position, '.' ∉ literal.toList →
      -2 ^ 63 ≤ Numeral.denoted literal.toList → Numeral.denoted literal.toList < 2 ^ 63 →
      ∃ n : Int64, n.toInt = Numeral.denoted literal.toList ∧
        (Token.mk (.number literal) position).value = .ok (.integer n) := by
    intro position no_point least most
    obtain ⟨n, exact_value, read⟩ := exists_readInteger_of_whole (whole no_point) least most
    refine ⟨n, exact_value, ?_⟩
    rw [Token.value_of_whole (whole no_point), read]
  have beyond : ∀ position, '.' ∉ literal.toList →
      ¬ (-2 ^ 63 ≤ Numeral.denoted literal.toList ∧ Numeral.denoted literal.toList < 2 ^ 63) →
      (Token.mk (.number literal) position).value =
        .error (.malformed (.invalidNumber literal) position) := by
    intro position no_point outside
    rw [Token.value_of_whole (whole no_point),
      readInteger_eq_none_of_whole (whole no_point) outside]
  refine ⟨?_, integer position, beyond position, ?_, ?_, ?_⟩
  · intro point
    rcases shaped with whole | pointed
    · exact absurd point whole.point_notMem
    · exact Token.value_of_pointed pointed
  · intro no_point least most
    obtain ⟨n, same, denotes⟩ :=
      integer (line.numberPlace before) no_point (by omega) (by omega)
    rw [← same] at least most ⊢
    have carried := s.runText_rate_of_value registry line shaped ended denotes
    rw [paired.execute_rate_of_inside registry least most] at carried
    refine ⟨UInt32.ofNat n.toInt.toNat, ?_, carried⟩
    have fits : n.toInt.toNat < UInt32.size := (Int.toNat_lt least.le).mpr most
    rw [UInt32.toNat_ofNat_of_lt' fits, Int.toNat_of_nonneg least.le]
  · intro no_point outside least most
    obtain ⟨n, same, denotes⟩ := integer (line.numberPlace before) no_point least most
    rw [← same] at outside
    have carried := s.runText_rate_of_value registry line shaped ended denotes
    rw [s.execute_rate_of_outside registry outside] at carried
    exact ⟨n, same, carried⟩
  · intro no_point outside
    exact s.runText_rate_of_error registry line shaped ended
      (beyond (line.numberPlace before) no_point outside)

/-- The greatest rate, with zeros in front. -/
def greatestRate : String := "0004294967295"

/-- A line without more white space than it needs. -/
def plainLine : RateLine where
  indent := []
  inner := []
  space := [' ']
  trail := []
  blank_indent := List.forall_mem_nil _
  blank_inner := List.forall_mem_nil _
  blank_space := List.forall_mem_singleton.mpr rfl
  blank_trail := List.forall_mem_nil _
  apart := List.cons_ne_nil _ _

theorem greatestRate_readsNumber :
    (Cursor.ofString greatestRate).next =
        (some (.ok ⟨.number greatestRate, ⟨1, 1⟩⟩), ⟨[], ⟨1, 14⟩⟩) ∧
      Session.misnamed.Reached Program.echoes ∧ LineOver ['\n'] ∧
      '.' ∉ greatestRate.toList ∧ Numeral.denoted greatestRate.toList = 2 ^ 32 - 1 ∧
      ReadsNumber Program.echoes Session.misnamed [] plainLine ['\n'] greatestRate ⟨1, 1⟩ := by
  have read : (Cursor.ofString greatestRate).next =
      (some (.ok ⟨.number greatestRate, ⟨1, 1⟩⟩), ⟨[], ⟨1, 14⟩⟩) := by decide
  have reached : Session.misnamed.Reached Program.echoes :=
    ⟨((Patch.ofSettings {}).run Patch.rewiring).2, Session.misnaming, ⟨{}, Patch.rewiring, rfl⟩,
      rfl⟩
  have ended : LineOver ['\n'] := by
    intro c first
    cases first
    rfl
  exact ⟨read, reached, ended, by decide, by decide,
    readsNumber_of_next read reached ended [] plainLine⟩

end ModularSynth
