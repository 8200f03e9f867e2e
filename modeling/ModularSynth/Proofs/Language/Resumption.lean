import ModularSynth.Language.Compile
import ModularSynth.Proofs.Language.Cut
import ModularSynth.Proofs.Language.Grammar

/-!
# Reading on after a line feed

No token and no statement reaches over a line feed. So what a text does, read up to a line feed, is
what it does as the beginning of a longer text, and the rest of that text is read as if it stood
alone, except that its places are counted from the beginning (`Session.runText_append`). The three
stages are followed one by one: each list of items goes on with those of the rest unless it ends in
an error (`proceed`).
-/

namespace ModularSynth

/-- One list after another. An error ends the first, and then nothing comes after it. -/
def proceed {ε α : Type} : List (Except ε α) → List (Except ε α) → List (Except ε α)
  | [], later => later
  | .ok a :: items, later => .ok a :: proceed items later
  | .error error :: _, _ => [.error error]

/-- Nothing stands after the last line feed. -/
def EndsLine (cs : List Char) : Prop :=
  ∀ c ∈ cs.getLast?, c = '\n'

theorem EndsLine.of_append {cs ds : List Char} (ends : EndsLine (cs ++ ds)) : EndsLine ds := by
  intro c last
  apply ends c
  rw [List.getLast?_append, Option.mem_def.mp last]
  rfl

theorem EndsLine.eq_nil_of_gap {gap : List Char} (ends : EndsLine gap)
    (blank : ∀ c ∈ gap, isGap c = true) : gap = [] := by
  cases last : gap.getLast? with
  | none => exact List.getLast?_eq_none_iff.mp last
  | some c =>
    have gap_feed := blank c (List.mem_of_getLast? last)
    rw [ends c last] at gap_feed
    cases gap_feed

/-! ### Tokens -/

theorem Numeral.Whole.newline_notMem {whole : List Char} (shape : Numeral.Whole whole) :
    '\n' ∉ whole := by
  have no_digit : Numeral.isDigit '\n' ≠ true := by decide
  cases shape with
  | positive nonempty every => exact fun member => no_digit (every _ member)
  | negative nonempty every =>
    intro member
    rcases List.mem_cons.mp member with impossible | member
    · cases impossible
    · exact no_digit (every _ member)

namespace Lexeme

/-- A lexeme that holds a line feed is one. -/
theorem eq_newline_of_mem {lexeme : Lexeme} (shaped : lexeme.Shaped)
    (member : '\n' ∈ lexeme.spelling) : lexeme = .newline := by
  cases lexeme with
  | newline => rfl
  | identifier name =>
    obtain ⟨first, rest, spelt, letter, every⟩ := shaped
    rw [spelling_identifier, spelt] at member
    rcases List.mem_cons.mp member with rfl | member
    · exact absurd letter (by decide)
    · exact absurd (every _ member) (by decide)
  | number digits =>
    rw [spelling_number] at member
    rcases shaped with shape | shape
    · exact absurd member shape.newline_notMem
    · generalize digits.toList = spelt at shape member
      cases shape with | intro begins every =>
      rcases List.mem_append.mp member with member | member
      · exact absurd member begins.newline_notMem
      · rcases List.mem_cons.mp member with impossible | member
        · cases impossible
        · exact absurd (every _ member) (by decide)
  | quoted text =>
    rw [spelling_quoted] at member
    rcases List.mem_cons.mp member with impossible | member
    · cases impossible
    · rcases List.mem_append.mp member with member | member
      · exact absurd (shaped _ member) (by decide)
      · cases List.mem_singleton.mp member
  | _ =>
    revert member
    decide

theorem eq_newline_of_endsLine {lexeme : Lexeme} (shaped : lexeme.Shaped)
    (ends : EndsLine lexeme.spelling) : lexeme = .newline := by
  have nonempty : lexeme.spelling ≠ [] := List.ne_nil_of_length_pos (length_spelling_pos shaped)
  apply eq_newline_of_mem shaped
  have member := List.getLast_mem nonempty
  rwa [ends _ (List.getLast?_eq_some_getLast nonempty)] at member

/-- What comes after a line feed has no say in where a lexeme before it ends. -/
theorem EndsBefore.append {lexeme : Lexeme} {after : List Char} (stops : lexeme.EndsBefore after)
    (shaped : lexeme.Shaped) (ends : EndsLine (lexeme.spelling ++ after)) (more : List Char) :
    lexeme.EndsBefore (after ++ more) := by
  cases after with
  | nil =>
    rw [List.append_nil] at ends
    rw [eq_newline_of_endsLine shaped ends]
    trivial
  | cons d after =>
    cases lexeme with
    | identifier name =>
      obtain ⟨first, last⟩ := stops
      refine ⟨?_, last⟩
      intro c head continues
      obtain ⟨hyphen, arrow⟩ := first c head continues
      obtain ⟨rest, rfl⟩ := List.head?_eq_some_iff.mp arrow
      exact ⟨hyphen, rfl⟩
    | number digits => exact stops
    | _ => trivial

end Lexeme

theorem Stuck.append {before cs : List Char} {error : LexError} (stuck : Stuck before cs error)
    (ends : EndsLine cs) (more : List Char) : Stuck before (cs ++ more) error := by
  cases stuck with
  | character stray => exact .character stray
  | @hyphen rest no_arrow no_number =>
    cases rest with
    | nil => exact absurd (ends '-' rfl) (by decide)
    | cons d rest => exact .hyphen no_arrow no_number
  | @point number rest pointed =>
    rw [List.append_assoc, List.cons_append]
    exact .point pointed
  | @text text rest every unclosed =>
    rw [List.cons_append, List.append_assoc]
    apply Stuck.text every
    rcases unclosed with rfl | feed
    · rw [List.append_nil] at ends
      have last : ('"' :: text).getLast? = some (('"' :: text).getLast (by simp)) :=
        List.getLast?_eq_some_getLast _
      have member := List.getLast_mem (List.cons_ne_nil '"' text)
      rw [ends _ last] at member
      rcases List.mem_cons.mp member with impossible | member
      · cases impossible
      · exact absurd (every _ member) (by decide)
    · obtain ⟨rest, rfl⟩ := List.head?_eq_some_iff.mp feed
      exact Or.inr rfl

/-- A text that ends with a line feed is cut like the beginning of a longer one. -/
theorem Cut.proceed {before cs ds : List Char} {items later : List LexItem}
    (cut : Cut before cs items) (ends : EndsLine cs) (next : Cut (before ++ cs) ds later) :
    Cut before (cs ++ ds) (proceed items later) := by
  induction cut with
  | finish blank =>
    rw [ends.eq_nil_of_gap blank] at next ⊢
    rw [List.append_nil] at next
    exact next
  | @token before gap after lexeme items blank shaped stops _ ih =>
    have spelt : EndsLine (lexeme.spelling ++ after) := by
      rw [List.append_assoc] at ends
      exact ends.of_append
    rw [← List.append_assoc, ← List.append_assoc] at next
    rw [List.append_assoc _ after]
    exact .token blank shaped (stops.append shaped spelt ds) (ih spelt.of_append next)
  | stop blank stuck =>
    rw [List.append_assoc]
    exact .stop blank (stuck.append ends.of_append ds)

/-- The last item is a line end, unless it is an error. -/
def Closed (items : List LexItem) : Prop :=
  ∀ token, items.getLast? = some (.ok token) → token.lexeme = .newline

theorem Closed.tail {item : LexItem} {items : List LexItem} (closed : Closed (item :: items)) :
    Closed items := by
  intro token last
  apply closed token
  rw [List.getLast?_cons, last]
  rfl

theorem Cut.closed {before cs : List Char} {items : List LexItem} (cut : Cut before cs items)
    (ends : EndsLine cs) : Closed items := by
  induction cut with
  | finish blank =>
    intro token last
    cases last
  | @token before gap after lexeme items blank shaped stops cut ih =>
    intro token last
    cases items with
    | nil =>
      cases last
      cases cut with | finish blank' =>
      rw [ends.of_append.eq_nil_of_gap blank', List.append_nil] at ends
      exact Lexeme.eq_newline_of_endsLine shaped ends.of_append
    | cons item items =>
      rw [List.getLast?_cons_cons] at last
      exact ih ends.of_append token last
  | stop blank stuck =>
    intro token last
    cases last

/-! ### Statements -/

theorem continueStatement_of_end {first last : Position} {state : Partial} {token : Token}
    {command : Command} (complete : state.command? = some command)
    (line_end : token.lexeme = .newline) (items : List LexItem) :
    continueStatement first state last (.ok token :: items) =
      .statement ⟨command, first⟩ items := by
  simp only [continueStatement, complete, line_end]

theorem continueStatement_of_feeds {first last : Position} {state next : Partial} {token : Token}
    (feeds : state.Feeds token next) (items : List LexItem) :
    continueStatement first state last (.ok token :: items) =
      continueStatement first next token.position items := by
  simp only [continueStatement, feeds.command?_eq_none, Partial.feed_eq_ok_iff.mpr feeds]

theorem continueStatement_of_refused {first last : Position} {state : Partial} {token : Token}
    {error : ParseError} (refused : state.feed token = .error error)
    (unfinished : state.command? = none ∨ token.lexeme ≠ .newline) (items : List LexItem) :
    continueStatement first state last (.ok token :: items) = .failed error items := by
  rw [continueStatement]
  split
  next command complete line_end =>
    rcases unfinished with missing | other
    · rw [missing] at complete
      cases complete
    · exact absurd line_end other
  next => rw [refused]

/-- A line end after a whole statement ends it. -/
theorem Partial.unfinished_or_ends (state : Partial) (token : Token) :
    (state.command? = none ∨ token.lexeme ≠ .newline) ∨
      ∃ command, state = .lineEnd command ∧ token.lexeme = .newline := by
  cases state with
  | lineEnd command =>
    by_cases line_end : token.lexeme = .newline
    · exact Or.inr ⟨command, rfl, line_end⟩
    · exact Or.inl (Or.inr line_end)
  | _ => exact Or.inl (Or.inl rfl)

/-- A line end is part of no statement. -/
theorem Partial.Feeds.lexeme_ne_newline {state next : Partial} {token : Token}
    (feeds : state.Feeds token next) : token.lexeme ≠ .newline := by
  have no_value : ∀ {token : Token} {value : Value}, Grammar.Denotes token value →
      token.lexeme ≠ .newline := by
    intro token value denotes
    cases denotes <;> simp
  cases feeds with
  | parameterValue denotes => exact no_value denotes
  | argumentValue denotes new => exact no_value denotes
  | _ => simp

/-- How reading goes on with what comes after a list. -/
inductive Resumes (later : List LexItem) : ParseResult → ParseResult → Prop
  | statement {statement : Statement} {rest : List LexItem} (closed : Closed rest) :
      Resumes later (.statement statement rest) (.statement statement (proceed rest later))
  | failed {error : ParseError} (rest rest' : List LexItem) :
      Resumes later (.failed error rest) (.failed error rest')

theorem resumes_continueStatement {items : List LexItem} (closed : Closed items)
    (nonempty : items ≠ []) (later : List LexItem) (first last : Position) (state : Partial) :
    Resumes later (continueStatement first state last items)
      (continueStatement first state last (proceed items later)) := by
  induction items generalizing state last with
  | nil => exact absurd rfl nonempty
  | cons item items ih =>
    cases item with
    | error error => exact .failed _ _
    | ok token =>
      cases fed : state.feed token with
      | ok next =>
        have feeds := Partial.feed_eq_ok_iff.mp fed
        have more : items ≠ [] := by
          rintro rfl
          exact feeds.lexeme_ne_newline (closed token rfl)
        rw [proceed, continueStatement_of_feeds feeds, continueStatement_of_feeds feeds]
        exact ih closed.tail more token.position next
      | error error =>
        rcases state.unfinished_or_ends token with unfinished | ⟨command, rfl, line_end⟩
        · rw [proceed, continueStatement_of_refused fed unfinished,
            continueStatement_of_refused fed unfinished]
          exact .failed _ _
        · rw [proceed, continueStatement_of_end rfl line_end,
            continueStatement_of_end rfl line_end]
          exact .statement closed.tail

theorem resumes_readStatement {items : List LexItem} (closed : Closed items)
    (later : List LexItem) :
    (readStatement items = .finished ∧
        readStatement (proceed items later) = readStatement later) ∨
      Resumes later (readStatement items) (readStatement (proceed items later)) := by
  induction items with
  | nil => exact Or.inl ⟨rfl, rfl⟩
  | cons item items ih =>
    cases item with
    | error error => exact Or.inr (.failed _ _)
    | ok token =>
      rw [proceed]
      by_cases blank : token.lexeme = .newline
      · simp only [readStatement, if_pos blank]
        exact ih closed.tail
      · right
        have more : items ≠ [] := by
          rintro rfl
          exact blank (closed token rfl)
        cases begun : Partial.begin token with
        | error error =>
          rw [readStatement_of_begin_error blank begun, readStatement_of_begin_error blank begun]
          exact .failed _ _
        | ok state =>
          rw [readStatement_of_begin_ok blank begun, readStatement_of_begin_ok blank begun]
          exact resumes_continueStatement closed.tail more later _ _ _

/-- What is read of a text that ends with a line end is read of it as the beginning of a longer
one. -/
theorem parse_proceed {items : List LexItem} (closed : Closed items) (later : List LexItem) :
    parse (proceed items later) = proceed (parse items) (parse later) := by
  induction items using statementwise with
  | finished items read =>
    rcases resumes_readStatement closed later with ⟨-, same⟩ | resumes
    · rw [parse_of_finished read, parse_of_readStatement_eq same]
      rfl
    · rw [read] at resumes
      cases resumes
  | failed items error rest read =>
    rcases resumes_readStatement closed later with ⟨finished, -⟩ | resumes
    · rw [read] at finished
      cases finished
    · generalize together : readStatement (proceed items later) = result at resumes
      rw [read] at resumes
      cases resumes
      rw [parse_of_failed read, parse_of_failed together]
      rfl
  | statement items statement rest read ih =>
    rcases resumes_readStatement closed later with ⟨finished, -⟩ | resumes
    · rw [read] at finished
      cases finished
    · generalize together : readStatement (proceed items later) = result at resumes
      rw [read] at resumes
      cases resumes with | statement closed =>
      rw [parse_of_statement read, parse_of_statement together, ih closed]
      rfl

/-! ### Running -/

namespace Session

variable {D : Type} [Device D] (registry : Registry D)

theorem run_proceed (s : Session D) (items later : List (Except ParseError Statement)) :
    s.run registry (proceed items later) =
      match s.run registry items with
      | (.ok (), after) => after.run registry later
      | failed => failed := by
  induction items generalizing s with
  | nil => rfl
  | cons item items ih =>
    cases item with
    | error error => rfl
    | ok statement =>
      simp only [proceed, run]
      generalize s.execute registry statement = carried
      obtain ⟨outcome, after⟩ := carried
      cases outcome with
      | ok => exact ih after
      | error error => rfl

/-- Carries out a text that stands after some characters. -/
def runText (s : Session D) (before cs : List Char) : Except CompileError Unit × Session D :=
  s.run registry (parse (Cursor.scan ⟨cs, .following before⟩).1)

/-- A text is carried out by carrying out a part that ends with a line feed and then, if that
succeeds, the rest. -/
theorem runText_append (s : Session D) (before : List Char) {cs : List Char}
    (ends : EndsLine cs) (ds : List Char) :
    s.runText registry before (cs ++ ds) =
      match s.runText registry before cs with
      | (.ok (), after) => after.runText registry (before ++ cs) ds
      | failed => failed := by
  obtain ⟨items, cut⟩ := exists_cut before cs
  obtain ⟨later, next⟩ := exists_cut (before ++ cs) ds
  unfold runText
  rw [Cursor.scan_of_cut (cut.proceed ends next), Cursor.scan_of_cut cut,
    Cursor.scan_of_cut next, parse_proceed (cut.closed ends), run_proceed]

end Session

end ModularSynth
