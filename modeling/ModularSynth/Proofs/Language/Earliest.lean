import ModularSynth.Proofs.Language.Resumption
import ModularSynth.Proofs.Language.Viable

/-!
# Errors are reported as early as possible

The error of a token list is reported at the first item that cannot come where it stands: the
tokens before it could still have been continued to a program (`Grammar.Offends`). No item before
it offends, and its own offence says which error there is (`complains_iff_first_offence`). The
parser is followed as a machine that stops at its first error (`Partial.fault?`); where it stops,
the machine for viable lists stops too or an argument was given before.
-/

namespace ModularSynth

/-- What an error says, apart from what was expected instead. -/
inductive Complaint where
  | lexical (error : LexError)
  | unexpectedToken (found : TokenKind) (position : Position)
  | unexpectedEnd (position : Position)
  | invalidNumber (literal : String) (position : Position)
  | duplicateArgument (name : String) (position : Position)
  deriving DecidableEq

def ParseError.complaint : ParseError → Complaint
  | lexical error => .lexical error
  | malformed (.unexpectedToken _ found) position => .unexpectedToken found position
  | malformed (.unexpectedEnd _) position => .unexpectedEnd position
  | malformed (.invalidNumber literal) position => .invalidNumber literal position
  | malformed (.duplicateArgument name) position => .duplicateArgument name position

namespace Grammar

/-- Some number could come next. Numbers are nothing but values. -/
def WantsValue (front : List Token) : Prop :=
  ∃ digits position, Viable (front ++ [⟨.number digits, position⟩])

/-- A number where a value is wanted, but one that does not convert. -/
structure BadNumber (front : List Token) (token : Token) (digits : String) : Prop where
  spelt : token.lexeme = .number digits
  wanted : WantsValue front
  rejected : Lexeme.valueOfNumber? digits = none

/-- The value of an argument comes next whose name, at this place, was given to the device before. -/
inductive Repeats : List Token → String → Position → Prop
  | intro {before arguments : List Token} {entries : List (String × Value)} {name : String}
      {p q r position : Position} (listed : Listed arguments entries)
      (given : name ∈ entries.map (·.1)) :
      Repeats (before ++ ⟨.openParen, p⟩ ::
        (arguments ++ [⟨.comma, q⟩, ⟨.identifier name, position⟩, ⟨.equals, r⟩])) name position

/-- What is wrong with an item that comes after some tokens, or with the end of the list there. -/
inductive Offends : List Token → Option LexItem → Complaint → Prop
  | lexical {front : List Token} {error : LexError} (viable : Viable front) :
      Offends front (some (.error error)) (.lexical error)
  | unexpectedToken {front : List Token} {token : Token} (viable : Viable front)
      (unfit : ¬ Viable (front ++ [token])) (no_number : ∀ digits, ¬ BadNumber front token digits) :
      Offends front (some (.ok token)) (.unexpectedToken token.kind token.position)
  | invalidNumber {front : List Token} {token : Token} {digits : String}
      (bad : BadNumber front token digits) :
      Offends front (some (.ok token)) (.invalidNumber digits token.position)
  | duplicateArgument {front : List Token} {token : Token} {name : String} {position : Position}
      (viable : Viable (front ++ [token])) (repeats : Repeats front name position) :
      Offends front (some (.ok token)) (.duplicateArgument name position)
  | unexpectedEnd {front : List Token} {last : Token} (viable : Viable front)
      (unfinished : ¬ Script front) (at_last : front.getLast? = some last) :
      Offends front none (.unexpectedEnd last.position)

end Grammar

/-- What comes in a list after its first tokens: an item or, for all tokens, nothing. -/
def Follows (items : List LexItem) (front : List Token) (next : Option LexItem) : Prop :=
  ∃ rest, items = front.map .ok ++ rest ∧ rest.head? = next

namespace Partial

open Grammar (Denotes Listed Viable Script WantsValue BadNumber Repeats Offends)

/-! ### The parser as a machine -/

/-- The parser takes one more token of a program. -/
def advance (reading : Option Partial) (token : Token) : Except ParseError (Option Partial) :=
  match reading with
  | none => if token.lexeme = .newline then .ok none else (begin token).map some
  | some state =>
    match state.command?, token.lexeme with
    | some _, .newline => .ok none
    | _, _ => (state.feed token).map some

/-- The first error, for a statement read in part whose last token stood at `last`. -/
def fault? (reading : Option Partial) (last : Position) : List LexItem → Option ParseError
  | [] =>
    match reading with
    | none => none
    | some state =>
      match state.command? with
      | some _ => none
      | none => some (.malformed (.unexpectedEnd state.expects) last)
  | .error error :: _ => some (.lexical error)
  | .ok token :: rest =>
    match advance reading token with
    | .ok next => fault? next token.position rest
    | .error error => some error

section Advance

variable {state next : Partial} {token : Token} {error : ParseError}

theorem advance_of_feeds (feeds : Feeds state token next) :
    advance (some state) token = .ok (some next) := by
  simp only [advance, feeds.command?_eq_none, feed_eq_ok_iff.mpr feeds]
  rfl

theorem advance_of_refused (refused : state.feed token = .error error)
    (unfinished : state.command? = none ∨ token.lexeme ≠ .newline) :
    advance (some state) token = .error error := by
  unfold advance
  split
  next impossible => cases impossible
  next state' same =>
    cases same
    split
    next command complete line_end =>
      rcases unfinished with missing | other
      · rw [missing] at complete
        cases complete
      · exact absurd line_end other
    next =>
      rw [refused]
      rfl

theorem advance_of_end {command : Command} (complete : state.command? = some command)
    (line_end : token.lexeme = .newline) : advance (some state) token = .ok none := by
  simp only [advance, complete, line_end]

end Advance

/-- Between statements no place is remembered. -/
theorem fault?_none (last other : Position) (items : List LexItem) :
    fault? none last items = fault? none other items := by
  cases items with
  | nil => rfl
  | cons item items =>
    cases item with
    | _ => rfl

theorem fault?_continueStatement (first : Position) (state : Partial) (last : Position)
    (items : List LexItem) :
    fault? (some state) last items =
      match continueStatement first state last items with
      | .finished => none
      | .statement _ rest => fault? none .start rest
      | .failed error _ => some error := by
  induction items generalizing state last with
  | nil =>
    rw [fault?, continueStatement]
    cases state.command? with
    | none => rfl
    | some command => rfl
  | cons item items ih =>
    cases item with
    | error error => rfl
    | ok token =>
      rw [fault?]
      cases fed : state.feed token with
      | ok next =>
        have feeds := feed_eq_ok_iff.mp fed
        rw [advance_of_feeds feeds, continueStatement_of_feeds feeds]
        exact ih next token.position
      | error error =>
        rcases state.unfinished_or_ends token with unfinished | ⟨command, rfl, line_end⟩
        · rw [advance_of_refused fed unfinished, continueStatement_of_refused fed unfinished]
        · rw [advance_of_end rfl line_end, continueStatement_of_end rfl line_end]
          exact fault?_none _ _ _

theorem advance_newline {token : Token} (blank : token.lexeme = .newline) :
    advance none token = .ok none := by
  simp only [advance, if_pos blank]

theorem advance_begin {token : Token} (not_blank : token.lexeme ≠ .newline) :
    advance none token = (begin token).map some := by
  simp only [advance, if_neg not_blank]

theorem fault?_readStatement (items : List LexItem) :
    fault? none .start items =
      match readStatement items with
      | .finished => none
      | .statement _ rest => fault? none .start rest
      | .failed error _ => some error := by
  induction items with
  | nil => rfl
  | cons item items ih =>
    cases item with
    | error error => rfl
    | ok token =>
      rw [fault?]
      by_cases blank : token.lexeme = .newline
      · simp only [advance_newline blank, readStatement, if_pos blank]
        rw [fault?_none token.position .start, ih]
      · rw [advance_begin blank]
        cases begun : begin token with
        | error error =>
          rw [readStatement_of_begin_error blank begun]
          rfl
        | ok state =>
          rw [readStatement_of_begin_ok blank begun]
          exact fault?_continueStatement token.position state token.position items

/-- The error of a list of items is that of the machine. -/
theorem error_mem_parse_iff {items : List LexItem} {error : ParseError} :
    .error error ∈ parse items ↔ fault? none .start items = some error := by
  induction items using statementwise with
  | finished items read =>
    have stops := fault?_readStatement items
    rw [read] at stops
    rw [parse_of_finished read, stops]
    simp
  | failed items early rest read =>
    have stops := fault?_readStatement items
    rw [read] at stops
    rw [parse_of_failed read, stops]
    simp [eq_comm]
  | statement items statement rest read ih =>
    have stops := fault?_readStatement items
    rw [read] at stops
    rw [parse_of_statement read, stops, ← ih]
    simp

/-! ### Refused tokens -/

/-- A value comes next. -/
def Awaits (reading : Option Partial) : Prop :=
  ∃ state, reading = some state ∧ state.expects = .value

/-- How the parser refuses a token: it cannot stand there, or it is a number that does not convert,
or it is a value for an argument that was given before. -/
inductive Refusal (reading : Option Partial) (token : Token) : ParseError → Prop
  | unfit (expected : Expectation) (stuck : ∀ next, ¬ Step reading token next)
      (no_value : Awaits reading → ∀ digits, token.lexeme ≠ .number digits) :
      Refusal reading token (token.refuse expected)
  | number {digits : String} (stuck : ∀ next, ¬ Step reading token next)
      (awaits : Awaits reading) (spelt : token.lexeme = .number digits)
      (rejected : Lexeme.valueOfNumber? digits = none) :
      Refusal reading token (.malformed (.invalidNumber digits) token.position)
  | repeated {name type argument : String} {entries : List (String × Value)} {p : Position}
      {next : Option Partial}
      (state : reading = some (argumentValue ⟨name, type, ⟨entries⟩⟩ argument p))
      (given : argument ∈ entries.map (·.1)) (step : Step reading token next) :
      Refusal reading token (.malformed (.duplicateArgument argument) p)

/-- A check of a token alone, and nothing after it that fails. -/
theorem refused_of_bind {α : Type} {check : Except ParseError α}
    {finish : α → Except ParseError Partial} {error : ParseError}
    (finishes : ∀ a, ∃ next, finish a = .ok next) (refused : check >>= finish = .error error) :
    check = .error error := by
  rcases bind_eq_error_iff.mp refused with early | ⟨a, -, late⟩
  · exact early
  · obtain ⟨next, finished⟩ := finishes a
    rw [finished] at late
    cases late

theorem addArgument_eq_error {name type argument : String} {entries : List (String × Value)}
    {p : Position} {value : Value} {error : ParseError}
    (refused : addArgument ⟨name, type, ⟨entries⟩⟩ argument p value = .error error) :
    argument ∈ entries.map (·.1) ∧ error = .malformed (.duplicateArgument argument) p := by
  by_cases new : argument ∈ entries.map (·.1)
  · refine ⟨new, ?_⟩
    unfold addArgument at refused
    split at refused
    next => cases refused
    next =>
      cases refused
      rfl
  · rw [addArgument_eq_ok_iff.mpr ⟨new, rfl⟩] at refused
    cases refused

section Feed

variable {state : Partial} {token : Token} {error : ParseError}

/-- Where no value is wanted, a token is refused for what was expected. -/
theorem feed_refused (other : state.expects ≠ .value) (refused : state.feed token = .error error) :
    error = token.refuse state.expects := by
  cases state with
  | parameterName => exact Token.eq_refuse_of_name (refused_of_bind (fun _ => ⟨_, rfl⟩) refused)
  | parameterValue name => exact absurd rfl other
  | sourcePort device => exact Token.eq_refuse_of_name (refused_of_bind (fun _ => ⟨_, rfl⟩) refused)
  | arrow source => exact Token.eq_refuse_of_require (refused_of_bind (fun _ => ⟨_, rfl⟩) refused)
  | destinationDevice source =>
    exact Token.eq_refuse_of_name (refused_of_bind (fun _ => ⟨_, rfl⟩) refused)
  | destinationColon source device =>
    exact Token.eq_refuse_of_require (refused_of_bind (fun _ => ⟨_, rfl⟩) refused)
  | destinationPort source device =>
    exact Token.eq_refuse_of_name (refused_of_bind (fun _ => ⟨_, rfl⟩) refused)
  | typeName name => exact Token.eq_refuse_of_name (refused_of_bind (fun _ => ⟨_, rfl⟩) refused)
  | openParen name type => exact Token.eq_refuse_of_require (refused_of_bind (fun _ => ⟨_, rfl⟩) refused)
  | argumentName draft => exact Token.eq_refuse_of_name (refused_of_bind (fun _ => ⟨_, rfl⟩) refused)
  | argumentEquals draft argument p =>
    exact Token.eq_refuse_of_require (refused_of_bind (fun _ => ⟨_, rfl⟩) refused)
  | argumentValue draft argument p => exact absurd rfl other
  | lineEnd command =>
    cases refused
    rfl
  | firstArgument name type =>
    obtain ⟨lexeme, p⟩ := token
    cases lexeme with
    | closeParen => cases refused
    | _ => exact Token.eq_refuse_of_name (refused_of_bind (fun _ => ⟨_, rfl⟩) refused)
  | operator name =>
    obtain ⟨lexeme, p⟩ := token
    cases lexeme with
    | colon => cases refused
    | equals => cases refused
    | _ =>
      cases refused
      rfl
  | argumentEnd draft =>
    obtain ⟨lexeme, p⟩ := token
    cases lexeme with
    | comma => cases refused
    | closeParen => cases refused
    | _ =>
      cases refused
      rfl

/-- Where a value is wanted, nothing else goes on. -/
theorem denotes_of_step (awaits : state.expects = .value) {next : Option Partial}
    (step : Step (some state) token next) : ∃ value, Denotes token value := by
  cases step with
  | ends => cases awaits
  | takes takes =>
    cases takes with
    | repeats denotes given => exact ⟨_, denotes⟩
    | feeds feeds =>
      cases feeds with
      | parameterValue denotes => exact ⟨_, denotes⟩
      | argumentValue denotes new => exact ⟨_, denotes⟩
      | _ => cases awaits

theorem refusal_of_value (awaits : state.expects = .value) (refused : token.value = .error error) :
    Refusal (some state) token error := by
  have stuck : ∀ next, ¬ Step (some state) token next := by
    intro next step
    obtain ⟨value, denotes⟩ := denotes_of_step awaits step
    rw [Token.value_eq_ok_iff.mpr denotes] at refused
    cases refused
  rcases Token.refused_of_value refused with ⟨rfl, no_number⟩ | ⟨digits, spelt, rejected, rfl⟩
  · exact .unfit _ stuck fun _ => no_number
  · exact .number stuck ⟨state, rfl, awaits⟩ spelt rejected

theorem refusal_of_feed (refused : state.feed token = .error error)
    (unfinished : state.command? = none ∨ token.lexeme ≠ .newline) :
    Refusal (some state) token error := by
  by_cases awaits : state.expects = .value
  · cases state with
    | parameterValue name => exact refusal_of_value rfl (refused_of_bind (fun _ => ⟨_, rfl⟩) refused)
    | argumentValue draft argument p =>
      obtain ⟨name, type, ⟨entries⟩⟩ := draft
      rcases bind_eq_error_iff.mp refused with early | ⟨value, read, late⟩
      · exact refusal_of_value rfl early
      · obtain ⟨given, rfl⟩ := addArgument_eq_error late
        exact .repeated rfl given
          (.takes (takes_argumentValue entries (Token.value_eq_ok_iff.mp read)))
    | _ => cases awaits
  · rw [feed_refused awaits refused]
    apply Refusal.unfit
    · intro next step
      cases step with
      | takes takes =>
        cases takes with
        | feeds feeds =>
          rw [feed_eq_ok_iff.mpr feeds] at refused
          cases refused
        | repeats denotes given => exact awaits rfl
      | ends =>
        rcases unfinished with missing | other
        · cases missing
        · exact other rfl
    · rintro ⟨state', same, awaits'⟩
      cases same
      exact absurd awaits' awaits

end Feed

theorem begin_refused {token : Token} {error : ParseError}
    (refused : begin token = .error error) : error = token.refuse .statement := by
  unfold begin at refused
  split at refused
  next => cases refused
  next => cases refused
  next =>
    cases refused
    rfl

theorem refusal_of_advance {reading : Option Partial} {token : Token} {error : ParseError}
    (refused : advance reading token = .error error) : Refusal reading token error := by
  cases reading with
  | none =>
    by_cases blank : token.lexeme = .newline
    · rw [advance_newline blank] at refused
      cases refused
    · rw [advance_begin blank] at refused
      cases begun : begin token with
      | ok state =>
        rw [begun] at refused
        cases refused
      | error early =>
        rw [begun] at refused
        cases refused
        rw [begin_refused begun]
        apply Refusal.unfit
        · intro next step
          cases step with
          | blank => exact blank rfl
          | begins begun' =>
            rw [begun] at begun'
            cases begun'
        · rintro ⟨state, impossible, -⟩
          cases impossible
  | some state =>
    cases fed : state.feed token with
    | ok next =>
      rw [advance_of_feeds (feed_eq_ok_iff.mp fed)] at refused
      cases refused
    | error early =>
      rcases state.unfinished_or_ends token with unfinished | ⟨command, rfl, line_end⟩
      · rw [advance_of_refused fed unfinished] at refused
        cases refused
        exact refusal_of_feed fed unfinished
      · rw [advance_of_end rfl line_end] at refused
        cases refused

/-! ### Offending items -/

/-- A parenthesis is opened for arguments only. -/
theorem step_openParen {reading next : Option Partial} {p : Position}
    (step : Step reading ⟨.openParen, p⟩ next) :
    ∃ device type, next = some (firstArgument device type) := by
  cases step with
  | begins begun => cases begun
  | takes takes =>
    cases takes with
    | repeats denotes given => cases denotes
    | feeds feeds =>
      cases feeds with
      | parameterValue denotes => cases denotes
      | argumentValue denotes new => cases denotes
      | openParen => exact ⟨_, _, rfl⟩

section Offends

variable {front : List Token} {reading : Option Partial} (run : Run none front reading)
include run

theorem wantsValue_iff : WantsValue front ↔ Awaits reading := by
  constructor
  · rintro ⟨digits, p, viable⟩
    obtain ⟨next, step⟩ := run.viable_concat_iff.mp viable
    cases step with
    | begins begun => cases begun
    | takes takes =>
      cases takes with
      | repeats denotes given => exact ⟨_, rfl, rfl⟩
      | feeds feeds =>
        cases feeds with
        | parameterValue denotes => exact ⟨_, rfl, rfl⟩
        | argumentValue denotes new => exact ⟨_, rfl, rfl⟩
  · rintro ⟨state, rfl, awaits⟩
    have zero : Denotes ⟨.number "0", .start⟩ (.integer 0) := .number (by decide)
    refine ⟨"0", .start, run.viable_concat_iff.mpr ?_⟩
    cases state with
    | parameterValue name => exact ⟨_, (Feeds.parameterValue zero).step⟩
    | argumentValue draft argument p =>
      obtain ⟨name, type, ⟨entries⟩⟩ := draft
      exact ⟨_, .takes (takes_argumentValue entries zero)⟩
    | _ => cases awaits

/-- The state remembers the arguments that were given and the place of the name. -/
theorem repeats_iff {name : String} {position : Position} :
    Repeats front name position ↔ ∃ device type entries,
      reading = some (argumentValue ⟨device, type, ⟨entries⟩⟩ name position) ∧
        name ∈ entries.map (·.1) := by
  constructor
  · intro repeats
    cases repeats with | @intro before arguments entries _ p q r _ listed given =>
    obtain ⟨opened, early, late⟩ := run.of_append
    cases late with | cons step late =>
    obtain ⟨device, type, rfl⟩ := step_openParen step
    refine ⟨device, type, entries, late.unique ?_, given⟩
    exact (run_firstArgument_of_listed listed).append (.cons Feeds.comma.step
      (.cons Feeds.argumentName.step (.cons Feeds.argumentEquals.step .nil)))
  · rintro ⟨device, type, entries, rfl, given⟩
    cases reached_of_run run with | within whole opens =>
    cases opens with | argumentValue before =>
    cases before with
    | nothing => cases given
    | @comma arguments _ _ listed =>
      rw [List.append_cons, List.append_cons, List.append_cons, List.append_assoc arguments]
      exact .intro listed given

variable {token : Token} {complaint : Complaint}

theorem not_step_of_badNumber {digits : String} (bad : BadNumber front token digits)
    (next : Option Partial) : ¬ Step reading token next := by
  obtain ⟨spelt, wanted, rejected⟩ := bad
  obtain ⟨state, rfl, awaits⟩ := (wantsValue_iff run).mp wanted
  intro step
  obtain ⟨value, denotes⟩ := denotes_of_step awaits step
  cases denotes with
  | number converts =>
    cases spelt
    rw [rejected] at converts
    cases converts
  | _ => cases spelt

/-- A token that is taken does not offend. -/
theorem not_offends_of_advance {next : Option Partial} (step : Step reading token next)
    (new : ∀ name position, ¬ Repeats front name position) :
    ¬ Offends front (some (.ok token)) complaint := by
  intro offends
  cases offends with
  | unexpectedToken viable unfit no_number => exact unfit (run.viable_concat_iff.mpr ⟨next, step⟩)
  | invalidNumber bad => exact not_step_of_badNumber run bad next step
  | duplicateArgument viable repeats => exact new _ _ repeats

section Refusal

variable {error : ParseError} (refusal : Refusal reading token error)
include refusal

/-- A token that is refused offends in one way only. -/
theorem Refusal.complaint_eq (offends : Offends front (some (.ok token)) complaint) :
    complaint = error.complaint := by
  cases offends with
  | unexpectedToken viable unfit no_number =>
    cases refusal with
    | unfit expected stuck no_value => rfl
    | number stuck awaits spelt rejected =>
      exact absurd ⟨spelt, (wantsValue_iff run).mpr awaits, rejected⟩ (no_number _)
    | repeated state given step => exact absurd (run.viable_concat_iff.mpr ⟨_, step⟩) unfit
  | invalidNumber bad =>
    cases refusal with
    | unfit expected stuck no_value =>
      exact absurd bad.spelt (no_value ((wantsValue_iff run).mp bad.wanted) _)
    | number stuck awaits spelt rejected =>
      rw [bad.spelt] at spelt
      cases spelt
      rfl
    | repeated state given step => exact absurd step (not_step_of_badNumber run bad _)
  | duplicateArgument viable repeats =>
    obtain ⟨next, step⟩ := run.viable_concat_iff.mp viable
    cases refusal with
    | unfit expected stuck no_value => exact absurd step (stuck next)
    | number stuck awaits spelt rejected => exact absurd step (stuck next)
    | repeated state given step =>
      obtain ⟨device, type, entries, same, -⟩ := (repeats_iff run).mp repeats
      rw [state] at same
      cases same
      rfl

theorem Refusal.offends : Offends front (some (.ok token)) error.complaint := by
  cases refusal with
  | unfit expected stuck no_value =>
    refine .unexpectedToken run.viable ?_ ?_
    · intro viable
      obtain ⟨next, step⟩ := run.viable_concat_iff.mp viable
      exact stuck next step
    · intro digits bad
      exact no_value ((wantsValue_iff run).mp bad.wanted) digits bad.spelt
  | number stuck awaits spelt rejected =>
    exact .invalidNumber ⟨spelt, (wantsValue_iff run).mpr awaits, rejected⟩
  | repeated state given step =>
    exact .duplicateArgument (run.viable_concat_iff.mpr ⟨_, step⟩)
      ((repeats_iff run).mpr ⟨_, _, _, state, given⟩)

end Refusal

end Offends

/-- A token that the parser takes is one for the machine, and no value for an argument that was
given before. -/
theorem step_of_advance {reading next : Option Partial} {token : Token}
    (taken : advance reading token = .ok next) :
    Step reading token next ∧ ∀ device type entries name position,
      reading = some (argumentValue ⟨device, type, ⟨entries⟩⟩ name position) →
        name ∉ entries.map (·.1) := by
  cases reading with
  | none =>
    refine ⟨?_, nofun⟩
    by_cases blank : token.lexeme = .newline
    · rw [advance_newline blank] at taken
      cases taken
      obtain ⟨lexeme, p⟩ := token
      cases blank
      exact .blank
    · rw [advance_begin blank] at taken
      cases begun : begin token with
      | error error =>
        rw [begun] at taken
        cases taken
      | ok state =>
        rw [begun] at taken
        cases taken
        exact .begins begun
  | some state =>
    cases fed : state.feed token with
    | ok next' =>
      have feeds := feed_eq_ok_iff.mp fed
      rw [advance_of_feeds feeds] at taken
      cases taken
      refine ⟨feeds.step, ?_⟩
      rintro device type entries name position ⟨rfl⟩
      cases feeds with | argumentValue denotes new =>
      exact new
    | error error =>
      rcases state.unfinished_or_ends token with unfinished | ⟨command, rfl, line_end⟩
      · rw [advance_of_refused fed unfinished] at taken
        cases taken
      · rw [advance_of_end rfl line_end] at taken
        cases taken
        obtain ⟨lexeme, p⟩ := token
        cases line_end
        exact ⟨.ends, nofun⟩

/-- The end of a list offends if it is inside a statement. -/
theorem offends_end_iff {front : List Token} {reading : Option Partial} {complaint : Complaint}
    (run : Run none front reading) :
    Offends front none complaint ↔ ∃ state last, reading = some state ∧
      state.command? = none ∧ front.getLast? = some last ∧
        complaint = .unexpectedEnd last.position := by
  constructor
  · intro offends
    cases offends with | unexpectedEnd viable unfinished at_last =>
    rw [run.script_iff] at unfinished
    cases reading with
    | none => exact absurd nofun unfinished
    | some state =>
      refine ⟨state, _, rfl, ?_, at_last, rfl⟩
      cases state with
      | lineEnd command =>
        apply absurd _ unfinished
        rintro _ ⟨rfl⟩
        exact ⟨command, rfl⟩
      | _ => rfl
  · rintro ⟨state, last, rfl, missing, at_last, rfl⟩
    refine .unexpectedEnd run.viable ?_ at_last
    intro script
    obtain ⟨command, rfl⟩ := run.script_iff.mp script state rfl
    cases missing

end Partial

/-! ### The first offence -/

open Grammar (Offends)

/-- The first item of a list that offends, after some tokens that do not. -/
def FirstOffence (done : List Token) (items : List LexItem) (complaint : Complaint) : Prop :=
  ∃ front next, Follows items front next ∧ Offends (done ++ front) next complaint ∧
    ∀ earlier item, Follows items earlier item → earlier.length < front.length →
      ∀ other, ¬ Offends (done ++ earlier) item other

theorem follows_nil_iff {items : List LexItem} {next : Option LexItem} :
    Follows items [] next ↔ items.head? = next := by
  constructor
  · rintro ⟨rest, rfl, first⟩
    exact first
  · intro first
    exact ⟨items, rfl, first⟩

theorem follows_cons_iff {items : List LexItem} {token : Token} {front : List Token}
    {next : Option LexItem} :
    Follows items (token :: front) next ↔
      ∃ rest, items = .ok token :: rest ∧ Follows rest front next := by
  constructor
  · rintro ⟨back, rfl, first⟩
    exact ⟨_, rfl, back, rfl, first⟩
  · rintro ⟨rest, rfl, back, rfl, first⟩
    exact ⟨back, rfl, first⟩

/-- The first offence is here, or it is in the rest and there is none here. -/
theorem firstOffence_iff {done : List Token} {items : List LexItem} {complaint : Complaint} :
    FirstOffence done items complaint ↔ Offends done items.head? complaint ∨
      (∀ other, ¬ Offends done items.head? other) ∧
        ∃ token rest, items = .ok token :: rest ∧
          FirstOffence (done ++ [token]) rest complaint := by
  constructor
  · rintro ⟨front, next, follows, offends, first⟩
    cases front with
    | nil =>
      rw [List.append_nil, ← follows_nil_iff.mp follows] at offends
      exact Or.inl offends
    | cons token front =>
      have none_here := first [] _ (follows_nil_iff.mpr rfl) (Nat.succ_pos _)
      rw [List.append_nil] at none_here
      obtain ⟨rest, rfl, behind⟩ := follows_cons_iff.mp follows
      rw [List.append_cons] at offends
      refine Or.inr ⟨none_here, token, rest, rfl, front, next, behind, offends, ?_⟩
      intro earlier item before shorter
      rw [← List.append_cons]
      exact first (token :: earlier) item (follows_cons_iff.mpr ⟨rest, rfl, before⟩)
        (Nat.succ_lt_succ shorter)
  · rintro (here | ⟨none_here, token, rest, rfl, front, next, follows, offends, first⟩)
    · refine ⟨[], _, follows_nil_iff.mpr rfl, ?_, fun _ _ _ shorter => absurd shorter (by simp)⟩
      rwa [List.append_nil]
    · refine ⟨token :: front, next, follows_cons_iff.mpr ⟨rest, rfl, follows⟩, ?_, ?_⟩
      · rwa [List.append_cons]
      · intro earlier item before shorter
        cases earlier with
        | nil =>
          rw [List.append_nil, ← follows_nil_iff.mp before]
          exact none_here
        | cons token' earlier =>
          obtain ⟨rest', same, before⟩ := follows_cons_iff.mp before
          cases same
          rw [List.append_cons]
          exact first earlier item before (Nat.lt_of_succ_lt_succ shorter)

theorem firstOffence_nil_iff {done : List Token} {complaint : Complaint} :
    FirstOffence done [] complaint ↔ Offends done none complaint := by
  rw [firstOffence_iff, List.head?_nil]
  constructor
  · rintro (here | ⟨-, _, _, impossible, -⟩)
    · exact here
    · cases impossible
  · exact Or.inl

theorem firstOffence_error_iff {done : List Token} {error : LexError} {items : List LexItem}
    {complaint : Complaint} :
    FirstOffence done (.error error :: items) complaint ↔
      Offends done (some (.error error)) complaint := by
  rw [firstOffence_iff, List.head?_cons]
  constructor
  · rintro (here | ⟨-, _, _, impossible, -⟩)
    · exact here
    · cases impossible
  · exact Or.inl

theorem firstOffence_ok_iff {done : List Token} {token : Token} {items : List LexItem}
    {complaint : Complaint} :
    FirstOffence done (.ok token :: items) complaint ↔
      Offends done (some (.ok token)) complaint ∨
        (∀ other, ¬ Offends done (some (.ok token)) other) ∧
          FirstOffence (done ++ [token]) items complaint := by
  rw [firstOffence_iff, List.head?_cons]
  constructor
  · rintro (here | ⟨none_here, _, _, same, later⟩)
    · exact Or.inl here
    · cases same
      exact Or.inr ⟨none_here, later⟩
  · rintro (here | ⟨none_here, later⟩)
    · exact Or.inl here
    · exact Or.inr ⟨none_here, token, items, rfl, later⟩

namespace Partial

section FirstOffence

variable {done : List Token} {reading : Option Partial} {last : Position} {complaint : Complaint}
  (run : Run none done reading)
include run

/-- Where the list ends, the machine stops inside a statement and nowhere else. -/
theorem stops_nil_iff (at_last : ∀ token, done.getLast? = some token → token.position = last) :
    (∃ error, fault? reading last [] = some error ∧ error.complaint = complaint) ↔
      FirstOffence done [] complaint := by
  rw [firstOffence_nil_iff, offends_end_iff run]
  constructor
  · rintro ⟨error, stops, rfl⟩
    cases reading with
    | none => cases stops
    | some state =>
      cases complete : state.command? with
      | some command => simp [fault?, complete] at stops
      | none =>
        simp only [fault?, complete, Option.some.injEq] at stops
        subst stops
        have nonempty : done ≠ [] := by
          rintro rfl
          cases run
        have ends := List.getLast?_eq_some_getLast nonempty
        exact ⟨state, _, rfl, complete, ends, by rw [at_last _ ends]; rfl⟩
  · rintro ⟨state, token, rfl, missing, ends, rfl⟩
    refine ⟨.malformed (.unexpectedEnd state.expects) last, ?_, ?_⟩
    · simp only [fault?, missing]
    · rw [at_last token ends]
      rfl

/-- A lexical error offends as it stands. -/
theorem firstOffence_lexical_iff {error : LexError} {items : List LexItem} :
    FirstOffence done (.error error :: items) complaint ↔
      (ParseError.lexical error).complaint = complaint := by
  rw [firstOffence_error_iff]
  constructor
  · intro offends
    cases offends
    rfl
  · rintro rfl
    exact .lexical run.viable

variable {token : Token} {items : List LexItem}

/-- What the parser refuses offends as the error says, and whatever comes later is not the first. -/
theorem firstOffence_refused_iff {error : ParseError} (refusal : Refusal reading token error) :
    FirstOffence done (.ok token :: items) complaint ↔ error.complaint = complaint := by
  rw [firstOffence_ok_iff]
  constructor
  · rintro (here | ⟨none_here, -⟩)
    · exact (refusal.complaint_eq run here).symm
    · exact absurd (refusal.offends run) (none_here _)
  · rintro rfl
    exact Or.inl (refusal.offends run)

theorem not_offends_of_taken {next : Option Partial} (taken : advance reading token = .ok next) :
    ¬ Offends done (some (.ok token)) complaint := by
  obtain ⟨step, new⟩ := step_of_advance taken
  apply not_offends_of_advance run step
  intro name position repeats
  obtain ⟨device, type, entries, state, given⟩ := (repeats_iff run).mp repeats
  exact new device type entries name position state given

/-- What the parser takes offends in no way, so that the first offence is in the rest. -/
theorem firstOffence_taken_iff {next : Option Partial} (taken : advance reading token = .ok next) :
    FirstOffence done (.ok token :: items) complaint ↔
      FirstOffence (done ++ [token]) items complaint := by
  rw [firstOffence_ok_iff]
  constructor
  · rintro (here | ⟨-, later⟩)
    · exact absurd here (not_offends_of_taken run taken)
    · exact later
  · intro later
    exact Or.inr ⟨fun _ => not_offends_of_taken run taken, later⟩

/-- The machine stops at the first offence and with its complaint. The induction is on the items,
after tokens that the machine has run through. -/
theorem fault?_iff_firstOffence
    (at_last : ∀ token, done.getLast? = some token → token.position = last)
    (items : List LexItem) :
    (∃ error, fault? reading last items = some error ∧ error.complaint = complaint) ↔
      FirstOffence done items complaint := by
  induction items generalizing done reading last with
  | nil => exact stops_nil_iff run at_last
  | cons item items ih =>
    cases item with
    | error error => simp [firstOffence_lexical_iff run, fault?]
    | ok token =>
      rw [fault?]
      cases taken : advance reading token with
      | error error => simp [firstOffence_refused_iff run (refusal_of_advance taken)]
      | ok next =>
        rw [firstOffence_taken_iff run taken]
        apply ih (run.concat (step_of_advance taken).1)
        intro token' is_last
        rw [List.getLast?_append, List.getLast?_singleton] at is_last
        cases is_last
        rfl

end FirstOffence

end Partial

/-- A list of tokens and lexical errors has at most one error, which comes last. It is that of the
first item that offends, be it the end of the list, and it says how. -/
theorem complains_iff_first_offence (items : List LexItem) :
    (∃ statements : List Statement, parse items = statements.map .ok ∨
      ∃ error, parse items = statements.map .ok ++ [.error error]) ∧
    ∀ complaint, (∃ error, .error error ∈ parse items ∧ error.complaint = complaint) ↔
      ∃ front next, Follows items front next ∧ Offends front next complaint ∧
        ∀ earlier item, Follows items earlier item → earlier.length < front.length →
          ∀ other, ¬ Offends earlier item other := by
  refine ⟨parse_cases items, ?_⟩
  intro complaint
  simp only [Partial.error_mem_parse_iff]
  exact Partial.fault?_iff_firstOffence .nil (fun _ impossible => nomatch impossible) items

/-- The second value of an argument is reported, not the parenthesis that is missing after it. -/
example : .error (.malformed (.duplicateArgument "x") ⟨1, 9⟩) ∈
    parse (([⟨.identifier "a", ⟨1, 1⟩⟩, ⟨.equals, ⟨1, 2⟩⟩, ⟨.identifier "B", ⟨1, 3⟩⟩,
      ⟨.openParen, ⟨1, 4⟩⟩, ⟨.identifier "x", ⟨1, 5⟩⟩, ⟨.equals, ⟨1, 6⟩⟩, ⟨.number "1", ⟨1, 7⟩⟩,
      ⟨.comma, ⟨1, 8⟩⟩, ⟨.identifier "x", ⟨1, 9⟩⟩, ⟨.equals, ⟨1, 10⟩⟩,
      ⟨.number "2", ⟨1, 11⟩⟩] : List Token).map .ok) := by
  rw [Partial.error_mem_parse_iff]
  decide

end ModularSynth
