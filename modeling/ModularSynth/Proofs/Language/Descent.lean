import ModularSynth.Language.Reader
import ModularSynth.Proofs.Language.Resumption

/-!
# Descent

`ItemReader.statement` calls one production of the grammar after the other, `readStatement` follows
the states of a statement that has been read in part. They agree (`ItemReader.meets_statement`): a
call does with the items that were not taken what `readStatement` does with them, whatever the
reader has looked at and whatever it took before.

`Descends` holds of a state and a production that goes on from it. It is kept by each way that a
production has to go on: it looks ahead, takes a token that the state goes on with, or fails on one
that the state refuses.
-/

namespace ModularSynth

/-- What a call returns that comes to this result. -/
def ParseResult.outcome : ParseResult → Except ParseError (Option Statement)
  | finished => .ok none
  | statement read _ => .ok (some read)
  | failed error _ => .error error

/-! ### Tokens by their kinds -/

/-- The kinds of the tokens that can denote values. -/
def TokenKind.literals : List TokenKind := [.identifier, .number, .quoted]

namespace Token

variable {token : Token} {symbol : Lexeme}

theorem name_of_kind (named : token.kind = .identifier) (expected : Expectation) :
    token.name expected = .ok token.lexeme.literal := by
  obtain ⟨lexeme, position⟩ := token
  cases lexeme with
  | identifier name => rfl
  | _ => cases named

theorem name_of_other (other : token.kind ≠ .identifier) (expected : Expectation) :
    token.name expected = .error (token.refuse expected) := by
  obtain ⟨lexeme, position⟩ := token
  cases lexeme with
  | identifier name => exact absurd rfl other
  | _ => rfl

theorem value_of_other (other : token.kind ∉ TokenKind.literals) :
    token.value = .error (token.refuse .value) := by
  obtain ⟨lexeme, position⟩ := token
  cases lexeme with
  | identifier name => exact absurd (by simp [TokenKind.literals, kind, Lexeme.kind]) other
  | number digits => exact absurd (by simp [TokenKind.literals, kind, Lexeme.kind]) other
  | quoted text => exact absurd (by simp [TokenKind.literals, kind, Lexeme.kind]) other
  | _ => rfl

/-- A symbol is told by its kind. -/
theorem lexeme_of_kind (symbol : Lexeme) (symbolic : symbol.kind ∉ TokenKind.literals)
    (same : token.kind = symbol.kind) : token.lexeme = symbol := by
  obtain ⟨lexeme, position⟩ := token
  show lexeme = symbol
  cases symbol with
  | identifier name => exact absurd (by simp [TokenKind.literals, Lexeme.kind]) symbolic
  | number digits => exact absurd (by simp [TokenKind.literals, Lexeme.kind]) symbolic
  | quoted text => exact absurd (by simp [TokenKind.literals, Lexeme.kind]) symbolic
  | _ =>
    cases lexeme with
    | _ => first | rfl | cases same

theorem require_of_kind (symbolic : symbol.kind ∉ TokenKind.literals)
    (same : token.kind = symbol.kind) (expected : Expectation) :
    token.require symbol expected = .ok () :=
  if_pos (lexeme_of_kind symbol symbolic same)

theorem require_of_other (other : token.kind ≠ symbol.kind) (expected : Expectation) :
    token.require symbol expected = .error (token.refuse expected) := by
  apply if_neg
  rintro rfl
  exact other rfl

end Token

/-! ### Items -/


/-- The kind of the token that stands first. -/
def headKind : List LexItem → Option TokenKind
  | .ok token :: _ => some token.kind
  | _ => none

theorem headKind_eq_some_iff {items : List LexItem} {kind : TokenKind} :
    headKind items = some kind ↔ ∃ token rest, items = .ok token :: rest ∧ token.kind = kind := by
  constructor
  · intro same
    rcases items with _ | ⟨error | token, rest⟩
    · cases same
    · cases same
    · exact ⟨token, rest, rfl, Option.some.inj same⟩
  · rintro ⟨token, rest, rfl, rfl⟩
    rfl

/-- What is wrong with the first item, when something else was expected. -/
def refusal (expected : Expectation) (last : Position) : List LexItem → ParseError
  | [] => .malformed (.unexpectedEnd expected) last
  | .error error :: _ => .lexical error
  | .ok token :: _ => token.refuse expected

namespace ItemReader

open Reading

variable {α : Type} {reader : ItemReader} {token : Token} {items : List LexItem}

theorem peekKind_on (reader : ItemReader) :
    ∃ after, peekKind.on reader = (.ok (headKind reader.remaining), after) ∧
      after.remaining = reader.remaining ∧ after.last = reader.last := by
  obtain ⟨after, looked, remaining, last⟩ := peek_on reader
  refine ⟨after, ?_, remaining, last⟩
  unfold peekKind
  rw [on_bind_of_ok looked]
  rcases reader.remaining with _ | ⟨error | token, items⟩
  · rfl
  · rfl
  · rfl

theorem remaining_of_advance {after : ItemReader}
    (read : advance.on reader = (.ok (some token), after)) :
    reader.remaining = .ok token :: after.remaining ∧ after.last = token.position := by
  rcases items : reader.remaining with _ | ⟨error | first, rest⟩
  · obtain ⟨_, nothing, -⟩ := advance_on_nil items
    cases read.symm.trans nothing
  · obtain ⟨_, failed, -⟩ := advance_on_error items
    cases read.symm.trans failed
  · obtain ⟨_, taken, rfl, last⟩ := advance_on_token items
    cases read.symm.trans taken
    exact ⟨rfl, last⟩

theorem unexpected_on (expected : Expectation) (reader : ItemReader) :
    ∃ after, (unexpected expected : Reading α).on reader =
        (.error (refusal expected reader.last reader.remaining), after) ∧
      after.remaining = reader.remaining.tail := by
  unfold unexpected
  rcases items : reader.remaining with _ | ⟨error | token, rest⟩
  · obtain ⟨after, nothing, remaining, last⟩ := advance_on_nil items
    refine ⟨after, ?_, remaining⟩
    rw [on_bind_of_ok nothing, ← last]
    rfl
  · obtain ⟨after, failed, remaining⟩ := advance_on_error items
    exact ⟨after, on_bind_of_error failed _, remaining⟩
  · obtain ⟨after, taken, remaining, -⟩ := advance_on_token items
    exact ⟨after, on_bind_of_ok taken _, remaining⟩

theorem expect_on_of_kind {kind : TokenKind} (expected : Expectation)
    (found : reader.remaining = .ok token :: items) (fits : token.kind = kind) :
    ∃ after, (expect kind expected).on reader = (.ok token, after) ∧ after.remaining = items ∧
      after.last = token.position := by
  obtain ⟨peeked, looked, remaining, -⟩ := peekKind_on reader
  obtain ⟨after, taken, rest, last⟩ := advance_on_token (remaining.trans found)
  refine ⟨after, ?_, rest, last⟩
  unfold expect
  rw [on_bind_of_ok looked, found, headKind, if_pos (congrArg some fits), on_bind_of_ok taken]
  rfl

theorem expect_on_of_other {kind : TokenKind} (expected : Expectation)
    (other : headKind reader.remaining ≠ some kind) :
    ∃ after, (expect kind expected).on reader =
        (.error (refusal expected reader.last reader.remaining), after) ∧
      after.remaining = reader.remaining.tail := by
  obtain ⟨peeked, looked, remaining, last⟩ := peekKind_on reader
  obtain ⟨after, refused, rest⟩ := unexpected_on (α := Token) expected peeked
  rw [remaining, last] at refused
  refine ⟨after, ?_, by rw [rest, remaining]⟩
  unfold expect
  rw [on_bind_of_ok looked, if_neg other, refused]

theorem value_on_of_literal (found : reader.remaining = .ok token :: items)
    (literal : token.kind ∈ TokenKind.literals) :
    ∃ after, value.on reader = (token.value, after) ∧ after.remaining = items ∧
      after.last = token.position := by
  obtain ⟨peeked, looked, remaining, -⟩ := peekKind_on reader
  obtain ⟨after, taken, rest, last⟩ := advance_on_token (remaining.trans found)
  have denoted : (MonadExcept.ofExcept token.value : Reading Value).on after =
      (token.value, after) := by
    cases token.value with
    | ok value => rfl
    | error error => rfl
  refine ⟨after, ?_, rest, last⟩
  unfold value
  rw [on_bind_of_ok looked, found, headKind]
  simp only [TokenKind.literals, List.mem_cons, List.not_mem_nil, or_false] at literal
  rcases literal with literal | literal | literal
  all_goals
    rw [literal]
    rw [← denoted]
    exact on_bind_of_ok taken _

theorem value_on_of_other
    (other : ¬∃ kind, headKind reader.remaining = some kind ∧
      kind ∈ TokenKind.literals) :
    ∃ after, value.on reader =
        (.error (refusal .value reader.last reader.remaining), after) ∧
      after.remaining = reader.remaining.tail := by
  obtain ⟨peeked, looked, remaining, last⟩ := peekKind_on reader
  obtain ⟨after, refused, rest⟩ := unexpected_on (α := Value) .value peeked
  rw [remaining, last] at refused
  refine ⟨after, ?_, by rw [rest, remaining]⟩
  unfold value
  rw [on_bind_of_ok looked]
  split
  · exact absurd ⟨.identifier, ‹_›, by decide⟩ other
  · exact absurd ⟨.number, ‹_›, by decide⟩ other
  · exact absurd ⟨.quoted, ‹_›, by decide⟩ other
  · exact refused

theorem endOfStatement_on_nil (nothing : reader.remaining = []) :
    ∃ after, endOfStatement.on reader = (.ok (), after) ∧ after.remaining = [] := by
  obtain ⟨peeked, looked, same, -⟩ := peekKind_on reader
  rw [nothing] at looked same
  obtain ⟨after, looked_again, remaining, -⟩ := peek_on peeked
  rw [same] at looked_again remaining
  refine ⟨after, ?_, remaining⟩
  unfold endOfStatement
  rw [on_bind_of_ok looked]
  exact on_bind_of_ok looked_again _

theorem endOfStatement_on_newline (found : reader.remaining = .ok token :: items)
    (newline : token.kind = .newline) :
    ∃ after, endOfStatement.on reader = (.ok (), after) ∧ after.remaining = items := by
  obtain ⟨peeked, looked, same, -⟩ := peekKind_on reader
  obtain ⟨after, taken, remaining, -⟩ := advance_on_token (same.trans found)
  refine ⟨after, ?_, remaining⟩
  unfold endOfStatement
  rw [on_bind_of_ok looked, found, headKind, newline]
  exact on_bind_of_ok taken _

theorem endOfStatement_on_other (some_left : reader.remaining ≠ [])
    (other : headKind reader.remaining ≠ some .newline) :
    ∃ after, endOfStatement.on reader =
        (.error (refusal .lineEnd reader.last reader.remaining), after) ∧
      after.remaining = reader.remaining.tail := by
  obtain ⟨peeked, looked, same, last⟩ := peekKind_on reader
  unfold endOfStatement
  rw [on_bind_of_ok looked]
  split
  · obtain ⟨peeked_again, looked_again, same_again, last_again⟩ := peek_on peeked
    obtain ⟨after, refused, rest⟩ := unexpected_on (α := Unit) .lineEnd peeked_again
    rw [same_again, same, last_again, last] at refused
    refine ⟨after, ?_, by rw [rest, same_again, same]⟩
    obtain ⟨item, items, found⟩ := List.exists_cons_of_ne_nil some_left
    rw [on_bind_of_ok looked_again, ← refused, same, found]
    rfl
  · exact absurd ‹_› other
  · obtain ⟨after, refused, rest⟩ := unexpected_on (α := Unit) .lineEnd peeked
    rw [same, last] at refused
    exact ⟨after, refused, by rw [rest, same]⟩

end ItemReader

/-! ### Productions and states -/

/-- Goes on from a state, or fails. -/
def proceedFrom (first : Position) (state : Except ParseError Partial) (last : Position)
    (items : List LexItem) : ParseResult :=
  match state with
  | .ok state => continueStatement first state last items
  | .error error => .failed error items

theorem continueStatement_of_token {state : Partial} {token : Token}
    (unfinished : state.command? = none) (first last : Position) (items : List LexItem) :
    continueStatement first state last (.ok token :: items) =
      proceedFrom first (state.feed token) token.position items := by
  rw [continueStatement, unfinished]
  rfl

/-- A state of which something is missing fails on the first item if it refuses it. -/
theorem continueStatement_of_refusal {state : Partial} {items : List LexItem}
    (unfinished : state.command? = none)
    (refuses : ∀ token rest, items = .ok token :: rest →
      state.feed token = .error (token.refuse state.expects))
    (first last : Position) :
    continueStatement first state last items =
      .failed (refusal state.expects last items) items.tail := by
  rcases items with _ | ⟨error | token, rest⟩
  · rw [continueStatement, unfinished]
    rfl
  · rfl
  · rw [continueStatement_of_token unfinished, refuses token rest rfl]
    rfl

/-- After a whole command, anything but the end of the line is refused. -/
theorem continueStatement_lineEnd_of_other {items : List LexItem} (some_left : items ≠ [])
    (other : headKind items ≠ some .newline) (first last : Position) (command : Command) :
    continueStatement first (.lineEnd command) last items =
      .failed (refusal .lineEnd last items) items.tail := by
  rcases items with _ | ⟨error | token, rest⟩
  · exact absurd rfl some_left
  · rfl
  · apply continueStatement_of_refused rfl (Or.inr _)
    intro line_end
    exact other (congrArg (fun lexeme : Lexeme => some lexeme.kind) line_end)

/-- The statement of a command, after which its line has to end. -/
def toLineEnd (first : Position) (command : Reading Command) : Reading Statement := do
  let command ← command
  ItemReader.endOfStatement
  return ⟨command, first⟩

/-- What was read is what the machine makes of it, with the same items left. -/
def Meets (read : Except ParseError Statement × ItemReader) (result : ParseResult) : Prop :=
  read.1.map some = result.outcome ∧ read.2.remaining = result.rest

/-- With the line end after it, a production does what the machine does from a state on. -/
def Descends (state : Except ParseError Partial) (reading : Reading Command) (reader : ItemReader) :
    Prop :=
  ∀ first, Meets ((toLineEnd first reading).on reader)
    (proceedFrom first state reader.last reader.remaining)

namespace Descends

open Reading

variable {α : Type} {reading : Reading α} {rest : α → Reading Command} {reader after : ItemReader}
  {state : Partial} {fed : Except ParseError Partial} {token : Token} {items : List LexItem}

theorem throw (error : ParseError) (reader : ItemReader) :
    Descends (.error error) (throw error) reader :=
  fun _ => ⟨rfl, rfl⟩

/-- Looking ahead changes nothing. -/
theorem look {a : α} (read : reading.on reader = (.ok a, after))
    (remaining : after.remaining = reader.remaining) (last : after.last = reader.last)
    (descends : Descends fed (rest a) after) : Descends fed (reading >>= rest) reader := by
  intro first
  have meets := descends first
  rw [remaining, last] at meets
  unfold toLineEnd at meets ⊢
  rwa [bind_assoc, on_bind_of_ok read]

/-- A production that takes a token goes on from the state with that token. -/
theorem take {a : α} (unfinished : state.command? = none)
    (found : reader.remaining = .ok token :: after.remaining) (last : after.last = token.position)
    (read : reading.on reader = (.ok a, after))
    (descends : Descends (state.feed token) (rest a) after) :
    Descends (.ok state) (reading >>= rest) reader := by
  intro first
  have meets := descends first
  rw [last] at meets
  unfold toLineEnd at meets ⊢
  rw [bind_assoc, on_bind_of_ok read, proceedFrom, found, continueStatement_of_token unfinished]
  exact meets

theorem fail {error : ParseError} (read : reading.on reader = (.error error, after))
    (failed : ∀ first,
      proceedFrom first fed reader.last reader.remaining = .failed error after.remaining) :
    Descends fed (reading >>= rest) reader := by
  intro first
  unfold toLineEnd
  rw [bind_assoc, on_bind_of_error read, failed]
  exact ⟨rfl, rfl⟩

/-- A production refuses what its state refuses. -/
theorem refuse (unfinished : state.command? = none)
    (read : reading.on reader =
      (.error (refusal state.expects reader.last reader.remaining), after))
    (remaining : after.remaining = reader.remaining.tail)
    (refuses : ∀ token items, reader.remaining = .ok token :: items →
      state.feed token = .error (token.refuse state.expects)) :
    Descends (.ok state) (reading >>= rest) reader := by
  apply fail read
  intro first
  rw [remaining]
  exact continueStatement_of_refusal unfinished refuses first reader.last

theorem unexpected (unfinished : state.command? = none)
    (refuses : ∀ token items, reader.remaining = .ok token :: items →
      state.feed token = .error (token.refuse state.expects)) :
    Descends (.ok state) (ItemReader.unexpected state.expects >>= rest) reader := by
  obtain ⟨after, read, remaining⟩ := ItemReader.unexpected_on (α := α) state.expects reader
  exact refuse unfinished read remaining refuses

theorem peekKind {rest : Option TokenKind → Reading Command}
    (descends : ∀ after : ItemReader, after.remaining = reader.remaining →
      after.last = reader.last → Descends fed (rest (headKind reader.remaining)) after) :
    Descends fed (ItemReader.peekKind >>= rest) reader := by
  obtain ⟨after, read, remaining, last⟩ := ItemReader.peekKind_on reader
  exact look read remaining last (descends after remaining last)

theorem advance {rest : Option Token → Reading Command} (unfinished : state.command? = none)
    (found : reader.remaining = .ok token :: items)
    (descends : ∀ after : ItemReader, after.remaining = items → after.last = token.position →
      Descends (state.feed token) (rest (some token)) after) :
    Descends (.ok state) (ItemReader.advance >>= rest) reader := by
  obtain ⟨after, read, remaining, last⟩ := ItemReader.advance_on_token found
  rw [← remaining] at found
  exact take unfinished found last read (descends after remaining last)

/-- A token of the kind that is expected is known. -/
theorem found {kind : TokenKind} {expected : Expectation} {rest : Token → Reading Command}
    (unfinished : state.command? = none) (found : reader.remaining = .ok token :: items)
    (fits : token.kind = kind)
    (descends : ∀ after : ItemReader, after.remaining = items → after.last = token.position →
      Descends (state.feed token) (rest token) after) :
    Descends (.ok state) (ItemReader.expect kind expected >>= rest) reader := by
  obtain ⟨after, read, remaining, last⟩ := ItemReader.expect_on_of_kind expected found fits
  rw [← remaining] at found
  exact take unfinished found last read (descends after remaining last)

theorem expect {kind : TokenKind} {rest : Token → Reading Command}
    (unfinished : state.command? = none)
    (refuses : ∀ token, token.kind ≠ kind → state.feed token = .error (token.refuse state.expects))
    (descends : ∀ token (after : ItemReader), token.kind = kind →
      after.remaining.length < reader.remaining.length →
        Descends (state.feed token) (rest token) after) :
    Descends (.ok state) (ItemReader.expect kind state.expects >>= rest) reader := by
  by_cases fits : headKind reader.remaining = some kind
  · obtain ⟨token, items, remaining, fits⟩ := headKind_eq_some_iff.mp fits
    apply found unfinished remaining fits
    intro after rest _
    apply descends token after fits
    rw [remaining, rest]
    exact Nat.lt_succ_self _
  · obtain ⟨after, read, remaining⟩ := ItemReader.expect_on_of_other state.expects fits
    apply refuse unfinished read remaining
    intro token items remaining
    apply refuses
    intro same
    exact fits (headKind_eq_some_iff.mpr ⟨token, items, remaining, same⟩)

/-- A name that the state goes on from. -/
theorem name {rest : Token → Reading Command} {next : Token → String → Except ParseError Partial}
    (unfinished : state.command? = none)
    (feeds : ∀ token, state.feed token = token.name state.expects >>= next token)
    (descends : ∀ token (after : ItemReader), after.remaining.length < reader.remaining.length →
      Descends (next token token.lexeme.literal) (rest token) after) :
    Descends (.ok state) (ItemReader.expect .identifier state.expects >>= rest) reader := by
  apply expect unfinished
  · intro token other
    rw [feeds, Token.name_of_other other]
    rfl
  · intro token after named fewer
    rw [feeds, Token.name_of_kind named]
    exact descends token after fewer

theorem symbol (symbol : Lexeme) {rest : Token → Reading Command} {next : Partial}
    (unfinished : state.command? = none) (symbolic : symbol.kind ∉ TokenKind.literals)
    (feeds : ∀ token, state.feed token = token.require symbol state.expects >>= fun _ => .ok next)
    (descends : ∀ token (after : ItemReader), after.remaining.length < reader.remaining.length →
      Descends (.ok next) (rest token) after) :
    Descends (.ok state) (ItemReader.expect symbol.kind state.expects >>= rest) reader := by
  apply expect unfinished
  · intro token other
    rw [feeds, Token.require_of_other other]
    rfl
  · intro token after same fewer
    rw [feeds, Token.require_of_kind symbolic same]
    exact descends token after fewer

theorem value {rest : Value → Reading Command} {next : Value → Except ParseError Partial}
    (unfinished : state.command? = none) (expects : state.expects = .value)
    (feeds : ∀ token, state.feed token = token.value >>= next)
    (descends : ∀ value (after : ItemReader), after.remaining.length < reader.remaining.length →
      Descends (next value) (rest value) after) :
    Descends (.ok state) (ItemReader.value >>= rest) reader := by
  by_cases literal : ∃ kind, headKind reader.remaining = some kind ∧ kind ∈ TokenKind.literals
  · obtain ⟨_, first, literal⟩ := literal
    obtain ⟨token, items, found, rfl⟩ := headKind_eq_some_iff.mp first
    obtain ⟨after, read, remaining, last⟩ := ItemReader.value_on_of_literal found literal
    have fed := feeds token
    cases denoted : token.value with
    | ok value =>
      rw [denoted] at fed read
      have fewer : after.remaining.length < reader.remaining.length := by
        rw [found, remaining]
        exact Nat.lt_succ_self _
      rw [← remaining] at found
      apply take unfinished found last read
      rw [fed]
      exact descends value after fewer
    | error error =>
      rw [denoted] at fed read
      apply fail read
      intro first
      rw [found, proceedFrom, continueStatement_of_token unfinished, fed, remaining]
      rfl
  · obtain ⟨after, read, remaining⟩ := ItemReader.value_on_of_other literal
    rw [← expects] at read
    apply refuse unfinished read remaining
    intro token items found
    have other : token.kind ∉ TokenKind.literals := fun member =>
      literal ⟨token.kind, headKind_eq_some_iff.mpr ⟨token, items, found, rfl⟩, member⟩
    rw [feeds, expects, Token.value_of_other other]
    rfl

/-- After a whole command the line has to end. -/
theorem lineEnd (command : Command) (reader : ItemReader) :
    Descends (.ok (.lineEnd command)) (pure command) reader := by
  intro first
  have begun : toLineEnd first (pure command) =
      ItemReader.endOfStatement >>= fun _ => pure ⟨command, first⟩ := pure_bind _ _
  rw [begun, proceedFrom]
  rcases items : reader.remaining with _ | ⟨item, rest⟩
  · obtain ⟨after, read, remaining⟩ := ItemReader.endOfStatement_on_nil items
    rw [on_bind_of_ok read]
    exact ⟨rfl, remaining⟩
  · by_cases newline : headKind reader.remaining = some .newline
    · obtain ⟨token, rest, found, newline⟩ := headKind_eq_some_iff.mp newline
      obtain ⟨after, read, remaining⟩ := ItemReader.endOfStatement_on_newline found newline
      rw [on_bind_of_ok read, ← items, found, continueStatement_of_end rfl
        (Token.lexeme_of_kind .newline (by decide) newline)]
      exact ⟨rfl, remaining⟩
    · have some_left : reader.remaining ≠ [] := by
        rw [items]
        exact List.cons_ne_nil _ _
      obtain ⟨after, read, remaining⟩ := ItemReader.endOfStatement_on_other some_left newline
      rw [on_bind_of_error read, ← items, continueStatement_lineEnd_of_other some_left newline]
      exact ⟨rfl, remaining⟩

end Descends

/-! ### Statements -/

namespace ItemReader

open Reading

theorem descends_parameter (reader : ItemReader) :
    Descends (.ok .parameterName) parameter reader := by
  apply Descends.name rfl fun _ => rfl
  intro name after _
  apply Descends.value rfl rfl fun _ => rfl
  intro value after _
  exact .lineEnd _ after

variable {name : String} {position : Position} {reader : ItemReader} {token : Token}
  {items : List LexItem}

theorem descends_connect (found : reader.remaining = .ok token :: items)
    (colon : token.kind = .colon) :
    Descends (.ok (.operator name)) (connect ⟨.identifier name, position⟩) reader := by
  have fed : (Partial.operator name).feed token = .ok (.sourcePort name) := by
    rw [Partial.feed, Token.lexeme_of_kind .colon (by decide) colon]
  apply Descends.found rfl found colon
  intro after _ _
  rw [fed]
  apply Descends.name rfl fun _ => rfl
  intro port after _
  apply Descends.symbol .arrow rfl (by decide) fun _ => rfl
  intro _ after _
  apply Descends.name rfl fun _ => rfl
  intro device after _
  apply Descends.symbol .colon rfl (by decide) fun _ => rfl
  intro _ after _
  apply Descends.name rfl fun _ => rfl
  intro input after _
  exact .lineEnd _ after

/-- The loop over the arguments, unrolled once. -/
theorem arguments_on (draft : Draft) (reader : ItemReader) :
    (of (arguments draft)).on reader =
      (argument draft >>= fun (draft, more) =>
        if more then of (arguments draft) else pure draft).on reader := by
  show arguments draft reader = _
  rw [arguments, on_bind]
  split
  next read => rw [read]; rfl
  next read => rw [read]; rfl
  next read => rw [read]

theorem arguments_eq (draft : Draft) :
    of (arguments draft) = argument draft >>= fun (draft, more) =>
        if more then of (arguments draft) else pure draft :=
  funext (arguments_on draft)

theorem descends_argumentEnd {draft : Draft} {rest : Bool → Reading Command} {reader : ItemReader}
    (more : ∀ after : ItemReader, after.remaining.length < reader.remaining.length →
      Descends (.ok (.argumentName draft)) (rest true) after)
    (done : ∀ after, Descends (.ok (Partial.finished draft)) (rest false) after) :
    Descends (.ok (.argumentEnd draft)) (argumentEnd >>= rest) reader := by
  unfold argumentEnd
  rw [bind_assoc]
  apply Descends.peekKind
  intro looked same _
  rw [← same] at more ⊢
  split
  next comma =>
    obtain ⟨token, items, found, comma⟩ := headKind_eq_some_iff.mp comma
    have fed : (Partial.argumentEnd draft).feed token = .ok (.argumentName draft) := by
      rw [Partial.feed, Token.lexeme_of_kind .comma (by decide) comma]
    rw [bind_assoc]
    apply Descends.advance rfl found
    intro after remaining _
    rw [fed, pure_bind]
    apply more
    rw [found, remaining]
    exact Nat.lt_succ_self _
  next closes =>
    obtain ⟨token, items, found, closes⟩ := headKind_eq_some_iff.mp closes
    have fed : (Partial.argumentEnd draft).feed token = .ok (Partial.finished draft) := by
      rw [Partial.feed, Token.lexeme_of_kind .closeParen (by decide) closes]
    rw [bind_assoc]
    apply Descends.advance rfl found
    intro after remaining _
    rw [fed, pure_bind]
    exact done after
  next no_comma no_end =>
    apply Descends.unexpected rfl
    intro token items found
    obtain ⟨lexeme, position⟩ := token
    cases lexeme with
    | comma => exact absurd (headKind_eq_some_iff.mpr ⟨_, items, found, rfl⟩) no_comma
    | closeParen => exact absurd (headKind_eq_some_iff.mpr ⟨_, items, found, rfl⟩) no_end
    | _ => rfl

/-- The arguments of a device up to the closing parenthesis. The induction is on the number of items
that are left, of which every argument takes some. -/
theorem descends_arguments (draft : Draft) (reader : ItemReader) :
    Descends (.ok (.argumentName draft))
      (of (arguments draft) >>= fun draft =>
        pure (.create draft.name draft.typeName draft.arguments)) reader := by
  induction length : reader.remaining.length using Nat.strongRecOn generalizing draft reader with
  | ind count ih =>
    rw [arguments_eq, bind_assoc]
    unfold argument
    rw [bind_assoc]
    apply Descends.name rfl fun _ => rfl
    intro name reader₁ fewer₁
    unfold argumentAfter
    rw [bind_assoc]
    apply Descends.symbol .equals rfl (by decide) fun _ => rfl
    intro _ reader₂ fewer₂
    rw [bind_assoc]
    apply Descends.value rfl rfl fun _ => rfl
    intro value reader₃ fewer₃
    unfold Partial.addArgument
    cases draft.arguments.insert name.lexeme.literal value with
    -- A name that was given before is found out after its value, and placed at the name.
    | error repeated => exact Descends.throw _ reader₃
    | ok arguments =>
      rw [bind_assoc]
      apply descends_argumentEnd
      · intro after fewer
        exact ih after.remaining.length (by omega) _ after rfl
      · exact fun after => .lineEnd _ after

/-- The first argument, when there is one, is like any other. -/
theorem continueStatement_firstArgument {items : List LexItem}
    (other : headKind items ≠ some .closeParen) (first last : Position) (name typeName : String) :
    continueStatement first (.firstArgument name typeName) last items =
      continueStatement first (.argumentName ⟨name, typeName, .empty⟩) last items := by
  rcases items with _ | ⟨error | token, items⟩
  · rfl
  · rfl
  · rw [continueStatement_of_token rfl, continueStatement_of_token rfl]
    obtain ⟨lexeme, position⟩ := token
    cases lexeme with
    | closeParen => exact absurd rfl other
    | _ => rfl

theorem descends_create (found : reader.remaining = .ok token :: items)
    (equals : token.kind = .equals) :
    Descends (.ok (.operator name)) (create ⟨.identifier name, position⟩) reader := by
  have fed : (Partial.operator name).feed token = .ok (.typeName name) := by
    rw [Partial.feed, Token.lexeme_of_kind .equals (by decide) equals]
  apply Descends.found rfl found equals
  intro after _ _
  rw [fed]
  apply Descends.name rfl fun _ => rfl
  intro typeName after _
  apply Descends.symbol .openParen rfl (by decide) fun _ => rfl
  intro _ opened _
  apply Descends.peekKind
  intro after same _
  rw [← same]
  split
  next closes =>
    obtain ⟨token, items, found, closes⟩ := headKind_eq_some_iff.mp closes
    have fed : (Partial.firstArgument name typeName.lexeme.literal).feed token =
        .ok (Partial.finished ⟨name, typeName.lexeme.literal, .empty⟩) := by
      rw [Partial.feed, Token.lexeme_of_kind .closeParen (by decide) closes]
    apply Descends.advance rfl found
    intro after _ _
    rw [fed]
    exact .lineEnd _ after
  next other =>
    -- No token is taken here: the states before the first argument and before a later one differ
    -- in what they make of a closing parenthesis only.
    intro first
    rw [proceedFrom, continueStatement_firstArgument other]
    exact descends_arguments _ after first

/-- A command goes on from what begins with its first token. -/
theorem descends_command (first : Token) (reader : ItemReader) :
    Descends (Partial.begin first) (command first) reader := by
  obtain ⟨lexeme, position⟩ := first
  cases lexeme with
  | atSign => exact descends_parameter reader
  | identifier name =>
    apply Descends.peekKind
    intro after same last
    rw [← same]
    split
    next colon =>
      obtain ⟨token, items, found, colon⟩ := headKind_eq_some_iff.mp colon
      exact descends_connect found colon
    next equals =>
      obtain ⟨token, items, found, equals⟩ := headKind_eq_some_iff.mp equals
      exact descends_create found equals
    next no_colon no_equals =>
      rw [← bind_pure (unexpected .operator)]
      apply Descends.unexpected rfl
      intro token items found
      obtain ⟨lexeme, position⟩ := token
      cases lexeme with
      | colon => exact absurd (headKind_eq_some_iff.mpr ⟨_, items, found, rfl⟩) no_colon
      | equals => exact absurd (headKind_eq_some_iff.mpr ⟨_, items, found, rfl⟩) no_equals
      | _ => rfl
  | _ => exact Descends.throw _ reader

/-- What a call finds after blank lines. A token it finds is the one that was taken last, so the
place that the reader kept from calls before is gone. -/
inductive Finds (items : List LexItem) : Except ParseError (Option Token) × ItemReader → Prop
  | nothing {after : ItemReader} (finished : readStatement items = .finished)
      (empty : after.remaining = []) : Finds items (.ok none, after)
  | error {error : ParseError} {after : ItemReader}
      (failed : readStatement items = .failed error after.remaining) :
      Finds items (.error error, after)
  | token {token : Token} {after : ItemReader} (last : after.last = token.position)
      (begins : token.lexeme ≠ .newline)
      (same : readStatement items = readStatement (.ok token :: after.remaining)) :
      Finds items (.ok (some token), after)

theorem finds_firstToken (reader : ItemReader) : Finds reader.remaining (firstToken reader) := by
  fun_induction firstToken reader with
  | case1 reader token after read blank ih =>
    obtain ⟨remaining, -⟩ := remaining_of_advance read
    have line_end := Token.lexeme_of_kind .newline (by decide) blank
    have same : readStatement reader.remaining = readStatement after.remaining := by
      rw [remaining, readStatement, if_pos line_end]
    generalize firstToken after = result at ih
    cases ih with
    | nothing finished empty => exact .nothing (same.trans finished) empty
    | error failed => exact .error (same.trans failed)
    | token last begins found => exact .token last begins (same.trans found)
  | case2 reader token after read begins =>
    obtain ⟨remaining, last⟩ := remaining_of_advance read
    refine .token last ?_ (congrArg readStatement remaining)
    intro line_end
    exact begins (congrArg Lexeme.kind line_end)
  | case3 reader other =>
    rcases items : reader.remaining with _ | ⟨error | token, rest⟩
    · obtain ⟨after, nothing, empty, -⟩ := advance_on_nil items
      rw [nothing]
      exact .nothing rfl empty
    · obtain ⟨after, failed, remaining⟩ := advance_on_error items
      rw [failed, ← remaining]
      exact .error rfl
    · obtain ⟨after, taken, -⟩ := advance_on_token items
      exact absurd taken (other token after)

/-- A call does what `readStatement` does with the items that were not taken. -/
theorem meets_statement (reader : ItemReader) :
    (statement.on reader).1 = (readStatement reader.remaining).outcome ∧
      (statement.on reader).2.remaining = (readStatement reader.remaining).rest := by
  have found : Finds reader.remaining ((of firstToken).on reader) := finds_firstToken reader
  generalize first : (of firstToken).on reader = result at found
  cases found with
  | @nothing after finished empty =>
    have read : statement.on reader = (.ok none, after) := on_bind_of_ok first _
    rw [read, finished]
    exact ⟨rfl, empty⟩
  | @error error after failed =>
    have read : statement.on reader = (.error error, after) := on_bind_of_error first _
    rw [read, failed]
    exact ⟨rfl, rfl⟩
  | @token token after last begins same =>
    have read : statement.on reader =
        (statementFrom token >>= fun statement => pure (some statement)).on after :=
      on_bind_of_ok first _
    have result : readStatement reader.remaining =
        proceedFrom token.position (Partial.begin token) after.last after.remaining := by
      rw [same, readStatement, if_neg begins, last]
      rfl
    have meets : Meets ((statementFrom token).on after) (readStatement reader.remaining) := by
      rw [result]
      exact descends_command token after token.position
    rw [read, on_bind]
    generalize (statementFrom token).on after = result at meets ⊢
    obtain ⟨outcome, left⟩ := result
    cases outcome with
    | ok statement => exact meets
    | error error => exact meets

end ItemReader

end ModularSynth
