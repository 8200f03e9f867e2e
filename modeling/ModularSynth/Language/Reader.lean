import ModularSynth.Language.Parse

/-!
# Reading statements off a stream

An `ItemReader` takes items one at a time and looks one ahead at most. `ItemReader.statement` reads
the next statement, one production of the grammar calling the other, and can be called again
whatever came of it: a production that meets something unexpected takes it, so that an error is
never met twice. Nothing is put back (`Reading.Takes`) and every call that finds something takes
something (`ItemReader.statement_on_eq_none_or_lt`). `parseResuming` calls on after errors up to the
end.
-/

namespace ModularSynth

/-- Items that arrive one at a time. -/
structure ItemReader where
  /-- The items that have not been looked at. -/
  upcoming : List LexItem
  /-- The next item, if it has been looked at and not been taken. -/
  ahead : Option LexItem := none
  /-- The place of the token that was taken last. -/
  last : Position := .start

/-- The items that have not been taken. -/
def ItemReader.remaining (reader : ItemReader) : List LexItem :=
  reader.ahead.toList ++ reader.upcoming

/-- What reads something off a reader, or fails. -/
abbrev Reading (α : Type) := ExceptT ParseError (StateM ItemReader) α

/-- What a reading yields, and the reader after it. -/
def Reading.on {α : Type} (reading : Reading α) (reader : ItemReader) :
    Except ParseError α × ItemReader :=
  (ExceptT.run reading).run reader

/-- The reading that yields this. -/
def Reading.of {α : Type} (f : ItemReader → Except ParseError α × ItemReader) : Reading α :=
  ExceptT.mk f

namespace ItemReader

/-! ### Items -/

/-- Looks at the next item without taking it. -/
def peek : Reading (Option LexItem) := do
  let reader ← get
  match reader.ahead, reader.upcoming with
  | some item, _ => return some item
  | none, [] => return none
  | none, item :: upcoming =>
    set { reader with ahead := some item, upcoming }
    return some item

/-- The kind of the next token. There is none at the end and before a lexical error. -/
def peekKind : Reading (Option TokenKind) := do
  match ← peek with
  | some (.ok token) => return some token.kind
  | _ => return none

/-- Takes the next item. -/
def next : Reading (Option LexItem) := do
  let reader ← get
  match reader.ahead, reader.upcoming with
  | some item, _ =>
    set { reader with ahead := none }
    return some item
  | none, [] => return none
  | none, item :: upcoming =>
    set { reader with upcoming }
    return some item

/-- Takes the next token. -/
def advance : Reading (Option Token) := do
  match ← next with
  | none => return none
  | some (.ok token) =>
    modify fun reader => { reader with last := token.position }
    return some token
  | some (.error error) => throw (.lexical error)

/-- Takes what comes next, which is not what was expected. -/
def unexpected {α : Type} (expected : Expectation) : Reading α := do
  match ← advance with
  | some token => throw (token.refuse expected)
  | none => throw (.malformed (.unexpectedEnd expected) (← get).last)

/-- Takes a token of one kind. -/
def expect (kind : TokenKind) (expected : Expectation) : Reading Token := do
  if (← peekKind) = some kind then
    match ← advance with
    | some token => return token
    | none => unexpected expected
  else unexpected expected

/-! ### Productions -/

def value : Reading Value := do
  match ← peekKind with
  | some .identifier | some .number | some .quoted =>
    match ← advance with
    | some token => MonadExcept.ofExcept token.value
    | none => unexpected .value
  | _ => unexpected .value

def parameter : Reading Command := do
  let name ← expect .identifier .parameterName
  return .parameter name.lexeme.literal (← value)

def connect (first : Token) : Reading Command := do
  let _ ← expect .colon .colon
  let port ← expect .identifier .portName
  let _ ← expect .arrow .arrow
  let device ← expect .identifier .variableName
  let _ ← expect .colon .colon
  let input ← expect .identifier .portName
  return .connect ⟨first.lexeme.literal, port.lexeme.literal⟩
    ⟨device.lexeme.literal, input.lexeme.literal⟩

/-- What ends an argument: whether another one follows. -/
def argumentEnd : Reading Bool := do
  match ← peekKind with
  | some .comma =>
    let _ ← advance
    return true
  | some .closeParen =>
    let _ ← advance
    return false
  | _ => unexpected .argumentEnd

/-- What follows the name of an argument, and whether another argument follows that. -/
def argumentAfter (draft : Draft) (name : Token) : Reading (Draft × Bool) := do
  let _ ← expect .equals .equals
  let value ← value
  match draft.arguments.insert name.lexeme.literal value with
  | .error _ => throw (.malformed (.duplicateArgument name.lexeme.literal) name.position)
  | .ok arguments => return ({ draft with arguments }, ← argumentEnd)

def argument (draft : Draft) : Reading (Draft × Bool) := do
  argumentAfter draft (← expect .identifier .argumentName)

end ItemReader

/-! ### Nothing is put back -/

namespace Reading

variable {α β : Type}

/-- What a reading leaves is the end of what it found. -/
def Takes (reading : Reading α) : Prop :=
  ∀ reader, (reading.on reader).2.remaining <:+ reader.remaining

/-- A reading that succeeds has taken something. -/
def Advances (reading : Reading α) : Prop :=
  ∀ reader a after, reading.on reader = (.ok a, after) →
    after.remaining.length < reader.remaining.length

theorem on_bind (reading : Reading α) (rest : α → Reading β) (reader : ItemReader) :
    (reading >>= rest).on reader =
      match reading.on reader with
      | (.ok a, after) => (rest a).on after
      | (.error error, after) => (.error error, after) := by
  generalize read : reading.on reader = result
  obtain ⟨outcome, after⟩ := result
  have read : (ExceptT.run reading).run reader = (outcome, after) := read
  unfold on
  rw [ExceptT.run_bind, StateT.run_bind, read]
  cases outcome with
  | error error => rfl
  | ok a => rfl

theorem on_bind_of_ok {reading : Reading α} {reader after : ItemReader} {a : α}
    (read : reading.on reader = (.ok a, after)) (rest : α → Reading β) :
    (reading >>= rest).on reader = (rest a).on after := by
  rw [on_bind, read]

theorem on_bind_of_error {reading : Reading α} {reader after : ItemReader} {error : ParseError}
    (read : reading.on reader = (.error error, after)) (rest : α → Reading β) :
    (reading >>= rest).on reader = (.error error, after) := by
  rw [on_bind, read]

theorem takes_pure (a : α) : (pure a : Reading α).Takes := fun _ => List.suffix_rfl

theorem takes_throw (error : ParseError) : (throw error : Reading α).Takes :=
  fun _ => List.suffix_rfl

theorem Takes.bind {reading : Reading α} {rest : α → Reading β} (first : reading.Takes)
    (then_rest : ∀ a, (rest a).Takes) : (reading >>= rest).Takes := by
  intro reader
  have taken := first reader
  rw [on_bind]
  generalize reading.on reader = result at taken ⊢
  obtain ⟨outcome, after⟩ := result
  cases outcome with
  | error error => exact taken
  | ok a => exact (then_rest a after).trans taken

theorem Advances.bind {reading : Reading α} {rest : α → Reading β} (first : reading.Advances)
    (then_rest : ∀ a, (rest a).Takes) : (reading >>= rest).Advances := by
  intro reader b last finished
  rw [on_bind] at finished
  generalize read : reading.on reader = result at finished
  obtain ⟨outcome, after⟩ := result
  cases outcome with
  | error error => cases finished
  | ok a =>
    have taken := then_rest a after
    have finished : (rest a).on after = (.ok b, last) := finished
    rw [finished] at taken
    exact Nat.lt_of_le_of_lt taken.length_le (first reader a after read)

/-- A reading takes something if its last part does. -/
theorem Takes.bind_advances {reading : Reading α} {rest : α → Reading β} (first : reading.Takes)
    (then_rest : ∀ a, (rest a).Advances) : (reading >>= rest).Advances := by
  intro reader b last finished
  have taken := first reader
  rw [on_bind] at finished
  generalize reading.on reader = result at finished taken
  obtain ⟨outcome, after⟩ := result
  cases outcome with
  | error error => cases finished
  | ok a => exact Nat.lt_of_lt_of_le (then_rest a after b last finished) taken.length_le

end Reading

namespace ItemReader

open Reading

variable {α : Type} {reader : ItemReader} {token : Token} {items : List LexItem}

theorem peek_on (reader : ItemReader) :
    ∃ after, peek.on reader = (.ok reader.remaining.head?, after) ∧
      after.remaining = reader.remaining ∧ after.last = reader.last := by
  obtain ⟨upcoming, ahead, last⟩ := reader
  cases ahead with
  | some item => exact ⟨_, rfl, rfl, rfl⟩
  | none =>
    cases upcoming with
    | nil => exact ⟨_, rfl, rfl, rfl⟩
    | cons item upcoming => exact ⟨_, rfl, rfl, rfl⟩

theorem next_on (reader : ItemReader) :
    ∃ after, next.on reader = (.ok reader.remaining.head?, after) ∧
      after.remaining = reader.remaining.tail ∧ after.last = reader.last := by
  obtain ⟨upcoming, ahead, last⟩ := reader
  cases ahead with
  | some item => exact ⟨_, rfl, rfl, rfl⟩
  | none =>
    cases upcoming with
    | nil => exact ⟨_, rfl, rfl, rfl⟩
    | cons item upcoming => exact ⟨_, rfl, rfl, rfl⟩

theorem takes_peek : peek.Takes := by
  intro reader
  obtain ⟨after, looked, remaining, -⟩ := peek_on reader
  rw [looked]
  exact ⟨[], remaining⟩

theorem takes_next : next.Takes := by
  intro reader
  obtain ⟨after, taken, remaining, -⟩ := next_on reader
  rw [taken, remaining]
  exact List.tail_suffix _

theorem takes_peekKind : peekKind.Takes := by
  apply takes_peek.bind
  intro item
  split
  · exact takes_pure _
  · exact takes_pure _

theorem takes_advance : advance.Takes := by
  apply takes_next.bind
  intro item
  split
  · exact takes_pure _
  · exact fun _ => List.suffix_rfl
  · exact takes_throw _

theorem takes_unexpected (expected : Expectation) : (unexpected expected : Reading α).Takes := by
  apply takes_advance.bind
  intro token
  split
  · exact takes_throw _
  · exact fun _ => List.suffix_rfl

theorem takes_expect (kind : TokenKind) (expected : Expectation) :
    (expect kind expected).Takes := by
  apply takes_peekKind.bind
  intro found
  split
  · apply takes_advance.bind
    intro token
    split
    · exact takes_pure _
    · exact takes_unexpected expected
  · exact takes_unexpected expected

theorem takes_value : value.Takes := by
  apply takes_peekKind.bind
  intro found
  split
  case h_4 => exact takes_unexpected .value
  all_goals
    apply takes_advance.bind
    intro token
    split
    next token =>
      cases token.value with
      | ok value => exact takes_pure value
      | error error => exact takes_throw error
    next => exact takes_unexpected .value

theorem advance_on_nil (nothing : reader.remaining = []) :
    ∃ after, advance.on reader = (.ok none, after) ∧ after.remaining = [] ∧
      after.last = reader.last := by
  obtain ⟨after, taken, remaining, last⟩ := next_on reader
  rw [nothing] at taken remaining
  refine ⟨after, ?_, remaining, last⟩
  unfold advance
  rw [on_bind_of_ok taken]
  rfl

theorem advance_on_error {error : LexError} (found : reader.remaining = .error error :: items) :
    ∃ after, advance.on reader = (.error (.lexical error), after) ∧ after.remaining = items := by
  obtain ⟨after, taken, remaining, -⟩ := next_on reader
  rw [found] at taken remaining
  refine ⟨after, ?_, remaining⟩
  unfold advance
  rw [on_bind_of_ok taken]
  rfl

theorem advance_on_token (found : reader.remaining = .ok token :: items) :
    ∃ after, advance.on reader = (.ok (some token), after) ∧ after.remaining = items ∧
      after.last = token.position := by
  obtain ⟨after, taken, remaining, -⟩ := next_on reader
  rw [found] at taken remaining
  refine ⟨{ after with last := token.position }, ?_, remaining, rfl⟩
  unfold advance
  rw [on_bind_of_ok taken]
  rfl

/-- Unless nothing is left, something is taken, be it a token or an error. -/
theorem advance_on_eq_none_or_lt (reader : ItemReader) :
    (advance.on reader).1 = .ok none ∨
      (advance.on reader).2.remaining.length < reader.remaining.length := by
  rcases items : reader.remaining with _ | ⟨error | token, rest⟩
  · obtain ⟨after, nothing, -⟩ := advance_on_nil items
    rw [nothing]
    exact Or.inl rfl
  · obtain ⟨after, failed, remaining⟩ := advance_on_error items
    rw [failed, remaining]
    exact Or.inr (Nat.lt_succ_self _)
  · obtain ⟨after, taken, remaining, -⟩ := advance_on_token items
    rw [taken, remaining]
    exact Or.inr (Nat.lt_succ_self _)

theorem length_of_advance {reader after : ItemReader} {token : Token}
    (taken : advance.on reader = (.ok (some token), after)) :
    after.remaining.length < reader.remaining.length := by
  have fewer := advance_on_eq_none_or_lt reader
  rw [taken] at fewer
  exact fewer.resolve_left nofun

theorem advances_unexpected (expected : Expectation) :
    (unexpected expected : Reading α).Advances := by
  intro reader a after finished
  unfold unexpected at finished
  rw [on_bind] at finished
  generalize advance.on reader = result at finished
  obtain ⟨outcome, middle⟩ := result
  rcases outcome with error | _ | token
  · cases finished
  · cases finished
  · cases finished

theorem advances_expect (kind : TokenKind) (expected : Expectation) :
    (expect kind expected).Advances := by
  apply takes_peekKind.bind_advances
  intro found
  split
  · intro reader token after finished
    rw [on_bind] at finished
    generalize read : advance.on reader = result at finished
    obtain ⟨outcome, middle⟩ := result
    rcases outcome with error | _ | taken
    · cases finished
    · have left := takes_advance reader
      rw [read] at left
      exact Nat.lt_of_lt_of_le (advances_unexpected expected _ _ _ finished) left.length_le
    · cases finished
      exact length_of_advance read
  · exact advances_unexpected expected

theorem takes_parameter : parameter.Takes :=
  (takes_expect _ _).bind fun _ => takes_value.bind fun _ => takes_pure _

theorem takes_connect (first : Token) : (connect first).Takes :=
  (takes_expect _ _).bind fun _ => (takes_expect _ _).bind fun _ => (takes_expect _ _).bind fun _ =>
    (takes_expect _ _).bind fun _ => (takes_expect _ _).bind fun _ =>
      (takes_expect _ _).bind fun _ => takes_pure _

theorem takes_argumentEnd : argumentEnd.Takes := by
  apply takes_peekKind.bind
  intro found
  split
  · exact takes_advance.bind fun _ => takes_pure _
  · exact takes_advance.bind fun _ => takes_pure _
  · exact takes_unexpected _

theorem takes_argumentAfter (draft : Draft) (name : Token) : (argumentAfter draft name).Takes := by
  apply (takes_expect _ _).bind
  intro _
  apply takes_value.bind
  intro value
  split
  · exact takes_throw _
  · exact takes_argumentEnd.bind fun _ => takes_pure _

theorem takes_argument (draft : Draft) : (argument draft).Takes :=
  (takes_expect _ _).bind (takes_argumentAfter draft)

theorem advances_argument (draft : Draft) : (argument draft).Advances :=
  (advances_expect _ _).bind (takes_argumentAfter draft)

/-! ### Productions that go round -/

/-- The arguments of a device, of which there is at least one to come. -/
def arguments (draft : Draft) (reader : ItemReader) : Except ParseError Draft × ItemReader :=
  match _h : (argument draft).on reader with
  | (.ok (draft, true), after) => arguments draft after
  | (.ok (draft, false), after) => (.ok draft, after)
  | (.error error, after) => (.error error, after)
termination_by reader.remaining.length
decreasing_by exact advances_argument _ _ _ _ _h

def create (first : Token) : Reading Command := do
  let _ ← expect .equals .equals
  let typeName ← expect .identifier .typeName
  let _ ← expect .openParen .openParen
  let draft : Draft := ⟨first.lexeme.literal, typeName.lexeme.literal, .empty⟩
  if (← peekKind) = some .closeParen then
    let _ ← advance
    return .create draft.name draft.typeName draft.arguments
  else
    let draft ← of (arguments draft)
    return .create draft.name draft.typeName draft.arguments

/-- A statement ends with its line, or with the last item. -/
def endOfStatement : Reading Unit := do
  match ← peekKind with
  | none => if (← peek).isNone then return () else unexpected .lineEnd
  | some .newline =>
    let _ ← advance
    return ()
  | some _ => unexpected .lineEnd

/-- The first token after blank lines. -/
def firstToken (reader : ItemReader) : Except ParseError (Option Token) × ItemReader :=
  match _h : advance.on reader with
  | (.ok (some token), after) =>
    if token.kind = .newline then firstToken after else (.ok (some token), after)
  | result => result
termination_by reader.remaining.length
decreasing_by exact length_of_advance _h

/-- The command that begins with a token. -/
def command (first : Token) : Reading Command := do
  match first.kind with
  | .atSign => parameter
  | .identifier =>
    match ← peekKind with
    | some .colon => connect first
    | some .equals => create first
    | _ => unexpected .operator
  | _ => throw (first.refuse .statement)

/-- The statement that begins with a token. -/
def statementFrom (first : Token) : Reading Statement := do
  let command ← command first
  endOfStatement
  return ⟨command, first.position⟩

/-- The next statement, or nothing when only blank lines are left. -/
def statement : Reading (Option Statement) := do
  match ← of firstToken with
  | none => return none
  | some first => return some (← statementFrom first)

/-! ### Every call takes something -/

theorem takes_arguments (draft : Draft) : (of (arguments draft)).Takes := by
  intro reader
  show (arguments draft reader).2.remaining <:+ reader.remaining
  fun_induction arguments draft reader with
  | case1 draft reader next after read ih =>
    have taken := takes_argument draft reader
    rw [read] at taken
    exact ih.trans taken
  | case2 draft reader next after read =>
    have taken := takes_argument draft reader
    rwa [read] at taken
  | case3 draft reader error after read =>
    have taken := takes_argument draft reader
    rwa [read] at taken

theorem takes_create (first : Token) : (create first).Takes := by
  apply (takes_expect _ _).bind
  intro _
  apply (takes_expect _ _).bind
  intro typeName
  apply (takes_expect _ _).bind
  intro _
  apply takes_peekKind.bind
  intro found
  split
  · exact takes_advance.bind fun _ => takes_pure _
  · exact (takes_arguments _).bind fun _ => takes_pure _

theorem takes_endOfStatement : endOfStatement.Takes := by
  apply takes_peekKind.bind
  intro found
  split
  · apply takes_peek.bind
    intro item
    split
    · exact takes_pure _
    · exact takes_unexpected _
  · exact takes_advance.bind fun _ => takes_pure _
  · exact takes_unexpected _

theorem takes_command (first : Token) : (command first).Takes := by
  unfold command
  split
  · exact takes_parameter
  · apply takes_peekKind.bind
    intro found
    split
    · exact takes_connect first
    · exact takes_create first
    · exact takes_unexpected _
  · exact takes_throw _

theorem takes_firstToken : (of firstToken).Takes := by
  intro reader
  show (firstToken reader).2.remaining <:+ reader.remaining
  fun_induction firstToken reader with
  | case1 reader token after read blank ih =>
    have taken := takes_advance reader
    rw [read] at taken
    exact ih.trans taken
  | case2 reader token after read _ =>
    have taken := takes_advance reader
    rwa [read] at taken
  | case3 reader other => exact takes_advance reader

theorem firstToken_eq_none_or_lt (reader : ItemReader) :
    (firstToken reader).1 = .ok none ∨
      (firstToken reader).2.remaining.length < reader.remaining.length := by
  fun_induction firstToken reader with
  | case1 reader token after read blank ih =>
    exact ih.imp_right fun fewer => Nat.lt_trans fewer (length_of_advance read)
  | case2 reader token after read _ => exact Or.inr (length_of_advance read)
  | case3 reader other => exact advance_on_eq_none_or_lt reader

theorem takes_statementFrom (first : Token) : (statementFrom first).Takes :=
  (takes_command first).bind fun _ => takes_endOfStatement.bind fun _ => takes_pure _

theorem takes_statement : statement.Takes := by
  apply takes_firstToken.bind
  intro first
  split
  · exact takes_pure _
  · exact (takes_statementFrom _).bind fun _ => takes_pure _

/-- A call takes something unless it finds nothing but blank lines. -/
theorem statement_on_eq_none_or_lt (reader : ItemReader) :
    (statement.on reader).1 = .ok none ∨
      (statement.on reader).2.remaining.length < reader.remaining.length := by
  have first := firstToken_eq_none_or_lt reader
  have begun : (of firstToken).on reader = firstToken reader := rfl
  unfold statement
  rw [on_bind, begun]
  generalize firstToken reader = result at first
  obtain ⟨outcome, after⟩ := result
  rcases outcome with error | _ | token
  · exact Or.inr (first.resolve_left nofun)
  · exact Or.inl rfl
  · have fewer : after.remaining.length < reader.remaining.length := first.resolve_left nofun
    have taken := ((takes_statementFrom token).bind fun statement =>
      takes_pure (some statement)) after
    exact Or.inr (Nat.lt_of_le_of_lt taken.length_le fewer)

/-- The statements and errors that are left for a reader, going on after errors. -/
def statements (reader : ItemReader) : List (Except ParseError Statement) :=
  match _h : statement.on reader with
  | (.ok none, _) => []
  | (.ok (some statement), after) => .ok statement :: after.statements
  | (.error error, after) => .error error :: after.statements
termination_by reader.remaining.length
decreasing_by
  all_goals
    have fewer := statement_on_eq_none_or_lt reader
    rw [_h] at fewer
    exact fewer.resolve_left nofun

end ItemReader

/-- The statements and errors of a list of tokens, reading on after errors. -/
def parseResuming (items : List LexItem) : List (Except ParseError Statement) :=
  ItemReader.statements { upcoming := items }

end ModularSynth
