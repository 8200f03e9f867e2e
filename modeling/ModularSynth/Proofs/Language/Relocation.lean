import ModularSynth.Proofs.Language.Resumption

/-!
# Places do not matter to the parser

Which statements tokens form, and how they fail to, does not depend on where the tokens stand. A
change of tokens that the parser follows token by token (`Translation`) it follows over whole lists
(`Translation.parse_item`). So if all places are changed in the same way the parser yields the same
statements and errors at the changed places (`parse_move`). A statement that has been read in part
carries one place at most, that of an argument whose value is still to come, and it is carried
along.
-/

namespace ModularSynth

/-! ### Changes that the parser follows -/

/-- A change of tokens and errors that the parser follows: what a changed token makes of a changed
statement is what the token makes of the statement, changed. -/
structure Translation where
  token : Token → Token
  lexical : LexError → LexError
  place : Position → Position
  state : Partial → Partial
  error : ParseError → ParseError
  lexeme_token : ∀ t, (token t).lexeme = t.lexeme
  /-- No statement begins at a line end, and none remembers its place. -/
  position_token : ∀ t, t.lexeme ≠ .newline → (token t).position = place t.position
  command?_state : ∀ s, (state s).command? = s.command?
  error_lexical : ∀ e, error (.lexical e) = .lexical (lexical e)
  error_end : ∀ s p, error (.malformed (.unexpectedEnd s.expects) p) =
    .malformed (.unexpectedEnd (state s).expects) (place p)
  begin_token : ∀ t, Partial.begin (token t) = ((Partial.begin t).map state).mapError error
  feed_token : ∀ s t, (state s).feed (token t) = ((s.feed t).map state).mapError error

namespace Translation

variable (T : Translation)

def item (item : LexItem) : LexItem := (item.map T.token).mapError T.lexical

def statement (statement : Statement) : Statement :=
  ⟨statement.command, T.place statement.position⟩

def result (result : Except ParseError Statement) : Except ParseError Statement :=
  (result.map T.statement).mapError T.error

def parseResult : ParseResult → ParseResult
  | .finished => .finished
  | .statement read rest => .statement (T.statement read) (rest.map T.item)
  | .failed error rest => .failed (T.error error) (rest.map T.item)

theorem continueStatement_item (first : Position) (state : Partial) (last : Position)
    (items : List LexItem) :
    continueStatement (T.place first) (T.state state) (T.place last) (items.map T.item) =
      T.parseResult (continueStatement first state last items) := by
  induction items generalizing state last with
  | nil =>
    rw [List.map_nil, continueStatement, continueStatement, T.command?_state]
    cases state.command? with
    | none => exact congrArg (ParseResult.failed · []) (T.error_end state last).symm
    | some command => rfl
  | cons item items ih =>
    cases item with
    | error error => exact congrArg (ParseResult.failed · _) (T.error_lexical error).symm
    | ok token =>
      have changed := T.feed_token state token
      cases fed : state.feed token with
      | ok next =>
        have feeds := Partial.feed_eq_ok_iff.mp fed
        rw [fed] at changed
        rw [continueStatement_of_feeds feeds, ← ih next token.position,
          ← T.position_token token feeds.lexeme_ne_newline]
        exact continueStatement_of_feeds (Partial.feed_eq_ok_iff.mp changed) _
      | error error =>
        rw [fed] at changed
        rcases state.unfinished_or_ends token with unfinished | ⟨command, rfl, line_end⟩
        · rw [continueStatement_of_refused fed unfinished]
          rw [← T.command?_state, ← T.lexeme_token] at unfinished
          exact continueStatement_of_refused changed unfinished _
        · rw [continueStatement_of_end rfl line_end]
          exact continueStatement_of_end (T.command?_state _) ((T.lexeme_token _).trans line_end) _

theorem readStatement_item (items : List LexItem) :
    readStatement (items.map T.item) = T.parseResult (readStatement items) := by
  induction items with
  | nil => rfl
  | cons item items ih =>
    cases item with
    | error error => exact congrArg (ParseResult.failed · _) (T.error_lexical error).symm
    | ok token =>
      have lexeme := T.lexeme_token token
      rw [List.map_cons]
      change readStatement (.ok (T.token token) :: items.map T.item) = _
      by_cases blank : token.lexeme = .newline
      · rw [readStatement, readStatement, if_pos blank, if_pos (lexeme.trans blank)]
        exact ih
      · have not_blank : (T.token token).lexeme ≠ .newline := lexeme ▸ blank
        have changed := T.begin_token token
        cases begun : Partial.begin token with
        | error error =>
          rw [begun] at changed
          rw [readStatement_of_begin_error blank begun]
          exact readStatement_of_begin_error not_blank changed
        | ok state =>
          rw [begun] at changed
          rw [readStatement_of_begin_ok blank begun, ← continueStatement_item,
            ← T.position_token token blank]
          exact readStatement_of_begin_ok not_blank changed _

/-- Parsing commutes with the change. -/
theorem parse_item (items : List LexItem) :
    parse (items.map T.item) = (parse items).map T.result := by
  induction items using statementwise with
  | finished items read =>
    have changed := T.readStatement_item items
    rw [read] at changed
    rw [parse_of_finished read, parse_of_finished changed]
    rfl
  | failed items error rest read =>
    have changed := T.readStatement_item items
    rw [read] at changed
    rw [parse_of_failed read, parse_of_failed changed]
    rfl
  | statement items statement rest read ih =>
    have changed := T.readStatement_item items
    rw [read] at changed
    rw [parse_of_statement read, parse_of_statement changed, List.map_cons, ih]
    rfl

end Translation

/-! ### Changes of places -/

section Move

variable (f : Position → Position)

def Token.move (token : Token) : Token :=
  ⟨token.lexeme, f token.position⟩

def LexError.move (error : LexError) : LexError :=
  ⟨error.fault, f error.position⟩

/-- An item at another place. -/
def moveItem : LexItem → LexItem
  | .ok token => .ok (token.move f)
  | .error error => .error (error.move f)

def ParseError.move : ParseError → ParseError
  | lexical error => lexical (error.move f)
  | malformed fault position => malformed fault (f position)

def Statement.move (statement : Statement) : Statement :=
  ⟨statement.command, f statement.position⟩

/-- A statement at another place, or an error in its stead. -/
def moveResult : Except ParseError Statement → Except ParseError Statement
  | .ok statement => .ok (statement.move f)
  | .error error => .error (error.move f)

def Partial.move : Partial → Partial
  | argumentEquals draft argument position => argumentEquals draft argument (f position)
  | argumentValue draft argument position => argumentValue draft argument (f position)
  | state => state

/-- What a token made of a statement, at another place. -/
def moveStep : Except ParseError Partial → Except ParseError Partial
  | .ok state => .ok (state.move f)
  | .error error => .error (error.move f)

theorem moveResult_id (result : Except ParseError Statement) : moveResult id result = result := by
  cases result with
  | ok statement => rfl
  | error error =>
    cases error with
    | _ => rfl

theorem moveResult_comp (g : Position → Position) (result : Except ParseError Statement) :
    moveResult f (moveResult g result) = moveResult (f ∘ g) result := by
  cases result with
  | ok statement => rfl
  | error error =>
    cases error with
    | _ => rfl

/-! ### One token -/

namespace Token

variable (token : Token)

theorem name_move (expected : Expectation) :
    (token.move f).name expected = (token.name expected).mapError (·.move f) := by
  obtain ⟨lexeme, position⟩ := token
  cases lexeme with
  | _ => rfl

theorem require_move (lexeme : Lexeme) (expected : Expectation) :
    (token.move f).require lexeme expected =
      (token.require lexeme expected).mapError (·.move f) := by
  unfold Token.require
  by_cases same : token.lexeme = lexeme
  · rw [if_pos same, if_pos (show (token.move f).lexeme = lexeme from same)]
    rfl
  · rw [if_neg same, if_neg (show (token.move f).lexeme ≠ lexeme from same)]
    rfl

theorem value_move : (token.move f).value = token.value.mapError (·.move f) := by
  obtain ⟨lexeme, position⟩ := token
  cases lexeme with
  | number digits =>
    cases converts : Lexeme.valueOfNumber? digits with
    | none => simp only [Token.value, Token.move, converts]; rfl
    | some value => simp only [Token.value, Token.move, converts]; rfl
  | _ => rfl

end Token

namespace Partial

/-- A check of a token alone, and what is made of its outcome. -/
theorem bind_move {α : Type} {finish finish' : α → Except ParseError Partial}
    (each : ∀ a, finish' a = moveStep f (finish a)) (check : Except ParseError α) :
    check.mapError (·.move f) >>= finish' = moveStep f (check >>= finish) := by
  cases check with
  | error error => rfl
  | ok a => exact each a

theorem bind_name_move (token : Token) (expected : Expectation)
    {finish finish' : String → Except ParseError Partial}
    (each : ∀ name, finish' name = moveStep f (finish name)) :
    (token.move f).name expected >>= finish' = moveStep f (token.name expected >>= finish) := by
  rw [token.name_move]
  exact bind_move f each _

theorem bind_require_move (token : Token) (lexeme : Lexeme) (expected : Expectation)
    {finish finish' : Unit → Except ParseError Partial}
    (each : ∀ seen, finish' seen = moveStep f (finish seen)) :
    (token.move f).require lexeme expected >>= finish' =
      moveStep f (token.require lexeme expected >>= finish) := by
  rw [token.require_move]
  exact bind_move f each _

theorem bind_value_move (token : Token) {finish finish' : Value → Except ParseError Partial}
    (each : ∀ value, finish' value = moveStep f (finish value)) :
    (token.move f).value >>= finish' = moveStep f (token.value >>= finish) := by
  rw [token.value_move]
  exact bind_move f each _

theorem addArgument_move (draft : Draft) (argument : String) (position : Position)
    (value : Value) :
    addArgument draft argument (f position) value =
      moveStep f (addArgument draft argument position value) := by
  unfold addArgument
  cases draft.arguments.insert argument value with
  | ok arguments => rfl
  | error error => rfl

theorem begin_move (token : Token) : begin (token.move f) = moveStep f (begin token) := by
  obtain ⟨lexeme, position⟩ := token
  cases lexeme with
  | _ => rfl

theorem feed_move (state : Partial) (token : Token) :
    (state.move f).feed (token.move f) = moveStep f (state.feed token) := by
  cases state with
  | parameterName => exact bind_name_move f token _ fun _ => rfl
  | parameterValue name => exact bind_value_move f token fun _ => rfl
  | sourcePort device => exact bind_name_move f token _ fun _ => rfl
  | arrow source => exact bind_require_move f token _ _ fun _ => rfl
  | destinationDevice source => exact bind_name_move f token _ fun _ => rfl
  | destinationColon source device => exact bind_require_move f token _ _ fun _ => rfl
  | destinationPort source device => exact bind_name_move f token _ fun _ => rfl
  | typeName name => exact bind_name_move f token _ fun _ => rfl
  | openParen name type => exact bind_require_move f token _ _ fun _ => rfl
  | argumentName draft => exact bind_name_move f token _ fun _ => rfl
  | argumentEquals draft argument position =>
    exact bind_require_move f token _ _ fun _ => rfl
  | argumentValue draft argument position =>
    exact bind_value_move f token (addArgument_move f draft argument position)
  | lineEnd command => rfl
  | _ =>
    obtain ⟨lexeme, position⟩ := token
    cases lexeme with
    | _ => rfl

theorem command?_move (state : Partial) : (state.move f).command? = state.command? := by
  cases state with
  | _ => rfl

theorem expects_move (state : Partial) : (state.move f).expects = state.expects := by
  cases state with
  | _ => rfl

end Partial

/-! ### Statements at other places -/

/-- Places are changed all in the same way, and nothing else. -/
def Translation.relocation : Translation where
  token := .move f
  lexical := .move f
  place := f
  state := .move f
  error := .move f
  lexeme_token _ := rfl
  position_token _ _ := rfl
  command?_state := Partial.command?_move f
  error_lexical _ := rfl
  error_end state position := by
    rw [state.expects_move]
    rfl
  begin_token token := by
    rw [Partial.begin_move]
    cases Partial.begin token with
    | _ => rfl
  feed_token state token := by
    rw [state.feed_move]
    cases state.feed token with
    | _ => rfl

/-- Parsing commutes with a change of all places. -/
theorem parse_move (items : List LexItem) :
    parse (items.map (moveItem f)) = (parse items).map (moveResult f) := by
  have items_move : (Translation.relocation f).item = moveItem f := by
    funext item
    cases item with
    | _ => rfl
  have results_move : (Translation.relocation f).result = moveResult f := by
    funext result
    cases result with
    | _ => rfl
  rw [← items_move, ← results_move]
  exact (Translation.relocation f).parse_item items

end Move

end ModularSynth
