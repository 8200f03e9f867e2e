import ModularSynth.Language.Scan
import ModularSynth.Language.Statement

/-!
# From tokens to statements

Statements stand one to a line:

    statement = "@" NAME value
              | NAME ":" NAME "->" NAME ":" NAME
              | NAME "=" NAME "(" [ argument { "," argument } ] ")"
    argument  = NAME "=" value
    value     = NAME | NUMBER | TEXT

`Partial` is the part of a statement that has been read. `Partial.feed` extends it by one token
and `Partial.expects` says what may come next, so an error is raised by the first token that does
not fit. `readStatement` reads one statement and hands back the tokens after it.
-/

namespace ModularSynth

/-- A device whose arguments are being read. -/
structure Draft where
  name : String
  typeName : String
  arguments : Arguments
  deriving DecidableEq

/-- A statement that has been read in part, told by what has to come next. -/
inductive Partial where
  | parameterName
  | parameterValue (name : String)
  | operator (name : String)
  | sourcePort (device : String)
  | arrow (source : Endpoint)
  | destinationDevice (source : Endpoint)
  | destinationColon (source : Endpoint) (device : String)
  | destinationPort (source : Endpoint) (device : String)
  | typeName (name : String)
  | openParen (name typeName : String)
  | firstArgument (name typeName : String)
  | argumentName (draft : Draft)
  | argumentEquals (draft : Draft) (argument : String) (position : Position)
  | argumentValue (draft : Draft) (argument : String) (position : Position)
  | argumentEnd (draft : Draft)
  | lineEnd (command : Command)
  deriving DecidableEq

namespace Partial

/-- What has to come next. -/
def expects : Partial → Expectation
  | parameterName => .parameterName
  | parameterValue _ => .value
  | operator _ => .operator
  | sourcePort _ => .portName
  | arrow _ => .arrow
  | destinationDevice _ => .variableName
  | destinationColon _ _ => .colon
  | destinationPort _ _ => .portName
  | typeName _ => .typeName
  | openParen _ _ => .openParen
  | firstArgument _ _ => .argumentName
  | argumentName _ => .argumentName
  | argumentEquals _ _ _ => .equals
  | argumentValue _ _ _ => .value
  | argumentEnd _ => .argumentEnd
  | lineEnd _ => .lineEnd

/-- The command, when nothing of it is missing. -/
def command? : Partial → Option Command
  | lineEnd command => some command
  | _ => none

def finished (draft : Draft) : Partial :=
  lineEnd (.create draft.name draft.typeName draft.arguments)

/-- Adds an argument to a device; a name that it has already is an error at that name. -/
def addArgument (draft : Draft) (argument : String) (position : Position) (value : Value) :
    Except ParseError Partial :=
  match draft.arguments.insert argument value with
  | .ok arguments => .ok (argumentEnd { draft with arguments })
  | .error _ => .error (.malformed (.duplicateArgument argument) position)

/-- The beginning of a statement with its first token. -/
def begin (token : Token) : Except ParseError Partial :=
  match token.lexeme with
  | .atSign => .ok parameterName
  | .identifier name => .ok (operator name)
  | _ => .error (token.refuse .statement)

/-- A statement with one more token. -/
def feed (state : Partial) (token : Token) : Except ParseError Partial :=
  match state with
  | parameterName => do return parameterValue (← token.name .parameterName)
  | parameterValue name => do return lineEnd (.parameter name (← token.value))
  | operator name =>
    match token.lexeme with
    | .colon => .ok (sourcePort name)
    | .equals => .ok (typeName name)
    | _ => .error (token.refuse .operator)
  | sourcePort device => do return arrow ⟨device, ← token.name .portName⟩
  | arrow source => do
    token.require .arrow .arrow
    return destinationDevice source
  | destinationDevice source => do return destinationColon source (← token.name .variableName)
  | destinationColon source device => do
    token.require .colon .colon
    return destinationPort source device
  | destinationPort source device => do
    return lineEnd (.connect source ⟨device, ← token.name .portName⟩)
  | typeName name => do return openParen name (← token.name .typeName)
  | openParen name device => do
    token.require .openParen .openParen
    return firstArgument name device
  | firstArgument name device =>
    let draft := ⟨name, device, .empty⟩
    match token.lexeme with
    | .closeParen => .ok (finished draft)
    | _ => do return argumentEquals draft (← token.name .argumentName) token.position
  | argumentName draft => do
    return argumentEquals draft (← token.name .argumentName) token.position
  | argumentEquals draft argument position => do
    token.require .equals .equals
    return argumentValue draft argument position
  | argumentValue draft argument position => do
    addArgument draft argument position (← token.value)
  | argumentEnd draft =>
    match token.lexeme with
    | .comma => .ok (argumentName draft)
    | .closeParen => .ok (finished draft)
    | _ => .error (token.refuse .argumentEnd)
  | lineEnd _ => .error (token.refuse .lineEnd)

end Partial

/-- The outcome of reading one statement, with the items after it. -/
inductive ParseResult where
  | finished
  | statement (statement : Statement) (rest : List LexItem)
  | failed (error : ParseError) (rest : List LexItem)

/-- Reads on in a statement that began at `first` and whose last token stood at `last`. -/
def continueStatement (first : Position) (state : Partial) (last : Position) :
    List LexItem → ParseResult
  | [] =>
    match state.command? with
    | some command => .statement ⟨command, first⟩ []
    | none => .failed (.malformed (.unexpectedEnd state.expects) last) []
  | .error error :: rest => .failed (.lexical error) rest
  | .ok token :: rest =>
    match state.command?, token.lexeme with
    | some command, .newline => .statement ⟨command, first⟩ rest
    | _, _ =>
      match state.feed token with
      | .ok state => continueStatement first state token.position rest
      | .error error => .failed error rest

/-- Reads one statement with the line end after it; blank lines before it are skipped. -/
def readStatement : List LexItem → ParseResult
  | [] => .finished
  | .error error :: rest => .failed (.lexical error) rest
  | .ok token :: rest =>
    if token.lexeme = .newline then readStatement rest
    else
      match Partial.begin token with
      | .ok state => continueStatement token.position state token.position rest
      | .error error => .failed error rest

namespace ParseResult

/-- The items that are left. -/
def rest : ParseResult → List LexItem
  | finished => []
  | statement _ rest => rest
  | failed _ rest => rest

end ParseResult

theorem length_rest_continueStatement (first : Position) (state : Partial) (last : Position)
    (items : List LexItem) :
    (continueStatement first state last items).rest.length ≤ items.length := by
  induction items generalizing state last with
  | nil =>
    simp only [continueStatement]
    split <;> simp [ParseResult.rest]
  | cons item items ih =>
    cases item with
    | error error => simp [continueStatement, ParseResult.rest]
    | ok token =>
      simp only [continueStatement]
      split
      · simp [ParseResult.rest]
      · split
        next state _ =>
          have h := ih state token.position
          simp only [List.length_cons]
          omega
        next => simp [ParseResult.rest]

/-- Reading a statement uses up at least one item, unless none is left to be read. -/
theorem length_rest_readStatement (items : List LexItem) :
    readStatement items = .finished ∨ (readStatement items).rest.length < items.length := by
  induction items with
  | nil => exact .inl rfl
  | cons item items ih =>
    cases item with
    | error error => exact .inr (by simp [readStatement, ParseResult.rest])
    | ok token =>
      simp only [readStatement]
      split
      · rcases ih with h | h
        · exact .inl h
        · exact .inr (by simp only [List.length_cons]; omega)
      · right
        split
        next state _ =>
          have h := length_rest_continueStatement token.position state token.position items
          simp only [List.length_cons]
          omega
        next => simp [ParseResult.rest]

/-- The statements of a list of tokens up to the first error, which is the last item. -/
def parse (items : List LexItem) : List (Except ParseError Statement) :=
  match _h : readStatement items with
  | .finished => []
  | .statement statement rest => .ok statement :: parse rest
  | .failed error _ => [.error error]
termination_by items.length
decreasing_by
  have hrest := length_rest_readStatement items
  rw [_h] at hrest
  simpa [ParseResult.rest] using hrest

/-- The statements of a text up to the first error. -/
def parseText (text : String) : List (Except ParseError Statement) :=
  parse (tokens text)

end ModularSynth
