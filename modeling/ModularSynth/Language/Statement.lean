import ModularSynth.Device.Arguments
import ModularSynth.Language.Token
import ModularSynth.Number.Numeral

/-!
# Statements of the patch language

A statement sets a parameter, creates a device or connects two ports. `Token.value` reads the
value that a token denotes; `ParseError` lists why tokens may fail to form statements.
-/

namespace ModularSynth

/-- A port in a patch description: the variable of a device and the name of the port. -/
structure Endpoint where
  device : String
  port : String
  deriving DecidableEq, Repr

/-- What a statement asks for. -/
inductive Command where
  /-- `@name value` -/
  | parameter (name : String) (value : Value)
  /-- `name = typeName(argument=value, ...)` -/
  | create (name typeName : String) (arguments : Arguments)
  /-- `device:port -> device:port` -/
  | connect (source destination : Endpoint)
  deriving DecidableEq

/-- A command and the place of its first token. -/
structure Statement where
  command : Command
  position : Position
  deriving DecidableEq

def Statement.line (statement : Statement) : Nat := statement.position.line

/-- What may come next at some point of a statement. -/
inductive Expectation where
  | statement | operator | parameterName | value | colon | equals | portName | arrow
  | variableName | typeName | openParen | argumentName | argumentEnd | lineEnd
  deriving DecidableEq, Repr

def Expectation.label : Expectation → String
  | statement => "'@' or identifier"
  | operator => "':' or '='"
  | parameterName => "parameter name"
  | value => "value"
  | colon => "':'"
  | equals => "'='"
  | portName => "port name"
  | arrow => "'->'"
  | variableName => "variable name"
  | typeName => "component type"
  | openParen => "'('"
  | argumentName => "argument name"
  | argumentEnd => "',' or ')'"
  | lineEnd => "end of line"

/-- Why tokens do not form a statement. -/
inductive GrammarFault where
  | unexpectedToken (expected : Expectation) (found : TokenKind)
  | unexpectedEnd (expected : Expectation)
  | invalidNumber (literal : String)
  | duplicateArgument (name : String)
  deriving DecidableEq, Repr

def GrammarFault.message : GrammarFault → String
  | unexpectedToken expected found => s!"expected {expected.label}, found {found.label}"
  | unexpectedEnd expected => s!"expected {expected.label}, found end of input"
  | invalidNumber literal => s!"invalid number '{literal}'"
  | duplicateArgument name => s!"argument '{name}' given more than once"

/-- A lexical error in the way of a statement, or a fault of the statement itself. -/
inductive ParseError where
  | lexical (error : LexError)
  | malformed (fault : GrammarFault) (position : Position)
  deriving DecidableEq, Repr

namespace ParseError

def position : ParseError → Position
  | lexical error => error.position
  | malformed _ position => position

def message : ParseError → String
  | lexical error => error.message
  | malformed fault position => s!"{position.display}: {fault.message}"

end ParseError

/-- Equality of texts up to the case of ASCII letters. -/
def equalsIgnoringCase (s t : String) : Bool :=
  s.toList.map Char.toLower = t.toList.map Char.toLower

namespace Lexeme

/-- The truth value of `true` or `false` in any case; any other name stands for itself. -/
def valueOfName (name : String) : Value :=
  if equalsIgnoringCase name "true" then .bool true
  else if equalsIgnoringCase name "false" then .bool false
  else .text name

/-- A literal with a point is a float, one without is an integer. -/
def valueOfNumber? (literal : String) : Option Value :=
  if literal.toList.contains '.' then (readFloat literal).map .float
  else (readInteger literal).map .integer

end Lexeme

namespace Token

/-- The error that something else was expected in place of this token. -/
def refuse (token : Token) (expected : Expectation) : ParseError :=
  .malformed (.unexpectedToken expected token.kind) token.position

/-- The value that a token denotes. Symbols denote none, nor do integers out of range. -/
def value (token : Token) : Except ParseError Value :=
  match token.lexeme with
  | .identifier name => .ok (Lexeme.valueOfName name)
  | .quoted text => .ok (.text text)
  | .number literal =>
    match Lexeme.valueOfNumber? literal with
    | some value => .ok value
    | none => .error (.malformed (.invalidNumber literal) token.position)
  | _ => .error (token.refuse .value)

/-- The name that an identifier says. -/
def name (token : Token) (expected : Expectation) : Except ParseError String :=
  match token.lexeme with
  | .identifier name => .ok name
  | _ => .error (token.refuse expected)

/-- Succeeds on one lexeme only. -/
def require (token : Token) (lexeme : Lexeme) (expected : Expectation) :
    Except ParseError Unit :=
  if token.lexeme = lexeme then .ok () else .error (token.refuse expected)

end Token

end ModularSynth
