import ModularSynth.Language.Position
import ModularSynth.Text.Quoted

/-!
# Tokens of the patch language

A `Lexeme` is what a token says, a `Token` also where it says it. Symbols have one spelling each;
identifiers, numbers and quoted texts carry theirs. `LexError` lists how a text can fail to be a
sequence of tokens.
-/

namespace ModularSynth

inductive TokenKind where
  | atSign | openParen | closeParen | equals | colon | comma | arrow
  | identifier | number | quoted | newline
  deriving DecidableEq, Repr

/-- The words for a kind of token in messages. -/
def TokenKind.label : TokenKind → String
  | atSign => "'@'"
  | openParen => "'('"
  | closeParen => "')'"
  | equals => "'='"
  | colon => "':'"
  | comma => "','"
  | arrow => "'->'"
  | identifier => "identifier"
  | number => "number"
  | quoted => "string"
  | newline => "end of line"

/-- What a token says. The text of a quoted lexeme excludes its quotes. -/
inductive Lexeme where
  | atSign | openParen | closeParen | equals | colon | comma | arrow | newline
  | identifier (name : String)
  | number (digits : String)
  | quoted (text : String)
  deriving DecidableEq, Repr

namespace Lexeme

def kind : Lexeme → TokenKind
  | atSign => .atSign
  | openParen => .openParen
  | closeParen => .closeParen
  | equals => .equals
  | colon => .colon
  | comma => .comma
  | arrow => .arrow
  | newline => .newline
  | identifier _ => .identifier
  | number _ => .number
  | quoted _ => .quoted

/-- The literal of a lexeme: its spelling, except for the quotes around a text. -/
def literal : Lexeme → String
  | atSign => "@"
  | openParen => "("
  | closeParen => ")"
  | equals => "="
  | colon => ":"
  | comma => ","
  | arrow => "->"
  | newline => "\n"
  | identifier name => name
  | number digits => digits
  | quoted text => text

/-- The lexeme as it is shown in messages: the kind, and the literal where it is not fixed. -/
def label (lexeme : Lexeme) : String :=
  match lexeme with
  | identifier _ | number _ | quoted _ => s!"{lexeme.kind.label} '{lexeme.literal}'"
  | _ => lexeme.kind.label

end Lexeme

/-- A lexeme and the place of its first character. -/
structure Token where
  lexeme : Lexeme
  position : Position
  deriving DecidableEq, Repr

namespace Token

def kind (token : Token) : TokenKind := token.lexeme.kind

def display (token : Token) : String :=
  s!"{token.lexeme.label} at {token.position.display}"

end Token

/-- Why a text is not a sequence of tokens. -/
inductive LexFault where
  | unexpectedCharacter (c : Char)
  /-- A second point in a number; the literal is what stands before it. -/
  | malformedNumber (literal : String)
  | unterminatedText
  deriving DecidableEq, Repr

/-- A fault and its place: that of the first character of the failed token, or that of the second
point of a number. -/
structure LexError where
  fault : LexFault
  position : Position
  deriving DecidableEq, Repr

/-- The text of a fault without its place. -/
def LexFault.message : LexFault → String
  | unexpectedCharacter c => s!"unexpected character {Text.quoted c}"
  | malformedNumber literal => s!"too many '.' in number '{literal}'"
  | unterminatedText => "unterminated string"

/-- The text shown for a lexical error. -/
def LexError.message (error : LexError) : String :=
  s!"{error.position.display}: {error.fault.message}"

end ModularSynth
