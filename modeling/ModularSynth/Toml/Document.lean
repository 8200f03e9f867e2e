import ModularSynth.Toml.Scalar

/-!
# TOML documents

Keys, arrays, inline tables, headers and lines of TOML 1.0. `Table.ofText?` reads a document and
yields nothing where it is malformed. Values nest at most 79 deep and keys have at most 79 parts.
-/

namespace ModularSynth.Toml

open Reader

/-- The bound on nested values and on the parts of a key. -/
def nestingLimit : Nat := 79

/-- Characters of keys without quotes. -/
def isBareKeyCharacter (c : Char) : Bool :=
  c.isAlphanum || c = '_' || c = '-'

def bareKey : Reader String := do
  let first ← satisfy isBareKeyCharacter
  let rest ← span isBareKeyCharacter
  return String.ofList (first :: rest)

/-- A key of one or more parts: the path to its last part, and that part. -/
def key : Reader (List String × String) := do
  let parts ← separated
    (do
      spaces
      let part ← basicText <|> literalText <|> bareKey
      spaces
      return part)
    (char '.')
  match parts.getLast? with
  | some last => if parts.length ≤ nestingLimit then return (parts.dropLast, last) else failure
  | none => failure

/-- Values between brackets; line breaks and comments may stand anywhere, and a comma may follow
the last value. -/
def array (value : Reader Datum) : Reader Datum := do
  char '['
  let _ ← optional (do
    let _ ← separated (do trivia; let _ ← value; trivia) (char ',')
    optional (char ','))
  trivia
  char ']'
  return .array

/-- A key, an equals sign and a value, with what follows the value. -/
def keyValue (value : Reader Datum) : Reader ((List String × String) × Datum) := do
  let key ← key
  char '='
  spaces
  let value ← value
  return (key, value)

/-- Keys and values between braces on one line; no comma follows the last. -/
def inlineTable (value : Reader Datum) : Reader Datum := do
  char '\x7b'
  let pairs ← optional (separated (do let pair ← keyValue value; spaces; return pair) (char ','))
  spaces
  char '\x7d'
  let table := (pairs.getD []).foldlM
    (fun table ((path, key), value) => table.insert path key value) Table.empty
  if table.isSome then return .inlineTable else failure

/-- A value in which values nest at most so deep. -/
def value : Nat → Reader Datum
  | 0 => scalar
  | depth + 1 => scalar <|> array (value depth) <|> inlineTable (value depth)

/-- A document that has been read in part: its tables, and the path of the table that the last
header opened. -/
structure Draft where
  root : Table := .empty
  current : List String := []

/-- Fails where an addition to the tables was refused. -/
def accept {α : Type} : Option α → Reader α
  | some a => pure a
  | none => failure

/-- A header of an element of an array of tables, or of a table. -/
def header (draft : Draft) : Reader Draft :=
  (do
    word "[["
    let (path, key) ← key
    word "]]"
    lineEnd
    let root ← accept (draft.root.openElement path key)
    return { root, current := path ++ [key] }) <|>
  (do
    char '['
    let (path, key) ← key
    char ']'
    lineEnd
    let root ← accept (draft.root.openTable path key)
    return { root, current := path ++ [key] })

/-- A line with a key and a value. -/
def assignment (draft : Draft) : Reader Draft := do
  let ((path, key), value) ← keyValue (value nestingLimit)
  lineEnd
  let root ← accept (draft.root.modifyAt false (·.insert path key value) draft.current)
  return { draft with root }

/-- One line of a document, from its first character that is not white space. -/
def line (draft : Draft) : Reader Draft := do
  match ← peek? with
  | some '#' =>
    comment
    newline <|> endOfText
    return draft
  | some '[' => header draft
  | some '\n' | some '\r' =>
    newline
    return draft
  | _ => assignment draft

/-- The lines up to the end of the text; each takes at least one character. -/
def lines : Nat → Draft → Reader Draft
  | 0, _ => failure
  | bound + 1, draft => do
    spaces
    match ← peek? with
    | none => return draft
    | some _ =>
      let draft ← line draft
      lines bound draft

/-- The tables of a document. A byte order mark may stand in front of it. -/
def Table.ofText? (text : String) : Option Table :=
  let cs := match text.toList with
    | '\ufeff' :: cs => cs
    | cs => cs
  ((lines (cs.length + 1) {}).run cs).map (·.1.root)

end ModularSynth.Toml
