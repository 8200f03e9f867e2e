/-!
# Tables of a TOML document

A document is a table of tables. A table may be opened by a header once; headers below it and
dotted keys open it implicitly. What may still be added to a table depends on how it was opened:
a header may complete a table that only headers below it have opened, and dotted keys may extend
a table that only dotted keys have opened.
-/

namespace ModularSynth.Toml

/-- A value. Only integers are ever asked for, so of the others the kind is kept. -/
inductive Datum where
  | integer (n : Int64)
  | text | boolean | float | moment | array | inlineTable
  deriving DecidableEq, Repr

mutual

/-- What stands under a key. Of an array of tables only the last can still be added to. -/
inductive Node where
  | datum (value : Datum)
  | table (table : Table)
  | tables (last : Table)

/-- A table: whether it was opened implicitly, whether that was by a dotted key, and its entries
in the order of their first mention. -/
inductive Table where
  | mk (implicit dotted : Bool) (entries : List (String × Node))

end

namespace Table

/-- A table that a header opened. -/
def empty : Table := .mk false false []

/-- A table that is opened on the way to another. -/
def between (dotted : Bool) : Table := .mk true dotted []

def implicit : Table → Bool
  | mk implicit _ _ => implicit

def dotted : Table → Bool
  | mk _ dotted _ => dotted

def entries : Table → List (String × Node)
  | mk _ _ entries => entries

def find? (table : Table) (key : String) : Option Node :=
  table.entries.lookup key

/-- Puts a node under a key, in the place of the one that is there. -/
def set (table : Table) (key : String) (node : Node) : Table :=
  let entries :=
    if table.entries.any (·.1 == key) then
      table.entries.map fun entry => if entry.1 == key then (key, node) else entry
    else table.entries ++ [(key, node)]
  .mk table.implicit table.dotted entries

/-- The table as a header leaves it that opens it. -/
def opened (table : Table) : Table := .mk false false table.entries

/-- Changes the table at the end of a path, opening the tables on the way. Dotted keys do not
enter tables that a header has opened; nothing enters a value. -/
def modifyAt (dotted : Bool) (change : Table → Option Table) : List String → Table → Option Table
  | [], table => change table
  | key :: path, table =>
    match table.find? key with
    | none => do
      let child ← modifyAt dotted change path (between dotted)
      return table.set key (.table child)
    | some (.datum _) => none
    | some (.tables last) => do
      let last ← modifyAt dotted change path last
      return table.set key (.tables last)
    | some (.table child) =>
      if dotted && !child.implicit then none
      else do
        let child ← modifyAt dotted change path child
        return table.set key (.table child)

/-- Adds a value under a dotted key, given as the path to its last part and that part. -/
def insert (path : List String) (key : String) (value : Datum) (table : Table) : Option Table :=
  table.modifyAt true
    (fun target =>
      if target.dotted == path.isEmpty || (target.find? key).isSome then none
      else some (target.set key (.datum value)))
    path

/-- Opens a table by a header. It may exist already if only headers below it have opened it. -/
def openTable (path : List String) (key : String) (table : Table) : Option Table :=
  table.modifyAt false
    (fun parent =>
      match parent.find? key with
      | none => some (parent.set key (.table empty))
      | some (.table child) =>
        if child.implicit && !child.dotted then some (parent.set key (.table child.opened))
        else none
      | some _ => none)
    path

/-- Opens one more table of an array of tables by a header. -/
def openElement (path : List String) (key : String) (table : Table) : Option Table :=
  table.modifyAt false
    (fun parent =>
      match parent.find? key with
      | none | some (.tables _) => some (parent.set key (.tables empty))
      | some _ => none)
    path

end Table

end ModularSynth.Toml
