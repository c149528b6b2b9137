import WireHeaders.Toml.Scalar
import WireHeaders.Toml.Table

/-!
# Configuration texts

## Main definitions

* `Toml.value` — a value of any type
* `Toml.Line` and `Toml.lines` — the lines of a text
* `Toml.Builder` — the tables so far, and the one that lines add to
* `Toml.read?` — the table of a whole text

## Design notes

Lines are read first and then carried out.  A table that a header opens is built on its own and
put in its place when the next header opens, so the entries of the whole text stand in the order
of their headers.
-/

namespace WireHeaders.Toml

/-- A key, an equals sign and a value. -/
def assignment (value : Parser Value) : Parser (List String × Value) := do
  let path ← key
  sign '='
  blanks
  let v ← value
  blanks
  return (path, v)

/-- The items of an array, over any number of lines. -/
def arrayOf (value : Parser Value) : Parser Value := do
  sign '['
  let items ← separated do
    gap
    let v ← value
    gap
    return v
  if !items.isEmpty then
    let _ ← optional (sign ',')
  gap
  sign ']'
  return .array items

/-- A table within a line. -/
def tableOf (value : Parser Value) : Parser Value := do
  sign '\x7b'
  blanks
  let assignments ← separated (assignment value)
  blanks
  sign '\x7d'
  let table := assignments.foldlM (fun t a => Table.assign a.1 a.2 t) Table.explicit
  match table with
  | some t => return .table t.entries
  | none => failure

/-- **A value** with at most `depth` arrays and tables around each other.  A text that nests deeper
is refused like any other that is not well-formed. -/
def value : Nat → Parser Value
  | 0 => scalar
  | depth + 1 => scalar <|> arrayOf (value depth) <|> tableOf (value depth)

/-- **What a line says.**  Lines know nothing of each other, so whether a header may open its table
is found out when the lines are carried out. -/
inductive Line where
  | blank
  | assign (path : List String) (v : Value)
  /-- A header opens a table. -/
  | header (path : List String)
  /-- A header opens another table of an array. -/
  | item (path : List String)

def header : Parser Line := do
  sign '['
  let path ← key
  sign ']'
  return .header path

def itemHeader : Parser Line := do
  word ['[', '[']
  let path ← key
  word [']', ']']
  return .item path

/-- **A line**, without its end. -/
def line : Parser Line := do
  blanks
  let said ← optional <|
    itemHeader <|> header <|> do
      let (path, v) ← assignment (value maxNesting)
      return .assign path v
  blanks
  let _ ← optional comment
  return said.getD .blank

/-- **The lines of a text**, behind an optional mark of its encoding.  Together they must take up
all of the text. -/
def lines : Parser (List Line) := do
  let _ ← optional (sign '\uFEFF')
  let first ← line
  let rest ← many do
    newline
    line
  done
  return first :: rest

/-- **The tables so far.**  The table that a header opened is kept apart from the others, with the
place that it belongs to, until the next header comes. -/
structure Builder where
  root : Table
  /-- The table that lines add to. -/
  current : Table
  /-- Where it belongs; nothing for the root. -/
  path : List String
  /-- Whether it belongs to an array. -/
  isItem : Bool

namespace Builder

def initial : Builder := ⟨.explicit, .explicit, [], false⟩

/-- Adds a table to an array of tables. -/
def addItem (name : String) (item : Table) (t : Table) : Option (Unit × Table) :=
  match t.node? name with
  | none => some ((), t.put name (.tables item []))
  | some (.tables latest earlier) => some ((), t.put name (.tables item (latest :: earlier)))
  | some _ => none

/-- Puts a table in its place. -/
def addTable (name : String) (table : Table) (t : Table) : Option (Unit × Table) :=
  match t.node? name with
  | none => some ((), t.put name (.table table))
  | some (.table old) => if old.implicit then some ((), t.put name (.table table)) else none
  | some _ => none

/-- **Puts the current table in its place.**  Before the first header it is the root itself; any
other one goes to its place below the root, where a table may be in the way. -/
def close (b : Builder) : Option Table :=
  match b.path.getLast? with
  | none => some b.current
  | some name => do
    let change := if b.isItem then addItem name b.current else addTable name b.current
    let ((), root) ← Table.alter false change b.path.dropLast b.root
    return root

/-- Takes a table that was named before out of its place, to go on with it. -/
def reopen (name : String) (t : Table) : Option (Table × Table) :=
  match t.node? name with
  | none => some (.explicit, t)
  | some (.table old) =>
    if old.implicit && !old.dotted then some (.mk false false old.nodes, t.erase name) else none
  | some _ => none

/-- Makes sure that another table may be added to an array. -/
def openItem (name : String) (t : Table) : Option (Unit × Table) :=
  match t.node? name with
  | none | some (.tables _ _) => some ((), t)
  | some _ => none

/-- **One line.**  A header puts the current table in its place before it looks for its own, so it
sees all that stands above it. -/
def step (b : Builder) : Line → Option Builder
  | .blank => some b
  | .assign path v => do
    let current ← b.current.assign path v
    return { b with current := current }
  | .header path => do
    let root ← b.close
    let (current, root) ← Table.alter false (reopen (path.getLast?.getD "")) path.dropLast root
    return ⟨root, current, path, false⟩
  | .item path => do
    let root ← b.close
    let ((), root) ← Table.alter false (openItem (path.getLast?.getD "")) path.dropLast root
    return ⟨root, .explicit, path, true⟩

end Builder

/-- **The table of a whole text**, or nothing if the text is not well-formed.  Which line is wrong
is not told, since a configuration is refused as a whole. -/
def read? (text : String) : Option Value := do
  let (ls, _) ← lines text.toList
  let b ← ls.foldlM Builder.step Builder.initial
  let root ← b.close
  return .table root.entries

end WireHeaders.Toml
