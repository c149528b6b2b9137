import WireHeaders.Toml.Value

/-!
# Tables that grow

A configuration text builds its tables line by line.  Which lines may add to a table depends on
how the table came into being.

## Main definitions

* `Toml.Node` and `Toml.Table` — a table while it is built
* `Toml.Table.alter` — a change somewhere below a table
* `Toml.Table.assign` — a value under a key
* `Toml.Table.entries` — the finished table
-/

namespace WireHeaders.Toml

mutual

/-- **What stands under a name.**  A value is closed once and for all, a table may be opened again
on certain terms, and an array of tables takes one more table with each header. -/
inductive Node where
  | value (v : Value)
  | table (t : Table)
  /-- An array of tables, last one first. -/
  | tables (latest : Table) (earlier : List Table)

/-- **A table while it is built.**  How it came into being says who may add to it: a header may
only open what was named on the way to another table, and a dotted key only adds to what dotted
keys have made. -/
inductive Table where
  /-- A table: whether it was only named on the way to another one, whether that was in a dotted
  key, and its entries in order. -/
  | mk (implicit dotted : Bool) (nodes : List (String × Node))

end

namespace Table

/-- A table that a header or an assignment stands for. -/
def explicit : Table := .mk false false []

instance : Inhabited Table := ⟨explicit⟩

/-- Whether the table was only named on the way to another one. -/
def implicit : Table → Bool
  | mk implicit _ _ => implicit

def dotted : Table → Bool
  | mk _ dotted _ => dotted

def nodes : Table → List (String × Node)
  | mk _ _ nodes => nodes

def withNodes : Table → List (String × Node) → Table
  | mk implicit dotted _, nodes => mk implicit dotted nodes

def node? (t : Table) (name : String) : Option Node :=
  (t.nodes.find? (fun e => e.1 == name)).map Prod.snd

/-- Puts something under a name, at the end unless the name is there. -/
def put (t : Table) (name : String) (node : Node) : Table :=
  t.withNodes <|
    if t.nodes.any (fun e => e.1 == name) then
      t.nodes.map fun e => if e.1 == name then (name, node) else e
    else t.nodes ++ [(name, node)]

def erase (t : Table) (name : String) : Table :=
  t.withNodes (t.nodes.filter fun e => e.1 != name)

/-- **A change below a table**, at the end of a row of names.  Missing tables are made on the way.
The way leads through the latest table of an array, but not through values, and a dotted key may
not lead through a table that has a header. -/
def alter {α : Type} (dotted : Bool) (change : Table → Option (α × Table)) :
    List String → Table → Option (α × Table)
  | [], t => change t
  | name :: rest, t =>
    match t.node? name with
    | none => do
      let (x, inner) ← alter dotted change rest (.mk true dotted [])
      return (x, t.put name (.table inner))
    | some (.value _) => none
    | some (.tables latest earlier) => do
      let (x, inner) ← alter dotted change rest latest
      return (x, t.put name (.tables inner earlier))
    | some (.table inner) => do
      if dotted && !inner.implicit then none
      let (x, inner) ← alter dotted change rest inner
      return (x, t.put name (.table inner))

def add (name : String) (v : Value) (t : Table) : Option Table :=
  if (t.node? name).isSome then none else some (t.put name (.value v))

/-- **A value under a key.**  A dotted key may only add to tables that dotted keys have made. -/
def assign (path : List String) (v : Value) (t : Table) : Option Table :=
  match path.getLast? with
  | none => none
  | some name =>
    let way := path.dropLast
    (alter true (fun inner =>
      -- A name without dots stays in the table of its header; a dotted key leads to one of its own.
      if inner.dotted = way.isEmpty then none else (inner.add name v).map fun t => ((), t))
      way t).map Prod.snd

end Table

mutual

def Node.toValue : Node → Value
  | .value v => v
  | .table t => .table t.entries
  | .tables latest earlier => .array (tableValues earlier ++ [.table latest.entries])

/-- **The entries of a finished table.**  How its parts came into being is forgotten, so a table
under a header and one in a line may give the same value. -/
def Table.entries : Table → List (String × Value)
  | .mk _ _ nodes => nodeEntries nodes

def nodeEntries : List (String × Node) → List (String × Value)
  | [] => []
  | (name, node) :: rest => (name, node.toValue) :: nodeEntries rest

/-- The values of tables that are kept last one first. -/
def tableValues : List Table → List Value
  | [] => []
  | t :: rest => tableValues rest ++ [.table t.entries]

end

end WireHeaders.Toml
