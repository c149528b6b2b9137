import WireHeaders.Path
import WireHeaders.Tree.Metadata

/-!
# Declaration trees

What a host hands over: source units by id, and scopes with a tree of declarations each.

## Main definitions

* `Field`, `StructDecl`, `Enumerator`, `EnumDecl` — types and what they consist of
* `Declaration` — a container, a struct or an enum, with what is nested in it
* `SourceTable` — the files that ids stand for
* `Scope` and `DeclarationTree` — a module with its root declaration, and everything together
-/

namespace WireHeaders

/-- **A field of a struct.**  It has no type, since no line of a serializer depends on one. -/
structure Field where
  /-- The identifier, which is also how the member is accessed. -/
  name : String
  metadata : Metadata
  deriving DecidableEq

/-- **A struct**, without what is declared inside it: that belongs to its node in the tree. -/
structure StructDecl where
  name : String
  /-- The id of the source unit. -/
  source : String
  metadata : Metadata
  /-- The fields, in order. -/
  fields : List Field
  deriving DecidableEq

/-- **An enumerator.**  It has no metadata of its own; what is said of it stands in the metadata of
its enum, under its number. -/
structure Enumerator where
  /-- The identifier, which may be qualified. -/
  name : String
  /-- The number, which is also the index of the enumerator's own metadata. -/
  ordinal : Int64
  deriving DecidableEq

/-- **An enum.**  Renames of its enumerators stand in its own metadata, by their numbers. -/
structure EnumDecl where
  name : String
  /-- The id of the source unit. -/
  source : String
  metadata : Metadata
  /-- The enumerators, in order. -/
  values : List Enumerator
  deriving DecidableEq

/-- A struct without metadata and fields. -/
def StructDecl.named (name source : String) : StructDecl := ⟨name, source, .empty, []⟩

/-- An enum without metadata and enumerators. -/
def EnumDecl.named (name source : String) : EnumDecl := ⟨name, source, .empty, []⟩

/-- **A node of a declaration tree.**  Enums are always leaves, while containers and structs may
hold anything, to any depth. -/
inductive Declaration where
  /-- A package, a namespace or a class. -/
  | container (name : String) (children : List Declaration)
  /-- A struct and what is declared inside it. -/
  | struct (decl : StructDecl) (children : List Declaration)
  | enum (decl : EnumDecl)

namespace Declaration

instance : Inhabited Declaration := ⟨.container "" []⟩

def name : Declaration → String
  | container name _ => name
  | struct decl _ => decl.name
  | enum decl => decl.name

def children : Declaration → List Declaration
  | container _ children => children
  | struct _ children => children
  | enum _ => []

mutual

def decideEq : (d e : Declaration) → Decidable (d = e)
  | .container n ds, .container m es =>
    match decEq n m, decideEqList ds es with
    | isTrue h, isTrue h' => isTrue (by rw [h, h'])
    | isFalse h, _ => isFalse fun e => h (by injection e)
    | _, isFalse h => isFalse fun e => h (by injection e)
  | .struct s ds, .struct t es =>
    match decEq s t, decideEqList ds es with
    | isTrue h, isTrue h' => isTrue (by rw [h, h'])
    | isFalse h, _ => isFalse fun e => h (by injection e)
    | _, isFalse h => isFalse fun e => h (by injection e)
  | .enum s, .enum t =>
    match decEq s t with
    | isTrue h => isTrue (by rw [h])
    | isFalse h => isFalse fun e => h (by injection e)
  | .container _ _, .struct _ _ | .container _ _, .enum _ => isFalse nofun
  | .struct _ _, .container _ _ | .struct _ _, .enum _ => isFalse nofun
  | .enum _, .container _ _ | .enum _, .struct _ _ => isFalse nofun

/-- Equality of lists of declarations can be decided. -/
def decideEqList : (ds es : List Declaration) → Decidable (ds = es)
  | [], [] => isTrue rfl
  | [], _ :: _ => isFalse nofun
  | _ :: _, [] => isFalse nofun
  | d :: ds, e :: es =>
    match decideEq d e, decideEqList ds es with
    | isTrue h, isTrue h' => isTrue (by rw [h, h'])
    | isFalse h, _ => isFalse fun e => h (by injection e)
    | _, isFalse h => isFalse fun e => h (by injection e)

end

instance : DecidableEq Declaration := decideEq

end Declaration

/-- **The files that ids stand for.**  An id that is not in the table is no fault of the tree as
long as nothing with it asks to be exported. -/
abbrev SourceTable := SortedMap String Path

/-- **A module** and its root declaration.  The root is a declaration like any other, so a scope
may consist of one type. -/
structure Scope where
  name : String
  /-- Whether the module belongs to the platform and not to the user. -/
  external : Bool
  root : Declaration
  deriving DecidableEq

/-- **Everything that a host hands over.**  It is plain data, and any such data is a tree: names
may repeat and ids may be unknown. -/
structure DeclarationTree where
  sources : SourceTable
  scopes : List Scope
  deriving DecidableEq

/-- The scopes that belong to the user. -/
def DeclarationTree.ownedScopes (tree : DeclarationTree) : List Scope :=
  tree.scopes.filter (fun s => !s.external)

/-- The scopes that belong to the platform. -/
def DeclarationTree.externalScopes (tree : DeclarationTree) : List Scope :=
  tree.scopes.filter (fun s => s.external)

end WireHeaders
