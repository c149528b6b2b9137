import WireHeaders.Json.Value
import WireHeaders.Tree.Declaration

/-!
# Declaration trees as JSON

How the data of a tree is written.

## Main definitions

* `Metadata.toJson`, `Field.toJson`, `StructDecl.members`, `EnumDecl.members` — the parts
* `Declaration.toJson` — a declaration with its kind as the first member
* `Scope.toJson`, `SourceTable.toJson`, `DeclarationTree.toJson` — the whole

## Design notes

Members stand in the order of the fields.  Empty metadata and the empty content of a struct are
left out; all other empty lists are written.
-/

namespace WireHeaders

open Json (Value)

def stringMap (m : SortedMap String String) : Value :=
  .object (m.entries.map fun e => (e.1, .string e.2))

/-- A member that is left out when there is nothing in it. -/
def memberUnless (isEmpty : Bool) (name : String) (value : Value) : List (String × Value) :=
  if isEmpty then [] else [(name, value)]

def Metadata.toJson (m : Metadata) : Value :=
  .object
    (memberUnless m.entries.isEmpty "entries" (stringMap m.entries) ++
      memberUnless m.indexed.isEmpty "indexed"
        (.object (m.indexed.entries.map fun e => (e.1, stringMap e.2))))

/-- The metadata of a declaration, if there is any. -/
def Metadata.member (m : Metadata) : List (String × Value) :=
  memberUnless m.isEmpty "meta" m.toJson

def Field.toJson (f : Field) : Value := .object (("name", .string f.name) :: f.metadata.member)

def Enumerator.toJson (e : Enumerator) : Value :=
  .object [("name", .string e.name), ("value", .int e.ordinal.toInt)]

def EnumDecl.members (d : EnumDecl) : List (String × Value) :=
  [("name", .string d.name), ("source", .string d.source)] ++ d.metadata.member ++
    [("values", .array (d.values.map Enumerator.toJson))]

def EnumDecl.toJson (d : EnumDecl) : Value := .object d.members

/-- The members of a container, without those for its content. -/
def containerMembers (name : String) (children : List Value) : List (String × Value) :=
  [("name", .string name), ("children", .array children)]

/-- The members of a struct around its content. -/
def StructDecl.members (d : StructDecl) (children : List Value) : List (String × Value) :=
  [("name", .string d.name), ("source", .string d.source)] ++ d.metadata.member ++
    [("fields", .array (d.fields.map Field.toJson))] ++
    memberUnless children.isEmpty "children" (.array children)

namespace Declaration

mutual

/-- **A declaration**, with its kind as the first member and the members of its
content behind it. -/
def toJson : Declaration → Value
  | .container name children =>
    .object (("kind", .string "container") :: containerMembers name (listToJson children))
  | .struct decl children =>
    .object (("kind", .string "struct") :: decl.members (listToJson children))
  | .enum decl => .object (("kind", .string "enum") :: decl.members)

def listToJson : List Declaration → List Value
  | [] => []
  | d :: ds => toJson d :: listToJson ds

end

end Declaration

def Scope.toJson (s : Scope) : Value :=
  .object [("name", .string s.name), ("external", .bool s.external), ("root", s.root.toJson)]

def SourceTable.toJson (t : SourceTable) : Value :=
  .object (t.entries.map fun e => (e.1, .string e.2.text))

/-- **A declaration tree.**  Sources and scopes are written even if there are none, so what is
written can be read again. -/
def DeclarationTree.toJson (t : DeclarationTree) : Value :=
  .object [("sources", SourceTable.toJson t.sources), ("scopes", .array (t.scopes.map Scope.toJson))]

end WireHeaders
