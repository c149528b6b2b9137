import WireHeaders.Tree.Declaration

/-!
# Types that may be exported

Structs and enums under one roof, and the two directions in which they may be exported.

## Main definitions

* `Direction` and `Direction.tag` — writing and reading back, and the metadata key for each
* `DeclKind`, `TypeDecl` — a struct or an enum
* `Metadata.allows`, `Metadata.isExported` — the directions that metadata asks for
-/

namespace WireHeaders

/-- **What a serializer is for.**  Types are collected for both directions at once, and a header is
made for one of them. -/
inductive Direction where
  /-- Writing values. -/
  | serialize
  /-- Reading values back. -/
  | deserialize
  deriving DecidableEq, Repr

/-- The metadata key that asks for a direction. -/
def Direction.tag : Direction → String
  | serialize => Key.serialize
  | deserialize => Key.deserialize

/-- Whether metadata asks for a direction. -/
def Metadata.allows (m : Metadata) (direction : Direction) : Bool := m.has direction.tag

/-- Whether metadata asks for any direction. -/
def Metadata.isExported (m : Metadata) : Bool := m.allows .serialize || m.allows .deserialize

inductive DeclKind where
  | struct
  | enum
  deriving DecidableEq, Repr

def DeclKind.word : DeclKind → String
  | struct => "struct"
  | enum => "enum"

/-- **A struct or an enum**, without what is declared inside it.  From where it was met on, the two
are treated alike. -/
inductive TypeDecl where
  | struct (decl : StructDecl)
  | enum (decl : EnumDecl)
  deriving DecidableEq

namespace TypeDecl

def kind : TypeDecl → DeclKind
  | struct _ => .struct
  | enum _ => .enum

def name : TypeDecl → String
  | struct decl => decl.name
  | enum decl => decl.name

def source : TypeDecl → String
  | struct decl => decl.source
  | enum decl => decl.source

def metadata : TypeDecl → Metadata
  | struct decl => decl.metadata
  | enum decl => decl.metadata

end TypeDecl

end WireHeaders
