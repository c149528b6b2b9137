import WireHeaders.Json.Decode
import WireHeaders.Tree.Declaration

/-!
# Declaration trees from JSON

What a JSON document must look like to be a tree, a declaration or a part of one.

## Main definitions

* `Metadata.shape`, `Field.shape`, `Enumerator.shape`, `StructContent.shape`, `EnumDecl.shape` — the
  fields of the parts
* `Declaration.decoder` — a declaration of any kind
* `Scope.shape`, `SourceTable.decoder`, `DeclarationTree.shape` — the whole

## Design notes

Each record is filled in a draft whose fields are optional.  The declarations nested in a record
are decoded by a decoder that the shape is given; `Declaration.decoderAt` passes itself, one level
down.
-/

namespace WireHeaders

open Json (Decoder Slot Shape required)

/-- A slot of a draft: its name, where it is kept, how it is stored, and what may stand in it. -/
def slot {σ τ : Type} (name : String) (get : σ → Option τ) (set : τ → σ → σ)
    (decoder : Decoder τ) : Slot σ where
  name := name
  given draft := (get draft).isSome
  fill reading document := do return set (← decoder reading document)

/-! ## Parts -/

structure MetadataDraft where
  entries : Option (SortedMap String String)
  indexed : Option (SortedMap String (SortedMap String String))

/-- **The fields of metadata**, both of which may be left out. -/
def Metadata.shape : Shape MetadataDraft Metadata where
  title := "struct MetaData"
  blank := ⟨none, none⟩
  slots :=
    [slot "entries" (·.entries) (fun x d => { d with entries := some x })
        (Json.dictionary Json.string),
      slot "indexed" (·.indexed) (fun x d => { d with indexed := some x })
        (Json.dictionary (Json.dictionary Json.string))]
  build d := .ok ⟨d.entries.getD .empty, d.indexed.getD .empty⟩

structure FieldDraft where
  name : Option String
  metadata : Option Metadata

def Field.shape : Shape FieldDraft Field where
  title := "struct FieldDecl"
  blank := ⟨none, none⟩
  slots :=
    [slot "name" (·.name) (fun x d => { d with name := some x }) Json.string,
      slot "meta" (·.metadata) (fun x d => { d with metadata := some x }) Metadata.shape.decode]
  build d := do return ⟨← required "name" d.name, d.metadata.getD .empty⟩

structure EnumeratorDraft where
  name : Option String
  ordinal : Option Int64

def Enumerator.shape : Shape EnumeratorDraft Enumerator where
  title := "struct EnumValueDecl"
  blank := ⟨none, none⟩
  slots :=
    [slot "name" (·.name) (fun x d => { d with name := some x }) Json.string,
      slot "value" (·.ordinal) (fun x d => { d with ordinal := some x }) Json.int64]
  build d := do return ⟨← required "name" d.name, ← required "value" d.ordinal⟩

/-! ## Declarations -/

structure EnumDraft where
  name : Option String
  source : Option String
  metadata : Option Metadata
  values : Option (List Enumerator)

/-- **The fields of an enum**, of which metadata and enumerators may be left out. -/
def EnumDecl.shape : Shape EnumDraft EnumDecl where
  title := "struct EnumDecl"
  blank := ⟨none, none, none, none⟩
  slots :=
    [slot "name" (·.name) (fun x d => { d with name := some x }) Json.string,
      slot "source" (·.source) (fun x d => { d with source := some x }) Json.string,
      slot "meta" (·.metadata) (fun x d => { d with metadata := some x }) Metadata.shape.decode,
      slot "values" (·.values) (fun x d => { d with values := some x })
        (Json.list Enumerator.shape.decode)]
  build d := do
    return ⟨← required "name" d.name, ← required "source" d.source, d.metadata.getD .empty,
      d.values.getD []⟩

/-- A struct together with what is declared inside it. -/
abbrev StructContent := StructDecl × List Declaration

structure StructDraft where
  name : Option String
  source : Option String
  metadata : Option Metadata
  fields : Option (List Field)
  children : Option (List Declaration)

/-- **The fields of a struct**, among them what is declared inside it.  Only its name and its
source must be given. -/
def StructContent.shape (declaration : Decoder Declaration) : Shape StructDraft StructContent where
  title := "struct StructDecl"
  blank := ⟨none, none, none, none, none⟩
  slots :=
    [slot "name" (·.name) (fun x d => { d with name := some x }) Json.string,
      slot "source" (·.source) (fun x d => { d with source := some x }) Json.string,
      slot "meta" (·.metadata) (fun x d => { d with metadata := some x }) Metadata.shape.decode,
      slot "fields" (·.fields) (fun x d => { d with fields := some x })
        (Json.list Field.shape.decode),
      slot "children" (·.children) (fun x d => { d with children := some x })
        (Json.list declaration)]
  build d := do
    return (⟨← required "name" d.name, ← required "source" d.source, d.metadata.getD .empty,
      d.fields.getD []⟩, d.children.getD [])

/-- The name of a container and what is declared inside it. -/
abbrev ContainerContent := String × List Declaration

structure ContainerDraft where
  name : Option String
  children : Option (List Declaration)

def ContainerContent.shape (declaration : Decoder Declaration) :
    Shape ContainerDraft ContainerContent where
  title := "struct ContainerDecl"
  blank := ⟨none, none⟩
  slots :=
    [slot "name" (·.name) (fun x d => { d with name := some x }) Json.string,
      slot "children" (·.children) (fun x d => { d with children := some x })
        (Json.list declaration)]
  build d := do return (← required "name" d.name, d.children.getD [])

namespace Declaration

/-- The kinds of declarations, whose content is decoded by `declaration`. -/
def variants (declaration : Decoder Declaration) : List (String × Decoder Declaration) :=
  [("container", fun reading document => do
      let (name, children) ← (ContainerContent.shape declaration).decode reading document
      return .container name children),
    ("struct", fun reading document => do
      let (decl, children) ← (StructContent.shape declaration).decode reading document
      return .struct decl children),
    ("enum", fun reading document => do
      return .enum (← EnumDecl.shape.decode reading document))]

/-- **Declarations that are nested fewer than `levels` deep.**  The content of a declaration
is reached through the slots of a shape, so the recursion is on the number of levels and not
on the document. -/
def decoderAt : Nat → Decoder Declaration
  | 0 => fun _ _ => .error (.text .tooDeep)
  | levels + 1 =>
    Json.tagged "internally tagged enum Declaration" "kind" (variants (decoderAt levels))

/-- **A declaration.**  Each level opens an array or an object, so no text that may be read nests
as many declarations as this decoder can take. -/
def decoder : Decoder Declaration := decoderAt 128

end Declaration

def StructContent.decoder : Decoder StructContent :=
  (StructContent.shape Declaration.decoder).decode

def ContainerContent.decoder : Decoder ContainerContent :=
  (ContainerContent.shape Declaration.decoder).decode

/-! ## The whole -/

def Path.decoder : Decoder Path
  | reading, document => do return ⟨← Json.stringAs "path string" reading document⟩

def SourceTable.decoder : Decoder SourceTable := Json.dictionary Path.decoder

structure ScopeDraft where
  name : Option String
  external : Option Bool
  root : Option Declaration

def Scope.shape : Shape ScopeDraft Scope where
  title := "struct Scope"
  blank := ⟨none, none, none⟩
  slots :=
    [slot "name" (·.name) (fun x d => { d with name := some x }) Json.string,
      slot "external" (·.external) (fun x d => { d with external := some x }) Json.boolean,
      slot "root" (·.root) (fun x d => { d with root := some x }) Declaration.decoder]
  build d := do
    return ⟨← required "name" d.name, d.external.getD false, ← required "root" d.root⟩

structure TreeDraft where
  sources : Option SourceTable
  scopes : Option (List Scope)

/-- **The fields of a tree.**  Without sources the table is empty, but scopes must be given, even
if there is none. -/
def DeclarationTree.shape : Shape TreeDraft DeclarationTree where
  title := "struct DeclarationTree"
  blank := ⟨none, none⟩
  slots :=
    [slot "sources" (·.sources) (fun x d => { d with sources := some x }) SourceTable.decoder,
      slot "scopes" (·.scopes) (fun x d => { d with scopes := some x })
        (Json.list Scope.shape.decode)]
  build d := do return ⟨d.sources.getD .empty, ← required "scopes" d.scopes⟩

def DeclarationTree.decoder : Decoder DeclarationTree := DeclarationTree.shape.decode

/-- **A convention by its own name**, which differs from its metadata spelling. -/
def Convention.decoder : Decoder Convention :=
  Json.choice [("CamelCase", .camel), ("KebabCase", .kebab), ("PascalCase", .pascal),
    ("SnakeCase", .snake)]

def Convention.toJson : Convention → Json.Value
  | .camel => .string "CamelCase"
  | .kebab => .string "KebabCase"
  | .pascal => .string "PascalCase"
  | .snake => .string "SnakeCase"

end WireHeaders
