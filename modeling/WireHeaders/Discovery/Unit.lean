import WireHeaders.Tree.TypeDecl

/-!
# Source units

The types that were found in one source file, and all source files together.

## Main definitions

* `Record` — a type that was found, with the convention that it asks for
* `Records` — the records of one kind, in a list for each direction
* `SourceUnit` — the records of one file
* `SourceUnit.structsFor`, `SourceUnit.enumsFor` — those of one direction
* `Units` — all files by path
* `Units.entry`, `Units.add` — the two ways in which units grow

## Design notes

**One list per direction.**  The lists of the two directions grow on their own.  A type tagged for both
is found once and has one record, which goes to both of them.

**Serial numbers.**  A record is known by the number under which it was found.  The same type found
twice has two records.
-/

namespace WireHeaders

/-- **A type that was found**, with the convention that it asked for then.  The same type found
twice gives two records, and the serial number is what tells them apart. -/
structure Record (δ : Type) where
  /-- The number of the find. -/
  serial : Nat
  decl : δ
  convention : Option Convention
  deriving DecidableEq

/-- **The records of one kind**, in the order in which they were found.  A record that belongs to
both directions stands in both lists, under one serial number. -/
structure Records (δ : Type) where
  serializable : List (Record δ)
  deserializable : List (Record δ)
  deriving DecidableEq

namespace Records

variable {δ : Type}

def empty : Records δ := ⟨[], []⟩

def isEmpty (rs : Records δ) : Bool := rs.serializable.isEmpty && rs.deserializable.isEmpty

def inDirection (rs : Records δ) : Direction → List (Record δ)
  | .serialize => rs.serializable
  | .deserialize => rs.deserializable

/-- **One more record**, behind those of each direction that metadata asks for.  The two lists
never look at each other. -/
def add (rs : Records δ) (metadata : Metadata) (r : Record δ) : Records δ where
  serializable :=
    if metadata.allows .serialize then rs.serializable ++ [r] else rs.serializable
  deserializable :=
    if metadata.allows .deserialize then rs.deserializable ++ [r] else rs.deserializable

@[simp]
theorem inDirection_empty (direction : Direction) :
    (empty : Records δ).inDirection direction = [] := by
  cases direction <;> rfl

/-- A record goes to the end of each list of a direction that metadata asks for. -/
theorem inDirection_add (rs : Records δ) (metadata : Metadata) (r : Record δ)
    (direction : Direction) :
    (rs.add metadata r).inDirection direction =
      rs.inDirection direction ++ if metadata.allows direction then [r] else [] := by
  cases direction <;> simp only [add, inDirection] <;> split <;> simp

/-- There is no record iff there is none in any direction. -/
theorem isEmpty_iff {rs : Records δ} :
    rs.isEmpty = true ↔ ∀ direction, rs.inDirection direction = [] := by
  rw [isEmpty, Bool.and_eq_true, List.isEmpty_iff, List.isEmpty_iff]
  constructor
  · rintro ⟨noneOut, noneBack⟩ direction
    cases direction with
    | serialize => exact noneOut
    | deserialize => exact noneBack
  · intro empty
    exact ⟨empty .serialize, empty .deserialize⟩

end Records

/-- **The types of one source file.**  Structs and enums are kept apart, so how the two are mixed
in the file is forgotten. -/
structure SourceUnit where
  structs : Records StructDecl
  enums : Records EnumDecl
  deriving DecidableEq

namespace SourceUnit

def empty : SourceUnit := ⟨.empty, .empty⟩

instance : Inhabited SourceUnit := ⟨empty⟩

def isEmpty (u : SourceUnit) : Bool := u.structs.isEmpty && u.enums.isEmpty

def structsFor (u : SourceUnit) (direction : Direction) : List (Record StructDecl) :=
  u.structs.inDirection direction

def enumsFor (u : SourceUnit) (direction : Direction) : List (Record EnumDecl) :=
  u.enums.inDirection direction

/-- One more type, under its number.  Its convention is looked up once, so both directions use
the same one. -/
def add (u : SourceUnit) (serial : Nat) : TypeDecl → SourceUnit
  | .struct decl =>
    { u with structs := u.structs.add decl.metadata ⟨serial, decl, decl.metadata.convention⟩ }
  | .enum decl =>
    { u with enums := u.enums.add decl.metadata ⟨serial, decl, decl.metadata.convention⟩ }

end SourceUnit

/-- **All source files by path.**  Files are found by the components of their paths, and the path
that named a file first stays as its spelling. -/
structure Units where
  byPath : SortedMap Path SourceUnit
  /-- The number of the next find. -/
  next : Nat
  deriving DecidableEq

namespace Units

def empty : Units := ⟨.empty, 0⟩

instance : Inhabited Units := ⟨empty⟩

def size (units : Units) : Nat := units.byPath.size

def isEmpty (units : Units) : Bool := units.byPath.isEmpty

/-- The unit of a path, under any spelling of it. -/
def get? (units : Units) (path : Path) : Option SourceUnit := units.byPath.get? path

/-- The files in path order, under the spelling that each was first named by. -/
def toList (units : Units) : List (Path × SourceUnit) := units.byPath.entries

/-- **Makes sure that a file has a unit.**  A unit that is there stays as it is, and a new
one is empty. -/
def entry (units : Units) (path : Path) : Units :=
  { units with byPath := units.byPath.upsert path (fun u => u.getD .empty) }

/-- **Adds a type to the unit of a file**, which is made if it is missing.  The number of the find
is used up, so no two finds have the same one. -/
def add (units : Units) (path : Path) (decl : TypeDecl) : Units :=
  ⟨units.byPath.upsert path (fun u => (u.getD .empty).add units.next decl), units.next + 1⟩

/-- A unit that was asked for is there, and no other one changes. -/
theorem get?_entry (units : Units) (path p : Path) :
    (units.entry path).get? p =
      if compare p path = .eq then some ((units.get? path).getD .empty) else units.get? p :=
  SortedMap.get?_upsert ..

/-- A type goes to the unit of its path, and no other one changes. -/
theorem get?_add (units : Units) (path p : Path) (decl : TypeDecl) :
    (units.add path decl).get? p =
      if compare p path = .eq then some (((units.get? path).getD .empty).add units.next decl)
      else units.get? p :=
  SortedMap.get?_upsert ..

end Units

end WireHeaders
