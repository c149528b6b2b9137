import WireHeaders.Data.SortedMap
import WireHeaders.Naming.Convention

/-!
# Metadata of declarations

Two maps: entries of a whole declaration, and entries of single enumerators.

## Main definitions

* `Key` — the keys that the library looks at
* `Metadata` — entries by key, and entries by ordinal and key
* `Metadata.get?`, `Metadata.has`, `Metadata.getIndexed?` — reading
* `Metadata.insert`, `Metadata.flag`, `Metadata.insertIndexed` — writing
* `Metadata.renameAll?` and `Metadata.convention` — the convention that a type asks for

## Design notes

An ordinal is stored as its decimal text, because index keys that are no numbers are kept as well.
-/

namespace WireHeaders

namespace Key

/-- The type can be written. -/
def serialize : String := "Serialize"

/-- The type can be read back. -/
def deserialize : String := "Deserialize"

/-- The convention for all names of a type. -/
def renameAll : String := "RenameAll"

/-- The wire name of one field or enumerator. -/
def rename : String := "Rename"

/-- An enum that is written as its number. -/
def asNumber : String := "AsNumber"

end Key

/-- **Metadata of a declaration.**  Entries are texts by key and mean nothing by themselves; what
an entry without a value says is said by its key alone. -/
structure Metadata where
  /-- Entries of the whole declaration. -/
  entries : SortedMap String String
  /-- Entries of single enumerators, by the text of the ordinal. -/
  indexed : SortedMap String (SortedMap String String)
  deriving DecidableEq

namespace Metadata

def empty : Metadata := ⟨.empty, .empty⟩

instance : Inhabited Metadata := ⟨empty⟩

/-- The index key of an ordinal: its decimal text.  Different ordinals have different keys, but
there are index keys that belong to no ordinal. -/
def indexKey (ordinal : Int64) : String := toString ordinal.toInt

/-- The value of an entry; a flag has the empty value. -/
def get? (m : Metadata) (key : String) : Option String := m.entries.get? key

/-- Whether there is an entry, with or without a value. -/
def has (m : Metadata) (key : String) : Bool := m.entries.contains key

/-- The value of an entry of one enumerator. -/
def getIndexed? (m : Metadata) (key : String) (ordinal : Int64) : Option String :=
  (m.indexed.get? (indexKey ordinal)).bind fun inner => inner.get? key

def insert (m : Metadata) (key value : String) : Metadata :=
  { m with entries := m.entries.insert key value }

/-- Stores an entry without a value. -/
def flag (m : Metadata) (key : String) : Metadata := m.insert key ""

/-- Stores an entry of one enumerator. -/
def insertIndexed (m : Metadata) (key : String) (ordinal : Int64) (value : String) : Metadata :=
  { m with
    indexed := m.indexed.upsert (indexKey ordinal) fun inner =>
      (inner.getD .empty).insert key value }

def isEmpty (m : Metadata) : Bool := m.entries.isEmpty && m.indexed.isEmpty

def renameAll? (m : Metadata) : Option String := m.get? Key.renameAll

/-- **The convention that a type asks for.**  An unknown spelling asks for none, as if nothing
had been said. -/
def convention (m : Metadata) : Option Convention := m.renameAll?.bind Convention.ofSpelling?

/-- An entry is there iff it has a value. -/
theorem has_eq_isSome_get? (m : Metadata) (key : String) : m.has key = (m.get? key).isSome := rfl

end Metadata

end WireHeaders
