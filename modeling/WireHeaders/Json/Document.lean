import WireHeaders.Json.Numeral
import WireHeaders.Json.Value

/-!
# JSON documents as they were read

A text that is to be decoded may break off anywhere, and whether the break matters depends on
what is asked of the text: a value of another type is refused before its content is looked at,
and the value of an unknown field is only skipped over.  So reading a text never fails.  It gives
a document in which each break stands at its place.

## Main definitions

* `Json.Break` — a break, as a reader and as a skipper reports it
* `Json.Document`, `Json.Items`, `Json.Members` — a document with its breaks
* `Json.Document.ofValue` — the document of a value, without breaks
* `Json.Document.skip` — the fault of a document that is skipped over
* `Json.Document.check` — the fault of a document that is read in full, within a depth
-/

namespace WireHeaders.Json

/-- **A place where the text breaks off.**  Whoever reads a value and whoever skips it look for
different things, so both faults are kept until it is known who comes there. -/
structure Break where
  /-- The fault for a reader of the value. -/
  reading : TextFault
  /-- The fault for a skipper of the value. -/
  skipping : TextFault
  deriving DecidableEq, Repr

/-- A break that readers and skippers report alike. -/
def Break.both (fault : TextFault) : Break := ⟨fault, fault⟩

/-- The content of a string, or what is wrong with it although its end was found. -/
abbrev StringContent := Except TextFault String

mutual

/-- **A JSON text as it was read.**  It has the form of a value, but any place in it may hold a
break and any string may be faulty.  So what stands before a break can be decoded as if the
text went on. -/
inductive Document where
  | null
  | bool (b : Bool)
  | number (numeral : Numeral)
  | string (content : StringContent)
  | array (items : Items)
  | object (members : Members)
  /-- The text breaks off where a value should start, or inside a string. -/
  | broken (place : Break)
  /-- The text breaks off inside a word or a number. -/
  | unfinished (place : Break)

/-- The items of an array, and how it ends. -/
inductive Items where
  | closed
  /-- The text breaks off behind an item or a comma. -/
  | broken (place : Break)
  | item (value : Document) (rest : Items)

/-- The members of an object, and how it ends. -/
inductive Members where
  | closed
  /-- The text breaks off behind a member or a comma, inside a key, or at what is no key. -/
  | broken (place : Break)
  | member (key : StringContent) (value : Document) (rest : Members)

end

instance : Inhabited Document := ⟨.null⟩

namespace Document

mutual

/-- **The document of a value**, without breaks and with whole strings.  It is what the text of the
value is read as. -/
def ofValue : Value → Document
  | .null => .null
  | .bool b => .bool b
  | .int n => .number (Numeral.ofInt n)
  | .string s => .string (.ok s)
  | .array items => .array (ofItems items)
  | .object members => .object (ofMembers members)

def ofItems : List Value → Items
  | [] => .closed
  | v :: rest => .item (ofValue v) (ofItems rest)

def ofMembers : List (String × Value) → Members
  | [] => .closed
  | (key, v) :: rest => .member (.ok key) (ofValue v) (ofMembers rest)

end

mutual

/-- **Skipping a document.**  Only its grammar is checked: numbers may be too large, strings may
hold half a surrogate pair, and no depth is too great. -/
def skip : Document → Except TextFault Unit
  | .null | .bool _ | .number _ | .string _ => .ok ()
  | .array items => skipItems items
  | .object members => skipMembers members
  | .broken b | .unfinished b => .error b.skipping

def skipItems : Items → Except TextFault Unit
  | .closed => .ok ()
  | .broken b => .error b.skipping
  | .item value rest => do skip value; skipItems rest

def skipMembers : Members → Except TextFault Unit
  | .closed => .ok ()
  | .broken b => .error b.skipping
  | .member _ value rest => do skip value; skipMembers rest

end

mutual

/-- **Reading a document in full**, with room for `depth` more open arrays and objects.  Unlike
skipping it asks for numbers in range and for whole strings, as a decoder would. -/
def check (depth : Nat) : Document → Except TextFault Unit
  | .null | .bool _ => .ok ()
  | .number numeral => numeral.value.map fun _ => ()
  | .string content => content.map fun _ => ()
  | .array items =>
    match depth with
    | 0 => .error .tooDeep
    | depth + 1 => checkItems depth items
  | .object members =>
    match depth with
    | 0 => .error .tooDeep
    | depth + 1 => checkMembers depth members
  | .broken b | .unfinished b => .error b.reading

def checkItems (depth : Nat) : Items → Except TextFault Unit
  | .closed => .ok ()
  | .broken b => .error b.reading
  | .item value rest => do check depth value; checkItems depth rest

def checkMembers (depth : Nat) : Members → Except TextFault Unit
  | .closed => .ok ()
  | .broken b => .error b.reading
  | .member key value rest => do
    let _ ← key
    check depth value
    checkMembers depth rest

end

end Document

/-- **What follows the items that were asked for.**  Once a reader has all the items it wants, any
further one is a surplus, however it goes on. -/
def Items.finish : Items → Except TextFault Unit
  | closed => .ok ()
  | broken b =>
    match b.reading with
    | .endInList => .error .endInList
    | .trailingComma => .error .trailingComma
    | _ => .error .trailingCharacters
  | item _ _ => .error .trailingCharacters

def Items.length : Items → Nat
  | closed | broken _ => 0
  | item _ rest => rest.length + 1

end WireHeaders.Json
