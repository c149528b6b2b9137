import WireHeaders.Data.SortedMap
import WireHeaders.Json.Reader

/-!
# Decoding JSON documents

A document is decoded from left to right, and the first thing that is wrong with it is reported.

## Main definitions

* `Json.Reading` — whether a document is decoded while its text is read, or was held back until
  its end was found
* `Json.Decoder` — what a type makes of a document
* `Json.string`, `Json.boolean`, `Json.int64`, `Json.list`, `Json.dictionary` — the plain decoders
* `Json.Shape` — the fields of a record; `Json.Shape.decode` takes it as an object or as an array
* `Json.tagged` — a choice between records, named by a member of the object
* `Json.Decoder.run` — a whole text decoded

## Design notes

**Held documents.**  The content of a tagged object cannot be decoded before the tag is known, and
the tag may come last.  Such an object is read to its end first, so in it a fault of the text wins
over a fault of the shape, and what is then decoded has no breaks left.

**Drafts.**  A record is filled field by field in the order in which the text gives them.  `Shape`
keeps the fields as functions on a draft, so one reader serves every record.
-/

namespace WireHeaders.Json

/-- **How a document comes to its decoder.**  While a text is streamed its depth is counted and
its breaks are met on the way; a document that is held was read to its end before, so neither can
be met again. -/
inductive Reading where
  /-- While the text is read, with room for that many more open arrays and objects. -/
  | streamed (room : Nat)
  /-- Held back until its end was found. -/
  | held
  deriving DecidableEq, Repr

namespace Reading

/-- The room of a whole text. -/
def whole : Reading := .streamed 127

/-- Opens an array or an object. -/
def enter : Reading → Except Fault Reading
  | streamed 0 => .error (.text .tooDeep)
  | streamed (room + 1) => .ok (.streamed room)
  | held => .ok .held

/-- Passes over the value of an unknown field. -/
def pass : Reading → Document → Except Fault Unit
  | streamed _, document => document.skip.mapError .text
  | held, _ => .ok ()

/-- Reads a document to its end without decoding it. -/
def hold : Reading → Document → Except Fault Unit
  | streamed room, document => (document.check room).mapError .text
  | held, _ => .ok ()

/-- Reads the rest of an array to its end without decoding it. -/
def holdItems : Reading → Items → Except Fault Unit
  | streamed room, items => (Document.checkItems room items).mapError .text
  | held, _ => .ok ()

end Reading

/-- **What a type makes of a document.**  A decoder reports the first thing that is wrong in
reading order and looks at nothing behind it. -/
abbrev Decoder (α : Type) := Reading → Document → Except Fault α

/-- What a document is, as far as it must be read to say so. -/
def Document.found : Document → Except TextFault Found
  | null => .ok .null
  | bool b => .ok (.bool b)
  | number numeral => numeral.value.map Number.found
  | string content => content.map Found.string
  | array _ => .ok .sequence
  | object _ => .ok .map
  | broken b | unfinished b => .error b.reading

/-- The fault of a document of another type than the expected one.  To say what it is the document
must be read that far, and what is wrong with the text on the way is reported instead. -/
def Document.unexpected (document : Document) (expected : String) : Fault :=
  match document.found with
  | .error fault => .text fault
  | .ok found => .shape (.invalidType found expected)

/-! ## Plain values -/

/-- A string, under the name that messages give it. -/
def stringAs (expected : String) : Decoder String
  | _, .string (.ok s) => .ok s
  | _, document => .error (document.unexpected expected)

def string : Decoder String := stringAs "a string"

def boolean : Decoder Bool
  | _, .bool b => .ok b
  | _, document => .error (document.unexpected "a boolean")

/-- **An integer of 64 bits.**  A natural number beyond them has the right type but a wrong value,
while a number with a fraction or an exponent has a wrong type, whatever its value. -/
def int64 : Decoder Int64
  | _, .number numeral =>
    match numeral.value with
    | .ok (.natural n) =>
      if n < Nat.pow 2 63 then .ok (Int64.ofNat n)
      else .error (.shape (.invalidValue (Number.natural n).found "i64"))
    | .ok (.negative n) => .ok (Int64.ofInt (-n))
    | .ok (.floating x) => .error (.shape (.invalidType (Number.floating x).found "i64"))
    | .error fault => .error (.text fault)
  | _, document => .error (document.unexpected "i64")

/-! ## Arrays and objects of one type -/

def listItems {α : Type} (item : Decoder α) (reading : Reading) : Items → Except Fault (List α)
  | .closed => .ok []
  | .broken b => .error (.text b.reading)
  | .item document rest => do
    let x ← item reading document
    let xs ← listItems item reading rest
    return x :: xs

/-- **A list.**  The items are decoded from left to right, so a fault of an early item wins over a
later break of the text. -/
def list {α : Type} (item : Decoder α) : Decoder (List α)
  | reading, .array items => do listItems item (← reading.enter) items
  | _, document => .error (document.unexpected "a sequence")

def dictionaryMembers {α : Type} (item : Decoder α) (reading : Reading) :
    Members → Except Fault (List (String × α))
  | .closed => .ok []
  | .broken b => .error (.text b.reading)
  | .member key document rest => do
    let key ← key.mapError .text
    let x ← item reading document
    let xs ← dictionaryMembers item reading rest
    return (key, x) :: xs

/-- **A map.**  Of two values for one key the later one stays, unlike a record, where a field that
comes twice is refused. -/
def dictionary {α : Type} (item : Decoder α) : Decoder (SortedMap String α)
  | reading, .object members => do
    return .ofList (← dictionaryMembers item (← reading.enter) members)
  | _, document => .error (document.unexpected "a map")

/-! ## Records -/

/-- **One field of a record**, seen from a draft of it.  Fields have different types, so a field is
kept as what its value does to the draft. -/
structure Slot (σ : Type) where
  name : String
  /-- Whether a draft has the field. -/
  given : σ → Bool
  /-- What a value of the field makes of a draft. -/
  fill : Decoder (σ → σ)

/-- **The fields of a record**, in order.  One reader serves every record: it fills a draft slot by
slot, and `build` says of the finished draft which field is missing first. -/
structure Shape (σ α : Type) where
  /-- The name of the record in messages. -/
  title : String
  /-- The draft without fields. -/
  blank : σ
  slots : List (Slot σ)
  /-- The record of a draft, or the name of the first field that it lacks. -/
  build : σ → Except String α

def required {τ : Type} (name : String) : Option τ → Except String τ
  | some x => .ok x
  | none => .error name

namespace Shape

variable {σ α : Type}

/-- **The members of a record.**  A field may come once; a member of another name is passed
over. -/
def members (shape : Shape σ α) (reading : Reading) (draft : σ) : Members → Except Fault σ
  | .closed => .ok draft
  | .broken b => .error (.text b.reading)
  | .member key document rest => do
    let key ← key.mapError .text
    match shape.slots.find? (fun slot => slot.name == key) with
    | some slot =>
      if slot.given draft then throw (.shape (.duplicateField key))
      let fill ← slot.fill reading document
      members shape reading (fill draft) rest
    | none =>
      reading.pass document
      members shape reading draft rest

/-- **The items of a record that is given as an array**, as far as there are fields.  An array
that ends early leaves the draft as it is: whether the missing fields are needed is for
`build` to say. -/
def items (reading : Reading) : List (Slot σ) → σ → Items → Except Fault (σ × Items)
  | [], draft, rest => .ok (draft, rest)
  | _ :: _, draft, .closed => .ok (draft, .closed)
  | _ :: _, _, .broken b => .error (.text b.reading)
  | slot :: slots, draft, .item document rest => do
    let fill ← slot.fill reading document
    items reading slots (fill draft) rest

def ofMembers (shape : Shape σ α) (reading : Reading) (members : Members) : Except Fault α := do
  let draft ← shape.members reading shape.blank members
  (shape.build draft).mapError fun name => .shape (.missingField name)

/-- The fault of an array that ends before a field. -/
def tooShort (shape : Shape σ α) (name : String) : Fault :=
  .shape (.invalidLength (shape.slots.findIdx (fun slot => slot.name == name))
    (shape.title ++ " with " ++ toString shape.slots.length ++ " elements"))

/-- What must follow the items of a record.  A streamed array must end there in the text; of a held
one all items are known, so it is refused with their number. -/
def finish (shape : Shape σ α) (reading : Reading) (rest : Items) : Except Fault Unit :=
  match reading with
  | .streamed _ => rest.finish.mapError .text
  | .held =>
    if rest.length = 0 then .ok ()
    else .error (.shape (.invalidLength (shape.slots.length + rest.length)
      (toString shape.slots.length ++ " elements in sequence")))

def ofItems (shape : Shape σ α) (reading : Reading) (items : Items) : Except Fault α := do
  let (draft, rest) ← Shape.items reading shape.slots shape.blank items
  let record ← (shape.build draft).mapError shape.tooShort
  shape.finish reading rest
  return record

/-- **A record**, as an object of its fields or as an array of them in order.  Either way one more
level is open before any of its content is looked at. -/
def decode (shape : Shape σ α) : Decoder α
  | reading, .object members => do shape.ofMembers (← reading.enter) members
  | reading, .array items => do shape.ofItems (← reading.enter) items
  | _, document => .error (document.unexpected shape.title)

end Shape

/-! ## Choices -/

def variantName : String := "variant identifier"

def variantNamed {β : Type} (variants : List (String × β)) (name : String) : Except Fault β :=
  match variants.find? (fun v => v.1 == name) with
  | some v => .ok v.2
  | none => .error (.shape (.unknownVariant name (variants.map Prod.fst)))

/-- One of several variants by its index. -/
def variantAt {β : Type} (variants : List (String × β)) (index : Nat) : Except Fault β :=
  match variants[index]? with
  | some v => .ok v.2
  | none =>
    .error (.shape (.invalidValue (.integer (toString index))
      ("variant index 0 <= i < " ++ toString variants.length)))

/-- **One of several variants**, by its name; in a held document also by its index.  A streamed
number is refused although the same one would do after it was held. -/
def variant {β : Type} (variants : List (String × β)) : Decoder β
  | _, .string (.ok name) => variantNamed variants name
  | .held, .number numeral =>
    match numeral.value with
    | .ok (.natural n) => variantAt variants n
    | _ => .error ((Document.number numeral).unexpected variantName)
  | _, document => .error (document.unexpected variantName)

/-- **Looking for the tag of an object** that is read to its end.  Of the other members only the
text is checked on the way, since their values are decoded when the tag is known. -/
def findTag {β : Type} (tag : String) (tags : Decoder β) (reading : Reading) (found : Option β) :
    Members → Except Fault (Option β)
  | .closed => .ok found
  | .broken b => .error (.text b.reading)
  | .member key document rest => do
    let key ← key.mapError .text
    if key = tag then
      if found.isSome then throw (.shape (.duplicateField tag))
      findTag tag tags reading (some (← tags reading document)) rest
    else
      reading.hold document
      findTag tag tags reading found rest

/-- **A choice between records.**  An object names its variant in the member `tag`, an array in its
first item; what remains is held and decoded as that variant. -/
def tagged {α : Type} (title tag : String) (variants : List (String × Decoder α)) : Decoder α
  | reading, .object members => do
    let body ← findTag tag (variant variants) (← reading.enter) none members
    -- All of the object was read, so it is held now and taken from its first member again.
    match body with
    | some decoder => decoder .held (.object members)
    | none => throw (.shape (.missingField tag))
  | reading, .array items => do
    let inner ← reading.enter
    match items with
    | .closed => throw (.shape (.missingField tag))
    | .broken b => throw (.text b.reading)
    | .item document rest =>
      let decoder ← variant variants inner document
      inner.holdItems rest
      decoder .held (.array rest)
  | _, document => .error (document.unexpected title)

/-- Nothing but null, which stands for the content of a variant without any. -/
def unit : Decoder Unit
  | _, .null => .ok ()
  | _, document => .error (document.unexpected "unit")

/-- What must follow the only member of an object. -/
def onlyMember : Members → Except Fault Unit
  | .closed => .ok ()
  | .broken ⟨.endInObject, _⟩ => .error (.text .endInObject)
  | _ => .error (.text .expectedValue)

/-- **A choice between names**: a string, or an object with the name as its only key and null as
its value. -/
def choice {α : Type} (variants : List (String × α)) : Decoder α
  | reading, .string content => variant variants reading (.string content)
  | reading, .object members => do
    let inner ← reading.enter
    match members with
    | .closed => throw (.text .expectedValue)
    | .broken b => throw (.text b.reading)
    | .member key document rest =>
      let x ← variant variants inner (.string key)
      unit inner document
      onlyMember rest
      return x
  | _, .broken b => .error (.text b.reading)
  | _, _ => .error (.text .expectedValue)

/-! ## Whole texts -/

/-- **A whole text decoded.**  That something follows the document is wrong only if nothing is
wrong with the document itself. -/
def Decoder.run {α : Type} (decoder : Decoder α) (text : Text) : Except Fault α := do
  let x ← decoder .whole text.document
  if text.trailing then throw (.text .trailingCharacters)
  return x

end WireHeaders.Json
