import WireHeaders.Discovery.Unit
import WireHeaders.Header.Literal
import WireHeaders.Naming.WireName

/-!
# Serializers

The template specialization that writes the values of one type.

## Main definitions

* `Field.wireName`, `EnumDecl.wireName` — the names that are written for fields and enumerators
* `Serializer.structLines`, `Serializer.enumLines` — the lines of a serializer
* `linesText` — lines as one text

## Design notes

A serializer is a part of a macro, so each of its lines ends with a backslash.  Lines are kept as a
list until the whole header is put together.
-/

namespace WireHeaders

/-- Lines as one text, each with its line feed. -/
def linesText (lines : List String) : String := String.join (lines.map (· ++ "\n"))

/-- **The name that is written for a field**: its rename, or else its identifier under the
convention of the struct. -/
def Field.wireName (f : Field) (convention : Option Convention) : String :=
  WireHeaders.wireName f.name (f.metadata.get? Key.rename) convention

/-- **The name that is written for an enumerator.**  Its rename is found in the metadata of the
enum by its number, so enumerators with one number share it. -/
def EnumDecl.wireName (d : EnumDecl) (value : Enumerator) (convention : Option Convention) :
    String :=
  enumeratorName value.name (d.metadata.getIndexed? Key.rename value.ordinal) convention

namespace Serializer

def opening (name : String) : List String :=
  ["template <> \\",
    "struct GenJson::TSerializer<::" ++ name ++ "> \\",
    "\x7b \\",
    "\tstatic bool Write(const " ++ name ++ "& Instance, FJsonWriter& Writer) \\",
    "\x7b \\"]

def closing : List String := ["\x7d \\", "\x7d; \\"]

/-- The lines that write a field under a key. -/
def fieldLines (key name : String) : List String :=
  ["    Writer.Key(" ++ textLiteral key ++ "); \\",
    "    GenJson::Write(Instance." ++ name ++ ", Writer); \\"]

/-- **The serializer of a struct**, an object with a member for each field, in order.  How a field
is written is left to the serializer of its own type. -/
def structLines (decl : StructDecl) (convention : Option Convention) : List String :=
  opening decl.name ++ ["    Writer.StartObject(); \\"] ++
    decl.fields.flatMap (fun f => fieldLines (f.wireName convention) f.name) ++
    ["    Writer.EndObject(); \\", "    return true; \\"] ++ closing

/-- The lines that write the name of an enumerator.  The label is the identifier as it was given,
whatever the name is. -/
def caseLines (label name : String) : List String :=
  ["case " ++ label ++ ": \\",
    "\x7b \\",
    "    return GenJson::Write(" ++ textLiteral name ++ ", Writer); \\",
    "\x7d \\"]

/-- The body for an enum that is written as its number. -/
def numberLines (name : String) : List String :=
  ["return GenJson::Write(static_cast<std::underlying_type_t<" ++ name ++
    ">>(Instance), Writer); \\"]

/-- The body for an enum that is written by name.  The last line is for values without a name. -/
def switchLines (decl : EnumDecl) (convention : Option Convention) : List String :=
  ["switch (Instance) \\", "\x7b \\"] ++
    decl.values.flatMap (fun v => caseLines v.name (decl.wireName v convention)) ++
    ["\x7d \\", "return false; \\"]

/-- **The serializer of an enum**, which is written as its number if a flag asks for that, and by
the names of its enumerators otherwise. -/
def enumLines (decl : EnumDecl) (convention : Option Convention) : List String :=
  opening decl.name ++
    (if decl.metadata.has Key.asNumber then numberLines decl.name
      else switchLines decl convention) ++
    closing

end Serializer

def structRecordLines (r : Record StructDecl) : List String :=
  Serializer.structLines r.decl r.convention

def enumRecordLines (r : Record EnumDecl) : List String :=
  Serializer.enumLines r.decl r.convention

end WireHeaders
