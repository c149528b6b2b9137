import WireHeaders.Naming.Convention

/-!
# Wire names

The name under which a field or an enumerator is written: an explicit rename, else the identifier
under the convention of its type, else the identifier itself.

## Main definitions

* `stripScope` — the part of a qualified identifier after its last `::`
* `wireName` — the name of a field
* `enumeratorName` — the name of an enumerator, whose qualifier is dropped first
-/

namespace WireHeaders

/-- What follows the last `::`, if there is one. -/
def afterLastScope : List Char → Option (List Char)
  | [] => none
  | c :: rest =>
    match afterLastScope rest with
    | some name => some name
    | none =>
      match c, rest with
      | ':', ':' :: name => some name
      | _, _ => none

/-- **The unqualified part of an identifier**: what follows its last `::`, or all of it.  Of three
colons in a row the last two are the separator. -/
def stripScope (raw : String) : String :=
  match afterLastScope raw.toList with
  | some name => String.ofList name
  | none => raw

/-- **The wire name of a field.**  A rename is taken verbatim, even when it is empty: what is said
of one field counts more than what is said of its type. -/
def wireName (raw : String) (rename : Option String) (convention : Option Convention) : String :=
  match rename with
  | some name => name
  | none =>
    match convention with
    | some c => c.apply raw
    | none => raw

/-- **The wire name of an enumerator.**  Its qualifier is dropped before the convention is applied,
and a rename is not looked into. -/
def enumeratorName (raw : String) (rename : Option String) (convention : Option Convention) :
    String :=
  wireName (stripScope raw) rename convention

end WireHeaders
