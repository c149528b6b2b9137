import WireHeaders.Text.Quoted

/-!
# Values of the wrong shape

What is said about a value that is not what was asked for.

## Main definitions

* `Found` — what a value is, in the words of a message
* `Mismatch` and `Mismatch.message` — what is wrong with a value of the wrong shape
-/

namespace WireHeaders

/-- **What a value is**, in the words of a message.  Numbers come as decimal text, since each text
format has its own way to write them. -/
inductive Found where
  | null
  | bool (b : Bool)
  /-- An integer, by its decimal text. -/
  | integer (digits : String)
  /-- A number that is no integer, by its decimal text. -/
  | floating (digits : String)
  | string (s : String)
  | sequence
  | map
  deriving DecidableEq, Repr

def Found.message : Found → String
  | null => "null"
  | bool true => "boolean `true`"
  | bool false => "boolean `false`"
  | integer digits => "integer `" ++ digits ++ "`"
  | floating digits => "floating point `" ++ digits ++ "`"
  | string s => "string " ++ quoted s
  | sequence => "sequence"
  | map => "map"

/-- **What is wrong with a value of the wrong shape.**  Both text formats report in these words. -/
inductive Mismatch where
  /-- A value of another type. -/
  | invalidType (found : Found) (expected : String)
  /-- A value of the right type outside the expected range. -/
  | invalidValue (found : Found) (expected : String)
  /-- A sequence with the wrong number of items. -/
  | invalidLength (length : Nat) (expected : String)
  | missingField (name : String)
  | duplicateField (name : String)
  | unknownVariant (name : String) (known : List String)
  deriving DecidableEq, Repr

def Mismatch.message : Mismatch → String
  | invalidType found expected => "invalid type: " ++ found.message ++ ", expected " ++ expected
  | invalidValue found expected => "invalid value: " ++ found.message ++ ", expected " ++ expected
  | invalidLength length expected =>
    "invalid length " ++ toString length ++ ", expected " ++ expected
  | missingField name => "missing field `" ++ name ++ "`"
  | duplicateField name => "duplicate field `" ++ name ++ "`"
  | unknownVariant name known =>
    "unknown variant `" ++ name ++ "`, expected one of " ++
      ", ".intercalate (known.map fun k => "`" ++ k ++ "`")

end WireHeaders
