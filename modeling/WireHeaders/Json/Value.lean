/-!
# JSON values and their compact text

The values that the library writes, and the text they are written as.

## Main definitions

* `Json.Value` — null, booleans, integers, strings, arrays and objects with ordered members
* `Json.escape` and `Json.quote` — a character and a string inside a JSON text
* `Json.Value.chars`, `Json.Value.text` — the compact text of a value
* `Json.Value.depth` — how many arrays and objects are open at once, at most

## Design notes

An object is a list of members, so the order in which they are written is part of the value.
-/

namespace WireHeaders.Json

/-- **A JSON value**, as far as the library writes any: all numbers are integers, and the members
of an object are a list in which a name may stand twice. -/
inductive Value where
  | null
  | bool (b : Bool)
  | int (n : Int)
  | string (s : String)
  | array (items : List Value)
  | object (members : List (String × Value))
  deriving Repr

/-- The digit of a number below sixteen, in lower case. -/
def hexDigit (n : Nat) : Char :=
  if n < 10 then Char.ofNat ('0'.toNat + n) else Char.ofNat ('a'.toNat + (n - 10))

/-- **One character of a string.**  Quotes, backslashes and control characters are escaped, and
all else stands as it is. -/
def escape (c : Char) : List Char :=
  if c = '"' then ['\\', '"']
  else if c = '\\' then ['\\', '\\']
  else if c = '\x08' then ['\\', 'b']
  else if c = '\x0c' then ['\\', 'f']
  else if c = '\n' then ['\\', 'n']
  else if c = '\r' then ['\\', 'r']
  else if c = '\t' then ['\\', 't']
  else if c.toNat < 0x20 then ['\\', 'u', '0', '0', hexDigit (c.toNat / 16), hexDigit (c.toNat % 16)]
  else [c]

/-- A string between quotes. -/
def quote (s : String) : List Char := '"' :: s.toList.flatMap escape ++ ['"']

def intChars (n : Int) : List Char :=
  if n < 0 then '-' :: Nat.toDigits 10 n.natAbs else Nat.toDigits 10 n.natAbs

namespace Value

mutual

/-- **The compact text of a value**, without any blank.  The first item of a container has a form
of its own, since only the later ones follow a comma. -/
def chars : Value → List Char
  | .null => ['n', 'u', 'l', 'l']
  | .bool true => ['t', 'r', 'u', 'e']
  | .bool false => ['f', 'a', 'l', 's', 'e']
  | .int n => intChars n
  | .string s => quote s
  | .array [] => ['[', ']']
  | .array (v :: rest) => '[' :: chars v ++ laterItems rest
  | .object [] => ['{', '}']
  | .object ((key, v) :: rest) => '{' :: quote key ++ ':' :: chars v ++ laterMembers rest

/-- The items of an array after its first one, and the closing bracket. -/
def laterItems : List Value → List Char
  | [] => [']']
  | v :: rest => ',' :: chars v ++ laterItems rest

/-- The members of an object after its first one, and the closing bracket. -/
def laterMembers : List (String × Value) → List Char
  | [] => ['}']
  | (key, v) :: rest => ',' :: quote key ++ ':' :: chars v ++ laterMembers rest

end

def text (v : Value) : String := String.ofList v.chars

mutual

/-- **How many arrays and objects of a value are open at once, at most.**  This is what a reader
counts against its limit. -/
def depth : Value → Nat
  | .array items => itemsDepth items + 1
  | .object members => membersDepth members + 1
  | _ => 0

def itemsDepth : List Value → Nat
  | [] => 0
  | v :: rest => max (depth v) (itemsDepth rest)

def membersDepth : List (String × Value) → Nat
  | [] => 0
  | (_, v) :: rest => max (depth v) (membersDepth rest)

end

end Value

end WireHeaders.Json
