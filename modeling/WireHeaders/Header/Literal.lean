/-!
# String literals of a header

## Main definitions

* `Literal.isControl` — characters that must not stand in a literal
* `Literal.escape` — one character inside a literal
* `textLiteral` — the literal of a string

## Design notes

An octal escape takes as many as three digits, so control characters are always written with
three, and a digit behind one is not taken for a part of it.
-/

namespace WireHeaders

namespace Literal

/-- **Control characters**, which must not stand in a literal: those of ASCII, and the block of
further ones behind it. -/
def isControl (c : Char) : Bool := c.toNat < 0x20 || (0x7F ≤ c.toNat && c.toNat ≤ 0x9F)

/-- The three lowest octal digits of a number. -/
def octal (n : Nat) : List Char :=
  [n / 64 % 8, n / 8 % 8, n % 8].map fun d => Char.ofNat ('0'.toNat + d)

/-- **One character inside a literal.**  Only what would end the literal, break its line or not be
shown is written in another way, so most names stand in a header as they are. -/
def escape (c : Char) : List Char :=
  if c = '\\' then ['\\', '\\']
  else if c = '"' then ['\\', '"']
  else if c = '\n' then ['\\', 'n']
  else if c = '\r' then ['\\', 'r']
  else if c = '\t' then ['\\', 't']
  else if isControl c then '\\' :: octal c.toNat
  else [c]

def body (value : String) : List Char := value.toList.flatMap escape

end Literal

/-- **The literal of a string**, as the argument of the macro `TEXT`. -/
def textLiteral (value : String) : String :=
  String.ofList (['T', 'E', 'X', 'T', '(', '"'] ++ Literal.body value ++ ['"', ')'])

end WireHeaders
