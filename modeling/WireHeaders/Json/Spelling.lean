import WireHeaders.Json.Document

/-!
# Strings and numerals, character by character

The two parts of a JSON text whose reading has a state of its own.

## Main definitions

* `Json.Spelling` and `Json.Spelling.step` — a string behind its opening quote
* `Json.NumeralSpelling` and `Json.NumeralSpelling.step` — a numeral behind its first character

## Design notes

A string with half a surrogate pair is refused by a reader, but a skipper goes on behind it.  So a
spelling notes the first such fault and continues; only what ends the string for both stops it.
-/

namespace WireHeaders.Json

def hexValue? (c : Char) : Option Nat :=
  if '0' ≤ c ∧ c ≤ '9' then some (c.toNat - '0'.toNat)
  else if 'a' ≤ c ∧ c ≤ 'f' then some (c.toNat - 'a'.toNat + 10)
  else if 'A' ≤ c ∧ c ≤ 'F' then some (c.toNat - 'A'.toNat + 10)
  else none

/-- Where in an escape sequence a string stands. -/
inductive Escape where
  /-- Outside an escape. -/
  | none
  /-- Behind a backslash. -/
  | backslash
  /-- Inside the digits of `\u`: bytes taken, value unless a character was no digit, and the first
  half of a surrogate pair that came before. -/
  | hex (bytes : Nat) (value : Option Nat) (lead : Option Nat)
  /-- Behind the first half of a surrogate pair. -/
  | lead (half : Nat)
  /-- Behind the first half of a surrogate pair and a backslash. -/
  | leadBackslash (half : Nat)
  deriving DecidableEq, Repr

/-- **A string behind its opening quote.**  Beside its characters it keeps the first fault behind
which a skipper still goes on, so one spelling serves readers and skippers. -/
structure Spelling where
  /-- The characters so far, last one first. -/
  reversed : List Char
  /-- The first fault that only a reader reports. -/
  fault : Option TextFault
  escape : Escape
  deriving DecidableEq, Repr

namespace Spelling

def empty : Spelling := ⟨[], none, .none⟩

/-- What a character makes of a string. -/
inductive Step where
  | more (s : Spelling)
  /-- The closing quote. -/
  | closed (content : StringContent)
  | broken (b : Break)

/-- A string ends for reader and skipper; a reader reports an earlier fault instead. -/
def breakOff (s : Spelling) (fault : TextFault) : Break := ⟨s.fault.getD fault, fault⟩

/-- The content of a string at its closing quote. -/
def content (s : Spelling) : StringContent :=
  match s.fault with
  | some fault => .error fault
  | none => .ok (String.ofList s.reversed.reverse)

def push (s : Spelling) (c : Char) : Spelling :=
  { s with reversed := c :: s.reversed, escape := .none }

/-- A fault that only a reader reports; an earlier one stays. -/
def note (s : Spelling) (fault : TextFault) (escape : Escape) : Spelling :=
  { s with fault := s.fault <|> some fault, escape := escape }

/-- Whether a code unit is the first half of a surrogate pair. -/
def isLead (n : Nat) : Bool := 0xD800 ≤ n && n ≤ 0xDBFF

/-- Whether a code unit is the second half of a surrogate pair. -/
def isTrail (n : Nat) : Bool := 0xDC00 ≤ n && n ≤ 0xDFFF

/-- The character of a surrogate pair. -/
def combine (lead trail : Nat) : Char :=
  Char.ofNat (0x10000 + (lead - 0xD800) * 0x400 + (trail - 0xDC00))

/-- **The code unit of a finished `\u` escape.**  It is a character of its own or half of a pair,
and then the other half must be the very next escape. -/
def codeUnit (s : Spelling) (n : Nat) : Option Nat → Spelling
  | none =>
    if isTrail n then s.note .loneSurrogate .none
    else if isLead n then { s with escape := .lead n }
    else s.push (Char.ofNat n)
  | some half =>
    if isTrail n then s.push (combine half n) else s.note .loneSurrogate .none

/-- A character outside an escape. -/
def plain (s : Spelling) (c : Char) : Step :=
  if c = '"' then .closed s.content
  else if c = '\\' then .more { s with escape := .backslash }
  else if c.toNat < 0x20 then .broken (s.breakOff .controlCharacter)
  else .more (s.push c)

/-- A character behind a backslash. -/
def escaped (s : Spelling) (c : Char) : Step :=
  if c = '"' ∨ c = '\\' ∨ c = '/' then .more (s.push c)
  else if c = 'b' then .more (s.push '\x08')
  else if c = 'f' then .more (s.push '\x0c')
  else if c = 'n' then .more (s.push '\n')
  else if c = 'r' then .more (s.push '\r')
  else if c = 't' then .more (s.push '\t')
  else if c = 'u' then .more { s with escape := .hex 0 (some 0) none }
  else .broken (s.breakOff .invalidEscape)

/-- A character inside the digits of `\u`.  Four bytes are taken before they are judged. -/
def hexDigits (s : Spelling) (bytes : Nat) (value lead : Option Nat) (c : Char) : Step :=
  let value := do return 16 * (← value) + (← hexValue? c)
  let bytes := bytes + c.utf8Size
  if bytes < 4 then .more { s with escape := .hex bytes value lead }
  else
    match value with
    | some n => .more (s.codeUnit n lead)
    | none => .broken (s.breakOff .invalidEscape)

/-- **One character of a string.**  The half of a surrogate pair waits for an escape that completes
it; anything else behind it is noted as a fault and then read as if it stood alone. -/
def step (s : Spelling) (c : Char) : Step :=
  match s.escape with
  | .none => s.plain c
  | .backslash => s.escaped c
  | .hex bytes value lead => s.hexDigits bytes value lead c
  | .lead half =>
    if c = '\\' then .more { s with escape := .leadBackslash half }
    else (s.note .unfinishedSurrogate .none).plain c
  | .leadBackslash half =>
    if c = 'u' then .more { s with escape := .hex 0 (some 0) (some half) }
    else (s.note .unfinishedSurrogate .backslash).escaped c

end Spelling

/-- Where in a numeral its spelling stands. -/
inductive NumeralPlace where
  /-- Behind the minus sign. -/
  | sign
  /-- Behind a leading zero. -/
  | zero
  | whole
  /-- Behind the point. -/
  | point
  | fraction
  /-- Behind the letter of the exponent. -/
  | mark
  /-- Behind the sign of the exponent. -/
  | markSign
  | exponent
  deriving DecidableEq, Repr

/-- Whether a numeral may end here. -/
def NumeralPlace.accepts : NumeralPlace → Bool
  | zero | whole | fraction | exponent => true
  | sign | point | mark | markSign => false

/-- **A numeral behind its first character.**  Its place decides which characters may follow and
whether it could end here. -/
structure NumeralSpelling where
  place : NumeralPlace
  numeral : Numeral
  deriving DecidableEq, Repr

namespace NumeralSpelling

/-- What a character makes of a numeral. -/
inductive Step where
  | more (s : NumeralSpelling)
  /-- The character stands behind the numeral. -/
  | ended
  | invalid

def digit? (c : Char) : Option Nat := if c.isDigit then some (c.toNat - '0'.toNat) else none

def pushWhole (n : Numeral) (d : Nat) : Numeral := { n with whole := n.whole ++ [d] }

def pushFraction (n : Numeral) (d : Nat) : Numeral :=
  { n with fraction := some (n.fraction.getD [] ++ [d]) }

def pushExponent (n : Numeral) (d : Nat) : Numeral :=
  let (negative, ds) := n.exponent.getD (false, [])
  { n with exponent := some (negative, ds ++ [d]) }

/-- The spelling that a character opens, if it can open a numeral. -/
def open? (c : Char) : Option NumeralSpelling :=
  if c = '-' then some ⟨.sign, ⟨true, [], none, none⟩⟩
  else if c = '0' then some ⟨.zero, ⟨false, [0], none, none⟩⟩
  else (digit? c).map fun d => ⟨.whole, ⟨false, [d], none, none⟩⟩

/-- The point and the letter of the exponent, which may follow the digits before them. -/
def afterWhole (n : Numeral) (c : Char) : Step :=
  if c = '.' then .more ⟨.point, n⟩
  else if c = 'e' ∨ c = 'E' then .more ⟨.mark, n⟩
  else .ended

/-- **One character of a numeral.**  A zero at its start is its only digit before the point, and
where a digit is required nothing else may stand. -/
def step (s : NumeralSpelling) (c : Char) : Step :=
  match s.place, digit? c with
  | .sign, some d => .more ⟨if d = 0 then .zero else .whole, pushWhole s.numeral d⟩
  | .sign, none => .invalid
  | .zero, some _ => .invalid
  | .zero, none => afterWhole s.numeral c
  | .whole, some d => .more ⟨.whole, pushWhole s.numeral d⟩
  | .whole, none => afterWhole s.numeral c
  | .point, some d => .more ⟨.fraction, pushFraction s.numeral d⟩
  | .point, none => .invalid
  | .fraction, some d => .more ⟨.fraction, pushFraction s.numeral d⟩
  | .fraction, none => if c = 'e' ∨ c = 'E' then .more ⟨.mark, s.numeral⟩ else .ended
  | .mark, some d => .more ⟨.exponent, pushExponent s.numeral d⟩
  | .mark, none =>
    if c = '+' then .more ⟨.markSign, { s.numeral with exponent := some (false, []) }⟩
    else if c = '-' then .more ⟨.markSign, { s.numeral with exponent := some (true, []) }⟩
    else .invalid
  | .markSign, some d => .more ⟨.exponent, pushExponent s.numeral d⟩
  | .markSign, none => .invalid
  | .exponent, some d => .more ⟨.exponent, pushExponent s.numeral d⟩
  | .exponent, none => .ended

end NumeralSpelling

end WireHeaders.Json
