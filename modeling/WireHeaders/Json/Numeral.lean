import WireHeaders.Json.Fault
import WireHeaders.Number.Shortest

/-!
# JSON numerals

A number as it is spelled in a text, and what it denotes.

## Main definitions

* `Json.Numeral` — sign, digits, fraction and exponent of a numeral
* `Json.Numeral.ofInt` — the spelling of an integer
* `Json.Number` — a word-sized integer or a floating-point number
* `Json.Numeral.value` — what a numeral denotes
* `Json.floatFormat` — how a floating-point number is shown in a message

## Design notes

Numerals without fraction and exponent denote integers as long as they fit 64 bits; every other
numeral, and `-0`, denotes a floating-point number.  Of a floating-point numeral the digits are
collected into one 64-bit significand, and digits that would overflow it only move the exponent.
-/

namespace WireHeaders.Json

/-- **A number as it is spelled.**  The spelling is kept and not the value, since equal values may
be integers or not by the way they are written. -/
structure Numeral where
  negative : Bool
  /-- The digits before the point. -/
  whole : List Nat
  /-- The digits after the point, if there is a point. -/
  fraction : Option (List Nat)
  /-- Whether the exponent is negative, and its digits. -/
  exponent : Option (Bool × List Nat)
  deriving DecidableEq, Repr

def ofDigits (ds : List Nat) : Nat := ds.foldl (fun n d => 10 * n + d) 0

def digitsOf (n : Nat) : List Nat := (Nat.toDigits 10 n).map (fun c => c.toNat - '0'.toNat)

def Numeral.ofInt (n : Int) : Numeral := ⟨n < 0, digitsOf n.natAbs, none, none⟩

/-- **What a numeral denotes.**  Negative integers are kept by their absolute value, and none of
them is zero: a zero with a sign is a floating-point number. -/
inductive Number where
  /-- A natural number below `2 ^ 64`. -/
  | natural (n : Nat)
  /-- A negative integer of at least `-2 ^ 63`, by its absolute value. -/
  | negative (n : Nat)
  | floating (x : Double)
  deriving DecidableEq, Repr

def maxWord : Nat := Nat.pow 2 64 - 1

/-- **Digits collected into a significand.**  Gives the significand and the digits from the first
one on that would overflow it. -/
def collectDigits (significand : Nat) : List Nat → Nat × List Nat
  | [] => (significand, [])
  | d :: ds =>
    if 10 * significand + d ≤ maxWord then collectDigits (10 * significand + d) ds
    else (significand, d :: ds)

/-- The largest exponent that is still counted. -/
def maxExponent : Nat := Nat.pow 2 31 - 1

/-- **A significand with a decimal exponent.**  An exponent beyond counting makes a number that is
zero or out of range. -/
def scaled (significand : Nat) (power : Int) (exponent : Option (Bool × List Nat)) :
    Option Double :=
  match exponent with
  | none => Double.scale10? significand power
  | some (negative, ds) =>
    let n := ofDigits ds
    if n ≤ maxExponent then
      Double.scale10? significand (if negative then power - n else power + n)
    else if significand = 0 ∨ negative then some Double.zero
    else none

/-- The floating-point value of a numeral, without its sign.  Of the digits that do not fit the
significand those before the point raise the exponent, and those behind it do not count. -/
def Numeral.double? (numeral : Numeral) : Option Double :=
  let (significand, dropped) := collectDigits 0 numeral.whole
  match numeral.fraction with
  | none => scaled significand dropped.length numeral.exponent
  | some fraction =>
    let (significand, unread) := collectDigits significand fraction
    let places := fraction.length - unread.length
    -- Only the places that were read lower the exponent.
    scaled significand (dropped.length - places) numeral.exponent

/-- **What a numeral denotes**, or the fault of a number that is too large.  Whole
numbers stay exact as far as 64 bits go; every other numeral, minus zero included,
denotes a floating-point number. -/
def Numeral.value (numeral : Numeral) : Except TextFault Number :=
  let n := ofDigits numeral.whole
  let float : Except TextFault Number :=
    match numeral.double? with
    | some x => .ok (.floating (x.withSign numeral.negative))
    | none => .error .numberOutOfRange
  if numeral.fraction.isSome ∨ numeral.exponent.isSome then float
  else if numeral.negative then if 0 < n ∧ n ≤ Nat.pow 2 63 then .ok (.negative n) else float
  else if n ≤ maxWord then .ok (.natural n)
  else float

/-- **How a floating-point number is shown**: with an exponent below `10 ^ -5` and from
`10 ^ 16` on. -/
def floatFormat : Double.Format := ⟨fun e => -5 ≤ e ∧ e ≤ 15⟩

/-- A number in the words of a message. -/
def Number.found : Number → Found
  | natural n => .integer (toString n)
  | negative n => .integer ("-" ++ toString n)
  | floating x => .floating (x.text floatFormat)

end WireHeaders.Json
