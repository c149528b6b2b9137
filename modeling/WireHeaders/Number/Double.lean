/-!
# Binary floating-point numbers

Numbers `±m · 2^e` with at most 53 bits in `m`, computed exactly and rounded once per operation.

## Main definitions

* `Double` — a finite number of the format, with a sign
* `Double.round?` — a quotient of natural numbers rounded to the nearest such number, ties to even
* `Double.mul?`, `Double.div?` — the rounded product and quotient
* `Double.scale10?` — a whole number times a power of ten, rounded at each step
* `Double.ofDecimal?` — the same, rounded once

## Design notes

Everything is arithmetic on `Nat` and `Int`, so the digits of a number can be computed from it
without any machine operation.
-/

namespace WireHeaders

/-- **A finite binary floating-point number**, `mantissa · 2 ^ exponent` with a sign.  Its parts
are exact integers, so nothing but `round?` ever loses a digit. -/
structure Double where
  /-- Whether the sign is written; a zero may carry it too. -/
  negative : Bool
  mantissa : Nat
  exponent : Int
  deriving DecidableEq, Repr

namespace Double

/-- The exponent of the smallest numbers. -/
def minExponent : Int := -1074

/-- The exponent of the largest numbers. -/
def maxExponent : Int := 971

def precision : Nat := 53

def zero : Double := ⟨false, 0, minExponent⟩

/-- `n · 2 ^ e` as a quotient of natural numbers. -/
def ratioPow2 (n : Nat) (e : Int) : Nat × Nat :=
  if 0 ≤ e then (n * Nat.pow 2 e.toNat, 1) else (n, Nat.pow 2 (-e).toNat)

/-- The quotient of two numbers rounded to the nearest integer, ties to even. -/
def divToEven (num den : Nat) : Nat :=
  let q := num / den
  let r := num % den
  if 2 * r < den then q
  else if den < 2 * r then q + 1
  else if q % 2 = 0 then q else q + 1

/-- The exponent at which `num / den` has a mantissa of full precision, or the smallest one. -/
def exponentOf (num den : Nat) : Int :=
  let guess : Int := (Nat.log2 num : Int) - (Nat.log2 den : Int) - precision
  let (n, d) := ratioPow2 num (-guess)
  -- The difference of the logarithms is too small by one at most.
  let e := if Nat.pow 2 precision ≤ n / (d * den) then guess + 1 else guess
  max e minExponent

/-- **`num / den` rounded to the nearest number of the format**, ties to even; nothing when it is
too large for the format. -/
def round? (num den : Nat) : Option Double :=
  if num = 0 then some zero
  else
    let e := exponentOf num den
    let (n, d) := ratioPow2 num (-e)
    let m := divToEven n (d * den)
    -- Rounding up may carry into a bit that the mantissa does not have.
    let (m, e) := if m = Nat.pow 2 precision then (Nat.pow 2 (precision - 1), e + 1) else (m, e)
    if e ≤ maxExponent then some ⟨false, m, e⟩ else none

/-- The value of a number without its sign, as a quotient. -/
def ratio (x : Double) : Nat × Nat := ratioPow2 x.mantissa x.exponent

/-- The rounded product of two numbers, without signs. -/
def mul? (x y : Double) : Option Double :=
  let (a, b) := x.ratio
  let (c, d) := y.ratio
  round? (a * c) (b * d)

/-- The rounded quotient of two numbers, without signs. -/
def div? (x y : Double) : Option Double :=
  let (a, b) := x.ratio
  let (c, d) := y.ratio
  round? (a * d) (b * c)

def withSign (x : Double) (negative : Bool) : Double := { x with negative := negative }

/-- The largest power of ten below the largest number of the format. -/
def topPower : Nat := 308

/-- A number divided by ten `n` times over, in steps of at most `topPower`. -/
def shrink (fuel : Nat) (x : Double) (n : Nat) : Option Double :=
  match fuel with
  | 0 => some zero
  | fuel + 1 =>
    if n ≤ topPower then do x.div? (← round? (Nat.pow 10 n) 1)
    else if x.mantissa = 0 then some x
    else do shrink fuel (← x.div? (← round? (Nat.pow 10 topPower) 1)) (n - topPower)

/-- **A whole number times a power of ten.**  The number and the power are each rounded, and so is
their product or quotient; nothing when the result is too large for the format. -/
def scale10? (significand : Nat) (power : Int) : Option Double := do
  let x ← round? significand 1
  if power < 0 then shrink 4 x (-power).toNat
  else if x.mantissa = 0 then some x
  else if power.toNat ≤ topPower then x.mul? (← round? (Nat.pow 10 power.toNat) 1)
  else none

/-- **A decimal rounded once**, `digits · 10 ^ power`.  A power that is far from all numbers of the
format is not computed. -/
def ofDecimal? (digits : Nat) (power : Int) : Option Double :=
  let places : Int := (Nat.toDigits 10 digits).length
  if digits = 0 ∨ places + power < -400 then some zero
  else if 400 < places + power then none
  else if 0 ≤ power then round? (digits * Nat.pow 10 power.toNat) 1
  else round? digits (Nat.pow 10 (-power).toNat)

end Double

end WireHeaders
