import WireHeaders.Number.Double

/-!
# Shortest decimals

The fewest decimal digits that still read back as a given binary number.

## Main definitions

* `Double.contains` — whether a decimal rounds to a number
* `Double.shortest` — the shortest such decimal, and of several the nearest one
* `Double.Format` — where positional notation ends
* `Double.text` — a number written under a format

## Design notes

The search tries grids of decimals from coarse to fine.  If any point of a grid rounds to the
number then one of the number's two neighbours on that grid does, so two tests per grid suffice.
-/

namespace WireHeaders

namespace Double

/-- A decimal `digits · 10 ^ power`. -/
structure Decimal where
  digits : Nat
  power : Int
  deriving DecidableEq, Repr

def ratioPow10 (n : Nat) (p : Int) : Nat × Nat :=
  if 0 ≤ p then (n * Nat.pow 10 p.toNat, 1) else (n, Nat.pow 10 (-p).toNat)

/-- Whether `a / b ≤ c / d`. -/
def ratioLe (x y : Nat × Nat) : Bool := x.1 * y.2 ≤ y.1 * x.2

/-- **Whether a decimal rounds to `x`.**  It must lie between the middles to the neighbours of
`x`, and on a middle only if the mantissa is even.  The lower neighbour of a power of two is
nearer than the upper one. -/
def contains (x : Double) (d : Decimal) : Bool :=
  let isPow := x.mantissa = Nat.pow 2 (precision - 1) && minExponent < x.exponent
  let low := ratioPow2 (if isPow then 4 * x.mantissa - 1 else 4 * x.mantissa - 2) (x.exponent - 2)
  let high := ratioPow2 (4 * x.mantissa + 2) (x.exponent - 2)
  let v := ratioPow10 d.digits d.power
  if x.mantissa % 2 = 0 then ratioLe low v && ratioLe v high
  else !ratioLe v low && !ratioLe high v

/-- The largest point of the grid `10 ^ p` that is not above `x`. -/
def floorOn (x : Double) (p : Int) : Nat :=
  let (a, b) := x.ratio
  let (c, d) := ratioPow10 1 p
  (a * d) / (b * c)

/-- Whether `x` is at least as near to the grid point `n` as to `n + 1`, in units of `10 ^ p`. -/
def nearerBelow (x : Double) (p : Int) (n : Nat) : Bool :=
  let (a, b) := x.ratio
  let (c, d) := ratioPow10 1 p
  -- twice the distance to `n` against one unit
  let twice := 2 * (a * d - n * (b * c))
  twice < b * c || (twice == b * c && n % 2 == 0)

/-- The first grid, from `10 ^ p` down, with a point that rounds to `x`.  If both neighbours of `x`
do, the nearer one is taken, and the even one if `x` lies in the middle. -/
def searchFrom (x : Double) : Nat → Int → Decimal
  | 0, p => ⟨floorOn x p, p⟩
  | fuel + 1, p =>
    let n := floorOn x p
    let below := 0 < n && x.contains ⟨n, p⟩
    let above := x.contains ⟨n + 1, p⟩
    if below && above then if nearerBelow x p n then ⟨n, p⟩ else ⟨n + 1, p⟩
    else if below then ⟨n, p⟩
    else if above then ⟨n + 1, p⟩
    else searchFrom x fuel (p - 1)

/-- A power of ten above `x`. -/
def powerAbove (x : Double) : Int :=
  let bits : Int := Nat.log2 x.mantissa + 1 + x.exponent
  -- `30103 / 100000` is just above the decimal logarithm of two
  (bits * 30103).fdiv 100000 + 1

/-- **The shortest decimal that reads back as `x`**, and of several the nearest one.
Seventeen digits always suffice, so the search from a power of ten above `x` ends well before
its fuel does. -/
def shortest (x : Double) : Decimal := searchFrom x 20 (powerAbove x)

/-- **How a number is written.**  The two text formats agree on the digits and differ only in where
positional notation ends. -/
structure Format where
  /-- Whether a number whose first digit counts `10 ^ e` is written without an exponent. -/
  positional : Int → Bool

/-- The decimal digits of a number without trailing zeros, and the power of ten of the last. -/
def Decimal.trim : Nat → Decimal → Decimal
  | 0, d => d
  | fuel + 1, d =>
    if d.digits ≠ 0 ∧ d.digits % 10 = 0 then trim fuel ⟨d.digits / 10, d.power + 1⟩ else d

/-- A decimal in positional notation, always with a point and a digit on both sides of it. -/
def Decimal.positional (d : Decimal) : List Char :=
  let digits := Nat.toDigits 10 d.digits
  if 0 ≤ d.power then digits ++ List.replicate d.power.toNat '0' ++ ['.', '0']
  else
    let places := (-d.power).toNat
    if places < digits.length then
      digits.take (digits.length - places) ++ ['.'] ++ digits.drop (digits.length - places)
    else ['0', '.'] ++ List.replicate (places - digits.length) '0' ++ digits

/-- A decimal with an exponent, which carries its sign. -/
def Decimal.scientific (d : Decimal) : List Char :=
  let digits := Nat.toDigits 10 d.digits
  let e := d.power + digits.length - 1
  let sign := if e < 0 then ['e', '-'] else ['e', '+']
  let fraction := digits.drop 1
  digits.take 1 ++ (if fraction.isEmpty then [] else '.' :: fraction) ++
    sign ++ Nat.toDigits 10 e.natAbs

/-- **A number in the fewest digits that read back.**  Zero has no first digit to search from, so
it is written on its own, with its sign. -/
def text (format : Format) (x : Double) : String :=
  let sign := if x.negative then ['-'] else []
  if x.mantissa = 0 then String.ofList (sign ++ ['0', '.', '0'])
  else
    let d := x.shortest.trim 20
    let e := d.power + (Nat.toDigits 10 d.digits).length - 1
    String.ofList (sign ++ if format.positional e then d.positional else d.scientific)

end Double

end WireHeaders
