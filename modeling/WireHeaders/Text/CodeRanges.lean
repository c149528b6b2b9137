/-!
# Ranges of characters

A property of characters, given by the ranges of code points that have it.

## Main definitions

* `CodeRanges` — a list of inclusive ranges
* `CodeRanges.contains` — whether a character lies in one of them
-/

namespace WireHeaders

/-- A property of characters as inclusive ranges of code points. -/
abbrev CodeRanges := List (Nat × Nat)

/-- Whether a character lies in one of the ranges. -/
def CodeRanges.contains (ranges : CodeRanges) (c : Char) : Bool :=
  ranges.any fun r => r.1 ≤ c.toNat && c.toNat ≤ r.2

end WireHeaders
