import WireHeaders.Text.Character.Table

/-!
# Character classes

Classes of characters in all scripts.

## Main definitions

* `Character.isAlphabetic`, `Character.isAlphanumeric` — letters, and letters and numerals
* `Character.isWhitespace` — blanks
-/

namespace WireHeaders.Character

def isAlphabetic (c : Char) : Bool := alphabeticRanges.contains c

/-- Letters, digits and other numerals. -/
def isAlphanumeric (c : Char) : Bool := isAlphabetic c || numericRanges.contains c

def isWhitespace (c : Char) : Bool := whitespaceRanges.contains c

end WireHeaders.Character
