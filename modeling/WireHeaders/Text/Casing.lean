import WireHeaders.Text.Casing.Table

/-!
# Letter case

The full case mappings of text: one letter may become several, and a capital sigma becomes small
in the form that its place in the word asks for.

## Main definitions

* `Casing.upper`, `Casing.lower` — the mapping of one character
* `Casing.uppercase`, `Casing.lowercase` — the mapping of a text
* `Casing.capitalize` — the first character in upper case, the rest in lower case
* `Casing.IsUpper`, `Casing.IsLower` — a text with a case that is already in it

## Design notes

ASCII has its own branch in every definition, so that a statement about ASCII texts never looks
into the tables.
-/

namespace WireHeaders.Casing

def ofCode (n : Nat) : Char := Char.ofNat n

/-- The image of a code point under a table of runs, if one of the runs holds it. -/
def runImage (runs : List (Nat × Nat × Nat × Nat)) (n : Nat) : Option Nat :=
  runs.findSome? fun (first, last, step, target) =>
    if first ≤ n ∧ n ≤ last ∧ (n - first) % step = 0 then some (target + (n - first)) else none

/-- The image of a character under a table of runs and a table of longer images. -/
def mapChar (runs : List (Nat × Nat × Nat × Nat)) (special : List (Nat × List Nat)) (c : Char) :
    List Char :=
  match special.lookup c.toNat with
  | some image => image.map ofCode
  | none =>
    match runImage runs c.toNat with
    | some image => [ofCode image]
    | none => [c]

/-- A character in upper case. -/
def upper (c : Char) : List Char :=
  if c.toNat < 0x80 then [c.toUpper] else mapChar upperRuns upperSpecial c

/-- A character in lower case, wherever it stands. -/
def lower (c : Char) : List Char :=
  if c.toNat < 0x80 then [c.toLower] else mapChar lowerRuns lowerSpecial c

/-- Whether a character is a capital, small or title-case letter. -/
def isCased (c : Char) : Bool :=
  if c.toNat < 0x80 then c.isAlpha else casedRanges.contains c

/-- Whether a character is passed over when the case of a neighbour is looked up. -/
def isIgnorable (c : Char) : Bool := ignorableRanges.contains c

/-- Whether the first character that is not passed over has a case. -/
def meetsCased (cs : List Char) : Bool :=
  match cs.dropWhile isIgnorable with
  | [] => false
  | c :: _ => isCased c

def uppercase (cs : List Char) : List Char := cs.flatMap upper

/-- **A text in lower case, behind the characters `before`, nearest first.**  A capital sigma that
ends a word, with a cased letter before it and none after it, becomes the final form. -/
def lowercaseAfter (before : List Char) : List Char → List Char
  | [] => []
  | c :: rest =>
    (if c = 'Σ' then [if meetsCased before && !meetsCased rest then 'ς' else 'σ'] else lower c) ++
      lowercaseAfter (c :: before) rest

def lowercase (cs : List Char) : List Char := lowercaseAfter [] cs

/-- The first character in upper case and the others, as a text of their own, in lower case. -/
def capitalize : List Char → List Char
  | [] => []
  | c :: rest => upper c ++ lowercase rest

/-- **A text in upper case.**  Its two mappings differ and it is the upper one. -/
def IsUpper (cs : List Char) : Prop := uppercase cs ≠ lowercase cs ∧ cs = uppercase cs

/-- **A text in lower case.**  Its two mappings differ and it is the lower one. -/
def IsLower (cs : List Char) : Prop := uppercase cs ≠ lowercase cs ∧ cs = lowercase cs

instance (cs : List Char) : Decidable (IsUpper cs) := inferInstanceAs (Decidable (_ ∧ _))

instance (cs : List Char) : Decidable (IsLower cs) := inferInstanceAs (Decidable (_ ∧ _))

@[simp]
theorem uppercase_cons (c : Char) (cs : List Char) :
    uppercase (c :: cs) = upper c ++ uppercase cs := rfl

/-- An ASCII character has one upper-case form. -/
theorem upper_of_ascii {c : Char} (h : c.toNat < 0x80) : upper c = [c.toUpper] := by
  simp [upper, h]

/-- An ASCII character has one lower-case form. -/
theorem lower_of_ascii {c : Char} (h : c.toNat < 0x80) : lower c = [c.toLower] := by
  simp [lower, h]

end WireHeaders.Casing
