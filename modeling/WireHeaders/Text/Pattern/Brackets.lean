import WireHeaders.Text.Character
import WireHeaders.Text.Pattern

/-!
# Reading the parts of a pattern

Single characters, escapes, and sets between brackets.

## Main definitions

* `Pattern.skip` — what follows blanks and comments
* `Pattern.escape`, `Pattern.atom` — one character or what an escape stands for
* `Pattern.OpenSet` and `Pattern.setStep` — brackets that are open, and one more part of them
* `Pattern.readSet` — a set up to its closing bracket

## Design notes

**Verbose patterns.**  With the option for it blanks mean nothing and a number sign begins a
comment, between brackets too.

**Hyphens.**  Between brackets a hyphen makes a range of its two neighbours, unless it comes first
or last or is doubled.
-/

namespace WireHeaders.Pattern

/-! ## Blanks -/

/-- What follows blanks and comments, perhaps starting inside a comment. -/
def skipFrom (inComment : Bool) : List Char → List Char
  | [] => []
  | c :: rest =>
    if inComment then skipFrom (c ≠ '\n') rest
    else if Character.isWhitespace c then skipFrom false rest
    else if c = '#' then skipFrom true rest
    else c :: rest

/-- What follows blanks and comments, if they are passed over. -/
def skip (verbose : Bool) (text : List Char) : List Char :=
  if verbose then skipFrom false text else text

/-- The character that decides whether a hyphen before the text makes a range.  Of a comment only
the sign and the blanks behind it are passed over. -/
def peek (verbose : Bool) (text : List Char) : Option Char :=
  if !verbose then text.head?
  else
    let next := text.dropWhile Character.isWhitespace
    let next := match next with
      | '#' :: rest => rest.dropWhile Character.isWhitespace
      | _ => next
    next.head? <|> text.head?

/-! ## Escapes -/

/-- Characters that stand for themselves behind a backslash. -/
def isEscapable (c : Char) : Bool := c.toNat < 0x80 && !c.isAlphanum && c ≠ '<' && c ≠ '>'

/-- The control character that a letter stands for behind a backslash. -/
def controlOf? (c : Char) : Option Char :=
  [('a', '\x07'), ('f', '\x0c'), ('t', '\t'), ('n', '\n'), ('r', '\r'), ('v', '\x0b')].lookup c

def digitValue? (c : Char) : Option Nat :=
  if c.isDigit then some (c.toNat - '0'.toNat)
  else if 'a' ≤ c ∧ c ≤ 'f' then some (c.toNat - 'a'.toNat + 10)
  else if 'A' ≤ c ∧ c ≤ 'F' then some (c.toNat - 'A'.toNat + 10)
  else none

/-- So many more hexadecimal digits behind a value. -/
def hexDigits (verbose : Bool) : Nat → Nat → List Char → Option (Nat × List Char)
  | 0, value, text => some (value, text)
  | count + 1, value, text =>
    match skip verbose text with
    | [] => none
    | c :: rest =>
      match digitValue? c with
      | none => none
      | some digit => hexDigits verbose count (16 * value + digit) rest

/-- A character by its number. -/
def hexEscape (verbose : Bool) (count : Nat) (text : List Char) : Option (Pattern × List Char) :=
  match hexDigits verbose count 0 text with
  | none => none
  | some (n, rest) =>
    if n < 0xD800 ∨ (0xDFFF < n ∧ n < 0x110000) then
      some (.character (Char.ofNat n) (count = 2), rest)
    else none

/-- **What a backslash before the text stands for.**  Classes by the names of scripts are not
known, and nothing refers back to a group. -/
def escape (verbose : Bool) : List Char → Option (Pattern × List Char)
  | [] => none
  | c :: rest =>
    if c = 'x' then hexEscape verbose 2 rest
    else if c = 'u' then hexEscape verbose 4 rest
    else if c = 'U' then hexEscape verbose 8 rest
    else if c ∈ ['d', 's', 'w', 'D', 'S', 'W'] then some (.shorthand c, rest)
    else if c ∈ ['b', 'B', '<', '>'] then some (.wordBoundary, rest)
    else if c ∈ ['A', 'z'] then some (.anchor, rest)
    else
      match controlOf? c with
      | some control => some (.character control false, rest)
      | none => if isEscapable c then some (.character c false, rest) else none

/-- **One character of a pattern**, or what an escape stands for. -/
def atom (verbose : Bool) : List Char → Option (Pattern × List Char)
  | [] => none
  | c :: rest =>
    if c = '\\' then escape verbose rest
    else if c = '.' then some (.any, rest)
    else if c = '^' ∨ c = '$' then some (.anchor, rest)
    else some (.character c false, rest)

/-! ## Brackets -/

def classNames : List (List Char) :=
  ["alnum", "alpha", "ascii", "blank", "cntrl", "digit", "graph", "lower", "print", "punct",
    "space", "upper", "word", "xdigit"].map String.toList

/-- A class by its name between colons, with the closing bracket behind it. -/
def named? : List Char → Option (CharacterSet × List Char)
  | ':' :: text =>
    let (negated, text) := match text with
      | '^' :: rest => (true, rest)
      | _ => (false, text)
    let name := text.takeWhile (· ≠ ':')
    match text.dropWhile (· ≠ ':') with
    | ':' :: ']' :: rest =>
      if classNames.contains name then some (.named name negated, rest) else none
    | _ => none
  | _ => none

/-- **Brackets that are open.**  All members up to an operation are its left side, so they are kept
as one set when it comes. -/
structure OpenSet where
  negated : Bool
  /-- Whether a hyphen or a closing bracket would come first. -/
  fresh : Bool
  /-- What stands before the latest operation, and that operation. -/
  left : Option (CharacterSet × SetOperation)
  /-- The members behind it, last one first. -/
  members : List CharacterSet

namespace OpenSet

def opening (negated : Bool) : OpenSet := ⟨negated, true, none, []⟩

def add (s : OpenSet) (member : CharacterSet) : OpenSet :=
  { s with members := member :: s.members }

/-- What stands between the brackets so far. -/
def content (s : OpenSet) : CharacterSet :=
  let right := match s.members with
    | [] => .empty
    | [member] => member
    | members => .union members.reverse
  match s.left with
  | none => right
  | some (left, operation) => .combined operation left right

/-- Goes on behind an operation. -/
def operate (s : OpenSet) (operation : SetOperation) : OpenSet :=
  ⟨s.negated, s.fresh, some (s.content, operation), []⟩

end OpenSet

/-- What an opening bracket before the text begins. -/
def openSet (verbose : Bool) (text : List Char) : OpenSet × List Char :=
  match skip verbose text with
  | '^' :: rest => (.opening true, rest)
  | text => (.opening false, text)

/-- The operation that two equal characters stand for. -/
def operation? : List Char → Option (SetOperation × List Char)
  | '&' :: '&' :: rest => some (.intersection, rest)
  | '-' :: '-' :: rest => some (.difference, rest)
  | '~' :: '~' :: rest => some (.symmetricDifference, rest)
  | _ => none

/-- One character between brackets, or what an escape stands for. -/
def setAtom (verbose : Bool) : List Char → Option (Pattern × List Char)
  | [] => none
  | c :: rest => if c = '\\' then escape verbose rest else some (.character c false, rest)

/-- What stands between brackets for itself. -/
def member? : Pattern → Option CharacterSet
  | .character c _ => some (.character c)
  | .shorthand letter => some (.shorthand letter)
  | _ => none

/-- **A character, a class or a range** between brackets. -/
def setMember (verbose : Bool) (text : List Char) : Option (CharacterSet × List Char) := do
  let (first, rest) ← setAtom verbose text
  let single := (member? first).map fun member => (member, rest)
  match skip verbose rest with
  | '-' :: behind =>
    let next := peek verbose behind
    if next = some ']' ∨ next = some '-' then single
    else
      let (last, rest) ← setAtom verbose (skip verbose behind)
      match first, last with
      | .character a _, .character b _ => if a ≤ b then some (.range a b, rest) else none
      | _, _ => none
  | _ => single

/-- What one more part of a set leads to. -/
inductive SetStep where
  /-- Open brackets, and those around them. -/
  | more (outer : List OpenSet) (current : OpenSet)
  /-- The outermost brackets are closed. -/
  | closed (s : CharacterSet)

def closeSet (outer : List OpenSet) (current : OpenSet) : SetStep :=
  let s := CharacterSet.brackets current.negated current.content
  match outer with
  | [] => .closed s
  | parent :: outer => .more outer (parent.add s)

/-- **One more part of a set.** -/
def setStep (verbose : Bool) (outer : List OpenSet) (current : OpenSet) (text : List Char) :
    Option (SetStep × List Char) :=
  let settled := { current with fresh := false }
  match text with
  | [] => none
  | c :: rest =>
    if current.fresh && c = '-' then some (.more outer (current.add (.character c)), rest)
    else if current.fresh && current.members.isEmpty && c = ']' then
      some (.more outer (settled.add (.character c)), rest)
    else if c = '[' then
      match named? rest with
      | some (member, rest) => some (.more outer (settled.add member), rest)
      | none =>
        let (inner, rest) := openSet verbose rest
        some (.more (settled :: outer) inner, rest)
    else if c = ']' then some (closeSet outer settled, rest)
    else
      match operation? text with
      | some (operation, rest) => some (.more outer (settled.operate operation), rest)
      | none =>
        match setMember verbose text with
        | some (member, rest) => some (.more outer (settled.add member), rest)
        | none => none

/-- **A set up to its closing bracket**, behind what was read of it. -/
def readSet (verbose : Bool) (outer : List OpenSet) (current : OpenSet) (text : List Char) :
    Option (CharacterSet × List Char) :=
  match setStep verbose outer current (skip verbose text) with
  | none => none
  | some (.closed s, rest) => some (s, rest)
  | some (.more outer current, rest) =>
    if rest.length < text.length then readSet verbose outer current rest else none
termination_by text.length

/-- A set behind its opening bracket. -/
def set? (verbose : Bool) (text : List Char) : Option (CharacterSet × List Char) :=
  let (current, rest) := openSet verbose text
  readSet verbose [] current rest

end WireHeaders.Pattern
