/-!
# Patterns

A pattern is a regular expression.  Nothing is matched with patterns here; it only matters which
of them can be put to use.

## Main definitions

* `CharacterSet` — what stands between brackets
* `Pattern` — a pattern
* `Pattern.Mode` — how a part of a pattern is read
* `Pattern.check` — whether a pattern can be put to use
* `Pattern.depth` — how deep a pattern is nested

## Design notes

**Modes.**  A pattern speaks of characters or, without the option for them, of bytes.  No tables of
letters are at hand, so what depends on them is refused among characters: letters in either case,
shorthands such as `\d`, and the boundaries of words.  Among bytes it is allowed, but nothing that
would match a part of a character is: no byte outside ASCII, and no complement.

**Options.**  An option in the middle of a pattern holds up to the end of its group, in all later
branches too.  So a pattern is checked from left to right with the mode handed on.
-/

namespace WireHeaders

/-- What two sets between brackets are combined by. -/
inductive SetOperation where
  | intersection
  | difference
  | symmetricDifference
  deriving DecidableEq, Repr

/-- **A set of characters**, as it is written between brackets.  It is never filled: whether it can
be put to use depends on its parts only. -/
inductive CharacterSet where
  | empty
  | character (c : Char)
  | range (first last : Char)
  /-- A class of ASCII characters by its name, or its complement. -/
  | named (name : List Char) (negated : Bool)
  /-- A class by a letter, which is a capital for the complement. -/
  | shorthand (letter : Char)
  /-- Brackets around a set, or around its complement. -/
  | brackets (negated : Bool) (inner : CharacterSet)
  | union (members : List CharacterSet)
  | combined (operation : SetOperation) (left right : CharacterSet)

namespace Pattern

/-- **How a part of a pattern is read.**  Options change it from where they stand to the end
of their group. -/
structure Mode where
  /-- Whether letters stand for themselves in either case. -/
  ignoreCase : Bool
  /-- Whether the pattern speaks of characters rather than bytes. -/
  characters : Bool
  deriving DecidableEq, Repr

def Mode.initial : Mode := ⟨false, true⟩

/-- Options that a pattern turns on or off. -/
structure Change where
  ignoreCase : Option Bool
  characters : Option Bool
  /-- Whether blanks and comments are passed over. -/
  verbose : Option Bool
  deriving DecidableEq, Repr

def Change.none : Change := ⟨.none, .none, .none⟩

/-- A mode after a change. -/
def Mode.apply (mode : Mode) (change : Change) : Mode :=
  ⟨change.ignoreCase.getD mode.ignoreCase, change.characters.getD mode.characters⟩

/-- Whether a shorthand can be put to use. -/
def Mode.allowsShorthand (mode : Mode) (letter : Char) : Bool := !mode.characters && letter.isLower

end Pattern

/-- **A pattern.**  What does not matter for its use is left out, such as how often something is
repeated and what a group is called. -/
inductive Pattern where
  | empty
  /-- Options that hold from here on. -/
  | options (change : Pattern.Change)
  /-- A character, perhaps one that is written as a byte. -/
  | character (c : Char) (asByte : Bool)
  | any
  /-- The start or the end of a line or of the text. -/
  | anchor
  | wordBoundary
  /-- A class by a letter, which is a capital for the complement. -/
  | shorthand (letter : Char)
  | set (s : CharacterSet)
  | repeated (p : Pattern)
  /-- A group, and the options that hold in it. -/
  | group (change : Pattern.Change) (p : Pattern)
  | sequence (parts : List Pattern)
  | choice (branches : List Pattern)

namespace CharacterSet

open Pattern (Mode)

/-- Whether a character in a set can be put to use. -/
def allowsCharacter (mode : Mode) (c : Char) : Bool :=
  if mode.characters then !mode.ignoreCase else c.toNat < 0x80

mutual

/-- **Whether a set can be put to use.** -/
def isAllowed (mode : Mode) : CharacterSet → Bool
  | .empty => true
  | .character c => allowsCharacter mode c
  | .range first last => allowsCharacter mode first && allowsCharacter mode last
  | .named _ negated => if mode.characters then !mode.ignoreCase else !negated
  | .shorthand letter => mode.allowsShorthand letter
  | .brackets negated inner => (mode.characters || !negated) && isAllowed mode inner
  | .union members => allAllowed mode members
  | .combined _ left right => isAllowed mode left && isAllowed mode right

def allAllowed (mode : Mode) : List CharacterSet → Bool
  | [] => true
  | s :: rest => isAllowed mode s && allAllowed mode rest

end

mutual

/-- How deep brackets, unions and operations are nested. -/
def depth : CharacterSet → Nat
  | .empty | .character _ | .range .. | .named .. | .shorthand _ => 0
  | .brackets _ inner => depth inner + 1
  | .union members => greatestDepth members + 1
  | .combined _ left right => max (depth left) (depth right) + 1

def greatestDepth : List CharacterSet → Nat
  | [] => 0
  | s :: rest => max (depth s) (greatestDepth rest)

end

end CharacterSet

namespace Pattern

mutual

/-- **The mode behind a pattern**, if it can be put to use.  Options change the mode for what
follows them, and the end of a group brings back the mode before it. -/
def check (mode : Mode) : Pattern → Option Mode
  | .empty | .anchor => some mode
  | .options change => some (mode.apply change)
  | .character c asByte =>
    let allowed := if mode.characters then !mode.ignoreCase else !asByte || c.toNat < 0x80
    if allowed then some mode else none
  | .any => if mode.characters then some mode else none
  | .wordBoundary => if mode.characters then none else some mode
  | .shorthand letter => if mode.allowsShorthand letter then some mode else none
  | .set s => if s.isAllowed mode then some mode else none
  | .repeated p => check mode p
  | .group change p => (check (mode.apply change) p).map fun _ => mode
  | .sequence parts => checkAll mode parts
  | .choice branches => checkAll mode branches

/-- The mode behind several patterns, one after the other. -/
def checkAll (mode : Mode) : List Pattern → Option Mode
  | [] => some mode
  | p :: rest =>
    match check mode p with
    | none => none
    | some mode => checkAll mode rest

end

mutual

/-- **How deep a pattern is nested**: groups, repetitions, sequences, choices and brackets count. -/
def depth : Pattern → Nat
  | .empty | .options _ | .character .. | .any | .anchor | .wordBoundary | .shorthand _ => 0
  | .set s => s.depth
  | .repeated p => depth p + 1
  | .group _ p => depth p + 1
  | .sequence parts => greatestDepth parts + 1
  | .choice branches => greatestDepth branches + 1

def greatestDepth : List Pattern → Nat
  | [] => 0
  | p :: rest => max (depth p) (greatestDepth rest)

end

def maxDepth : Nat := 250

/-- **Whether a pattern can be put to use.**  Well-formed patterns are still refused when they nest
too deep, or when they ask for what no table here can answer. -/
def isUsable (p : Pattern) : Bool := decide (p.depth ≤ maxDepth) && (p.check .initial).isSome

end Pattern

end WireHeaders
