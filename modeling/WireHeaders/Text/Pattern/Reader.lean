import WireHeaders.Text.Pattern.Brackets

/-!
# Reading patterns

A machine with a stack of open groups takes a pattern part by part.

## Main definitions

* `Pattern.change?` — the options that a group may begin with
* `Pattern.Reader` — the state of the machine
* `Pattern.Reader.step`, `Pattern.Reader.finish` — one part, and the end of the text
* `Pattern.ofText?` — a pattern from its text
* `Pattern.isPattern` — whether a text is a pattern that can be put to use

## Design notes

**Counts.**  A repetition with a count is not read: the texts that patterns come from end at their
first closing brace, so an opening one outside brackets never has its fellow.

**Nothing to repeat.**  A sign of repetition must follow something that matches; options, the start
of a branch and the start of a group do not.
-/

namespace WireHeaders.Pattern

/-- Whether a group that begins like this looks around instead of matching. -/
def looksAround (text : List Char) : Bool :=
  [['?', '='], ['?', '!'], ['?', '<', '='], ['?', '<', '!']].any fun start =>
    start.isPrefixOf text

/-- The name of a group up to the sign that closes it. -/
def groupName? (text : List Char) : Option (List Char × List Char) :=
  let continues (c : Char) : Bool :=
    c = '_' || c = '.' || c = '[' || c = ']' || Character.isAlphanumeric c
  match text.takeWhile (· ≠ '>'), text.dropWhile (· ≠ '>') with
  | first :: more, _ :: rest =>
    if (first = '_' || Character.isAlphabetic first) && more.all continues then
      some (first :: more, rest)
    else none
  | _, _ => none

/-- What a row of options says about one of them. -/
def stateOf (letters : List Char) (letter : Char) : Option Bool :=
  if letter ∈ letters.takeWhile (· ≠ '-') then some true
  else if letter ∈ letters then some false
  else none

/-- **The options that a row of letters stands for.**  Those behind a hyphen are turned off.  No
letter comes twice, and the hyphen neither twice nor last. -/
def change? (letters : List Char) : Option Change :=
  if letters.all (· ∈ ['-', 'i', 'm', 's', 'U', 'u', 'R', 'x']) && decide letters.Nodup &&
      letters.getLast? ≠ some '-' then
    some ⟨stateOf letters 'i', stateOf letters 'u', stateOf letters 'x'⟩
  else none

/-- A group that is open: what stands before it, and what holds in it. -/
structure OpenGroup where
  /-- Whether blanks are passed over behind the group. -/
  verbose : Bool
  change : Change
  /-- The branches before the group, last one first. -/
  branches : List Pattern
  /-- The parts before the group in its branch, last one first. -/
  parts : List Pattern

/-- **The machine.**  An open group keeps what stands before it, and closing it adds one part to
that.  The names of groups outlast them, since no two groups may have the same one. -/
structure Reader where
  /-- The open groups, innermost first. -/
  groups : List OpenGroup
  /-- The branches that are complete, last one first. -/
  branches : List Pattern
  /-- The parts of the current branch, last one first. -/
  parts : List Pattern
  /-- Whether blanks are passed over. -/
  verbose : Bool
  /-- The names of groups so far. -/
  names : List (List Char)

namespace Reader

def initial : Reader := ⟨[], [], [], false, []⟩

def add (r : Reader) (p : Pattern) : Reader := { r with parts := p :: r.parts }

def branch (r : Reader) : Pattern :=
  match r.parts with
  | [] => .empty
  | [p] => p
  | parts => .sequence parts.reverse

/-- What stands in the innermost open group, or in the whole pattern. -/
def content (r : Reader) : Pattern :=
  match r.branches with
  | [] => r.branch
  | branches => .choice (r.branch :: branches).reverse

def openGroup (r : Reader) (change : Change) : Reader :=
  { r with
    groups := ⟨r.verbose, change, r.branches, r.parts⟩ :: r.groups
    branches := []
    parts := []
    verbose := change.verbose.getD r.verbose }

def closeGroup (r : Reader) : Option Reader :=
  match r.groups with
  | [] => none
  | g :: groups =>
    some ⟨groups, g.branches, .group g.change r.content :: g.parts, g.verbose, r.names⟩

def openNamed (r : Reader) (text : List Char) : Option (Reader × List Char) :=
  match groupName? text with
  | none => none
  | some (name, rest) =>
    if r.names.contains name then none
    else some ({ r with names := name :: r.names }.openGroup .none, rest)

/-- Opens a group with options, or sets options. -/
def openOptions (r : Reader) (text : List Char) : Option (Reader × List Char) :=
  let isOption (c : Char) : Bool := c ≠ ':' && c ≠ ')'
  let letters := text.takeWhile isOption
  match text.dropWhile isOption, change? letters with
  | ':' :: rest, some change => some (r.openGroup change, rest)
  | ')' :: rest, some change =>
    if letters.isEmpty then none
    else some ({ r with verbose := change.verbose.getD r.verbose }.add (.options change), rest)
  | _, _ => none

/-- What an opening parenthesis before the text begins. -/
def beginGroup (r : Reader) (text : List Char) : Option (Reader × List Char) :=
  let text := skip r.verbose text
  if looksAround text then none
  else
    match text with
    | '?' :: 'P' :: '<' :: rest => r.openNamed rest
    | '?' :: '<' :: rest => r.openNamed rest
    | '?' :: rest => r.openOptions rest
    | _ => some (r.openGroup .none, text)

/-- Repeats the last part.  A question mark behind the sign goes with it. -/
def repeatLast (r : Reader) (text : List Char) : Option (Reader × List Char) :=
  let rest := match text with
    | '?' :: rest => rest
    | _ => text
  match r.parts with
  | [] | .options _ :: _ => none
  | p :: parts => some ({ r with parts := .repeated p :: parts }, rest)

/-- **One part of a pattern.**  An opening brace would begin a count and never finds its end here,
so it is refused. -/
def step (r : Reader) (text : List Char) : Option (Reader × List Char) :=
  match text with
  | [] => none
  | c :: rest =>
    if c = '(' then r.beginGroup rest
    else if c = ')' then r.closeGroup.map fun r => (r, rest)
    else if c = '|' then some ({ r with branches := r.branch :: r.branches, parts := [] }, rest)
    else if c = '[' then (set? r.verbose rest).map fun (s, rest) => (r.add (.set s), rest)
    else if c = '?' ∨ c = '*' ∨ c = '+' then r.repeatLast rest
    else if c = '\x7b' then none
    else (atom r.verbose text).map fun (p, rest) => (r.add p, rest)

/-- The whole pattern. -/
def finish (r : Reader) : Option Pattern := if r.groups.isEmpty then some r.content else none

/-- **The rest of a pattern**, part by part. -/
def run (r : Reader) (text : List Char) : Option Pattern :=
  match skip r.verbose text with
  | [] => r.finish
  | c :: rest =>
    match r.step (c :: rest) with
    | none => none
    | some (r, rest) => if rest.length < text.length then r.run rest else none
termination_by text.length

end Reader

/-- **A pattern from its text.** -/
def ofText? (text : List Char) : Option Pattern := Reader.initial.run text

/-- **Whether a text is a pattern that can be put to use.**  Nothing is ever matched here, so this
is all that a filter asks of a pattern. -/
def isPattern (text : List Char) : Bool := (ofText? text).any isUsable

end WireHeaders.Pattern
