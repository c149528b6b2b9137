import WireHeaders.Json.Spelling

/-!
# Reading a JSON text

A machine with a stack of open containers takes a text one character at a time and leaves a
document.

## Main definitions

* `Json.Frame` — a container that is open around the place of the machine
* `Json.Phase` and `Json.Reader` — what the machine expects next, and its whole state
* `Json.Reader.step`, `Json.Reader.finish` — one character, and the end of the text
* `Json.Text` and `Json.readText` — a text as a document and what follows it

## Design notes

One character is one step and nothing is ever taken back, so a text is read by folding over its
characters, and reading `s ++ t` is reading `t` from the state that `s` leaves.
-/

namespace WireHeaders.Json

/-- A member that was read: its key and its value. -/
abbrev Member := StringContent × Document

/-- **A container that is open around the value being read.**  What it holds so far is kept last
one first. -/
inductive Frame where
  | items (done : List Document)
  | members (done : List Member) (key : StringContent)

/-- **What is expected next.**  While a value is read, the container around it waits on the stack;
between two values the phase holds what is in it so far. -/
inductive Phase where
  /-- A value. -/
  | start
  /-- The first item of an array, or its end. -/
  | firstItem
  /-- Another item of an array. -/
  | nextItem (done : List Document)
  /-- A comma in an array, or its end. -/
  | afterItem (done : List Document)
  /-- The first key of an object, or its end. -/
  | firstKey
  /-- Another key of an object. -/
  | nextKey (done : List Member)
  /-- More of a key. -/
  | key (done : List Member) (spelling : Spelling)
  /-- The colon behind a key. -/
  | colon (done : List Member) (key : StringContent)
  /-- A comma in an object, or its end. -/
  | afterMember (done : List Member)
  /-- More of a string. -/
  | string (spelling : Spelling)
  /-- More of a numeral. -/
  | numeral (spelling : NumeralSpelling)
  /-- The rest of a word that stands for a value. -/
  | word (rest : List Char) (value : Document)
  /-- Only blanks: the document is complete. -/
  | done (root : Document) (trailing : Bool)
  /-- Nothing: the text broke off. -/
  | broken (root : Document)

/-- **The machine**: the open containers, innermost first, and what is expected.  With the stack in
the state one character is one step, so a text can be cut anywhere. -/
structure Reader where
  stack : List Frame
  phase : Phase

/-- Items in reading order, with the given end. -/
def Items.ofReversed (done : List Document) (tail : Items) : Items :=
  done.foldl (fun rest d => .item d rest) tail

/-- Members in reading order, with the given end. -/
def Members.ofReversed (done : List Member) (tail : Members) : Members :=
  done.foldl (fun rest m => .member m.1 m.2 rest) tail

def isBlank (c : Char) : Bool := c = ' ' || c = '\n' || c = '\t' || c = '\r'

namespace Reader

def initial : Reader := ⟨[], .start⟩

/-- **A broken value and the containers around it.**  Each of them breaks off behind it with the
same break, so whoever comes that far meets it, wherever the value is nested. -/
def close (b : Break) : List Frame → Document → Document
  | [], d => d
  | .items done :: outer, d =>
    close b outer (.array (Items.ofReversed done (.item d (.broken b))))
  | .members done key :: outer, d =>
    close b outer (.object (Members.ofReversed done (.member key d (.broken b))))

/-- The text breaks off in `d`. -/
def breakOff (stack : List Frame) (b : Break) (d : Document) : Reader :=
  ⟨[], .broken (close b stack d)⟩

/-- The text breaks off where a value should be. -/
def breakValue (stack : List Frame) (b : Break) : Reader := breakOff stack b (.broken b)

def breakWord (stack : List Frame) (b : Break) : Reader := breakOff stack b (.unfinished b)

/-- The text breaks off behind an item or a comma of an array. -/
def breakItems (stack : List Frame) (done : List Document) (b : Break) : Reader :=
  breakOff stack b (.array (Items.ofReversed done (.broken b)))

/-- The text breaks off behind a member or a comma of an object, or at a key. -/
def breakMembers (stack : List Frame) (done : List Member) (b : Break) : Reader :=
  breakOff stack b (.object (Members.ofReversed done (.broken b)))

/-- The text breaks off between a key and its colon. -/
def breakColon (stack : List Frame) (done : List Member) (key : StringContent) (b : Break) :
    Reader :=
  breakOff stack b (.object (Members.ofReversed done (.member key (.broken b) (.broken b))))

/-- **A value is complete**: it goes into the innermost open container.  Without one it is the
whole document, and nothing but blanks may follow. -/
def complete (stack : List Frame) (d : Document) : Reader :=
  match stack with
  | [] => ⟨[], .done d false⟩
  | .items done :: outer => ⟨outer, .afterItem (d :: done)⟩
  | .members done key :: outer => ⟨outer, .afterMember ((key, d) :: done)⟩

/-- **The first character of a value**, which alone decides what the value can be.  A word is
expected letter by letter from here on. -/
def startValue (stack : List Frame) (c : Char) : Reader :=
  if c = '"' then ⟨stack, .string .empty⟩
  else if c = '[' then ⟨stack, .firstItem⟩
  else if c = '\x7b' then ⟨stack, .firstKey⟩
  else if c = 'n' then ⟨stack, .word ['u', 'l', 'l'] .null⟩
  else if c = 't' then ⟨stack, .word ['r', 'u', 'e'] (.bool true)⟩
  else if c = 'f' then ⟨stack, .word ['a', 'l', 's', 'e'] (.bool false)⟩
  else
    match NumeralSpelling.open? c with
    | some spelling => ⟨stack, .numeral spelling⟩
    | none => breakValue stack (.both .expectedValue)

/-- One character where a numeral is not being read.  Everything else ends with a character of its
own, so each character belongs to one part of the text. -/
def stepSettled (r : Reader) (c : Char) : Reader :=
  match r.phase with
  | .start => if isBlank c then r else startValue r.stack c
  | .firstItem =>
    if isBlank c then r
    else if c = ']' then complete r.stack (.array .closed)
    else startValue (.items [] :: r.stack) c
  | .nextItem done =>
    if isBlank c then r
    else if c = ']' then breakItems r.stack done ⟨.trailingComma, .expectedValue⟩
    else startValue (.items done :: r.stack) c
  | .afterItem done =>
    if isBlank c then r
    else if c = ',' then ⟨r.stack, .nextItem done⟩
    else if c = ']' then complete r.stack (.array (Items.ofReversed done .closed))
    else breakItems r.stack done (.both .expectedListEnd)
  | .firstKey =>
    if isBlank c then r
    else if c = '\x7d' then complete r.stack (.object .closed)
    else if c = '"' then ⟨r.stack, .key [] .empty⟩
    else breakMembers r.stack [] (.both .keyNotString)
  | .nextKey done =>
    if isBlank c then r
    else if c = '\x7d' then breakMembers r.stack done ⟨.trailingComma, .keyNotString⟩
    else if c = '"' then ⟨r.stack, .key done .empty⟩
    else breakMembers r.stack done (.both .keyNotString)
  | .key done spelling =>
    match spelling.step c with
    | .more spelling => ⟨r.stack, .key done spelling⟩
    | .closed content => ⟨r.stack, .colon done content⟩
    | .broken b => breakMembers r.stack done b
  | .colon done key =>
    if isBlank c then r
    else if c = ':' then ⟨.members done key :: r.stack, .start⟩
    else breakColon r.stack done key (.both .expectedColon)
  | .afterMember done =>
    if isBlank c then r
    else if c = ',' then ⟨r.stack, .nextKey done⟩
    else if c = '\x7d' then complete r.stack (.object (Members.ofReversed done .closed))
    else breakMembers r.stack done (.both .expectedObjectEnd)
  | .string spelling =>
    match spelling.step c with
    | .more spelling => ⟨r.stack, .string spelling⟩
    | .closed content => complete r.stack (.string content)
    | .broken b => breakValue r.stack b
  -- Neither is met: a word is left with its last letter, and `step` keeps numerals to itself.
  | .word [] _ | .numeral _ => r
  | .word (expected :: rest) value =>
    if c ≠ expected then breakWord r.stack (.both .expectedWord)
    else if rest.isEmpty then complete r.stack value
    else ⟨r.stack, .word rest value⟩
  | .done root trailing => if isBlank c then r else ⟨[], .done root (trailing || true)⟩
  | .broken _ => r

/-- **One character.**  A character behind a numeral ends it and is then taken itself. -/
def step (r : Reader) (c : Char) : Reader :=
  match r.phase with
  | .numeral spelling =>
    match spelling.step c with
    | .more spelling => ⟨r.stack, .numeral spelling⟩
    | .ended => (complete r.stack (.number spelling.numeral)).stepSettled c
    | .invalid => breakWord r.stack (.both .invalidNumber)
  | _ => r.stepSettled c

/-- The end of the text where a numeral is not being read. -/
def finishSettled (r : Reader) : Document × Bool :=
  let broke (r : Reader) : Document × Bool :=
    match r.phase with
    | .broken root => (root, false)
    | _ => (.broken (.both .endInValue), false)
  match r.phase with
  | .start => broke (breakValue r.stack (.both .endInValue))
  | .numeral _ | .word _ _ => broke (breakWord r.stack (.both .endInValue))
  | .firstItem => broke (breakItems r.stack [] (.both .endInList))
  | .nextItem done => broke (breakItems r.stack done (.both .endInValue))
  | .afterItem done => broke (breakItems r.stack done (.both .endInList))
  | .firstKey => broke (breakMembers r.stack [] (.both .endInObject))
  | .nextKey done => broke (breakMembers r.stack done ⟨.endInValue, .endInObject⟩)
  | .key done spelling => broke (breakMembers r.stack done (spelling.breakOff .endInString))
  | .colon done key => broke (breakColon r.stack done key (.both .endInObject))
  | .afterMember done => broke (breakMembers r.stack done (.both .endInObject))
  | .string spelling => broke (breakValue r.stack (spelling.breakOff .endInString))
  | .done root trailing => (root, trailing)
  | .broken root => (root, false)

/-- **The end of the text**: the document, and whether anything but blanks follows it.  A numeral
has no closing sign, so it is settled here if it may end where it stands. -/
def finish (r : Reader) : Document × Bool :=
  match r.phase with
  | .numeral spelling =>
    if spelling.place.accepts then
      (complete r.stack (.number spelling.numeral)).finishSettled
    else (breakWord r.stack ⟨.endInValue, .invalidNumber⟩).finishSettled
  | _ => r.finishSettled

end Reader

/-- **A text as it was read.**  What follows the document is kept apart from it, since it is
reported only when nothing in the document is wrong. -/
structure Text where
  document : Document
  /-- Whether anything but blanks follows the document. -/
  trailing : Bool

/-- **Reads a text.**  This never fails: what is wrong with the text stands in the document at its
place, for whoever comes there. -/
def readText (text : String) : Text :=
  let (document, trailing) := (text.toList.foldl Reader.step Reader.initial).finish
  ⟨document, trailing⟩

end WireHeaders.Json
